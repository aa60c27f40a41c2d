/-!
# Outcomes

A call that leaves this library's hands, to an engine or to a worker, may return
a value, return an error, or panic.  A panic is an outcome like the others: it
carries a message, and what has to be cleaned up is cleaned up all the same.
-/

namespace EpsBridge

/-- How a call ended. -/
inductive Outcome (ε α : Type) where
  | ok (value : α)
  | error (error : ε)
  | panic (message : String)
deriving DecidableEq, Repr

namespace Outcome

variable {ε α β : Type}

/-- Goes on with the value, if there is one. -/
def bind (outcome : Outcome ε α) (next : α → Outcome ε β) : Outcome ε β :=
  match outcome with
  | ok value => next value
  | error e => error e
  | panic message => panic message

/-- Applies a function to the value. -/
def map (f : α → β) (outcome : Outcome ε α) : Outcome ε β :=
  outcome.bind fun value => ok (f value)

instance : Monad (Outcome ε) where
  pure := ok
  bind := bind

/-- The outcome, unless what had to be done after it has panicked. -/
def unlessPanicked (outcome : Outcome ε α) : Outcome Empty Unit → Outcome ε α
  | ok () => outcome
  | panic message => panic message

/-- The outcome of a result. -/
def ofExcept : Except ε α → Outcome ε α
  | .ok value => ok value
  | .error e => error e

/-- Whether a value was returned. -/
def isOk : Outcome ε α → Bool
  | ok _ => true
  | _ => false

/-- Turns a panic into an error. -/
def recover (ofPanic : String → ε) : Outcome ε α → Except ε α
  | ok value => .ok value
  | error e => .error e
  | panic message => .error (ofPanic message)

end Outcome

end EpsBridge
