import EpsBridge.Proofs.Engine.Settled
import EpsBridge.Proofs.Engine.Teardown
import EpsBridge.Proofs.Threads.OnHost

/-!
# One instance at a time

Any number of threads run engines, each under the engine lock.  An engine may answer
its calls as it likes, as long as it returns, so `lockWorld` leaves its answers open and
keeps the lock alone.

Two things make runs exclusive.  A run takes the lock before it creates an instance, and
gives the lock back when it has no instance any more (`keeps_invoke`, about one run by
itself).  And the lock has one owner at most, who is the only thread with an instance
(`Guarded`, an invariant of every step of every thread).
-/

namespace EpsBridge

open Program Program.Exchange

variable {ε : Type}

namespace Program.Exchange

/-- Whether an engine was called, for an instance of its own or to make one. -/
def callsEngine : Exchange ε → Bool
  | ⟨.create _, _⟩ | ⟨.start _ _ _ _, _⟩ | ⟨.stop _ _ _, _⟩ | ⟨.discard _ _ _, _⟩ => true
  | _ => false

/-- Whether a call of an engine panicked. -/
def panics : Exchange ε → Bool
  | ⟨.create _, answer⟩ => match answer with | .panic _ => true | _ => false
  | ⟨.start _ _ _ _, answer⟩ => match answer.1 with | .panic _ => true | _ => false
  | ⟨.stop _ _ _, answer⟩ => match answer.1 with | .panic _ => true | _ => false
  | ⟨.discard _ _ false, answer⟩ => match answer with | .panic _ => true | _ => false
  | _ => false

end Program.Exchange

/-! ## What was taken and not yet given back -/

/-- Whether somebody with such a past holds the engine lock. -/
def holdsLock (past : List (Exchange ε)) : Bool :=
  past.foldl (fun held exchange =>
    match exchange.action with
    | .lockEngine => true
    | .unlockEngine => false
    | _ => held) false

/-- The number of instances that were made and not yet discarded. -/
def outstanding (past : List (Exchange ε)) : Int := past.countP makes - past.countP discards

theorem outstanding_append (past more : List (Exchange ε)) :
    outstanding (past ++ more) = outstanding past + outstanding more := by
  rw [outstanding, outstanding, outstanding, List.countP_append, List.countP_append]
  omega

theorem holdsLock_append_singleton (past : List (Exchange ε)) (exchange : Exchange ε) :
    holdsLock (past ++ [exchange]) =
      match exchange.action with
      | .lockEngine => true
      | .unlockEngine => false
      | _ => holdsLock past := by
  rw [holdsLock, List.foldl_append]
  rfl

theorem holdsLock_of_callsEngine {exchange : Exchange ε} (hcalls : exchange.callsEngine = true)
    (past : List (Exchange ε)) : holdsLock (past ++ [exchange]) = holdsLock past := by
  obtain ⟨action, answer⟩ := exchange
  rw [holdsLock_append_singleton]
  cases action <;> first | rfl | cases hcalls

/-! ## One run by itself -/

/-- What a run may do next: it takes the lock once, deals with its engine only while it
holds the lock, and gives the lock back when it has no instance. -/
def runPermits (engine : ε) (past : List (Exchange ε)) : Action ε → Prop
  | .lockEngine => holdsLock past = false
  | .unlockEngine => holdsLock past = true ∧ outstanding past = 0
  | .create other => other = engine ∧ holdsLock past = true ∧ outstanding past = 0
  | .start other _ _ _ | .stop other _ _ => other = engine ∧ holdsLock past = true
  | .discard other _ _ => other = engine ∧ holdsLock past = true ∧ outstanding past = 1
  | _ => False

/-- The exchanges and the outcome that a run ends with. -/
inductive Concluded (engine : ε) (arguments : Arguments) :
    List (Exchange ε) → Outcome Error Capture → Prop
  /-- Arguments that cannot be passed are refused before anything is exchanged. -/
  | refused {error : Error} (hargv : arguments.argv = .error error) :
      Concluded engine arguments [] (.error error)
  /-- Others lead to a settled run under the engine lock. -/
  | ran {argv : List String} {calls : List (Exchange ε)} {outcome : Outcome Error Capture}
      (hargv : arguments.argv = .ok argv) (hsettled : Settled engine argv calls outcome) :
      Concluded engine arguments (underLock calls) outcome

/-- A run, begun under the lock, gets to the point where it has no instance. -/
theorem keeps_createAndRun (engine : ε) (argv : List String) :
    (createAndRun engine argv).Keeps (runPermits engine) (fun exchange => exchange.panics = false)
      (fun past outcome => holdsLock past = true ∧ outstanding past = 0 ∧
        ∃ calls, past = ⟨.lockEngine, ()⟩ :: calls ∧ Settled engine argv calls outcome)
      [⟨.lockEngine, ()⟩] := by
  refine .perform ⟨rfl, rfl, rfl⟩ fun created hcreated => ?_
  cases created with
  | panic message => cases hcreated
  | error code => exact ⟨rfl, rfl, _, rfl, .notCreated code⟩
  | ok handle =>
      refine .perform ⟨rfl, rfl⟩ fun started hstarted => ?_
      obtain ⟨status | error | message, early⟩ := started
      · refine .perform ⟨rfl, rfl⟩ fun stopped hstopped => ?_
        obtain ⟨exit | nothing | message, late⟩ := stopped
        · -- started and stopped, with whatever status: it is discarded next
          refine .perform ⟨rfl, rfl, rfl⟩ fun discarded hdiscarded => ?_
          obtain _ | nothing | message := discarded
          · exact ⟨rfl, rfl, _, rfl, settled_concludeRun engine argv handle status exit early late⟩
          · exact nothing.elim
          · cases hdiscarded
        · exact nothing.elim
        · cases hstopped
      · refine .perform ⟨rfl, rfl, rfl⟩ fun discarded hdiscarded => ?_
        obtain _ | nothing | message := discarded
        · exact ⟨rfl, rfl, _, rfl, .notConfigured handle error early⟩
        · exact nothing.elim
        · cases hdiscarded
      · cases hstarted

theorem keeps_invoke (engine : ε) (arguments : Arguments) :
    (invoke engine arguments).Keeps (runPermits engine) (fun exchange => exchange.panics = false)
      (Concluded engine arguments) [] := by
  unfold invoke
  cases hargv : arguments.argv with
  | error error => exact .refused hargv
  | ok argv =>
      refine .perform rfl fun _ _ => ?_
      refine (keeps_createAndRun engine argv).bind fun past outcome hran => ?_
      obtain ⟨hholds, hnone, calls, rfl, hsettled⟩ := hran
      exact .perform ⟨hholds, hnone⟩ fun _ _ => .ran hargv hsettled

theorem holdsLock_of_concluded {engine : ε} {arguments : Arguments} {past : List (Exchange ε)}
    {outcome : Outcome Error Capture} (hconcluded : Concluded engine arguments past outcome) :
    holdsLock past = false := by
  cases hconcluded with
  | refused hargv => rfl
  | ran hargv hsettled => cases hsettled <;> rfl

theorem holdsLock_of_runPermits {engine : ε} {past : List (Exchange ε)} {exchange : Exchange ε}
    (hpermits : runPermits engine past exchange.action) (hcalls : exchange.callsEngine = true) :
    holdsLock past = true := by
  obtain ⟨action, answer⟩ := exchange
  cases action with
  | create engine | discard engine handle unwinding => exact hpermits.2.1
  | start engine handle argv capture | stop engine handle capture => exact hpermits.2
  | _ => cases hcalls

/-! ## Many runs -/

/-- Engines that share a lock, of which the state says whether it is taken.  It is given
to whoever asks while it is free.  Engines answer as they like, and return. -/
def lockWorld (ε α : Type) : World ε α Bool where
  answers execution _ exchange taken :=
    exchange.panics = false ∧
      match exchange.action with
      | .lockEngine => execution.state = false ∧ taken = true
      | .unlockEngine => taken = false
      | _ => taken = execution.state
  drifts _ _ := False

/-- The lock has the owner that it should have, and what there is of instances is the
owner's. -/
structure Guarded (execution : Execution ε (Outcome Error Capture) Bool) (owner : Option Nat) :
    Prop where
  lock : execution.state = owner.isSome
  holds : ∀ thread, holdsLock (execution.past thread) = true ↔ owner = some thread
  others : ∀ thread, owner ≠ some thread → outstanding (execution.past thread) = 0
  one : ∀ thread, outstanding (execution.past thread) = 0 ∨
    outstanding (execution.past thread) = 1
  total : outstanding (execution.history.map Entry.exchange) =
    owner.elim 0 fun thread => outstanding (execution.past thread)

namespace Guarded

variable {execution later : Execution ε (Outcome Error Capture) Bool} {owner next : Option Nat}
  {thread : Nat} {exchange : Exchange ε} {rest : Program ε (Outcome Error Capture)} {taken : Bool}

theorem start (programs : List (Program ε (Outcome Error Capture))) :
    Guarded (Execution.start programs false) none where
  lock := rfl
  holds _ := iff_of_false Bool.false_ne_true nofun
  others _ _ := rfl
  one _ := .inl rfl
  total := rfl

/-- Where a thread acts that owns the lock, or that nobody keeps from it, all there is of
instances is its own. -/
theorem total_eq (hguarded : Guarded execution owner)
    (howner : owner = none ∨ owner = some thread) :
    outstanding (execution.history.map Entry.exchange) = outstanding (execution.past thread) := by
  rw [hguarded.total]
  rcases howner with rfl | rfl
  · exact (hguarded.others thread nofun).symm
  · rfl

/-- One exchange of one thread: other threads are as they were, and the invariant is about
this one alone. -/
theorem record (hguarded : Guarded execution owner)
    (howner : owner = none ∨ owner = some thread) (hnext : next = none ∨ next = some thread)
    (hlock : taken = next.isSome)
    (hholds : holdsLock (execution.past thread ++ [exchange]) = true ↔ next = some thread)
    (hone : outstanding (execution.past thread ++ [exchange]) = 0 ∨
      outstanding (execution.past thread ++ [exchange]) = 1)
    (hgiven : next = none → outstanding (execution.past thread ++ [exchange]) = 0) :
    Guarded (execution.record thread exchange rest taken) next := by
  have hself := Execution.past_record_self execution thread exchange rest taken
  have hsame : ∀ other, other ≠ thread →
      (execution.record thread exchange rest taken).past other = execution.past other :=
    fun other hother => Execution.past_record_of_ne _ hother _ _ _
  -- the lock passes between nobody and this thread, so no other thread has it or gets it
  have hidle : ∀ other, other ≠ thread → owner ≠ some other ∧ next ≠ some other := by
    intro other hother
    constructor
    · rcases howner with rfl | rfl <;> simp [Ne.symm hother]
    · rcases hnext with rfl | rfl <;> simp [Ne.symm hother]
  constructor
  case lock => exact hlock
  case holds =>
    intro other
    by_cases hother : other = thread
    · rw [hother, hself, hholds]
    · rw [hsame other hother, hguarded.holds other]
      exact iff_of_false (hidle other hother).1 (hidle other hother).2
  case others =>
    intro other hfree
    by_cases hother : other = thread
    · subst hother
      rw [hself]
      exact hgiven (hnext.resolve_right hfree)
    · rw [hsame other hother]
      exact hguarded.others other (hidle other hother).1
  case one =>
    intro other
    by_cases hother : other = thread
    · rw [hother, hself]
      exact hone
    · rw [hsame other hother]
      exact hguarded.one other
  case total =>
    have htotal : outstanding ((execution.record thread exchange rest taken).history.map
        Entry.exchange) = outstanding (execution.past thread ++ [exchange]) := by
      calc outstanding ((execution.record thread exchange rest taken).history.map Entry.exchange)
          = outstanding (execution.history.map Entry.exchange ++ [exchange]) := by
            rw [Execution.record, List.map_append]
            rfl
        _ = outstanding (execution.history.map Entry.exchange) + outstanding [exchange] :=
            outstanding_append _ _
        _ = outstanding (execution.past thread) + outstanding [exchange] := by
            rw [hguarded.total_eq howner]
        _ = outstanding (execution.past thread ++ [exchange]) :=
            (outstanding_append _ _).symm
    rw [htotal]
    rcases hnext with rfl | rfl
    · exact hgiven rfl
    · exact congrArg outstanding hself.symm

/-- A thread that may call its engine owns the lock, and owns it afterwards. -/
theorem record_of_callsEngine (hguarded : Guarded execution owner)
    (hholds : holdsLock (execution.past thread) = true) (hcalls : exchange.callsEngine = true)
    (hone : outstanding (execution.past thread ++ [exchange]) = 0 ∨
      outstanding (execution.past thread ++ [exchange]) = 1) :
    Guarded (execution.record thread exchange rest execution.state) (some thread) := by
  have howner := (hguarded.holds thread).mp hholds
  refine hguarded.record (.inr howner) (.inr rfl) ?_ ?_ hone nofun
  · rw [hguarded.lock, howner]
  · rw [holdsLock_of_callsEngine hcalls]
    exact iff_of_true hholds rfl

/-- An exchange that a run may make, answered as it may be, keeps the invariant. -/
theorem exists_record {engine : ε} {action : Action ε} {answer : action.Answer}
    (hguarded : Guarded execution owner)
    (hpermits : runPermits engine (execution.past thread) action)
    (hanswer : (lockWorld ε _).answers execution thread ⟨action, answer⟩ taken) :
    ∃ next, Guarded (execution.record thread ⟨action, answer⟩ rest taken) next := by
  obtain ⟨-, hanswer⟩ := hanswer
  have hone := hguarded.one thread
  cases action with
  | lockEngine =>
      obtain ⟨hfree, rfl⟩ := hanswer
      have hnobody : owner = none := by
        rw [hguarded.lock] at hfree
        simpa using hfree
      have hnone := hguarded.others thread (by rw [hnobody]; exact nofun)
      refine ⟨some thread, hguarded.record (.inl hnobody) (.inr rfl) rfl ?_ ?_ nofun⟩
      · rw [holdsLock_append_singleton]
        exact iff_of_true rfl rfl
      · rw [outstanding_append, hnone]
        exact .inl rfl
  | unlockEngine =>
      obtain ⟨hholds, hnone⟩ := hpermits
      obtain rfl : taken = false := hanswer
      have hgiven : outstanding (execution.past thread ++ [⟨.unlockEngine, answer⟩]) = 0 := by
        rw [outstanding_append, hnone]
        rfl
      refine ⟨none, hguarded.record (.inr ((hguarded.holds thread).mp hholds)) (.inl rfl) rfl ?_
        (.inl hgiven) fun _ => hgiven⟩
      rw [holdsLock_append_singleton]
      exact iff_of_false Bool.false_ne_true nofun
  | create other =>
      obtain ⟨-, hholds, hnone⟩ := hpermits
      obtain rfl : taken = execution.state := hanswer
      refine ⟨some thread, hguarded.record_of_callsEngine hholds rfl ?_⟩
      rw [outstanding_append, hnone]
      cases answer with
      | ok handle => exact .inr rfl
      | error code | panic message => exact .inl rfl
  | start other handle argv capture | stop other handle capture =>
      obtain rfl : taken = execution.state := hanswer
      refine ⟨some thread, hguarded.record_of_callsEngine hpermits.2 rfl ?_⟩
      rw [outstanding_append]
      exact hone.imp (fun hnone => by rw [hnone]; rfl) (fun hsome => by rw [hsome]; rfl)
  | discard other handle unwinding =>
      obtain ⟨-, hholds, hsome⟩ := hpermits
      obtain rfl : taken = execution.state := hanswer
      refine ⟨some thread, hguarded.record_of_callsEngine hholds rfl (.inl ?_)⟩
      rw [outstanding_append, hsome]
      rfl
  | _ => exact hpermits.elim

end Guarded

/-- The programs of threads that run engines. -/
def runs (calls : List (ε × Arguments)) : List (Program ε (Outcome Error Capture)) :=
  calls.map fun (engine, arguments) => invoke engine arguments

/-- What the thread with one of these programs may do next. -/
def runsPermit (calls : List (ε × Arguments)) (thread : Nat) (past : List (Exchange ε))
    (action : Action ε) : Prop :=
  ∃ engine arguments, calls[thread]? = some (engine, arguments) ∧ runPermits engine past action

section Reached

variable {calls : List (ε × Arguments)} {σ : Type} {world : World ε (Outcome Error Capture) σ}
  {state : σ}

/-- Every thread keeps to the rule of a single run, whatever the others do. -/
theorem keepsAll_runs {execution : Execution ε (Outcome Error Capture) σ}
    (hreturns : ∀ (execution : Execution ε (Outcome Error Capture) σ) thread exchange after,
      runsPermit calls thread (execution.past thread) exchange.action →
      world.answers execution thread exchange after → exchange.panics = false)
    (hreaches : Reaches world (.start (runs calls) state) execution) :
    KeepsAll (runsPermit calls) (fun _ exchange => exchange.panics = false)
      (fun thread past outcome => ∃ engine arguments,
        calls[thread]? = some (engine, arguments) ∧ Concluded engine arguments past outcome)
      execution := by
  refine keepsAll_of_reaches hreturns (keepsAll_start ?_) hreaches
  intro thread program hprogram
  rw [runs, List.getElem?_map, Option.map_eq_some_iff] at hprogram
  obtain ⟨⟨engine, arguments⟩, hcall, rfl⟩ := hprogram
  exact (keeps_invoke engine arguments).mono
    (fun past action hpermits => ⟨engine, arguments, hcall, hpermits⟩)
    fun past outcome hconcluded => ⟨engine, arguments, hcall, hconcluded⟩

variable {execution : Execution ε (Outcome Error Capture) Bool}

/-- Where engines return, every thread ends its run as a run ends. -/
theorem keepsAll_lockWorld
    (hreaches : Reaches (lockWorld ε _) (.start (runs calls) false) execution) :
    KeepsAll (runsPermit calls) (fun _ exchange => exchange.panics = false)
      (fun thread past outcome => ∃ engine arguments,
        calls[thread]? = some (engine, arguments) ∧ Concluded engine arguments past outcome)
      execution := by
  refine keepsAll_runs ?_ hreaches
  intro execution thread exchange after hpermits hanswer
  exact hanswer.1

theorem exists_guarded
    (hreaches : Reaches (lockWorld ε _) (.start (runs calls) false) execution) :
    ∃ owner, Guarded execution owner := by
  induction hreaches with
  | refl => exact ⟨none, .start _⟩
  | tail hearlier hstep ih =>
      obtain ⟨owner, hguarded⟩ := ih
      cases hstep with
      | drift hdrift => exact hdrift.elim
      | act hprogram hanswer =>
          obtain ⟨engine, arguments, -, hpermits⟩ := (keepsAll_lockWorld hearlier _ _ hprogram).1
          exact hguarded.exists_record hpermits hanswer

end Reached

/-- Runs of engines of which never two are under way at a time. -/
structure OneAtATime (calls : List (ε × Arguments))
    (execution : Execution ε (Outcome Error Capture) Bool) : Prop where
  /-- No more than one instance is there that was made and not yet discarded. -/
  live : 0 ≤ outstanding (execution.history.map Entry.exchange) ∧
    outstanding (execution.history.map Entry.exchange) ≤ 1
  /-- Whenever an engine was called, no other thread had an instance. -/
  apart : ∀ before entry after, execution.history = before ++ entry :: after →
    entry.exchange.callsEngine = true →
    ∀ thread, thread ≠ entry.thread → outstanding (pastOf before thread) = 0
  /-- While every thread is before its run or behind it, the lock is free and no instance
  is there. -/
  idle : (∀ thread (program : Program ε (Outcome Error Capture)),
      execution.programs[thread]? = some program →
        execution.past thread = [] ∨ ∃ outcome, program = .done outcome) →
    execution.state = false ∧ outstanding (execution.history.map Entry.exchange) = 0
  /-- A thread has the outcome of the calls that it made itself, on its own instance. -/
  outcome : ∀ (thread : Nat) (engine : ε) (arguments : Arguments) (outcome),
    calls[thread]? = some (engine, arguments) →
    execution.programs[thread]? = some (.done outcome) →
    Concluded engine arguments (execution.past thread) outcome

/-- **One instance at a time.**  However many threads run engines, whatever their engines
answer as long as they return, and however their steps interleave: never is there more than
one instance, and nobody calls an engine while another thread has one. -/
theorem oneAtATime_of_reaches (calls : List (ε × Arguments))
    (execution : Execution ε (Outcome Error Capture) Bool)
    (hreaches : Reaches (lockWorld ε _) (.start (runs calls) false) execution) :
    OneAtATime calls execution := by
  have hkeeps := keepsAll_lockWorld hreaches
  obtain ⟨owner, hguarded⟩ := exists_guarded hreaches
  constructor
  case live =>
    rw [hguarded.total]
    cases owner with
    | none => exact ⟨Int.le_refl 0, Int.zero_le_ofNat 1⟩
    | some thread =>
        change 0 ≤ outstanding (execution.past thread) ∧ outstanding (execution.past thread) ≤ 1
        rcases hguarded.one thread with hnone | hsome
        · omega
        · omega
  case apart =>
    -- the thread that calls had the lock at the time, so no other thread had it
    intro before entry after hhistory hcalls thread hthread
    obtain ⟨earlier, next, hearlier, rfl, hprogram, -⟩ :=
      exists_reaches_of_mem_history hreaches rfl hhistory
    obtain ⟨owner, hguarded⟩ := exists_guarded hearlier
    obtain ⟨engine, arguments, -, hpermits⟩ := (keepsAll_lockWorld hearlier _ _ hprogram).1
    have howner := (hguarded.holds entry.thread).mp (holdsLock_of_runPermits hpermits hcalls)
    refine hguarded.others thread fun hother => hthread ?_
    exact Option.some.inj (hother.symm.trans howner)
  case idle =>
    -- an owner would be in the middle of its run
    intro hidle
    have hnobody : owner = none := by
      cases howner : owner with
      | none => rfl
      | some thread =>
          have hholds := (hguarded.holds thread).mpr howner
          have hfree : holdsLock (execution.past thread) = false := by
            cases hprogram : execution.programs[thread]? with
            | none => rw [past_eq_nil_of_reaches hreaches rfl hprogram]; rfl
            | some program =>
                rcases hidle thread program hprogram with hnil | ⟨outcome, rfl⟩
                · rw [hnil]; rfl
                · obtain ⟨engine, arguments, -, hconcluded⟩ := hkeeps thread _ hprogram
                  exact holdsLock_of_concluded hconcluded
          rw [hfree] at hholds
          cases hholds
    subst hnobody
    exact ⟨hguarded.lock, hguarded.total⟩
  case outcome =>
    intro thread engine arguments outcome hcall hprogram
    obtain ⟨engine', arguments', hcall', hconcluded⟩ := hkeeps thread _ hprogram
    cases hcall.symm.trans hcall'
    exact hconcluded

/-! ## Runs on a host -/

/-- A call of an engine on a host has nothing to do with the lock. -/
theorem engineLocked_of_callsEngine {thread : Nat} {exchange : Exchange EngineRef}
    {host after : Host} (hcalls : exchange.callsEngine = true)
    (hanswer : Host.handle thread exchange.action host = (exchange.answer, after)) :
    after.engineLocked = host.engineLocked := by
  obtain ⟨action, answer⟩ := exchange
  cases action with
  | create engine | start engine handle argv capture | stop engine handle capture =>
      cases engine <;> exact congrArg (·.2.engineLocked) hanswer.symm
  | discard engine handle unwinding =>
      cases unwinding <;> cases engine <;> exact congrArg (·.2.engineLocked) hanswer.symm
  | _ => cases hcalls

/-- An engine whose calls return on the host does not panic when it is called. -/
theorem panics_of_returns {thread : Nat} {engine : EngineRef} {past : List (Exchange EngineRef)}
    {exchange : Exchange EngineRef} {host after : Host}
    (hreturns : Returns (Host.handle thread) engine)
    (hpermits : runPermits engine past exchange.action)
    (hanswer : Host.handle thread exchange.action host = (exchange.answer, after)) :
    exchange.panics = false := by
  obtain ⟨action, answer⟩ := exchange
  have hanswered := (congrArg Prod.fst hanswer).symm
  cases action with
  | create other =>
      obtain ⟨rfl, -⟩ := hpermits
      cases answer with
      | ok handle | error code => rfl
      | panic message => exact absurd hanswered.symm (hreturns.create host message)
  | start other handle argv capture =>
      obtain ⟨rfl, -⟩ := hpermits
      obtain ⟨status | error | message, written⟩ := answer
      · rfl
      · rfl
      · exact absurd (congrArg Prod.fst hanswered).symm (hreturns.start handle argv capture host _)
  | stop other handle capture =>
      obtain ⟨rfl, -⟩ := hpermits
      obtain ⟨status | error | message, written⟩ := answer
      · rfl
      · rfl
      · exact absurd (congrArg Prod.fst hanswered).symm (hreturns.stop handle capture host _)
  | discard other handle unwinding =>
      obtain ⟨rfl, -⟩ := hpermits
      cases unwinding with
      | true => rfl
      | false =>
          obtain rfl := hreturns.discarded hanswer
          rfl
  | _ => rfl

/-- Threads that run engines on a host, under any schedule, are among the executions that
share a lock. -/
theorem reaches_lockWorld_follow (calls : List (EngineRef × Arguments)) (host : Host)
    (hfree : host.engineLocked = false)
    (hreturns : ∀ engine arguments, (engine, arguments) ∈ calls →
      ∀ thread, Returns (Host.handle thread) engine) (schedule : List Nat) :
    ∃ history, Reaches (lockWorld EngineRef _) (.start (runs calls) false)
      ⟨((Threads.mk (runs calls) host).follow schedule).programs, history,
        ((Threads.mk (runs calls) host).follow schedule).host.engineLocked⟩ := by
  obtain ⟨history, hreaches⟩ := reaches_follow ⟨runs calls, host⟩ schedule
  have hpanics : ∀ (execution : Execution EngineRef (Outcome Error Capture) Host) thread
      exchange after, runsPermit calls thread (execution.past thread) exchange.action →
      (hostWorld _).answers execution thread exchange after → exchange.panics = false := by
    rintro execution thread exchange after ⟨engine, arguments, hcall, hpermits⟩ ⟨-, hanswer⟩
    exact panics_of_returns (hreturns engine arguments (List.mem_of_getElem? hcall) thread)
      hpermits hanswer
  have hcoarse := reaches_map (hostWorld _) (lockWorld EngineRef _) Host.engineLocked ?_
    (fun _ _ hdrift => False.elim hdrift) hreaches
  · rw [← hfree]
    exact ⟨_, hcoarse⟩
  · intro earlier thread exchange next after hearlier hprogram hanswer
    have hpermits := (keepsAll_runs hpanics hearlier _ _ hprogram).1
    refine ⟨hpanics _ _ _ _ hpermits hanswer, ?_⟩
    obtain ⟨engine, arguments, -, hpermits⟩ := hpermits
    obtain ⟨hfree, hanswer⟩ := hanswer
    obtain ⟨action, answer⟩ := exchange
    cases action with
    | lockEngine =>
        refine ⟨?_, congrArg (·.2.engineLocked) hanswer.symm⟩
        change earlier.state.engineLocked = false
        simpa [Host.permits] using hfree
    | unlockEngine => exact congrArg (·.2.engineLocked) hanswer.symm
    | create other | start other handle argv capture | stop other handle capture
    | discard other handle => exact engineLocked_of_callsEngine rfl hanswer
    | _ => exact hpermits.elim

/-- Two runs, of which one quits while it starts and fails. -/
def twoRuns : List (EngineRef × Arguments) :=
  [(.fixture 0 .quitting, ⟨["a.eps"]⟩), (.fixture 1 .default, ⟨["b.eps"]⟩)]

/-- Both runs end when their threads step in turn, and never was there more than one
instance. -/
theorem oneAtATime_of_reaches_twoRuns :
    ∃ execution, Reaches (lockWorld EngineRef _) (.start (runs twoRuns) false) execution ∧
      execution.programs =
        [.done (.error (.execution (-12) "halt")), .done (.ok .empty)] ∧
      OneAtATime twoRuns execution := by
  have hreturns : ∀ engine arguments, (engine, arguments) ∈ twoRuns →
      ∀ thread, Returns (Host.handle thread) engine := by
    intro engine arguments hcall thread
    simp only [twoRuns, List.mem_cons, List.not_mem_nil, or_false, Prod.mk.injEq] at hcall
    rcases hcall with ⟨rfl, rfl⟩ | ⟨rfl, rfl⟩
    · exact returns_fixture rfl thread 0
    · exact returns_fixture rfl thread 1
  obtain ⟨history, hreaches⟩ := reaches_lockWorld_follow twoRuns (.start default [] .default) rfl
    hreturns [0, 1, 0, 1, 0, 1, 0, 1, 0, 1, 0, 1, 1, 1, 1, 1, 1]
  exact ⟨_, hreaches, rfl, oneAtATime_of_reaches twoRuns _ hreaches⟩

end EpsBridge
