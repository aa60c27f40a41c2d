import EpsBridge.Host
import EpsBridge.Proofs.Engine.Course

/-!
# Teardown

An instance that was made is to be discarded once, and stopped before that if it
was started, whether the calls on the way return or panic.  `TornDown` says so of
the exchanges of a run.

A panic while creating or starting is caught up with: what there is of an instance
is discarded, and a panic while that is done comes too late to matter.  A panic while
stopping is not.  The run counts as torn down from
before the stop on, so the instance is left behind, and `tornDown_trace_iff` says
that no other run leaves one.
-/

namespace EpsBridge

open Program

variable {ε σ : Type}

namespace Program.Exchange

/-- Whether an instance was made. -/
def makes : Exchange ε → Bool
  | ⟨.create _, answer⟩ => Outcome.isOk answer
  | _ => false

/-- Whether an instance was started, with whatever status. -/
def starts : Exchange ε → Bool
  | ⟨.start _ _ _ _, answer⟩ => Outcome.isOk answer.1
  | _ => false

/-- Whether an instance was told to stop. -/
def stops : Exchange ε → Bool
  | ⟨.stop _ _ _, _⟩ => true
  | _ => false

/-- Whether an engine panicked while it was to stop an instance. -/
def failsToStop : Exchange ε → Bool
  | ⟨.stop _ _ _, answer⟩ => !Outcome.isOk answer.1
  | _ => false

/-- Whether an instance was discarded, with whatever answer. -/
def discards : Exchange ε → Bool
  | ⟨.discard _ _ _, _⟩ => true
  | _ => false

end Program.Exchange

open Program.Exchange

variable {handler : Handler ε σ} {engine : ε} {argv : List String} {state ended : σ}
  {calls : List (Exchange ε)} {outcome : Outcome Error Capture}

/-- Exchanges that leave no instance behind and stop none that was not started. -/
structure TornDown (calls : List (Exchange ε)) : Prop where
  discarded : calls.countP discards = if calls.any makes then 1 else 0
  stopped_once : calls.countP stops ≤ 1
  stopped_started : calls.any stops → calls.any starts

/-- An instance is discarded once unless the stop panicked, and then not at all. -/
theorem countP_discards_of_course (hcourse : Course handler engine argv state calls outcome ended) :
    calls.countP discards = if calls.any makes && !calls.any failsToStop then 1 else 0 := by
  cases hcourse <;> simp [makes, discards, failsToStop, Outcome.isOk]

/-- An instance is stopped at most once, and none that was not started. -/
theorem stops_of_course (hcourse : Course handler engine argv state calls outcome ended) :
    calls.countP stops ≤ 1 ∧ (calls.any stops → calls.any starts) := by
  cases hcourse <;> simp [List.countP_cons, stops, starts, Outcome.isOk]

/-- What was told to stop and panicked was made before. -/
theorem makes_of_failsToStop (hcourse : Course handler engine argv state calls outcome ended)
    (hfails : calls.any failsToStop) : calls.any makes := by
  cases hcourse <;> simp_all [makes, failsToStop, Outcome.isOk]

theorem tornDown_iff_of_course (hcourse : Course handler engine argv state calls outcome ended) :
    TornDown calls ↔ calls.any failsToStop = false := by
  have hcount := countP_discards_of_course hcourse
  obtain ⟨honce, hstarted⟩ := stops_of_course hcourse
  cases hfails : calls.any failsToStop with
  | true =>
      rw [makes_of_failsToStop hcourse hfails, hfails] at hcount
      refine ⟨fun htorn => ?_, fun hnever => by cases hnever⟩
      have hdiscarded := htorn.discarded
      rw [makes_of_failsToStop hcourse hfails, hcount] at hdiscarded
      exact absurd hdiscarded (by decide)
  | false =>
      rw [hfails, Bool.not_false, Bool.and_true] at hcount
      exact ⟨fun _ => rfl, fun _ => ⟨hcount, honce, hstarted⟩⟩

/-! ## The engine lock has no part in it -/

theorem any_underLock (p : Exchange ε → Bool) (hlock : p ⟨.lockEngine, ()⟩ = false)
    (hunlock : p ⟨.unlockEngine, ()⟩ = false) (calls : List (Exchange ε)) :
    (underLock calls).any p = calls.any p := by
  rw [underLock, List.cons_append, List.any_cons, List.any_append, List.any_cons, List.any_nil,
    hlock, hunlock, Bool.false_or, Bool.or_false, Bool.or_false]

theorem countP_underLock (p : Exchange ε → Bool) (hlock : p ⟨.lockEngine, ()⟩ = false)
    (hunlock : p ⟨.unlockEngine, ()⟩ = false) (calls : List (Exchange ε)) :
    (underLock calls).countP p = calls.countP p := by
  rw [underLock, List.cons_append, List.countP_cons_of_neg (by simp [hlock]), List.countP_append,
    List.countP_cons_of_neg (by simp [hunlock]), List.countP_nil, Nat.add_zero]

theorem tornDown_underLock_iff (calls : List (Exchange ε)) :
    TornDown (underLock calls) ↔ TornDown calls := by
  have hdiscards := countP_underLock discards rfl rfl calls
  have hmakes := any_underLock makes rfl rfl calls
  have hcount := countP_underLock stops rfl rfl calls
  have hstops := any_underLock stops rfl rfl calls
  have hstarts := any_underLock starts rfl rfl calls
  constructor
  · rintro ⟨hdiscarded, honce, hstarted⟩
    rw [hdiscards, hmakes] at hdiscarded
    rw [hcount] at honce
    rw [hstops, hstarts] at hstarted
    exact ⟨hdiscarded, honce, hstarted⟩
  · rintro ⟨hdiscarded, honce, hstarted⟩
    rw [← hdiscards, ← hmakes] at hdiscarded
    rw [← hcount] at honce
    rw [← hstops, ← hstarts] at hstarted
    exact ⟨hdiscarded, honce, hstarted⟩

/-- **Teardown.**  A run leaves nothing behind if and only if the engine does not
panic while stopping. -/
theorem tornDown_trace_iff (handler : Handler ε σ) (engine : ε) (arguments : Arguments)
    (state : σ) :
    TornDown ((invoke engine arguments).trace handler state) ↔
      ((invoke engine arguments).trace handler state).any failsToStop = false := by
  cases hargv : arguments.argv with
  | error error =>
      rw [(invoke_of_argv_eq_error handler engine hargv state).1]
      exact ⟨fun _ => rfl, fun _ => ⟨rfl, Nat.zero_le 1, fun hstops => hstops⟩⟩
  | ok argv =>
      obtain ⟨calls, ended, htrace, hcourse, -⟩ := course_invoke handler engine hargv state
      rw [htrace, tornDown_underLock_iff, any_underLock failsToStop rfl rfl]
      exact tornDown_iff_of_course hcourse

/-- An engine that panics while it stops. -/
def Fixture.Script.stuck : Fixture.Script := { Script.default with panicsAt := some .stop }

/-- Its instance is made, and nobody discards it. -/
theorem not_tornDown_stuck :
    ¬ TornDown ((invoke (.fixture 0 .stuck) ⟨["a"]⟩).trace (Host.handle Host.firstThread)
      (.start default [] .default)) := by
  intro htorn
  exact absurd htorn.discarded (by decide)

end EpsBridge
