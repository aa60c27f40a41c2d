import EpsBridge.Engine.Fixture
import EpsBridge.Proofs.Engine.Capture
import EpsBridge.Proofs.Engine.Course

/-!
# Engines that play a scenario

Of an engine that never panics a run sees little: whether an instance is made and
configured, two statuses, and what is written in between.  A `Scenario` is that much, and
`Plays` says that the calls of an engine go that way.  The outcome of a run and the
arguments that reach the engine are then given by the scenario alone (`Plays.invoke`).

A scenario says when something is written, which the outcome does not
(`Scenario.Alike.outcome_eq`).
-/

namespace EpsBridge

open Program

variable {ε σ : Type}

/-- How the calls of a run go. -/
structure Scenario where
  creationError : Option Int32
  setupError : Option Int32
  startStatus : Int32
  stopStatus : Int32
  startWrites : List (Channel × ByteArray)
  stopWrites : List (Channel × ByteArray)

namespace Scenario

/-- What a run comes to. -/
def outcome (scenario : Scenario) : Outcome Error Capture :=
  match scenario.creationError, scenario.setupError with
  | some code, _ => .error (.instanceCreation code)
  | none, some code => .error (.instanceSetup Fixture.setupCall code)
  | none, none =>
    concludeRun scenario.startStatus scenario.stopStatus
      (Fixture.writeAll (Fixture.writeAll .empty scenario.startWrites) scenario.stopWrites)

/-- The arguments that reach an engine.  Without an instance that is configured there are
none. -/
def reached (scenario : Scenario) (argv : List String) : List (List String) :=
  match scenario.creationError, scenario.setupError with
  | none, none => [argv]
  | _, _ => []

/-- Scenarios that differ at most in when something is written. -/
structure Alike (first second : Scenario) : Prop where
  creationError : first.creationError = second.creationError
  setupError : first.setupError = second.setupError
  startStatus : first.startStatus = second.startStatus
  stopStatus : first.stopStatus = second.stopStatus
  written : ∀ channel, writtenTo channel (first.startWrites ++ first.stopWrites) =
    writtenTo channel (second.startWrites ++ second.stopWrites)

theorem Alike.outcome_eq {first second : Scenario} (halike : first.Alike second) :
    first.outcome = second.outcome := by
  have hcapture : Fixture.writeAll .empty (first.startWrites ++ first.stopWrites) =
      Fixture.writeAll .empty (second.startWrites ++ second.stopWrites) :=
    Capture.writeAll_withLimit_congr halike.written
  rw [Capture.writeAll_append, Capture.writeAll_append] at hcapture
  unfold outcome
  rw [halike.creationError, halike.setupError, halike.startStatus, halike.stopStatus, hcapture]

theorem Alike.reached_eq {first second : Scenario} (halike : first.Alike second)
    (argv : List String) : first.reached argv = second.reached argv := by
  rw [reached, reached, halike.creationError, halike.setupError]

end Scenario

/-- An invariant holds after a call, and the call passes some arguments to the engine. -/
structure Passes (holds : σ → Prop) (passed : σ → List (List String)) (before after : σ)
    (argvs : List (List String)) : Prop where
  holds : holds after
  passed : passed after = argvs ++ passed before

theorem Passes.trans {holds : σ → Prop} {passed : σ → List (List String)}
    {first second third : σ} {early late : List (List String)}
    (hearly : Passes holds passed first second early)
    (hlate : Passes holds passed second third late) :
    Passes holds passed first third (late ++ early) where
  holds := hlate.holds
  passed := by rw [hlate.passed, hearly.passed, List.append_assoc]

/-- The calls of an engine go as a scenario says, as long as an invariant holds, which they
keep up. -/
structure Plays (handler : Handler ε σ) (engine : ε) (holds : σ → Prop)
    (passed : σ → List (List String)) (scenario : Scenario) : Prop where
  create : ∀ state, holds state → ∃ handle after,
    handler (.create engine) state = (scenario.creationError.elim (.ok handle) .error, after) ∧
      Passes holds passed state after []
  startFails : ∀ state handle argv capture code, holds state → scenario.setupError = some code →
    ∃ after, handler (.start engine handle argv capture) state =
        ((.error (.instanceSetup Fixture.setupCall code), capture), after) ∧
      Passes holds passed state after []
  start : ∀ state handle argv capture, holds state → scenario.setupError = none →
    ∃ after, handler (.start engine handle argv capture) state =
        ((.ok scenario.startStatus, Fixture.writeAll capture scenario.startWrites), after) ∧
      Passes holds passed state after [argv]
  stop : ∀ state handle capture, holds state →
    ∃ after, handler (.stop engine handle capture) state =
        ((.ok scenario.stopStatus, Fixture.writeAll capture scenario.stopWrites), after) ∧
      Passes holds passed state after []
  discard : ∀ state handle, holds state →
    ∃ after, handler (.discard engine handle false) state = (.ok (), after) ∧
      Passes holds passed state after []
  lock : ∀ state, holds state → Passes holds passed state (handler .lockEngine state).2 []
  unlock : ∀ state, holds state → Passes holds passed state (handler .unlockEngine state).2 []

namespace Plays

variable {handler : Handler ε σ} {engine : ε} {holds : σ → Prop}
  {passed : σ → List (List String)} {scenario : Scenario}

theorem createAndRun (hplays : Plays handler engine holds passed scenario) (argv : List String)
    {state : σ} (hholds : holds state) :
    ((createAndRun engine argv).run handler state).1 = scenario.outcome ∧
      Passes holds passed state ((createAndRun engine argv).run handler state).2
        (scenario.reached argv) := by
  obtain ⟨handle, created, hcreate, hcreated⟩ := hplays.create state hholds
  simp only [EpsBridge.createAndRun, perform, run_bind, run_act, run_done, hcreate]
  unfold Scenario.outcome Scenario.reached
  cases hcreation : scenario.creationError with
  | some code => exact ⟨rfl, hcreated⟩
  | none =>
      simp only [Option.elim_none, runInstance, perform, run_bind, run_act, run_done]
      cases hsetup : scenario.setupError with
      | some code =>
          obtain ⟨started, hstart, hstarted⟩ :=
            hplays.startFails created handle argv .empty code hcreated.holds hsetup
          obtain ⟨ended, hdiscard, hdiscarded⟩ := hplays.discard started handle hstarted.holds
          rw [hstart]
          simp only [discardAfter, perform, run_bind, run_act, run_done, hdiscard]
          exact ⟨rfl, (hcreated.trans hstarted).trans hdiscarded⟩
      | none =>
          obtain ⟨started, hstart, hstarted⟩ :=
            hplays.start created handle argv .empty hcreated.holds hsetup
          rw [hstart]
          simp only [finishRun, perform, run_bind, run_act, run_done]
          obtain ⟨stopped, hstop, hstopped⟩ := hplays.stop started handle
            (Fixture.writeAll .empty scenario.startWrites) hstarted.holds
          obtain ⟨ended, hdiscard, hdiscarded⟩ := hplays.discard stopped handle hstopped.holds
          rw [hstop]
          simp only [discardAfter, perform, run_bind, run_act, run_done, hdiscard]
          exact ⟨rfl, ((hcreated.trans hstarted).trans hstopped).trans hdiscarded⟩

/-- Arguments that can be passed reach the engine if the scenario comes that far. -/
theorem invoke (hplays : Plays handler engine holds passed scenario) {arguments : Arguments}
    {argv : List String} (hargv : arguments.argv = .ok argv) {state : σ} (hholds : holds state) :
    ((invoke engine arguments).run handler state).1 = scenario.outcome ∧
      Passes holds passed state ((invoke engine arguments).run handler state).2
        (scenario.reached argv) := by
  have hlocked := hplays.lock state hholds
  obtain ⟨houtcome, hran⟩ := hplays.createAndRun argv hlocked.holds
  have hunlocked := hplays.unlock _ hran.holds
  simp only [EpsBridge.invoke, hargv, perform, run_bind, run_act, run_done, run_pure]
  exact ⟨houtcome, by simpa using (hlocked.trans hran).trans hunlocked⟩

end Plays

end EpsBridge
