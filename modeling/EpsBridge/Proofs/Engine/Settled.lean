import EpsBridge.Host
import EpsBridge.Proofs.Engine.Capture
import EpsBridge.Proofs.Engine.Course

/-!
# Runs of engines whose calls return

Where no call of an engine panics, three of the six courses are left.
`settled_invoke` gives the exchanges of a run by the points where it may fail, the
outcome by the two statuses and the precedence between them, and what the capture
holds at the end: the writes of the start, then those of the stop, up to the limit.
-/

namespace EpsBridge

open Program

variable {ε σ : Type}

/-- No call of the engine panics. -/
structure Returns (handler : Handler ε σ) (engine : ε) : Prop where
  create : ∀ state message, (handler (.create engine) state).1 ≠ .panic message
  start : ∀ handle argv capture state message,
    (handler (.start engine handle argv capture) state).1.1 ≠ .panic message
  stop : ∀ handle capture state message,
    (handler (.stop engine handle capture) state).1.1 ≠ .panic message
  discard : ∀ handle state message,
    (handler (.discard engine handle false) state).1 ≠ .panic message

theorem Returns.discarded {handler : Handler ε σ} {engine : ε} (hreturns : Returns handler engine)
    {handle : Handle} {state ended : σ} {answer : Outcome Empty Unit}
    (hdiscard : handler (.discard engine handle false) state = (answer, ended)) :
    answer = .ok () := by
  cases answer with
  | ok => rfl
  | error nothing => exact nothing.elim
  | panic message => exact absurd (congrArg Prod.fst hdiscard) (hreturns.discard _ _ _)

/-- A scripted engine returns unless its script says otherwise. -/
theorem returns_fixture {script : Fixture.Script} (hpanics : script.panicsAt = none)
    (thread index : Nat) : Returns (Host.handle thread) (.fixture index script) where
  create state message := by
    simp only [Host.handle, Host.engineOf, Host.fixtureEngine, Engine.onPart, Fixture.engine,
      Fixture.create, hpanics]
    cases script.creationError <;> simp
  start handle argv capture state message := by
    simp only [Host.handle, Host.engineOf, Host.fixtureEngine, Engine.onPart, Fixture.engine,
      Fixture.start, hpanics]
    cases script.setupError with
    | some code => simp
    | none =>
        rcases Fixture.writeOutput script argv state.workspace with ⟨error | _, workspace⟩ <;> simp
  stop handle capture state message := by
    simp [Host.handle, Host.engineOf, Host.fixtureEngine, Engine.onPart, Fixture.engine,
      Fixture.stop, hpanics]
  discard _ _ _ := nofun

/-- The statuses of a run that is complete. -/
def IsComplete (status : Int32) : Prop := status = 0 ∨ status = -101

/-- The exchanges and the outcome of a run whose calls return. -/
inductive Settled (engine : ε) (argv : List String) :
    List (Exchange ε) → Outcome Error Capture → Prop
  /-- No instance is made, and its code is the error. -/
  | notCreated (code : Int32) :
      Settled engine argv [⟨.create engine, .error code⟩] (.error (.instanceCreation code))
  /-- The instance is given up without being stopped. -/
  | notConfigured (handle : Handle) (error : Error) (capture : Capture) :
      Settled engine argv
        [⟨.create engine, .ok handle⟩,
          ⟨.start engine handle argv .empty, (.error error, capture)⟩,
          ⟨.discard engine handle false, .ok ()⟩]
        (.error error)
  /-- The instance runs, and the two statuses decide.  The capture holds what was
  written while it started, and then what was written while it stopped. -/
  | ran (handle : Handle) (started stopped : Int32) (early late : Capture)
      (outcome : Outcome Error Capture)
      (hcomplete : IsComplete started → IsComplete stopped → outcome = .ok late)
      (hstarted : ¬ IsComplete started →
        outcome = .error (.execution started (late.text .diagnostics)))
      (hstopped : IsComplete started → ¬ IsComplete stopped →
        outcome = .error (.execution stopped (late.text .diagnostics)))
      (hwritten : ∀ first second, early = Fixture.writeAll .empty first →
        late = Fixture.writeAll early second → ∀ channel,
          (late.kept channel).toList =
              (writtenTo channel first ++ writtenTo channel second).take (8 * 1024 * 1024) ∧
            late.text channel = Utf8.decode
              ((writtenTo channel first ++ writtenTo channel second).take (8 * 1024 * 1024))) :
      Settled engine argv
        [⟨.create engine, .ok handle⟩,
          ⟨.start engine handle argv .empty, (.ok started, early)⟩,
          ⟨.stop engine handle early, (.ok stopped, late)⟩,
          ⟨.discard engine handle false, .ok ()⟩]
        outcome

theorem isSuccess_iff (status : Int32) : Status.isSuccess status = true ↔ IsComplete status := by
  rw [Status.isSuccess, Bool.or_eq_true, decide_eq_true_eq, decide_eq_true_eq]
  exact Iff.rfl

theorem settled_concludeRun (engine : ε) (argv : List String) (handle : Handle)
    (started stopped : Int32) (early late : Capture) :
    Settled engine argv
      [⟨.create engine, .ok handle⟩,
        ⟨.start engine handle argv .empty, (.ok started, early)⟩,
        ⟨.stop engine handle early, (.ok stopped, late)⟩,
        ⟨.discard engine handle false, .ok ()⟩]
      (concludeRun started stopped late) := by
  refine .ran handle started stopped early late _ ?_ ?_ ?_ ?_
  · intro hstarted hstopped
    rw [← isSuccess_iff] at hstarted hstopped
    simp [concludeRun, Status.ofRun, hstarted, hstopped]
  · intro hstarted
    rw [← isSuccess_iff] at hstarted
    simp [concludeRun, Status.ofRun, hstarted]
  · intro hstarted hstopped
    rw [← isSuccess_iff] at hstarted hstopped
    simp [concludeRun, Status.ofRun, hstarted, hstopped]
  · rintro first second rfl rfl channel
    rw [Capture.text_eq_decode, Capture.toList_kept_run, writtenTo_append]
    exact ⟨rfl, rfl⟩

/-- **A run of an engine whose calls return.**  It makes the calls of one of the
three kinds, all on one instance and under the engine lock, and its outcome is
the one of that kind. -/
theorem settled_invoke (handler : Handler ε σ) (engine : ε) (hreturns : Returns handler engine)
    (arguments : Arguments) (hnul : ∀ argument ∈ arguments.toList, '\x00' ∉ argument.toList)
    (state : σ) :
    ∃ calls, (invoke engine arguments).trace handler state = underLock calls ∧
      Settled engine ("gs" :: arguments.toList) calls
        ((invoke engine arguments).run handler state).1 := by
  obtain ⟨calls, ended, htrace, hcourse, -⟩ :=
    course_invoke handler engine (argv_eq_ok hnul) state
  refine ⟨calls, htrace, ?_⟩
  generalize ((invoke engine arguments).run handler state).1 = outcome at hcourse ⊢
  cases hcourse with
  | notCreated hcreate => exact .notCreated _
  | createPanicked hcreate =>
      exact absurd (congrArg Prod.fst hcreate) (hreturns.create _ _)
  | notConfigured hcreate hstart hdiscard =>
      obtain rfl := hreturns.discarded hdiscard
      exact .notConfigured _ _ _
  | startPanicked hcreate hstart =>
      exact absurd (congrArg (·.1.1) hstart) (hreturns.start _ _ _ _ _)
  | stopPanicked hcreate hstart hstop =>
      exact absurd (congrArg (·.1.1) hstop) (hreturns.stop _ _ _ _)
  | ended hcreate hstart hstop hdiscard =>
      obtain rfl := hreturns.discarded hdiscard
      exact settled_concludeRun engine _ _ _ _ _ _

/-- An engine that quits while it starts and fails while it stops. -/
def Fixture.Script.quitting : Fixture.Script :=
  { Script.default with startStatus := Status.quit, stopStatus := -12, diagnostics := "halt" }

/-- Its run is settled like any other, and fails with the status of the stop. -/
theorem settled_invoke_quitting :
    Returns (Host.handle Host.firstThread) (.fixture 0 .quitting) ∧
      (∃ calls, (invoke (.fixture 0 .quitting) ⟨["in.eps"]⟩).trace
            (Host.handle Host.firstThread) (.start default [] .default) = underLock calls ∧
        Settled (.fixture 0 .quitting) ["gs", "in.eps"] calls
          ((invoke (.fixture 0 .quitting) ⟨["in.eps"]⟩).run
            (Host.handle Host.firstThread) (.start default [] .default)).1) ∧
      ((invoke (.fixture 0 .quitting) ⟨["in.eps"]⟩).run
          (Host.handle Host.firstThread) (.start default [] .default)).1 =
        .error (.execution (-12) "halt") := by
  have hreturns : Returns (Host.handle Host.firstThread) (.fixture 0 .quitting) :=
    returns_fixture rfl _ _
  exact ⟨hreturns, settled_invoke _ _ hreturns ⟨["in.eps"]⟩ (by decide) _, rfl⟩

end EpsBridge
