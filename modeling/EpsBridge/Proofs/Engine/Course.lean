import EpsBridge.Bridge.Invoke
import EpsBridge.Proofs.Trace

/-!
# The course of a run

An engine run takes one of six courses, by where it leaves the straight line of
creating, starting, stopping and discarding.  Where an instance is discarded while no
panic unwinds, the discarding may panic and decides the outcome.  `Course` lists them, each with the
answers it met on the way, the exchanges it consists of, the outcome it has and the
state it ends in.  `course_invoke` says that there are no others, whatever handler
answers: every statement about runs is a case analysis over `Course`, and none
takes `invoke` apart again.
-/

namespace EpsBridge

open Program

variable {ε σ : Type}

/-- The exchanges with an engine that a run from a state consists of, its outcome,
and the state it leaves. -/
inductive Course (handler : Handler ε σ) (engine : ε) (argv : List String) (state : σ) :
    List (Exchange ε) → Outcome Error Capture → σ → Prop
  | notCreated {code : Int32} {created : σ}
      (hcreate : handler (.create engine) state = (.error code, created)) :
      Course handler engine argv state
        [⟨.create engine, .error code⟩]
        (.error (.instanceCreation code)) created
  | createPanicked {message : String} {created : σ}
      (hcreate : handler (.create engine) state = (.panic message, created)) :
      Course handler engine argv state
        [⟨.create engine, .panic message⟩]
        (.panic message) created
  | notConfigured {handle : Handle} {error : Error} {capture : Capture}
      {discarded : Outcome Empty Unit} {created started ended : σ}
      (hcreate : handler (.create engine) state = (.ok handle, created))
      (hstart : handler (.start engine handle argv .empty) created =
        ((.error error, capture), started))
      (hdiscard : handler (.discard engine handle false) started = (discarded, ended)) :
      Course handler engine argv state
        [⟨.create engine, .ok handle⟩,
          ⟨.start engine handle argv .empty, (.error error, capture)⟩,
          ⟨.discard engine handle false, discarded⟩]
        ((Outcome.error error).unlessPanicked discarded) ended
  | startPanicked {handle : Handle} {message : String} {capture : Capture} {created started : σ}
      (hcreate : handler (.create engine) state = (.ok handle, created))
      (hstart : handler (.start engine handle argv .empty) created =
        ((.panic message, capture), started)) :
      Course handler engine argv state
        [⟨.create engine, .ok handle⟩,
          ⟨.start engine handle argv .empty, (.panic message, capture)⟩,
          ⟨.discard engine handle true, ()⟩]
        (.panic message) (handler (.discard engine handle true) started).2
  | stopPanicked {handle : Handle} {status : Int32} {message : String} {early late : Capture}
      {created started stopped : σ}
      (hcreate : handler (.create engine) state = (.ok handle, created))
      (hstart : handler (.start engine handle argv .empty) created =
        ((.ok status, early), started))
      (hstop : handler (.stop engine handle early) started = ((.panic message, late), stopped)) :
      Course handler engine argv state
        [⟨.create engine, .ok handle⟩,
          ⟨.start engine handle argv .empty, (.ok status, early)⟩,
          ⟨.stop engine handle early, (.panic message, late)⟩]
        (.panic message) stopped
  | ended {handle : Handle} {status exit : Int32} {early late : Capture}
      {discarded : Outcome Empty Unit} {created started stopped ended : σ}
      (hcreate : handler (.create engine) state = (.ok handle, created))
      (hstart : handler (.start engine handle argv .empty) created =
        ((.ok status, early), started))
      (hstop : handler (.stop engine handle early) started = ((.ok exit, late), stopped))
      (hdiscard : handler (.discard engine handle false) stopped = (discarded, ended)) :
      Course handler engine argv state
        [⟨.create engine, .ok handle⟩,
          ⟨.start engine handle argv .empty, (.ok status, early)⟩,
          ⟨.stop engine handle early, (.ok exit, late)⟩,
          ⟨.discard engine handle false, discarded⟩]
        ((concludeRun status exit late).unlessPanicked discarded) ended

theorem Outcome.eq_ok_of_unlessPanicked {α : Type} {outcome : Outcome Error α}
    {discarded : Outcome Empty Unit} {value : α}
    (hok : outcome.unlessPanicked discarded = .ok value) : outcome = .ok value := by
  cases discarded with
  | ok => exact hok
  | error nothing => exact nothing.elim
  | panic message => cases hok

/-- A run that succeeds has been started and stopped, and returns what it wrote. -/
theorem exchanges_of_course_ok {handler : Handler ε σ} {engine : ε} {argv : List String}
    {state ended : σ} {calls : List (Exchange ε)} {capture : Capture}
    (hcourse : Course handler engine argv state calls (.ok capture) ended) :
    ∃ handle status exit early,
      ⟨.start engine handle argv .empty, (.ok status, early)⟩ ∈ calls ∧
        ⟨.stop engine handle early, (.ok exit, capture)⟩ ∈ calls := by
  generalize houtcome : Outcome.ok capture = outcome at hcourse
  cases hcourse with
  | notCreated | createPanicked | startPanicked | stopPanicked => cases houtcome
  | notConfigured => cases Outcome.eq_ok_of_unlessPanicked houtcome.symm
  | ended hcreate hstart hstop hdiscard =>
      have hconcluded := Outcome.eq_ok_of_unlessPanicked houtcome.symm
      unfold concludeRun at hconcluded
      dsimp only at hconcluded
      split at hconcluded
      · cases hconcluded
        exact ⟨_, _, _, _, .tail _ (.head _), .tail _ (.tail _ (.head _))⟩
      · cases hconcluded

theorem course_createAndRun (handler : Handler ε σ) (engine : ε) (argv : List String)
    (state : σ) :
    Course handler engine argv state ((createAndRun engine argv).trace handler state)
      ((createAndRun engine argv).run handler state).1
      ((createAndRun engine argv).run handler state).2 := by
  simp only [createAndRun, perform, run_bind, trace_bind, run_act, trace_act, run_done, trace_done]
  rcases hcreate : handler (.create engine) state with ⟨handle | code | message, created⟩
  · simp only [runInstance, perform, run_bind, trace_bind, run_act, trace_act, run_done, trace_done]
    rcases hstart : handler (.start engine handle argv .empty) created with
      ⟨⟨status | error | message, early⟩, started⟩
    · simp only [finishRun, discardAfter, perform, run_bind, trace_bind, run_act, trace_act,
        run_done, trace_done]
      rcases hstop : handler (.stop engine handle early) started with
        ⟨⟨exit | nothing | message, late⟩, stopped⟩
      · exact .ended hcreate hstart hstop rfl
      · exact nothing.elim
      · exact .stopPanicked hcreate hstart hstop
    · exact .notConfigured hcreate hstart rfl
    · exact .startPanicked hcreate hstart
  · exact .notCreated hcreate
  · exact .createPanicked hcreate

/-- Arguments without zero characters are passed on behind the program's name. -/
theorem argv_eq_ok {arguments : Arguments}
    (hnul : ∀ argument ∈ arguments.toList, '\x00' ∉ argument.toList) :
    arguments.argv = .ok (programName :: arguments.toList) := by
  have hfirst : arguments.firstNul? = none := by
    rw [Arguments.firstNul?, Option.map_eq_none_iff, List.find?_eq_none]
    intro entry hentry
    simpa using hnul entry.1 (List.fst_mem_of_mem_zipIdx hentry)
  rw [Arguments.argv, hfirst]

theorem eq_of_argv_eq_ok {arguments : Arguments} {argv : List String}
    (hargv : arguments.argv = .ok argv) : argv = programName :: arguments.toList := by
  unfold Arguments.argv at hargv
  split at hargv
  · cases hargv
  · exact (Except.ok.inj hargv).symm

/-- What is refused is refused before the engine lock is taken. -/
theorem invoke_of_argv_eq_error (handler : Handler ε σ) (engine : ε)
    {arguments : Arguments} {error : Error} (hargv : arguments.argv = .error error) (state : σ) :
    (invoke engine arguments).trace handler state = [] ∧
      (invoke engine arguments).run handler state = (.error error, state) := by
  rw [invoke, hargv]
  exact ⟨rfl, rfl⟩

/-- Exchanges with the engine lock taken before and given back after them. -/
def underLock (calls : List (Exchange ε)) : List (Exchange ε) :=
  ⟨.lockEngine, ()⟩ :: calls ++ [⟨.unlockEngine, ()⟩]

theorem mem_underLock {exchange : Exchange ε} {calls : List (Exchange ε)}
    (hexchange : exchange ∈ calls) : exchange ∈ underLock calls :=
  List.mem_append_left _ (List.mem_cons_of_mem _ hexchange)

/-- A run keeps the engine lock for the whole of its course. -/
theorem course_invoke (handler : Handler ε σ) (engine : ε) {arguments : Arguments}
    {argv : List String} (hargv : arguments.argv = .ok argv) (state : σ) :
    ∃ calls ended, (invoke engine arguments).trace handler state = underLock calls ∧
      Course handler engine argv (handler .lockEngine state).2 calls
        ((invoke engine arguments).run handler state).1 ended ∧
      ((invoke engine arguments).run handler state).2 = (handler .unlockEngine ended).2 := by
  refine ⟨(createAndRun engine argv).trace handler (handler .lockEngine state).2,
    ((createAndRun engine argv).run handler (handler .lockEngine state).2).2, ?_, ?_, ?_⟩
  · simp [underLock, invoke, hargv, perform]
  · simpa [invoke, hargv, perform] using
      course_createAndRun handler engine argv (handler .lockEngine state).2
  · simp [invoke, hargv, perform]

end EpsBridge
