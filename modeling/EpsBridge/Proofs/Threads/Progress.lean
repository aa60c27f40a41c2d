import EpsBridge.Proofs.Threads.Execution

/-!
# Executions that come to an end

A program is a finite tree in depth, whatever it is answered, so no execution of finitely many
threads goes on for ever (`acc_advances`).  Where threads never all wait for each other, every
execution can therefore be brought to an end (`exists_ended`).
-/

namespace EpsBridge

open Program

variable {ε α σ : Type}

/-- One of several programs has gone on by an exchange. -/
def Advances (later earlier : List (Program ε α)) : Prop :=
  ∃ (thread : Nat) (action : Action ε) (next : action.Answer → Program ε α)
    (answer : action.Answer), earlier[thread]? = some (.act action next) ∧
      later = earlier.set thread (next answer)

theorem acc_cons (program : Program ε α) (programs : List (Program ε α))
    (hprograms : Acc Advances programs) : Acc Advances (program :: programs) := by
  induction program generalizing programs with
  | done value =>
      induction hprograms with
      | intro programs _ ih =>
          refine .intro _ fun later hadvances => ?_
          obtain ⟨thread, action, next, answer, hprogram, rfl⟩ := hadvances
          cases thread with
          | zero => cases hprogram
          | succ thread => exact ih _ ⟨thread, action, next, answer, hprogram, rfl⟩
  | act action next hnext =>
      induction hprograms with
      | intro programs hprograms ih =>
          refine .intro _ fun later hadvances => ?_
          obtain ⟨thread, other, rest, answer, hprogram, rfl⟩ := hadvances
          cases thread with
          | zero =>
              cases hprogram
              exact hnext answer programs (.intro programs hprograms)
          | succ thread => exact ih _ ⟨thread, other, rest, answer, hprogram, rfl⟩

/-- Programs do not go on for ever. -/
theorem acc_advances (programs : List (Program ε α)) : Acc Advances programs := by
  induction programs with
  | nil =>
      refine .intro _ fun later hadvances => ?_
      obtain ⟨thread, action, next, answer, hprogram, rfl⟩ := hadvances
      cases hprogram
  | cons program programs ih => exact acc_cons program programs ih

namespace Execution

/-- All threads have come to the end of their programs. -/
def Ended (execution : Execution ε α σ) : Prop :=
  ∀ program ∈ execution.programs, ∃ value, program = .done value

end Execution

/-- Unless all threads have ended, there is a first that has not. -/
theorem exists_first_act (programs : List (Program ε α)) :
    (∀ program ∈ programs, ∃ value, program = .done value) ∨
      ∃ (thread : Nat) (action : Action ε) (next : action.Answer → Program ε α),
        programs[thread]? = some (.act action next) ∧
          ∀ earlier < thread, ∃ value, programs[earlier]? = some (.done value) := by
  induction programs with
  | nil => exact .inl nofun
  | cons program programs ih =>
      cases program with
      | act action next => exact .inr ⟨0, action, next, rfl, nofun⟩
      | done value =>
          rcases ih with hended | ⟨thread, action, next, hprogram, hearlier⟩
          · exact .inl (List.forall_mem_cons.mpr ⟨⟨value, rfl⟩, hended⟩)
          · refine .inr ⟨thread + 1, action, next, hprogram, fun earlier hlt => ?_⟩
            cases earlier with
            | zero => exact ⟨value, rfl⟩
            | succ earlier => exact hearlier earlier (Nat.lt_of_succ_lt_succ hlt)

/-- Where there is always a thread that can go on, there is an end for all. -/
theorem exists_ended {world : World ε α σ} {first : Execution ε α σ}
    (hprogress : ∀ execution, Reaches world first execution → execution.Ended ∨
      ∃ later, Step world execution later ∧ Advances later.programs execution.programs)
    {execution : Execution ε α σ} (hreaches : Reaches world first execution) :
    ∃ later, Reaches world execution later ∧ later.Ended := by
  have hacc := acc_advances execution.programs
  generalize hprograms : execution.programs = programs at hacc
  induction hacc generalizing execution with
  | intro programs _ ih =>
      subst hprograms
      rcases hprogress execution hreaches with hended | ⟨next, hstep, hadvances⟩
      · exact ⟨execution, .refl, hended⟩
      · obtain ⟨later, hlater, hended⟩ := ih _ hadvances (hreaches.tail hstep) rfl
        exact ⟨later, .head hstep hlater, hended⟩

end EpsBridge
