import EpsBridge.Proofs.Threads.Execution
import EpsBridge.Threads

/-!
# Executions on a host

`Threads` runs programs on a host in the order of a schedule.  Whatever it comes to, an
execution comes to as well (`reaches_follow`), in a world where the host answers
(`hostWorld`).  What is known of executions is therefore known of threads under every
schedule.

A coarser world forgets a part of the state, and leaves open what depended on it.  An
execution in the finer world is one in the coarser world, too (`reaches_map`).
-/

namespace EpsBridge

open Program

variable {ε α σ τ : Type}

/-! ## Forgetting a part of the state -/

namespace Execution

/-- An execution, seen through a function of its states. -/
def map (f : σ → τ) (execution : Execution ε α σ) : Execution ε α τ :=
  ⟨execution.programs, execution.history.map fun entry =>
    ⟨entry.thread, entry.exchange, f entry.state⟩, f execution.state⟩

theorem map_record (f : σ → τ) (execution : Execution ε α σ) (thread : Nat)
    (exchange : Exchange ε) (rest : Program ε α) (state : σ) :
    (execution.record thread exchange rest state).map f =
      (execution.map f).record thread exchange rest (f state) := by
  simp [map, record]

end Execution

/-- What happens in a world happens in every world that allows as much. -/
theorem reaches_map (fine : World ε α σ) (coarse : World ε α τ) (f : σ → τ)
    {first execution : Execution ε α σ}
    (hanswers : ∀ earlier thread exchange next after, Reaches fine first earlier →
      earlier.programs[thread]? = some (.act exchange.action next) →
      fine.answers earlier thread exchange after →
      coarse.answers (earlier.map f) thread exchange (f after))
    (hdrifts : ∀ earlier after, fine.drifts earlier after →
      coarse.drifts (earlier.map f) (f after))
    (hreaches : Reaches fine first execution) :
    Reaches coarse (first.map f) (execution.map f) := by
  induction hreaches with
  | refl => exact .refl
  | @tail earlier _ hearlier hstep ih =>
      refine ih.tail ?_
      cases hstep with
      | drift hdrift => exact .drift (hdrifts _ _ hdrift)
      | act hprogram hanswer =>
          have hcoarse : Step coarse (earlier.map f) _ :=
            .act hprogram (hanswers _ _ _ _ _ hearlier hprogram hanswer)
          rwa [← Execution.map_record] at hcoarse

/-! ## Threads on a host -/

/-- A host answers, and makes those wait who ask for what is taken. -/
def hostWorld (α : Type) : World EngineRef α Host where
  answers execution thread exchange after :=
    execution.state.permits exchange.action = true ∧
      Host.handle thread exchange.action execution.state = (exchange.answer, after)
  drifts _ _ := False

/-- A step of threads is a step of an execution, or none. -/
theorem exists_reaches_step (threads : Threads α) (thread : Nat)
    (history : List (Entry EngineRef Host)) :
    ∃ later, Reaches (hostWorld α) ⟨threads.programs, history, threads.host⟩
      ⟨(threads.step thread).programs, later, (threads.step thread).host⟩ := by
  unfold Threads.step
  split
  · next action next hprogram =>
      split
      · next hpermits =>
          have hanswer : (hostWorld α).answers ⟨threads.programs, history, threads.host⟩ thread
              ⟨action, (Host.handle thread action threads.host).1⟩
              (Host.handle thread action threads.host).2 := ⟨hpermits, rfl⟩
          exact ⟨_, .single (.act hprogram hanswer)⟩
      · exact ⟨history, .refl⟩
  · exact ⟨history, .refl⟩

/-- Threads get, under every schedule, to where an execution gets. -/
theorem reaches_follow (threads : Threads α) (schedule : List Nat) :
    ∃ history, Reaches (hostWorld α) (.start threads.programs threads.host)
      ⟨(threads.follow schedule).programs, history, (threads.follow schedule).host⟩ := by
  have hfollow : ∀ (threads : Threads α) (history : List (Entry EngineRef Host)),
      ∃ later, Reaches (hostWorld α) ⟨threads.programs, history, threads.host⟩
        ⟨(threads.follow schedule).programs, later, (threads.follow schedule).host⟩ := by
    induction schedule with
    | nil => exact fun threads history => ⟨history, .refl⟩
    | cons thread rest ih =>
        intro threads history
        obtain ⟨between, hstep⟩ := exists_reaches_step threads thread history
        obtain ⟨later, hrest⟩ := ih (threads.step thread) between
        exact ⟨later, hstep.trans hrest⟩
  exact hfollow threads []

end EpsBridge
