import EpsBridge.Proofs.Foreign.Boundary
import EpsBridge.Proofs.Threads.Progress

/-!
# Calls return

A call waits for nothing but a lock, and for one lock at a time.  Whoever has a lock waits for
none, so one of the calls that have not returned can always go on (`exists_step`), whatever
engines answer.
-/

namespace EpsBridge.Foreign

open Program Program.Exchange

variable {ε : Type} {callers : List (Nat × Call ε)} {execution : Execution ε Value (Boundary ε)}
  {index : Nat}

/-! ## Calls of one thread -/

theorem Turn.set {programs : List (Program ε Value)} {other : Nat} {action : Action ε}
    {next : action.Answer → Program ε Value} (hturn : Turn callers programs index)
    (hprogram : programs[other]? = some (.act action next)) (rest : Program ε Value) :
    Turn callers (programs.set other rest) index := by
  intro earlier hearlier hthread
  obtain ⟨value, hdone⟩ := hturn earlier hearlier hthread
  refine ⟨value, ?_⟩
  rw [List.getElem?_set_ne, hdone]
  rintro rfl
  cases hprogram.symm.trans hdone

/-- When a call has begun, the earlier calls of its thread have ended. -/
theorem turn_of_past (hreaches : Reaches (boundaryWorld callers) (firstOf callers) execution)
    (hbegun : execution.past index ≠ []) : Turn callers execution.programs index := by
  induction hreaches with
  | refl => exact absurd rfl hbegun
  | @tail earlier later hearlier hstep ih =>
      cases hstep with
      | drift hdrift => exact hdrift.elim
      | @act other action next answer after hprogram hanswer =>
          by_cases hother : index = other
          · subst hother
            exact hanswer.1.set hprogram _
          · rw [Execution.past_record_of_ne _ hother] at hbegun
            exact (ih hbegun).set hprogram _

/-! ## Who can go on -/

/-- A call whose turn it is can go on, unless it waits for a lock. -/
theorem exists_step_of_free {action : Action ε} {next : action.Answer → Program ε Value}
    (hreaches : Reaches (boundaryWorld callers) (firstOf callers) execution)
    (hprogram : execution.programs[index]? = some (.act action next))
    (hturn : Turn callers execution.programs index)
    (hslot : action = .lockSlot → execution.state.slotLocked = false)
    (hengine : action = .lockEngine → execution.state.engineLocked = false) :
    ∃ later, Step (boundaryWorld callers) execution later ∧
      Advances later.programs execution.programs := by
  obtain ⟨⟨thread, call, hcaller, hpermits⟩, -⟩ := keepsAll_of_boundary hreaches _ _ hprogram
  have hanswers : ∃ answer after, execution.state.Answers thread after ⟨action, answer⟩ := by
    cases action with
    | lockSlot => exact ⟨(), _, hslot rfl, rfl⟩
    | lockEngine => exact ⟨(), _, hengine rfl, rfl⟩
    | readSlot | readLastError => exact ⟨_, _, rfl, rfl⟩
    | unlockSlot | unlockEngine | fillSlot bridge | writeLastError number => exact ⟨(), _, rfl⟩
    | discard engine handle unwinding =>
        cases unwinding with
        | true => exact ⟨(), _, rfl⟩
        | false => exact ⟨.ok (), _, rfl⟩
    | load path => exact ⟨.error (.notFound []), _, rfl⟩
    | revision engine => exact ⟨.error (.revision ""), _, rfl⟩
    | create engine => exact ⟨.error 0, _, rfl⟩
    | start engine handle argv capture => exact ⟨(.ok 0, capture), _, rfl⟩
    | stop engine handle capture => exact ⟨(.ok 0, capture), _, rfl⟩
    | _ => exact (hpermits.allows nofun).elim
  obtain ⟨answer, after, hanswers⟩ := hanswers
  have hstep : Step (boundaryWorld callers) execution _ :=
    .act hprogram ⟨hturn, thread, call, hcaller, hanswers⟩
  exact ⟨_, hstep, index, action, next, answer, hprogram, rfl⟩

/-- What has a lock does not wait for one. -/
theorem ne_lock_of_holds {call : Call ε} {standing : Standing ε} {action : Action ε}
    (hpermits : call.Permits standing action)
    (hholds : standing.slotLock = true ∨ standing.engineLock = true) :
    action ≠ .lockSlot ∧ action ≠ .lockEngine := by
  have hbusy : ¬ (standing.slotLock = false ∧ standing.engineLock = false) := by
    rintro ⟨hslot, hengine⟩
    rcases hholds with hholds | hholds
    · rw [hslot] at hholds
      cases hholds
    · rw [hengine] at hholds
      cases hholds
  constructor
  · rintro rfl
    exact hbusy (hpermits.allows nofun)
  · rintro rfl
    exact hbusy (hpermits.allows nofun)

/-- A call that has a lock can go on. -/
theorem exists_step_of_holds
    (hreaches : Reaches (boundaryWorld callers) (firstOf callers) execution)
    (hholds : (standingOf execution index).slotLock = true ∨
      (standingOf execution index).engineLock = true) :
    ∃ later, Step (boundaryWorld callers) execution later ∧
      Advances later.programs execution.programs := by
  have hbegun : execution.past index ≠ [] := by
    intro hnil
    rw [standingOf, hnil] at hholds
    rcases hholds with hholds | hholds <;> cases hholds
  cases hprogram : execution.programs[index]? with
  | none => exact absurd (past_eq_nil_of_reaches hreaches rfl hprogram) hbegun
  | some program =>
      have hkeeps := keepsAll_of_boundary hreaches _ _ hprogram
      cases program with
      | done value =>
          obtain ⟨hslot, hengine, -⟩ := hkeeps.1
          rcases hholds with hholds | hholds
          · exact absurd (hslot.symm.trans hholds) Bool.false_ne_true
          · exact absurd (hengine.symm.trans hholds) Bool.false_ne_true
      | act action next =>
          obtain ⟨⟨thread, call, hcaller, hpermits⟩, -⟩ := hkeeps
          obtain ⟨hslot, hengine⟩ := ne_lock_of_holds hpermits hholds
          exact exists_step_of_free hreaches hprogram (turn_of_past hreaches hbegun)
            (fun haction => absurd haction hslot) (fun haction => absurd haction hengine)

/-- As long as calls have not returned, one of them can go on. -/
theorem exists_step (hreaches : Reaches (boundaryWorld callers) (firstOf callers) execution) :
    execution.Ended ∨ ∃ later, Step (boundaryWorld callers) execution later ∧
      Advances later.programs execution.programs := by
  obtain ⟨slotOwner, engineOwner, hconsistent⟩ := consistent_of_reaches hreaches
  rcases exists_first_act execution.programs with hended | ⟨index, action, next, hprogram, hfirst⟩
  · exact .inl hended
  · refine .inr ?_
    have hturn : Turn callers execution.programs index := fun earlier hlt _ => hfirst earlier hlt
    -- it can go on, or else whoever has the lock that it waits for can
    cases hslot : execution.state.slotLocked with
    | true =>
        rw [hconsistent.slotLock.locked, Option.isSome_iff_exists] at hslot
        obtain ⟨owner, howner⟩ := hslot
        exact exists_step_of_holds hreaches (.inl ((hconsistent.slotLock.holds owner).mpr howner))
    | false =>
        cases hengine : execution.state.engineLocked with
        | true =>
            rw [hconsistent.engineLock.locked, Option.isSome_iff_exists] at hengine
            obtain ⟨owner, howner⟩ := hengine
            exact exists_step_of_holds hreaches
              (.inr ((hconsistent.engineLock.holds owner).mpr howner))
        | false =>
            exact exists_step_of_free hreaches hprogram hturn (fun _ => hslot) fun _ => hengine

/-- **Calls return**: whatever has happened so far, all of them can come to their end. -/
theorem exists_returned (hreaches : Reaches (boundaryWorld callers) (firstOf callers) execution) :
    ∃ later, Reaches (boundaryWorld callers) execution later ∧ later.Ended :=
  exists_ended (fun _ hearlier => exists_step hearlier) hreaches

end EpsBridge.Foreign
