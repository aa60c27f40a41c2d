import EpsBridge.Foreign.Process
import EpsBridge.Proofs.Foreign.Standing

/-!
# Calls of several threads

Any number of foreign calls are made by any number of threads, each of which makes its own calls
one after another.  They share the slot, two locks, and a number for each thread.  Everything
else is left open: what engines answer, panics included, and what loads come to, whatever files
and environment are at the time (`boundaryWorld`).

Two locks are kept in the same manner (`Owned`), and what a call knows of the slot stays true as
long as it has the lock of the slot (`consistent_of_reaches`).
-/

namespace EpsBridge.Foreign

open Program Program.Exchange

variable {ε : Type}

/-! ## The world of calls -/

/-- What the calls in a process share. -/
structure Boundary (ε : Type) where
  slot : Option (Bridge ε)
  slotLocked : Bool
  engineLocked : Bool
  lastErrors : Nat → Nat

namespace Boundary

/-- A process in which no call was made. -/
def start : Boundary ε := ⟨none, false, false, fun _ => 0⟩

/-- Notes the number that a thread's call left. -/
def noteError (boundary : Boundary ε) (thread number : Nat) : Boundary ε :=
  { boundary with
    lastErrors := fun other => if other = thread then number else boundary.lastErrors other }

/-- Whether an exchange of a thread may happen, and what is shared afterwards. -/
def Answers (thread : Nat) (before after : Boundary ε) : Exchange ε → Prop
  | ⟨.lockSlot, _⟩ => before.slotLocked = false ∧ after = { before with slotLocked := true }
  | ⟨.unlockSlot, _⟩ => after = { before with slotLocked := false }
  | ⟨.lockEngine, _⟩ => before.engineLocked = false ∧ after = { before with engineLocked := true }
  | ⟨.unlockEngine, _⟩ => after = { before with engineLocked := false }
  | ⟨.readSlot, answer⟩ => answer = before.slot ∧ after = before
  | ⟨.fillSlot bridge, _⟩ => after = { before with slot := some bridge }
  | ⟨.readLastError, answer⟩ => answer = before.lastErrors thread ∧ after = before
  | ⟨.writeLastError number, _⟩ => after = before.noteError thread number
  | _ => after = before

end Boundary

/-- The earlier calls of the thread of a call have ended. -/
def Turn (callers : List (Nat × Call ε)) (programs : List (Program ε Value)) (index : Nat) : Prop :=
  ∀ earlier < index, threadOf callers earlier = threadOf callers index →
    ∃ value, programs[earlier]? = some (.done value)

/-- Calls that share a boundary, whatever answers them otherwise. -/
def boundaryWorld (callers : List (Nat × Call ε)) : World ε Value (Boundary ε) where
  answers execution index exchange after :=
    Turn callers execution.programs index ∧
      ∃ thread call, callers[index]? = some (thread, call) ∧
        execution.state.Answers thread after exchange
  drifts _ _ := False

/-- Calls before the first of them begins. -/
def firstOf (callers : List (Nat × Call ε)) : Execution ε Value (Boundary ε) :=
  .start (programsOf callers) .start

/-- What a call has exchanged is permitted to it. -/
def permitsOf (callers : List (Nat × Call ε)) (index : Nat) (past : List (Exchange ε))
    (action : Action ε) : Prop :=
  ∃ thread call, callers[index]? = some (thread, call) ∧ call.Permits (.ofPast past) action

section

variable {callers : List (Nat × Call ε)} {execution : Execution ε Value (Boundary ε)}

/-- Every call keeps to what it may do, and ends as it would by itself. -/
theorem keepsAll_of_boundary
    (hreaches : Reaches (boundaryWorld callers) (firstOf callers) execution) :
    KeepsAll (permitsOf callers) (fun _ _ => True)
      (fun index past value => EndsFree past value ∧ ∃ thread call,
        callers[index]? = some (thread, call) ∧ call.program.Ends past value) execution := by
  refine keepsAll_of_reaches (fun _ _ _ _ _ _ => trivial) (keepsAll_start ?_) hreaches
  intro index program hprogram
  rw [programsOf, List.getElem?_map, Option.map_eq_some_iff] at hprogram
  obtain ⟨⟨thread, call⟩, hcaller, rfl⟩ := hprogram
  refine (keeps_program call).and_ends.mono ?_ ?_
  · intro past action hpermits
    exact ⟨thread, call, hcaller, hpermits⟩
  · rintro past value ⟨hfree, exchanges, rfl, hends⟩
    exact ⟨hfree, thread, call, hcaller, hends⟩

theorem permits_of_boundary (hreaches : Reaches (boundaryWorld callers) (firstOf callers) execution)
    {index thread : Nat} {call : Call ε} {action : Action ε}
    {next : action.Answer → Program ε Value} (hcaller : callers[index]? = some (thread, call))
    (hprogram : execution.programs[index]? = some (.act action next)) :
    call.Permits (.ofPast (execution.past index)) action := by
  obtain ⟨_, _, hcaller', hpermits⟩ := (keepsAll_of_boundary hreaches _ _ hprogram).1
  cases hcaller.symm.trans hcaller'
  exact hpermits

theorem answered_of_boundary
    (hreaches : Reaches (boundaryWorld callers) (firstOf callers) execution) {index thread : Nat}
    {call : Call ε} {value : Value} (hcaller : callers[index]? = some (thread, call))
    (hprogram : execution.programs[index]? = some (.done value)) :
    call.Answered (execution.past index) value ∧
      (Standing.ofPast (execution.past index)).IsFree := by
  obtain ⟨hfree, _, _, hcaller', hends⟩ := keepsAll_of_boundary hreaches _ _ hprogram
  cases hcaller.symm.trans hcaller'
  exact ⟨answered_of_ends hends, hfree⟩

end

/-! ## Locks -/

/-- A lock has the one owner that holds it, if it is taken at all. -/
structure Owned (locked : Bool) (holds : Nat → Bool) (owner : Option Nat) : Prop where
  locked : locked = owner.isSome
  holds : ∀ index, holds index = true ↔ owner = some index

namespace Owned

variable {locked : Bool} {holds later : Nat → Bool} {owner : Option Nat} {index : Nat}

theorem same (howned : Owned locked holds owner) (hsame : ∀ other, later other = holds other) :
    Owned locked later owner :=
  ⟨howned.locked, fun other => by rw [hsame]; exact howned.holds other⟩

theorem take (howned : Owned locked holds owner) (hfree : locked = false)
    (hself : later index = true) (hothers : ∀ other, other ≠ index → later other = holds other) :
    Owned true later (some index) where
  locked := rfl
  holds other := by
    by_cases hother : other = index
    · rw [hother, hself]
      exact iff_of_true rfl rfl
    · have hnobody : owner = none := by
        rw [howned.locked] at hfree
        simpa using hfree
      rw [hothers other hother, howned.holds, hnobody]
      exact iff_of_false nofun fun hsome => hother (Option.some.inj hsome).symm

theorem release (howned : Owned locked holds owner) (hholds : holds index = true)
    (hself : later index = false) (hothers : ∀ other, other ≠ index → later other = holds other) :
    Owned false later none where
  locked := rfl
  holds other := by
    by_cases hother : other = index
    · rw [hother, hself]
      exact iff_of_false Bool.false_ne_true nofun
    · rw [hothers other hother, howned.holds, (howned.holds index).mp hholds]
      exact iff_of_false (fun hsome => hother (Option.some.inj hsome).symm) nofun

theorem eq_of_holds (howned : Owned locked holds owner) {other : Nat} (hholds : holds index = true)
    (hother : holds other = true) : other = index :=
  Option.some.inj (((howned.holds other).mp hother).symm.trans ((howned.holds index).mp hholds))

theorem locked_eq_false (howned : Owned locked holds owner)
    (hnobody : ∀ index, holds index = false) : locked = false := by
  rw [howned.locked, Option.isSome_eq_false_iff, Option.isNone_iff_eq_none,
    Option.eq_none_iff_forall_ne_some]
  intro index howner
  exact Bool.false_ne_true ((hnobody index).symm.trans ((howned.holds index).mpr howner))

end Owned

/-! ## What calls know -/

/-- How a call stands in an execution. -/
def standingOf (execution : Execution ε Value (Boundary ε)) (index : Nat) : Standing ε :=
  .ofPast (execution.past index)

/-- Calls that keep both locks, and know what is in the slot while they have its lock. -/
structure Consistent (execution : Execution ε Value (Boundary ε))
    (slotOwner engineOwner : Option Nat) : Prop where
  slotLock : Owned execution.state.slotLocked
    (fun index => (standingOf execution index).slotLock) slotOwner
  engineLock : Owned execution.state.engineLocked
    (fun index => (standingOf execution index).engineLock) engineOwner
  seen : ∀ index found, (standingOf execution index).seen = some found →
    (standingOf execution index).slotLock = true ∧ execution.state.slot = found

section

variable {execution : Execution ε Value (Boundary ε)} {slotOwner engineOwner : Option Nat}
  {index : Nat} {exchange : Exchange ε} {rest : Program ε Value} {after : Boundary ε}

theorem standingOf_record_self :
    standingOf (execution.record index exchange rest after) index =
      (standingOf execution index).after exchange := by
  rw [standingOf, Execution.past_record_self, Standing.ofPast_append_singleton, standingOf]

theorem standingOf_record_of_ne {other : Nat} (hother : other ≠ index) :
    standingOf (execution.record index exchange rest after) other = standingOf execution other := by
  rw [standingOf, Execution.past_record_of_ne _ hother, standingOf]

namespace Consistent

theorem start (programs : List (Program ε Value)) :
    Consistent (.start programs .start : Execution ε Value (Boundary ε)) none none where
  slotLock := ⟨rfl, fun _ => iff_of_false Bool.false_ne_true nofun⟩
  engineLock := ⟨rfl, fun _ => iff_of_false Bool.false_ne_true nofun⟩
  seen _ _ := nofun

/-- What others know of the slot stays true when a call fills it, as it has the lock. -/
theorem seen_record (hconsistent : Consistent execution slotOwner engineOwner)
    (hself : ∀ found, ((standingOf execution index).after exchange).seen = some found →
      ((standingOf execution index).after exchange).slotLock = true ∧ after.slot = found)
    (hslot : after.slot = execution.state.slot ∨ (standingOf execution index).slotLock = true)
    (other : Nat) (found : Option (Bridge ε))
    (hseen : (standingOf (execution.record index exchange rest after) other).seen = some found) :
    (standingOf (execution.record index exchange rest after) other).slotLock = true ∧
      after.slot = found := by
  by_cases hother : other = index
  · subst hother
    rw [standingOf_record_self] at hseen ⊢
    exact hself found hseen
  · rw [standingOf_record_of_ne hother] at hseen ⊢
    obtain ⟨hholds, hfound⟩ := hconsistent.seen other found hseen
    refine ⟨hholds, ?_⟩
    rcases hslot with hsame | hholder
    · rw [hsame, hfound]
    · exact absurd (hconsistent.slotLock.eq_of_holds hholder hholds) hother

theorem slotLock_of_fill {call : Call ε} {bridge : Bridge ε}
    (hconsistent : Consistent execution slotOwner engineOwner)
    (hpermits : call.Permits (standingOf execution index) (.fillSlot bridge)) :
    (standingOf execution index).slotLock = true := by
  unfold Call.Permits at hpermits
  split at hpermits
  · next howed => exact (hconsistent.seen index none (Standing.seen_of_owed howed)).1
  · exact hpermits.1

/-- A permitted exchange keeps the locks and what is known. -/
theorem exists_record {call : Call ε} {thread : Nat}
    (hconsistent : Consistent execution slotOwner engineOwner)
    (hpermits : call.Permits (standingOf execution index) exchange.action)
    (hanswers : execution.state.Answers thread after exchange) :
    ∃ slotOwner engineOwner,
      Consistent (execution.record index exchange rest after) slotOwner engineOwner := by
  have hself := @standingOf_record_self _ execution index exchange rest after
  have hothers := fun other hother =>
    @standingOf_record_of_ne _ execution index exchange rest after other hother
  have hsame : ∀ {β : Type} (field : Standing ε → β),
      field ((standingOf execution index).after exchange) = field (standingOf execution index) →
      ∀ other, field (standingOf (execution.record index exchange rest after) other) =
        field (standingOf execution other) := by
    intro β field hfield other
    by_cases hother : other = index
    · rw [hother, hself, hfield]
    · rw [hothers other hother]
  obtain ⟨action, answer⟩ := exchange
  cases action with
  | lockSlot =>
      obtain ⟨hfree, rfl⟩ := hanswers
      refine ⟨some index, engineOwner, ?_, ?_, ?_⟩
      · exact hconsistent.slotLock.take hfree (congrArg Standing.slotLock hself)
          fun other hother => congrArg Standing.slotLock (hothers other hother)
      · exact hconsistent.engineLock.same (hsame Standing.engineLock rfl)
      · exact hconsistent.seen_record nofun (.inl rfl)
  | unlockSlot =>
      obtain rfl := hanswers
      refine ⟨none, engineOwner, ?_, ?_, ?_⟩
      · exact hconsistent.slotLock.release (hpermits.allows nofun)
          (congrArg Standing.slotLock hself)
          fun other hother => congrArg Standing.slotLock (hothers other hother)
      · exact hconsistent.engineLock.same (hsame Standing.engineLock rfl)
      · exact hconsistent.seen_record nofun (.inl rfl)
  | lockEngine =>
      obtain ⟨hfree, rfl⟩ := hanswers
      refine ⟨slotOwner, some index, ?_, ?_, ?_⟩
      · exact hconsistent.slotLock.same (hsame Standing.slotLock rfl)
      · exact hconsistent.engineLock.take hfree (congrArg Standing.engineLock hself)
          fun other hother => congrArg Standing.engineLock (hothers other hother)
      · exact hconsistent.seen_record (hconsistent.seen index) (.inl rfl)
  | unlockEngine =>
      obtain rfl := hanswers
      refine ⟨slotOwner, none, ?_, ?_, ?_⟩
      · exact hconsistent.slotLock.same (hsame Standing.slotLock rfl)
      · exact hconsistent.engineLock.release (hpermits.allows nofun)
          (congrArg Standing.engineLock hself)
          fun other hother => congrArg Standing.engineLock (hothers other hother)
      · exact hconsistent.seen_record (hconsistent.seen index) (.inl rfl)
  | readSlot =>
      obtain ⟨rfl, rfl⟩ := hanswers
      refine ⟨slotOwner, engineOwner, hconsistent.slotLock.same (hsame Standing.slotLock rfl),
        hconsistent.engineLock.same (hsame Standing.engineLock rfl),
        hconsistent.seen_record ?_ (.inl rfl)⟩
      intro found hfound
      exact ⟨(hpermits.allows nofun).1, Option.some.inj hfound⟩
  | fillSlot bridge =>
      obtain rfl := hanswers
      have hholds := hconsistent.slotLock_of_fill hpermits
      refine ⟨slotOwner, engineOwner, hconsistent.slotLock.same (hsame Standing.slotLock rfl),
        hconsistent.engineLock.same (hsame Standing.engineLock rfl),
        hconsistent.seen_record ?_ (.inr hholds)⟩
      intro found hfound
      exact ⟨hholds, Option.some.inj hfound⟩
  | readLastError =>
      obtain ⟨-, rfl⟩ := hanswers
      exact ⟨slotOwner, engineOwner, hconsistent.slotLock.same (hsame Standing.slotLock rfl),
        hconsistent.engineLock.same (hsame Standing.engineLock rfl),
        hconsistent.seen_record (hconsistent.seen index) (.inl rfl)⟩
  | _ =>
      obtain rfl := hanswers
      exact ⟨slotOwner, engineOwner, hconsistent.slotLock.same (hsame Standing.slotLock rfl),
        hconsistent.engineLock.same (hsame Standing.engineLock rfl),
        hconsistent.seen_record (hconsistent.seen index) (.inl rfl)⟩

end Consistent

end

theorem consistent_of_reaches {callers : List (Nat × Call ε)}
    {execution : Execution ε Value (Boundary ε)}
    (hreaches : Reaches (boundaryWorld callers) (firstOf callers) execution) :
    ∃ slotOwner engineOwner, Consistent execution slotOwner engineOwner := by
  induction hreaches with
  | refl => exact ⟨none, none, .start _⟩
  | tail hearlier hstep ih =>
      obtain ⟨slotOwner, engineOwner, hconsistent⟩ := ih
      cases hstep with
      | drift hdrift => exact hdrift.elim
      | act hprogram hanswer =>
          obtain ⟨-, thread, call, hcaller, hanswers⟩ := hanswer
          exact hconsistent.exists_record (permits_of_boundary hearlier hcaller hprogram) hanswers

end EpsBridge.Foreign
