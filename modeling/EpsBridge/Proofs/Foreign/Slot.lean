import EpsBridge.Proofs.Foreign.OnHost
import EpsBridge.Proofs.Foreign.Faithful
import Mathlib.Data.List.Induction
import Mathlib.Tactic.ByContra

/-!
# The slot that calls share

The slot holds the bridge that was put there last (`slot_of_reaches`).  A call that finds it empty
loads a library and puts a bridge over it there, and has the lock all the while, so it never
replaces anything (`slotAfter_eq_none`) and nobody comes in between (`next_of_load`).  What may
replace a bridge is an installation or an initialization, which loads before it takes the lock.

As a call asks no engine but that of its bridge, a bridge serves all that read the slot after it
was put there, until it is replaced (`SlotKept`).
-/

namespace EpsBridge.Foreign

open Program Program.Exchange

variable {ε : Type}

/-! ## What the slot holds -/

/-- The bridge that was put into the slot last. -/
def slotAfter (history : List (Entry ε (Boundary ε))) : Option (Bridge ε) :=
  history.foldl (fun slot entry => (put? entry.exchange).or slot) none

@[simp] theorem slotAfter_append_singleton (history : List (Entry ε (Boundary ε)))
    (entry : Entry ε (Boundary ε)) :
    slotAfter (history ++ [entry]) = (put? entry.exchange).or (slotAfter history) := by
  rw [slotAfter, List.foldl_append]
  rfl

section

variable {callers : List (Nat × Call ε)} {execution : Execution ε Value (Boundary ε)}
  {index thread : Nat} {call : Call ε} {before after : List (Entry ε (Boundary ε))}
  {entry : Entry ε (Boundary ε)}

theorem faithful_of_reaches
    (hreaches : Reaches (boundaryWorld callers) (firstOf callers) execution)
    (hcaller : callers[index]? = some (thread, call)) : Faithful call (execution.past index) := by
  have hfirst : Faithful call ((firstOf callers).past index) := .nil call
  refine past_of_reaches hfirst ?_ hreaches
  intro earlier action next answer hearlier hprogram hfaithful
  exact hfaithful.record (permits_of_boundary hearlier hcaller hprogram)

theorem mem_past (hhistory : execution.history = before ++ entry :: after) :
    entry.exchange ∈ execution.past entry.thread := by
  refine List.mem_map.mpr ⟨entry, List.mem_filter.mpr ⟨?_, beq_self_eq_true _⟩, rfl⟩
  rw [hhistory]
  exact List.mem_append_right _ List.mem_cons_self

/-- What was exchanged was permitted at the time, and the slot was then what had been put there. -/
theorem exists_moment (hreaches : Reaches (boundaryWorld callers) (firstOf callers) execution)
    (hhistory : execution.history = before ++ entry :: after) :
    ∃ earlier thread call, Reaches (boundaryWorld callers) (firstOf callers) earlier ∧
      earlier.history = before ∧ callers[entry.thread]? = some (thread, call) ∧
      call.Permits (standingOf earlier entry.thread) entry.exchange.action ∧
      earlier.state.Answers thread entry.state entry.exchange := by
  obtain ⟨earlier, next, hearlier, hbefore, hprogram, -, thread, call, hcaller, hanswers⟩ :=
    exists_reaches_of_mem_history hreaches rfl hhistory
  exact ⟨earlier, thread, call, hearlier, hbefore, hcaller,
    permits_of_boundary hearlier hcaller hprogram, hanswers⟩

theorem slot_of_answers {state later : Boundary ε} {exchange : Exchange ε}
    (hanswers : state.Answers thread later exchange) :
    later.slot = (put? exchange).or state.slot := by
  obtain ⟨action, answer⟩ := exchange
  cases action with
  | lockSlot | lockEngine | readSlot | readLastError =>
      obtain ⟨-, rfl⟩ := hanswers
      rfl
  | _ =>
      obtain rfl := hanswers
      rfl

/-- The slot holds what was put there last. -/
theorem slot_of_reaches (hreaches : Reaches (boundaryWorld callers) (firstOf callers) execution) :
    execution.state.slot = slotAfter execution.history := by
  induction hreaches with
  | refl => rfl
  | tail hearlier hstep ih =>
      cases hstep with
      | drift hdrift => exact hdrift.elim
      | act hprogram hanswer =>
          obtain ⟨-, _, _, -, hanswers⟩ := hanswer
          rw [Execution.record, slotAfter_append_singleton, ← ih]
          exact slot_of_answers hanswers

/-- A slot that is filled stays filled. -/
theorem isSome_slot_of_reaches {later : Execution ε Value (Boundary ε)}
    (hfilled : execution.state.slot.isSome = true)
    (hreaches : Reaches (boundaryWorld callers) execution later) :
    later.state.slot.isSome = true := by
  induction hreaches with
  | refl => exact hfilled
  | tail _ hstep ih =>
      cases hstep with
      | drift hdrift => exact hdrift.elim
      | act hprogram hanswer =>
          obtain ⟨-, _, _, -, hanswers⟩ := hanswer
          rw [Execution.record, slot_of_answers hanswers, Option.isSome_or, ih, Bool.or_true]

/-! ## Who puts what there -/

/-- An entry of a call that may replace a bridge. -/
def Replaces (callers : List (Nat × Call ε)) (entry : Entry ε (Boundary ε)) : Prop :=
  (put? entry.exchange).isSome = true ∧
    ∃ thread call, callers[entry.thread]? = some (thread, call) ∧ call.replaces = true

/-- What knows the slot to be empty finds it so. -/
theorem slotAfter_of_seen
    (hreaches : Reaches (boundaryWorld callers) (firstOf callers) execution)
    (hseen : (standingOf execution index).seen = some none) :
    slotAfter execution.history = none := by
  obtain ⟨_, _, hconsistent⟩ := consistent_of_reaches hreaches
  rw [← slot_of_reaches hreaches]
  exact (hconsistent.seen index none hseen).2

/-- All others fill the slot only while it is empty. -/
theorem slotAfter_eq_none (hreaches : Reaches (boundaryWorld callers) (firstOf callers) execution)
    (hhistory : execution.history = before ++ entry :: after)
    (hput : (put? entry.exchange).isSome = true) (hreplaces : ¬ Replaces callers entry) :
    slotAfter before = none := by
  obtain ⟨earlier, thread, call, hearlier, rfl, hcaller, hpermits, -⟩ :=
    exists_moment hreaches hhistory
  obtain ⟨index, ⟨action, answer⟩, state⟩ := entry
  cases action with
  | fillSlot bridge =>
      rcases permits_fillSlot hpermits with howed | ⟨-, hsupplies⟩
      · exact slotAfter_of_seen hearlier (Standing.seen_of_owed howed)
      · exact absurd ⟨hput, thread, call, hcaller, replaces_of_supplies hsupplies⟩ hreplaces
  | _ => cases hput

/-- A call that replaces nothing loads only while the slot is empty. -/
theorem slotAfter_of_load {path : Option Path}
    (hreaches : Reaches (boundaryWorld callers) (firstOf callers) execution)
    (hhistory : execution.history = before ++ entry :: after)
    (hload : entry.exchange.action = .load path)
    (hcaller : callers[entry.thread]? = some (thread, call)) (hreplaces : call.replaces = false) :
    slotAfter before = none ∧ path = none := by
  obtain ⟨earlier, _, _, hearlier, rfl, hcaller', hpermits, -⟩ := exists_moment hreaches hhistory
  cases hcaller.symm.trans hcaller'
  rw [hload] at hpermits
  obtain ⟨hseen, hpath⟩ := seen_of_loads hreplaces (loads_of_permits hpermits).2
  exact ⟨slotAfter_of_seen hearlier hseen, hpath⟩

/-- A load that fails leaves the slot as it was, and its call puts nothing there. -/
theorem slot_of_failed {path : Option Path} {error : LibraryError}
    (hreaches : Reaches (boundaryWorld callers) (firstOf callers) execution)
    (hhistory : execution.history = before ++ entry :: after)
    (hload : entry.exchange = ⟨.load path, .error error⟩) :
    entry.state.slot = slotAfter before ∧
      ∀ exchange ∈ execution.past entry.thread, put? exchange = none := by
  obtain ⟨earlier, thread, call, hearlier, rfl, hcaller, -, hanswers⟩ :=
    exists_moment hreaches hhistory
  constructor
  · rw [slot_of_answers hanswers, slot_of_reaches hearlier, hload]
    rfl
  · intro exchange hexchange
    have hfaithful := faithful_of_reaches hreaches hcaller
    obtain ⟨hloaded, hcall⟩ := hfaithful.loaded path _ (hload ▸ mem_past hhistory)
    by_contra hput
    rcases hfaithful.supplied exchange hexchange (Option.isSome_iff_ne_none.mpr hput) with
      ⟨bridge, hinstall⟩ | ⟨engine, hworked⟩
    · exact hcall bridge hinstall
    · cases hloaded.symm.trans hworked

/-! ## What a load leads to -/

/-- Whether an exchange reads the slot or fills it. -/
def touches (exchange : Exchange ε) : Bool :=
  match exchange.action with
  | .readSlot | .fillSlot _ => true
  | _ => false

/-- What a call owes it owes until something happens to the slot. -/
theorem owed_of_untouched {bridge : Bridge ε} {middle : List (Entry ε (Boundary ε))}
    (hreaches : Reaches (boundaryWorld callers) (firstOf callers) execution)
    (hhistory : execution.history = before ++ middle)
    (howed : (Standing.ofPast (pastOf before index)).owed = some bridge)
    (huntouched : ∀ entry ∈ middle, touches entry.exchange = false) :
    (standingOf execution index).owed = some bridge := by
  induction middle using List.reverseRecOn generalizing execution with
  | nil => rwa [standingOf, Execution.past, hhistory, List.append_nil]
  | append_singleton middle last ih =>
      rw [← List.append_assoc] at hhistory
      obtain ⟨earlier, _, call, hearlier, hmiddle, -, hpermits, -⟩ :=
        exists_moment hreaches hhistory
      have howes := ih hearlier hmiddle fun entry hentry =>
        huntouched entry (List.mem_append_left _ hentry)
      rw [standingOf, Execution.past, hhistory, ← hmiddle, pastOf_append_singleton]
      split
      · next hself =>
          -- it could do nothing but pay
          rw [hself] at hpermits
          unfold Call.Permits at hpermits
          rw [howes] at hpermits
          have huntouched := huntouched last (List.mem_append_right _ List.mem_cons_self)
          rw [touches, hpermits] at huntouched
          cases huntouched
      · exact howes

/-- What touches the slot has its lock. -/
theorem slotLock_of_touches {earlier : Execution ε Value (Boundary ε)} {exchange : Exchange ε}
    (hearlier : Reaches (boundaryWorld callers) (firstOf callers) earlier)
    (hpermits : call.Permits (standingOf earlier index) exchange.action)
    (htouches : touches exchange = true) : (standingOf earlier index).slotLock = true := by
  obtain ⟨_, _, hconsistent⟩ := consistent_of_reaches hearlier
  obtain ⟨action, answer⟩ := exchange
  cases action with
  | readSlot => exact (hpermits.allows nofun).1
  | fillSlot bridge => exact hconsistent.slotLock_of_fill hpermits
  | _ => cases htouches

/-- After a load because of an empty slot, the next thing that happens to the slot is that the
call which loaded puts a bridge there. -/
theorem next_of_load {path : Option Path} {engine : ε} {middle : List (Entry ε (Boundary ε))}
    {loaded next : Entry ε (Boundary ε)}
    (hreaches : Reaches (boundaryWorld callers) (firstOf callers) execution)
    (hhistory : execution.history = before ++ loaded :: (middle ++ next :: after))
    (hload : loaded.exchange = ⟨.load path, .ok engine⟩)
    (hcaller : callers[loaded.thread]? = some (thread, call)) (hreplaces : call.replaces = false)
    (huntouched : ∀ entry ∈ middle, touches entry.exchange = false)
    (htouches : touches next.exchange = true) :
    next.thread = loaded.thread ∧ next.exchange = ⟨.fillSlot ⟨engine, .default⟩, ()⟩ := by
  obtain ⟨first, _, _, hfirst, hbefore, hcaller', hpermits, -⟩ := exists_moment hreaches hhistory
  cases hcaller.symm.trans hcaller'
  have howed : (Standing.ofPast (pastOf (before ++ [loaded]) loaded.thread)).owed =
      some ⟨engine, .default⟩ := by
    rw [hload] at hpermits
    have hseen := (seen_of_loads hreplaces (loads_of_permits hpermits).2).1
    rw [standingOf, Execution.past, hbefore] at hseen
    rw [pastOf_append_singleton, if_pos rfl, Standing.ofPast_append_singleton, hload,
      Standing.owed_eq_some_iff]
    exact ⟨hseen, engine, rfl, rfl⟩
  rw [← List.singleton_append, ← List.append_assoc, ← List.append_assoc] at hhistory
  obtain ⟨earlier, _, other, hearlier, hmiddle, -, hpermits, -⟩ := exists_moment hreaches hhistory
  have howes := owed_of_untouched hearlier hmiddle howed huntouched
  have hholds := slotLock_of_touches hearlier hpermits htouches
  have hsame : next.thread = loaded.thread := by
    obtain ⟨_, _, hconsistent⟩ := consistent_of_reaches hearlier
    have hseen := hconsistent.seen _ none (Standing.seen_of_owed howes)
    exact hconsistent.slotLock.eq_of_holds hseen.1 hholds
  refine ⟨hsame, ?_⟩
  rw [hsame] at hpermits
  unfold Call.Permits at hpermits
  rw [howes] at hpermits
  obtain ⟨_, ⟨action, answer⟩, _⟩ := next
  obtain rfl : action = _ := hpermits
  rfl

/-- A call that loaded because of an empty slot does not return before it has put a bridge
there. -/
theorem mem_past_of_done {path : Option Path} {engine : ε} {value : Value}
    (hreaches : Reaches (boundaryWorld callers) (firstOf callers) execution)
    (hcaller : callers[index]? = some (thread, call)) (hreplaces : call.replaces = false)
    (hload : ⟨.load path, .ok engine⟩ ∈ execution.past index)
    (hdone : execution.programs[index]? = some (.done value)) :
    ⟨.fillSlot ⟨engine, .default⟩, ()⟩ ∈ execution.past index := by
  have hfaithful := faithful_of_reaches hreaches hcaller
  have hfree := (answered_of_boundary hreaches hcaller hdone).2
  rcases hfaithful.paid engine (hfaithful.loaded path _ hload).1 hreplaces with howed | hpaid
  · cases hfree.owed.symm.trans howed
  · exact hpaid

/-- A call that loaded asks no engine but the one that it bound. -/
theorem engine_of_loaded {path : Option Path} {engine other : ε} {exchange : Exchange ε}
    (hreaches : Reaches (boundaryWorld callers) (firstOf callers) execution)
    (hcaller : callers[index]? = some (thread, call)) (hreplaces : call.replaces = false)
    (hload : ⟨.load path, .ok engine⟩ ∈ execution.past index)
    (hexchange : exchange ∈ execution.past index)
    (hasked : engineAsked? exchange.action = some other) : other = engine := by
  have hfaithful := faithful_of_reaches hreaches hcaller
  have hother := hfaithful.asked exchange hexchange other hasked
  rcases hfaithful.paid engine (hfaithful.loaded path _ hload).1 hreplaces with howed | hpaid
  · rw [hfaithful.empty (Standing.seen_of_owed howed)] at hother
    cases hother
  · rw [hfaithful.put _ hpaid ⟨engine, .default⟩ rfl] at hother
    exact (Option.some.inj hother).symm

/-! ## Whom a bridge serves -/

/-- A bridge stays in the slot until it is replaced. -/
theorem slotAfter_of_unreplaced {bridge : Bridge ε} {middle : List (Entry ε (Boundary ε))}
    (hreaches : Reaches (boundaryWorld callers) (firstOf callers) execution)
    (hhistory : execution.history = before ++ middle) (hbridge : slotAfter before = some bridge)
    (hunreplaced : ∀ entry ∈ middle, ¬ Replaces callers entry) :
    slotAfter execution.history = some bridge := by
  induction middle using List.reverseRecOn generalizing execution with
  | nil => rwa [hhistory, List.append_nil]
  | append_singleton middle last ih =>
      rw [← List.append_assoc] at hhistory
      obtain ⟨earlier, _, _, hearlier, hmiddle, -, -, -⟩ := exists_moment hreaches hhistory
      have hkept := ih hearlier hmiddle fun entry hentry =>
        hunreplaced entry (List.mem_append_left _ hentry)
      have hsilent : put? last.exchange = none := by
        by_contra hput
        have hnone := slotAfter_eq_none hreaches hhistory (Option.isSome_iff_ne_none.mpr hput)
          (hunreplaced last (List.mem_append_right _ List.mem_cons_self))
        rw [← hmiddle, hkept] at hnone
        cases hnone
      rw [hhistory, slotAfter_append_singleton, hsilent, Option.none_or, ← hmiddle, hkept]

/-- A call that found a bridge in the slot, and asks no engine but its. -/
structure Uses (bridge : Bridge ε) (past : List (Exchange ε)) : Prop where
  found : ⟨.readSlot, some bridge⟩ ∈ past
  asked : ∀ exchange ∈ past, ∀ engine, engineAsked? exchange.action = some engine →
    engine = bridge.engine

/-- All that read the slot after a bridge was put there, and before it is replaced, use it. -/
theorem uses_of_read {bridge : Bridge ε} {middle : List (Entry ε (Boundary ε))}
    {filled read : Entry ε (Boundary ε)}
    (hreaches : Reaches (boundaryWorld callers) (firstOf callers) execution)
    (hhistory : execution.history = before ++ filled :: (middle ++ read :: after))
    (hfilled : put? filled.exchange = some bridge) (hread : read.exchange.action = .readSlot)
    (hunreplaced : ∀ entry ∈ middle, ¬ Replaces callers entry) :
    Uses bridge (execution.past read.thread) := by
  rw [← List.singleton_append, ← List.append_assoc, ← List.append_assoc] at hhistory
  obtain ⟨earlier, _, call, hearlier, hmiddle, hcaller, -, hanswers⟩ :=
    exists_moment hreaches hhistory
  have hslot : earlier.state.slot = some bridge := by
    rw [slot_of_reaches hearlier]
    refine slotAfter_of_unreplaced hearlier hmiddle ?_ hunreplaced
    rw [slotAfter_append_singleton, hfilled, Option.some_or]
  have hfound : ⟨.readSlot, some bridge⟩ ∈ execution.past read.thread := by
    have hmem := mem_past hhistory
    obtain ⟨_, ⟨action, answer⟩, _⟩ := read
    obtain rfl : action = _ := hread
    obtain ⟨rfl, -⟩ := hanswers
    rwa [hslot] at hmem
  have hfaithful := faithful_of_reaches hreaches hcaller
  refine ⟨hfound, fun exchange hexchange engine hasked => ?_⟩
  have hengine := hfaithful.asked exchange hexchange engine hasked
  rw [hfaithful.found bridge hfound, Option.map_some] at hengine
  exact (Option.some.inj hengine).symm

/-! ## Initialization -/

theorem exists_of_mem_past {exchange : Exchange ε} (hpast : exchange ∈ execution.past index) :
    ∃ before entry after, execution.history = before ++ entry :: after ∧
      entry.thread = index ∧ entry.exchange = exchange := by
  obtain ⟨entry, hentry, rfl⟩ := List.mem_map.mp hpast
  obtain ⟨hmem, hself⟩ := List.mem_filter.mp hentry
  obtain ⟨before, after, hhistory⟩ := List.append_of_mem hmem
  exact ⟨before, entry, after, hhistory, eq_of_beq hself, rfl⟩

theorem ends_load {config : Config} {exchanges : List (Exchange ε)} {bridge : Bridge ε}
    (hends : (Bridge.load config).Ends exchanges (.ok bridge)) :
    ∃ engine, exchanges = [⟨.load config.libraryPath, .ok engine⟩] ∧ bridge = ⟨engine, config⟩ := by
  obtain ⟨answer, rest, rfl, hrest⟩ := ends_perform_bind_iff.mp hends
  cases answer with
  | error error => cases (ends_pure_iff.mp hrest).2
  | ok engine =>
      obtain ⟨rfl, hbridge⟩ := ends_pure_iff.mp hrest
      exact ⟨engine, rfl, by cases hbridge; rfl⟩

/-- An initialization that returned true has bound the library that was asked for, and put a bridge
over it into the slot. -/
theorem past_of_initialized {text : Text}
    (hreaches : Reaches (boundaryWorld callers) (firstOf callers) execution)
    (hcaller : callers[index]? = some (thread, .init text))
    (hdone : execution.programs[index]? = some (.done (.truth true))) :
    ∃ path engine, requestedPath text = .ok path ∧ execution.past index =
      [⟨.load path, .ok engine⟩, ⟨.lockSlot, ()⟩,
        ⟨.fillSlot ⟨engine, { Config.default with libraryPath := path }⟩, ()⟩,
        ⟨.unlockSlot, ()⟩, ⟨.writeLastError 0, ()⟩] := by
  obtain ⟨hanswered, -⟩ := answered_of_boundary hreaches hcaller hdone
  generalize execution.past index = past at hanswered
  cases hanswered with
  | initialized hpath hloaded =>
      obtain ⟨engine, rfl, rfl⟩ := ends_load hloaded
      exact ⟨_, engine, hpath, rfl⟩
  | operated hoperation => cases hoperation

/-- From an initialization that returned true on, its bridge serves all that read the slot. -/
theorem exists_served_of_initialized {text : Text}
    (hreaches : Reaches (boundaryWorld callers) (firstOf callers) execution)
    (hcaller : callers[index]? = some (thread, .init text))
    (hdone : execution.programs[index]? = some (.done (.truth true))) :
    ∃ path engine before filled after, requestedPath text = .ok path ∧
      ⟨.load path, .ok engine⟩ ∈ execution.past index ∧
      execution.history = before ++ filled :: after ∧ filled.thread = index ∧
      put? filled.exchange = some ⟨engine, { Config.default with libraryPath := path }⟩ ∧
      ∀ middle read rest, after = middle ++ read :: rest → read.exchange.action = .readSlot →
        (∀ entry ∈ middle, ¬ Replaces callers entry) →
        Uses ⟨engine, { Config.default with libraryPath := path }⟩
          (execution.past read.thread) := by
  obtain ⟨path, engine, hpath, hpast⟩ := past_of_initialized hreaches hcaller hdone
  have hload : ⟨.load path, .ok engine⟩ ∈ execution.past index := by
    rw [hpast]
    exact List.mem_cons_self
  have hfill : ⟨.fillSlot ⟨engine, { Config.default with libraryPath := path }⟩, ()⟩ ∈
      execution.past index := by
    rw [hpast]
    exact List.mem_cons_of_mem _ (List.mem_cons_of_mem _ List.mem_cons_self)
  obtain ⟨before, filled, after, hhistory, hself, hfilled⟩ := exists_of_mem_past hfill
  have hput := congrArg put? hfilled
  refine ⟨path, engine, before, filled, after, hpath, hload, hhistory, hself, hput, ?_⟩
  rintro middle read rest rfl hread hunreplaced
  exact uses_of_read hreaches hhistory hput hread hunreplaced

end

/-! ## The slot in executions -/

/-- A slot that is filled when it is empty, and replaced by installations and initializations
alone. -/
structure SlotKept (callers : List (Nat × Call ε))
    (execution : Execution ε Value (Boundary ε)) : Prop where
  /-- The slot holds the bridge that was put there last. -/
  slot : execution.state.slot = slotAfter execution.history
  /-- Once it is filled, it is never empty again. -/
  filled : execution.state.slot.isSome = true → ∀ later,
    Reaches (boundaryWorld callers) execution later → later.state.slot.isSome = true
  /-- A load that fails leaves it as it was, and the call that made it puts nothing there at any
  time. -/
  failed : ∀ before loaded after path error, execution.history = before ++ loaded :: after →
    loaded.exchange = ⟨.load path, .error error⟩ → loaded.state.slot = slotAfter before ∧
      ∀ exchange ∈ execution.past loaded.thread, put? exchange = none
  /-- Calls that only need a bridge load one while the slot is empty, and at no other time. -/
  empty : ∀ before loaded after path thread call, execution.history = before ++ loaded :: after →
    loaded.exchange.action = .load path → callers[loaded.thread]? = some (thread, call) →
    call.replaces = false → slotAfter before = none ∧ path = none
  /-- If they succeed, then nothing happens to the slot before the bridge is put there. -/
  stored : ∀ before loaded middle next after path engine thread call,
    execution.history = before ++ loaded :: (middle ++ next :: after) →
    loaded.exchange = ⟨.load path, .ok engine⟩ → callers[loaded.thread]? = some (thread, call) →
    call.replaces = false → (∀ entry ∈ middle, touches entry.exchange = false) →
    touches next.exchange = true →
    next.thread = loaded.thread ∧ next.exchange = ⟨.fillSlot ⟨engine, .default⟩, ()⟩
  /-- They do put it there before they return, and use it themselves. -/
  used : ∀ index thread call path engine, callers[index]? = some (thread, call) →
    call.replaces = false → ⟨.load path, .ok engine⟩ ∈ execution.past index →
    (∀ value, execution.programs[index]? = some (.done value) →
      ⟨.fillSlot ⟨engine, .default⟩, ()⟩ ∈ execution.past index) ∧
    ∀ exchange ∈ execution.past index, ∀ other, engineAsked? exchange.action = some other →
      other = engine
  /-- Calls that need a bridge read the slot before they ask an engine. -/
  read : ∀ index thread call exchange engine, callers[index]? = some (thread, call) →
    call.replaces = false → exchange ∈ execution.past index →
    engineAsked? exchange.action = some engine →
    ∃ found, ⟨.readSlot, found⟩ ∈ execution.past index
  /-- A bridge in the slot is replaced by nothing but an installation or an initialization. -/
  kept : ∀ before entry after, execution.history = before ++ entry :: after →
    (put? entry.exchange).isSome = true → ¬ Replaces callers entry → slotAfter before = none
  /-- Until then, it is used by all that read the slot. -/
  served : ∀ before filled middle read after bridge,
    execution.history = before ++ filled :: (middle ++ read :: after) →
    put? filled.exchange = some bridge → read.exchange.action = .readSlot →
    (∀ entry ∈ middle, ¬ Replaces callers entry) → Uses bridge (execution.past read.thread)
  /-- An initialization that returned true has bound the library that was asked for, and a bridge
  over it is used by all that read the slot from then on, until there is another installation or
  initialization.  These count from when they put their bridges there. -/
  initialized : ∀ index thread text, callers[index]? = some (thread, .init text) →
    execution.programs[index]? = some (.done (.truth true)) →
    ∃ path engine before filled after, requestedPath text = .ok path ∧
      ⟨.load path, .ok engine⟩ ∈ execution.past index ∧
      execution.history = before ++ filled :: after ∧ filled.thread = index ∧
      put? filled.exchange = some ⟨engine, { Config.default with libraryPath := path }⟩ ∧
      ∀ middle read rest, after = middle ++ read :: rest → read.exchange.action = .readSlot →
        (∀ entry ∈ middle, ¬ Replaces callers entry) →
        Uses ⟨engine, { Config.default with libraryPath := path }⟩ (execution.past read.thread)

/-- **The slot is kept**, whatever calls are made, by whatever threads, in whatever order their
steps are taken, and whatever loads come to. -/
theorem slotKept_of_reaches (callers : List (Nat × Call ε))
    (execution : Execution ε Value (Boundary ε))
    (hreaches : Reaches (boundaryWorld callers) (firstOf callers) execution) :
    SlotKept callers execution where
  slot := slot_of_reaches hreaches
  filled hfilled _ hlater := isSome_slot_of_reaches hfilled hlater
  failed _ _ _ _ _ hhistory hload := slot_of_failed hreaches hhistory hload
  empty _ _ _ _ _ _ hhistory hload hcaller hreplaces :=
    slotAfter_of_load hreaches hhistory hload hcaller hreplaces
  stored _ _ _ _ _ _ _ _ _ hhistory hload hcaller hreplaces huntouched htouches :=
    next_of_load hreaches hhistory hload hcaller hreplaces huntouched htouches
  used _ _ _ _ _ hcaller hreplaces hload :=
    ⟨fun _ hdone => mem_past_of_done hreaches hcaller hreplaces hload hdone,
      fun _ hexchange _ hasked =>
        engine_of_loaded hreaches hcaller hreplaces hload hexchange hasked⟩
  read _ _ _ _ _ hcaller hreplaces hexchange hasked :=
    (faithful_of_reaches hreaches hcaller).exists_read hreplaces hexchange hasked
  kept _ _ _ hhistory hput hreplaces := slotAfter_eq_none hreaches hhistory hput hreplaces
  served _ _ _ _ _ _ hhistory hfilled hread hunreplaced :=
    uses_of_read hreaches hhistory hfilled hread hunreplaced
  initialized _ _ _ hcaller hdone := exists_served_of_initialized hreaches hcaller hdone

/-- Calls of two threads.  One asks for a library at `/n` and one for a library at `/g`; the others
take what is there. -/
def libraryCalls : List (Nat × Call EngineRef) :=
  [(0, .isAvailable), (0, .version), (1, .init (some [47, 110])), (1, .init (some [47, 103])),
    (1, .version)]

/-- The first of the calls has found no library. -/
def withoutLibrary : Process :=
  (Process.start libraryCalls (.start default [("GS_LIB_PATH", [47, 103])] .default)).follow
    [0, 0, 0, 0, 0]

/-- A library has come to be at `/g`. -/
def withLibrary : Process :=
  ⟨libraryCalls, withoutLibrary.programs, { withoutLibrary.host with
    workspace := { (default : Workspace) with
      store := ⟨[([[103]], .library LibrarySearch.symbols 0)]⟩ } }⟩

/-- The second call binds the library, as the slot is empty, while the third one fails; and the
fourth replaces its bridge. -/
theorem slotKept_of_reaches_libraryCalls :
    ∃ (process : Process) (history : List (Entry EngineRef (Boundary EngineRef))),
      Reaches (boundaryWorld libraryCalls) (firstOf libraryCalls)
        ⟨process.programs, history, process.host.boundary⟩ ∧
      process.values = [some (.truth false), some (.text (some "10.02.1-20230913")),
        some (.truth false), some (.truth true), some (.text (some "10.02.1-20230913"))] ∧
      SlotKept libraryCalls ⟨process.programs, history, process.host.boundary⟩ := by
  obtain ⟨early, hearly⟩ := exists_reaches_follow
    (.start libraryCalls (.start default [("GS_LIB_PATH", [47, 103])] .default)) [0, 0, 0, 0, 0] []
  have hchange : Step (processWorld libraryCalls)
      ⟨withoutLibrary.programs, early, withoutLibrary.host⟩
      ⟨withLibrary.programs, early, withLibrary.host⟩ := .drift rfl
  obtain ⟨history, hlate⟩ := exists_reaches_follow withLibrary
    [1, 1, 1, 2, 2, 3, 3, 1, 1, 1, 1, 3, 3, 3, 3, 4, 4, 4, 4, 4] early
  have hreaches := reaches_of_process ((hearly.tail hchange).trans hlate)
  exact ⟨_, _, hreaches, by decide +kernel, slotKept_of_reaches libraryCalls _ hreaches⟩

end EpsBridge.Foreign
