import EpsBridge.Text.Pattern
import Mathlib.Data.List.Basic

/-!
# What patterns match

What a pattern takes depends on the pieces of its parts and on the characters around them:
`Takes` is the language of a pattern, by recursion on the pattern.  The ways in which the
pattern is tried at a place are the pieces of its language there, and no others
(`mem_ways_iff`).
-/

namespace EpsBridge.Text.Pattern

variable {accepts : Char → Bool} {pattern first second : Pattern} {patterns : List Pattern}
  {place between after : Place} {previous : Option Char} {text rest : List Char}
  {groups : List (List Char)} {way : Way}

/-! ## Places -/

/-- A piece of text leads from a place to a place. -/
structure Place.Passes (place : Place) (text : List Char) (after : Place) : Prop where
  rest : place.rest = text ++ after.rest
  previous : after.previous = text.getLast?.or place.previous

namespace Place.Passes

theorem nil (place : Place) : place.Passes [] place := ⟨rfl, rfl⟩

theorem eq_of_nil (hpasses : place.Passes [] after) : after = place := by
  obtain ⟨previous, rest⟩ := after
  obtain ⟨hrest, hprevious⟩ := hpasses
  exact Place.mk.injEq .. ▸ ⟨hprevious, hrest.symm⟩

theorem trans {behind : List Char} (hfirst : place.Passes text between)
    (hsecond : between.Passes behind after) : place.Passes (text ++ behind) after where
  rest := by rw [hfirst.rest, hsecond.rest, List.append_assoc]
  previous := by rw [hsecond.previous, hfirst.previous, List.getLast?_append, Option.or_assoc]

theorem cons {c : Char} (hpasses : Passes ⟨some c, rest⟩ text after) :
    Passes ⟨previous, c :: rest⟩ (c :: text) after :=
  have hone : Passes ⟨previous, c :: rest⟩ [c] ⟨some c, rest⟩ := ⟨rfl, rfl⟩
  hone.trans hpasses

theorem of_cons {c : Char} (hpasses : Passes ⟨previous, c :: rest⟩ (c :: text) after) :
    Passes ⟨some c, rest⟩ text after := by
  obtain ⟨hrest, hprevious⟩ := hpasses
  refine ⟨List.cons.inj hrest |>.2, ?_⟩
  rw [hprevious, ← List.singleton_append, List.getLast?_append, Option.or_assoc]
  rfl

theorem take_eq (hpasses : place.Passes text after) : place.rest.take text.length = text := by
  rw [hpasses.rest, List.take_left]

end Place.Passes

theorem isBorder_iff {beside : Option Char} :
    isBorder beside = true ↔ beside = none ∨ beside = some '\n' := by
  cases beside <;> simp [isBorder]

/-! ## Languages -/

/-- A pattern takes a piece of text between a character and the rest of the text, and its
groups take what they take. -/
def Takes : Pattern → Option Char → List Char → List Char → List (List Char) → Prop
  | empty, _, text, _, groups => text = [] ∧ groups = []
  | one accepts, _, text, _, groups => (∃ c, accepts c = true ∧ text = [c]) ∧ groups = []
  | many accepts, _, text, _, groups => (∀ c ∈ text, accepts c = true) ∧ groups = []
  | either first second, previous, text, rest, groups =>
    first.Takes previous text rest groups ∨ second.Takes previous text rest groups
  | sequence first second, previous, text, rest, groups =>
    ∃ front behind early late, text = front ++ behind ∧ groups = early ++ late ∧
      first.Takes previous front (behind ++ rest) early ∧
      second.Takes (front.getLast?.or previous) behind rest late
  | group inside, previous, text, rest, groups =>
    ∃ others, groups = text :: others ∧ inside.Takes previous text rest others
  | lineStart, previous, text, _, groups => isBorder previous = true ∧ text = [] ∧ groups = []
  | lineEnd, _, text, rest, groups => isBorder rest.head? = true ∧ text = [] ∧ groups = []

/-! ## Patterns made of others -/

theorem takes_all_nil : (all []).Takes previous text rest groups ↔ text = [] ∧ groups = [] :=
  Iff.rfl

theorem takes_all_cons : (all (pattern :: patterns)).Takes previous text rest groups ↔
    ∃ front behind early late, text = front ++ behind ∧ groups = early ++ late ∧
      pattern.Takes previous front (behind ++ rest) early ∧
      (all patterns).Takes (front.getLast?.or previous) behind rest late :=
  Iff.rfl

theorem takes_literal {key : List Char} :
    (literal key).Takes previous text rest groups ↔ text = key ∧ groups = [] := by
  induction key generalizing previous text groups with
  | nil => exact takes_all_nil
  | cons c key ih =>
      have hcons : literal (c :: key) = all ((one (· = c)) :: key.map fun c => one (· = c)) := rfl
      rw [hcons, takes_all_cons]
      constructor
      · rintro ⟨_, behind, _, late, rfl, rfl, ⟨⟨d, hd, rfl⟩, rfl⟩, hlater⟩
        obtain ⟨rfl, rfl⟩ := ih.mp hlater
        obtain rfl : d = c := by simpa using hd
        exact ⟨rfl, rfl⟩
      · rintro ⟨rfl, rfl⟩
        exact ⟨[c], key, [], [], rfl, rfl, ⟨⟨c, decide_eq_true rfl, rfl⟩, rfl⟩,
          ih.mpr ⟨rfl, rfl⟩⟩

theorem takes_atLeastOne : (atLeastOne accepts).Takes previous text rest groups ↔
    (text ≠ [] ∧ ∀ c ∈ text, accepts c = true) ∧ groups = [] := by
  constructor
  · rintro ⟨_, behind, _, late, rfl, rfl, ⟨⟨c, hc, rfl⟩, rfl⟩, haccepted, rfl⟩
    exact ⟨⟨nofun, List.forall_mem_cons.mpr ⟨hc, haccepted⟩⟩, rfl⟩
  · rintro ⟨⟨hne, haccepted⟩, rfl⟩
    obtain ⟨c, behind, rfl⟩ := List.exists_cons_of_ne_nil hne
    obtain ⟨hc, haccepted⟩ := List.forall_mem_cons.mp haccepted
    exact ⟨[c], behind, [], [], rfl, rfl, ⟨⟨c, hc, rfl⟩, rfl⟩, haccepted, rfl⟩

theorem takes_optional : (optional accepts).Takes previous text rest groups ↔
    (text = [] ∨ ∃ c, accepts c = true ∧ text = [c]) ∧ groups = [] := by
  simp only [optional, Takes, ← or_and_right, or_comm]

/-! ## Ways of taking many characters -/

/-- A way of taking a piece made of characters of a class, after some were taken. -/
structure Way.Runs (way : Way) (accepts : Char → Bool) (taken : Nat) (place : Place)
    (text : List Char) : Prop where
  passes : place.Passes text way.after
  taken : way.taken = taken + text.length
  accepted : ∀ c ∈ text, accepts c = true
  groups : way.groups = []

theorem runs_nil_iff {taken : Nat} :
    way.Runs accepts taken place [] ↔ way = ⟨[], taken, place⟩ := by
  constructor
  · rintro ⟨hpasses, htaken, -, hgroups⟩
    obtain ⟨groups, number, after⟩ := way
    obtain rfl : after = place := hpasses.eq_of_nil
    obtain rfl : groups = [] := hgroups
    obtain rfl : number = taken := htaken
    rfl
  · rintro rfl
    exact ⟨.nil place, rfl, nofun, rfl⟩

theorem runs_cons_iff {taken : Nat} {c : Char} :
    way.Runs accepts taken ⟨previous, rest⟩ (c :: text) ↔
      ∃ more, rest = c :: more ∧ accepts c = true ∧
        way.Runs accepts (taken + 1) ⟨some c, more⟩ text := by
  constructor
  · rintro ⟨hpasses, htaken, haccepted, hgroups⟩
    obtain ⟨hc, haccepted⟩ := List.forall_mem_cons.mp haccepted
    obtain ⟨more, rfl⟩ : ∃ more, rest = c :: more := ⟨_, hpasses.rest⟩
    refine ⟨more, rfl, hc, hpasses.of_cons, ?_, haccepted, hgroups⟩
    rw [htaken, List.length_cons]
    omega
  · rintro ⟨more, rfl, hc, hpasses, htaken, haccepted, hgroups⟩
    refine ⟨hpasses.cons, ?_, List.forall_mem_cons.mpr ⟨hc, haccepted⟩, hgroups⟩
    rw [htaken, List.length_cons]
    omega

/-- To take many characters is to stop, or to take one that is accepted and then more. -/
theorem exists_runs_iff {taken : Nat} :
    (∃ text, way.Runs accepts taken ⟨previous, rest⟩ text) ↔
      way = ⟨[], taken, ⟨previous, rest⟩⟩ ∨
        ∃ c more, rest = c :: more ∧ accepts c = true ∧
          ∃ text, way.Runs accepts (taken + 1) ⟨some c, more⟩ text := by
  constructor
  · rintro ⟨_ | ⟨c, text⟩, hruns⟩
    · exact .inl (runs_nil_iff.mp hruns)
    · obtain ⟨more, hrest, hc, hruns⟩ := runs_cons_iff.mp hruns
      exact .inr ⟨c, more, hrest, hc, text, hruns⟩
  · rintro (hway | ⟨c, more, hrest, hc, text, hruns⟩)
    · exact ⟨[], runs_nil_iff.mpr hway⟩
    · exact ⟨c :: text, runs_cons_iff.mpr ⟨more, hrest, hc, hruns⟩⟩

theorem mem_manyWays_iff {taken : Nat} {fewer : List Way} :
    way ∈ manyWays accepts taken fewer previous rest ↔
      (∃ text, way.Runs accepts taken ⟨previous, rest⟩ text) ∨ way ∈ fewer := by
  induction rest generalizing previous taken fewer with
  | nil =>
      rw [manyWays, exists_runs_iff]
      simp
  | cons d rest ih =>
      rw [manyWays, exists_runs_iff]
      by_cases hd : accepts d = true
      · simp only [if_pos hd, ih, List.mem_cons, List.cons.injEq]
        simp [hd, or_left_comm, or_assoc]
      · simp [hd]

/-! ## Ways of taking a piece -/

/-- A way takes a piece of the language of a pattern. -/
def Way.IsOf (way : Way) (pattern : Pattern) (place : Place) : Prop :=
  ∃ text, place.Passes text way.after ∧ way.taken = text.length ∧
    pattern.Takes place.previous text way.after.rest way.groups

/-- There is one way of taking nothing. -/
theorem exists_nil_iff {allowed : Prop} :
    (∃ text, place.Passes text way.after ∧ way.taken = text.length ∧
      allowed ∧ text = [] ∧ way.groups = []) ↔ allowed ∧ way = place.still := by
  constructor
  · rintro ⟨_, hpasses, htaken, hallowed, rfl, hgroups⟩
    obtain ⟨groups, taken, after⟩ := way
    obtain rfl : after = place := hpasses.eq_of_nil
    obtain rfl : groups = [] := hgroups
    obtain rfl : taken = 0 := htaken
    exact ⟨hallowed, rfl⟩
  · rintro ⟨hallowed, rfl⟩
    exact ⟨[], .nil place, rfl, hallowed, rfl, rfl⟩

theorem isOf_empty_iff : way.IsOf empty place ↔ way = place.still := by
  rw [← true_and (way = place.still), ← exists_nil_iff]
  simp only [Way.IsOf, Takes, true_and]

theorem isOf_one_iff : way.IsOf (one accepts) place ↔
    ∃ c rest, place.rest = c :: rest ∧ accepts c = true ∧ way = ⟨[], 1, ⟨some c, rest⟩⟩ := by
  constructor
  · rintro ⟨_, hpasses, htaken, ⟨c, hc, rfl⟩, hgroups⟩
    obtain ⟨groups, taken, previous, rest⟩ := way
    obtain rfl : groups = [] := hgroups
    obtain rfl : taken = 1 := htaken
    obtain rfl : previous = some c := hpasses.previous
    exact ⟨c, rest, hpasses.rest, hc, rfl⟩
  · rintro ⟨c, rest, hrest, hc, rfl⟩
    exact ⟨[c], ⟨hrest, rfl⟩, rfl, ⟨c, hc, rfl⟩, rfl⟩

theorem isOf_many_iff :
    way.IsOf (many accepts) place ↔ ∃ text, way.Runs accepts 0 place text := by
  constructor
  · rintro ⟨text, hpasses, htaken, haccepted, hgroups⟩
    exact ⟨text, hpasses, by rw [htaken, Nat.zero_add], haccepted, hgroups⟩
  · rintro ⟨text, hpasses, htaken, haccepted, hgroups⟩
    exact ⟨text, hpasses, by rw [htaken, Nat.zero_add], haccepted, hgroups⟩

theorem isOf_either_iff : way.IsOf (either first second) place ↔
    way.IsOf first place ∨ way.IsOf second place := by
  simp only [Way.IsOf, Takes, and_or_left, exists_or]

/-- A piece of a sequence is taken by one way, and another from where that one led. -/
theorem isOf_sequence_iff : way.IsOf (sequence first second) place ↔
    ∃ early : Way, early.IsOf first place ∧ ∃ late : Way, late.IsOf second early.after ∧
      early.followedBy late = way := by
  constructor
  · rintro ⟨_, hpasses, htaken, front, behind, early, late, rfl, hgroups, hfirst, hsecond⟩
    obtain ⟨groups, taken, after⟩ := way
    obtain rfl : groups = early ++ late := hgroups
    obtain rfl : taken = (front ++ behind).length := htaken
    obtain ⟨hrest, hprevious⟩ := hpasses
    refine ⟨⟨early, front.length, ⟨front.getLast?.or place.previous, behind ++ after.rest⟩⟩,
      ⟨front, ⟨?_, rfl⟩, rfl, hfirst⟩, ⟨late, behind.length, after⟩,
      ⟨behind, ⟨rfl, ?_⟩, rfl, hsecond⟩, ?_⟩
    · rw [hrest, List.append_assoc]
    · rw [hprevious, List.getLast?_append, Option.or_assoc]
    · rw [Way.followedBy, List.length_append]
  · rintro ⟨early, ⟨front, hfront, hearly, hfirst⟩, late, ⟨behind, hbehind, hlate, hsecond⟩, rfl⟩
    refine ⟨front ++ behind, hfront.trans hbehind, ?_, front, behind, early.groups, late.groups, rfl,
      rfl, ?_, ?_⟩
    · rw [Way.followedBy, hearly, hlate, List.length_append]
    · rw [Way.followedBy, ← hbehind.rest]
      exact hfirst
    · rw [← hfront.previous]
      exact hsecond

theorem isOf_group_iff {inside : Pattern} : way.IsOf (group inside) place ↔
    ∃ inner : Way, inner.IsOf inside place ∧
      { inner with groups := place.rest.take inner.taken :: inner.groups } = way := by
  constructor
  · rintro ⟨text, hpasses, htaken, others, hgroups, hinside⟩
    obtain ⟨groups, taken, after⟩ := way
    obtain rfl : groups = text :: others := hgroups
    obtain rfl : taken = text.length := htaken
    refine ⟨⟨others, text.length, after⟩, ⟨text, hpasses, rfl, hinside⟩, ?_⟩
    dsimp only
    rw [hpasses.take_eq]
  · rintro ⟨inner, ⟨text, hpasses, htaken, hinside⟩, rfl⟩
    refine ⟨text, hpasses, htaken, inner.groups, ?_, hinside⟩
    dsimp only
    rw [htaken, hpasses.take_eq]

/-- **The ways of a pattern** at a place are the pieces of its language there. -/
theorem mem_ways_iff : way ∈ pattern.ways place ↔ way.IsOf pattern place := by
  induction pattern generalizing place way with
  | empty => rw [ways, List.mem_singleton, isOf_empty_iff]
  | one accepts =>
      obtain ⟨previous, _ | ⟨c, rest⟩⟩ := place
      · simp [ways, isOf_one_iff]
      · by_cases hc : accepts c = true <;> simp [ways, isOf_one_iff, hc]
  | many accepts =>
      rw [ways, mem_manyWays_iff, isOf_many_iff]
      simp
  | either first second ihFirst ihSecond =>
      rw [ways, List.mem_append, ihFirst, ihSecond, isOf_either_iff]
  | sequence first second ihFirst ihSecond =>
      simp only [ways, List.mem_flatMap, List.mem_map, ihFirst, ihSecond, isOf_sequence_iff]
  | group inside ih =>
      simp only [ways, List.mem_map, ih, isOf_group_iff]
  | lineStart =>
      rw [Way.IsOf]
      simp only [Takes, exists_nil_iff]
      by_cases hborder : isBorder place.previous = true <;> simp [ways, hborder]
  | lineEnd =>
      rw [Way.IsOf]
      simp only [Takes, exists_nil_iff]
      by_cases hborder : isBorder place.rest.head? = true
      · simp only [ways, if_pos hborder, List.mem_singleton]
        exact ⟨fun hway => ⟨hway ▸ hborder, hway⟩, And.right⟩
      · simp only [ways, if_neg hborder, List.not_mem_nil, false_iff, not_and]
        rintro hafter rfl
        exact hborder hafter

end EpsBridge.Text.Pattern
