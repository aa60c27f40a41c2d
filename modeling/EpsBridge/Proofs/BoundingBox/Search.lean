import EpsBridge.Proofs.BoundingBox
import EpsBridge.Proofs.Text.Pattern
import EpsBridge.Proofs.Text.Lines

/-!
# Searching for a box

The pattern of a box line matches lines with four numerals, and nothing but whole lines
(`takes_linePattern_iff`).  So a search that stands at the beginning of a line finds that line
or nothing there, and behind the first character it finds nothing up to the next line feed.
By induction on the text, it comes to what the lines give one after another
(`findMap?_linePattern`).  Which digits there are beside those of ASCII makes no difference: a
line with such a digit gives no box, whether or not it is found.
-/

namespace EpsBridge.BoundingBox

open Text Text.Pattern

variable {digits : DigitClass} {previous : Option Char} {text rest line : List Char}
  {groups others : List (List Char)} {way : Way}

/-! ## The pattern -/

theorem takes_numberPattern_iff :
    (numberPattern digits.isDigit).Takes previous text rest groups ↔
      IsNumeral digits text ∧ groups = [] := by
  rw [numberPattern, takes_all_cons]
  simp only [takes_all_cons, takes_all_nil, takes_optional, takes_atLeastOne]
  constructor
  · rintro ⟨sign, _, _, _, rfl, rfl, ⟨hsign, rfl⟩, body, _, _, _, rfl, rfl, ⟨hbody, rfl⟩, rfl, rfl⟩
    refine ⟨⟨sign, body, by simp, ?_, hbody⟩, rfl⟩
    simpa using hsign
  · rintro ⟨⟨sign, body, rfl, hsign, hbody⟩, rfl⟩
    refine ⟨sign, body, [], [], rfl, rfl, ⟨?_, rfl⟩, body, [], [], [], by simp, rfl, ⟨hbody, rfl⟩,
      rfl, rfl⟩
    simpa using hsign

/-- The marker at the beginning of a line, and the gap behind it. -/
theorem takes_marker_iff {key : List Char} {patterns : List Pattern} :
    (all (lineStart :: literal key :: many isGap :: patterns)).Takes previous text rest groups ↔
      isBorder previous = true ∧ ∃ gaps behind, text = key ++ (gaps ++ behind) ∧ IsGaps gaps ∧
        (all patterns).Takes (gaps.getLast?.or (key.getLast?.or previous)) behind rest groups := by
  simp only [takes_all_cons, takes_literal, ← isGaps_iff, Takes]
  constructor
  · rintro ⟨_, _, _, _, rfl, rfl, ⟨hprevious, rfl, rfl⟩, _, _, _, _, rfl, rfl, ⟨rfl, rfl⟩,
      gaps, behind, _, _, rfl, rfl, ⟨hgaps, rfl⟩, hlater⟩
    exact ⟨hprevious, gaps, behind, rfl, hgaps, hlater⟩
  · rintro ⟨hprevious, gaps, behind, rfl, hgaps, hlater⟩
    exact ⟨[], _, [], groups, rfl, rfl, ⟨hprevious, rfl, rfl⟩, key, _, [], groups, rfl, rfl,
      ⟨rfl, rfl⟩, gaps, behind, [], groups, rfl, rfl, ⟨hgaps, rfl⟩, hlater⟩

/-- A number, and the gap behind it. -/
theorem takes_field_iff {patterns : List Pattern} :
    (all (group (numberPattern digits.isDigit) :: atLeastOne isGap :: patterns)).Takes
        previous text rest groups ↔
      ∃ number gaps behind later, text = number ++ (gaps ++ behind) ∧ groups = number :: later ∧
        IsNumeral digits number ∧ (gaps ≠ [] ∧ IsGaps gaps) ∧
        (all patterns).Takes (gaps.getLast?.or (number.getLast?.or previous)) behind rest
          later := by
  simp only [takes_all_cons, takes_atLeastOne, ← isGaps_iff, Takes, takes_numberPattern_iff]
  constructor
  · rintro ⟨number, _, _, _, rfl, rfl, ⟨_, rfl, hnumber, rfl⟩, gaps, behind, _, later, rfl, rfl,
      ⟨hgaps, rfl⟩, hlater⟩
    exact ⟨number, gaps, behind, later, rfl, rfl, hnumber, hgaps, hlater⟩
  · rintro ⟨number, gaps, behind, later, rfl, rfl, hnumber, hgaps, hlater⟩
    exact ⟨number, _, [number], later, rfl, rfl, ⟨[], rfl, hnumber, rfl⟩, gaps, behind, [], later,
      rfl, rfl, ⟨hgaps, rfl⟩, hlater⟩

/-- The last number, and what stands behind it up to the end of the line. -/
theorem takes_ending_iff :
    (all [group (numberPattern digits.isDigit), many isGap, optional (· = '\r'), lineEnd]).Takes
        previous text rest groups ↔
      isBorder rest.head? = true ∧ ∃ number gaps ending, text = number ++ (gaps ++ ending) ∧
        groups = [number] ∧ IsNumeral digits number ∧ IsGaps gaps ∧
        (ending = [] ∨ ending = ['\r']) := by
  simp only [takes_all_cons, takes_all_nil, takes_optional, ← isGaps_iff, Takes,
    takes_numberPattern_iff, decide_eq_true_eq, exists_eq_left]
  constructor
  · rintro ⟨number, _, _, _, rfl, rfl, ⟨_, rfl, hnumber, rfl⟩, gaps, _, _, _, rfl, rfl,
      ⟨hgaps, rfl⟩, ending, _, _, _, rfl, rfl, ⟨hending, rfl⟩, _, _, _, _, rfl, rfl,
      ⟨hrest, rfl, rfl⟩, rfl, rfl⟩
    exact ⟨hrest, number, gaps, ending, by simp, rfl, hnumber, hgaps, hending⟩
  · rintro ⟨hrest, number, gaps, ending, rfl, rfl, hnumber, hgaps, hending⟩
    exact ⟨number, _, [number], [], rfl, rfl, ⟨[], rfl, hnumber, rfl⟩, gaps, _, [], [], rfl, rfl,
      ⟨hgaps, rfl⟩, ending, [], [], [], by simp, rfl, ⟨hending, rfl⟩, [], [], [], [], rfl, rfl,
      ⟨hrest, rfl, rfl⟩, rfl, rfl⟩

/-- The pattern matches a line with four numerals, from its beginning to its end. -/
theorem takes_linePattern_iff :
    (linePattern digits.isDigit).Takes previous text rest groups ↔
      isBorder previous = true ∧ isBorder rest.head? = true ∧ Matches digits groups text := by
  rw [linePattern, takes_marker_iff]
  constructor
  · rintro ⟨hprevious, before, fields, htext, hbefore, hfields⟩
    obtain ⟨llx, first, fields, _, rfl, rfl, hllx, hfirst, hfields⟩ := takes_field_iff.mp hfields
    obtain ⟨lly, second, fields, _, rfl, rfl, hlly, hsecond, hfields⟩ := takes_field_iff.mp hfields
    obtain ⟨urx, third, fields, _, rfl, rfl, hurx, hthird, hfields⟩ := takes_field_iff.mp hfields
    obtain ⟨hrest, ury, after, ending, rfl, rfl, hury, hafter, hending⟩ :=
      takes_ending_iff.mp hfields
    have hlayout : Layout [llx, lly, urx, ury] text := by
      have hmk : Layout [llx, lly, urx, ury] _ :=
        .mk hbefore hfirst hsecond hthird hafter hending
      simpa only [htext, marker, List.append_assoc] using hmk
    exact ⟨hprevious, hrest, hlayout, by simp [hllx, hlly, hurx, hury]⟩
  · rintro ⟨hprevious, hrest, hlayout, hnumerals⟩
    cases hlayout with
    | @mk llx lly urx ury before first second third after ending hbefore hfirst hsecond hthird
        hafter hending =>
        obtain ⟨hllx, hlly, hurx, hury⟩ : IsNumeral digits llx ∧ IsNumeral digits lly ∧
            IsNumeral digits urx ∧ IsNumeral digits ury := by simpa using hnumerals
        refine ⟨hprevious, before, _, ?_, hbefore, takes_field_iff.mpr
          ⟨llx, first, _, _, rfl, rfl, hllx, hfirst, takes_field_iff.mpr
          ⟨lly, second, _, _, rfl, rfl, hlly, hsecond, takes_field_iff.mpr
          ⟨urx, third, _, _, rfl, rfl, hurx, hthird, takes_ending_iff.mpr
          ⟨hrest, ury, after, ending, rfl, rfl, hury, hafter, hending⟩⟩⟩⟩⟩
        simp only [marker, List.append_assoc]

/-! ## Numbers that were found -/

/-- A numeral has no plus sign, with which a number could be read as well. -/
theorem readInt32?_of_isNumeral {number : List Char} (hnumeral : IsNumeral digits number) :
    Decimal.readInt32? number = readCorner? number := by
  have hplus : '+' ∉ number := by
    intro hmem
    rcases digit_of_isNumeral hnumeral hmem with hsign | hdigit
    · exact absurd hsign (by decide)
    · exact absurd hdigit (by simp [digits.apart '+'])
  unfold Decimal.readInt32? Decimal.readInteger? readCorner?
  split
  · exact absurd List.mem_cons_self hplus
  · exact Option.bind_map
  · next hminus =>
      split
      · exact absurd rfl (hminus _)
      · exact Option.bind_map

/-- The numbers that the pattern finds in a line are read as the line is. -/
theorem ofNumbers?_of_matches (hmatches : Matches digits groups line) :
    ofNumbers? groups = ofLine? line := by
  obtain ⟨hlayout, hnumerals⟩ := hmatches
  rw [ofLine?_of_isNumeral hlayout hnumerals, ofNumbers?]
  congr 1
  clear hlayout
  induction groups with
  | nil => rfl
  | cons number groups ih =>
      obtain ⟨hnumber, hnumerals⟩ := List.forall_mem_cons.mp hnumerals
      rw [List.mapM_cons, List.mapM_cons, readInt32?_of_isNumeral hnumber, ih hnumerals]

theorem exists_matches (digits : DigitClass) {box : BoundingBox} (hbox : ofLine? line = some box) :
    ∃ groups, Matches digits groups line := by
  obtain ⟨groups, hlayout, hreads⟩ := ofLine?_eq_some_iff.mp hbox
  refine ⟨groups, hlayout, fun number hnumber => ?_⟩
  obtain ⟨corner, hwrites⟩ := exists_corner_of_reads hreads number hnumber
  exact isNumeral_of_writes digits hwrites

/-! ## At a line, and within one -/

/-- A text begins with its first line, behind which there is a border. -/
theorem exists_rest_of_splitOn (hlines : text.splitOn '\n' = line :: others) :
    ∃ rest, text = line ++ rest ∧ isBorder rest.head? = true := by
  induction text generalizing line others with
  | nil =>
      obtain ⟨rfl, -⟩ := List.cons.inj hlines
      exact ⟨[], rfl, rfl⟩
  | cons c text ih =>
      rw [List.splitOn_cons_eq_if_modifyHead] at hlines
      split at hlines
      · next hfeed =>
          obtain ⟨rfl, -⟩ := List.cons.inj hlines
          exact ⟨c :: text, rfl, by simpa [isBorder] using hfeed⟩
      · obtain ⟨first, later, hfirst⟩ :=
          List.exists_cons_of_ne_nil (List.splitOn_ne_nil '\n' text)
        rw [hfirst] at hlines
        obtain ⟨rfl, -⟩ := List.cons.inj hlines
        obtain ⟨rest, rfl, hrest⟩ := ih hfirst
        exact ⟨rest, rfl, hrest⟩

/-- What stands at the beginning of a text up to a border, and has no line feed, is its first
line. -/
theorem eq_of_splitOn (hlines : (text ++ rest).splitOn '\n' = line :: others)
    (hfeed : '\n' ∉ text) (hrest : isBorder rest.head? = true) : line = text := by
  cases rest with
  | nil =>
      rw [List.append_nil, List.splitOn_eq_singleton hfeed] at hlines
      exact (List.cons.inj hlines).1.symm
  | cons c rest =>
      obtain rfl : c = '\n' := by simpa [isBorder] using hrest
      rw [List.splitOn_append_cons_self_of_not_mem hfeed] at hlines
      exact (List.cons.inj hlines).1.symm

/-- What is found at a place is a whole line, and its numbers are read as the line is. -/
theorem of_mem_ways (hlines : text.splitOn '\n' = line :: others)
    (hway : way ∈ (linePattern digits.isDigit).ways ⟨previous, text⟩) :
    isBorder previous = true ∧ Matches digits way.groups line ∧ way.taken = line.length := by
  obtain ⟨part, hpasses, htaken, htakes⟩ := mem_ways_iff.mp hway
  obtain ⟨hprevious, hrest, hmatches⟩ := takes_linePattern_iff.mp htakes
  obtain rfl : text = part ++ way.after.rest := hpasses.rest
  obtain rfl := eq_of_splitOn hlines (lineFeed_not_mem_of_matches hmatches) hrest
  exact ⟨hprevious, hmatches, htaken⟩

theorem ways_eq_nil (hinside : isBorder previous = false) :
    (linePattern digits.isDigit).ways ⟨previous, text⟩ = [] := by
  rw [List.eq_nil_iff_forall_not_mem]
  intro way hway
  obtain ⟨part, -, -, htakes⟩ := mem_ways_iff.mp hway
  obtain ⟨hprevious, -, -⟩ := takes_linePattern_iff.mp htakes
  exact Bool.noConfusion (hinside.symm.trans hprevious)

/-- Where nothing is found at the beginning of a line, the line gives no box. -/
theorem ofLine?_of_ways_eq_nil (hlines : text.splitOn '\n' = line :: others)
    (hborder : isBorder previous = true)
    (hnone : (linePattern digits.isDigit).ways ⟨previous, text⟩ = []) : ofLine? line = none := by
  rw [Option.eq_none_iff_forall_ne_some]
  intro box hbox
  obtain ⟨groups, hmatches⟩ := exists_matches digits hbox
  obtain ⟨rest, rfl, hrest⟩ := exists_rest_of_splitOn hlines
  have hway : (⟨groups, line.length, ⟨line.getLast?.or previous, rest⟩⟩ : Way) ∈
      (linePattern digits.isDigit).ways ⟨previous, line ++ rest⟩ :=
    mem_ways_iff.mpr ⟨line, ⟨rfl, rfl⟩, rfl,
      takes_linePattern_iff.mpr ⟨hborder, hrest, hmatches⟩⟩
  rw [hnone] at hway
  exact List.not_mem_nil hway

/-! ## Searching -/

/-- A search from the beginning of a line comes to what the lines give, and one that has gone
into a line to what the lines behind it give. -/
theorem findMap?_linePattern (digits : DigitClass)
    (hlines : text.splitOn '\n' = line :: others) :
    (∀ previous, isBorder previous = true →
      (linePattern digits.isDigit).findMap? ofNumbers? previous 0 text =
        (line :: others).findSome? ofLine?) ∧
      ∀ previous skip, isBorder previous = false → skip ≤ line.length →
        (linePattern digits.isDigit).findMap? ofNumbers? previous skip text =
          others.findSome? ofLine? := by
  -- on the text; what is left to do behind a character is the same whatever was found at it
  induction text generalizing line others with
  | nil =>
      obtain ⟨rfl, rfl⟩ := List.cons.inj hlines
      constructor
      · intro previous hborder
        rw [findMap?]
        cases hways : (linePattern digits.isDigit).ways ⟨previous, []⟩ with
        | nil => rw [List.findSome?_cons, ofLine?_of_ways_eq_nil hlines hborder hways]; rfl
        | cons way ways =>
            obtain ⟨-, hmatches, -⟩ := of_mem_ways hlines (hways ▸ List.mem_cons_self)
            rw [List.findSome?_singleton, ← ofNumbers?_of_matches hmatches]
            rfl
      · intro previous skip hinside _
        rw [findMap?, ways_eq_nil hinside]
        rfl
  | cons c text ih =>
      have hbehind : ∀ skip, skip ≤ line.length - 1 →
          (linePattern digits.isDigit).findMap? ofNumbers? (some c) skip text =
            others.findSome? ofLine? := by
        intro skip hskip
        obtain ⟨first, later, hfirst⟩ :=
          List.exists_cons_of_ne_nil (List.splitOn_ne_nil '\n' text)
        obtain ⟨hstart, hinside⟩ := ih hfirst
        rw [List.splitOn_cons_eq_if_modifyHead, hfirst] at hlines
        split at hlines
        · next hfeed =>
            obtain ⟨rfl, rfl⟩ := List.cons.inj hlines
            obtain rfl : skip = 0 := by simpa using hskip
            exact hstart _ (by simpa [isBorder] using hfeed)
        · next hfeed =>
            obtain ⟨rfl, rfl⟩ := List.cons.inj hlines
            exact hinside _ _ (by simpa [isBorder] using hfeed) (by simpa using hskip)
      constructor
      · intro previous hborder
        rw [findMap?]
        cases hways : (linePattern digits.isDigit).ways ⟨previous, c :: text⟩ with
        | nil =>
            rw [List.findSome?_cons, ofLine?_of_ways_eq_nil hlines hborder hways]
            exact hbehind 0 (Nat.zero_le _)
        | cons way ways =>
            obtain ⟨-, hmatches, htaken⟩ := of_mem_ways hlines (hways ▸ List.mem_cons_self)
            rw [List.findSome?_cons, ← ofNumbers?_of_matches hmatches]
            dsimp only [List.head?_cons]
            cases ofNumbers? way.groups with
            | some box => rfl
            | none => exact hbehind _ (by rw [htaken])
      · intro previous skip hinside hskip
        cases skip with
        | zero =>
            rw [findMap?, ways_eq_nil hinside]
            exact hbehind 0 (Nat.zero_le _)
        | succ skip =>
            rw [findMap?]
            exact hbehind skip (by omega)

/-- A text is searched line by line. -/
theorem ofOutput?_eq_findSome? (text : String) :
    ofOutput? text = (text.toList.splitOn '\n').findSome? ofLine? := by
  obtain ⟨line, others, hlines⟩ :=
    List.exists_cons_of_ne_nil (List.splitOn_ne_nil '\n' text.toList)
  rw [hlines]
  exact (findMap?_linePattern .ofUnicode hlines).1 none rfl

/-- **Searching for a box.**  The box of a text is that of its first box line, and there is
none where no line is a box line.  Whatever the pattern takes, at any place, is a whole line
that is laid out around its groups.  It need not be a box line, but is none only if a number in
it is unfit. -/
theorem ofOutput?_searches (text : String) :
    (∀ box, ofOutput? text = some box ↔ ∃ earlier line later,
        text.toList.splitOn '\n' = earlier ++ line :: later ∧
          (∀ other ∈ earlier, ∀ box, ¬ IsBoxLine other box) ∧ IsBoxLine line box) ∧
      (ofOutput? text = none ↔
        ∀ line ∈ text.toList.splitOn '\n', ∀ box, ¬ IsBoxLine line box) ∧
      ∀ before rest, text.toList = before ++ rest →
        ∀ way ∈ (linePattern isDecimalDigit).ways ⟨before.getLast?, rest⟩,
          rest.take way.taken ∈ text.toList.splitOn '\n' ∧
            Layout way.groups (rest.take way.taken) ∧
            ((∃ box, IsBoxLine (rest.take way.taken) box) ↔
              ∀ number ∈ way.groups, ¬ Unfit number) := by
  rw [ofOutput?_eq_findSome?]
  refine ⟨?_, ?_, ?_⟩
  · intro box
    rw [List.findSome?_eq_some_iff]
    constructor
    · rintro ⟨earlier, line, later, hlines, hline, hearlier⟩
      exact ⟨earlier, line, later, hlines,
        fun other hother => ofLine?_eq_none_iff.mp (hearlier other hother),
        ofLine?_eq_some_iff.mp hline⟩
    · rintro ⟨earlier, line, later, hlines, hearlier, hline⟩
      exact ⟨earlier, line, later, hlines, ofLine?_eq_some_iff.mpr hline,
        fun other hother => ofLine?_eq_none_iff.mpr (hearlier other hother)⟩
  · rw [List.findSome?_eq_none_iff]
    exact forall₂_congr fun line _ => ofLine?_eq_none_iff
  · intro before rest htext way hway
    obtain ⟨part, hpasses, htaken, htakes⟩ := mem_ways_iff.mp hway
    have htakes : (linePattern DigitClass.ofUnicode.isDigit).Takes _ _ _ _ := htakes
    obtain ⟨hprevious, hnext, hmatches⟩ := takes_linePattern_iff.mp htakes
    rw [htaken, hpasses.take_eq]
    refine ⟨?_, hmatches.1, exists_box_iff_of_matches hmatches⟩
    obtain rfl : rest = part ++ way.after.rest := hpasses.rest
    rw [← List.append_assoc] at htext
    rw [isBorder_iff, List.getLast?_eq_none_iff] at hprevious
    rw [isBorder_iff, List.head?_eq_none_iff] at hnext
    exact Utf8.mem_splitOn_of_part htext hprevious hnext (lineFeed_not_mem_of_matches hmatches)

/-- A line with an Arabic digit is found and is no box line, nor is a line with too large a
number; the box is that of the third line. -/
theorem ofOutput?_searches_eastern :
    let text := "%%BoundingBox: ٣ 0 1 1\n%%BoundingBox: 0 0 99999999999 1\n" ++
      "%%BoundingBox:-5 -6\t70 80 \r\nend"
    let way : Way := ⟨[['٣'], ['0'], ['1'], ['1']], 22, ⟨some '1', text.toList.drop 22⟩⟩
    way ∈ (linePattern isDecimalDigit).ways ⟨none, text.toList⟩ ∧
      (¬ ∃ box, IsBoxLine (text.toList.take 22) box) ∧
      ofOutput? text = some ⟨-5, -6, 70, 80⟩ := by
  intro text way
  have hway : way ∈ (linePattern isDecimalDigit).ways ⟨none, text.toList⟩ :=
    List.mem_of_head? (by decide +kernel)
  have hunfit : Unfit ['٣'] := .foreign List.mem_cons_self (by decide) (by decide)
  obtain ⟨-, -, hfound⟩ := ofOutput?_searches text
  obtain ⟨-, -, hbox⟩ := hfound [] text.toList rfl way hway
  exact ⟨hway, fun hline => hbox.mp hline _ List.mem_cons_self hunfit, by decide +kernel⟩

end EpsBridge.BoundingBox
