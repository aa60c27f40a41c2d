import EpsBridge.Proofs.BoundingBox.Search
import EpsBridge.Proofs.Eps.Place

/-!
# Box lines in diagnostics and in headers

A box is printed as a line that both readers know.  In diagnostics the line is read by its
layout, in a header by its tokens, and the two rules differ: headers allow other blanks, a
plus sign, and more tokens behind the fourth.  But of a line that diagnostics accept, the
fields are the first four tokens and each writes its corner (`corners?_of_isBoxLine`), so a
header reads the same box.
-/

namespace EpsBridge

open Text

theorem Decimal.isBlank_of_isDigit {c : Char} (hc : isDigit c = true) : isBlank c = false := by
  have hrange := isDigit_iff.mp hc
  simp only [isBlank, Bool.or_eq_false_iff, Bool.and_eq_false_iff, decide_eq_false_iff_not]
  omega

/-- What writes an integer is one token. -/
theorem Decimal.isField_of_writes {text : List Char} {value : Int} (hwrites : Writes text value) :
    IsField isBlank text := by
  constructor
  · cases hwrites with
    | natural hne _ => exact hne
    | negative _ _ => exact List.cons_ne_nil _ _
  · intro c hc
    by_cases hsign : c = '-'
    · rw [hsign]
      decide
    · exact isBlank_of_isDigit (isDigit_of_writes hwrites hc hsign)

theorem Decimal.isAscii_of_writes {text : List Char} {value : Int} (hwrites : Writes text value) :
    Utf8.IsAscii text := by
  intro c hc
  by_cases hsign : c = '-'
  · rw [hsign]
    decide
  · have hrange := isDigit_iff.mp (isDigit_of_writes hwrites hc hsign)
    omega

namespace BoundingBox

/-! ## The printed line -/

theorem toList_line (box : BoundingBox) :
    box.line.toList = marker.toList ++ [' '] ++ (Decimal.ofInt32 box.llx).toList ++ [' '] ++
      (Decimal.ofInt32 box.lly).toList ++ [' '] ++ (Decimal.ofInt32 box.urx).toList ++ [' '] ++
      (Decimal.ofInt32 box.ury).toList := by
  simp [line, corners, toList]

/-- What is printed of a box is a box line, also with a carriage return behind it. -/
theorem isBoxLine_line (box : BoundingBox) {ending : List Char}
    (hending : ending = [] ∨ ending = ['\r']) : IsBoxLine (box.line.toList ++ ending) box := by
  have hgap : [' '] ≠ [] ∧ IsGaps [' '] := ⟨by decide, by simp [IsGaps]⟩
  have hnone : IsGaps [] := by simp [IsGaps]
  refine ⟨_, ?_, reads_iff.mpr ⟨Decimal.writes_ofInt _, Decimal.writes_ofInt _,
    Decimal.writes_ofInt _, Decimal.writes_ofInt _⟩⟩
  rw [← List.append_nil box.line.toList, toList_line]
  exact .mk hgap.2 hgap hgap hgap hnone hending

/-- A text is searched up to its first box line. -/
theorem ofOutput?_of_first {earlier later : List (List Char)} {text : String} {line : List Char}
    {box : BoundingBox} (hlines : text.toList.splitOn '\n' = earlier ++ line :: later)
    (hearlier : ∀ other ∈ earlier, ∀ box, ¬ IsBoxLine other box) (hline : IsBoxLine line box) :
    ofOutput? text = some box := by
  rw [ofOutput?_eq_findSome?, List.findSome?_eq_some_iff]
  exact ⟨earlier, line, later, hlines, ofLine?_eq_some_iff.mpr hline,
    fun other hother => ofLine?_eq_none_iff.mpr (hearlier other hother)⟩

/-! ## Box lines in a header -/

theorem isAscii_of_isBoxLine {line : List Char} {box : BoundingBox}
    (hline : IsBoxLine line box) : Utf8.IsAscii line := by
  obtain ⟨fields, hlayout, hreads⟩ := hline
  have hgaps : ∀ {gaps}, IsGaps gaps → Utf8.IsAscii gaps := by
    intro gaps hgaps c hc
    rcases hgaps c hc with rfl | rfl <;> decide
  have hmarker : Utf8.IsAscii marker.toList := by decide
  cases hlayout with
  | @mk llx lly urx ury before first second third after ending hbefore hfirst hsecond hthird
      hafter hending =>
      obtain ⟨hllx, hlly, hurx, hury⟩ := reads_iff.mp hreads
      have hreturn : Utf8.IsAscii ending := by
        rcases hending with rfl | rfl <;> decide
      have hparts : ∀ part ∈ [marker.toList, before, llx, first, lly, second, urx, third, ury,
          after, ending], Utf8.IsAscii part := by
        simp [hmarker, hreturn, hgaps hbefore, hgaps hfirst.2, hgaps hsecond.2, hgaps hthird.2,
          hgaps hafter, Decimal.isAscii_of_writes hllx, Decimal.isAscii_of_writes hlly,
          Decimal.isAscii_of_writes hurx, Decimal.isAscii_of_writes hury]
      intro c hc
      have hflat : c ∈ [marker.toList, before, llx, first, lly, second, urx, third, ury, after,
          ending].flatten := by simpa [marker] using hc
      obtain ⟨part, hpart, hmem⟩ := List.mem_flatten.mp hflat
      exact hparts part hpart c hmem

/-- The four fields of a box line are tokens of what follows the marker. -/
theorem corners?_of_isBoxLine {line : List Char} {box : BoundingBox}
    (hline : IsBoxLine line box) : ∃ rest, line = marker.toList ++ rest ∧
      ∀ value, tokens value = tokens rest →
        Eps.corners? Decimal.readInt32? value = some box := by
  obtain ⟨fields, hlayout, hreads⟩ := hline
  have hblank : ∀ {gaps}, IsGaps gaps → ∀ c ∈ gaps, isBlank c = true := by
    intro gaps hgaps c hc
    rcases hgaps c hc with rfl | rfl <;> decide
  cases hlayout with
  | @mk llx lly urx ury before first second third after ending hbefore hfirst hsecond hthird
      hafter hending =>
      obtain ⟨hllx, hlly, hurx, hury⟩ := reads_iff.mp hreads
      have hbehind : ∀ c ∈ after ++ ending, isBlank c = true := by
        intro c hc
        rcases List.mem_append.mp hc with hc | hc
        · exact hblank hafter c hc
        · rcases hending with rfl | rfl
          · exact absurd hc List.not_mem_nil
          · rw [List.mem_singleton.mp hc]
            decide
      have hfields : ∀ field ∈ [llx, lly, urx, ury], IsField isBlank field := by
        simp [Decimal.isField_of_writes hllx, Decimal.isField_of_writes hlly,
          Decimal.isField_of_writes hurx, Decimal.isField_of_writes hury]
      refine ⟨before ++ (llx ++ first ++ (lly ++ second ++ (urx ++ third ++
        (ury ++ (after ++ ending))))), by simp only [marker, List.append_assoc], ?_⟩
      intro value hvalue
      have htokens : tokens value = [llx, lly, urx, ury] :=
        hvalue.trans (fields_between hfields (hblank hbefore) ⟨hfirst.1, hblank hfirst.2⟩
          ⟨hsecond.1, hblank hsecond.2⟩ ⟨hthird.1, hblank hthird.2⟩ hbehind)
      simp only [Eps.corners?, htokens, Decimal.readInt32?_of_writes hllx,
        Decimal.readInt32?_of_writes hlly, Decimal.readInt32?_of_writes hurx,
        Decimal.readInt32?_of_writes hury]

end BoundingBox

namespace Eps

open BoundingBox

/-- A header reads a box line as diagnostics do. -/
theorem boxReading_of_isBoxLine {text : String} {box : BoundingBox}
    (hline : IsBoxLine text.toList box) :
    Key.boundingBox.reading? (Reader.lineText (Utf8.encode text)) = some box := by
  obtain ⟨rest, htext, hcorners⟩ := corners?_of_isBoxLine hline
  have hends : ∀ c, (decide (c = '\r') || decide (c = '\n')) = true → isBlank c = true := by
    intro c hc
    rw [Bool.or_eq_true, decide_eq_true_eq, decide_eq_true_eq] at hc
    rcases hc with rfl | rfl <;> decide
  have hprintable : IsPrintable marker := Key.boundingBox.isPrintable_marker
  rw [lineText_encode (isAscii_of_isBoxLine hline), htext,
    trimEnd_append hprintable.kept, Key.reading?, Key.value?, Key.marker,
    after?_eq_some_iff.mpr rfl, Option.map_some, Option.bind_some]
  apply hcorners
  rw [tokens_trim]
  exact fields_trimEnd hends rest

/-- The first box line that is scanned gives the box of the header. -/
theorem boundingBox_of_place {place : Place} {line : List UInt8} {box : BoundingBox}
    (hscanned : place.IsScanned) (hline : lineFeed ∉ line)
    (hearlier : ∀ other ∈ place.earlier, ¬ Key.boundingBox.Heads other)
    (hreading : Key.boundingBox.reading? (Reader.lineText line) = some box) :
    ∃ header, Header.read (.whole (place.text line)) = .ok header ∧
      header.boundingBox = some box := by
  have hsets : Key.boundingBox.Sets (Reader.lineText line) := by
    rw [Key.Sets, hreading]
    rfl
  have hheads := hsets.heads
  have hunread : ¬ ∃ first ∈ place.earlier, Key.boundingBox.Sets (Reader.lineText first) := by
    rintro ⟨first, hfirst, hfirstSets⟩
    exact hearlier first hfirst hfirstSets.heads
  have hfield := Place.field_header_of_unread hscanned hunread
    (place.takes_of_heads hheads hline) hheads.not_endsComments
  rw [Option.or_of_isSome hsets] at hfield
  exact ⟨place.header line, Header.read_whole _, hfield.trans hreading⟩

/-! ## Single lines -/

/-- The place of the only line of a text, which may be ended or not. -/
def Place.only (ended : Bool) : Place where
  earlier := []
  later := if ended then [lineFeed] else []
  complete := by simp
  ended := by cases ended <;> decide

theorem Place.isScanned_only (ended : Bool) : (Place.only ended).IsScanned := by
  rintro (hlimit | ⟨line, hline, -⟩)
  · have hpositive : 0 < headerLineLimit := by decide
    exact absurd hpositive (Nat.not_lt_of_le hlimit)
  · exact absurd hline List.not_mem_nil

end Eps

namespace BoundingBox

open Eps

theorem lineFeed_not_mem_of_isBoxLine {line : List Char} {box : BoundingBox}
    (hline : IsBoxLine line box) : '\n' ∉ line := by
  obtain ⟨fields, hlayout, hreads⟩ := hline
  have hmatches : Matches .ofAscii fields line := by
    refine ⟨hlayout, fun field hfield => ?_⟩
    obtain ⟨corner, hwrites⟩ := exists_corner_of_reads hreads field hfield
    exact isNumeral_of_writes .ofAscii hwrites
  exact lineFeed_not_mem_of_matches hmatches

theorem lineFeed_not_mem_encode {text : String} (htext : '\n' ∉ text.toList) :
    lineFeed ∉ Utf8.encode text :=
  Utf8.not_mem_encode (by decide) htext

theorem isBoxLine_printed (box : BoundingBox) : IsBoxLine box.line.toList box := by
  have hline := box.isBoxLine_line (.inl rfl)
  rwa [List.append_nil] at hline

/-- Diagnostics are read at the printed line, if no line before it is a box line. -/
theorem ofOutput?_printed (box : BoundingBox) {front behind : String}
    (hfront : ∀ line ∈ front.toList.splitOn '\n', ∀ other, ¬ IsBoxLine line other)
    (hbehind : behind = "" ∨ ∃ suffix, behind = "\n" ++ suffix ∨ behind = "\r\n" ++ suffix) :
    ofOutput? (front ++ "\n" ++ box.line ++ behind) = some box := by
  have hall : (front ++ "\n" ++ box.line ++ behind).toList.splitOn '\n' =
      front.toList.splitOn '\n' ++ (box.line.toList ++ behind.toList).splitOn '\n' := by
    rw [← List.splitOn_append_cons_self]
    simp
  have hplain := lineFeed_not_mem_of_isBoxLine box.isBoxLine_printed
  have hreturn := lineFeed_not_mem_of_isBoxLine (box.isBoxLine_line (.inr rfl))
  rcases hbehind with rfl | ⟨suffix, rfl | rfl⟩
  · rw [String.toList_empty, List.append_nil, List.splitOn_eq_singleton hplain] at hall
    exact ofOutput?_of_first hall hfront box.isBoxLine_printed
  · have hlines : (box.line.toList ++ ("\n" ++ suffix).toList).splitOn '\n' =
        box.line.toList :: suffix.toList.splitOn '\n' := by
      rw [← List.splitOn_append_cons_self_of_not_mem hplain]
      simp
    rw [hlines] at hall
    exact ofOutput?_of_first hall hfront box.isBoxLine_printed
  · have hlines : (box.line.toList ++ ("\r\n" ++ suffix).toList).splitOn '\n' =
        (box.line.toList ++ ['\r']) :: suffix.toList.splitOn '\n' := by
      rw [← List.splitOn_append_cons_self_of_not_mem hreturn]
      simp
    rw [hlines] at hall
    exact ofOutput?_of_first hall hfront (box.isBoxLine_line (.inr rfl))

/-- A header has the box of the printed line, if no line before it has the key. -/
theorem boundingBox_printed (box : BoundingBox) {place : Place} (hscanned : place.IsScanned)
    (hearlier : ∀ other ∈ place.earlier, ¬ Key.boundingBox.Heads other) {ending : List UInt8}
    (hending : ending = [] ∨ ending = [carriageReturn]) :
    ∃ header, Header.read (.whole (place.text (Utf8.encode box.line ++ ending))) = .ok header ∧
      header.boundingBox = some box := by
  have hplain := lineFeed_not_mem_encode (lineFeed_not_mem_of_isBoxLine box.isBoxLine_printed)
  have htext : Reader.lineText (Utf8.encode box.line ++ ending) =
      Reader.lineText (Utf8.encode box.line) := by
    rcases hending with rfl | rfl
    · rw [List.append_nil]
    · exact lineText_concat (.inl rfl) _
  have hline : lineFeed ∉ Utf8.encode box.line ++ ending := by
    rw [List.mem_append]
    refine not_or_intro hplain ?_
    rcases hending with rfl | rfl <;> decide
  apply boundingBox_of_place hscanned hline hearlier
  rw [htext]
  exact boxReading_of_isBoxLine box.isBoxLine_printed

theorem isBoxLine_of_single {line ending : String} {box : BoundingBox}
    (hline : '\n' ∉ line.toList) (hending : ending = "" ∨ ending = "\n")
    (hread : ofOutput? (line ++ ending) = some box) : IsBoxLine line.toList box := by
  have hnothing : ofLine? [] = none := rfl
  rw [← ofLine?_eq_some_iff]
  rw [ofOutput?_eq_findSome?, String.toList_append] at hread
  rcases hending with rfl | rfl
  · rw [String.toList_empty, List.append_nil, List.splitOn_eq_singleton hline] at hread
    simpa using hread
  · have hlines : (line.toList ++ "\n".toList).splitOn '\n' = [line.toList, []] :=
      List.splitOn_append_cons_self_of_not_mem hline []
    rw [hlines, List.findSome?_cons, List.findSome?_singleton, hnothing] at hread
    cases hbox : ofLine? line.toList with
    | none => rw [hbox] at hread; exact hread
    | some other => rw [hbox] at hread; exact hread

/-- What diagnostics read off a single line, a header reads off it too. -/
theorem boundingBox_of_single {line ending : String} {box : BoundingBox}
    (hline : '\n' ∉ line.toList) (hending : ending = "" ∨ ending = "\n")
    (hread : ofOutput? (line ++ ending) = some box) :
    ∃ header, Header.read (.whole (Utf8.encode (line ++ ending))) = .ok header ∧
      header.boundingBox = some box := by
  have hbox := isBoxLine_of_single hline hending hread
  have hplace : ∃ ended, Utf8.encode (line ++ ending) =
      (Place.only ended).text (Utf8.encode line) := by
    rcases hending with rfl | rfl
    · exact ⟨false, by simp [Place.only, Place.text]⟩
    · have hfeed : Utf8.encode "\n" = [lineFeed] := by decide +kernel
      refine ⟨true, ?_⟩
      rw [Utf8.encode_append, hfeed]
      rfl
  obtain ⟨ended, htext⟩ := hplace
  rw [htext]
  exact boundingBox_of_place (Place.isScanned_only ended) (lineFeed_not_mem_encode hline)
    (by simp [Place.only]) (boxReading_of_isBoxLine hbox)

/-- **Printed boxes are read back.**  Diagnostics give the box of the printed line, whatever
stands before and behind it, unless a line before it is a box line; a header gives it, unless
a line before it has the key.  And of a single line, what diagnostics read is what a header
reads. -/
theorem readBack (box : BoundingBox) :
    (∀ front behind : String,
        (∀ line ∈ front.toList.splitOn '\n', ∀ other, ¬ IsBoxLine line other) →
        (behind = "" ∨ ∃ suffix, behind = "\n" ++ suffix ∨ behind = "\r\n" ++ suffix) →
          ofOutput? (front ++ "\n" ++ box.line ++ behind) = some box) ∧
      (∀ (place : Place) (ending : List UInt8), place.IsScanned →
        (∀ other ∈ place.earlier, ¬ Key.boundingBox.Heads other) →
        (ending = [] ∨ ending = [carriageReturn]) →
          ∃ header, Header.read (.whole (place.text (Utf8.encode box.line ++ ending))) =
            .ok header ∧ header.boundingBox = some box) ∧
      ∀ line ending : String, '\n' ∉ line.toList → (ending = "" ∨ ending = "\n") →
        ofOutput? (line ++ ending) = some box →
          ∃ header, Header.read (.whole (Utf8.encode (line ++ ending))) = .ok header ∧
            header.boundingBox = some box :=
  ⟨fun _ _ hfront hbehind => box.ofOutput?_printed hfront hbehind,
    fun _ _ hscanned hearlier hending => box.boundingBox_printed hscanned hearlier hending,
    fun _ _ hline hending hread => boundingBox_of_single hline hending hread⟩

/-- A place behind a line with a fractional box, and before a line with another box. -/
def amongBoxes : Place where
  earlier := [Utf8.encode "%!PS\n", Utf8.encode "%%HiResBoundingBox: 1 1 2 2\n"]
  later := Utf8.encode "\n%%BoundingBox: 3 3 4 4\n"
  complete := by decide +kernel
  ended := by decide +kernel

/-- The box with the least and the greatest corners is read back in diagnostics behind a box
put off to the end, in a header with a carriage return, and off a line with other gaps. -/
theorem readBack_widest :
    let box : BoundingBox := ⟨Int32.minValue, 0, Int32.maxValue, -1⟩
    let spaced := "%%BoundingBox:\t-2147483648 0  2147483647 -1 \r"
    ofOutput? ("%%BoundingBox: (atend)" ++ "\n" ++ box.line ++ "\r\n%%BoundingBox: 3 3 4 4") =
        some box ∧
      (∃ header, Header.read (.whole (amongBoxes.text (Utf8.encode box.line ++
        [carriageReturn]))) = .ok header ∧ header.boundingBox = some box) ∧
      ∃ header, Header.read (.whole (Utf8.encode (spaced ++ "\n"))) = .ok header ∧
        header.boundingBox = some box := by
  intro box spaced
  obtain ⟨hdiagnostics, hheader, hsingle⟩ := readBack box
  have hnone : ∀ line ∈ "%%BoundingBox: (atend)".toList.splitOn '\n', ofLine? line = none := by
    decide +kernel
  refine ⟨?_, ?_, ?_⟩
  · apply hdiagnostics
    · exact fun line hline => ofLine?_eq_none_iff.mp (hnone line hline)
    · exact .inr ⟨"%%BoundingBox: 3 3 4 4", .inr rfl⟩
  · exact hheader amongBoxes [carriageReturn] (by decide +kernel) (by decide +kernel) (.inr rfl)
  · exact hsingle spaced "\n" (by decide +kernel) (.inr rfl) (by decide +kernel)

end BoundingBox

end EpsBridge
