import EpsBridge.BoundingBox
import EpsBridge.Proofs.Number.Decimal
import EpsBridge.Proofs.Text.Fields
import Mathlib.Data.List.Forall2

/-!
# Box lines

A box line is laid out around four fields (`Layout`), and each of them writes a 32-bit
integer (`Reads`).  `ofLine?` reads these lines and no others (`ofLine?_eq_some_iff`): its
fields are found by splitting, which undoes the layout since no field holds a gap.

A looser rule asks of a field only that it is made of digits, of whatever script (`Matches`).
What it allows beyond the box lines has a field that is `Unfit` (`exists_box_iff_of_matches`).
-/

namespace EpsBridge.BoundingBox

open Text

/-! ## Layout -/

/-- Nothing but blanks and tabs. -/
def IsGaps (text : List Char) : Prop := ∀ c ∈ text, c = ' ' ∨ c = '\t'

theorem isGaps_iff {text : List Char} : IsGaps text ↔ ∀ c ∈ text, isGap c = true := by
  simp [IsGaps, isGap]

/-- A line that is laid out around four fields.  There is a gap between any two of them, and
there may be one in front of the first and one behind the last.  The line may end in a
carriage return. -/
inductive Layout : List (List Char) → List Char → Prop
  | mk {llx lly urx ury before first second third after ending : List Char}
      (hbefore : IsGaps before) (hfirst : first ≠ [] ∧ IsGaps first)
      (hsecond : second ≠ [] ∧ IsGaps second) (hthird : third ≠ [] ∧ IsGaps third)
      (hafter : IsGaps after) (hending : ending = [] ∨ ending = ['\r']) :
      Layout [llx, lly, urx, ury]
        ("%%BoundingBox:".toList ++ before ++ llx ++ first ++ lly ++ second ++ urx ++ third ++
          ury ++ after ++ ending)

/-- Four fields that write the corners of a box. -/
def Reads (fields : List (List Char)) (box : BoundingBox) : Prop :=
  List.Forall₂ (fun field corner => Decimal.Writes field corner.toInt) fields box.toList

/-- A line that gives a box. -/
def IsBoxLine (line : List Char) (box : BoundingBox) : Prop :=
  ∃ fields, Layout fields line ∧ Reads fields box

/-! ## Fields and corners -/

/-- Reads an integer with an optional minus sign. -/
def readCorner? : List Char → Option Int32
  | '-' :: digits => (Decimal.readDigits? digits).bind fun n => Decimal.int32? (-Int.ofNat n)
  | digits => (Decimal.readDigits? digits).bind fun n => Decimal.int32? (Int.ofNat n)

theorem readCorner?_eq_some_iff {text : List Char} {corner : Int32} :
    readCorner? text = some corner ↔ Decimal.Writes text corner.toInt := by
  unfold readCorner?
  split
  · rw [Decimal.writes_minus_iff]
    exact Decimal.bind_readDigits?_eq_some_iff (fun n => -Int.ofNat n) (by simp)
  · next hunsigned =>
      rw [Decimal.writes_iff_of_unsigned hunsigned]
      exact Decimal.bind_readDigits?_eq_some_iff Int.ofNat (by simp)

theorem mapM_eq_some_iff {α β : Type} {read : α → Option β} {texts : List α} {values : List β} :
    texts.mapM read = some values ↔
      List.Forall₂ (fun text value => read text = some value) texts values := by
  induction texts generalizing values with
  | nil => simp [eq_comm]
  | cons text texts ih =>
      rw [List.mapM_cons, List.forall₂_cons_left_iff]
      constructor
      · intro hread
        obtain ⟨value, hvalue, hread⟩ := Option.bind_eq_some_iff.mp hread
        obtain ⟨others, hothers, hread⟩ := Option.bind_eq_some_iff.mp hread
        exact ⟨value, others, hvalue, ih.mp hothers, (Option.some.inj hread).symm⟩
      · rintro ⟨value, others, hvalue, hothers, rfl⟩
        rw [hvalue, ih.mpr hothers]
        rfl

theorem ofList?_eq_some_iff {corners : List Int32} {box : BoundingBox} :
    ofList? corners = some box ↔ corners = box.toList := by
  obtain ⟨llx, lly, urx, ury⟩ := box
  unfold ofList? toList
  split <;> simp_all

/-- The corners of a box are read off the texts that write them. -/
theorem bind_mapM_eq_some_iff {texts : List (List Char)} {box : BoundingBox} :
    (texts.mapM readCorner?).bind ofList? = some box ↔ Reads texts box := by
  simp only [Option.bind_eq_some_iff, mapM_eq_some_iff, ofList?_eq_some_iff,
    readCorner?_eq_some_iff, Reads, exists_eq_right]

/-! ## Reading a line -/

/-- A text without the carriage return at its end. -/
def withoutReturn (text : List Char) : List Char :=
  if text.getLast? = some '\r' then text.dropLast else text

/-- Reads a line by its fields. -/
def ofLine? (line : List Char) : Option BoundingBox :=
  (after? marker.toList line).bind fun rest =>
    ((fields isGap (withoutReturn rest)).mapM readCorner?).bind ofList?

theorem withoutReturn_append {body ending : List Char} (hbody : '\r' ∉ body)
    (hending : ending = [] ∨ ending = ['\r']) : withoutReturn (body ++ ending) = body := by
  unfold withoutReturn
  rcases hending with rfl | rfl
  · rw [List.append_nil, if_neg]
    exact fun hlast => hbody (List.mem_of_getLast? hlast)
  · simp

theorem exists_ending (text : List Char) :
    ∃ ending, text = withoutReturn text ++ ending ∧ (ending = [] ∨ ending = ['\r']) := by
  unfold withoutReturn
  split
  · next hlast =>
      refine ⟨['\r'], ?_, .inr rfl⟩
      exact (List.dropLast_append_getLast? _ hlast).symm
  · exact ⟨[], (List.append_nil text).symm, .inl rfl⟩

theorem not_mem_of_isGaps {text : List Char} (hgaps : IsGaps text) : '\r' ∉ text := by
  intro hreturn
  exact absurd (hgaps _ hreturn) (by decide)

theorem ne_nil_and_isGap {gaps : List Char} (hgaps : gaps ≠ [] ∧ IsGaps gaps) :
    gaps ≠ [] ∧ ∀ c ∈ gaps, isGap c = true :=
  hgaps.imp_right isGaps_iff.mp

/-- Four fields are found again between gaps of a class to which they do not belong. -/
theorem fields_between {gap : Char → Bool}
    {llx lly urx ury before first second third after : List Char}
    (hfields : ∀ field ∈ [llx, lly, urx, ury], IsField gap field)
    (hbefore : ∀ c ∈ before, gap c = true)
    (hfirst : first ≠ [] ∧ ∀ c ∈ first, gap c = true)
    (hsecond : second ≠ [] ∧ ∀ c ∈ second, gap c = true)
    (hthird : third ≠ [] ∧ ∀ c ∈ third, gap c = true) (hafter : ∀ c ∈ after, gap c = true) :
    fields gap (before ++ (llx ++ first ++ (lly ++ second ++ (urx ++ third ++
      (ury ++ after))))) = [llx, lly, urx, ury] := by
  obtain ⟨hllx, hlly, hurx, hury⟩ : IsField gap llx ∧ IsField gap lly ∧ IsField gap urx ∧
      IsField gap ury := by simpa using hfields
  have hlast : fields gap (ury ++ after) = [ury] := by
    by_cases hafter_ne : after = []
    · rw [hafter_ne, List.append_nil, fields_of_isField hury]
    · have happend := fields_field_append hury hafter_ne hafter []
      rwa [List.append_nil, fields_nil] at happend
  rw [fields_gaps_append hbefore, fields_field_append hllx hfirst.1 hfirst.2,
    fields_field_append hlly hsecond.1 hsecond.2, fields_field_append hurx hthird.1 hthird.2,
    hlast]

/-- What a line is laid out around is found again. -/
theorem ofLine?_of_layout {texts : List (List Char)} {line : List Char}
    (hlayout : Layout texts line)
    (htexts : ∀ text ∈ texts, IsField isGap text ∧ '\r' ∉ text) :
    ofLine? line = (texts.mapM readCorner?).bind ofList? := by
  cases hlayout with
  | @mk llx lly urx ury before first second third after ending hbefore hfirst hsecond hthird
      hafter hending =>
      obtain ⟨hllx, hlly, hurx, hury⟩ :
          '\r' ∉ llx ∧ '\r' ∉ lly ∧ '\r' ∉ urx ∧ '\r' ∉ ury := by
        simpa using fun text htext => (htexts text htext).2
      have hbody : '\r' ∉ before ++ (llx ++ first ++ (lly ++ second ++ (urx ++ third ++
          (ury ++ after)))) := by
        simp [not_mem_of_isGaps hbefore, not_mem_of_isGaps hfirst.2, not_mem_of_isGaps hsecond.2,
          not_mem_of_isGaps hthird.2, not_mem_of_isGaps hafter, hllx, hlly, hurx, hury]
      have hline : "%%BoundingBox:".toList ++ before ++ llx ++ first ++ lly ++ second ++ urx ++
          third ++ ury ++ after ++ ending = marker.toList ++ (before ++ (llx ++ first ++ (lly ++
            second ++ (urx ++ third ++ (ury ++ after)))) ++ ending) := by
        simp only [marker, List.append_assoc]
      rw [ofLine?, after?_eq_some_iff.mpr hline, Option.bind_some,
        withoutReturn_append hbody hending,
        fields_between (fun text htext => (htexts text htext).1) (isGaps_iff.mp hbefore)
          (ne_nil_and_isGap hfirst) (ne_nil_and_isGap hsecond) (ne_nil_and_isGap hthird)
          (isGaps_iff.mp hafter)]

/-- The fields of a line that has four of them are what it is laid out around. -/
theorem layout_of_fields {line rest llx lly urx ury : List Char}
    (hrest : after? marker.toList line = some rest)
    (hfields : fields isGap (withoutReturn rest) = [llx, lly, urx, ury]) :
    Layout [llx, lly, urx, ury] line := by
  obtain ⟨ending, hbody, hending⟩ := exists_ending rest
  obtain ⟨before, behind, htext, hbefore, -, hfields, hnext⟩ := exists_of_fields_eq_cons hfields
  obtain ⟨first, behind, rfl, hfirst, hfields, hnext⟩ := exists_next hnext hfields
  obtain ⟨second, behind, rfl, hsecond, hfields, hnext⟩ := exists_next hnext hfields
  obtain ⟨third, after, rfl, hthird, hfields, -⟩ := exists_next hnext hfields
  have hafter : IsGaps after := isGaps_iff.mpr (gaps_of_fields_eq_nil hfields)
  have hline : line = marker.toList ++ before ++ llx ++ first ++ lly ++ second ++ urx ++ third ++
      ury ++ after ++ ending := by
    rw [after?_eq_some_iff.mp hrest, hbody, htext]
    simp only [List.append_assoc]
  rw [hline]
  exact .mk (isGaps_iff.mpr hbefore) (hfirst.imp_right isGaps_iff.mpr)
    (hsecond.imp_right isGaps_iff.mpr) (hthird.imp_right isGaps_iff.mpr) hafter hending

/-! ## Numerals -/

/-- A class of digits.  Those of ASCII belong to it, and no character does that a line is
laid out with or that signs a number. -/
structure DigitClass where
  isDigit : Char → Bool
  ascii : ∀ c, Decimal.isDigit c = true → isDigit c = true
  apart : ∀ c ∈ [' ', '\t', '\r', '\n', '-', '+'], isDigit c = false

/-- Digits of a class, and in front of them a minus sign or nothing. -/
def IsNumeral (digits : DigitClass) (text : List Char) : Prop :=
  ∃ sign body, text = sign ++ body ∧ (sign = [] ∨ sign = ['-']) ∧ body ≠ [] ∧
    ∀ c ∈ body, digits.isDigit c = true

theorem isNumeral_of_writes (digits : DigitClass) {text : List Char} {value : Int}
    (hwrites : Decimal.Writes text value) : IsNumeral digits text := by
  cases hwrites with
  | natural hne hdigits =>
      exact ⟨[], _, rfl, .inl rfl, hne, fun c hc => digits.ascii c (hdigits c hc)⟩
  | negative hne hdigits =>
      exact ⟨['-'], _, rfl, .inr rfl, hne, fun c hc => digits.ascii c (hdigits c hc)⟩

/-- A character of a numeral is the sign or a digit. -/
theorem digit_of_isNumeral {digits : DigitClass} {text : List Char}
    (hnumeral : IsNumeral digits text) {c : Char} (hc : c ∈ text) :
    c = '-' ∨ digits.isDigit c = true := by
  obtain ⟨sign, body, rfl, hsign, -, hbody⟩ := hnumeral
  rcases List.mem_append.mp hc with hc | hc
  · rcases hsign with rfl | rfl
    · exact absurd hc List.not_mem_nil
    · exact .inl (List.mem_singleton.mp hc)
  · exact .inr (hbody c hc)

theorem not_mem_of_isNumeral {digits : DigitClass} {text : List Char}
    (hnumeral : IsNumeral digits text) {c : Char} (hc : c ∈ [' ', '\t', '\r', '\n']) :
    c ∉ text := by
  intro hmem
  rcases digit_of_isNumeral hnumeral hmem with rfl | hdigit
  · exact absurd hc (by decide)
  · exact absurd hdigit (by simp [digits.apart c (List.mem_append_left ['-', '+'] hc)])

theorem isField_of_isNumeral {digits : DigitClass} {text : List Char}
    (hnumeral : IsNumeral digits text) : IsField isGap text := by
  constructor
  · obtain ⟨sign, body, rfl, -, hne, -⟩ := hnumeral
    exact List.append_ne_nil_of_right_ne_nil sign hne
  · intro c hc
    have hblank : c ≠ ' ' := fun h => not_mem_of_isNumeral hnumeral (by simp) (h ▸ hc)
    have htab : c ≠ '\t' := fun h => not_mem_of_isNumeral hnumeral (by simp) (h ▸ hc)
    simp [isGap, hblank, htab]

/-- Numerals that a line is laid out around are found again. -/
theorem ofLine?_of_isNumeral {digits : DigitClass} {texts : List (List Char)} {line : List Char}
    (hlayout : Layout texts line) (hnumerals : ∀ text ∈ texts, IsNumeral digits text) :
    ofLine? line = (texts.mapM readCorner?).bind ofList? := by
  apply ofLine?_of_layout hlayout
  intro text htext
  have hnumeral := hnumerals text htext
  exact ⟨isField_of_isNumeral hnumeral, not_mem_of_isNumeral hnumeral (by simp)⟩

/-- The digits of ASCII. -/
def DigitClass.ofAscii : DigitClass where
  isDigit := Decimal.isDigit
  ascii _ hdigit := hdigit
  apart := by
    simp only [List.forall_mem_cons, List.not_mem_nil, false_imp_iff, implies_true]
    decide

/-- The digits of all scripts. -/
def DigitClass.ofUnicode : DigitClass where
  isDigit := isDecimalDigit
  ascii c hdigit := by
    have hrange := Decimal.isDigit_iff.mp hdigit
    rw [isDecimalDigit, decimalDigitRanges, covers, if_neg (by omega), if_pos hrange.2]
  apart := by
    simp only [List.forall_mem_cons, List.not_mem_nil, false_imp_iff, implies_true]
    decide

theorem exists_corner_of_reads {texts : List (List Char)} {box : BoundingBox}
    (hreads : Reads texts box) :
    ∀ text ∈ texts, ∃ corner : Int32, Decimal.Writes text corner.toInt := by
  unfold Reads at hreads
  generalize box.toList = corners at hreads
  induction hreads with
  | nil => simp
  | cons hwrites _ ih =>
      intro text htext
      rcases List.mem_cons.mp htext with rfl | htext
      · exact ⟨_, hwrites⟩
      · exact ih text htext

theorem reads_iff {llx lly urx ury : List Char} {box : BoundingBox} :
    Reads [llx, lly, urx, ury] box ↔
      Decimal.Writes llx box.llx.toInt ∧ Decimal.Writes lly box.lly.toInt ∧
        Decimal.Writes urx box.urx.toInt ∧ Decimal.Writes ury box.ury.toInt := by
  simp [Reads, toList]

/-- A line is read exactly if it is a box line, and its box is what is read. -/
theorem ofLine?_eq_some_iff {line : List Char} {box : BoundingBox} :
    ofLine? line = some box ↔ IsBoxLine line box := by
  constructor
  · intro hbox
    rw [ofLine?] at hbox
    obtain ⟨rest, hrest, hbox⟩ := Option.bind_eq_some_iff.mp hbox
    have hreads := bind_mapM_eq_some_iff.mp hbox
    -- four fields, since there are four corners
    generalize htexts : fields isGap (withoutReturn rest) = texts at hreads
    match texts, hreads with
    | [llx, lly, urx, ury], hreads => exact ⟨_, layout_of_fields hrest htexts, hreads⟩
  · rintro ⟨texts, hlayout, hreads⟩
    have hnumerals : ∀ text ∈ texts, IsNumeral .ofAscii text := by
      intro text htext
      obtain ⟨corner, hwrites⟩ := exists_corner_of_reads hreads text htext
      exact isNumeral_of_writes .ofAscii hwrites
    rw [ofLine?_of_isNumeral hlayout hnumerals]
    exact bind_mapM_eq_some_iff.mpr hreads

theorem ofLine?_eq_none_iff {line : List Char} :
    ofLine? line = none ↔ ∀ box, ¬ IsBoxLine line box := by
  simp only [Option.eq_none_iff_forall_ne_some, ne_eq, ofLine?_eq_some_iff]

/-! ## Lines with any numerals -/

/-- A line that is laid out around four numerals in the digits of a class. -/
def Matches (digits : DigitClass) (texts : List (List Char)) (line : List Char) : Prop :=
  Layout texts line ∧ ∀ text ∈ texts, IsNumeral digits text

/-- A numeral that is no corner: it has a digit beyond ASCII, or writes a number that takes
more than 32 bits. -/
inductive Unfit : List Char → Prop
  | foreign {text : List Char} {c : Char} (hc : c ∈ text) (hsign : c ≠ '-')
      (hdigit : Decimal.isDigit c = false) : Unfit text
  | large {text : List Char} {value : Int} (hwrites : Decimal.Writes text value)
      (hrange : value < -2 ^ 31 ∨ 2 ^ 31 ≤ value) : Unfit text

theorem exists_writes_of_isNumeral {digits : DigitClass} {text : List Char}
    (hnumeral : IsNumeral digits text)
    (hascii : ∀ c ∈ text, c ≠ '-' → Decimal.isDigit c = true) :
    ∃ value, Decimal.Writes text value := by
  obtain ⟨sign, body, rfl, hsign, hne, hbody⟩ := hnumeral
  have hdigits : ∀ c ∈ body, Decimal.isDigit c = true := by
    intro c hc
    refine hascii c (List.mem_append_right _ hc) ?_
    rintro rfl
    exact absurd (hbody '-' hc) (by simp [digits.apart '-'])
  rcases hsign with rfl | rfl
  · exact ⟨_, .natural hne hdigits⟩
  · exact ⟨_, .negative hne hdigits⟩

/-- A numeral writes a corner unless it is unfit. -/
theorem exists_corner_iff {digits : DigitClass} {text : List Char}
    (hnumeral : IsNumeral digits text) :
    (∃ corner : Int32, Decimal.Writes text corner.toInt) ↔ ¬ Unfit text := by
  constructor
  · rintro ⟨corner, hwrites⟩ hunfit
    cases hunfit with
    | foreign hc hsign hdigit =>
        rw [Decimal.isDigit_of_writes hwrites hc hsign] at hdigit
        cases hdigit
    | large hlarge hrange =>
        have hvalue := hwrites.unique hlarge
        have hlow := corner.le_toInt
        have hhigh := corner.toInt_lt
        omega
  · intro hfit
    have hascii : ∀ c ∈ text, c ≠ '-' → Decimal.isDigit c = true := by
      intro c hc hsign
      by_contra hdigit
      exact hfit (.foreign hc hsign (by simpa using hdigit))
    obtain ⟨value, hwrites⟩ := exists_writes_of_isNumeral hnumeral hascii
    have hrange : ¬ (value < -2 ^ 31 ∨ 2 ^ 31 ≤ value) := fun h => hfit (.large hwrites h)
    have hcorner : (Int32.ofInt value).toInt = value :=
      Int32.toInt_ofInt_of_le (by omega) (by omega)
    exact ⟨Int32.ofInt value, by rwa [hcorner]⟩

/-- Of the lines with four numerals, those without an unfit one are box lines. -/
theorem exists_box_iff_of_matches {digits : DigitClass} {texts : List (List Char)}
    {line : List Char} (hmatches : Matches digits texts line) :
    (∃ box, IsBoxLine line box) ↔ ∀ text ∈ texts, ¬ Unfit text := by
  obtain ⟨hlayout, hnumerals⟩ := hmatches
  have hread := ofLine?_of_isNumeral hlayout hnumerals
  have hfit : (∀ text ∈ texts, ¬ Unfit text) ↔
      ∀ text ∈ texts, ∃ corner : Int32, Decimal.Writes text corner.toInt :=
    forall₂_congr fun text htext => (exists_corner_iff (hnumerals text htext)).symm
  rw [hfit]
  constructor
  · rintro ⟨box, hbox⟩
    rw [ofLine?_eq_some_iff.mpr hbox] at hread
    exact exists_corner_of_reads (bind_mapM_eq_some_iff.mp hread.symm)
  · intro hcorners
    cases hlayout with
    | @mk llxText llyText urxText uryText =>
        obtain ⟨llx, hllx⟩ := hcorners llxText (by simp)
        obtain ⟨lly, hlly⟩ := hcorners llyText (by simp)
        obtain ⟨urx, hurx⟩ := hcorners urxText (by simp)
        obtain ⟨ury, hury⟩ := hcorners uryText (by simp)
        have hreads : Reads [llxText, llyText, urxText, uryText] ⟨llx, lly, urx, ury⟩ :=
          reads_iff.mpr ⟨hllx, hlly, hurx, hury⟩
        exact ⟨⟨llx, lly, urx, ury⟩, ofLine?_eq_some_iff.mp
          (hread.trans (bind_mapM_eq_some_iff.mpr hreads))⟩

/-- There is no line feed in a line with four numerals. -/
theorem lineFeed_not_mem_of_matches {digits : DigitClass} {texts : List (List Char)}
    {line : List Char} (hmatches : Matches digits texts line) : '\n' ∉ line := by
  obtain ⟨hlayout, hnumerals⟩ := hmatches
  have hgaps : ∀ {text}, IsGaps text → '\n' ∉ text := fun htext hmem =>
    absurd (htext _ hmem) (by decide)
  cases hlayout with
  | @mk llx lly urx ury _ _ _ _ _ ending hbefore hfirst hsecond hthird hafter hending =>
      have hnumeral : ∀ text ∈ [llx, lly, urx, ury], '\n' ∉ text := fun text htext =>
        not_mem_of_isNumeral (hnumerals text htext) (by simp)
      have hreturn : '\n' ∉ ending := by
        rcases hending with rfl | rfl <;> decide
      simp only [List.mem_append, not_or]
      simp only [List.forall_mem_cons] at hnumeral
      simp [hreturn, hnumeral, hgaps hbefore, hgaps hfirst.2, hgaps hsecond.2,
        hgaps hthird.2, hgaps hafter]

end EpsBridge.BoundingBox
