import EpsBridge.Proofs.Eps.Place

/-!
# Comments that come again

A comment that comes again counts unless an earlier line with its key was read.  Any value
reads as a text, so for the texts the first line with the key decides.  A number or a box is
still open behind a value that is malformed or put off to the end, and then a later line
sets it: such a line is inert exactly if some line in front of it was read
(`Header.read_repeated`).

A line behind another with the same key can only matter to the field of that key
(`reading?_of_plain_or_heads`), and the two numbers or boxes that a value can be tell whether
it does (`Key.exists_readings`).
-/

namespace EpsBridge.Eps

open Utf8

/-! ## Values -/

/-- Whether the values of a key are texts, neither numbers nor boxes. -/
def Key.isText : Key → Bool
  | .title | .creator | .creationDate => true
  | .pages | .languageLevel | .hiresBoundingBox | .boundingBox => false

/-- A line whose value is put off to the end of the file. -/
def Key.PutsOff (key : Key) (line : List Char) : Prop :=
  key.value? line = some "(atend)".toList

instance (key : Key) : DecidablePred key.PutsOff := fun line =>
  inferInstanceAs (Decidable (key.value? line = some "(atend)".toList))

theorem Key.sets_of_isText {key : Key} (htext : key.isText = true) {line : List UInt8}
    (hheads : key.Heads line) : key.Sets (Reader.lineText line) := by
  obtain ⟨value, hvalue⟩ := Option.isSome_iff_exists.mp ((heads_iff key line).mp hheads)
  rw [Sets, reading?, hvalue]
  cases key with
  | title | creator | creationDate => rfl
  | pages | languageLevel | hiresBoundingBox | boundingBox => exact absurd htext (by decide)

theorem Key.PutsOff.reading?_eq_none {key : Key} (htext : key.isText = false)
    {line : List Char} (hputsOff : key.PutsOff line) : key.reading? line = none := by
  rw [reading?, hputsOff, Option.bind_some]
  cases key with
  | title | creator | creationDate => exact absurd htext (by decide)
  | pages | languageLevel | hiresBoundingBox | boundingBox => decide +kernel

/-! ## Lines -/

/-- A line that has no key and does not end the comments. -/
def IsPlain (line : List UInt8) : Prop :=
  ¬ EndsComments line ∧ ∀ key ∈ Key.all, ¬ key.Heads line

instance : DecidablePred IsPlain := fun line =>
  inferInstanceAs (Decidable (¬ EndsComments line ∧ ∀ key ∈ Key.all, ¬ key.Heads line))

/-- The line with a key and what follows its marker. -/
def Key.line (key : Key) (value : List UInt8) : List UInt8 := encode key.marker ++ value

theorem Key.heads_line (key : Key) (value : List UInt8) : key.Heads (key.line value) :=
  List.prefix_append _ _

theorem Key.takes_line (key : Key) (place : Place) {value : List UInt8}
    (hvalue : lineFeed ∉ value) : place.Takes (key.line value) := by
  have hmarker : ∀ key ∈ Key.all, lineFeed ∉ encode key.marker := by decide +kernel
  apply place.takes_of_heads (key.heads_line value)
  rw [line, List.mem_append]
  exact not_or_intro (hmarker key key.mem_all) hvalue

/-- A number or a box can have more than one value. -/
theorem Key.exists_readings {key : Key} (htext : key.isText = false) :
    ∃ first second, lineFeed ∉ first ∧ lineFeed ∉ second ∧
      key.Sets (Reader.lineText (key.line first)) ∧
      key.Sets (Reader.lineText (key.line second)) ∧
      key.reading? (Reader.lineText (key.line first)) ≠
        key.reading? (Reader.lineText (key.line second)) := by
  refine ⟨encode " 0 0 0 0", encode " 1 1 1 1", by decide +kernel, by decide +kernel, ?_⟩
  cases key with
  | title | creator | creationDate => exact absurd htext (by decide)
  | pages | languageLevel | hiresBoundingBox | boundingBox => decide +kernel

section PlainOrHeads

variable {key : Key} {line : List UInt8} (hline : IsPlain line ∨ key.Heads line)

include hline

theorem not_endsComments_of_plain_or_heads : ¬ EndsComments line := by
  rcases hline with hplain | hheads
  · exact hplain.1
  · exact hheads.not_endsComments

theorem reading?_of_plain_or_heads {other : Key} (hother : other ≠ key) :
    other.reading? (Reader.lineText line) = none := by
  have hnot : ¬ other.Heads line := by
    rcases hline with hplain | hheads
    · exact hplain.2 other other.mem_all
    · intro hboth
      obtain ⟨_, hvalue⟩ := Option.isSome_iff_exists.mp ((key.heads_iff line).mp hheads)
      obtain ⟨_, hsecond⟩ := Option.isSome_iff_exists.mp ((other.heads_iff line).mp hboth)
      exact hother (Key.eq_of_value? hsecond hvalue)
  rw [Key.heads_iff, Option.not_isSome_iff_eq_none] at hnot
  rw [Key.reading?, hnot, Option.bind_none]

end PlainOrHeads

/-! ## Lines in their places -/

namespace Place

variable {place : Place} {key : Key}

/-- Behind a line that was read, a line with its key makes no difference. -/
theorem header_eq_of_sets (hscanned : place.IsScanned)
    (hsets : ∃ first ∈ place.earlier, key.Sets (Reader.lineText first)) {line other : List UInt8}
    (htakes : place.Takes line) (hline : IsPlain line ∨ key.Heads line)
    (htakesOther : place.Takes other) (hother : IsPlain other ∨ key.Heads other) :
    place.header line = place.header other := by
  apply Header.ext_field
  · obtain ⟨first, hfirst, -⟩ := hsets
    have hearlier := List.ne_nil_of_mem hfirst
    rw [versionLine_header hscanned htakes hearlier,
      versionLine_header hscanned htakesOther hearlier]
  · intro field
    rw [field_header hscanned htakes (not_endsComments_of_plain_or_heads hline),
      field_header hscanned htakesOther (not_endsComments_of_plain_or_heads hother)]
    by_cases hfield : field = key
    · have hread : (firstReading? field field.read?
          (place.earlier.map Reader.lineText)).isSome = true := by
        rw [isSome_firstReading?_map_iff, hfield]
        exact hsets
      rw [Option.or_of_isSome hread, Option.or_of_isSome hread]
    · rw [reading?_of_plain_or_heads hline hfield, reading?_of_plain_or_heads hother hfield]

/-- If no value makes a difference, a line in front was read. -/
theorem sets_of_header_eq (hscanned : place.IsScanned)
    (hoccurs : ∃ first ∈ place.earlier, key.Heads first) {whole : Header}
    (hinert : ∀ value, lineFeed ∉ value → place.header (key.line value) = whole) :
    ∃ first ∈ place.earlier, key.Sets (Reader.lineText first) := by
  by_contra hunread
  cases htext : key.isText with
  | true =>
      obtain ⟨first, hfirst, hheads⟩ := hoccurs
      exact hunread ⟨first, hfirst, Key.sets_of_isText htext hheads⟩
  | false =>
      obtain ⟨first, second, hfirst, hsecond, hreads, hreadsSecond, hne⟩ :=
        Key.exists_readings htext
      have hfield : ∀ value, lineFeed ∉ value → key.Sets (Reader.lineText (key.line value)) →
          whole.field key = key.reading? (Reader.lineText (key.line value)) := by
        intro value hvalue hsets
        calc
          whole.field key = (place.header (key.line value)).field key := by
              rw [hinert value hvalue]
          _ = key.reading? (Reader.lineText (key.line value)) := by
              rw [field_header_of_unread hscanned hunread (key.takes_line place hvalue)
                (key.heads_line value).not_endsComments, Option.or_of_isSome hsets]
      exact hne ((hfield first hfirst hreads).symm.trans (hfield second hsecond hreadsSecond))

/-- A line whose value is put off leaves the field to the lines behind it. -/
theorem field_header_of_putsOff (hscanned : place.IsScanned) {line : List UInt8}
    (htakes : place.Takes line) (hearlier : ∀ other ∈ place.earlier, ¬ key.Heads other)
    (htext : key.isText = false) (hputsOff : key.PutsOff (Reader.lineText line)) :
    (place.header line).field key = none ↔ ∀ text ∈ place.following, ¬ key.Sets text := by
  have hheads : key.Heads line := by
    rw [Key.heads_iff, hputsOff]
    rfl
  have hunread : ¬ ∃ first ∈ place.earlier, key.Sets (Reader.lineText first) := by
    rintro ⟨first, hfirst, hsets⟩
    exact hearlier first hfirst hsets.heads
  rw [field_header_of_unread hscanned hunread htakes hheads.not_endsComments,
    hputsOff.reading?_eq_none htext, Option.none_or, ← Option.not_isSome_iff_eq_none,
    isSome_firstReading?_iff, not_exists]
  exact forall_congr' fun text => not_and

end Place

/-- **Comments that come again.**  Behind a line with a key, another line with that key makes
no difference, whatever its value, exactly if it is not scanned or a line in front of it was
read.  A line with a text is always read.  A number or a box that is put off to the end is not,
and stays unset exactly as long as no line behind is read. -/
theorem Header.read_repeated (key : Key) :
    (∀ (place : Place) (line : List UInt8), place.Takes line →
        (IsPlain line ∨ key.Heads line) → (∃ first ∈ place.earlier, key.Heads first) →
        ((∀ value, lineFeed ∉ value →
            read (.whole (place.text (key.line value))) = read (.whole (place.text line))) ↔
          (place.IsScanned → ∃ first ∈ place.earlier, key.Sets (Reader.lineText first)))) ∧
      (key.isText = true → ∀ line, key.Heads line → key.Sets (Reader.lineText line)) ∧
      (key.isText = false → ∀ (place : Place) (line : List UInt8), place.IsScanned →
        place.Takes line → (∀ other ∈ place.earlier, ¬ key.Heads other) →
        key.PutsOff (Reader.lineText line) →
          ∃ header, read (.whole (place.text line)) = .ok header ∧
            (header.field key = none ↔ ∀ text ∈ place.following, ¬ key.Sets text)) := by
  refine ⟨fun place line htakes hline hoccurs => ⟨?_, ?_⟩,
    fun htext line => Key.sets_of_isText htext,
    fun htext place line hscanned htakes hearlier hputsOff => ?_⟩
  · intro hinert hscanned
    have hsame : ∀ value, lineFeed ∉ value →
        place.header (key.line value) = place.header line := by
      intro value hvalue
      have hread := hinert value hvalue
      rw [read_whole, read_whole] at hread
      exact Except.ok.inj hread
    exact Place.sets_of_header_eq hscanned hoccurs hsame
  · intro hsets value hvalue
    rw [read_whole, read_whole]
    by_cases hscanned : place.IsScanned
    · have hsame := Place.header_eq_of_sets hscanned (hsets hscanned)
        (key.takes_line place hvalue) (.inr (key.heads_line value)) htakes hline
      exact congrArg Except.ok hsame
    · rw [Place.window_text_of_closed hscanned, Place.window_text_of_closed hscanned]
  · exact ⟨_, read_whole _,
      Place.field_header_of_putsOff hscanned htakes hearlier htext hputsOff⟩

/-- A place behind a creator without a name and pages that were put off and then given, and
before a box that lacks a corner. -/
def Place.amongRepeated : Place where
  earlier := [encode "%!PS\n", encode "%%Creator:\n", encode "%%Pages: (atend)\n",
    encode "%%Pages: 2\n"]
  later := encode "\n%%BoundingBox: 0 0 1"
  complete := by decide +kernel
  ended := by decide +kernel

/-- A line in this place can give neither other pages nor another creator, and a box that is
put off there stays unset. -/
theorem Header.read_repeated_among :
    let place := Place.amongRepeated
    let remark := encode "% 3"
    let putOff := encode "%%BoundingBox: (atend)\r"
    (∀ value, lineFeed ∉ value →
        read (.whole (place.text (Key.pages.line value))) = read (.whole (place.text remark))) ∧
      (∀ value, lineFeed ∉ value →
        read (.whole (place.text (Key.creator.line value))) =
          read (.whole (place.text remark))) ∧
      ∃ header, read (.whole (place.text putOff)) = .ok header ∧ header.boundingBox = none := by
  intro place remark putOff
  have hpages : ∃ first ∈ place.earlier, Key.pages.Sets (Reader.lineText first) := by
    decide +kernel
  have hcreator : ∃ first ∈ place.earlier, Key.creator.Heads first := by decide +kernel
  refine ⟨?_, ?_, ?_⟩
  · apply ((read_repeated .pages).1 place remark (by decide +kernel) (.inl (by decide +kernel))
      (by decide +kernel)).mpr
    exact fun _ => hpages
  · apply ((read_repeated .creator).1 place remark (by decide +kernel) (.inl (by decide +kernel))
      hcreator).mpr
    intro _
    obtain ⟨first, hfirst, hheads⟩ := hcreator
    exact ⟨first, hfirst, (read_repeated .creator).2.1 rfl first hheads⟩
  · obtain ⟨header, hread, hunset⟩ := (read_repeated .boundingBox).2.2 rfl place putOff
      (by decide +kernel) (by decide +kernel) (by decide +kernel) (by decide +kernel)
    exact ⟨header, hread, hunset.mpr (by decide +kernel)⟩

/-- A place behind pages that were put off. -/
def Place.behindPutOff : Place where
  earlier := [encode "%!PS\n", encode "%%Pages: (atend)\n"]
  later := encode "\n"
  complete := by decide +kernel
  ended := by decide +kernel

/-- Behind pages that were put off, a remark that becomes another line with the key sets the
field. -/
theorem Header.not_inert_behindPutOff :
    let place := Place.behindPutOff
    let remark := encode "% 3"
    place.IsScanned ∧ place.Takes remark ∧ IsPlain remark ∧
      (∃ first ∈ place.earlier, Key.pages.Heads first ∧
        Key.pages.PutsOff (Reader.lineText first)) ∧
      read (.whole (place.text remark)) = .ok { empty with versionLine := some "%!PS" } ∧
      read (.whole (place.text (Key.pages.line (encode " 3")))) =
        .ok { empty with versionLine := some "%!PS", pages := some 3 } := by
  intro place remark
  have hunset : place.header remark = { empty with versionLine := some "%!PS" } := by
    decide +kernel
  have hset : place.header (Key.pages.line (encode " 3")) =
      { empty with versionLine := some "%!PS", pages := some 3 } := by
    decide +kernel
  refine ⟨by decide +kernel, by decide +kernel, by decide +kernel, by decide +kernel, ?_, ?_⟩
  · rw [read_whole]
    exact congrArg Except.ok hunset
  · rw [read_whole]
    exact congrArg Except.ok hset

end EpsBridge.Eps
