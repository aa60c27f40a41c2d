import EpsBridge.Proofs.Eps.Header
import EpsBridge.Proofs.Eps.Line

/-!
# A line in its place

A text with one line left open (`Place`) is the text of a header for every line that is put
there.  If the lines in front leave the window open, the line is scanned: the window holds
them, the line itself, and what counts of the rest (`Place.window_text`).  If they close it,
what is put there does not matter (`Place.window_text_of_closed`).  A field of the header goes
by the lines in front, then by the line, then by those behind (`Place.field_header`).
-/

namespace EpsBridge.Eps

open Utf8

/-! ## Keys of lines -/

/-- A line that begins with the marker of a key. -/
def Key.Heads (key : Key) (line : List UInt8) : Prop := encode key.marker <+: line

instance (key : Key) : DecidablePred key.Heads := fun line =>
  inferInstanceAs (Decidable (encode key.marker <+: line))

theorem Key.isPrintable_marker (key : Key) : IsPrintable key.marker := by
  cases key <;> decide

theorem Key.begins_iff_heads (key : Key) (line : List UInt8) :
    key.marker.toList <+: Reader.lineText line ↔ key.Heads line :=
  begins_lineText_iff key.isPrintable_marker line

theorem Key.isSome_value?_iff (key : Key) (text : List Char) :
    (key.value? text).isSome = true ↔ key.marker.toList <+: text := by
  rw [Key.value?, Option.isSome_map, Option.isSome_iff_exists]
  constructor
  · rintro ⟨rest, hrest⟩
    exact ⟨rest, (Text.after?_eq_some_iff.mp hrest).symm⟩
  · rintro ⟨rest, hrest⟩
    exact ⟨rest, Text.after?_eq_some_iff.mpr hrest.symm⟩

/-- A line has a value for a key exactly if it begins with the key's marker. -/
theorem Key.heads_iff (key : Key) (line : List UInt8) :
    key.Heads line ↔ (key.value? (Reader.lineText line)).isSome = true := by
  rw [isSome_value?_iff, begins_iff_heads]

/-- No line with a key ends the comments. -/
theorem Key.Heads.not_endsComments {key : Key} {line : List UInt8} (hheads : key.Heads line) :
    ¬ EndsComments line := by
  intro hends
  have hnone : ∀ key ∈ Key.all, ¬ encode key.marker <+: encode Header.stopMarker ∧
      ¬ encode Header.stopMarker <+: encode key.marker := by decide +kernel
  obtain ⟨hfirst, hsecond⟩ := hnone key key.mem_all
  rcases List.prefix_or_prefix_of_prefix hheads hends with hbegins | hbegins
  · exact hfirst hbegins
  · exact hsecond hbegins

/-- Only a line with the key is read. -/
theorem Key.Sets.heads {key : Key} {line : List UInt8}
    (hsets : key.Sets (Reader.lineText line)) : key.Heads line := by
  obtain ⟨_, hreading⟩ := Option.isSome_iff_exists.mp hsets
  obtain ⟨_, hvalue, -⟩ := Option.bind_eq_some_iff.mp hreading
  rw [Key.heads_iff, hvalue]
  rfl

theorem isSome_firstReading?_map_iff {key : Key} {lines : List (List UInt8)} :
    (firstReading? key key.read? (lines.map Reader.lineText)).isSome = true ↔
      ∃ line ∈ lines, key.Sets (Reader.lineText line) := by
  simp only [isSome_firstReading?_iff, List.mem_map, exists_exists_and_eq_and]

/-! ## Places -/

/-- A place for a line in a text.  In front of it are complete lines, behind it the line feed
that ends the line and what follows, or nothing. -/
structure Place where
  earlier : List (List UInt8)
  later : List UInt8
  complete : ∀ line ∈ earlier, IsComplete line
  ended : later = [] ∨ later.head? = some lineFeed

namespace Place

/-- The text with a line in the place. -/
def text (place : Place) (line : List UInt8) : List UInt8 :=
  place.earlier.flatten ++ line ++ place.later

/-- Whether the lines in front leave the window open. -/
def IsScanned (place : Place) : Prop := ¬ Closes headerLineLimit place.earlier

instance : DecidablePred IsScanned := fun place =>
  inferInstanceAs (Decidable (¬ Closes headerLineLimit place.earlier))

/-- Whether something is a line when it is put in the place: it has no line feed, and is not
the nothing behind the last line. -/
def Takes (place : Place) (line : List UInt8) : Prop :=
  lineFeed ∉ line ∧ line ++ place.later ≠ []

instance (place : Place) : DecidablePred place.Takes := fun line =>
  inferInstanceAs (Decidable (lineFeed ∉ line ∧ line ++ place.later ≠ []))

/-- Every place takes a line with a key. -/
theorem takes_of_heads (place : Place) {key : Key} {line : List UInt8} (hheads : key.Heads line)
    (hline : lineFeed ∉ line) : place.Takes line := by
  have hmarker : ∀ key ∈ Key.all, encode key.marker ≠ [] := by decide +kernel
  obtain ⟨rest, rfl⟩ := hheads
  refine ⟨hline, ?_⟩
  rw [List.append_assoc]
  exact List.append_ne_nil_of_left_ne_nil (hmarker key key.mem_all) _

/-- What counts of the lines behind the place. -/
def following (place : Place) : List (List Char) :=
  window (headerLineLimit - place.earlier.length - 1) (linesOf place.later.tail)

variable {place : Place} {line : List UInt8}

theorem linesOf_text (htakes : place.Takes line) :
    ∃ whole, linesOf (place.text line) = place.earlier ++ whole :: linesOf place.later.tail ∧
      Reader.lineText whole = Reader.lineText line := by
  obtain ⟨hline, hne⟩ := htakes
  rw [text, List.append_assoc, linesOf_flatten_append place.complete]
  rcases place.ended with hlater | hlater
  · rw [hlater, List.append_nil] at hne ⊢
    exact ⟨line, by rw [linesOf_of_not_mem hne hline]; rfl, rfl⟩
  · obtain ⟨more, hmore⟩ := List.head?_eq_some_iff.mp hlater
    rw [hmore, linesOf_append_lineFeed hline]
    exact ⟨line ++ [lineFeed], rfl, lineText_concat (.inr rfl) line⟩

/-- A line that is scanned counts, and unless it ends the comments, so do those behind it. -/
theorem window_text (hscanned : place.IsScanned) (htakes : place.Takes line) :
    window headerLineLimit (linesOf (place.text line)) =
      place.earlier.map Reader.lineText ++
        if Header.isStop (Reader.lineText line) then []
        else Reader.lineText line :: place.following := by
  obtain ⟨whole, hlines, htext⟩ := linesOf_text htakes
  have hlimit : place.earlier.length < headerLineLimit :=
    Nat.lt_of_not_le (not_or.mp hscanned).1
  have hleft : headerLineLimit - place.earlier.length =
      headerLineLimit - place.earlier.length - 1 + 1 := by omega
  rw [hlines, window_append_of_not_closes hscanned, hleft, window_cons, htext]
  rfl

/-- What is put behind the window does not count. -/
theorem window_text_of_closed (hclosed : ¬ place.IsScanned) (line : List UInt8) :
    window headerLineLimit (linesOf (place.text line)) =
      window headerLineLimit place.earlier := by
  rw [text, List.append_assoc, linesOf_flatten_append place.complete,
    window_append_of_closes (not_not.mp hclosed)]

/-! ## Headers of places -/

/-- The header of the text with a line in the place. -/
def header (place : Place) (line : List UInt8) : Header :=
  Header.ofLines (window headerLineLimit (linesOf (place.text line)))

theorem field_header {key : Key} (hscanned : place.IsScanned) (htakes : place.Takes line)
    (hgoes : ¬ EndsComments line) :
    (place.header line).field key =
      (firstReading? key key.read? (place.earlier.map Reader.lineText)).or
        ((key.reading? (Reader.lineText line)).or
          (firstReading? key key.read? place.following)) := by
  rw [header, Header.field_ofLines, window_text hscanned htakes,
    if_neg ((isStop_lineText_iff line).not.mpr hgoes), firstReading?_append, firstReading?_cons]
  rfl

theorem versionLine_header (hscanned : place.IsScanned) (htakes : place.Takes line)
    (hearlier : place.earlier ≠ []) :
    (place.header line).versionLine =
      ((place.earlier.map Reader.lineText).head?.filter Header.isVersion).map String.ofList := by
  have hne : place.earlier.map Reader.lineText ≠ [] := by simpa using hearlier
  rw [header, Header.versionLine_ofLines, window_text hscanned htakes,
    List.head?_append_of_ne_nil _ hne]

/-- As long as no line with the key was read, the line in the place decides. -/
theorem field_header_of_unread {key : Key} (hscanned : place.IsScanned)
    (hunread : ¬ ∃ first ∈ place.earlier, key.Sets (Reader.lineText first))
    (htakes : place.Takes line) (hgoes : ¬ EndsComments line) :
    (place.header line).field key =
      (key.reading? (Reader.lineText line)).or (firstReading? key key.read? place.following) := by
  have hnone : firstReading? key key.read? (place.earlier.map Reader.lineText) = none := by
    rw [← Option.not_isSome_iff_eq_none, isSome_firstReading?_map_iff]
    exact hunread
  rw [field_header hscanned htakes hgoes, hnone, Option.none_or]

end Place

end EpsBridge.Eps
