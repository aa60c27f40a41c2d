import EpsBridge.Proofs.Eps.Source
import EpsBridge.Proofs.Text.Fields

/-!
# What a header says

A header is put together line by line, by a chain of markers and two rules for a comment
that comes again.  Read the other way round, every field depends on one line only: the first
of the window that gives its comment a value (`Header.declared`).

The two readings are equal since a line has at most one of the keys
(`Comment.ofLine?_eq_some_iff`: no marker is the beginning of another), so that a line
changes one field at most, and that one only if it is not set yet (`Tracks`).  An induction
on the lines follows one field at a time (`Tracks.foldl`).  What holds of all fields is said
once, of the field of a key (`Header.tracks_field`).
-/

namespace EpsBridge

namespace Eps

/-! ## One line -/

/-- The trimmed value that a line gives to a key. -/
def Key.value? (key : Key) (line : List Char) : Option (List Char) :=
  (Text.after? key.marker.toList line).map Text.trim

theorem Key.marker_begins_of_value? {key : Key} {line value : List Char}
    (hvalue : key.value? line = some value) : key.marker.toList <+: line := by
  obtain ⟨rest, hrest, -⟩ := Option.map_eq_some_iff.mp hvalue
  exact ⟨rest, (Text.after?_eq_some_iff.mp hrest).symm⟩

theorem Key.mem_all (key : Key) : key ∈ Key.all := by
  cases key <;> decide

/-- No marker is the beginning of another. -/
theorem Key.eq_of_marker_begins {first second : Key}
    (hbegins : first.marker.toList <+: second.marker.toList) : first = second := by
  have hall : ∀ first ∈ Key.all, ∀ second ∈ Key.all,
      first.marker.toList <+: second.marker.toList → first = second := by decide +kernel
  exact hall first (mem_all first) second (mem_all second) hbegins

theorem Key.eq_of_value? {first second : Key} {line firstValue secondValue : List Char}
    (hfirst : first.value? line = some firstValue)
    (hsecond : second.value? line = some secondValue) : first = second := by
  rcases List.prefix_or_prefix_of_prefix (marker_begins_of_value? hfirst)
      (marker_begins_of_value? hsecond) with hbegins | hbegins
  · exact eq_of_marker_begins hbegins
  · exact (eq_of_marker_begins hbegins).symm

theorem Comment.ofLine?_eq (line : List Char) :
    Comment.ofLine? line =
      Key.all.findSome? fun key => (key.value? line).map fun value => ⟨key, value⟩ := by
  simp only [Comment.ofLine?, Key.value?, Option.map_map]
  rfl

theorem Comment.ofLine?_eq_some_iff {line : List Char} {comment : Comment} :
    Comment.ofLine? line = some comment ↔ comment.key.value? line = some comment.value := by
  rw [ofLine?_eq]
  constructor
  · intro hfound
    obtain ⟨key, -, hkey⟩ := List.exists_of_findSome?_eq_some hfound
    obtain ⟨value, hvalue, rfl⟩ := Option.map_eq_some_iff.mp hkey
    exact hvalue
  · intro hvalue
    cases hfound : Key.all.findSome? fun key =>
        (key.value? line).map fun value => (⟨key, value⟩ : Comment) with
    | none =>
        have hnone := List.findSome?_eq_none_iff.mp hfound comment.key (Key.mem_all _)
        rw [hvalue] at hnone
        exact absurd hnone nofun
    | some found =>
        obtain ⟨key, -, hkey⟩ := List.exists_of_findSome?_eq_some hfound
        obtain ⟨value, hfirst, rfl⟩ := Option.map_eq_some_iff.mp hkey
        -- the key that is found first is the only one that the line has
        obtain rfl := Key.eq_of_value? hfirst hvalue
        rw [hvalue] at hfirst
        cases hfirst
        rfl

theorem Comment.ofLine?_eq_none_iff {line : List Char} :
    Comment.ofLine? line = none ↔ ∀ key : Key, key.value? line = none := by
  rw [ofLine?_eq, List.findSome?_eq_none_iff]
  simp [Key.mem_all]

/-! ## Readings of a value -/

/-- A value without the parentheses around it, if it has both. -/
def bare (value : List Char) : List Char :=
  if value.head? = some '(' ∧ value.tail.getLast? = some ')' then value.tail.dropLast else value

theorem unquote_eq_bare (value : List Char) : unquote value = bare value := by
  unfold unquote bare
  split
  · simp
  · next hvalue =>
      rw [if_neg]
      rintro ⟨hhead, -⟩
      obtain ⟨rest, rfl⟩ := List.head?_eq_some_iff.mp hhead
      exact hvalue rest rfl

/-- The box whose corners are the first four tokens of a value, if all of them can be read. -/
def corners? (readCorner? : List Char → Option Int32) (value : List Char) : Option BoundingBox :=
  match Text.tokens value with
  | llx :: lly :: urx :: ury :: _ =>
    match readCorner? llx, readCorner? lly, readCorner? urx, readCorner? ury with
    | some llx, some lly, some urx, some ury => some ⟨llx, lly, urx, ury⟩
    | _, _, _, _ => none
  | _ => none

theorem readBox?_eq_corners? (readCorner? : List Char → Option Int32) (value : List Char) :
    readBox? readCorner? value = corners? readCorner? value := by
  unfold readBox? corners?
  match Text.tokens value with
  | [] | [_] | [_, _] | [_, _, _] =>
    simp [List.mapM_cons, Option.bind_assoc, BoundingBox.ofList?]
  | llx :: lly :: urx :: ury :: _ =>
    cases hllx : readCorner? llx <;> cases hlly : readCorner? lly <;>
      cases hurx : readCorner? urx <;> cases hury : readCorner? ury <;>
      simp [List.mapM_cons, hllx, hlly, hurx, hury, BoundingBox.ofList?]

/-! ## Fields -/

/-- What is read from the first line that gives a key a value which can be read. -/
def firstReading? {α : Type} (key : Key) (read? : List Char → Option α)
    (lines : List (List Char)) : Option α :=
  let reading? line := (key.value? line).bind read?
  (lines.find? fun line => (reading? line).isSome).bind reading?

theorem firstReading?_cons {α : Type} (key : Key) (read? : List Char → Option α)
    (line : List Char) (lines : List (List Char)) :
    firstReading? key read? (line :: lines) =
      ((key.value? line).bind read?).or (firstReading? key read? lines) := by
  unfold firstReading?
  cases hreading : (key.value? line).bind read? <;> simp [hreading]

theorem firstReading?_append {α : Type} (key : Key) (read? : List Char → Option α)
    (front behind : List (List Char)) :
    firstReading? key read? (front ++ behind) =
      (firstReading? key read? front).or (firstReading? key read? behind) := by
  induction front with
  | nil => rfl
  | cons line front ih =>
      rw [List.cons_append, firstReading?_cons, firstReading?_cons, ih, Option.or_assoc]

/-- A field that a line with the key sets to what is read from its value, unless it is set. -/
def Tracks {α : Type} (field : Header → Option α) (key : Key)
    (read? : List Char → Option α) : Prop :=
  ∀ header line, field (header.noteLine line) = (field header).or ((key.value? line).bind read?)

theorem Tracks.foldl {α : Type} {field : Header → Option α} {key : Key}
    {read? : List Char → Option α} (htracks : Tracks field key read?)
    (lines : List (List Char)) (header : Header) :
    field (lines.foldl Header.noteLine header) =
      (field header).or (firstReading? key read? lines) := by
  induction lines generalizing header with
  | nil => simp [firstReading?]
  | cons line lines ih =>
      rw [List.foldl_cons, ih, htracks, firstReading?_cons, Option.or_assoc]

theorem Tracks.of_note {α : Type} {field : Header → Option α} {key : Key}
    {read? : List Char → Option α}
    (hsame : ∀ header value, field (header.note ⟨key, value⟩) = (field header).or (read? value))
    (hother : ∀ header other value, other ≠ key →
      field (header.note ⟨other, value⟩) = field header) :
    Tracks field key read? := by
  intro header line
  rw [Header.noteLine]
  cases hcomment : Comment.ofLine? line with
  | none => rw [Comment.ofLine?_eq_none_iff.mp hcomment key, Option.bind_none, Option.or_none]
  | some comment =>
      obtain ⟨other, value⟩ := comment
      have hvalue := Comment.ofLine?_eq_some_iff.mp hcomment
      by_cases hkey : other = key
      · rw [← hkey, hvalue]
        exact hkey ▸ hsame header value
      · -- a line with another key gives this one no value
        cases hnone : key.value? line with
        | none => rw [Option.bind_none, Option.or_none, hother header other value hkey]
        | some _ => exact absurd (Key.eq_of_value? hvalue hnone) hkey

namespace Header

theorem tracks_title :
    Tracks title .title (fun value => some (String.ofList (bare value))) := by
  refine .of_note (fun header value => ?_) (fun header other value hother => ?_)
  · rw [← unquote_eq_bare]
    simp [note]
  · cases other <;> simp_all [note]

theorem tracks_creator : Tracks creator .creator (fun value => some (String.ofList value)) := by
  refine .of_note (fun header value => ?_) (fun header other value hother => ?_)
  · simp [note]
  · cases other <;> simp_all [note]

theorem tracks_creationDate :
    Tracks creationDate .creationDate (fun value => some (String.ofList (bare value))) := by
  refine .of_note (fun header value => ?_) (fun header other value hother => ?_)
  · rw [← unquote_eq_bare]
    simp [note]
  · cases other <;> simp_all [note]

theorem tracks_pages : Tracks pages .pages firstNumber? := by
  refine .of_note (fun header value => ?_) (fun header other value hother => ?_)
  · simp [note]
  · cases other <;> simp_all [note]

theorem tracks_languageLevel : Tracks languageLevel .languageLevel firstNumber? := by
  refine .of_note (fun header value => ?_) (fun header other value hother => ?_)
  · simp [note]
  · cases other <;> simp_all [note]

theorem tracks_boundingBox :
    Tracks boundingBox .boundingBox (corners? Decimal.readInt32?) := by
  refine .of_note (fun header value => ?_) (fun header other value hother => ?_)
  · rw [← readBox?_eq_corners?]
    simp [note]
  · cases other <;> simp_all [note]

theorem tracks_hiresBoundingBox :
    Tracks hiresBoundingBox .hiresBoundingBox (corners? Binary64.readTruncated?) := by
  refine .of_note (fun header value => ?_) (fun header other value hother => ?_)
  · rw [← readBox?_eq_corners?]
    simp [note]
  · cases other <;> simp_all [note]

/-! ## Headers -/

/-- Whether a line declares the language. -/
def isVersion (line : List Char) : Bool :=
  (Text.after? versionMarker.toList line).isSome

/-- The header that some bytes declare.  Only the window counts.  In it the first line may
declare the language, and each comment goes by the first line that gives it a value. -/
def declared (bytes : List UInt8) : Header :=
  let lines := window headerLineLimit (linesOf bytes)
  { versionLine := (lines.head?.filter isVersion).map String.ofList
    title := firstReading? .title (fun value => some (String.ofList (bare value))) lines
    creator := firstReading? .creator (fun value => some (String.ofList value)) lines
    creationDate :=
      firstReading? .creationDate (fun value => some (String.ofList (bare value))) lines
    pages := firstReading? .pages firstNumber? lines
    languageLevel := firstReading? .languageLevel firstNumber? lines
    boundingBox := firstReading? .boundingBox (corners? Decimal.readInt32?) lines
    hiresBoundingBox :=
      firstReading? .hiresBoundingBox (corners? Binary64.readTruncated?) lines }

theorem value?_of_isVersion {line : List Char} (hversion : isVersion line = true) (key : Key) :
    key.value? line = none := by
  obtain ⟨rest, hrest⟩ := Option.isSome_iff_exists.mp hversion
  rw [Text.after?_eq_some_iff] at hrest
  rw [hrest]
  cases key <;> rfl

theorem versionLine_noteLine (header : Header) (line : List Char) :
    (header.noteLine line).versionLine = header.versionLine := by
  rw [noteLine]
  cases Comment.ofLine? line with
  | none => rfl
  | some comment =>
      obtain ⟨key, value⟩ := comment
      cases key <;> rfl

theorem versionLine_foldl (lines : List (List Char)) (header : Header) :
    (lines.foldl noteLine header).versionLine = header.versionLine := by
  induction lines generalizing header with
  | nil => rfl
  | cons line lines ih => rw [List.foldl_cons, ih, versionLine_noteLine]

theorem versionLine_ofLines (lines : List (List Char)) :
    (ofLines lines).versionLine = (lines.head?.filter isVersion).map String.ofList := by
  cases lines with
  | nil => rfl
  | cons first rest =>
      rw [ofLines, List.head?_cons]
      split
      · next hversion =>
          have hversion : isVersion first = true := hversion
          rw [versionLine_foldl, Option.filter_some, if_pos hversion]
          rfl
      · next hversion =>
          have hversion : ¬ isVersion first = true := hversion
          rw [versionLine_foldl, Option.filter_some, if_neg hversion]
          rfl

end Header

theorem Tracks.ofLines {α : Type} {field : Header → Option α} {key : Key}
    {read? : List Char → Option α} (htracks : Tracks field key read?)
    (hunset : ∀ versionLine, field { Header.empty with versionLine } = none)
    (lines : List (List Char)) :
    field (Header.ofLines lines) = firstReading? key read? lines := by
  cases lines with
  | nil => exact hunset none
  | cons first rest =>
      rw [Header.ofLines]
      split
      · next hversion =>
          -- the chain passes over the line that declares the language, which has no key
          rw [htracks.foldl, hunset, firstReading?_cons, Header.value?_of_isVersion hversion]
          rfl
      · rw [htracks.foldl]
        exact congrArg (Option.or · _) (hunset none)

/-! ## Fields by key -/

/-- What a value of a key is read as. -/
def Key.Reading : Key → Type
  | .title | .creator | .creationDate => String
  | .pages | .languageLevel => UInt32
  | .hiresBoundingBox | .boundingBox => BoundingBox

instance : (key : Key) → DecidableEq key.Reading
  | .title | .creator | .creationDate => inferInstanceAs (DecidableEq String)
  | .pages | .languageLevel => inferInstanceAs (DecidableEq UInt32)
  | .hiresBoundingBox | .boundingBox => inferInstanceAs (DecidableEq BoundingBox)

/-- Reads the value of a key. -/
def Key.read? : (key : Key) → List Char → Option key.Reading
  | .title | .creationDate => fun value => some (String.ofList (bare value))
  | .creator => fun value => some (String.ofList value)
  | .pages | .languageLevel => firstNumber?
  | .hiresBoundingBox => corners? Binary64.readTruncated?
  | .boundingBox => corners? Decimal.readInt32?

/-- What a line gives a key, if its value can be read. -/
def Key.reading? (key : Key) (line : List Char) : Option key.Reading :=
  (key.value? line).bind key.read?

/-- A line with a value of the key that can be read. -/
def Key.Sets (key : Key) (line : List Char) : Prop := (key.reading? line).isSome = true

instance (key : Key) : DecidablePred key.Sets := fun line =>
  inferInstanceAs (Decidable ((key.reading? line).isSome = true))

theorem isSome_firstReading?_iff {key : Key} {lines : List (List Char)} :
    (firstReading? key key.read? lines).isSome = true ↔ ∃ line ∈ lines, key.Sets line := by
  induction lines with
  | nil => simp [firstReading?]
  | cons line lines ih =>
      rw [firstReading?_cons, Option.isSome_or, Bool.or_eq_true, ih]
      simp [Key.Sets, Key.reading?]

/-- The field of a key. -/
def Header.field (header : Header) : (key : Key) → Option key.Reading
  | .title => header.title
  | .creator => header.creator
  | .creationDate => header.creationDate
  | .pages => header.pages
  | .languageLevel => header.languageLevel
  | .hiresBoundingBox => header.hiresBoundingBox
  | .boundingBox => header.boundingBox

theorem Header.tracks_field (key : Key) : Tracks (fun header => header.field key) key key.read? := by
  cases key with
  | title => exact tracks_title
  | creator => exact tracks_creator
  | creationDate => exact tracks_creationDate
  | pages => exact tracks_pages
  | languageLevel => exact tracks_languageLevel
  | hiresBoundingBox => exact tracks_hiresBoundingBox
  | boundingBox => exact tracks_boundingBox

theorem Header.field_ofLines (key : Key) (lines : List (List Char)) :
    (ofLines lines).field key = firstReading? key key.read? lines :=
  (tracks_field key).ofLines (fun _ => by cases key <;> rfl) lines

/-- A header is its version line and the fields of the keys. -/
theorem Header.ext_field {first second : Header} (hversion : first.versionLine = second.versionLine)
    (hfield : ∀ key, first.field key = second.field key) : first = second := by
  have htitle : first.title = second.title := hfield .title
  have hcreator : first.creator = second.creator := hfield .creator
  have hdate : first.creationDate = second.creationDate := hfield .creationDate
  have hpages : first.pages = second.pages := hfield .pages
  have hlevel : first.languageLevel = second.languageLevel := hfield .languageLevel
  have hhires : first.hiresBoundingBox = second.hiresBoundingBox := hfield .hiresBoundingBox
  have hbox : first.boundingBox = second.boundingBox := hfield .boundingBox
  cases first
  cases second
  simp_all

/-! ## Headers of sources -/

theorem Header.ofLines_window (bytes : List UInt8) :
    ofLines (window headerLineLimit (linesOf bytes)) = declared bytes := by
  apply ext_field
  · exact versionLine_ofLines _
  · intro key
    rw [field_ofLines]
    cases key <;> rfl

/-- A source that cuts its lines apart, and that fails once the comments are over. -/
def Reader.torn : Reader :=
  let ascii (text : String) : List UInt8 := text.toList.map fun c => UInt8.ofNat c.toNat
  ⟨ascii "%!PS\r\n%%Tit",
    [.bytes (ascii "le: (A)\r"), .bytes (ascii "\n%%Title: B\n%%Pages: (atend)\n%%Pages: 2 1\n%%"),
      .bytes (ascii "BoundingBox: -1 0 7 +3 5\n%%EndComments\n%%Creator:"), .failure .busy]⟩

/-- The header of some bytes does not depend on how many of them are handed out at a time. -/
theorem Header.read_ofBytes {chunk : Nat} (hchunk : 0 < chunk) (bytes : List UInt8) :
    Header.read (.ofBytes chunk bytes) = .ok (declared bytes) := by
  obtain ⟨hbytes, hquiet, hends⟩ := Reader.ofBytes_spec hchunk bytes
  rw [Header.read, Reader.commentLines_eq headerLineLimit _ hends, map_obtained, ofLines_window,
    hbytes, hquiet]
  rfl

end Eps

end EpsBridge
