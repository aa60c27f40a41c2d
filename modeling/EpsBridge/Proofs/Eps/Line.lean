import EpsBridge.Proofs.Eps.Source
import EpsBridge.Proofs.Text.Ascii
import EpsBridge.Proofs.Text.Trimming

/-!
# Lines of a header

A line of bytes is read as a text without what ends it.  Its text begins with a key exactly
if its bytes do (`begins_lineText_iff`), and what stands in front of the line feed does not
matter as long as it is carriage returns (`lineText_concat`).

The lines of some bytes are found from the front.  Complete lines stay what they are whatever
follows them (`linesOf_flatten_append`), and once they close the window, what follows does not
count (`window_append_of_closes`).
-/

namespace EpsBridge.Eps

open Utf8

/-! ## The text of a line -/

/-- The byte that may stand in front of a line feed. -/
def carriageReturn : UInt8 := 0x0D

/-- What ends a line is no part of its text. -/
theorem lineText_concat {byte : UInt8} (hbyte : byte = carriageReturn ∨ byte = lineFeed)
    (line : List UInt8) : Reader.lineText (line ++ [byte]) = Reader.lineText line := by
  have hascii : byte.toNat < 0x80 := by rcases hbyte with rfl | rfl <;> decide
  have hends : (fun c => decide (c = '\r') || decide (c = '\n')) (Char.ofNat byte.toNat) = true := by
    rcases hbyte with rfl | rfl <;> decide
  have hnothing : decode [] = "" := rfl
  rw [Reader.lineText, decode_append_ascii line hascii, hnothing, String.append_empty,
    String.toList_push, Text.trimEnd_concat hends]
  rfl

/-- A text of visible ASCII characters and blanks. -/
def IsPrintable (text : String) : Prop := ∀ c ∈ text.toList, 0x20 ≤ c.toNat ∧ c.toNat < 0x7F

instance (text : String) : Decidable (IsPrintable text) :=
  List.decidableBAll (fun (c : Char) => 0x20 ≤ c.toNat ∧ c.toNat < 0x7F) text.toList

theorem IsPrintable.isAscii {text : String} (hprintable : IsPrintable text) :
    IsAscii text.toList := by
  intro c hc
  have hvisible := hprintable c hc
  omega

theorem IsPrintable.not_mem {text : String} (hprintable : IsPrintable text) {c : Char}
    (hc : c.toNat < 0x20) : c ∉ text.toList := by
  intro hmem
  have hvisible := hprintable c hmem
  omega

/-- Nothing is trimmed off a text that ends in such a character. -/
theorem IsPrintable.kept {text : String} (hprintable : IsPrintable text) :
    ∀ c ∈ text.toList.getLast?, (decide (c = '\r') || decide (c = '\n')) = false := by
  intro c hc
  have hmem := List.mem_of_getLast? hc
  have hreturn : c ≠ '\r' := fun h => hprintable.not_mem (by decide) (h ▸ hmem)
  have hfeed : c ≠ '\n' := fun h => hprintable.not_mem (by decide) (h ▸ hmem)
  simp [hreturn, hfeed]

/-- The text of a line begins with a key exactly if the bytes of the line do. -/
theorem begins_lineText_iff {key : String} (hprintable : IsPrintable key) (line : List UInt8) :
    key.toList <+: Reader.lineText line ↔ encode key <+: line := by
  rw [Reader.lineText, Text.begins_trimEnd_iff hprintable.kept,
    begins_decode_iff hprintable.isAscii (hprintable.not_mem (by decide)),
    encode_eq_map hprintable.isAscii]

theorem lineText_encode {text : String} (hascii : IsAscii text.toList) :
    Reader.lineText (encode text) =
      Text.trimEnd (fun c => c = '\r' || c = '\n') text.toList := by
  rw [Reader.lineText, decode_encode hascii]

/-- A line that ends the comments. -/
def EndsComments (line : List UInt8) : Prop := encode Header.stopMarker <+: line

instance : DecidablePred EndsComments := fun line =>
  inferInstanceAs (Decidable (encode Header.stopMarker <+: line))

theorem isStop_lineText_iff (line : List UInt8) :
    Header.isStop (Reader.lineText line) = true ↔ EndsComments line := by
  have hprintable : IsPrintable Header.stopMarker := by decide
  rw [EndsComments, ← begins_lineText_iff hprintable, Header.isStop, Option.isSome_iff_exists]
  constructor
  · rintro ⟨rest, hrest⟩
    exact ⟨rest, (Text.after?_eq_some_iff.mp hrest).symm⟩
  · rintro ⟨rest, hrest⟩
    exact ⟨rest, Text.after?_eq_some_iff.mpr hrest.symm⟩

/-! ## Complete lines -/

/-- A line with its line feed. -/
def IsComplete (line : List UInt8) : Prop :=
  ∃ body, lineFeed ∉ body ∧ line = body ++ [lineFeed]

theorem isComplete_iff {line : List UInt8} :
    IsComplete line ↔ lineFeed ∉ line.dropLast ∧ line.getLast? = some lineFeed := by
  constructor
  · rintro ⟨body, hbody, rfl⟩
    rw [List.dropLast_concat]
    exact ⟨hbody, List.getLast?_concat⟩
  · rintro ⟨hbody, hlast⟩
    exact ⟨line.dropLast, hbody, (List.dropLast_append_getLast? _ hlast).symm⟩

instance : DecidablePred IsComplete := fun _ => decidable_of_iff _ isComplete_iff.symm

theorem IsComplete.isClosed {line : List UInt8} (hline : IsComplete line) :
    isClosed line = true := by
  obtain ⟨body, -, rfl⟩ := hline
  exact isClosed_append_lineFeed body

/-- Complete lines are found whatever follows them. -/
theorem linesOf_flatten_append {lines : List (List UInt8)}
    (hlines : ∀ line ∈ lines, IsComplete line) (rest : List UInt8) :
    linesOf (lines.flatten ++ rest) = lines ++ linesOf rest := by
  induction lines with
  | nil => rfl
  | cons line lines ih =>
      obtain ⟨body, hbody, hline⟩ := hlines line List.mem_cons_self
      have hall : (line :: lines).flatten ++ rest = body ++ lineFeed :: (lines.flatten ++ rest) := by
        simp [hline]
      rw [hall, linesOf_append_lineFeed hbody, ← hline,
        ih fun other hother => hlines other (List.mem_cons_of_mem _ hother)]
      rfl

/-- Any bytes are complete lines and what is left behind the last line feed. -/
theorem exists_complete (bytes : List UInt8) :
    ∃ lines rest, bytes = List.flatten lines ++ rest ∧ (∀ line ∈ lines, IsComplete line) ∧
      lineFeed ∉ rest := by
  induction bytes with
  | nil => exact ⟨[], [], rfl, by simp, List.not_mem_nil⟩
  | cons byte bytes ih =>
      obtain ⟨lines, rest, rfl, hlines, hrest⟩ := ih
      by_cases hbyte : byte = lineFeed
      · refine ⟨[byte] :: lines, rest, rfl, ?_, hrest⟩
        rw [List.forall_mem_cons]
        exact ⟨⟨[], List.not_mem_nil, by rw [hbyte]; rfl⟩, hlines⟩
      · -- the byte belongs to the first line, which may be incomplete
        cases lines with
        | nil =>
            refine ⟨[], byte :: rest, rfl, by simp, ?_⟩
            exact List.not_mem_cons_of_ne_of_not_mem (Ne.symm hbyte) hrest
        | cons line lines =>
            obtain ⟨body, hbody, rfl⟩ := hlines line List.mem_cons_self
            refine ⟨(byte :: body ++ [lineFeed]) :: lines, rest, rfl, ?_, hrest⟩
            rw [List.forall_mem_cons]
            refine ⟨⟨byte :: body, ?_, rfl⟩, fun other hother =>
              hlines other (List.mem_cons_of_mem _ hother)⟩
            exact List.not_mem_cons_of_ne_of_not_mem (Ne.symm hbyte) hbody

/-! ## The window -/

/-- Some lines close the window: there are as many of them as count, or among these is the
one that ends the comments. -/
def Closes (limit : Nat) (lines : List (List UInt8)) : Prop :=
  limit ≤ lines.length ∨ ∃ line ∈ lines.take limit, EndsComments line

instance (limit : Nat) : DecidablePred (Closes limit) := fun lines =>
  inferInstanceAs (Decidable (limit ≤ lines.length ∨ ∃ line ∈ lines.take limit, EndsComments line))

theorem window_append (limit : Nat) (lines rest : List (List UInt8)) :
    window limit (lines ++ rest) =
      ((lines.take limit).map Reader.lineText ++
        (rest.take (limit - lines.length)).map Reader.lineText).takeWhile
          fun text => !Header.isStop text := by
  rw [window, List.take_append, List.map_append]

/-- Behind lines that close the window nothing counts. -/
theorem window_append_of_closes {limit : Nat} {lines : List (List UInt8)}
    (hcloses : Closes limit lines) (rest : List (List UInt8)) :
    window limit (lines ++ rest) = window limit lines := by
  rcases hcloses with hlimit | ⟨line, hline, hends⟩
  · rw [window, window, List.take_append_of_le_length hlimit]
  · rw [window_append, List.takeWhile_append, if_neg]
    · rfl
    · -- the line that ends the comments is not taken, so not all of these lines are
      intro hlength
      have hall := (List.takeWhile_prefix _).eq_of_length hlength
      have htext := List.mem_map_of_mem (f := Reader.lineText) hline
      rw [← hall] at htext
      have hgoes := List.all_eq_true.mp List.all_takeWhile _ htext
      rw [(isStop_lineText_iff line).mpr hends] at hgoes
      exact absurd hgoes (by decide)

/-- Behind lines that leave the window open, the window goes on. -/
theorem window_append_of_not_closes {limit : Nat} {lines : List (List UInt8)}
    (hopen : ¬ Closes limit lines) (rest : List (List UInt8)) :
    window limit (lines ++ rest) =
      lines.map Reader.lineText ++ window (limit - lines.length) rest := by
  obtain ⟨hlimit, hgoes⟩ := not_or.mp hopen
  have hall : lines.take limit = lines := List.take_of_length_le (by omega)
  have htaken : ∀ text ∈ lines.map Reader.lineText, (!Header.isStop text) = true := by
    intro text htext
    obtain ⟨line, hline, rfl⟩ := List.mem_map.mp htext
    rw [Bool.not_eq_true', ← Bool.not_eq_true, isStop_lineText_iff]
    exact fun hends => hgoes ⟨line, hall.symm ▸ hline, hends⟩
  rw [window_append, hall, List.takeWhile_append_of_pos htaken]
  rfl

/-! ## Sources that were read ahead -/

/-- A source all of whose bytes are there at once. -/
def Reader.whole (bytes : List UInt8) : Reader := ⟨bytes, []⟩

theorem Header.read_whole (bytes : List UInt8) :
    Header.read (.whole bytes) =
      .ok (ofLines (window headerLineLimit (linesOf bytes))) := by
  have hnone : failure? (Reader.whole bytes).deliveries = none := rfl
  have hbytes : (Reader.whole bytes).bytes = bytes := List.append_nil bytes
  rw [Header.read, Reader.commentLines_eq headerLineLimit (.whole bytes) trivial, map_obtained,
    hnone, hbytes]
  rfl

end EpsBridge.Eps
