import EpsBridge.Proofs.Eps.Line

/-!
# Line endings of a header

Some systems end a line with a line feed, others put a carriage return in front of it.  A
header is the same either way.  The carriage return is an ASCII byte, so it closes what the
line has left open as the line feed would have done, and trimming takes both away; and no
line feed is added, so the lines are counted as before.
-/

namespace EpsBridge.Eps

/-- The bytes with a carriage return in front of every line feed. -/
def withReturns (bytes : List UInt8) : List UInt8 :=
  bytes.flatMap fun byte => if byte = lineFeed then [carriageReturn, lineFeed] else [byte]

theorem withReturns_append (first second : List UInt8) :
    withReturns (first ++ second) = withReturns first ++ withReturns second :=
  List.flatMap_append

theorem withReturns_of_not_mem {bytes : List UInt8} (hbytes : lineFeed ∉ bytes) :
    withReturns bytes = bytes := by
  induction bytes with
  | nil => rfl
  | cons byte bytes ih =>
      have hbyte : byte ≠ lineFeed := (List.ne_of_not_mem_cons hbytes).symm
      rw [withReturns, List.flatMap_cons, if_neg hbyte]
      exact congrArg (byte :: ·) (ih (List.not_mem_of_not_mem_cons hbytes))

theorem withReturns_line {body : List UInt8} (hbody : lineFeed ∉ body) :
    withReturns (body ++ [lineFeed]) = body ++ [carriageReturn] ++ [lineFeed] := by
  rw [withReturns_append, withReturns_of_not_mem hbody, List.append_assoc]
  rfl

theorem IsComplete.withReturns {line : List UInt8} (hline : IsComplete line) :
    IsComplete (withReturns line) := by
  obtain ⟨body, hbody, rfl⟩ := hline
  refine ⟨body ++ [carriageReturn], ?_, withReturns_line hbody⟩
  rw [List.mem_append]
  exact not_or_intro hbody (by decide)

/-- A line has the same text with either ending. -/
theorem IsComplete.lineText_withReturns {line : List UInt8} (hline : IsComplete line) :
    Reader.lineText (Eps.withReturns line) = Reader.lineText line := by
  obtain ⟨body, hbody, rfl⟩ := hline
  calc
    Reader.lineText (Eps.withReturns (body ++ [lineFeed]))
        = Reader.lineText (body ++ [carriageReturn] ++ [lineFeed]) := by
          rw [withReturns_line hbody]
    _ = Reader.lineText (body ++ [carriageReturn]) := lineText_concat (.inr rfl) _
    _ = Reader.lineText body := lineText_concat (.inl rfl) _
    _ = Reader.lineText (body ++ [lineFeed]) := (lineText_concat (.inr rfl) _).symm

theorem withReturns_flatten (lines : List (List UInt8)) :
    withReturns lines.flatten = (lines.map withReturns).flatten := by
  induction lines with
  | nil => rfl
  | cons line lines ih =>
      rw [List.flatten_cons, withReturns_append, ih, List.map_cons, List.flatten_cons]

/-- There are as many lines as before, with the same texts. -/
theorem map_lineText_withReturns (bytes : List UInt8) :
    (linesOf (withReturns bytes)).map Reader.lineText =
      (linesOf bytes).map Reader.lineText := by
  obtain ⟨lines, rest, rfl, hlines, hrest⟩ := exists_complete bytes
  have hreturns : ∀ line ∈ lines.map withReturns, IsComplete line := by
    intro line hline
    obtain ⟨plain, hplain, rfl⟩ := List.mem_map.mp hline
    exact (hlines plain hplain).withReturns
  have htexts : (lines.map withReturns).map Reader.lineText = lines.map Reader.lineText := by
    rw [List.map_map]
    exact List.map_congr_left fun line hline => (hlines line hline).lineText_withReturns
  rw [withReturns_append, withReturns_of_not_mem hrest, withReturns_flatten,
    linesOf_flatten_append hreturns, linesOf_flatten_append hlines, List.map_append,
    List.map_append, htexts]

theorem window_withReturns (limit : Nat) (bytes : List UInt8) :
    window limit (linesOf (withReturns bytes)) = window limit (linesOf bytes) := by
  rw [window, window, List.map_take, List.map_take, map_lineText_withReturns]

/-- **A header does not depend on the line ending.**  With a carriage return in front of
every line feed, whatever stood there before, a text has the same header. -/
theorem Header.read_withReturns (bytes : List UInt8) :
    ∃ header other, Header.read (.whole bytes) = .ok header ∧
      Header.read (.whole (withReturns bytes)) = .ok other ∧ other = header ∧
      other.effectiveBox = header.effectiveBox ∧ other.isEpsf = header.isEpsf := by
  have hother := read_whole (withReturns bytes)
  rw [window_withReturns] at hother
  exact ⟨_, _, read_whole bytes, hother, rfl, rfl, rfl⟩

end EpsBridge.Eps
