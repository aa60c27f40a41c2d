import EpsBridge.Proofs.Eps.Line

/-!
# Headers of sources that fail

A header needs the lines of the window, and no line that is not complete can be told apart
from one that goes on.  So of a source that fails the bytes in front of the failure decide:
if they settle the window (`Settled`), the header is that of the whole text, whatever comes
behind; if they do not, another read is asked for, and it is the failure which is reported.

How the source cuts its bytes into pieces is no part of the answer (`Delivers.spec`).
-/

namespace EpsBridge.Eps

/-! ## Sources that fail behind some bytes -/

/-- The reads of a source that has some bytes, hands out at most `chunk` of them at a time,
and fails on the first read behind `limit` bytes.  A source with fewer bytes ends before. -/
inductive Delivers (chunk : Nat) (error : FileError) : Nat → List UInt8 → List Delivery → Prop
  /-- As many bytes as may be read were handed out.  Nothing is said of later reads. -/
  | fails (bytes : List UInt8) (later : List Delivery) :
      Delivers chunk error 0 bytes (.failure error :: later)
  /-- The end, as often as it is asked for. -/
  | ends (limit count : Nat) :
      Delivers chunk error (limit + 1) [] (List.replicate count (.bytes []))
  | piece {limit : Nat} {piece bytes : List UInt8} {later : List Delivery} (hne : piece ≠ [])
      (hlength : piece.length ≤ chunk) (hlater : Delivers chunk error limit bytes later) :
      Delivers chunk error (piece.length + limit) (piece ++ bytes) (.bytes piece :: later)

section

variable {chunk limit : Nat} {error : FileError} {bytes : List UInt8} {deliveries : List Delivery}

/-- What such a source hands out, and whether it fails, does not depend on its pieces. -/
theorem Delivers.spec (hdelivers : Delivers chunk error limit bytes deliveries) :
    handedOut deliveries = bytes.take limit ∧
      failure? deliveries = (if bytes.length < limit then none else some error) ∧
      EndsOnce deliveries := by
  induction hdelivers with
  | fails bytes later => exact ⟨List.take_zero.symm, by simp [failure?], trivial⟩
  | ends limit count =>
      cases count with
      | zero => exact ⟨List.take_nil.symm, by simp [failure?], trivial⟩
      | succ count =>
          refine ⟨List.take_nil.symm, by simp [List.replicate_succ, failure?], ?_⟩
          exact fun delivery hdelivery => List.eq_of_mem_replicate hdelivery
  | @piece limit piece bytes later hne hlength hlater ih =>
      obtain ⟨hbytes, hfailure, hends⟩ := ih
      match piece, hne with
      | byte :: piece, _ =>
          refine ⟨?_, ?_, hends⟩
          · rw [handedOut, hbytes, List.take_length_add_append]
          · rw [failure?, hfailure, List.length_append]
            simp only [Nat.add_lt_add_iff_left]

/-- Pieces of the right size may come first. -/
theorem Delivers.append {pieces : List (List UInt8)}
    (hpieces : ∀ piece ∈ pieces, piece ≠ [] ∧ piece.length ≤ chunk)
    (hlater : Delivers chunk error limit bytes deliveries) :
    Delivers chunk error (pieces.flatten.length + limit) (pieces.flatten ++ bytes)
      (pieces.map .bytes ++ deliveries) := by
  induction pieces with
  | nil => simpa using hlater
  | cons piece pieces ih =>
      obtain ⟨hne, hlength⟩ := hpieces piece List.mem_cons_self
      have hrest := ih fun other hother => hpieces other (List.mem_cons_of_mem _ hother)
      have hall := Delivers.piece hne hlength hrest
      rw [← Nat.add_assoc, ← List.length_append, ← List.append_assoc] at hall
      exact hall

theorem length_le_of_mem_piecesOf {size : Nat} {piece : List UInt8}
    (hpiece : piece ∈ piecesOf size bytes) : piece.length ≤ size := by
  obtain ⟨index, -, rfl⟩ := List.mem_map.mp hpiece
  rw [Array.length_toList, Array.size_extract, Nat.succ_mul]
  omega

/-- A source that fails behind some bytes is one of these, if it hands out anything at all. -/
theorem delivers_failingAfter (hchunk : 0 < chunk) (error : FileError) (limit : Nat)
    (bytes : List UInt8) :
    Delivers chunk error limit bytes (Reader.failingAfter limit chunk error bytes).deliveries := by
  have hsize : 0 < min chunk bufferSize := Nat.lt_min.mpr ⟨hchunk, by decide⟩
  have hpieces : ∀ bytes, ∀ piece ∈ piecesOf (min chunk bufferSize) bytes,
      piece ≠ [] ∧ piece.length ≤ chunk := fun _ piece hpiece =>
    ⟨ne_nil_of_mem_piecesOf hpiece, (length_le_of_mem_piecesOf hpiece).trans (Nat.min_le_left _ _)⟩
  unfold Reader.failingAfter
  split
  · next hshort =>
      have hends : Delivers chunk error (limit - bytes.length - 1 + 1) [] [] := .ends _ 0
      have hall := hends.append (hpieces bytes)
      rw [flatten_piecesOf hsize, List.append_nil, List.append_nil] at hall
      have hlimit : bytes.length + (limit - bytes.length - 1 + 1) = limit := by omega
      rwa [hlimit] at hall
  · next hlong =>
      have hfails : Delivers chunk error 0 (bytes.drop limit) [.failure error] := .fails _ _
      have hall := hfails.append (hpieces (bytes.take limit))
      rw [flatten_piecesOf hsize, List.take_append_drop, List.length_take, Nat.add_zero,
        Nat.min_eq_left (Nat.le_of_not_lt hlong)] at hall
      exact hall

end

/-! ## Bytes that settle the window -/

/-- Bytes that hold, complete with their line feeds, lines which close the window. -/
def Settled (limit : Nat) (bytes : List UInt8) : Prop :=
  ∃ lines rest, bytes = List.flatten lines ++ rest ∧ (∀ line ∈ lines, IsComplete line) ∧
    Closes limit lines

theorem filter_isClosed {lines : List (List UInt8)} (hlines : ∀ line ∈ lines, IsComplete line)
    (rest : List UInt8) :
    (linesOf (lines.flatten ++ rest)).filter isClosed =
      lines ++ (linesOf rest).filter isClosed := by
  rw [linesOf_flatten_append hlines, List.filter_append,
    List.filter_eq_self.mpr fun line hline => (hlines line hline).isClosed]

theorem isSettled_iff_closes (limit : Nat) (lines : List (List UInt8)) :
    isSettled limit lines = true ↔ Closes limit (lines.filter isClosed) := by
  simp only [isSettled, Closes, Bool.or_eq_true, decide_eq_true_eq, List.any_eq_true,
    isStop_lineText_iff]

theorem Closes.append {limit : Nat} {lines : List (List UInt8)} (hcloses : Closes limit lines)
    (more : List (List UInt8)) : Closes limit (lines ++ more) := by
  rcases hcloses with hlimit | ⟨line, hline, hends⟩
  · left
    rw [List.length_append]
    omega
  · right
    rw [List.take_append]
    exact ⟨line, List.mem_append_left _ hline, hends⟩

theorem isSettled_iff (limit : Nat) (bytes : List UInt8) :
    isSettled limit (linesOf bytes) = true ↔ Settled limit bytes := by
  rw [isSettled_iff_closes]
  constructor
  · intro hcloses
    obtain ⟨lines, rest, rfl, hlines, hrest⟩ := exists_complete bytes
    rw [filter_isClosed hlines, filter_isClosed_of_not_mem hrest, List.append_nil] at hcloses
    exact ⟨lines, rest, rfl, hlines, hcloses⟩
  · rintro ⟨lines, rest, rfl, hlines, hcloses⟩
    rw [filter_isClosed hlines]
    exact hcloses.append _

/-- Behind bytes that settle the window nothing counts. -/
theorem Settled.window_append {limit : Nat} {bytes : List UInt8} (hsettled : Settled limit bytes)
    (more : List UInt8) :
    window limit (linesOf (bytes ++ more)) = window limit (linesOf bytes) := by
  obtain ⟨lines, rest, rfl, hlines, hcloses⟩ := hsettled
  rw [List.append_assoc, linesOf_flatten_append hlines, linesOf_flatten_append hlines,
    window_append_of_closes hcloses, window_append_of_closes hcloses]

/-! ## Headers -/

theorem Settled.read_append {bytes : List UInt8} (hsettled : Settled headerLineLimit bytes)
    (more : List UInt8) :
    Header.read (.whole (bytes ++ more)) = Header.read (.whole bytes) := by
  rw [Header.read_whole, Header.read_whole, hsettled.window_append]

/-- What is read of such a source are the bytes in front of the failure. -/
theorem Delivers.read_eq {chunk limit : Nat} {error : FileError} {bytes : List UInt8}
    {deliveries : List Delivery} (hdelivers : Delivers chunk error limit bytes deliveries) :
    Header.read ⟨[], deliveries⟩ =
      obtained (if bytes.length < limit then none else some error)
        (isSettled headerLineLimit (linesOf (bytes.take limit)))
        (.ofLines (window headerLineLimit (linesOf (bytes.take limit)))) := by
  obtain ⟨hbytes, hfailure, hends⟩ := hdelivers.spec
  rw [Header.read, Reader.commentLines_eq headerLineLimit ⟨[], deliveries⟩ hends, map_obtained,
    hfailure, Reader.bytes, List.nil_append, hbytes]

/-- A text that ends its comments, and goes on. -/
def commented : List UInt8 :=
  Utf8.encode "%!PS\r\n%%Title: (A)\n%%EndComments\n%%Title: (B)\n%%Creator: C\n"

end EpsBridge.Eps
