import EpsBridge.Eps.Source

/-!
# Lines of a source

A source hands out its bytes in pieces, and a reader asks for them one line at a time.
Wherever the pieces are cut, the lines that it gets are those of the bytes (`linesOf`).  A
read that fails is noticed only while a line is incomplete, and nothing else can go wrong:
`takesLine_nextLine` says both for one line, and `commentLines_eq`, by induction on the
number of lines, for the comments.
-/

namespace EpsBridge.Eps

/-! ## Lines of bytes -/

/-- The lines of some bytes, each with its line feed.  The last one may have none. -/
def linesOf : List UInt8 → List (List UInt8)
  | [] => []
  | byte :: rest =>
    if byte = lineFeed then [byte] :: linesOf rest
    else match linesOf rest with
      | [] => [[byte]]
      | line :: lines => (byte :: line) :: lines

theorem linesOf_append_lineFeed {line : List UInt8} (hline : lineFeed ∉ line)
    (rest : List UInt8) :
    linesOf (line ++ lineFeed :: rest) = (line ++ [lineFeed]) :: linesOf rest := by
  induction line with
  | nil => rw [List.nil_append, linesOf, if_pos rfl, List.nil_append]
  | cons byte line ih =>
      have hbyte : byte ≠ lineFeed := (List.ne_of_not_mem_cons hline).symm
      rw [List.cons_append, linesOf, if_neg hbyte, ih (List.not_mem_of_not_mem_cons hline)]
      rfl

theorem linesOf_of_not_mem {line : List UInt8} (hne : line ≠ []) (hline : lineFeed ∉ line) :
    linesOf line = [line] := by
  induction line with
  | nil => exact absurd rfl hne
  | cons byte line ih =>
      have hbyte : byte ≠ lineFeed := (List.ne_of_not_mem_cons hline).symm
      rw [linesOf, if_neg hbyte]
      cases line with
      | nil => rfl
      | cons next line =>
          rw [ih (List.cons_ne_nil _ _) (List.not_mem_of_not_mem_cons hline)]

/-- Whether the line feed of a line is there. -/
def isClosed (line : List UInt8) : Bool := line.getLast? = some lineFeed

theorem isClosed_append_lineFeed (line : List UInt8) : isClosed (line ++ [lineFeed]) = true := by
  simp [isClosed]

theorem isClosed_of_not_mem {line : List UInt8} (hline : lineFeed ∉ line) :
    isClosed line = false := by
  rw [isClosed, decide_eq_false_iff_not]
  exact fun hlast => hline (List.mem_of_getLast? hlast)

theorem filter_isClosed_of_not_mem {bytes : List UInt8} (hbytes : lineFeed ∉ bytes) :
    (linesOf bytes).filter isClosed = [] := by
  by_cases hne : bytes = []
  · rw [hne]
    rfl
  · rw [linesOf_of_not_mem hne hbytes]
    simp [isClosed_of_not_mem hbytes]

/-! ## Sources -/

/-- What a source hands out before it ends, or before a read fails. -/
def handedOut : List Delivery → List UInt8
  | .bytes (byte :: piece) :: later => byte :: piece ++ handedOut later
  | _ => []

/-- What a source fails with before it ends, if it does. -/
def failure? : List Delivery → Option FileError
  | .bytes (_ :: _) :: later => failure? later
  | .failure error :: _ => some error
  | _ => none

/-- A source that has nothing more to hand out once it has ended. -/
def EndsOnce : List Delivery → Prop
  | .bytes (_ :: _) :: later => EndsOnce later
  | .bytes [] :: later => ∀ delivery ∈ later, delivery = .bytes []
  | _ => True

deriving instance DecidableEq for Delivery

instance EndsOnce.decidable : DecidablePred EndsOnce
  | .bytes (_ :: _) :: later => EndsOnce.decidable later
  | .bytes [] :: later =>
    inferInstanceAs (Decidable (∀ delivery ∈ later, delivery = .bytes []))
  | .failure _ :: _ => .isTrue trivial
  | [] => .isTrue trivial

/-- Behind its end, a source hands out nothing and does not fail. -/
theorem exhausted_of_ended {later : List Delivery}
    (hended : ∀ delivery ∈ later, delivery = .bytes []) :
    handedOut later = [] ∧ failure? later = none ∧ EndsOnce later := by
  cases later with
  | nil => exact ⟨rfl, rfl, trivial⟩
  | cons delivery later =>
      obtain rfl := hended delivery List.mem_cons_self
      exact ⟨rfl, rfl, fun other hother => hended other (List.mem_cons_of_mem _ hother)⟩

namespace Reader

/-- All that a reader has to read: what it was handed out already, and what is to come. -/
def bytes (reader : Reader) : List UInt8 := reader.buffer ++ handedOut reader.deliveries

/-- A line has been taken off the front of what a reader had to read, and `next` reads on. -/
structure Takes (bytes : List UInt8) (deliveries : List Delivery) (line : List UInt8)
    (next : Reader) : Prop where
  lines : linesOf bytes = line :: linesOf next.bytes
  failure : failure? next.deliveries = failure? deliveries
  /-- Only at the end of a source may a line feed be missing. -/
  closed : isClosed line = true ∨ failure? deliveries = none
  endsOnce : EndsOnce next.deliveries

/-- What asking for a line may answer, given all that there was to read: a line off the
front, no line where nothing was left, or the failure of the source. -/
def TakesLine (bytes : List UInt8) (deliveries : List Delivery) :
    Except FileError (Option (List UInt8 × Reader)) → Prop
  | .error error => failure? deliveries = some error ∧ lineFeed ∉ bytes
  | .ok none => failure? deliveries = none ∧ bytes = []
  | .ok (some (line, next)) => Takes bytes deliveries line next

theorem TakesLine.of_failure {bytes : List UInt8} {deliveries later : List Delivery}
    {outcome : Except FileError (Option (List UInt8 × Reader))}
    (htakes : TakesLine bytes later outcome) (hfailure : failure? deliveries = failure? later) :
    TakesLine bytes deliveries outcome := by
  match outcome, htakes with
  | .error _, ⟨herror, hbytes⟩ => exact ⟨hfailure.trans herror, hbytes⟩
  | .ok none, ⟨hquiet, hbytes⟩ => exact ⟨hfailure.trans hquiet, hbytes⟩
  | .ok (some _), htakes =>
      exact ⟨htakes.lines, htakes.failure.trans hfailure.symm,
        htakes.closed.imp_right hfailure.trans, htakes.endsOnce⟩

/-! ## One line -/

theorem cut_spec (start buffer : List UInt8) :
    match cut start buffer with
    | .ok (line, rest) => ∃ before, lineFeed ∉ before ∧ buffer = before ++ lineFeed :: rest ∧
        line = start.reverse ++ before ++ [lineFeed]
    | .error extended => lineFeed ∉ buffer ∧ extended.reverse = start.reverse ++ buffer := by
  induction buffer generalizing start with
  | nil => simp [cut]
  | cons byte buffer ih =>
      by_cases hbyte : byte = lineFeed
      · subst hbyte
        rw [cut, if_pos rfl]
        exact ⟨[], List.not_mem_nil, rfl, by simp⟩
      · have hbuffer := ih (byte :: start)
        rw [cut, if_neg hbyte]
        split at hbuffer
        · next line rest _ =>
            obtain ⟨before, hbefore, rfl, rfl⟩ := hbuffer
            refine ⟨byte :: before, ?_, rfl, by simp⟩
            exact List.not_mem_cons_of_ne_of_not_mem (Ne.symm hbyte) hbefore
        · next extended _ =>
            obtain ⟨hrest, hextended⟩ := hbuffer
            refine ⟨List.not_mem_cons_of_ne_of_not_mem (Ne.symm hbyte) hrest, ?_⟩
            rw [hextended]
            simp

/-- At the end of a source, what a line has so far is the last line. -/
theorem takesLine_lastLine {start : List UInt8} (hstart : lineFeed ∉ start.reverse)
    {deliveries later : List Delivery} (hfailure : failure? deliveries = none)
    (hended : ∀ delivery ∈ later, delivery = .bytes []) :
    TakesLine start.reverse deliveries (.ok (lastLine start later)) := by
  obtain ⟨hnone, hquiet, hends⟩ := exhausted_of_ended hended
  cases start with
  | nil => exact ⟨hfailure, List.reverse_nil⟩
  | cons byte start =>
      have hline : (byte :: start).reverse ≠ [] := by simp
      refine ⟨?_, hquiet.trans hfailure.symm, .inr hfailure, hends⟩
      rw [linesOf_of_not_mem hline hstart]
      simp [bytes, hnone, linesOf]

theorem takesLine_lineFrom {start : List UInt8} (hstart : lineFeed ∉ start.reverse)
    {deliveries : List Delivery} (hends : EndsOnce deliveries) :
    TakesLine (start.reverse ++ handedOut deliveries) deliveries (lineFrom start deliveries) := by
  induction deliveries generalizing start with
  | nil =>
      rw [lineFrom, handedOut, List.append_nil]
      · exact takesLine_lastLine hstart rfl nofun
      · nofun
  | cons delivery later ih =>
      match delivery, hends with
      | .failure error, _ =>
          rw [lineFrom, handedOut, List.append_nil]
          · exact ⟨rfl, hstart⟩
          · nofun
      | .bytes [], hended =>
          rw [lineFrom, handedOut, List.append_nil]
          · exact takesLine_lastLine hstart rfl hended
          · nofun
      | .bytes (byte :: piece), hends =>
          have hcut := cut_spec start (byte :: piece)
          rw [lineFrom, handedOut, ← List.append_assoc]
          cases hfound : cut start (byte :: piece) with
          | ok taken =>
              -- the line feed is in this piece
              rw [hfound] at hcut
              obtain ⟨before, hbefore, hpiece, hline⟩ := hcut
              refine ⟨?_, rfl, .inl (hline ▸ isClosed_append_lineFeed _), hends⟩
              have hall : start.reverse ++ (byte :: piece) ++ handedOut later =
                  (start.reverse ++ before) ++ lineFeed :: (taken.2 ++ handedOut later) := by
                rw [hpiece]
                simp
              have hnone : lineFeed ∉ start.reverse ++ before := by
                rw [List.mem_append]
                exact not_or_intro hstart hbefore
              rw [hall, linesOf_append_lineFeed hnone, hline]
              rfl
          | error extended =>
              -- the whole piece belongs to the line, which goes on
              rw [hfound] at hcut
              obtain ⟨hpiece, hextended⟩ := hcut
              have hnone : lineFeed ∉ extended.reverse := by
                rw [hextended, List.mem_append]
                exact not_or_intro hstart hpiece
              rw [← hextended]
              exact (ih hnone hends).of_failure rfl

/-- A reader takes the line that comes first in what it has to read, wherever the pieces
are cut. -/
theorem takesLine_nextLine (reader : Reader) (hends : EndsOnce reader.deliveries) :
    TakesLine reader.bytes reader.deliveries reader.nextLine := by
  have hcut := cut_spec [] reader.buffer
  rw [nextLine, bytes]
  cases hfound : cut [] reader.buffer with
  | ok taken =>
      rw [hfound] at hcut
      obtain ⟨before, hbefore, hbuffer, hline⟩ := hcut
      refine ⟨?_, rfl, .inl (hline ▸ isClosed_append_lineFeed _), hends⟩
      rw [hbuffer, List.append_assoc, List.cons_append, linesOf_append_lineFeed hbefore, hline]
      rfl
  | error start =>
      rw [hfound] at hcut
      obtain ⟨hbuffer, hstart⟩ := hcut
      rw [List.reverse_nil, List.nil_append] at hstart
      rw [← hstart]
      exact takesLine_lineFrom (hstart ▸ hbuffer) hends

end Reader

/-! ## Sources that hand out pieces -/

/-- A source that hands out pieces, and goes on with something else. -/
theorem handedOut_pieces {pieces : List (List UInt8)} (hpieces : ∀ piece ∈ pieces, piece ≠ [])
    (rest : List Delivery) :
    handedOut (pieces.map .bytes ++ rest) = pieces.flatten ++ handedOut rest ∧
      failure? (pieces.map .bytes ++ rest) = failure? rest ∧
      (EndsOnce (pieces.map .bytes ++ rest) ↔ EndsOnce rest) := by
  induction pieces with
  | nil => exact ⟨rfl, rfl, Iff.rfl⟩
  | cons piece pieces ih =>
      obtain ⟨hbytes, hfailure, hends⟩ := ih fun other hother =>
        hpieces other (List.mem_cons_of_mem _ hother)
      match piece, hpieces piece List.mem_cons_self with
      | byte :: piece, _ =>
          refine ⟨?_, hfailure, hends⟩
          rw [List.flatten_cons, List.append_assoc, ← hbytes]
          rfl

theorem mul_lt_of_lt_pieces {size index total : Nat}
    (hindex : index < (total + size - 1) / size) : 0 < size ∧ index * size < total := by
  have hsize : 0 < size := by
    refine Nat.pos_of_ne_zero fun hzero => ?_
    rw [hzero, Nat.div_zero] at hindex
    exact absurd hindex (Nat.not_lt_zero _)
  have hle := Nat.mul_le_of_le_div size (index + 1) _ hindex
  rw [Nat.succ_mul] at hle
  omega

theorem ne_nil_of_mem_piecesOf {size : Nat} {bytes piece : List UInt8}
    (hpiece : piece ∈ piecesOf size bytes) : piece ≠ [] := by
  obtain ⟨index, hindex, rfl⟩ := List.mem_map.mp hpiece
  obtain ⟨hsize, hbound⟩ := mul_lt_of_lt_pieces (List.mem_range.mp hindex)
  rw [← List.length_pos_iff, Array.length_toList, Array.size_extract, Nat.succ_mul]
  omega

theorem flatten_pieces (size count : Nat) (bytes : List UInt8) :
    ((List.range count).map fun index =>
      (bytes.toArray.extract (index * size) ((index + 1) * size)).toList).flatten =
        bytes.take (count * size) := by
  induction count with
  | zero => simp
  | succ count ih =>
      have hnext : (count + 1) * size - count * size = size := by
        rw [Nat.succ_mul, Nat.add_sub_cancel_left]
      rw [List.range_succ, List.map_append, List.flatten_append, ih, Nat.succ_mul, List.take_add]
      simp [hnext]

theorem flatten_piecesOf {size : Nat} (hsize : 0 < size) (bytes : List UInt8) :
    (piecesOf size bytes).flatten = bytes := by
  have hlast := Nat.lt_div_mul_add hsize (a := bytes.length + size - 1)
  have hall : bytes.length ≤ (bytes.length + size - 1) / size * size := by omega
  rw [piecesOf, flatten_pieces]
  exact List.take_of_length_le hall

/-- A source of bytes ends once, and fails never. -/
theorem Reader.ofBytes_spec {chunk : Nat} (hchunk : 0 < chunk) (bytes : List UInt8) :
    (Reader.ofBytes chunk bytes).bytes = bytes ∧
      failure? (Reader.ofBytes chunk bytes).deliveries = none ∧
      EndsOnce (Reader.ofBytes chunk bytes).deliveries := by
  have hsize : 0 < min chunk bufferSize := Nat.lt_min.mpr ⟨hchunk, by decide⟩
  have hpieces : ∀ piece ∈ piecesOf (min chunk bufferSize) bytes, piece ≠ [] :=
    fun _ => ne_nil_of_mem_piecesOf
  have hnothing : handedOut [] = [] := rfl
  obtain ⟨hbytes, hfailure, hends⟩ := handedOut_pieces hpieces []
  rw [List.append_nil, flatten_piecesOf hsize, hnothing, List.append_nil] at hbytes
  rw [List.append_nil] at hfailure hends
  exact ⟨hbytes, hfailure, hends.mpr trivial⟩

/-! ## The comments -/

/-- The first lines, as far as a limit and as the line that ends the comments. -/
def window (limit : Nat) (lines : List (List UInt8)) : List (List Char) :=
  ((lines.take limit).map Reader.lineText).takeWhile fun line => !Header.isStop line

/-- Whether it takes no more bytes to tell where the window ends. -/
def isSettled (limit : Nat) (lines : List (List UInt8)) : Bool :=
  let closed := lines.filter isClosed
  limit ≤ closed.length || (closed.take limit).any fun line => Header.isStop (Reader.lineText line)

/-- A value read from a source, which may fail before the value is settled. -/
def obtained {α : Type} (failure : Option FileError) (settled : Bool) (value : α) :
    Except FileError α :=
  match failure, settled with
  | some error, false => .error error
  | _, _ => .ok value

@[simp]
theorem isSettled_zero (lines : List (List UInt8)) : isSettled 0 lines = true := by
  simp [isSettled]

@[simp]
theorem window_zero (lines : List (List UInt8)) : window 0 lines = [] := rfl

@[simp]
theorem obtained_true {α : Type} (failure : Option FileError) (value : α) :
    obtained failure true value = .ok value := by
  cases failure <;> rfl

theorem map_obtained {α β : Type} (f : α → β) (failure : Option FileError) (settled : Bool)
    (value : α) :
    (obtained failure settled value).map f = obtained failure settled (f value) := by
  cases failure <;> cases settled <;> rfl

theorem window_cons (limit : Nat) (line : List UInt8) (lines : List (List UInt8)) :
    window (limit + 1) (line :: lines) =
      if Header.isStop (Reader.lineText line) then []
      else Reader.lineText line :: window limit lines := by
  cases hstop : Header.isStop (Reader.lineText line) <;> simp [window, hstop]

theorem isSettled_cons {line : List UInt8} (hclosed : isClosed line = true) (limit : Nat)
    (lines : List (List UInt8)) :
    isSettled (limit + 1) (line :: lines) =
      (Header.isStop (Reader.lineText line) || isSettled limit lines) := by
  simp only [isSettled, List.filter_cons_of_pos hclosed, List.length_cons,
    Nat.add_le_add_iff_right, List.take_succ_cons, List.any_cons, Bool.or_left_comm]

/-- A line that may be open leaves nothing to be settled: the source does not fail. -/
theorem obtained_isSettled_cons {α : Type} {failure : Option FileError} {line : List UInt8}
    (hclosed : isClosed line = true ∨ failure = none) (limit : Nat)
    (lines : List (List UInt8)) (value : α) :
    obtained failure (isSettled (limit + 1) (line :: lines)) value =
      obtained failure (Header.isStop (Reader.lineText line) || isSettled limit lines) value := by
  rcases hclosed with hclosed | rfl
  · rw [isSettled_cons hclosed]
  · rfl

namespace Reader

theorem commentLines_of_nextLine {reader next : Reader} {line : List UInt8} (count : Nat)
    (hline : reader.nextLine = .ok (some (line, next))) :
    commentLines (count + 1) reader =
      if Header.isStop (lineText line) then .ok []
      else (commentLines count next).map (lineText line :: ·) := by
  rw [commentLines, hline]
  rfl

/-- The lines of the comments are the first lines of what there is to read, before the one
that ends them. -/
theorem commentLines_eq (count : Nat) (reader : Reader) (hends : EndsOnce reader.deliveries) :
    commentLines count reader =
      obtained (failure? reader.deliveries) (isSettled count (linesOf reader.bytes))
        (window count (linesOf reader.bytes)) := by
  induction count generalizing reader with
  | zero => simp [commentLines]
  | succ count ih =>
      have hline := takesLine_nextLine reader hends
      cases htaken : reader.nextLine with
      | error error =>
          rw [htaken] at hline
          obtain ⟨hfailure, hbytes⟩ := hline
          -- what is left has no line feed, so there is no closed line to settle anything
          rw [commentLines, htaken, hfailure, isSettled, filter_isClosed_of_not_mem hbytes]
          rfl
      | ok taken =>
          rw [htaken] at hline
          cases taken with
          | none =>
              obtain ⟨hquiet, hnone⟩ := hline
              rw [commentLines, htaken, hquiet, hnone]
              rfl
          | some taken =>
              obtain ⟨line, next⟩ := taken
              have htakes : Takes reader.bytes reader.deliveries line next := hline
              rw [commentLines_of_nextLine count htaken, ih next htakes.endsOnce,
                htakes.failure, htakes.lines, window_cons, obtained_isSettled_cons htakes.closed]
              cases Header.isStop (lineText line) with
              | true => simp
              | false => exact map_obtained _ _ _ _

end Reader

end EpsBridge.Eps
