import EpsBridge.Proofs.Text.Utf8
import EpsBridge.Text.Blank

/-!
# Lines of bytes

Diagnostics are read line by line after decoding.  As line feeds come from line feeds
only, the lines are the same if the bytes are cut first and each line is decoded by
itself (`lines_decode`).

Bytes that were cut at an arbitrary place have the lines in front of that place, a line
that the cut goes through, and the lines behind it (`exists_splitOn_append`).  Where both
cuts are at line feeds, what is between them is a line (`mem_splitOn_of_part`).
-/

namespace EpsBridge.Utf8

theorem pieces_eq_splitOnP (stop : Char → Bool) (text : List Char) :
    Text.pieces stop text = text.splitOnP stop := by
  induction text with
  | nil => rw [List.splitOnP_nil, Text.pieces, List.foldr_nil]
  | cons c rest ih =>
      have hstep : Text.pieces stop (c :: rest) =
          if stop c then [] :: Text.pieces stop rest
          else Text.extendFirst c (Text.pieces stop rest) := rfl
      obtain ⟨first, others, hfirst⟩ := List.exists_cons_of_ne_nil (List.splitOnP_ne_nil stop rest)
      rw [hstep, ih, List.splitOnP_cons_eq_if_modifyHead, hfirst]
      rfl

theorem lines_eq_splitOn (text : List Char) : Text.lines text = text.splitOn '\n' := by
  rw [Text.lines, pieces_eq_splitOnP, List.splitOn_eq_splitOnP]
  congr

/-- The lines of decoded bytes are the decoded lines. -/
theorem lines_decode (bytes : List UInt8) :
    Text.lines (decode bytes).toList =
      (bytes.splitOn lineFeed).map fun line => (decode line).toList := by
  by_cases hmem : lineFeed ∈ bytes
  · obtain ⟨before, after, rfl, hbefore⟩ := List.eq_append_cons_of_mem hmem
    -- what follows the first line feed is shorter
    have hshorter : after.length < (before ++ lineFeed :: after).length := by
      rw [List.length_append, List.length_cons]
      omega
    have hlines := lines_decode after
    rw [lines_eq_splitOn] at hlines
    rw [lines_eq_splitOn, decode_append_lineFeed, String.toList_append, String.toList_push,
      List.append_assoc, List.singleton_append,
      List.splitOn_append_cons_self_of_not_mem (lineFeed_not_mem_decode hbefore), hlines,
      List.splitOn_append_cons_self_of_not_mem hbefore, List.map_cons]
  · rw [lines_eq_splitOn, List.splitOn_eq_singleton (lineFeed_not_mem_decode hmem),
      List.splitOn_eq_singleton hmem, List.map_singleton]
termination_by bytes.length

/-- A cut goes through one line, and splits no other. -/
theorem exists_splitOn_append (kept rest : List UInt8) :
    ∃ complete tail more later,
      kept.splitOn lineFeed = complete ++ [tail] ∧
        rest.splitOn lineFeed = more :: later ∧
        (kept ++ rest).splitOn lineFeed = complete ++ (tail ++ more) :: later := by
  induction kept with
  | nil =>
      obtain ⟨more, later, hrest⟩ :=
        List.exists_cons_of_ne_nil (List.splitOn_ne_nil lineFeed rest)
      exact ⟨[], [], more, later, List.splitOn_nil lineFeed, hrest, hrest⟩
  | cons byte kept ih =>
      obtain ⟨complete, tail, more, later, hkept, hrest, hall⟩ := ih
      rw [List.cons_append, List.splitOn_cons_eq_if_modifyHead,
        List.splitOn_cons_eq_if_modifyHead, hkept, hall]
      by_cases hbyte : byte = lineFeed
      · rw [if_pos (beq_iff_eq.mpr hbyte), if_pos (beq_iff_eq.mpr hbyte)]
        exact ⟨[] :: complete, tail, more, later, rfl, hrest, rfl⟩
      · rw [if_neg (by simpa using hbyte), if_neg (by simpa using hbyte)]
        -- the byte belongs to the first line, which may be the one that is cut
        cases complete with
        | nil => exact ⟨[], byte :: tail, more, later, rfl, hrest, rfl⟩
        | cons first others =>
            exact ⟨(byte :: first) :: others, tail, more, later, rfl, hrest, rfl⟩

/-! ## Parts of a text -/

/-- A part of a text that reaches from the beginning of a line to an end of a line, and has
no line feed in it, is one of the lines. -/
theorem mem_splitOn_of_part {text before part after : List Char}
    (htext : text = before ++ part ++ after)
    (hbefore : before = [] ∨ before.getLast? = some '\n')
    (hafter : after = [] ∨ after.head? = some '\n') (hpart : '\n' ∉ part) :
    part ∈ text.splitOn '\n' := by
  have hrest : part ∈ (part ++ after).splitOn '\n' := by
    rcases hafter with rfl | hafter
    · rw [List.append_nil, List.splitOn_eq_singleton hpart]
      exact List.mem_singleton_self part
    · obtain ⟨later, rfl⟩ := List.head?_eq_some_iff.mp hafter
      rw [List.splitOn_append_cons_self_of_not_mem hpart]
      exact List.mem_cons_self
  rw [htext, List.append_assoc]
  rcases hbefore with rfl | hbefore
  · exact hrest
  · obtain ⟨earlier, rfl⟩ := List.getLast?_eq_some_iff.mp hbefore
    rw [List.append_assoc, List.singleton_append, List.splitOn_append_cons_self]
    exact List.mem_append_right _ hrest

end EpsBridge.Utf8
