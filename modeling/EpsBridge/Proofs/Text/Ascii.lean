import EpsBridge.Proofs.Text.Utf8

/-!
# ASCII text in bytes

An ASCII character is written with one byte, and this byte is read as the character
wherever it stands.  So ASCII text is read back in front of any bytes (`decode_encode_append`),
and conversely what is read begins with an ASCII text only if the bytes begin with its bytes
(`begins_decode_iff`): whatever other bytes are read as, it is something else.
-/

namespace EpsBridge.Utf8

/-- Whether a text has ASCII characters only. -/
def IsAscii (text : List Char) : Prop := ∀ c ∈ text, c.toNat < 0x80

instance (text : List Char) : Decidable (IsAscii text) :=
  List.decidableBAll (fun (c : Char) => c.toNat < 0x80) text

/-- The byte of an ASCII character. -/
def asciiByte (c : Char) : UInt8 := UInt8.ofNat c.toNat

theorem toNat_asciiByte {c : Char} (hc : c.toNat < 0x80) : (asciiByte c).toNat = c.toNat :=
  UInt8.toNat_ofNat_of_lt' (Nat.lt_trans hc (by decide))

theorem ofNat_asciiByte {c : Char} (hc : c.toNat < 0x80) :
    Char.ofNat (asciiByte c).toNat = c := by
  rw [toNat_asciiByte hc, Char.ofNat_toNat]

theorem asciiByte_ofNat {byte : UInt8} (hbyte : byte.toNat < 0x80) :
    asciiByte (Char.ofNat byte.toNat) = byte := by
  have hvalid : byte.toNat.isValidChar := .inl (Nat.lt_trans hbyte (by decide))
  have hvalue : (Char.ofNat byte.toNat).toNat = byte.toNat := by
    rw [Char.ofNat, dif_pos hvalid]
    rfl
  rw [asciiByte, hvalue, UInt8.ofNat_toNat]

theorem asciiByte_ne_zero {c : Char} (hc : c.toNat < 0x80) (hzero : c ≠ '\x00') :
    asciiByte c ≠ 0 := by
  intro hnull
  apply hzero
  rw [← ofNat_asciiByte hc, hnull]
  rfl

theorem utf8EncodeChar_of_ascii {c : Char} (hc : c.toNat < 0x80) :
    String.utf8EncodeChar c = [asciiByte c] := by
  have hle : c.val.toNat ≤ 0x7F := Nat.le_of_lt_succ hc
  simp only [String.utf8EncodeChar, hle, if_true]
  rfl

theorem encode_eq_map {text : String} (hascii : IsAscii text.toList) :
    encode text = text.toList.map asciiByte := by
  rw [encode_eq_flatMap]
  generalize text.toList = characters at hascii
  induction characters with
  | nil => rfl
  | cons c rest ih =>
      rw [List.flatMap_cons, utf8EncodeChar_of_ascii (hascii c List.mem_cons_self),
        ih fun other hother => hascii other (List.mem_cons_of_mem _ hother)]
      rfl

theorem toList_decode_cons {byte : UInt8} (hbyte : byte.toNat < 0x80) (rest : List UInt8) :
    (decode (byte :: rest)).toList = Char.ofNat byte.toNat :: (decode rest).toList := by
  have hread := decode_append_ascii [] hbyte rest
  rw [List.nil_append] at hread
  rw [hread, String.toList_append, String.toList_push]
  rfl

theorem decode_map_append {text : List Char} (hascii : IsAscii text) (rest : List UInt8) :
    decode (text.map asciiByte ++ rest) = String.ofList text ++ decode rest := by
  induction text with
  | nil => simp
  | cons c text ih =>
      have hc : c.toNat < 0x80 := hascii c List.mem_cons_self
      have htext := ih fun other hother => hascii other (List.mem_cons_of_mem _ hother)
      have hbyte : (asciiByte c).toNat < 0x80 := (toNat_asciiByte hc).symm ▸ hc
      apply String.toList_inj.mp
      rw [List.map_cons, List.cons_append, toList_decode_cons hbyte, htext, ofNat_asciiByte hc]
      simp

/-- ASCII text is read back, in front of any bytes. -/
theorem decode_encode_append {text : String} (hascii : IsAscii text.toList)
    (rest : List UInt8) : decode (encode text ++ rest) = text ++ decode rest := by
  rw [encode_eq_map hascii, decode_map_append hascii, String.ofList_toList]

theorem decode_encode {text : String} (hascii : IsAscii text.toList) :
    decode (encode text) = text := by
  have happend := decode_encode_append hascii []
  rwa [List.append_nil, show decode [] = "" from rfl, String.append_empty] at happend

/-! ## Beginnings -/

/-- Every byte leaves something behind, in the text or open. -/
theorem Decoder.finish_step_ne (decoder : Decoder) (byte : UInt8) :
    (decoder.step byte).finish ≠ "" := by
  have hpush : ∀ (text : String) (c : Char), text.push c ≠ "" := by
    intro text c hempty
    have hlist := congrArg String.toList hempty
    simp at hlist
  have hlead : ∀ text, (lead text byte).finish ≠ "" := by
    intro text
    rcases lead_cases byte with hlead | hlead | ⟨pending, -, hlead⟩ <;> rw [hlead]
    · exact hpush _ _
    · exact hpush _ _
    · exact hpush _ _
  unfold step
  split
  · exact hlead _
  · split
    · dsimp only
      split
      · exact hpush _ _
      · exact hpush _ _
    · exact hlead _

theorem decode_ne_empty {bytes : List UInt8} (hne : bytes ≠ []) : decode bytes ≠ "" := by
  rw [← List.dropLast_concat_getLast hne, decode, List.foldl_append]
  exact Decoder.finish_step_ne _ _

/-- Bytes of the upper half, as far as they go, are read by themselves. -/
theorem exists_upper (bytes : List UInt8) :
    ∃ run rest, bytes = run ++ rest ∧ (∀ byte ∈ run, 0x80 ≤ byte.toNat) ∧
      (decode run).toList <+: (decode bytes).toList ∧ ∀ byte ∈ rest.head?, byte.toNat < 0x80 := by
  let isUpper (byte : UInt8) : Bool := 0x80 ≤ byte.toNat
  have hbytes : bytes.takeWhile isUpper ++ bytes.dropWhile isUpper = bytes :=
    List.takeWhile_append_dropWhile
  have hrest : ∀ byte ∈ (bytes.dropWhile isUpper).head?, byte.toNat < 0x80 := by
    intro byte hbyte
    have hnot := List.head?_dropWhile_not isUpper bytes
    rw [Option.mem_def.mp hbyte] at hnot
    simpa [isUpper] using hnot
  refine ⟨_, _, hbytes.symm, ?_, ?_, hrest⟩
  · intro byte hbyte
    have hall : (bytes.takeWhile isUpper).all isUpper = true := List.all_takeWhile
    simpa [isUpper] using List.all_eq_true.mp hall byte hbyte
  · generalize bytes.takeWhile isUpper = run at hbytes
    generalize bytes.dropWhile isUpper = rest at hbytes hrest
    rw [← hbytes]
    cases rest with
    | nil =>
        exact ⟨[], by rw [List.append_nil, List.append_nil]⟩
    | cons byte more =>
        rw [decode_append_ascii run (hrest byte rfl) more, String.toList_append,
          String.toList_push, List.append_assoc]
        exact List.prefix_append _ _

/-- What begins with a byte of the upper half is read as a text that begins with no ASCII
character. -/
theorem head?_decode_ne {byte sought : UInt8} (hupper : 0x80 ≤ byte.toNat) (hzero : sought ≠ 0)
    (hascii : sought.toNat < 0x80) (rest : List UInt8) :
    (decode (byte :: rest)).toList.head? ≠ some (Char.ofNat sought.toNat) := by
  obtain ⟨run, remaining, hbytes, hrun, hbegins, hremaining⟩ := exists_upper (byte :: rest)
  have hne : run ≠ [] := by
    rintro rfl
    -- otherwise the byte itself would be the first of the rest
    rw [List.nil_append] at hbytes
    have hsmall := hremaining byte (by rw [← hbytes]; rfl)
    omega
  have hlacks : Char.ofNat sought.toNat ∉ (decode run).toList := by
    apply not_mem_decode hzero hascii
    intro hsought
    have hlarge := hrun sought hsought
    omega
  have hnonempty : (decode run).toList ≠ [] := by simpa using decode_ne_empty hne
  obtain ⟨c, others, htext⟩ := List.exists_cons_of_ne_nil hnonempty
  obtain ⟨more, hmore⟩ := hbegins
  intro hhead
  rw [← hmore, htext, List.cons_append, List.head?_cons, Option.some.injEq] at hhead
  rw [htext, hhead] at hlacks
  exact hlacks List.mem_cons_self

/-- What is read begins with an ASCII text exactly if the bytes begin with its bytes. -/
theorem begins_decode_iff {key : List Char} (hascii : IsAscii key) (hzero : '\x00' ∉ key)
    (bytes : List UInt8) : key <+: (decode bytes).toList ↔ key.map asciiByte <+: bytes := by
  constructor
  · intro hbegins
    induction key generalizing bytes with
    | nil => exact List.nil_prefix
    | cons c key ih =>
        have hc : c.toNat < 0x80 := hascii c List.mem_cons_self
        cases bytes with
        | nil => exact absurd (List.prefix_nil.mp hbegins) (List.cons_ne_nil c key)
        | cons byte rest =>
            by_cases hbyte : byte.toNat < 0x80
            · rw [toList_decode_cons hbyte, List.cons_prefix_cons] at hbegins
              obtain ⟨rfl, hrest⟩ := hbegins
              rw [List.map_cons, asciiByte_ofNat hbyte, List.cons_prefix_cons]
              exact ⟨rfl, ih (fun other hother => hascii other (List.mem_cons_of_mem _ hother))
                (List.not_mem_of_not_mem_cons hzero) rest hrest⟩
            · -- such a byte is not read as an ASCII character
              exfalso
              have hsought : asciiByte c ≠ 0 :=
                asciiByte_ne_zero hc (List.ne_of_not_mem_cons hzero).symm
              apply head?_decode_ne (Nat.le_of_not_lt hbyte) hsought
                ((toNat_asciiByte hc).symm ▸ hc) rest
              rw [ofNat_asciiByte hc]
              exact List.head?_eq_some_iff.mpr ⟨_, (List.prefix_iff_eq_append.mp hbegins).symm⟩
  · rintro ⟨rest, rfl⟩
    rw [decode_map_append hascii, String.toList_append, String.toList_ofList]
    exact List.prefix_append _ _

end EpsBridge.Utf8
