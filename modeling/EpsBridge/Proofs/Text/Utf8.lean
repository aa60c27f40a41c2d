import EpsBridge.Proofs.Text.Bytes

/-!
# What decoding keeps

Decoding works from left to right.  An ASCII byte continues no sequence, so it closes
the open one, and what follows it is decoded as if nothing had been in front
(`decode_append_ascii`).  No ASCII character is read off bytes other than its own
(`not_mem_decode`).  So a text has the lines that its bytes have, and the name of a file
has no slash, whatever its bytes are.

Both rest on an invariant of the open sequence (`Pending.IsSound`): what continues it
is no ASCII byte, and the character that ends it is no ASCII character.  Encoding is
simpler (`not_mem_encode`).
-/

namespace EpsBridge.Utf8

/-- The byte that ends a line. -/
def lineFeed : UInt8 := 0x0A

theorem decodeArray_eq_decode (bytes : ByteArray) :
    decodeArray bytes = decode bytes.toList := by
  rw [decodeArray, foldl_eq_foldl_toList, decode]

/-- A text that was read off bytes has these bytes. -/
theorem encode_of_decodeExactly? {bytes : List UInt8} {text : String}
    (hdecode : decodeExactly? bytes = some text) : encode text = bytes := by
  unfold decodeExactly? String.fromUTF8? at hdecode
  split at hdecode
  · obtain rfl := Option.some.inj hdecode
    exact toList_toByteArray bytes
  · cases hdecode

/-- What is UTF-8 throughout are the bytes of the texts. -/
theorem decodeExactly?_eq_some_iff {bytes : List UInt8} {text : String} :
    decodeExactly? bytes = some text ↔ encode text = bytes := by
  refine ⟨encode_of_decodeExactly?, ?_⟩
  rintro rfl
  have hbytes : (encode text).toByteArray = text.toByteArray :=
    toList_inj.mp (toList_toByteArray _)
  rw [decodeExactly?, String.fromUTF8?, dif_pos (hbytes ▸ text.isValidUTF8)]
  exact congrArg some (String.toByteArray_inj.mp hbytes)

/-! ## Open sequences -/

/-- An open sequence that is continued by bytes of the upper half only, and ends in a
character beyond ASCII. -/
structure Pending.IsSound (pending : Pending) : Prop where
  low : 0x80 ≤ pending.low.toNat
  high : pending.high.toNat ≤ 0xBF
  first : pending.code = 0 → 0x90 ≤ pending.low.toNat
  last : pending.remaining ≤ 1 → 2 ≤ pending.code

theorem Pending.isSound_mk {remaining code : Nat} {low high : UInt8} (hlow : 0x80 ≤ low.toNat)
    (hhigh : high.toNat ≤ 0xBF) (hfirst : code = 0 → 0x90 ≤ low.toNat)
    (hlast : remaining ≤ 1 → 2 ≤ code) : (Pending.mk remaining low high code).IsSound :=
  ⟨hlow, hhigh, hfirst, hlast⟩

/-- A byte that continues a sequence adds bits to it. -/
theorem Pending.IsSound.two_le_code {pending : Pending} (hsound : pending.IsSound) {byte : UInt8}
    (hlow : pending.low ≤ byte) (hhigh : byte ≤ pending.high) :
    2 ≤ pending.code * 0x40 + byte.toNat % 0x40 := by
  have hhigh := Nat.le_trans (UInt8.le_iff_toNat_le.mp hhigh) hsound.high
  have hlow := UInt8.le_iff_toNat_le.mp hlow
  have hfirst := hsound.first
  omega

namespace Decoder

/-- Whether the open sequence, if there is one, is sound. -/
def IsSound (decoder : Decoder) : Prop :=
  ∀ pending, decoder.pending = some pending → pending.IsSound

theorem isSound_of_none {decoder : Decoder} (hnone : decoder.pending = none) :
    decoder.IsSound := by
  intro pending hpending
  rw [hnone] at hpending
  cases hpending

/-- A byte outside any open sequence is an ASCII character, or becomes a replacement, or
opens a sound sequence. -/
theorem lead_cases (byte : UInt8) :
    (∀ text, lead text byte = ⟨text.push (Char.ofNat byte.toNat), none⟩) ∨
      (∀ text, lead text byte = ⟨text.push replacement, none⟩) ∨
      ∃ pending : Pending, pending.IsSound ∧ ∀ text, lead text byte = ⟨text, some pending⟩ := by
  by_cases hascii : byte.toNat < 0x80
  · exact .inl fun text => by simp only [lead, if_pos hascii]
  by_cases hstray : byte.toNat < 0xC2
  · exact .inr (.inl fun text => by simp only [lead, if_neg hascii, if_pos hstray])
  by_cases htwo : byte.toNat < 0xE0
  · refine .inr (.inr ⟨⟨1, 0x80, 0xBF, byte.toNat % 0x20⟩, ?_, fun text => ?_⟩)
    · exact Pending.isSound_mk (by decide) (by decide) (by omega) (by omega)
    · simp only [lead, if_neg hascii, if_neg hstray, if_pos htwo]
  -- three bytes, where the first of the others is bounded for two of the leads
  by_cases hlow : byte.toNat = 0xE0
  · refine .inr (.inr ⟨⟨2, 0xA0, 0xBF, 0⟩, ?_, fun text => ?_⟩)
    · exact Pending.isSound_mk (by decide) (by decide) (by decide) (by decide)
    · simp only [lead, if_neg hascii, if_neg hstray, if_neg htwo, if_pos hlow]
  by_cases hsurrogate : byte.toNat = 0xED
  · refine .inr (.inr ⟨⟨2, 0x80, 0x9F, 0xD⟩, ?_, fun text => ?_⟩)
    · exact Pending.isSound_mk (by decide) (by decide) (by decide) (by decide)
    · simp only [lead, if_neg hascii, if_neg hstray, if_neg htwo, if_neg hlow,
        if_pos hsurrogate]
  by_cases hthree : byte.toNat < 0xF0
  · refine .inr (.inr ⟨⟨2, 0x80, 0xBF, byte.toNat % 0x10⟩, ?_, fun text => ?_⟩)
    · exact Pending.isSound_mk (by decide) (by decide) (by omega) (by omega)
    · simp only [lead, if_neg hascii, if_neg hstray, if_neg htwo, if_neg hlow,
        if_neg hsurrogate, if_pos hthree]
  -- four bytes, likewise
  by_cases hfirst : byte.toNat = 0xF0
  · refine .inr (.inr ⟨⟨3, 0x90, 0xBF, 0⟩, ?_, fun text => ?_⟩)
    · exact Pending.isSound_mk (by decide) (by decide) (by decide) (by decide)
    · simp only [lead, if_neg hascii, if_neg hstray, if_neg htwo, if_neg hlow,
        if_neg hsurrogate, if_neg hthree, if_pos hfirst]
  by_cases hfour : byte.toNat < 0xF4
  · refine .inr (.inr ⟨⟨3, 0x80, 0xBF, byte.toNat % 0x08⟩, ?_, fun text => ?_⟩)
    · exact Pending.isSound_mk (by decide) (by decide) (by omega) (by omega)
    · simp only [lead, if_neg hascii, if_neg hstray, if_neg htwo, if_neg hlow,
        if_neg hsurrogate, if_neg hthree, if_neg hfirst, if_pos hfour]
  by_cases hlast : byte.toNat = 0xF4
  · refine .inr (.inr ⟨⟨3, 0x80, 0x8F, 4⟩, ?_, fun text => ?_⟩)
    · exact Pending.isSound_mk (by decide) (by decide) (by decide) (by decide)
    · simp only [lead, if_neg hascii, if_neg hstray, if_neg htwo, if_neg hlow,
        if_neg hsurrogate, if_neg hthree, if_neg hfirst, if_neg hfour, if_pos hlast]
  · exact .inr (.inl fun text => by
      simp only [lead, if_neg hascii, if_neg hstray, if_neg htwo, if_neg hlow,
        if_neg hsurrogate, if_neg hthree, if_neg hfirst, if_neg hfour, if_neg hlast])

theorem isSound_lead (text : String) (byte : UInt8) : (lead text byte).IsSound := by
  rcases lead_cases byte with hlead | hlead | ⟨pending, hsound, hlead⟩
  · rw [hlead]
    exact isSound_of_none rfl
  · rw [hlead]
    exact isSound_of_none rfl
  · rw [hlead]
    rintro _ ⟨⟩
    exact hsound

theorem isSound_step {decoder : Decoder} (hsound : decoder.IsSound) (byte : UInt8) :
    (decoder.step byte).IsSound := by
  unfold step
  cases hpending : decoder.pending with
  | none => exact isSound_lead _ _
  | some pending =>
      dsimp only
      split
      · next hcontinues =>
          rw [Bool.and_eq_true, decide_eq_true_eq, decide_eq_true_eq] at hcontinues
          have hcode := (hsound pending hpending).two_le_code hcontinues.1 hcontinues.2
          split
          · exact isSound_of_none rfl
          · rintro _ ⟨⟩
            exact ⟨Nat.le_refl 0x80, Nat.le_refl 0xBF,
              fun hzero => absurd (Nat.le_trans hcode (Nat.le_of_eq hzero)) (by decide),
              fun _ => hcode⟩
      · exact isSound_lead _ _

theorem isSound_foldl {decoder : Decoder} (hsound : decoder.IsSound) (bytes : List UInt8) :
    (bytes.foldl step decoder).IsSound := by
  induction bytes generalizing decoder with
  | nil => exact hsound
  | cons byte rest ih => exact ih (isSound_step hsound byte)

/-! ## Text in front -/

/-- The decoder with some more text in front of its own. -/
def after (text : String) (decoder : Decoder) : Decoder := ⟨text ++ decoder.text, decoder.pending⟩

theorem push_after (text more : String) (c : Char) :
    (text ++ more).push c = text ++ more.push c := by
  rw [String.push_eq_append, String.push_eq_append, String.append_assoc]

theorem lead_after (text more : String) (byte : UInt8) :
    lead (text ++ more) byte = after text (lead more byte) := by
  rcases lead_cases byte with hlead | hlead | ⟨pending, -, hlead⟩
  · rw [hlead, hlead, push_after]
    rfl
  · rw [hlead, hlead, push_after]
    rfl
  · rw [hlead, hlead]
    rfl

theorem step_after (text : String) (decoder : Decoder) (byte : UInt8) :
    (after text decoder).step byte = after text (decoder.step byte) := by
  unfold step
  dsimp only [after]
  cases decoder.pending with
  | none => exact lead_after _ _ _
  | some pending =>
      dsimp only
      split
      · split
        · simp only [push_after]
        · rfl
      · rw [push_after]
        exact lead_after _ _ _

theorem foldl_after (text : String) (decoder : Decoder) (bytes : List UInt8) :
    bytes.foldl step (after text decoder) = after text (bytes.foldl step decoder) := by
  induction bytes generalizing decoder with
  | nil => rfl
  | cons byte rest ih => rw [List.foldl_cons, step_after, ih, List.foldl_cons]

theorem finish_after (text : String) (decoder : Decoder) :
    (after text decoder).finish = text ++ decoder.finish := by
  unfold finish
  dsimp only [after]
  cases decoder.pending with
  | none => rfl
  | some pending => exact push_after _ _ _

/-! ## ASCII bytes -/

/-- An ASCII byte ends whatever is open, and nothing is open after it. -/
theorem step_ascii {decoder : Decoder} (hsound : decoder.IsSound) {byte : UInt8}
    (hascii : byte.toNat < 0x80) :
    decoder.step byte = after (decoder.finish.push (Char.ofNat byte.toNat)) start := by
  have hlead : ∀ text, lead text byte = after (text.push (Char.ofNat byte.toNat)) start := by
    intro text
    simp [lead, hascii, after, start]
  unfold step finish
  cases hpending : decoder.pending with
  | none => exact hlead _
  | some pending =>
      -- the byte lies below every byte that would continue the sequence
      have hlow := (hsound pending hpending).low
      have hshort : ¬ pending.low ≤ byte := by
        intro hle
        have hle := UInt8.le_iff_toNat_le.mp hle
        omega
      simp only [hshort, decide_false, Bool.false_and, Bool.false_eq_true, if_false]
      exact hlead _

end Decoder

/-- What stands behind an ASCII byte is decoded by itself. -/
theorem decode_append_ascii (before : List UInt8) {byte : UInt8} (hascii : byte.toNat < 0x80)
    (after : List UInt8) :
    decode (before ++ byte :: after) =
      (decode before).push (Char.ofNat byte.toNat) ++ decode after := by
  rw [decode, List.foldl_append, List.foldl_cons,
    Decoder.step_ascii (Decoder.isSound_foldl (Decoder.isSound_of_none rfl) before) hascii,
    Decoder.foldl_after, Decoder.finish_after]
  rfl

theorem decode_append_lineFeed (before after : List UInt8) :
    decode (before ++ lineFeed :: after) = (decode before).push '\n' ++ decode after :=
  decode_append_ascii before (by decide) after

/-! ## ASCII characters -/

theorem toNat_eq_of_ofNat_eq {code : Nat} {byte : UInt8} (hzero : byte ≠ 0)
    (hascii : byte.toNat < 0x80) (hcode : Char.ofNat code = Char.ofNat byte.toNat) :
    code = byte.toNat := by
  have hvalue := congrArg Char.toNat hcode
  have hbyte : byte.toNat.isValidChar := .inl (Nat.lt_trans hascii (by decide))
  rw [Char.ofNat, Char.ofNat, dif_pos hbyte] at hvalue
  by_cases hvalid : code.isValidChar
  · rw [dif_pos hvalid] at hvalue
    exact hvalue
  · rw [dif_neg hvalid] at hvalue
    have hnone : byte.toNat = (0 : UInt8).toNat := hvalue.symm
    exact absurd (UInt8.toNat_inj.mp hnone) hzero

namespace Decoder

/-- Whether the character of a byte was not read. -/
def Lacks (byte : UInt8) (decoder : Decoder) : Prop :=
  Char.ofNat byte.toNat ∉ decoder.text.toList

variable {sought : UInt8}

theorem not_mem_push {text : String} {c sought : Char} (htext : sought ∉ text.toList)
    (hc : c ≠ sought) : sought ∉ (text.push c).toList := by
  rw [String.toList_push, List.mem_append, List.mem_singleton]
  rintro (hmem | hmem)
  · exact htext hmem
  · exact hc hmem.symm

theorem replacement_ne (hzero : sought ≠ 0) (hascii : sought.toNat < 0x80) :
    replacement ≠ Char.ofNat sought.toNat := by
  intro hsame
  have hcode := toNat_eq_of_ofNat_eq hzero hascii hsame
  omega

theorem lacks_lead {text : String} (hzero : sought ≠ 0) (hascii : sought.toNat < 0x80)
    (htext : Char.ofNat sought.toNat ∉ text.toList) {byte : UInt8} (hbyte : byte ≠ sought) :
    (lead text byte).Lacks sought := by
  have hother : Char.ofNat byte.toNat ≠ Char.ofNat sought.toNat := by
    intro hsame
    exact hbyte (UInt8.toNat_inj.mp (toNat_eq_of_ofNat_eq hzero hascii hsame))
  rcases lead_cases byte with hlead | hlead | ⟨pending, -, hlead⟩
  · rw [hlead]
    exact not_mem_push htext hother
  · rw [hlead]
    exact not_mem_push htext (replacement_ne hzero hascii)
  · rw [hlead]
    exact htext

theorem lacks_step {decoder : Decoder} (hzero : sought ≠ 0) (hascii : sought.toNat < 0x80)
    (hlacks : decoder.Lacks sought) (hsound : decoder.IsSound) {byte : UInt8}
    (hbyte : byte ≠ sought) : (decoder.step byte).Lacks sought := by
  unfold step
  cases hpending : decoder.pending with
  | none => exact lacks_lead hzero hascii hlacks hbyte
  | some pending =>
      dsimp only
      split
      · split
        · next hlast =>
            have hcode := (hsound pending hpending).last hlast
            apply not_mem_push hlacks
            intro hsame
            have hvalue := toNat_eq_of_ofNat_eq hzero hascii hsame
            omega
        · exact hlacks
      · exact lacks_lead hzero hascii (not_mem_push hlacks (replacement_ne hzero hascii)) hbyte

end Decoder

/-- No ASCII character is read off bytes other than its own. -/
theorem not_mem_decode {sought : UInt8} (hzero : sought ≠ 0) (hascii : sought.toNat < 0x80)
    {bytes : List UInt8} (hbytes : sought ∉ bytes) :
    Char.ofNat sought.toNat ∉ (decode bytes).toList := by
  have hfold : ∀ decoder : Decoder, decoder.Lacks sought → decoder.IsSound →
      (bytes.foldl Decoder.step decoder).Lacks sought := by
    induction bytes with
    | nil => exact fun _ hlacks _ => hlacks
    | cons byte rest ih =>
        intro decoder hlacks hsound
        have hbyte : byte ≠ sought := (List.ne_of_not_mem_cons hbytes).symm
        exact ih (List.not_mem_of_not_mem_cons hbytes) _
          (Decoder.lacks_step hzero hascii hlacks hsound hbyte)
          (Decoder.isSound_step hsound byte)
  have hlacks := hfold .start List.not_mem_nil (Decoder.isSound_of_none rfl)
  unfold decode Decoder.finish
  split
  · exact hlacks
  · exact Decoder.not_mem_push hlacks (Decoder.replacement_ne hzero hascii)

/-- Bytes without a line feed make one line. -/
theorem lineFeed_not_mem_decode {bytes : List UInt8} (hbytes : lineFeed ∉ bytes) :
    '\n' ∉ (decode bytes).toList :=
  not_mem_decode (by decide) (by decide) hbytes

/-! ## Encoding -/

theorem encode_eq_flatMap (text : String) :
    encode text = text.toList.flatMap String.utf8EncodeChar := by
  have hbytes : text.toByteArray = text.toList.utf8Encode := by
    rw [← String.toByteArray_ofList, String.ofList_toList]
  rw [encode, String.toUTF8, hbytes, List.utf8Encode, toList_toByteArray]

theorem encode_append (first second : String) :
    encode (first ++ second) = encode first ++ encode second := by
  rw [encode_eq_flatMap, encode_eq_flatMap, encode_eq_flatMap, String.toList_append,
    List.flatMap_append]

theorem encode_injective {first second : String} (hsame : encode first = encode second) :
    first = second := by
  have hbytes : first.toByteArray = second.toByteArray := toList_inj.mp hsame
  exact String.toByteArray_inj.mp hbytes

/-- An ASCII byte is written for its own character only. -/
theorem toNat_eq_of_mem_utf8EncodeChar {c : Char} {byte : UInt8} (hascii : byte.toNat < 0x80)
    (hbyte : byte ∈ String.utf8EncodeChar c) : c.toNat = byte.toNat := by
  have hlarge : ∀ code : Nat, 0x80 ≤ code → code < 0x100 → byte ≠ UInt8.ofNat code := by
    rintro code hlow hhigh rfl
    rw [UInt8.toNat_ofNat_of_lt' hhigh] at hascii
    omega
  unfold String.utf8EncodeChar at hbyte
  dsimp only at hbyte
  split at hbyte
  · next hsmall =>
      rw [List.mem_singleton.mp hbyte, UInt8.toNat_ofNat_of_lt' (by change _ < 256; omega)]
      rfl
  -- all bytes of longer characters are in the upper half
  · exfalso
    split at hbyte
    · simp only [List.mem_cons, List.not_mem_nil, or_false] at hbyte
      rcases hbyte with hbyte | hbyte <;> exact hlarge _ (by omega) (by omega) hbyte
    · split at hbyte
      · simp only [List.mem_cons, List.not_mem_nil, or_false] at hbyte
        rcases hbyte with hbyte | hbyte | hbyte <;> exact hlarge _ (by omega) (by omega) hbyte
      · simp only [List.mem_cons, List.not_mem_nil, or_false] at hbyte
        rcases hbyte with hbyte | hbyte | hbyte | hbyte <;>
          exact hlarge _ (by omega) (by omega) hbyte

/-- A text without an ASCII character is written without its byte. -/
theorem not_mem_encode {sought : UInt8} (hascii : sought.toNat < 0x80) {text : String}
    (htext : Char.ofNat sought.toNat ∉ text.toList) : sought ∉ encode text := by
  rw [encode_eq_flatMap, List.mem_flatMap]
  rintro ⟨c, hc, hbyte⟩
  rw [← toNat_eq_of_mem_utf8EncodeChar hascii hbyte, Char.ofNat_toNat] at htext
  exact htext hc

end EpsBridge.Utf8
