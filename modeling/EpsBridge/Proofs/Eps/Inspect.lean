import EpsBridge.Eps.Inspect
import EpsBridge.Proofs.Eps.Header
import EpsBridge.Proofs.Number.Decimal

/-!
# What inspecting a file tells

A file carries PostScript text (`Carries`): a plain file is its text, and a file with a
binary header says in two words where its text lies.  `body?_eq_some_iff` is the two
readings of the same rule; everything else follows.  A file that carries no text is refused,
and of any other the header, the number of pages and the sides are those of the text
(`Metadata.Describes`), so that nothing around the text can change them.
-/

namespace EpsBridge.Eps

/-! ## Words -/

/-- The four bytes of a word, the lowest first. -/
def littleEndian (word : Nat) : List UInt8 :=
  [.ofNat word, .ofNat (word / 0x100), .ofNat (word / 0x10000), .ofNat (word / 0x1000000)]

/-- The words that can be read are those whose four bytes are there. -/
theorem word?_eq_some_iff {bytes : List UInt8} {position word : Nat} :
    word? bytes position = some word ↔
      word < 2 ^ 32 ∧ (bytes.drop position).take 4 = littleEndian word := by
  unfold word?
  constructor
  · intro hword
    split at hword
    · next a b c d hbytes =>
        obtain rfl := Option.some.inj hword
        have ha := a.toNat_lt
        have hb := b.toNat_lt
        have hc := c.toNat_lt
        have hd := d.toNat_lt
        refine ⟨by omega, ?_⟩
        rw [hbytes]
        simp only [littleEndian, List.cons.injEq, and_true, ← UInt8.toNat_inj, UInt8.toNat_ofNat']
        omega
    · cases hword
  · rintro ⟨hbound, hbytes⟩
    rw [hbytes]
    simp only [littleEndian, UInt8.toNat_ofNat', Option.some.injEq]
    omega

/-! ## The text that a file carries -/

/-- The PostScript text in the bytes of a file. -/
inductive Carries : List UInt8 → List UInt8 → Prop
  /-- A plain file is its own text. -/
  | plain {bytes : List UInt8} (hmagic : [0x25, 0x21, 0x50, 0x53] <+: bytes) : Carries bytes bytes
  /-- Behind the magic bytes come the place of the text and its length.  It may be cut off by
  the end of the file. -/
  | wrapped {bytes rest : List UInt8} {start length : Nat}
      (hbytes : bytes =
        [0xC5, 0xD0, 0xD3, 0xC6] ++ littleEndian start ++ littleEndian length ++ rest)
      (hstart : 30 ≤ start ∧ start < 2 ^ 32) (hlength : 0 < length ∧ length < 2 ^ 32) :
      Carries bytes ((bytes.drop start).take length)

section

variable {bytes : List UInt8}

theorem section?_eq_some_iff {start length : Nat} : section? bytes = some (start, length) ↔
      word? bytes 4 = some start ∧ word? bytes 8 = some length ∧ 30 ≤ start ∧ 0 < length := by
  simp only [section?, binaryHeaderLength, Option.bind_eq_bind, Option.bind_eq_some_iff,
    Bool.and_eq_true, decide_eq_true_eq, Option.ite_none_right_eq_some, Option.some.injEq,
    Prod.mk.injEq]
  grind

/-- The words of a binary header lie within its first bytes. -/
theorem word?_take {position : Nat} (hposition : position + 4 ≤ 30) :
    word? (bytes.take 30) position = word? bytes position := by
  have hsame : ((bytes.take 30).drop position).take 4 = (bytes.drop position).take 4 := by
    rw [List.drop_take, List.take_take, Nat.min_eq_left (by omega)]
  rw [word?, word?, hsame]

theorem section?_take (bytes : List UInt8) : section? (bytes.take 30) = section? bytes := by
  rw [section?, section?, word?_take (by omega), word?_take (by omega)]

theorem isBinary_take_iff : isBinary (bytes.take 30) = true ↔ binaryMagic <+: bytes := by
  rw [isBinary, List.isPrefixOf_iff_prefix, List.prefix_take_iff]
  simp [binaryMagic]

theorem isEps_take_iff :
    isEps (bytes.take 30) = true ↔ plainMagic <+: bytes ∨ binaryMagic <+: bytes := by
  rw [isEps, Bool.or_eq_true, isBinary_take_iff, List.isPrefixOf_iff_prefix, List.prefix_take_iff]
  simp [plainMagic]

theorem not_plain_of_binary (hbinary : binaryMagic <+: bytes) : ¬ plainMagic <+: bytes := by
  rintro ⟨plainRest, hplain⟩
  obtain ⟨binaryRest, rfl⟩ := hbinary
  simp [plainMagic, binaryMagic] at hplain

/-- A binary header is its magic bytes and two words. -/
theorem binary_section_iff {start length : Nat} :
    binaryMagic <+: bytes ∧ section? bytes = some (start, length) ↔
      (∃ rest, bytes = binaryMagic ++ littleEndian start ++ littleEndian length ++ rest) ∧
        (30 ≤ start ∧ start < 2 ^ 32) ∧ 0 < length ∧ length < 2 ^ 32 := by
  rw [section?_eq_some_iff, word?_eq_some_iff, word?_eq_some_iff]
  constructor
  · rintro ⟨⟨body, rfl⟩, ⟨hstart, hplace⟩, ⟨hlength, hsize⟩, hfar, hpositive⟩
    refine ⟨⟨body.drop 8, ?_⟩, ⟨hfar, hstart⟩, hpositive, hlength⟩
    -- the words are the eight bytes behind the magic ones
    have hplace : body.take 4 = littleEndian start := hplace
    have hsize : (body.drop 4).take 4 = littleEndian length := hsize
    calc
      binaryMagic ++ body = binaryMagic ++ (body.take 4 ++ ((body.drop 4).take 4 ++
          (body.drop 4).drop 4)) := by
        rw [List.take_append_drop, List.take_append_drop]
      _ = binaryMagic ++ littleEndian start ++ littleEndian length ++ body.drop 8 := by
        rw [hplace, hsize, List.drop_drop]
        simp
  · rintro ⟨⟨rest, rfl⟩, ⟨hfar, hstart⟩, hpositive, hlength⟩
    refine ⟨⟨_, (List.append_assoc _ _ _).symm⟩, ⟨hstart, ?_⟩, ⟨hlength, ?_⟩, hfar, hpositive⟩
    · simp [binaryMagic, littleEndian]
    · simp [binaryMagic, littleEndian]

/-- What is read of a file is the text that it carries. -/
theorem body?_eq_some_iff {content : ByteArray} {text : List UInt8} :
    body? content = some text ↔ Carries content.toList text := by
  simp only [body?, binaryHeaderLength, toList_extract, Nat.sub_zero, List.drop_zero,
    Nat.add_sub_cancel_left, section?_take]
  constructor
  · intro hbody
    split at hbody
    · next hbinary =>
        obtain ⟨⟨start, length⟩, hsection, rfl⟩ := Option.map_eq_some_iff.mp hbody
        obtain ⟨⟨rest, hbytes⟩, hstart, hlength⟩ :=
          binary_section_iff.mp ⟨isBinary_take_iff.mp hbinary, hsection⟩
        exact .wrapped hbytes hstart hlength
    · next hbinary =>
        split at hbody
        · next heps =>
            obtain rfl := Option.some.inj hbody
            rw [isBinary_take_iff] at hbinary
            exact .plain ((isEps_take_iff.mp heps).resolve_right hbinary)
        · cases hbody
  · intro hcarries
    cases hcarries with
    | plain hmagic =>
        rw [if_neg, if_pos (isEps_take_iff.mpr (.inl hmagic))]
        intro hbinary
        exact not_plain_of_binary (isBinary_take_iff.mp hbinary) hmagic
    | wrapped hbytes hstart hlength =>
        obtain ⟨hbinary, hsection⟩ := binary_section_iff.mpr ⟨⟨_, hbytes⟩, hstart, hlength⟩
        rw [if_pos (isBinary_take_iff.mpr hbinary), hsection]
        rfl

end

/-! ## The metadata of a text -/

/-- A difference of two corners, held within 32 bits. -/
def saturated (value : Int) : Int := max (-2 ^ 31) (min (2 ^ 31 - 1) value)

/-- What metadata say of a text. -/
structure Metadata.Describes (metadata : Metadata) (text : List UInt8) : Prop where
  /-- The header is read off the text, in whatever pieces that comes. -/
  header : ∀ chunk, 0 < chunk → Header.read (.ofBytes chunk text) = .ok metadata.header
  pageCount : metadata.pageCount = (metadata.header.pages.filter (0 < ·)).getD 1
  pageCount_pos : 1 ≤ metadata.pageCount
  /-- The sides are those of the whole-numbered box, else of the fractional one. -/
  width : metadata.width.map Int32.toInt =
    match metadata.header.boundingBox, metadata.header.hiresBoundingBox with
    | some box, _ | none, some box => some (saturated (box.urx.toInt - box.llx.toInt))
    | none, none => none
  height : metadata.height.map Int32.toInt =
    match metadata.header.boundingBox, metadata.header.hiresBoundingBox with
    | some box, _ | none, some box => some (saturated (box.ury.toInt - box.lly.toInt))
    | none, none => none
  sides : metadata.width.isSome = metadata.height.isSome

theorem pageCount_eq (header : Header) :
    pageCount header = (header.pages.filter (0 < ·)).getD 1 := by
  unfold pageCount
  cases hpages : header.pages with
  | none => rfl
  | some pages => by_cases hpositive : 0 < pages <;> simp [Option.filter, hpositive]

theorem one_le_pageCount (header : Header) : 1 ≤ pageCount header := by
  unfold pageCount
  split
  · split
    · next hpositive =>
        rw [UInt32.lt_iff_toNat_lt] at hpositive
        rw [UInt32.le_iff_toNat_le]
        exact hpositive
    · exact UInt32.le_refl 1
  · exact UInt32.le_refl 1

/-- What is measured of the effective box is measured of the whole-numbered box, else of the
fractional one. -/
theorem map_effectiveBox {α : Type} (header : Header) (measure : BoundingBox → α) :
    header.effectiveBox.map measure =
      match header.boundingBox, header.hiresBoundingBox with
      | some box, _ | none, some box => some (measure box)
      | none, none => none := by
  unfold Header.effectiveBox
  cases header.boundingBox <;> cases header.hiresBoundingBox <;> rfl

theorem describes_metadataOf (path : Path) (content : ByteArray) (modified : Int)
    (text : List UInt8) :
    (metadataOf path content modified (.declared text)).Describes text where
  header _ hchunk := Header.read_ofBytes hchunk text
  pageCount := pageCount_eq _
  pageCount_pos := one_le_pageCount _
  width := by
    rw [metadataOf, Option.map_map, map_effectiveBox]
    simp only [Function.comp_apply, BoundingBox.width, Decimal.toInt_clampInt32]
    rfl
  height := by
    rw [metadataOf, Option.map_map, map_effectiveBox]
    simp only [Function.comp_apply, BoundingBox.height, Decimal.toInt_clampInt32]
    rfl
  sides := by simp only [metadataOf, Option.isSome_map]

/-- Both metadata say the same of what lies in the file. -/
structure Metadata.Agrees (first second : Metadata) : Prop where
  header : first.header = second.header
  pageCount : first.pageCount = second.pageCount
  width : first.width = second.width
  height : first.height = second.height

theorem Metadata.Describes.agrees {first second : Metadata} {text : List UInt8}
    (hfirst : first.Describes text) (hsecond : second.Describes text) : first.Agrees second := by
  have hheader : first.header = second.header := by
    have hread := hfirst.header 1 Nat.one_pos
    rw [hsecond.header 1 Nat.one_pos] at hread
    exact (Except.ok.inj hread).symm
  have hinjective : Function.Injective (Option.map Int32.toInt) :=
    Option.map_injective fun _ _ => Int32.toInt_inj.mp
  refine ⟨hheader, ?_, hinjective ?_, hinjective ?_⟩
  · rw [hfirst.pageCount, hsecond.pageCount, hheader]
  · rw [hfirst.width, hsecond.width, hheader]
  · rw [hfirst.height, hsecond.height, hheader]

/-! ## Inspecting -/

theorem ofOpened_of_carries (path : Path) {content : ByteArray} (modified : Int)
    {text : List UInt8} (hcarries : Carries content.toList text) :
    ∃ metadata, ofOpened path (.ok (.file content modified)) = .ok metadata ∧
      metadata.Describes text := by
  refine ⟨_, ?_, describes_metadataOf path content modified text⟩
  rw [ofOpened, ofContent, body?_eq_some_iff.mpr hcarries]
  dsimp only
  rw [Header.read_ofBytes (by decide)]

theorem ofOpened_of_not_carries (path : Path) {content : ByteArray} (modified : Int)
    (hnone : ∀ text, ¬ Carries content.toList text) :
    ofOpened path (.ok (.file content modified)) =
      .error (.notAnEps path (content.toList.take 8)) := by
  have hbody : body? content = none := by
    rw [Option.eq_none_iff_forall_ne_some]
    intro text htext
    exact hnone text (body?_eq_some_iff.mp htext)
  rw [ofOpened, ofContent, hbody]
  dsimp only
  rw [toList_extract_zero, shownMagicLength]

/-- A PostScript text with what is put around it. -/
structure Wrapping where
  text : List UInt8
  /-- What lies between the words of the binary header and the text. -/
  filler : List UInt8
  trailer : List UInt8
  isText : [0x25, 0x21, 0x50, 0x53] <+: text
  admissible : 30 ≤ 12 + filler.length ∧ 12 + filler.length < 2 ^ 32
  fits : text.length < 2 ^ 32

/-- The file with a binary header. -/
def Wrapping.bytes (wrapping : Wrapping) : List UInt8 :=
  [0xC5, 0xD0, 0xD3, 0xC6] ++ littleEndian (12 + wrapping.filler.length) ++
    littleEndian wrapping.text.length ++ (wrapping.filler ++ wrapping.text ++ wrapping.trailer)

theorem Wrapping.carries_bytes (wrapping : Wrapping) : Carries wrapping.bytes wrapping.text := by
  have hpositive : 0 < wrapping.text.length :=
    Nat.lt_of_lt_of_le (by decide) wrapping.isText.length_le
  have hcarries : Carries wrapping.bytes
      ((wrapping.bytes.drop (12 + wrapping.filler.length)).take wrapping.text.length) :=
    .wrapped rfl wrapping.admissible ⟨hpositive, wrapping.fits⟩
  have hsection : (wrapping.bytes.drop (12 + wrapping.filler.length)).take wrapping.text.length =
      wrapping.text := by
    -- twelve bytes for the magic ones and the words, and then the filler
    rw [bytes, ← List.drop_drop, List.append_assoc wrapping.filler, List.drop_left' (by rfl),
      List.drop_left, List.take_left]
  rwa [hsection] at hcarries

/-- **Inspecting.**  A file that carries a text is described by it, and any other is refused
with its first bytes.  So files that carry the same text are told apart by nothing that is
said of it, and putting a text behind a binary header changes nothing. -/
theorem describes_ofOpened (path : Path) (content : ByteArray) (modified : Int) :
    (∀ text, Carries content.toList text →
      ∃ metadata, ofOpened path (.ok (.file content modified)) = .ok metadata ∧
        metadata.Describes text ∧
        ∀ otherPath other otherModified, Carries other.toList text →
          ∃ same, ofOpened otherPath (.ok (.file other otherModified)) = .ok same ∧
            metadata.Agrees same) ∧
      ((∀ text, ¬ Carries content.toList text) →
        ofOpened path (.ok (.file content modified)) =
          .error (.notAnEps path (content.toList.take 8))) ∧
      ∀ wrapping : Wrapping, content.toList = wrapping.bytes →
        ∀ plainPath plain plainModified, plain.toList = wrapping.text →
          ∃ metadata same, ofOpened path (.ok (.file content modified)) = .ok metadata ∧
            ofOpened plainPath (.ok (.file plain plainModified)) = .ok same ∧
            metadata.Agrees same := by
  have hdescribed : ∀ text, Carries content.toList text →
      ∃ metadata, ofOpened path (.ok (.file content modified)) = .ok metadata ∧
        metadata.Describes text ∧
        ∀ otherPath other otherModified, Carries other.toList text →
          ∃ same, ofOpened otherPath (.ok (.file other otherModified)) = .ok same ∧
            metadata.Agrees same := by
    intro text hcarries
    obtain ⟨metadata, hmetadata, hdescribes⟩ := ofOpened_of_carries path modified hcarries
    refine ⟨metadata, hmetadata, hdescribes, ?_⟩
    intro otherPath other otherModified hother
    obtain ⟨same, hsame, hsameDescribes⟩ := ofOpened_of_carries otherPath otherModified hother
    exact ⟨same, hsame, hdescribes.agrees hsameDescribes⟩
  refine ⟨hdescribed, ofOpened_of_not_carries path modified, ?_⟩
  intro wrapping hwrapped plainPath plain plainModified hplain
  have hcarries : Carries content.toList wrapping.text := hwrapped ▸ wrapping.carries_bytes
  have hcarriesPlain : Carries plain.toList wrapping.text := by
    rw [hplain]
    exact .plain wrapping.isText
  obtain ⟨metadata, hmetadata, -, hothers⟩ := hdescribed wrapping.text hcarries
  obtain ⟨same, hsame, hagrees⟩ := hothers plainPath plain plainModified hcarriesPlain
  exact ⟨metadata, same, hmetadata, hsame, hagrees⟩

/-- A text between a preview and what looks like a comment. -/
def Wrapping.previewed : Wrapping where
  text := Utf8.encode "%!PS\n%%Pages: 3\n%%BoundingBox: -2147483648 0 1 5\n"
  filler := List.replicate 18 0x49
  trailer := Utf8.encode "%%Title: none\n"
  isText := by decide +kernel
  admissible := by decide
  fits := by decide +kernel

theorem describes_ofOpened_previewed :
    let path := Path.ofString "a.eps"
    let broken := [0xC5, 0xD0, 0xD3, 0xC6, 30]
    (∃ metadata same,
      ofOpened path (.ok (.file Wrapping.previewed.bytes.toByteArray 0)) = .ok metadata ∧
        ofOpened path (.ok (.file Wrapping.previewed.text.toByteArray 0)) = .ok same ∧
        metadata.Agrees same ∧
        metadata.pageCount = 3 ∧ metadata.width = some 2147483647 ∧ metadata.height = some 5) ∧
      ofOpened path (.ok (.file broken.toByteArray 0)) = .error (.notAnEps path broken) := by
  intro path broken
  constructor
  · obtain ⟨-, -, hwrapped⟩ := describes_ofOpened path Wrapping.previewed.bytes.toByteArray 0
    obtain ⟨metadata, same, hmetadata, hsame, hagrees⟩ :=
      hwrapped .previewed (toList_toByteArray _) path _ 0 (toList_toByteArray _)
    have hfields : (ofOpened path (.ok (.file Wrapping.previewed.bytes.toByteArray 0))).toOption.map
        (fun metadata => (metadata.pageCount, metadata.width, metadata.height)) =
          some (3, some 2147483647, some 5) := by decide +kernel
    rw [hmetadata] at hfields
    simp only [Except.toOption, Option.map_some, Option.some.injEq, Prod.mk.injEq] at hfields
    exact ⟨metadata, same, hmetadata, hsame, hagrees, hfields⟩
  · obtain ⟨-, hrefused, -⟩ := describes_ofOpened path broken.toByteArray 0
    rw [toList_toByteArray] at hrefused
    apply hrefused
    intro text hcarries
    have hnone : body? broken.toByteArray = none := by decide +kernel
    rw [← toList_toByteArray broken, ← body?_eq_some_iff, hnone] at hcarries
    cases hcarries

end EpsBridge.Eps
