import EpsBridge.Json.Basic
import EpsBridge.Outcome

/-!
# PNG images

What a preview needs of an image: that it is one, its size and its colours.  An
image is a signature followed by chunks, each with a checksum.  The first chunk
is the header.  The data chunks stand together and hold a row of samples for
every line, which are checked for their number as far as the data is stored
without compression.  What comes behind the data does not matter, but something
has to come.
-/

namespace EpsBridge.Png

/-- How the pixels of a decoded image are given. -/
inductive Color where
  | l8
  | la8
  | rgb8
  | rgba8
  | l16
  | la16
  | rgb16
  | rgba16
deriving DecidableEq, Repr

/-- The name of a colour format. -/
def Color.name : Color → String
  | l8 => "L8"
  | la8 => "La8"
  | rgb8 => "Rgb8"
  | rgba8 => "Rgba8"
  | l16 => "L16"
  | la16 => "La16"
  | rgb16 => "Rgb16"
  | rgba16 => "Rgba16"

/-- A decoded image, its pixels left out. -/
structure Image where
  width : Nat
  height : Nat
  color : Color
deriving DecidableEq, Repr

/-- The image as a record. -/
def Image.toJson (image : Image) : Json :=
  .object [("width", .ofNat image.width), ("height", .ofNat image.height),
    ("color", .string image.color.name)]

/-- The beginning of every image. -/
def signature : List UInt8 := [0x89, 0x50, 0x4E, 0x47, 0x0D, 0x0A, 0x1A, 0x0A]

/-- The number of some bytes, the highest first. -/
def number (bytes : List UInt8) : Nat :=
  bytes.foldl (fun value byte => 256 * value + byte.toNat) 0

/-! ## Chunks -/

/-- One step of the checksum, for one bit. -/
def checksumBit (value : UInt32) : UInt32 :=
  if value &&& 1 = 1 then (value >>> 1) ^^^ 0xEDB88320 else value >>> 1

/-- One step of the checksum, for one byte. -/
def checksumByte (value : UInt32) (byte : UInt8) : UInt32 :=
  (List.range 8).foldl (fun value _ => checksumBit value) (value ^^^ byte.toUInt32)

/-- The cyclic redundancy check of some bytes. -/
def checksum (bytes : List UInt8) : UInt32 :=
  bytes.foldl checksumByte 0xFFFFFFFF ^^^ 0xFFFFFFFF

/-- A piece of an image. -/
structure Chunk where
  name : List UInt8
  data : List UInt8
deriving Repr

/-- The bytes of a chunk besides its data: length, name and checksum. -/
def chunkFrame : Nat := 12

/-- Whether an image can do without the chunks of a name. -/
def isAncillary (name : List UInt8) : Bool :=
  match name with
  | first :: _ => first &&& 0x20 ≠ 0
  | [] => false

/-- Takes the first chunk of some bytes.  One with a wrong checksum is left out if
it is ancillary. -/
def takeChunk? (bytes : List UInt8) : Option (Option Chunk × List UInt8) :=
  if bytes.length < chunkFrame then none
  else
    let length := number (bytes.take 4)
    let body := bytes.drop 4
    let rest := body.drop (4 + length)
    let name := body.take 4
    if rest.length < 4 then none
    else if (checksum (body.take (4 + length))).toNat = number (rest.take 4) then
      some (some ⟨name, (body.drop 4).take length⟩, rest.drop 4)
    else if isAncillary name then some (none, rest.drop 4)
    else none

/-- The name of the header. -/
def headerName : List UInt8 := [0x49, 0x48, 0x44, 0x52]

/-- The name of the palette. -/
def paletteName : List UInt8 := [0x50, 0x4C, 0x54, 0x45]

/-- The name of the transparent colours. -/
def transparencyName : List UInt8 := [0x74, 0x52, 0x4E, 0x53]

/-- The name of data. -/
def dataName : List UInt8 := [0x49, 0x44, 0x41, 0x54]

/-- The name of the end. -/
def endName : List UInt8 := [0x49, 0x45, 0x4E, 0x44]

/-- Whether the next chunk is one of data. -/
def isAtData (bytes : List UInt8) : Bool := (bytes.drop 4).take 4 = dataName

/-- The chunks in front of the data, at most `count` of them, and what follows. -/
def frontChunks? : Nat → List UInt8 → Option (List Chunk × List UInt8)
  | 0, _ => none
  | count + 1, bytes =>
    if isAtData bytes then some ([], bytes)
    else do
      let (chunk?, rest) ← takeChunk? bytes
      if chunk?.any fun chunk => chunk.name = endName then none
      let (chunks, rest) ← frontChunks? count rest
      return (chunk?.toList ++ chunks, rest)

/-- The data of at most `count` chunks up to a chunk of another name. -/
def dataBytes? : Nat → List UInt8 → Option (List UInt8)
  | 0, _ => none
  | count + 1, bytes =>
    if bytes.length < 8 then none
    else if isAtData bytes then do
      let (chunk?, rest) ← takeChunk? bytes
      return (chunk?.map Chunk.data).getD [] ++ (← dataBytes? count rest)
    else some []

/-! ## Header -/

/-- What the header of an image says. -/
structure Header where
  width : Nat
  height : Nat
  depth : Nat
  /-- The kind of colour: 0 gray, 2 colour, 3 palette, 4 gray with alpha, 6
  colour with alpha. -/
  kind : Nat
  interlaced : Bool
deriving Repr

namespace Header

/-- The bit depths that go with a kind of colour. -/
def depths : Nat → List Nat
  | 0 => [1, 2, 4, 8, 16]
  | 2 => [8, 16]
  | 3 => [1, 2, 4, 8]
  | 4 => [8, 16]
  | 6 => [8, 16]
  | _ => []

/-- The samples of a pixel. -/
def samples : Nat → Nat
  | 2 => 3
  | 4 => 2
  | 6 => 4
  | _ => 1

/-- Reads the data of the header. -/
def ofData? (data : List UInt8) : Option Header :=
  let width := number (data.take 4)
  let height := number ((data.drop 4).take 4)
  match data.drop 8 with
  | [depth, kind, 0, 0, interlace] =>
    if width = 0 || height = 0 || !(depths kind.toNat).contains depth.toNat ||
      1 < interlace.toNat then none
    else some ⟨width, height, depth.toNat, kind.toNat, interlace = 1⟩
  | _ => none

/-- The bytes of a line of some pixels with its filter. -/
def lineLength (header : Header) (pixels : Nat) : Nat :=
  1 + (pixels * samples header.kind * header.depth + 7) / 8

/-- Of some lines or pixels in a row, the number of those that come `step` apart
from a first one on. -/
def every (size first step : Nat) : Nat := (size - first + step - 1) / step

/-- The passes of an interlaced image: the first pixel of a line and the distance
to the next, then the first line and the distance to the next. -/
def interlacing : List (Nat × Nat × Nat × Nat) :=
  [(0, 8, 0, 8), (4, 8, 0, 8), (0, 4, 4, 8), (2, 4, 0, 4), (0, 2, 2, 4), (1, 2, 0, 2),
    (0, 1, 1, 2)]

/-- The passes in which an image is given, by their lines and the pixels of a
line. -/
def passes (header : Header) : List (Nat × Nat) :=
  if header.interlaced then
    (interlacing.map fun (left, across, top, down) =>
      (every header.height top down, every header.width left across)).filter
        fun (lines, pixels) => 0 < lines && 0 < pixels
  else [(header.height, header.width)]

/-- The colours of the decoded image.  A palette gives colours, and transparent
colours give an alpha channel. -/
def color (header : Header) (transparent : Bool) : Color :=
  match header.kind, decide (header.depth = 16), transparent with
  | 0, true, false => .l16
  | 0, true, true => .la16
  | 0, false, false => .l8
  | 0, false, true => .la8
  | 2, true, false => .rgb16
  | 2, true, true => .rgba16
  | 2, false, false => .rgb8
  | 3, _, false => .rgb8
  | 4, true, _ => .la16
  | 4, false, _ => .la8
  | 6, true, _ => .rgba16
  | _, _, _ => .rgba8

end Header

/-! ## Data -/

/-- Whether two bytes can begin compressed data: the method is the one there is,
its window is not too large, no dictionary is needed, and the bytes check. -/
def beginsData (method flags : UInt8) : Bool :=
  method &&& 0x0F = 8 && method >>> 4 ≤ 7 && flags &&& 0x20 = 0 &&
    (256 * method.toNat + flags.toNat) % 31 = 0

/-- The bytes of stored blocks, at most `count` of them; nothing where a block is
compressed or incomplete.  The upper bits in front of a length are not used. -/
def storedBytes? : Nat → List UInt8 → Option (List UInt8)
  | 0, _ => none
  | count + 1, kind :: low :: high :: lowCheck :: highCheck :: rest =>
    let length := low.toNat + 256 * high.toNat
    if kind &&& 6 ≠ 0 || length + lowCheck.toNat + 256 * highCheck.toNat ≠ 0xFFFF ||
      rest.length < length then none
    else if kind &&& 1 = 1 then some (rest.take length)
    else (storedBytes? count (rest.drop length)).map (rest.take length ++ ·)
  | _, _ => none

/-- What follows some lines of a length, if they begin with a filter that there is
and are complete. -/
def dropLines? : Nat → Nat → List UInt8 → Option (List UInt8)
  | 0, _, bytes => some bytes
  | lines + 1, length, bytes =>
    match bytes with
    | filter :: _ =>
      if filter ≤ 4 && (bytes.take length).length = length then
        dropLines? lines length (bytes.drop length)
      else none
    | [] => none

/-- Whether bytes hold all lines of an image. -/
def linesFit (header : Header) (bytes : List UInt8) : Bool :=
  (header.passes.foldlM (fun bytes (lines, pixels) =>
    dropLines? lines (header.lineLength pixels) bytes) bytes).isSome

/-- Whether the compressed data of an image can be its lines. -/
def dataFits (header : Header) (data : List UInt8) : Bool :=
  match data with
  | method :: flags :: kind :: rest =>
    beginsData method flags &&
      if kind &&& 6 = 0 then
        ((storedBytes? data.length (kind :: rest)).map (linesFit header)).getD false
      else kind &&& 6 ≠ 6
  | _ => false

/-- The image in some bytes, if they are one. -/
def decode? (bytes : List UInt8) : Option Image := do
  if bytes.take signature.length ≠ signature then none
  match ← frontChunks? bytes.length (bytes.drop signature.length) with
  | ([], _) => none
  | (first :: front, rest) =>
    if first.name ≠ headerName then none
    let header ← Header.ofData? first.data
    let has (name : List UInt8) : Bool := front.any fun chunk => chunk.name = name
    if header.kind = 3 && !has paletteName then none
    if !dataFits header (← dataBytes? bytes.length rest) then none
    return ⟨header.width, header.height, header.color (has transparencyName)⟩

/-- Decodes the content of a file. -/
def decode (content : ByteArray) : Outcome String Image :=
  match decode? content.toList with
  | some image => .ok image
  | none => .error "not a PNG image"

end EpsBridge.Png
