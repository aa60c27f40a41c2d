import EpsBridge.Eps.Header
import EpsBridge.FileError
import EpsBridge.Text.Utf8

/-!
# Reading headers from a source

A source hands out bytes in pieces, and may fail at some point.  It is given by
the results of its reads, in order; after the last of them it has ended.

Lines are asked for one at a time, and a read takes place only while a line is
incomplete.  Nothing behind the line that ends the comments, or behind the last
line that counts, is ever asked for.
-/

namespace EpsBridge.Eps

/-- The result of one read. -/
inductive Delivery where
  /-- Some bytes; none of them means the end. -/
  | bytes (piece : List UInt8)
  | failure (error : FileError)
deriving Repr

/-- The byte that ends a line. -/
def lineFeed : UInt8 := 0x0A

/-- A source with the bytes that were read ahead. -/
structure Reader where
  buffer : List UInt8
  deliveries : List Delivery
deriving Repr

namespace Reader

/-- The bytes of a buffer up to and including the first line feed, in front of
which comes `start`, of which the last byte comes first; and what follows them.
Without a line feed, what the line has so far, again last byte first. -/
def cut (start buffer : List UInt8) : Except (List UInt8) (List UInt8 × List UInt8) :=
  match buffer with
  | [] => .error start
  | byte :: rest =>
    if byte = lineFeed then .ok ((byte :: start).reverse, rest) else cut (byte :: start) rest

/-- The end of a source within a line: the line, if it has a byte. -/
def lastLine (start : List UInt8) (later : List Delivery) : Option (List UInt8 × Reader) :=
  if start.isEmpty then none else some (start.reverse, ⟨[], later⟩)

/-- Reads on from `start`, of which the last byte comes first, until the line is
complete or the source ends. -/
def lineFrom (start : List UInt8) :
    List Delivery → Except FileError (Option (List UInt8 × Reader))
  | [] => .ok (lastLine start [])
  | .failure error :: _ => .error error
  | .bytes [] :: later => .ok (lastLine start later)
  | .bytes (byte :: piece) :: later =>
    match cut start (byte :: piece) with
    | .ok (line, rest) => .ok (some (line, ⟨rest, later⟩))
    | .error start => lineFrom start later

/-- Takes the next line, its line feed included. -/
def nextLine (reader : Reader) : Except FileError (Option (List UInt8 × Reader)) :=
  match cut [] reader.buffer with
  | .ok (line, rest) => .ok (some (line, ⟨rest, reader.deliveries⟩))
  | .error start => lineFrom start reader.deliveries

/-- The text of a line without what ends it. -/
def lineText (line : List UInt8) : List Char :=
  Text.trimEnd (fun c => c = '\r' || c = '\n') (Utf8.decode line).toList

/-- The lines before the one that ends the comments, up to a number of lines. -/
def commentLines : Nat → Reader → Except FileError (List (List Char))
  | 0, _ => .ok []
  | count + 1, reader => do
    match ← reader.nextLine with
    | none => return []
    | some (line, reader) =>
      let text := lineText line
      if Header.isStop text then return []
      else return text :: (← commentLines count reader)

end Reader

/-- The lines that a header may take up. -/
def headerLineLimit : Nat := 100

/-- Reads a header. -/
def Header.read (reader : Reader) : Except FileError Header :=
  (reader.commentLines headerLineLimit).map Header.ofLines

/-- The bytes that a reader asks for at once. -/
def bufferSize : Nat := 8192

/-- Cuts bytes into pieces of a size.  Where that is zero there are none, as a
read of no byte ends the source. -/
def piecesOf (size : Nat) (bytes : List UInt8) : List (List UInt8) :=
  let all := bytes.toArray
  (List.range ((all.size + size - 1) / size)).map fun index =>
    (all.extract (index * size) ((index + 1) * size)).toList

/-- A source that hands out all bytes, at most `chunk` at a time. -/
def Reader.ofBytes (chunk : Nat) (bytes : List UInt8) : Reader :=
  ⟨[], (piecesOf (min chunk bufferSize) bytes).map .bytes⟩

/-- A source that fails on the first read after `limit` bytes. -/
def Reader.failingAfter (limit chunk : Nat) (error : FileError) (bytes : List UInt8) : Reader :=
  if bytes.length < limit then ofBytes chunk bytes
  else ⟨[], (piecesOf (min chunk bufferSize) (bytes.take limit)).map .bytes ++ [.failure error]⟩

end EpsBridge.Eps
