import Theming.Picture.Inflate
import Theming.Picture.Png
import Theming.Text.Utf8

/-!
# Zip archives

A zip archive ends with an end record that points back to its central directory; the directory
lists the entries, each pointing to a local header followed by the entry's data.

Reading follows the format strictly, with the same failures:

* the end record is looked for from the back, first in the last kilobyte and then in the last
  65 KiB; the last signature found decides, and a comment running past the end makes it
  unusable (`zip: not a valid zip file`);
* a zip64 locator just before the end record replaces the counts and offsets;
* the directory must start inside the file; the distance between where the directory is said to
  be and where it is tells how much was prepended, unless an entry header is found at the stated
  place itself;
* directory headers are read one after another until one is not a header; their number must
  agree with the end record in its low 16 bits, or the last failure is reported;
* opening an entry reads its local header; only stored and deflated data can be read. Data
  longer than announced is malformed, shorter data is an unexpected end, and the CRC-32 must
  match (a data descriptor after the data repeats it).

Writing stores the entries uncompressed, each with a local header, then the directory and the
end record.
-/

set_option autoImplicit false

namespace Theming.Archive

open Theming.Picture Theming.Picture.Png

/-- The failure of a malformed archive. -/
def notValid : String := "zip: not a valid zip file"
/-- The failure of a compression method that cannot be read. -/
def unsupported : String := "zip: unsupported compression algorithm"
/-- The failure of data whose CRC-32 does not match. -/
def badChecksum : String := "zip: checksum error"
/-- The failure of input that ends inside a record. -/
def unexpectedEnd : String := "unexpected EOF"
/-- The failure of input that ends before a record. -/
def atEnd : String := "EOF"

/-- The byte at an offset, zero past the end. -/
def byteAt (bs : ByteArray) (i : Nat) : Nat := if h : i < bs.size then bs[i].toNat else 0

/-- A little-endian number of `width` bytes at an offset; bytes past the end read as zero. -/
def readLE (bs : ByteArray) (pos width : Nat) : Nat :=
  (List.range width).reverse.foldl (fun acc i => acc * 256 + byteAt bs (pos + i)) 0

/-- The little-endian bytes of a number. -/
def littleEndian (value width : Nat) : List UInt8 :=
  (List.range width).map fun i => (value / Nat.pow 256 i % 256).toUInt8

/-- Whether bytes begin like a zip archive: `PK`, then 3, 5 or 7, then 4, 6 or 8. -/
def looksLikeZip (head : ByteArray) : Bool :=
  head.size > 3 && byteAt head 0 == 0x50 && byteAt head 1 == 0x4B &&
    [3, 5, 7].contains (byteAt head 2) && [4, 6, 8].contains (byteAt head 3)

/-- An entry of the central directory. -/
structure Entry where
  name : String
  creator : Nat
  flags : Nat
  method : Nat
  crc : Nat
  compressedSize : Nat
  size : Nat
  externalAttrs : Nat
  /-- Where the entry's local header starts in the file. -/
  offset : Nat
  deriving Inhabited

namespace Entry

/-- Whether an entry stands for a folder: its name ends with a slash, or its attributes (Unix
or DOS, by the system that made it) say so. -/
def isFolder (e : Entry) : Bool :=
  let system := e.creator / 256
  let byAttrs :=
    if system == 3 || system == 19 then (e.externalAttrs / 65536) % 65536 / 4096 == 4
    else if system == 0 || system == 11 || system == 14 then e.externalAttrs / 16 % 2 == 1
    else false
  e.name.endsWith "/" || byAttrs

/-- Whether the entry's CRC and sizes follow its data in a descriptor. -/
def hasDescriptor (e : Entry) : Bool := e.flags / 8 % 2 == 1

end Entry

/-- A readable archive: its bytes and its directory. -/
structure Archive where
  bytes : ByteArray
  entries : List Entry
  deriving Inhabited

/-- The length of an end record without its comment. -/
def endLength : Nat := 22

/-- Looks at one place of a block for the end record: nothing there, or the decision (the
record's offset, or none when its comment runs past the block). -/
def probeEnd (bs : ByteArray) (start len i : Nat) : Option (Option Nat) :=
  let p := start + i
  if readLE bs p 4 == 0x06054b50 then
    let n := readLE bs (p + 20) 2
    if n + endLength + i > len then some none else some (some p)
  else none

/-- The last end record of a block, searched from its end. -/
def findInBlock (bs : ByteArray) (start len : Nat) : Option Nat :=
  let rec go : Nat → Option Nat
    | 0 => (probeEnd bs start len 0).getD none
    | j + 1 =>
      match probeEnd bs start len (j + 1) with
      | some r => r
      | none => go j
  if len < endLength then none else go (len - endLength)

/-- The end record's offset: looked for in the last kilobyte, then in the last 65 KiB. -/
def findEnd (bs : ByteArray) : Except String Nat :=
  let size := bs.size
  let small := min 1024 size
  match findInBlock bs (size - small) small with
  | some p => .ok p
  | none =>
    if small == size then .error notValid
    else
      let large := min (65 * 1024) size
      match findInBlock bs (size - large) large with
      | some p => .ok p
      | none => .error notValid

/-- What the end record says: entry count, directory size and directory offset, and where the
record (or its zip64 counterpart) is. -/
structure Directory where
  records : Nat
  size : Nat
  offset : Nat
  endAt : Nat

/-- Reads the end record, following a zip64 locator when the counts are saturated. -/
def readEnd (bs : ByteArray) (p : Nat) : Except String Directory := do
  let d : Directory := ⟨readLE bs (p + 10) 2, readLE bs (p + 12) 4, readLE bs (p + 16) 4, p⟩
  if d.records == 0xffff || d.size == 0xffff || d.offset == 0xffffffff then
    if p < 20 then return d
    let loc := p - 20
    if readLE bs loc 4 != 0x07064b50 || readLE bs (loc + 4) 4 != 0 || readLE bs (loc + 16) 4 != 1 then
      return d
    let q := readLE bs (loc + 8) 8
    if q + 56 > bs.size then throw atEnd
    if readLE bs q 4 != 0x06064b50 then throw notValid
    return ⟨readLE bs (q + 32) 8, readLE bs (q + 40) 8, readLE bs (q + 48) 8, q⟩
  else return d

/-- Reads the zip64 values a directory header leaves saturated from its extra field. -/
def zip64Values (extra : ByteArray) (needSize needCompressed needOffset : Bool) :
    Except String (Option Nat × Option Nat × Option Nat) :=
  let rec go (fuel pos : Nat) : Except String (Option Nat × Option Nat × Option Nat) :=
    match fuel with
    | 0 => .ok (none, none, none)
    | fuel + 1 =>
      if pos + 4 > extra.size then .ok (none, none, none)
      else
        let tag := readLE extra pos 2
        let len := readLE extra (pos + 2) 2
        let body := pos + 4
        if body + len > extra.size then .ok (none, none, none)
        else if tag == 1 then
          let take (need : Bool) (at_ : Nat) : Except String (Option Nat × Nat) :=
            if !need then .ok (none, at_)
            else if at_ + 8 > body + len then .error notValid
            else .ok (some (readLE extra at_ 8), at_ + 8)
          match take needSize body with
          | .error e => .error e
          | .ok (s, a) =>
            match take needCompressed a with
            | .error e => .error e
            | .ok (c, b) =>
              match take needOffset b with
              | .error e => .error e
              | .ok (o, _) => .ok (s, c, o)
        else go fuel (body + len)
  go (extra.size + 1) 0

/-- Reads a directory header at an offset: the entry and where the next header starts. -/
def readHeader (bs : ByteArray) (p base : Nat) : Except String (Entry × Nat) := do
  let avail := bs.size - p
  if avail == 0 then throw atEnd
  if avail < 46 then throw unexpectedEnd
  if readLE bs p 4 != 0x02014b50 then throw notValid
  let nameLen := readLE bs (p + 28) 2
  let extraLen := readLE bs (p + 30) 2
  let commentLen := readLE bs (p + 32) 2
  let varLen := nameLen + extraLen + commentLen
  if varLen > 0 && avail == 46 then throw atEnd
  if avail - 46 < varLen then throw unexpectedEnd
  let nameBytes := (bs.extract (p + 46) (p + 46 + nameLen)).toList
  let extra := bs.extract (p + 46 + nameLen) (p + 46 + nameLen + extraLen)
  let compressed := readLE bs (p + 20) 4
  let size := readLE bs (p + 24) 4
  let offset := readLE bs (p + 42) 4
  let needSize := size == 0xffffffff
  let needCompressed := compressed == 0xffffffff
  let needOffset := offset == 0xffffffff
  let (s, c, o) ← if needSize || needCompressed || needOffset then
      zip64Values extra needSize needCompressed needOffset
    else pure (none, none, none)
  if (needCompressed && c.isNone) || (needOffset && o.isNone) then throw notValid
  let entry : Entry := {
    name := Theming.Text.Utf8.toText nameBytes
    creator := readLE bs (p + 4) 2
    flags := readLE bs (p + 8) 2
    method := readLE bs (p + 10) 2
    crc := readLE bs (p + 16) 4
    compressedSize := c.getD compressed
    size := s.getD size
    externalAttrs := readLE bs (p + 38) 4
    offset := o.getD offset + base }
  return (entry, p + 46 + varLen)

/-- Reads directory headers from an offset until one fails, with the failure that stopped
the reading. -/
def readHeaders (bs : ByteArray) (start base : Nat) : List Entry × String :=
  let rec go (fuel pos : Nat) (acc : List Entry) : List Entry × String :=
    match fuel with
    | 0 => (acc.reverse, notValid)
    | fuel + 1 =>
      match readHeader bs pos base with
      | .ok (e, next) => go fuel next (e :: acc)
      | .error err => (acc.reverse, err)
  go (bs.size / 46 + 1) start []

/-- Reads the directory of an archive. -/
def read (bs : ByteArray) : Except String Archive := do
  let p ← findEnd bs
  let d ← readEnd bs p
  let baseOffset : Int := (d.endAt : Int) - d.size - d.offset
  let dirAt := baseOffset + d.offset
  if dirAt < 0 || dirAt ≥ bs.size then throw notValid
  let base : Nat :=
    if baseOffset > 0 && (readHeader bs d.offset 0).toBool then 0 else baseOffset.toNat
  let (entries, err) := readHeaders bs (base + d.offset) base
  if err != notValid && err != unexpectedEnd then throw err
  if entries.length % 65536 != d.records % 65536 then throw err
  return ⟨bs, entries⟩

namespace Archive

/-- Checks a data descriptor after an entry's data: it must be there and repeat the CRC. -/
def checkDescriptor (a : Archive) (e : Entry) (at_ : Nat) : Except String Unit := do
  let avail := a.bytes.size - min a.bytes.size at_
  if avail < 4 then throw unexpectedEnd
  let signed := readLE a.bytes at_ 4 == 0x08074b50
  let crcAt := if signed then at_ + 4 else at_
  if avail < (if signed then 16 else 12) then throw unexpectedEnd
  if readLE a.bytes crcAt 4 != e.crc then throw badChecksum

/-- The data of an entry, read and checked. -/
def content (a : Archive) (e : Entry) : Except String ByteArray := do
  let bs := a.bytes
  if e.offset + 30 > bs.size then throw atEnd
  if readLE bs e.offset 4 != 0x04034b50 then throw notValid
  let bodyAt := e.offset + 30 + readLE bs (e.offset + 26) 2 + readLE bs (e.offset + 28) 2
  if e.name.endsWith "/" then
    if e.size != 0 then throw notValid else return ByteArray.empty
  let stored := bs.extract bodyAt (bodyAt + e.compressedSize)
  let (data, failure) ← match e.method with
    | 0 => pure (stored, (none : Option String))
    | 8 =>
      let r := inflateFrom ⟨stored, .truncated⟩ 0
      pure (r.data, r.failure.map StreamError.message)
    | _ => throw unsupported
  if data.size > e.size then throw notValid
  if let some f := failure then throw f
  if data.size != e.size then throw unexpectedEnd
  if e.hasDescriptor then
    checkDescriptor a e (bodyAt + e.compressedSize)
    if crc32 data != e.crc then throw badChecksum
  else if e.crc != 0 && crc32 data != e.crc then throw badChecksum
  return data

end Archive

/-- A local header or directory header field list as bytes. -/
def fields (values : List (Nat × Nat)) : List UInt8 :=
  values.flatMap fun (value, width) => littleEndian value width

/-- An archive holding the given files, stored uncompressed, in the given order. -/
def write (files : List (String × ByteArray)) : ByteArray :=
  let step (acc : List UInt8 × List UInt8) (file : String × ByteArray) : List UInt8 × List UInt8 :=
    let (body, dir) := acc
    let (name, data) := file
    let nameBytes := name.toUTF8.toList
    let crc := crc32 data
    let flags := if nameBytes.all (· < 0x80) then 0 else 0x800
    let common := fields [(20, 2), (flags, 2), (0, 2), (0, 2), (0x21, 2), (crc, 4),
      (data.size, 4), (data.size, 4), (nameBytes.length, 2), (0, 2)]
    let record := fields [(0x04034b50, 4)] ++ common ++ nameBytes ++ data.toList
    let central := fields [(0x02014b50, 4), (20, 2)] ++ common ++
      fields [(0, 2), (0, 2), (0, 2), (0, 4), (body.length, 4)] ++ nameBytes
    (body ++ record, dir ++ central)
  let (body, dir) := files.foldl step ([], [])
  let tail := fields [(0x06054b50, 4), (0, 2), (0, 2), (files.length, 2), (files.length, 2),
    (dir.length, 4), (body.length, 4), (0, 2)]
  ⟨(body ++ dir ++ tail).toArray⟩

end Theming.Archive
