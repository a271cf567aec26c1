import Theming.Picture.Png

/-!
# Writing PNG pictures

A canvas is written as an 8-bit true color picture with alpha: the header chunk, one data
chunk and the end chunk. The rows are not filtered (each starts with filter byte 0) and the
zlib stream holds them in stored blocks of at most 65535 bytes, so the file is what a reader
needs and nothing more.
-/

set_option autoImplicit false

namespace Theming.Picture.Png

/-- A number as big-endian bytes. -/
def bigEndianBytes (value width : Nat) : List UInt8 :=
  (List.range width).reverse.map fun i => (value / Nat.pow 256 i % 256).toUInt8

/-- A chunk: length, type, data and the CRC-32 of type and data. -/
def writeChunk (kind : String) (data : ByteArray) : ByteArray :=
  let body := typeBytes kind ++ data
  ⟨(bigEndianBytes data.size 4).toArray⟩ ++ body ++ ⟨(bigEndianBytes (crc32 body) 4).toArray⟩

/-- Bytes in stored deflate blocks, the last one marked final. -/
def storedBlocks (data : ByteArray) : ByteArray :=
  let size := data.size
  let count := max 1 ((size + 65534) / 65535)
  (List.range count).foldl (fun acc i =>
    let start := i * 65535
    let piece := data.extract start (min size (start + 65535))
    let len := piece.size
    let header : List UInt8 :=
      [if i + 1 == count then 1 else 0, (len % 256).toUInt8, (len / 256).toUInt8,
        ((65535 - len) % 256).toUInt8, ((65535 - len) / 256).toUInt8]
    acc ++ ⟨header.toArray⟩ ++ piece) ByteArray.empty

/-- A zlib stream of bytes in stored blocks. -/
def zlibStored (data : ByteArray) : ByteArray :=
  ⟨#[0x78, 0x01]⟩ ++ storedBlocks data ++ ⟨(bigEndianBytes (adler32 data) 4).toArray⟩

/-- The rows of a canvas, each led by filter byte 0. -/
def rowBytes (c : Canvas) : ByteArray :=
  (List.range c.height).foldl (fun acc y =>
    (List.range c.width).foldl (fun acc x =>
      let p := c.pixelAt x y
      acc.push p.r.toUInt8 |>.push p.g.toUInt8 |>.push p.b.toUInt8 |>.push p.a.toUInt8)
      (acc.push 0)) ByteArray.empty

/-- A canvas as a PNG file. -/
def write (c : Canvas) : ByteArray :=
  let header : ByteArray := ⟨(bigEndianBytes c.width 4 ++ bigEndianBytes c.height 4 ++ [8, 6, 0, 0, 0]).toArray⟩
  signature ++ writeChunk "IHDR" header ++ writeChunk "IDAT" (zlibStored (rowBytes c)) ++
    writeChunk "IEND" ByteArray.empty

end Theming.Picture.Png
