import Theming.Picture.Raster
import Theming.Picture.Reading

/-!
# WebP containers

A WebP file is a RIFF container: `RIFF`, the length of what follows, the form type `WEBP`, and
chunks, each an identifier, a length, the data and a pad byte after data of odd length. The
picture is in a `VP8 ` chunk (lossy), a `VP8L` chunk (lossless), or follows a `VP8X` chunk of
ten bytes that gives the canvas size; other chunks are skipped.

What this module reads is the container and the frame headers, which give the size of the
picture. Chunk lengths that run past the container or the data, and headers that are cut short
or malformed, are failures with the texts of the container reader and of the two codecs.
-/

set_option autoImplicit false

namespace Theming.Picture.Webp

/-- The failure of a file whose chunks do not make a WebP picture. -/
def invalidFormat : String := "webp: invalid format"

/-- The failure of a chunk whose data is cut short. -/
def shortChunkData : String := "riff: short chunk data"

/-- A chunk: its identifier, its declared length, and where its data starts. -/
structure Chunk where
  id : List Nat
  length : Nat
  start : Nat
  deriving Inhabited

/-- Reads the chunk headers of the container, up to the first chunk that holds a picture or a
canvas size. -/
def chunks (data : ByteArray) (pos total : Nat) : Nat → Except String Chunk
  | 0 => .error invalidFormat
  | fuel + 1 =>
    if total == 0 then .error invalidFormat
    else if total < 8 then .error "riff: short chunk header"
    else if pos + 8 > data.size then .error "riff: short chunk header"
    else
      let id := (List.range 4).map fun i => byteAt data (pos + i)
      let length := littleEndian data (pos + 4) 4
      let total := total - 8
      if length > total then .error "riff: list subchunk too long"
      else if id == [0x56, 0x50, 0x38, 0x20] || id == [0x56, 0x50, 0x38, 0x4C] ||
          id == [0x56, 0x50, 0x38, 0x58] then
        .ok { id, length, start := pos + 8 }
      else
        -- skip the data and the pad byte
        if pos + 8 + length > data.size then .error shortChunkData
        else
          let padded := length % 2 == 1
          let total := total - length
          if padded && total == 0 then .error "riff: list subchunk too long"
          else if padded && pos + 8 + length ≥ data.size then .error "riff: missing padding byte"
          else
            let next := pos + 8 + length + (if padded then 1 else 0)
            chunks data next (if padded then total - 1 else total) fuel

/-- The size given by the first picture chunk's header. -/
def frameSize (data : ByteArray) (c : Chunk) : Except String (Nat × Nat) :=
  let avail := min c.length (data.size - min c.start data.size)
  match c.id with
  | [0x56, 0x50, 0x38, 0x20] =>
    if c.length < 3 || avail < 3 then .error Shortfall.truncated.message
    else
      let b0 := byteAt data c.start
      if b0 % 2 != 0 then .error "vp8: Golden / AltRef frames are not implemented"
      else if c.length < 10 || avail < 10 then .error Shortfall.truncated.message
      else
        let p (i : Nat) : Nat := byteAt data (c.start + 3 + i)
        if p 0 != 0x9d || p 1 != 0x01 || p 2 != 0x2a then .error "vp8: invalid format"
        else .ok ((p 4 % 64) * 256 + p 3, (p 6 % 64) * 256 + p 5)
  | [0x56, 0x50, 0x38, 0x4C] =>
    if avail < 5 then .error Shortfall.truncated.message
    else
      let bits := littleEndian data c.start 5
      if bits % 256 != 0x2f then .error "vp8l: invalid header"
      else
        let width := bits / Nat.pow 2 8 % Nat.pow 2 14 + 1
        let height := bits / Nat.pow 2 22 % Nat.pow 2 14 + 1
        if bits / Nat.pow 2 37 % 8 != 0 then .error "vp8l: invalid version"
        else .ok (width, height)
  | _ =>
    if c.length != 10 then .error invalidFormat
    else if avail < 10 then .error Shortfall.truncated.message
    else .ok (littleEndian data (c.start + 4) 3 + 1, littleEndian data (c.start + 7) 3 + 1)

/-- Reads the container up to the first picture chunk. -/
def firstChunk (data : ByteArray) : Except String Chunk := do
  if data.size < 8 then throw "riff: missing RIFF chunk header"
  let total := littleEndian data 4 4
  if total < 4 then throw shortChunkData
  if data.size < 12 then throw shortChunkData
  chunks data 12 (total - 4) (data.size + 1)

/-- The size of a WebP picture. -/
def dimensions (data : ByteArray) : Except String (Nat × Nat) := do
  let c ← firstChunk data
  frameSize data c

/-- Decodes a WebP picture; the pixel data of neither codec is decoded here, so a file whose
headers are sound is reported as an unsupported feature. -/
def decode (data : ByteArray) : Except String Raster := do
  let c ← firstChunk data
  let _ ← frameSize data c
  throw "webp: unsupported feature: pixel data"

end Theming.Picture.Webp
