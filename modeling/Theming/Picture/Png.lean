import Theming.Picture.Raster
import Theming.Picture.Inflate

/-!
# PNG pictures

A PNG file is a signature followed by chunks, each a length, a four-letter type, data and a
CRC-32 of type and data. The header chunk `IHDR` comes first, then optionally a palette `PLTE`
and transparency `tRNS`, then the compressed pixel data in one or more `IDAT` chunks, and last
`IEND`. Other chunks are skipped after their checksum is checked.

The pixel data of consecutive `IDAT` chunks forms one zlib stream. The stream is read lazily:
the next chunk is only looked at (its predecessor's checksum verified, its type checked) when
the stream needs more bytes than the current chunk holds. Reading happens in buffered pieces of
at most 4096 bytes that never cross a chunk end.

Decoded rows are unfiltered (none, sub, up, average, Paeth) and turned into pixels in the
layout of the color type: gray, gray with alpha, true color with or without alpha, at 1 to 16
bits, or palette indices. A transparency chunk turns one gray level or one color transparent,
or gives palette entries alpha values. Interlaced pictures come in seven passes.

Failures carry the messages of the format: `png: invalid format: …` for malformed files and
`png: unsupported feature: …` for valid ones this decoder does not handle.
-/

set_option autoImplicit false

namespace Theming.Picture.Png

/-- A malformed file. -/
def formatError (what : String) : StreamError := .source ("png: invalid format: " ++ what)

/-- A file using something not supported. -/
def unsupported (what : String) : StreamError := .source ("png: unsupported feature: " ++ what)

/-- The eight bytes every PNG file starts with. -/
def signature : ByteArray := ⟨#[0x89, 0x50, 0x4E, 0x47, 0x0D, 0x0A, 0x1A, 0x0A]⟩

/-- The CRC-32 table of the reflected polynomial `0xEDB88320`. -/
def crcTable : Array UInt32 :=
  (List.range 256).toArray.map fun n =>
    (List.range 8).foldl (fun (c : UInt32) _ =>
      if c &&& 1 == 1 then (0xEDB88320 : UInt32) ^^^ (c >>> 1) else c >>> 1) n.toUInt32

/-- The CRC-32 of bytes. -/
def crc32 (bs : ByteArray) : Nat :=
  let c := bs.foldl (fun (c : UInt32) b =>
    crcTable.getD ((c ^^^ b.toUInt32) &&& 0xFF).toNat 0 ^^^ (c >>> 8)) 0xFFFFFFFF
  (c ^^^ 0xFFFFFFFF).toNat

/-- The letters of a chunk type. -/
def typeBytes (t : String) : ByteArray := t.toUTF8

/-- Reads `n` bytes at a position: a clean end when no byte is left, a truncation when only
some are. -/
def readAt (data : ByteArray) (pos n : Nat) : Except StreamError ByteArray :=
  if pos + n ≤ data.size then .ok (data.extract pos (pos + n))
  else if pos ≥ data.size then .error .ended
  else .error .truncated

/-- How pixels are stored: the channels of the color type. -/
inductive Channels where
  | gray
  | trueColor
  | paletted
  | grayAlpha
  | trueColorAlpha
  deriving Repr, BEq, DecidableEq, Inhabited

/-- A color type with its bit depth. -/
structure Format where
  channels : Channels
  depth : Nat
  deriving Repr, BEq, Inhabited

namespace Format

/-- The formats a file may use: gray and palette indices at 1, 2, 4 and 8 bits (gray also at
16), the others at 8 and 16 bits. -/
def ofHeader (depth colorType : Nat) : Option Format :=
  let channels? : Option Channels := match colorType with
    | 0 => some .gray
    | 2 => some .trueColor
    | 3 => some .paletted
    | 4 => some .grayAlpha
    | 6 => some .trueColorAlpha
    | _ => none
  match channels? with
  | none => none
  | some ch =>
    let ok := match ch with
      | .gray => [1, 2, 4, 8, 16].contains depth
      | .paletted => [1, 2, 4, 8].contains depth
      | _ => [8, 16].contains depth
    if ok then some ⟨ch, depth⟩ else none

/-- The number of samples of a pixel. -/
def samples (f : Format) : Nat :=
  match f.channels with
  | .gray => 1
  | .trueColor => 3
  | .paletted => 1
  | .grayAlpha => 2
  | .trueColorAlpha => 4

/-- The bits of a pixel. -/
def bitsPerPixel (f : Format) : Nat := f.samples * f.depth

end Format

/-- What the chunks have established so far. -/
structure Decoder where
  /-- How far the chunk sequence got: 0 start, 1 header, 2 palette, 3 transparency, 4 pixel
  data, 5 end. -/
  stage : Nat := 0
  format : Option Format := none
  width : Nat := 0
  height : Nat := 0
  interlaced : Bool := false
  /-- All 256 palette entries; entries past the given ones are opaque black. -/
  palette : Array Shade := Array.replicate 256 (.rgba 0 0 0 0xFF)
  /-- How many palette entries are in use. -/
  paletteSize : Nat := 0
  /-- The transparency chunk's bytes (gray level or red, green, blue, two bytes each). -/
  transparent : Array Nat := Array.replicate 6 0
  useTransparent : Bool := false
  picture : Option Raster := none
  deriving Inhabited

/-- Whether the decoder's format is one of palette indices. -/
def Decoder.paletted (d : Decoder) : Bool :=
  match d.format with
  | some f => f.channels == .paletted
  | none => false

/-- Whether the decoder's format is true color without alpha. -/
def Decoder.trueColor (d : Decoder) : Bool :=
  match d.format with
  | some f => f.channels == .trueColor
  | none => false

/-- Checks the CRC-32 stored at a position against a chunk's type and data. -/
def verify (data : ByteArray) (pos : Nat) (typeAndData : ByteArray) : Except StreamError Nat := do
  let stored ← readAt data pos 4
  if bigEndian stored != crc32 typeAndData then throw (formatError "invalid checksum")
  pure (pos + 4)

/-- A 32-bit big-endian number at a position of bytes. -/
def word (bs : ByteArray) (pos : Nat) : Nat := bigEndian (bs.extract pos (pos + 4))

/-- Reads the header chunk's data. -/
def header (data : ByteArray) (pos length : Nat) (d : Decoder) :
    Except StreamError (Decoder × Nat) := do
  if length != 13 then throw (formatError "bad IHDR length")
  let body ← readAt data pos 13
  let at_ (i : Nat) : Nat := (body.get! i).toNat
  if at_ 10 != 0 then throw (unsupported "compression method")
  if at_ 11 != 0 then throw (unsupported "filter method")
  if at_ 12 > 1 then throw (formatError "invalid interlace method")
  let w := word body 0
  let h := word body 4
  if w == 0 || h == 0 || w ≥ Nat.pow 2 31 || h ≥ Nat.pow 2 31 then throw (formatError "non-positive dimension")
  if w * h ≥ Nat.pow 2 60 then throw (unsupported "dimension overflow")
  let some format := Format.ofHeader (at_ 8) (at_ 9)
    | throw (unsupported ("bit depth " ++ toString (at_ 8) ++ ", color type " ++ toString (at_ 9)))
  let next ← verify data (pos + 13) (typeBytes "IHDR" ++ body)
  pure ({ d with format, width := w, height := h, interlaced := at_ 12 == 1 }, next)

/-- Reads the palette chunk's data: up to `2^depth` colors of three bytes, at most 256. -/
def paletteChunk (data : ByteArray) (pos length : Nat) (d : Decoder) :
    Except StreamError (Decoder × Nat) := do
  let depth := (d.format.map (·.depth)).getD 0
  let count := length / 3
  if length % 3 != 0 || count == 0 || count > 256 || count > Nat.pow 2 depth then
    throw (formatError "bad PLTE length")
  let body ← readAt data pos (3 * count)
  let channels : Option Channels := d.format.map (·.channels)
  let d ← match channels with
    | some .paletted =>
      let entries := (List.range 256).toArray.map fun i =>
        if i < count then
          .rgba (body.get! (3 * i)).toNat (body.get! (3 * i + 1)).toNat (body.get! (3 * i + 2)).toNat 0xFF
        else .rgba 0 0 0 0xFF
      pure { d with palette := entries, paletteSize := count }
    | some .trueColor => pure d
    | some .trueColorAlpha => pure d
    | _ => throw (formatError "PLTE, color type mismatch")
  let next ← verify data (pos + 3 * count) (typeBytes "PLTE" ++ body)
  pure (d, next)

/-- The gray level of a transparency chunk scaled to 8 bits for low bit depths, wrapping like a
byte. -/
def scaledGray (depth v : Nat) : Nat :=
  match depth with
  | 1 => v * 0xFF % 256
  | 2 => v * 0x55 % 256
  | 4 => v * 0x11 % 256
  | _ => v

/-- Reads the transparency chunk's data. -/
def transparency (data : ByteArray) (pos length : Nat) (d : Decoder) :
    Except StreamError (Decoder × Nat) := do
  match d.format with
  | some ⟨.gray, depth⟩ =>
    if length != 2 then throw (formatError "bad tRNS length")
    let body ← readAt data pos 2
    let t := #[(body.get! 0).toNat, scaledGray depth (body.get! 1).toNat, 0, 0, 0, 0]
    let next ← verify data (pos + 2) (typeBytes "tRNS" ++ body)
    pure ({ d with transparent := t, useTransparent := true }, next)
  | some ⟨.trueColor, _⟩ =>
    if length != 6 then throw (formatError "bad tRNS length")
    let body ← readAt data pos 6
    let next ← verify data (pos + 6) (typeBytes "tRNS" ++ body)
    pure ({ d with transparent := body.toList.toArray.map (·.toNat), useTransparent := true }, next)
  | some ⟨.paletted, _⟩ =>
    if length > 256 then throw (formatError "bad tRNS length")
    let body ← readAt data pos length
    let palette := (List.range 256).toArray.map fun i =>
      let e := d.palette.getD i (.rgba 0 0 0 0xFF)
      if i < length then
        match e with
        | .rgba r g b _ => .nrgba r g b (body.get! i).toNat
        | other => other
      else e
    let next ← verify data (pos + length) (typeBytes "tRNS" ++ body)
    pure ({ d with palette, paletteSize := max d.paletteSize length }, next)
  | _ => throw (formatError "tRNS, color type mismatch")

/-- The pixel data of consecutive `IDAT` chunks: where each chunk's data starts in the file and
how long it is. -/
structure Segments where
  starts : Array (Nat × Nat)
  deriving Inhabited

/-- Collects the stream of `IDAT` data starting with a chunk whose data begins at `pos`: the
bytes up to the first point where the next chunk cannot be reached, what reading past them
reports, and the chunks passed. -/
def idatStream (data : ByteArray) (pos length : Nat) : Source × Segments :=
  go (data.size / 12 + 2) pos length ByteArray.empty #[]
where
  /-- One chunk of data at `pos` with `length` bytes, then the step to the next chunk. -/
  go : Nat → Nat → Nat → ByteArray → Array (Nat × Nat) → Source × Segments
    | 0, _, _, acc, segs => (⟨acc, .ended⟩, ⟨segs⟩)
    | fuel + 1, pos, length, acc, segs =>
      let segs := segs.push (pos, length)
      if pos + length > data.size then
        (⟨acc ++ data.extract pos data.size, .ended⟩, ⟨segs⟩)
      else
        let body := data.extract pos (pos + length)
        let acc := acc ++ body
        match verify data (pos + length) (typeBytes "IDAT" ++ body) with
        | .error e => (⟨acc, e⟩, ⟨segs⟩)
        | .ok next =>
          match readAt data next 8 with
          | .error e => (⟨acc, e⟩, ⟨segs⟩)
          | .ok head =>
            if head.extract 4 8 != typeBytes "IDAT" then
              (⟨acc, formatError "not enough pixel data"⟩, ⟨segs⟩)
            else go fuel (next + 8) (word head 0) acc segs

/-- How many stream bytes have been pulled from the chunks once `consumed` bytes were used:
pulls happen when the buffered bytes run out, each taking at most 4096 bytes and never
crossing a chunk end. Also gives the index of the chunk of the last pull. -/
def pulled (segs : Segments) (consumed : Nat) : Nat × Nat :=
  go (consumed + segs.starts.size + 1) 0 0 0
where
  /-- Pulls from chunk `k`, whose data starts at stream offset `base`, with `p` bytes pulled. -/
  go : Nat → Nat → Nat → Nat → Nat × Nat
    | 0, p, k, _ => (p, k)
    | fuel + 1, p, k, base =>
      if p ≥ consumed then (p, k)
      else
        let len := (segs.starts.getD k (0, 0)).2
        if p < base + len then go fuel (min (p + 4096) (base + len)) k base
        else if k + 1 < segs.starts.size then go fuel p (k + 1) (base + len)
        else (p, k)

/-- The seven passes of an interlaced picture: column and row offsets and steps. -/
def passes : List (Nat × Nat × Nat × Nat) :=
  [(0, 0, 8, 8), (4, 0, 8, 8), (0, 4, 4, 8), (2, 0, 4, 4), (0, 2, 2, 4), (1, 0, 2, 2), (0, 1, 1, 2)]

/-- The Paeth predictor of the bytes to the left, above, and above-left. -/
def paeth (a b c : Nat) : Nat :=
  let pa := (Int.ofNat b - c).natAbs
  let pb := (Int.ofNat a - c).natAbs
  let pc := (Int.ofNat a + b - 2 * c).natAbs
  if pa ≤ pb && pa ≤ pc then a else if pb ≤ pc then b else c

/-- Undoes a row filter; `none` for an unknown filter type. -/
def unfilter (kind : Nat) (bpp : Nat) (cur prev : ByteArray) : Option ByteArray :=
  let n := cur.size
  let build (f : ByteArray → Nat → UInt8) : ByteArray :=
    (List.range n).foldl (fun out i => out.push (cur.get! i + f out i)) ByteArray.empty
  let left (out : ByteArray) (i : Nat) : Nat := if i ≥ bpp then (out.get! (i - bpp)).toNat else 0
  let up (i : Nat) : Nat := (prev.get! i).toNat
  let upLeft (i : Nat) : Nat := if i ≥ bpp then (prev.get! (i - bpp)).toNat else 0
  match kind with
  | 0 => some cur
  | 1 => some (build fun out i => (left out i).toUInt8)
  | 2 => some (build fun _ i => (up i).toUInt8)
  | 3 => some (build fun out i => ((left out i + up i) / 2).toUInt8)
  | 4 => some (build fun out i => (paeth (left out i) (up i) (upLeft i)).toUInt8)
  | _ => none

/-- The samples of a row: `count` samples of `depth` bits each, high bits first. -/
def samplesOf (row : ByteArray) (depth count : Nat) : Array Nat :=
  (List.range count).toArray.map fun i =>
    if depth == 16 then (row.get! (2 * i)).toNat * 256 + (row.get! (2 * i + 1)).toNat
    else if depth == 8 then (row.get! i).toNat
    else
      let bit := i * depth
      let byte := (row.get! (bit / 8)).toNat
      byte / Nat.pow 2 (8 - depth - bit % 8) % Nat.pow 2 depth

/-- The pixels of an unfiltered row, with the palette grown to cover the indices used. -/
def rowPixels (d : Decoder) (f : Format) (row : ByteArray) (width : Nat) : Array Shade × Nat :=
  let s := samplesOf row f.depth (width * f.samples)
  let t := d.transparent
  let sample (i : Nat) : Nat := s.getD i 0
  match f.channels with
  | .gray =>
    let scale := match f.depth with
      | 1 => 0xFF
      | 2 => 0x55
      | 4 => 0x11
      | _ => 1
    let px := (List.range width).toArray.map fun x =>
      let y := sample x * scale
      if f.depth == 16 then
        if d.useTransparent then .nrgba64 y y y (if y == t.getD 0 0 * 256 + t.getD 1 0 then 0 else 0xFFFF)
        else .gray16 y
      else if d.useTransparent then .nrgba y y y (if y == t.getD 1 0 then 0 else 0xFF)
      else .gray y
    (px, d.paletteSize)
  | .grayAlpha =>
    let px := (List.range width).toArray.map fun x =>
      let y := sample (2 * x)
      let a := sample (2 * x + 1)
      if f.depth == 16 then .nrgba64 y y y a else .nrgba y y y a
    (px, d.paletteSize)
  | .trueColor =>
    let px := (List.range width).toArray.map fun x =>
      let r := sample (3 * x)
      let g := sample (3 * x + 1)
      let b := sample (3 * x + 2)
      if f.depth == 16 then
        if d.useTransparent then
          let tr := t.getD 0 0 * 256 + t.getD 1 0
          let tg := t.getD 2 0 * 256 + t.getD 3 0
          let tb := t.getD 4 0 * 256 + t.getD 5 0
          .nrgba64 r g b (if r == tr && g == tg && b == tb then 0 else 0xFFFF)
        else .rgba64 r g b 0xFFFF
      else if d.useTransparent then
        .nrgba r g b (if r == t.getD 1 0 && g == t.getD 3 0 && b == t.getD 5 0 then 0 else 0xFF)
      else .rgba r g b 0xFF
    (px, d.paletteSize)
  | .trueColorAlpha =>
    let px := (List.range width).toArray.map fun x =>
      let r := sample (4 * x)
      let g := sample (4 * x + 1)
      let b := sample (4 * x + 2)
      let a := sample (4 * x + 3)
      if f.depth == 16 then .nrgba64 r g b a else .nrgba r g b a
    (px, d.paletteSize)
  | .paletted =>
    let idx := (List.range width).map sample
    let size := idx.foldl (fun m i => max m (i + 1)) d.paletteSize
    (idx.toArray.map fun i => d.palette.getD i (.rgba 0 0 0 0xFF), size)

/-- The layout of a decoded picture of a format. -/
def layoutOf (d : Decoder) (f : Format) : Layout :=
  match f.channels, f.depth == 16 with
  | .gray, false => if d.useTransparent then .nrgba else .gray
  | .gray, true => if d.useTransparent then .nrgba64 else .gray16
  | .trueColor, false => if d.useTransparent then .nrgba else .rgba
  | .trueColor, true => if d.useTransparent then .nrgba64 else .rgba64
  | .paletted, _ => .paletted
  | _, false => .nrgba
  | _, true => .nrgba64

/-- The message for pixel rows that cannot be read: running out is "not enough pixel data",
other failures stand as they are. -/
def shortRows (failure : Option StreamError) : StreamError :=
  match failure with
  | none => formatError "not enough pixel data"
  | some .ended => formatError "not enough pixel data"
  | some .truncated => formatError "not enough pixel data"
  | some e => e

/-- Reads the rows of one pass from the decompressed data at an offset: its pixels (row by
row), the grown palette size and the offset after it. -/
def readPass (d : Decoder) (f : Format) (z : Inflated) (offset width height : Nat) (paletteSize : Nat) :
    Except StreamError (Array Shade × Nat × Nat) :=
  let bpp := (f.bitsPerPixel + 7) / 8
  let rowBytes := (f.bitsPerPixel * width + 7) / 8
  let step (acc : Except StreamError (Array Shade × Nat × Nat × ByteArray)) (_ : Nat) :
      Except StreamError (Array Shade × Nat × Nat × ByteArray) := do
    let (px, size, off, prev) ← acc
    if off + 1 + rowBytes > z.data.size then throw (shortRows z.failure)
    let kind := (z.data.get! off).toNat
    let cur := z.data.extract (off + 1) (off + 1 + rowBytes)
    let some row := unfilter kind bpp cur prev | throw (formatError "bad filter type")
    let (rowPx, size') := rowPixels { d with paletteSize := size } f row width
    pure (px ++ rowPx, size', off + 1 + rowBytes, row)
  let init : Except StreamError (Array Shade × Nat × Nat × ByteArray) :=
    .ok (#[], paletteSize, offset, ⟨Array.replicate rowBytes 0⟩)
  ((List.range height).foldl step init).map fun (px, size, off, _) => (px, size, off)

/-- Decodes the pixel rows of all passes. -/
def readRows (d : Decoder) (f : Format) (z : Inflated) : Except StreamError (Raster × Nat) := do
  let w := d.width
  let h := d.height
  if !d.interlaced then
    let (px, size, off) ← readPass d f z 0 w h d.paletteSize
    let _ := size
    pure (⟨w, h, layoutOf d f, px⟩, off)
  else
    let start : Except StreamError (Array (Nat × Shade) × Nat × Nat) := .ok (#[], d.paletteSize, 0)
    let (placed, _, off) ← passes.foldl (fun acc (xo, yo, xs, ys) => do
      let (placed, size, off) ← acc
      let pw := (w + xs - 1 - xo) / xs
      let ph := (h + ys - 1 - yo) / ys
      if pw == 0 || ph == 0 then pure (placed, size, off)
      else
        let (px, size, off) ← readPass d f z off pw ph size
        let spots := (List.range (pw * ph)).toArray.map fun k =>
          ((yo + k / pw * ys) * w + xo + k % pw * xs, px.getD k default)
        pure (placed ++ spots, size, off)) start
    let blank : Shade := match layoutOf d f with
      | .gray => .gray 0
      | .gray16 => .gray16 0
      | .rgba => .rgba 0 0 0 0
      | .rgba64 => .rgba64 0 0 0 0
      | .nrgba => .nrgba 0 0 0 0
      | .nrgba64 => .nrgba64 0 0 0 0
      | .paletted => d.palette.getD 0 (.rgba 0 0 0 0xFF)
    let px := placed.foldl (fun a (i, s) => a.setIfInBounds i s) (Array.replicate (w * h) blank)
    pure (⟨w, h, layoutOf d f, px⟩, off)

/-- Decodes the pixel data that starts with an `IDAT` chunk at `pos` (its data) of `length`
bytes; gives the picture and the file position after the chunk where the stream ended. -/
def pixelData (data : ByteArray) (pos length : Nat) (d : Decoder) :
    Except StreamError (Raster × Nat × ByteArray) := do
  let some f := d.format | throw (formatError "chunk out of order")
  let (src, segs) := idatStream data pos length
  let z ← unzlib src
  let (pic, used) ← readRows d f z
  if z.data.size > used then throw (formatError "too much pixel data")
  match z.failure with
  | some e => throw (.source ("png: invalid format: " ++ e.message))
  | none => pure ()
  let (p, k) := pulled segs z.consumed
  let starts := segs.starts
  let base := (starts.extract 0 k).foldl (fun s (_, len) => s + len) 0
  let (chunkPos, chunkLen) := starts.getD k (0, 0)
  if p < base + chunkLen then throw (formatError "too much pixel data")
  pure (pic, chunkPos + chunkLen, typeBytes "IDAT" ++ data.extract chunkPos (chunkPos + chunkLen))

/-- Skips a chunk of another type after checking its checksum. -/
def skip (data : ByteArray) (pos length : Nat) (kind : ByteArray) : Except StreamError Nat := do
  if length > 0x7FFFFFFF then throw (formatError ("Bad chunk length: " ++ toString length))
  let body ← readAt data pos length
  verify data (pos + length) (kind ++ body)

/-- Reads one chunk at `pos`. With `configOnly`, pixel data is not decoded. -/
def chunk (data : ByteArray) (pos : Nat) (d : Decoder) (configOnly : Bool) :
    Except StreamError (Decoder × Nat) := do
  let head ← readAt data pos 8
  let length := word head 0
  let kind := head.extract 4 8
  let body := pos + 8
  let order : StreamError := formatError "chunk out of order"
  if kind == typeBytes "IHDR" then
    if d.stage != 0 then throw order
    header data body length { d with stage := 1 }
  else if kind == typeBytes "PLTE" then
    if d.stage != 1 then throw order
    paletteChunk data body length { d with stage := 2 }
  else if kind == typeBytes "tRNS" then
    let allowed : Bool :=
      if d.paletted then d.stage == 2
      else if d.trueColor then d.stage == 1 || d.stage == 2
      else d.stage == 1
    if !allowed then throw order
    transparency data body length { d with stage := 3 }
  else if kind == typeBytes "IDAT" && d.stage != 4 then
    if d.stage < 1 || (d.stage == 1 && d.paletted) then throw order
    if configOnly then pure ({ d with stage := 4 }, body)
    else
      let (pic, next, typeAndData) ← pixelData data body length { d with stage := 4 }
      let next ← verify data next typeAndData
      pure ({ d with stage := 4, picture := some pic }, next)
  else if kind == typeBytes "IEND" then
    if d.stage != 4 then throw order
    if length != 0 then throw (formatError "bad IEND length")
    let next ← verify data body (typeBytes "IEND")
    pure ({ d with stage := 5 }, next)
  else
    let next ← skip data body length kind
    pure (d, next)

/-- Chunks from `pos` until `done` holds. -/
def chunks (data : ByteArray) (configOnly : Bool) (done : Decoder → Bool) :
    Nat → Nat → Decoder → Except StreamError Decoder
  | 0, _, d => pure d
  | fuel + 1, pos, d => do
    let (d, next) ← chunk data pos d configOnly
    if done d then pure d else chunks data configOnly done fuel next d

/-- The message of a failure, with a clean end reported as a truncation. -/
def failureText (e : StreamError) : String := e.midway.message

/-- Checks the signature. -/
def checkSignature (data : ByteArray) : Except StreamError Unit := do
  let head ← readAt data 0 8
  if head != signature then throw (formatError "not a PNG file")

/-- Decodes a PNG file. -/
def decode (data : ByteArray) : Except String Raster :=
  let run : Except StreamError Raster := do
    checkSignature data
    let d ← chunks data false (·.stage == 5) (data.size / 12 + 2) 8 {}
    match d.picture with
    | some p => pure p
    | none => throw (formatError "chunk out of order")
  run.mapError failureText

/-- The width and height of a PNG file, read from its first chunks: past the header, and for
palette pictures up to the transparency or pixel data. -/
def dimensions (data : ByteArray) : Except String (Nat × Nat) :=
  let run : Except StreamError (Nat × Nat) := do
    checkSignature data
    let d ← chunks data true (fun d => if d.paletted then d.stage ≥ 3 else d.stage ≥ 1)
      (data.size / 12 + 2) 8 {}
    pure (d.width, d.height)
  run.mapError failureText

end Theming.Picture.Png
