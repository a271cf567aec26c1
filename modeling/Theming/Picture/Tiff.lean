import Theming.Picture.Raster
import Theming.Picture.Reading

/-!
# TIFF pictures

A TIFF file starts with a byte order mark (`II*\0` for little-endian, `MM\0*` for big-endian)
and the offset of its first directory. A directory is a count of 12-byte entries, each a tag, a
data type, a count and either the values themselves (when they fit in four bytes) or their
offset. Tags must come in ascending order.

The directory gives the size, the bits per sample (1, 8 or 16; one sample by default), the
photometric interpretation (white or black is zero, RGB with an optional alpha sample, or a
palette from the color map), and the strips or tiles holding the rows, with an optional
horizontal predictor.

The data is read as a stream that is kept as it is read. A read past its end fails with `EOF`
when everything had already been read, and `unexpected EOF` when the read found part of what it
needed; the header's own first read fails only with `unexpected EOF`.
-/

set_option autoImplicit false

namespace Theming.Picture.Tiff

/-- A failure of a file that is not valid TIFF. -/
def formatError (what : String) : String := "tiff: invalid format: " ++ what

/-- A failure of a valid file using a feature not supported. -/
def unsupported (what : String) : String := "tiff: unsupported feature: " ++ what

/-- Reading with a record of how much of the stream has been read. -/
abbrev Load := StateT Nat (Except String)

/-- Reads `n` bytes at an offset, after `seen` bytes of the stream have been read. The stream is
read up to the end of the run; a run past its end fails as `ended` when nothing more could be
read, else as `truncated`, and everything has then been read. -/
def runAt (data : ByteArray) (off n seen : Nat) : Except Shortfall (ByteArray × Nat) :=
  let stop := off + n
  if stop ≤ seen || stop ≤ data.size then .ok (data.extract off stop, max seen stop)
  else if seen ≥ data.size then .error .ended
  else .error .truncated

/-- Reads `n` bytes at an offset, failing with the text of the shortfall. -/
def readAt (data : ByteArray) (off n : Nat) : Load ByteArray := fun seen =>
  (runAt data off n seen).mapError Shortfall.message

/-- Reads `n` bytes at an offset, where an empty run never fails for lack of data. -/
def readRunAt (data : ByteArray) (off n : Nat) : Load ByteArray := fun seen =>
  match runAt data off n seen with
  | .ok r => .ok r
  | .error .ended => if n == 0 then .ok (ByteArray.empty, seen) else .error Shortfall.ended.message
  | .error .truncated => .error Shortfall.truncated.message

/-- The byte sizes of the data types, by their number. -/
def typeSizes : List Nat := [0, 1, 1, 2, 4, 8]

/-- What the directory says. -/
structure Directory where
  littleFirst : Bool
  features : List (Nat × List Nat)
  palette : Array Shade
  deriving Inhabited

namespace Directory

/-- The values of a tag; none when the directory lacks it. -/
def values (d : Directory) (tag : Nat) : List Nat := (d.features.lookup tag).getD []

/-- The first value of a tag, zero when the directory lacks it. -/
def first (d : Directory) (tag : Nat) : Nat := (d.values tag).headD 0

end Directory

/-- The tags whose values are kept. -/
def keptTags : List Nat :=
  [258, 338, 262, 259, 317, 273, 279, 278, 322, 323, 324, 325, 257, 256, 266, 292, 293]

/-- The unsigned values of a directory entry of type byte, short or long. -/
def entryValues (data : ByteArray) (little : Bool) (e : ByteArray) : Load (List Nat) := do
  let kind := numberAt little e 2 2
  if kind == 0 || kind ≥ typeSizes.length then throw (unsupported "IFD entry datatype")
  let size := typeSizes.getD kind 0
  let count := numberAt little e 4 4
  if count > (Nat.pow 2 31 - 1) / size then throw (formatError "IFD data too large")
  let len := size * count
  let raw ← if len > 4 then readRunAt data (numberAt little e 8 4) len
    else pure (e.extract 8 (8 + len))
  match kind with
  | 1 => pure ((List.range count).map fun i => byteAt raw i)
  | 3 => pure ((List.range count).map fun i => numberAt little raw (2 * i) 2)
  | 4 => pure ((List.range count).map fun i => numberAt little raw (4 * i) 4)
  | _ => throw (unsupported "data type")

/-- Takes in one directory entry; gives its tag. -/
def entry (data : ByteArray) (d : Directory) (e : ByteArray) : Load (Nat × Directory) := do
  let little := d.littleFirst
  let tag := numberAt little e 0 2
  if keptTags.contains tag then
    let vals ← entryValues data little e
    pure (tag, { d with features := (tag, vals) :: d.features.filter (·.1 != tag) })
  else if tag == 320 then
    let vals ← entryValues data little e
    let n := vals.length / 3
    if vals.length % 3 != 0 || n == 0 || n > 256 then throw (formatError "bad ColorMap length")
    let palette := (List.range n).toArray.map fun i =>
      Shade.rgba64 (vals.getD i 0 % 65536) (vals.getD (i + n) 0 % 65536)
        (vals.getD (i + 2 * n) 0 % 65536) 65535
    pure (tag, { d with palette })
  else if tag == 339 then
    let vals ← entryValues data little e
    if vals.any (· != 1) then throw (unsupported "sample format")
    pure (tag, d)
  else pure (tag, d)

/-- Takes in directory entries in order, checking that tags ascend. -/
def entries (data : ByteArray) (raw : ByteArray) : Nat → Nat → Int → Directory → Load Directory
  | 0, _, _, d => pure d
  | n + 1, i, previous, d => do
    let (tag, d) ← entry data d (raw.extract (12 * i) (12 * i + 12))
    if (tag : Int) ≤ previous then throw (formatError "tags are not sorted in ascending order")
    entries data raw n (i + 1) tag d

/-- How pixels are stored. -/
inductive Mode where
  | paletted
  | gray
  | grayInvert
  | rgb
  | rgba
  | nrgba
  deriving Repr, BEq, DecidableEq, Inhabited

/-- Everything the pixel decoding needs from the header. -/
structure Header where
  dir : Directory
  width : Nat
  height : Nat
  depth : Nat
  mode : Mode
  deriving Inhabited

/-- Reads the byte order mark and the first directory. -/
def header (data : ByteArray) : Load Header := do
  let p ← fun seen => (runAt data 0 8 seen).mapError fun _ => Shortfall.truncated.message
  let mark := (List.range 4).map fun i => byteAt p i
  let little ← if mark == [0x49, 0x49, 0x2A, 0x00] then pure true
    else if mark == [0x4D, 0x4D, 0x00, 0x2A] then pure false
    else throw (formatError "malformed header")
  let ifd := numberAt little p 4 4
  let count ← readAt data ifd 2
  let n := numberAt little count 0 2
  let raw ← readRunAt data (ifd + 2) (12 * n)
  let dir ← entries data raw n 0 (-1) { littleFirst := little, features := [], palette := #[] }
  let dir := if (dir.features.lookup 258).isNone then
      { dir with features := (258, [1]) :: dir.features } else dir
  let depth := dir.first 258
  if depth == 0 then throw (formatError "BitsPerSample must not be 0")
  if depth != 1 && depth != 8 && depth != 16 then
    throw (unsupported ("BitsPerSample of " ++ toString depth))
  let samples := dir.values 258
  let photometric := dir.first 262
  let mode ← match photometric with
    | 2 => do
      let want := if depth == 16 then 16 else 8
      if samples.any (· != want) then
        throw (formatError ("wrong number of samples for " ++ toString want ++ "bit RGB"))
      match samples.length with
      | 3 => pure Mode.rgb
      | 4 => match dir.first 338 with
        | 1 => pure Mode.rgba
        | 2 => pure Mode.nrgba
        | _ => throw (formatError "wrong number of samples for RGB")
      | _ => throw (formatError "wrong number of samples for RGB")
    | 3 => pure Mode.paletted
    | 0 => pure Mode.grayInvert
    | 1 => pure Mode.gray
    | _ => throw (unsupported "color model")
  if photometric != 2 && samples.length != 1 then throw (unsupported "extra samples")
  pure { dir, width := dir.first 256, height := dir.first 257, depth, mode }

/-- The shade of an unwritten pixel. -/
def Header.blank (h : Header) : Shade :=
  match h.mode with
  | .gray | .grayInvert => if h.depth == 16 then .gray16 0 else .gray 0
  | .paletted => h.dir.palette.getD 0 (.rgba 0 0 0 0)
  | .rgb | .rgba => if h.depth == 16 then .rgba64 0 0 0 0 else .rgba 0 0 0 0
  | .nrgba => if h.depth == 16 then .nrgba64 0 0 0 0 else .nrgba 0 0 0 0

/-- The storage layout of a header's pixels. -/
def Header.layout (h : Header) : Layout :=
  match h.mode with
  | .gray | .grayInvert => if h.depth == 16 then .gray16 else .gray
  | .paletted => .paletted
  | .rgb | .rgba => if h.depth == 16 then .rgba64 else .rgba
  | .nrgba => if h.depth == 16 then .nrgba64 else .nrgba

/-- The failure of a block with too few bytes. -/
def noPixels : String := formatError "not enough pixel data"

/-- Undoes the horizontal predictor on a block's bytes. -/
def unpredict (h : Header) (buf : ByteArray) (blockWidth blockHeight : Nat) :
    Except String ByteArray := do
  let n := h.dir.values 258 |>.length
  if h.depth == 8 then
    let per := (blockWidth - 1) * n
    let rec bytePass : Nat → Nat → ByteArray → Except String ByteArray
      | 0, _, b => .ok b
      | k + 1, off, b => do
        let off := off + n
        let b ← (List.range per).foldlM (fun (b : ByteArray) i =>
          if off + i ≥ b.size then .error noPixels
          else .ok (b.set! (off + i) (b.get! (off + i) + b.get! (off + i - n)))) b
        bytePass k (off + per) b
    bytePass blockHeight 0 buf
  else if h.depth == 16 then
    let n := 2 * n
    let per := (blockWidth - 1) * n / 2
    let little := h.dir.littleFirst
    let rec wordPass : Nat → Nat → ByteArray → Except String ByteArray
      | 0, _, b => .ok b
      | k + 1, off, b => do
        let off := off + n
        let b ← (List.range per).foldlM (fun (b : ByteArray) i =>
          let q := off + 2 * i
          if q + 2 > b.size then .error noPixels
          else
            let v := (numberAt little b q 2 + numberAt little b (q - n) 2) % 65536
            let (lo, hi) := (v % 256, v / 256)
            let (x0, x1) := if little then (lo, hi) else (hi, lo)
            .ok ((b.set! q x0.toUInt8).set! (q + 1) x1.toUInt8)) b
        wordPass k (off + 2 * per) b
    wordPass blockHeight 0 buf
  else throw (unsupported "horizontal predictor with 1 BitsPerSample")

/-- Reads up to `count` samples of a few bits at a byte position, most significant bit first;
gives the samples whose bytes are all there, and the position after the row. -/
def bitSamples (buf : ByteArray) (depth : Nat) (start count : Nat) : List Nat × Nat :=
  let avail := min count ((buf.size - start) * 8 / depth)
  let vals := (List.range avail).map fun i =>
    let bit := start * 8 + i * depth
    (List.range depth).foldl (fun acc k =>
      let p := bit + k
      acc * 2 + byteAt buf (p / 8) / Nat.pow 2 (7 - p % 8) % 2) 0
  (vals, start + (count * depth + 7) / 8)

/-- Decodes a block's bytes into the pixels it covers. -/
def block (h : Header) (buf : ByteArray) (img : Array Shade) (xmin ymin xmax ymax : Nat) :
    Except String (Array Shade) := do
  let buf ← if h.dir.first 317 == 2 then unpredict h buf (xmax - xmin) (ymax - ymin) else pure buf
  let rmaxX := min xmax h.width
  let rmaxY := min ymax h.height
  let little := h.dir.littleFirst
  let put (img : Array Shade) (x y : Nat) (s : Shade) : Array Shade := img.set! (y * h.width + x) s
  let cols := rmaxX - xmin
  let rowsN := rmaxY - ymin
  if h.mode == .rgb || h.mode == .rgba || h.mode == .nrgba then
    let channels := if h.mode == .rgb then 3 else 4
    if h.depth == 16 then
      let per := 2 * channels
      let rec deepRows : Nat → Nat → Nat → Array Shade → Except String (Array Shade)
        | 0, _, _, img => .ok img
        | k + 1, y, off, img => do
          if off + per * cols > buf.size then throw noPixels
          let img := (List.range cols).foldl (fun img i =>
            let q := off + per * i
            let c (j : Nat) : Nat := numberAt little buf (q + 2 * j) 2
            let s := match h.mode with
              | .rgb => Shade.rgba64 (c 0) (c 1) (c 2) 65535
              | .rgba => Shade.rgba64 (c 0) (c 1) (c 2) (c 3)
              | _ => Shade.nrgba64 (c 0) (c 1) (c 2) (c 3)
            put img (xmin + i) y s) img
          deepRows k (y + 1) (off + per * cols) img
      deepRows rowsN ymin 0 img
    else
      let rowBytes := (xmax - xmin) * channels
      let rec byteRows : Nat → Nat → Array Shade → Except String (Array Shade)
        | 0, _, img => .ok img
        | k + 1, y, img => do
          let off := (y - ymin) * rowBytes
          let need := if h.mode == .rgb then off + 3 * cols else off + rowBytes
          if need > buf.size then throw noPixels
          let img := (List.range cols).foldl (fun img i =>
            let q := off + channels * i
            let c (j : Nat) : Nat := byteAt buf (q + j)
            let s := match h.mode with
              | .rgb => Shade.rgba (c 0) (c 1) (c 2) 255
              | .rgba => Shade.rgba (c 0) (c 1) (c 2) (c 3)
              | _ => Shade.nrgba (c 0) (c 1) (c 2) (c 3)
            put img (xmin + i) y s) img
          byteRows k (y + 1) img
      byteRows rowsN ymin img
  else
    if h.depth == 16 && h.mode != .paletted then
      let step := if rmaxX == h.width then 2 * (xmax - h.width) else 0
      let rec grayWords : Nat → Nat → Nat → Array Shade → Except String (Array Shade)
        | 0, _, _, img => .ok img
        | k + 1, y, off, img => do
          if off + 2 * cols > buf.size then throw noPixels
          let img := (List.range cols).foldl (fun img i =>
            let v := numberAt little buf (off + 2 * i) 2
            let v := if h.mode == .grayInvert then 65535 - v else v
            put img (xmin + i) y (.gray16 v)) img
          grayWords k (y + 1) (off + 2 * cols + step) img
      grayWords rowsN ymin 0 img
    else
      let maxV := Nat.pow 2 h.depth - 1
      let rec bitRows : Nat → Nat → Nat → Array Shade → Except String (Array Shade)
        | 0, _, _, img => .ok img
        | k + 1, y, off, img => do
          let (vals, off) := bitSamples buf h.depth off cols
          let img ← vals.zipIdx.foldlM (fun img (v, i) =>
            match h.mode with
            | .paletted =>
              let idx := v % 256
              if idx ≥ h.dir.palette.size then .error (formatError "invalid color index")
              else .ok (put img (xmin + i) y (h.dir.palette.getD idx (.rgba 0 0 0 0)))
            | _ =>
              let g := v * 255 / maxV
              let g := if h.mode == .grayInvert then 255 - g else g
              .ok (put img (xmin + i) y (.gray g))) img
          if vals.length < cols then throw noPixels
          bitRows k (y + 1) off img
      bitRows rowsN ymin 0 img

/-- Decodes a TIFF file. -/
def decode (data : ByteArray) : Except String Raster :=
  (do
    let h ← header data
    let tiled := h.dir.first 322 != 0
    let (bw, bh) := if tiled then (h.dir.first 322, h.dir.first 323)
      else (h.width, if h.dir.first 278 != 0 then h.dir.first 278 else h.height)
    if tiled && (bw < 8 || bh < 8) then throw (formatError "tile size is too small")
    let across := if h.width == 0 then 0 else if tiled then (h.width + bw - 1) / bw else 1
    let down := if h.height == 0 then 0 else if bh != 0 then (h.height + bh - 1) / bh else 1
    let offsets := h.dir.values (if tiled then 324 else 273)
    let counts := h.dir.values (if tiled then 325 else 279)
    if offsets.length < across * down || counts.length < across * down then
      throw (formatError "inconsistent header")
    let img := Array.replicate (h.width * h.height) h.blank
    let blocks := (List.range across).flatMap fun i => (List.range down).map fun j => (i, j)
    let img ← blocks.foldlM (fun img (i, j) => do
      let w := if !tiled && i + 1 == across && h.width % bw != 0 then h.width % bw else bw
      let hgt := if !tiled && j + 1 == down && h.height % bh != 0 then h.height % bh else bh
      let k := j * across + i
      let buf ← match h.dir.first 259 with
        | 0 | 1 => readAt data (offsets.getD k 0) (counts.getD k 0)
        | c => throw (unsupported ("compression value " ++ toString c))
      StateT.lift (block h buf img (i * bw) (j * bh) (i * bw + w) (j * bh + hgt))) img
    pure ({ width := h.width, height := h.height, layout := h.layout, pixels := img } : Raster)).run' 0

/-- The size a TIFF file's directory gives. -/
def dimensions (data : ByteArray) : Except String (Nat × Nat) :=
  (do
    let h ← header data
    pure (h.width, h.height)).run' 0

end Theming.Picture.Tiff
