import Theming.Picture.Raster
import Theming.Picture.Reading
import Theming.Text.Quoted

/-!
# GIF pictures

A GIF file is a six-byte version (`GIF87a` or `GIF89a`), a logical screen (width, height and an
optional global palette), and then blocks: extensions (`0x21`), images (`0x2C`) and the trailer
(`0x3B`). The picture is the first image; reading stops right after it.

An image has a frame inside the screen, its own palette or the global one, and its palette
indices compressed with variable-width LZW codes, least significant bit first, spread over
sub-blocks of at most 255 bytes that end with an empty one. A graphic control extension before
an image may name a transparent index, whose palette entry becomes clear (the palette grows
to hold the index when it is too short).

The index stream must hold exactly one index per pixel: fewer is "not enough image data", and
more is "too much image data". The code stream may end with its end code or simply where the
sub-blocks end, and at most one sub-block's worth of bytes may follow the codes before the empty
sub-block. Indices must lie inside a palette of fewer than 256 entries. Interlaced images store
every eighth row from row 0, then every eighth from row 4, every fourth from row 2 and every
second from row 1.

The size of a GIF picture is the size of its logical screen.
-/

set_option autoImplicit false

namespace Theming.Picture.Gif

open Theming.Text

/-- A failure text of the GIF decoder. -/
def failure (what : String) : String := "gif: " ++ what

/-- A byte written as `0x` and two hex digits. -/
def byteHex (n : Nat) : String := "0x" ++ String.ofList (Quoted.hexDigits 2 n)

/-- Sequential reading with a failure text. -/
abbrev Scan := StateT Nat (Except String)

/-- Reads a run of bytes; any shortfall is an unexpected end, reported after `context`. -/
def take (data : ByteArray) (n : Nat) (context : String) : Scan ByteArray := fun pos =>
  match readRun data pos n with
  | .ok bs => .ok (bs, pos + n)
  | .error _ => .error (failure (context ++ "unexpected EOF"))

/-- Reads one byte. -/
def takeByte (data : ByteArray) (context : String) : Scan Nat := do
  let bs ← take data 1 context
  pure (byteAt bs 0)

/-- The logical screen: its size and its global palette, if it has one. -/
structure Screen where
  width : Nat
  height : Nat
  palette : Option (Array Shade)
  deriving Inhabited

/-- A palette of `2^(1+k)` opaque colors, where `k` is the low three bits of `fields`. -/
def colorTable (data : ByteArray) (fields : Nat) : Scan (Array Shade) := do
  let n := Nat.pow 2 (1 + fields % 8)
  let bs ← take data (3 * n) "reading color table: "
  pure ((List.range n).toArray.map fun i =>
    Shade.rgba (byteAt bs (3 * i)) (byteAt bs (3 * i + 1)) (byteAt bs (3 * i + 2)) 255)

/-- Reads the version and the logical screen. -/
def screen (data : ByteArray) : Scan Screen := do
  let h ← take data 13 "reading header: "
  let version := h.extract 0 6
  if version.toList != "GIF87a".toUTF8.toList && version.toList != "GIF89a".toUTF8.toList then
    throw (failure ("can't recognize format " ++ Quoted.quoteBytes version.toList))
  let width := littleEndian h 6 2
  let height := littleEndian h 8 2
  let fields := byteAt h 10
  if fields / 128 % 2 == 1 then
    let palette ← colorTable data fields
    pure { width, height, palette := some palette }
  else pure { width, height, palette := none }

/-- Skips data sub-blocks up to the empty one. -/
def skipSubBlocks (data : ByteArray) : Nat → Scan Unit
  | 0 => pure ()
  | fuel + 1 => do
    let n ← takeByte data "reading extension: "
    if n == 0 then pure ()
    else
      let _ ← take data n "reading extension: "
      skipSubBlocks data fuel

/-- Reads a graphic control extension; gives the transparent index it names, if any. -/
def graphicControl (data : ByteArray) (transparent : Option Nat) : Scan (Option Nat) := do
  let bs ← take data 6 "can't read graphic control: "
  if byteAt bs 0 != 4 then
    throw (failure ("invalid graphic control extension block size: " ++ toString (byteAt bs 0)))
  let transparent := if byteAt bs 1 % 2 == 1 then some (byteAt bs 4) else transparent
  if byteAt bs 5 != 0 then
    throw (failure ("invalid graphic control extension block terminator: " ++ toString (byteAt bs 5)))
  pure transparent

/-- Reads an extension after its introducer; keeps track of the transparent index. -/
def extension (data : ByteArray) (transparent : Option Nat) : Scan (Option Nat) := do
  let kind ← takeByte data "reading extension: "
  let fuel := data.size + 1
  match kind with
  | 0x01 =>
    let _ ← take data 13 "reading extension: "
    skipSubBlocks data fuel
    pure transparent
  | 0xF9 => graphicControl data transparent
  | 0xFE =>
    skipSubBlocks data fuel
    pure transparent
  | 0xFF =>
    let size ← takeByte data "reading extension: "
    let _ ← take data size "reading extension: "
    skipSubBlocks data fuel
    pure transparent
  | k => throw (failure ("unknown extension " ++ byteHex k))

/-! ## Sub-blocks and codes -/

/-- Whether a sequence of sub-blocks is still being read, has met its empty sub-block, or ran
out of data. -/
inductive BlockState where
  | reading
  | terminated
  | broken
  deriving Repr, BEq, DecidableEq, Inhabited

/-- A reader of data sub-blocks: the file position after the current sub-block, the bytes
left in it, its size, and the state of the sequence. -/
structure Blocks where
  pos : Nat
  left : Nat
  size : Nat
  state : BlockState
  deriving Inhabited

namespace Blocks

/-- Moves to the next sub-block, unless the sequence is over. -/
def advance (data : ByteArray) (b : Blocks) : Blocks :=
  if b.state != .reading then b
  else match data[b.pos]? with
    | none => { b with size := 0, state := .broken }
    | some n =>
      if n == 0 then { b with pos := b.pos + 1, size := 0, state := .terminated }
      else if b.pos + 1 + n.toNat ≤ data.size then
        { pos := b.pos + 1 + n.toNat, left := n.toNat, size := n.toNat, state := .reading }
      else { pos := data.size, left := 0, size := 0, state := .broken }

/-- The next byte of the sequence, moving to the next sub-block when the current one is used
up; `none` once the sequence is over. -/
def next (data : ByteArray) (b : Blocks) : Option Nat × Blocks :=
  let b := if b.left == 0 then b.advance data else b
  if b.state == .reading then (some (byteAt data (b.pos - b.left)), { b with left := b.left - 1 })
  else (none, b)

/-- The check after the codes: a sequence that ran out of data fails; otherwise what follows
the codes must end at the next sub-block, except that after a used-up sub-block one more
sub-block of a single byte is allowed. -/
def close (data : ByteArray) (b : Blocks) : Except String Unit :=
  let broken : Except String Unit := .error (failure "reading image data: unexpected EOF")
  let tooMuch : Except String Unit := .error (failure "too much image data")
  let last (b : Blocks) : Except String Unit :=
    let b := b.advance data
    match b.state with
    | .terminated => .ok ()
    | .broken => broken
    | .reading => tooMuch
  match b.state with
  | .terminated => .ok ()
  | .broken => broken
  | .reading =>
    if b.left == 0 then
      let b := b.advance data
      match b.state with
      | .terminated => .ok ()
      | .broken => broken
      | .reading => if b.size > 1 then tooMuch else last b
    else last b

end Blocks

/-- Why a code stream stopped. -/
inductive Stop where
  /-- The end code. -/
  | endCode
  /-- The sub-blocks ran out before an end code. -/
  | dataEnded
  /-- A code that is not yet defined. -/
  | invalidCode
  deriving Repr, BEq, DecidableEq, Inhabited

/-- The state of an LZW decoder: the literal width, the bit buffer and its count, the code
width, the next code to define, the code at which the width grows, the previous code, and for
each defined code its last byte and the code of the bytes before it. -/
structure Lzw where
  literalWidth : Nat
  bits : Nat
  count : Nat
  width : Nat
  hi : Nat
  overflow : Nat
  last : Option Nat
  tails : Array Nat
  parents : Array Nat
  deriving Inhabited

/-- What one code gives. -/
inductive Step where
  /-- Bytes of output. -/
  | emit (bytes : List Nat)
  /-- The clear code, which resets the table. -/
  | reset
  /-- The end of the stream. -/
  | stop (why : Stop)

namespace Lzw

/-- The widest code. -/
def maxWidth : Nat := 12

/-- A fresh decoder for a literal width. -/
def start (literalWidth : Nat) : Lzw :=
  { literalWidth, bits := 0, count := 0, width := literalWidth + 1, hi := Nat.pow 2 literalWidth + 1,
    overflow := Nat.pow 2 (literalWidth + 1), last := none,
    tails := Array.replicate (Nat.pow 2 maxWidth) 0, parents := Array.replicate (Nat.pow 2 maxWidth) 0 }

/-- The clear code. -/
def clear (z : Lzw) : Nat := Nat.pow 2 z.literalWidth

/-- Fills the bit buffer up to the code width; `none` once the sub-blocks are over. -/
def pull (data : ByteArray) : Nat → Lzw → Blocks → Option Lzw × Blocks
  | 0, z, b => (some z, b)
  | fuel + 1, z, b =>
    if z.count ≥ z.width then (some z, b)
    else match b.next data with
      | (none, b) => (none, b)
      | (some x, b) => pull data fuel { z with bits := z.bits + (x <<< z.count), count := z.count + 8 } b

/-- The first byte of a code's bytes. -/
def head (z : Lzw) : Nat → Nat → Nat
  | 0, c => c
  | fuel + 1, c => if c ≥ z.clear then z.head fuel (z.parents.getD c 0) else c

/-- The bytes of a code, put in front of `acc`, with the first of them. -/
def spell (z : Lzw) : Nat → Nat → List Nat → List Nat × Nat
  | 0, c, acc => (c :: acc, c)
  | fuel + 1, c, acc =>
    if c ≥ z.clear then z.spell fuel (z.parents.getD c 0) (z.tails.getD c 0 :: acc) else (c :: acc, c)

/-- The bytes of a defined code, with the first of them. The code about to be defined stands
for the previous code's bytes followed by their first byte. -/
def expand (z : Lzw) (code : Nat) : List Nat × Nat :=
  let fuel := Nat.pow 2 maxWidth
  match z.last with
  | some l => if code == z.hi then z.spell fuel l [z.head fuel l] else z.spell fuel code []
  | none => z.spell fuel code []

/-- Defines the next code from the previous one and a first byte, moves on, and widens the
codes when the next code no longer fits (at the widest, stops defining until a clear code). -/
def define (z : Lzw) (code first : Nat) : Lzw :=
  let z := match z.last with
    | some l => { z with tails := z.tails.set! z.hi first, parents := z.parents.set! z.hi l }
    | none => z
  let z := { z with last := some code, hi := z.hi + 1 }
  if z.hi ≥ z.overflow then
    if z.width == maxWidth then { z with last := none, hi := z.hi - 1 }
    else { z with width := z.width + 1, overflow := Nat.pow 2 (z.width + 1) }
  else z

/-- Reads and decodes one code. -/
def step (data : ByteArray) (z : Lzw) (b : Blocks) : Step × Lzw × Blocks :=
  match z.pull data 3 b with
  | (none, b) => (.stop .dataEnded, z, b)
  | (some z, b) =>
    let code := z.bits % (1 <<< z.width)
    let z := { z with bits := z.bits >>> z.width, count := z.count - z.width }
    if code < z.clear then (.emit [code], z.define code code, b)
    else if code == z.clear then
      let cleared : Lzw := { z with width := z.literalWidth + 1, hi := z.clear + 1,
                                    overflow := Nat.pow 2 (z.literalWidth + 1), last := none }
      (.reset, cleared, b)
    else if code == z.clear + 1 then (.stop .endCode, z, b)
    else if code ≤ z.hi then
      let (bytes, first) := z.expand code
      (.emit bytes, z.define code first, b)
    else (.stop .invalidCode, z, b)

/-- The size at which a batch of output is handed on. -/
def batchSize : Nat := 4096

/-- Decodes codes until the output has grown by a batch or the stream stops. -/
def batch (data : ByteArray) (begin : Nat) :
    Nat → Lzw → Blocks → Array UInt8 → Array UInt8 × Option Stop × Lzw × Blocks
  | 0, z, b, out => (out, some .dataEnded, z, b)
  | fuel + 1, z, b, out =>
    match z.step data b with
    | (.stop why, z, b) => (out, some why, z, b)
    | (.reset, z, b) => batch data begin fuel z b out
    | (.emit bytes, z, b) =>
      let out := bytes.foldl (fun o x => o.push x.toUInt8) out
      if out.size - begin ≥ batchSize then (out, none, z, b) else batch data begin fuel z b out

/-- Decodes batches until the output holds `need` bytes or the stream stops. -/
def gather (data : ByteArray) (need codeFuel : Nat) :
    Nat → Lzw → Blocks → Array UInt8 → Array UInt8 × Option Stop × Lzw × Blocks
  | 0, z, b, out => (out, none, z, b)
  | fuel + 1, z, b, out =>
    if out.size ≥ need then (out, none, z, b)
    else
      match batch data out.size codeFuel z b out with
      | (out, some why, z, b) => (out, some why, z, b)
      | (out, none, z, b) => gather data need codeFuel fuel z b out

end Lzw

/-- Decodes exactly `need` palette indices starting at a position, and checks the sub-blocks
that end them. -/
def indices (data : ByteArray) (pos literalWidth need : Nat) : Except String (Array UInt8 × Nat) := do
  let codeFuel := 8 * data.size + 16
  let blocks : Blocks := { pos, left := 0, size := 0, state := .reading }
  let (out, stop, z, b) := Lzw.gather data need codeFuel (need + 1) (Lzw.start literalWidth) blocks #[]
  let invalid : Except String (Array UInt8 × Nat) := .error (failure "reading image data: lzw: invalid code")
  if out.size < need then
    if stop == some .invalidCode then invalid else throw (failure "not enough image data")
  else if out.size > need then throw (failure "too much image data")
  else
    let (b, stop) ← match stop with
      | some why => pure (b, why)
      | none =>
        match Lzw.batch data 0 codeFuel z b #[] with
        | (more, why, _, b) =>
          if more.size > 0 then throw (failure "too much image data")
          else pure (b, why.getD .dataEnded)
    if stop == .invalidCode then invalid
    else
      b.close data
      pure (out, b.pos)

/-- The rows of an interlaced image in the order they are stored. -/
def interlacedRows (height : Nat) : List Nat :=
  let pass (first step : Nat) : List Nat :=
    (List.range height).filter fun y => y ≥ first && (y - first) % step == 0
  pass 0 8 ++ pass 4 8 ++ pass 2 4 ++ pass 1 2

/-- Puts stored rows of an interlaced image back in top-to-bottom order. -/
def deinterlace (width height : Nat) (stored : Array UInt8) : Array UInt8 :=
  let rows := interlacedRows height
  let placed : Array Nat := (rows.zipIdx.foldl (fun acc (y, k) => acc.set! y k)
    (Array.replicate height 0))
  ((List.range height).flatMap fun y =>
    let k := placed.getD y 0
    (List.range width).map fun x => stored.getD (k * width + x) 0).toArray

/-- Reads an image after its separator, with the transparent index in force, into a picture. -/
def image (data : ByteArray) (scr : Screen) (transparent : Option Nat) : Scan Raster := do
  let d ← take data 9 "can't read image descriptor: "
  let left := littleEndian d 0 2
  let top := littleEndian d 2 2
  let width := littleEndian d 4 2
  let height := littleEndian d 6 2
  let fields := byteAt d 8
  if left + width > scr.width || top + height > scr.height then
    throw (failure "frame bounds larger than image bounds")
  let palette ← if fields / 128 % 2 == 1 then colorTable data fields
    else match scr.palette with
      | some p => pure p
      | none => throw (failure "no color table")
  let palette := match transparent with
    | some t =>
      if t < palette.size then palette.set! t (Shade.rgba 0 0 0 0)
      else palette ++ Array.replicate (t + 1 - palette.size) (Shade.rgba 0 0 0 0)
    | none => palette
  let literalWidth ← takeByte data "reading image data: "
  if literalWidth < 2 || literalWidth > 8 then
    throw (failure ("pixel size in decode out of range: " ++ toString literalWidth))
  let pos ← get
  let (stored, pos) ← StateT.lift (indices data pos literalWidth (width * height))
  set pos
  if palette.size < 256 && stored.any (fun i => i.toNat ≥ palette.size) then
    throw (failure "invalid pixel value")
  let ordered := if fields / 64 % 2 == 1 then deinterlace width height stored else stored
  pure { width, height, layout := .paletted,
         pixels := ordered.map fun i => palette.getD i.toNat (Shade.rgba 0 0 0 0) }

/-- Reads blocks up to the first image. -/
def frames (data : ByteArray) (scr : Screen) : Nat → Option Nat → Scan Raster
  | 0, _ => throw (failure "reading frames: unexpected EOF")
  | fuel + 1, transparent => do
    let c ← takeByte data "reading frames: "
    match c with
    | 0x21 =>
      let transparent ← extension data transparent
      frames data scr fuel transparent
    | 0x2C => image data scr transparent
    | 0x3B => throw (failure "missing image data")
    | c => throw (failure ("unknown block type: " ++ byteHex c))

/-- Decodes the first image of a GIF file. -/
def decode (data : ByteArray) : Except String Raster :=
  (do
    let scr ← screen data
    frames data scr (data.size + 1) none).run' 0

/-- The size of the logical screen of a GIF file. -/
def dimensions (data : ByteArray) : Except String (Nat × Nat) :=
  (do
    let scr ← screen data
    pure (scr.width, scr.height)).run' 0

end Theming.Picture.Gif
