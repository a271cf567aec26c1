import Theming.Picture.Raster
import Theming.Picture.Reading

/-!
# JPEG markers

A JPEG file is a start-of-image marker followed by segments, each a marker (`0xFF` and a code,
possibly after fill bytes `0xFF`) and, for most markers, a two-byte length that counts itself.
Stray bytes between segments are skipped, as are `0xFF 0x00` pairs and restart markers; the
end-of-image marker ends the file.

This module walks the segments and reads the frame header (start of frame, baseline, extended
or progressive), which gives the size and the number of components: one (gray), three (YCbCr
or RGB) or four (CMYK or YCbCrK), at eight bits a sample, with the supported sampling factors.
Application segments `APP0` (JFIF) and `APP14` (Adobe) and comments are read past. A length
below two is a "short segment length"; a file that ends early is an unexpected end.

Reading the size stops at the frame header of a JFIF file, or at the first scan.
-/

set_option autoImplicit false

namespace Theming.Picture.Jpeg

/-- A failure of a file that is not valid JPEG. -/
def formatError (what : String) : String := "invalid JPEG format: " ++ what

/-- A failure of a valid file using a feature not supported. -/
def unsupported (what : String) : String := "unsupported JPEG feature: " ++ what

/-- The failure for sampling factors that are not supported. -/
def badSampling : String := unsupported "luma/chroma subsampling ratio"

/-- Sequential reading. -/
abbrev Walk := StateT Nat (Except String)

/-- Reads `n` bytes; a shortfall is an unexpected end. -/
def take (data : ByteArray) (n : Nat) : Walk ByteArray := fun pos =>
  if pos + n ≤ data.size then .ok (data.extract pos (pos + n), pos + n)
  else .error Shortfall.truncated.message

/-- Reads one byte. -/
def takeByte (data : ByteArray) : Walk Nat := do
  let b ← take data 1
  pure (byteAt b 0)

/-- What the frame header says: the size and the sampling factors of each component. -/
structure Frame where
  width : Nat
  height : Nat
  components : Nat
  deriving Inhabited

/-- Checks the sampling factors of one component against those before it. -/
def checkSampling (count i hv : Nat) (before : List (Nat × Nat)) : Except String (Nat × Nat) := do
  let h := hv / 16
  let v := hv % 16
  if h < 1 || 4 < h || v < 1 || 4 < v then throw (formatError "luma/chroma subsampling ratio")
  if h == 3 || v == 3 then throw badSampling
  let first := before.getD 0 (0, 0)
  let second := before.getD 1 (0, 0)
  match count with
  | 1 => pure (1, 1)
  | 3 =>
    match i with
    | 0 => if v == 4 then throw badSampling else pure (h, v)
    | 1 => if first.1 % h != 0 || first.2 % v != 0 then throw badSampling else pure (h, v)
    | _ => if second.1 != h || second.2 != v then throw badSampling else pure (h, v)
  | _ =>
    match i with
    | 0 => if hv != 0x11 && hv != 0x22 then throw badSampling else pure (h, v)
    | 1 | 2 => if hv != 0x11 then throw badSampling else pure (h, v)
    | _ => if first.1 != h || first.2 != v then throw badSampling else pure (h, v)

/-- Reads a frame header of `n` bytes. -/
def frame (data : ByteArray) (n : Nat) : Walk Frame := do
  let count ← match n with
    | 9 => pure 1
    | 15 => pure 3
    | 18 => pure 4
    | _ => throw (unsupported "number of components")
  let p ← take data n
  if byteAt p 0 != 8 then throw (unsupported "precision")
  let height := byteAt p 1 * 256 + byteAt p 2
  let width := byteAt p 3 * 256 + byteAt p 4
  if byteAt p 5 != count then throw (formatError "SOF has wrong length")
  let _ ← StateT.lift ((List.range count).foldlM (fun (acc : List (Nat × Nat) × List Nat) i => do
    let (factors, ids) := acc
    let id := byteAt p (6 + 3 * i)
    if ids.contains id then throw (formatError "repeated component identifier")
    if byteAt p (8 + 3 * i) > 3 then throw (formatError "bad Tq value")
    let hv ← checkSampling count i (byteAt p (7 + 3 * i)) factors
    pure (factors ++ [hv], ids ++ [id])) (([] : List (Nat × Nat)), ([] : List Nat)))
  pure { width, height, components := count }

/-- Skips `n` bytes. -/
def skip (data : ByteArray) (n : Nat) : Walk Unit := do
  let _ ← take data n

/-- What the walk has found so far: the frame, whether the file says it is JFIF. -/
structure Found where
  frame : Option Frame
  jfif : Bool
  deriving Inhabited

/-- How a walk ends: at the end-of-image marker, at the first scan, or after a JFIF frame header
when only the size is wanted. -/
inductive Ending where
  | endOfImage
  | scan
  | sizeKnown
  deriving Repr, BEq, DecidableEq, Inhabited

/-- Finds the next marker code, skipping stray bytes and fill bytes; `none` for `0xFF 0x00`. -/
def nextMarker (data : ByteArray) (fuel : Nat) : Walk (Option Nat) := do
  let pair ← take data 2
  let rec stray : Nat → Nat → Nat → Walk (Nat × Nat)
    | 0, a, b => pure (a, b)
    | k + 1, a, b => if a == 0xFF then pure (a, b) else do
      let c ← takeByte data
      stray k b c
  let (_, marker) ← stray fuel (byteAt pair 0) (byteAt pair 1)
  if marker == 0 then pure none
  else
    let rec fill : Nat → Nat → Walk Nat
      | 0, m => pure m
      | k + 1, m => if m == 0xFF then do fill k (← takeByte data) else pure m
    pure (some (← fill fuel marker))

/-- Walks the segments. `sizeOnly` skips tables and stops at the first scan or at a JFIF frame
header; otherwise tables and scans need the pixel decoder, which this module does not hold. -/
def segments (data : ByteArray) (sizeOnly : Bool) : Nat → Found → Walk (Found × Ending)
  | 0, found => pure (found, .endOfImage)
  | fuel + 1, found => do
    match ← nextMarker data (data.size + 1) with
    | none => segments data sizeOnly fuel found
    | some 0xD9 => pure (found, .endOfImage)
    | some m =>
      if 0xD0 ≤ m && m ≤ 0xD7 then segments data sizeOnly fuel found
      else
        let len ← take data 2
        let len := byteAt len 0 * 256 + byteAt len 1
        if len < 2 then throw (formatError "short segment length")
        let n := len - 2
        if m == 0xC0 || m == 0xC1 || m == 0xC2 then
          if found.frame.isSome then throw (formatError "multiple SOF markers")
          let f ← frame data n
          let found := { found with frame := some f }
          if sizeOnly && found.jfif then pure (found, .sizeKnown)
          else segments data sizeOnly fuel found
        else if m == 0xC4 || m == 0xDB || m == 0xDD then
          if sizeOnly then
            skip data n
            segments data sizeOnly fuel found
          else throw (unsupported "entropy-coded data")
        else if m == 0xDA then
          if sizeOnly then pure (found, .scan)
          else throw (unsupported "entropy-coded data")
        else if m == 0xE0 then
          if n < 5 then
            skip data n
            segments data sizeOnly fuel found
          else
            let p ← take data 5
            let jfif := (List.range 5).map (byteAt p ·) == [0x4A, 0x46, 0x49, 0x46, 0]
            skip data (n - 5)
            segments data sizeOnly fuel { found with jfif }
        else if 0xE0 ≤ m && m ≤ 0xEF || m == 0xFE then
          skip data n
          segments data sizeOnly fuel found
        else if m < 0xC0 then throw (formatError "unknown marker")
        else throw (unsupported "unknown marker")

/-- Checks the start-of-image marker. -/
def start (data : ByteArray) : Walk Unit := do
  let soi ← take data 2
  if byteAt soi 0 != 0xFF || byteAt soi 1 != 0xD8 then throw (formatError "missing SOI marker")

/-- The size of a JPEG picture. -/
def dimensions (data : ByteArray) : Except String (Nat × Nat) :=
  (do
    start data
    let (found, _) ← segments data true (data.size + 1) { frame := none, jfif := false }
    match found.frame with
    | some f => pure (f.width, f.height)
    | none => throw (formatError "missing SOF marker")).run' 0

/-- Decodes a JPEG picture as far as its markers go; the entropy-coded data is not decoded
here. -/
def decode (data : ByteArray) : Except String Raster :=
  (do
    start data
    let _ ← segments data false (data.size + 1) { frame := none, jfif := false }
    throw (formatError "missing SOS marker")).run' 0

end Theming.Picture.Jpeg
