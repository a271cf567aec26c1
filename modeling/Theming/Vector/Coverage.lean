import Theming.Number.Convert
import Theming.Picture.Raster

/-!
# Coverage of filled paths

A path of straight segments is filled by accumulating, cell by cell, the signed area that each
segment sweeps to its right; a running sum along the rows then gives each pixel's coverage, and
its absolute value (capped at one) is how much of the pixel the path covers under the nonzero
rule. Cells past the right edge fold into the first cell of the next row, which keeps the running
sum right.

Two arithmetics are used, and their rounding is part of the result:

* up to 512 pixels a side, 22.9 fixed point in 32-bit integers, with divisions that truncate;
* beyond that, single precision, where the running sum is taken four cells at a time as a
  prefix sum (pairs of neighbours, then pairs of pairs, then the carry from the cells before).

Coordinates arrive as 26.6 fixed point and are turned into single precision. A pixel's mask is
a 16-bit level; painting a color over a pixel mixes the two in 16-bit premultiplied channels.
-/

set_option autoImplicit false

namespace Theming.Vector

open Theming.Picture

/-- Single precision truncated to a 32-bit integer; out of range and not-a-number give the
smallest 32-bit integer. -/
def truncF32 (x : Float32) : Int := Theming.Number.truncateToInt32 x.toFloat

/-- The cells of a coverage accumulation, in one of the two arithmetics. -/
inductive Cells where
  | fixed (buf : Array Int)
  | float (buf : Array Float32)
  deriving Inhabited

/-- A coverage accumulation: its size, its cells, the pen and the start of the current path. -/
structure Coverage where
  width : Nat
  height : Nat
  cells : Cells
  penX : Float32
  penY : Float32
  deriving Inhabited

/-- Sides above which single precision is used. -/
def fixedLimit : Nat := 512

/-- Bits after the point in the fixed arithmetic. -/
def fracBits : Nat := 9

/-- One in the fixed arithmetic. -/
def fxOne : Int := Int.pow 2 fracBits

namespace Coverage

/-- An empty accumulation of a size. -/
def empty (width height : Nat) : Coverage :=
  let cells := if width > fixedLimit || height > fixedLimit then
      Cells.float (Array.replicate (width * height) 0)
    else Cells.fixed (Array.replicate (width * height) 0)
  { width, height, cells, penX := 0, penY := 0 }

/-- Moves the pen to start a new path. -/
def moveTo (z : Coverage) (x y : Float32) : Coverage := { z with penX := x, penY := y }

/-- The cell a column of a row stands for: columns left of the row go to its first cell,
columns right of it to the cell after its last; `none` past the end. -/
def cellIndex (z : Coverage) (y : Nat) (i : Int) : Option Nat :=
  let c : Nat := if i < 0 then 0 else if i < z.width then i.toNat else z.width
  let k := y * z.width + c
  if k < z.width * z.height then some k else none

/-- Adds to a fixed cell. -/
def addFixed (z : Coverage) (buf : Array Int) (y : Nat) (i : Int) (v : Int) : Array Int :=
  match z.cellIndex y i with
  | some k => buf.modify k (· + v)
  | none => buf

/-- Adds to a single-precision cell. -/
def addFloat (z : Coverage) (buf : Array Float32) (y : Nat) (i : Int) (v : Float32) :
    Array Float32 :=
  match z.cellIndex y i with
  | some k => buf.modify k (· + v)
  | none => buf

/-- A fixed number's floor, as a whole number. -/
def fxFloor (x : Int) : Int := x / fxOne

/-- A fixed number's ceiling, as a whole number. -/
def fxCeil (x : Int) : Int := (x + fxOne - 1) / fxOne

/-- The fixed-arithmetic contributions of a segment going down from `(xa, ya)` to `(xb, yb)`
with direction `dir`. -/
def fixedSegment (z : Coverage) (buf : Array Int) (dir : Int) (xa ya xb yb : Float32) :
    Array Int :=
  let dxdy := (xb - xa) / (yb - ya)
  let one : Float32 := Float32.ofNat (Nat.pow 2 fracBits)
  let ayf := truncF32 (ya * one)
  let byf := truncF32 (yb * one)
  let x0 := truncF32 (xa * one)
  let yStart := fxFloor ayf
  let yMax := min (fxCeil byf) (z.height : Int)
  let rows := (yMax - yStart).toNat
  let step (acc : Array Int × Int) (k : Nat) : Array Int × Int :=
    let (buf, x) := acc
    let y := yStart + k
    let dy := min ((y + 1) * fxOne) byf - max (y * fxOne) ayf
    let xNext := x + truncF32 (Float32.ofInt dy * dxdy)
    if y < 0 then (buf, xNext)
    else
      let row := y.toNat
      let d := dy * dir
      let (lo, hi) := if x > xNext then (xNext, x) else (x, xNext)
      let loI := fxFloor lo
      let loFloor := loI * fxOne
      let hiI := fxCeil hi
      let hiCeil := hiI * fxOne
      let buf :=
        if hiI ≤ loI + 1 then
          let xmf := (x + xNext) / 2 - loFloor
          let buf := z.addFixed buf row loI (d * (fxOne - xmf))
          z.addFixed buf row (loI + 1) (d * xmf)
        else
          let oneOverS := hi - lo
          let twoOverS := 2 * oneOverS
          let loF := lo - loFloor
          let oneMinusLoF := fxOne - loF
          let oneMinusLoFSq := oneMinusLoF * oneMinusLoF
          let hiF := hi - hiCeil + fxOne
          let hiFSq := hiF * hiF
          let buf := z.addFixed buf row loI ((oneMinusLoFSq * d).tdiv twoOverS)
          let buf :=
            if hiI == loI + 2 then
              z.addFixed buf row (loI + 1)
                (((twoOverS * fxOne - oneMinusLoFSq - hiFSq) * d).tdiv twoOverS)
            else
              let oneAndAHalf := fxOne + fxOne / 2
              let buf := z.addFixed buf row (loI + 1)
                ((((oneAndAHalf - loF) * (2 * fxOne) - oneMinusLoFSq) * d).tdiv twoOverS)
              let dTimesS := (d * (fxOne * fxOne)).tdiv oneOverS
              let middle := (hiI - 1 - (loI + 2)).toNat
              let buf := (List.range middle).foldl (fun b (j : Nat) =>
                z.addFixed b row (loI + 2 + (j : Int)) dTimesS) buf
              let c := 4 * fxOne - 2 * oneAndAHalf
              let dd := ((hiF * 2 + c) * fxOne - hiFSq) * d
              z.addFixed buf row (hiI - 1) (dd.tdiv twoOverS)
          z.addFixed buf row hiI ((hiFSq * d).tdiv twoOverS)
      (buf, xNext)
  ((List.range rows).foldl step (buf, x0)).1

/-- The single-precision contributions of a segment going down from `(xa, ya)` to `(xb, yb)`
with direction `dir`. -/
def floatSegment (z : Coverage) (buf : Array Float32) (dir : Float32) (xa ya xb yb : Float32) :
    Array Float32 :=
  let dxdy := (xb - xa) / (yb - ya)
  let yStart := truncF32 ya
  let yMax := min (truncF32 yb.ceil) (z.height : Int)
  let rows := (yMax - yStart).toNat
  let step (acc : Array Float32 × Float32) (k : Nat) : Array Float32 × Float32 :=
    let (buf, x) := acc
    let y := yStart + k
    let dy := min (Float32.ofInt (y + 1)) yb - max (Float32.ofInt y) ya
    let xNext := x + dy * dxdy
    if y < 0 then (buf, xNext)
    else
      let row := y.toNat
      let d := dy * dir
      let (lo, hi) := if x > xNext then (xNext, x) else (x, xNext)
      let loI := truncF32 lo
      let loFloor := Float32.ofInt loI
      let hiI := truncF32 hi.ceil
      let hiCeil := Float32.ofInt hiI
      let buf :=
        if hiI ≤ loI + 1 then
          let xmf := (0.5 : Float32) * (x + xNext) - loFloor
          let buf := z.addFloat buf row loI (d - d * xmf)
          z.addFloat buf row (loI + 1) (d * xmf)
        else
          let s := 1 / (hi - lo)
          let loF := lo - loFloor
          let oneMinusLoF := 1 - loF
          let a0 := (0.5 : Float32) * s * oneMinusLoF * oneMinusLoF
          let hiF := hi - hiCeil + 1
          let am := (0.5 : Float32) * s * hiF * hiF
          let buf := z.addFloat buf row loI (d * a0)
          let buf :=
            if hiI == loI + 2 then z.addFloat buf row (loI + 1) (d * (1 - a0 - am))
            else
              let a1 := s * ((1.5 : Float32) - loF)
              let buf := z.addFloat buf row (loI + 1) (d * (a1 - a0))
              let dTimesS := d * s
              let middle := (hiI - 1 - (loI + 2)).toNat
              let buf := (List.range middle).foldl (fun b (j : Nat) =>
                z.addFloat b row (loI + 2 + (j : Int)) dTimesS) buf
              let a2 := a1 + s * Float32.ofInt (hiI - loI - 3)
              z.addFloat buf row (hiI - 1) (d * (1 - a2 - am))
          z.addFloat buf row hiI (d * am)
      (buf, xNext)
  ((List.range rows).foldl step (buf, xa)).1

/-- Draws a segment from the pen to a point, and moves the pen there. Segments that rise by
less than a millionth of a pixel add nothing. -/
def lineTo (z : Coverage) (xb yb : Float32) : Coverage :=
  let xa := z.penX
  let ya := z.penY
  let z := { z with penX := xb, penY := yb }
  let (xa, ya, xb, yb, down) := if ya > yb then (xb, yb, xa, ya, false) else (xa, ya, xb, yb, true)
  if yb - ya ≤ (0.000001 : Float32) then z
  else
    match z.cells with
    | .fixed buf => { z with cells := .fixed (z.fixedSegment buf (if down then 1 else -1) xa ya xb yb) }
    | .float buf => { z with cells := .float (z.floatSegment buf (if down then 1 else -1) xa ya xb yb) }

/-- The scale from coverage to a 16-bit level in single precision, just under 65536. -/
def almostFullLevel : Float32 := 65535.99609375

/-- The level of a single-precision running sum. -/
def floatLevel (acc : Float32) : Nat :=
  let a := if acc < 0 then -acc else acc
  let a := if a > 1 then 1 else a
  (truncF32 (almostFullLevel * a)).toNat

/-- The levels of single-precision cells, summed four at a time as prefix sums. -/
def floatLevels (buf : Array Float32) : Array Nat :=
  let n := buf.size
  let groups := n / 4
  let cell (i : Nat) : Float32 := buf.getD i 0
  let (out, carry) := (List.range groups).foldl (fun (acc : Array Nat × Float32) g =>
    let (out, carry) := acc
    let v0 := cell (4 * g)
    let v1 := cell (4 * g + 1)
    let v2 := cell (4 * g + 2)
    let v3 := cell (4 * g + 3)
    let p1 := v1 + v0
    let p2 := v2 + v1
    let p3 := v3 + v2
    let q2 := p2 + v0
    let q3 := p3 + p1
    let s0 := v0 + carry
    let s1 := p1 + carry
    let s2 := q2 + carry
    let s3 := q3 + carry
    ((((out.push (floatLevel s0)).push (floatLevel s1)).push (floatLevel s2)).push (floatLevel s3), s3))
    (#[], 0)
  ((List.range (n - 4 * groups)).foldl (fun (acc : Array Nat × Float32) k =>
    let (out, carry) := acc
    let s := carry + cell (4 * groups + k)
    (out.push (floatLevel s), s)) (out, carry)).1

/-- The levels of fixed cells: the absolute running sum, scaled to 16 bits and capped. -/
def fixedLevels (buf : Array Int) : Array Nat :=
  (buf.foldl (fun (acc : Array Nat × Int) v =>
    let (out, sum) := acc
    let sum := sum + v
    let a := sum.natAbs / Nat.pow 2 (2 * fracBits - 16)
    (out.push (min a 0xFFFF), sum)) (#[], 0)).1

/-- The 16-bit coverage level of every pixel, row by row. -/
def levels (z : Coverage) : Array Nat :=
  match z.cells with
  | .fixed buf => fixedLevels buf
  | .float buf => floatLevels buf

end Coverage

/-- Paints a straight color over a canvas through coverage levels: where the level is not zero,
the color scaled by the level is laid over the pixel in 16-bit premultiplied channels. -/
def paintOver (c : Canvas) (levels : Array Nat) (color : Rgba8) : Canvas :=
  let (sr, sg, sb, sa) := (Shade.nrgba color.r color.g color.b color.a).premultiplied
  { c with pixels := c.pixels.mapIdx fun i px =>
      let ma := levels.getD i 0
      if ma == 0 then px
      else
        let (dr, dg, db, da) := (Shade.nrgba px.r px.g px.b px.a).premultiplied
        let a := 0xFFFF - sa * ma / 0xFFFF
        Shade.straighten ((dr * a + sr * ma) / 0xFFFF, (dg * a + sg * ma) / 0xFFFF,
          (db * a + sb * ma) / 0xFFFF, (da * a + sa * ma) / 0xFFFF) }

end Theming.Vector
