/-!
# Reading runs of bytes

Picture decoders read their data in runs: a header of fixed length, a palette, a row. A run
that does not fit in what is left of the data falls short in one of two ways, and decoders
report them differently: either nothing at all was left (`EOF`), or only part of the run was
(`unexpected EOF`).

Numbers of several bytes are read in either byte order.
-/

set_option autoImplicit false

namespace Theming.Picture

/-- How a run of bytes falls short of the data. -/
inductive Shortfall where
  /-- No byte was left. -/
  | ended
  /-- Some bytes were left, but fewer than the run needs. -/
  | truncated
  deriving Repr, BEq, DecidableEq, Inhabited

/-- The text of a shortfall. -/
def Shortfall.message : Shortfall → String
  | .ended => "EOF"
  | .truncated => "unexpected EOF"

/-- The run of `n` bytes at a position, or how the data falls short of it. An empty run always
fits. -/
def readRun (data : ByteArray) (pos n : Nat) : Except Shortfall ByteArray :=
  if pos + n ≤ data.size then .ok (data.extract pos (pos + n))
  else if pos ≥ data.size then .error .ended
  else .error .truncated

/-- The byte at a position, zero past the end. -/
def byteAt (data : ByteArray) (pos : Nat) : Nat := (data[pos]?.map UInt8.toNat).getD 0

/-- The number in `n` bytes at a position, least significant byte first. -/
def littleEndian (data : ByteArray) (pos n : Nat) : Nat :=
  (List.range n).foldr (fun i acc => acc * 256 + byteAt data (pos + i)) 0

/-- The number in `n` bytes at a position, most significant byte first. -/
def bigEndianAt (data : ByteArray) (pos n : Nat) : Nat :=
  (List.range n).foldl (fun acc i => acc * 256 + byteAt data (pos + i)) 0

/-- The number in `n` bytes at a position, in either byte order. -/
def numberAt (littleFirst : Bool) (data : ByteArray) (pos n : Nat) : Nat :=
  if littleFirst then littleEndian data pos n else bigEndianAt data pos n

/-- A 32-bit word read as a two's complement integer. -/
def signed32 (w : Nat) : Int := if w < Nat.pow 2 31 then w else (w : Int) - Int.pow 2 32

end Theming.Picture
