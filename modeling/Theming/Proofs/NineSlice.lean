import Mathlib
import Theming.Picture.Resample

/-!
# Nine-slice stretching

A stretch with cap insets cuts each axis of the source in three slices, the leading cap, the
middle and the trailing cap, and cuts the drawn side in three the same way; each of the nine
tiles is the source rectangle between its cuts, copied to the drawn rectangle between its cuts
and resized when the two differ in size.

The cuts of one axis partition both sides (`AxisCuts.Partitions`): the source slices run from `0`
to the source side in order with a middle that is not empty, the drawn slices run from `0` to the
drawn side in order, and every drawn slice that is not empty comes from a source slice that is not
empty. That holds for every pair of insets whose sum, negatives taken as zero, fits in a signed
64-bit word (`axisCuts_partitions`). The fitting adds the two insets as 64-bit words, so insets
such as `5·10^18` on both sides wrap around to a negative sum, are kept as they are, and cut the
source out of order (`axisCuts_overflow`).

The main statement is `stretch_nine_slice`: for a picture and a drawn size with no empty side
and insets that are not all zero, both axes are partitioned as above (given the sums fit), the
result has exactly `w × h` pixels, and when the fitted caps fit in the drawn size as well, each of
the four corners of the result is a copy, pixel by pixel, of the corner of the source.

The corners rest on two facts of the painting: a tile whose source and drawn slices have the same
size is copied unchanged (`paintTile_copy`), and a tile changes no pixel before its drawn corner
(`paintTile_pixelAt_of_lt`), so the tiles painted after a corner, which lie to its right or below
it, leave it alone (`paintTiles_pixelAt_of_lt`).
-/

set_option autoImplicit false

namespace Theming.Picture

/-! ## Canvases -/

namespace Canvas

variable (f : Nat → Nat → Rgba8) (w h : Nat)

@[simp] theorem tabulate_width : (tabulate w h f).width = w :=
  rfl

@[simp] theorem tabulate_height : (tabulate w h f).height = h :=
  rfl

/-- The rows of a tabulated canvas, laid one after the other, hold the pixel of column `x` and row
`y` at `y * w + x`. -/
theorem getElem?_rows {x y : Nat} (hx : x < w) (hy : y < h) :
    ((List.range h).flatMap fun y => (List.range w).map fun x => f x y)[y * w + x]? =
      some (f x y) := by
  -- induction on the rows: the last row is appended after `h * w` pixels
  induction h with
  | zero => omega
  | succ h ih =>
    rw [List.range_succ, List.flatMap_append, List.flatMap_singleton]
    have hlen : ((List.range h).flatMap fun y => (List.range w).map fun x => f x y).length =
        h * w := by
      simp [List.length_flatMap, List.map_const', List.sum_replicate]
    by_cases hyh : y < h
    · rw [List.getElem?_append_left (by rw [hlen]; nlinarith)]
      exact ih hyh
    · obtain rfl : y = h := by omega
      rw [List.getElem?_append_right (by omega), hlen]
      simp [hx]

theorem tabulate_size : (tabulate w h f).pixels.size = w * h := by
  simp [tabulate, List.length_flatMap, List.map_const', List.sum_replicate, Nat.mul_comm]

theorem tabulate_pixelAt {x y : Nat} (hx : x < w) (hy : y < h) :
    (tabulate w h f).pixelAt x y = f x y := by
  unfold pixelAt
  rw [tabulate_width, if_pos hx]
  simp only [tabulate, Array.getD_eq_getD_getElem?, List.getElem?_toArray, getElem?_rows f w h hx hy,
    Option.getD_some]

@[simp] theorem paste_width (c part : Canvas) (px py : Nat) : (c.paste part px py).width = c.width :=
  rfl

@[simp] theorem paste_height (c part : Canvas) (px py : Nat) :
    (c.paste part px py).height = c.height :=
  rfl

theorem paste_size (c part : Canvas) (px py : Nat) :
    (c.paste part px py).pixels.size = c.width * c.height :=
  tabulate_size _ _ _

@[simp] theorem filled_width (c : Rgba8) : (filled w h c).width = w :=
  rfl

@[simp] theorem filled_height (c : Rgba8) : (filled w h c).height = h :=
  rfl

theorem filled_size (c : Rgba8) : (filled w h c).pixels.size = w * h :=
  Array.size_replicate

/-- A pasted canvas shows the part over the rectangle it covers and the canvas elsewhere. -/
theorem paste_pixelAt (c part : Canvas) (px py : Nat) {x y : Nat} (hx : x < c.width)
    (hy : y < c.height) :
    (c.paste part px py).pixelAt x y =
      if px ≤ x ∧ x < px + part.width ∧ py ≤ y ∧ y < py + part.height then
        part.pixelAt (x - px) (y - py)
      else c.pixelAt x y := by
  unfold paste
  rw [tabulate_pixelAt _ _ _ hx hy]
  simp only [Bool.and_eq_true, decide_eq_true_eq, and_assoc]

theorem paste_pixelAt_of_lt (c part : Canvas) (px py : Nat) {x y : Nat} (hx : x < c.width)
    (hy : y < c.height) (h : x < px ∨ y < py) : (c.paste part px py).pixelAt x y = c.pixelAt x y := by
  rw [paste_pixelAt c part px py hx hy, if_neg (by omega)]

theorem paste_pixelAt_add (c part : Canvas) (px py : Nat) {i j : Nat} (hi : i < part.width)
    (hj : j < part.height) (hx : px + i < c.width) (hy : py + j < c.height) :
    (c.paste part px py).pixelAt (px + i) (py + j) = part.pixelAt i j := by
  rw [paste_pixelAt c part px py hx hy, if_pos (by omega)]
  simp

/-- A rectangle inside a canvas is cut out with its own pixels. -/
theorem crop_of_le (c : Canvas) {x0 y0 x1 y1 : Nat} (hx : x0 < x1) (hy : y0 < y1)
    (hx1 : x1 ≤ c.width) (hy1 : y1 ≤ c.height) :
    c.crop x0 y0 x1 y1 = tabulate (x1 - x0) (y1 - y0) fun x y => c.pixelAt (x0 + x) (y0 + y) := by
  unfold crop
  rw [min_eq_left hx1, min_eq_left hy1]
  simp only [ge_iff_le, Bool.or_eq_true, decide_eq_true_eq]
  rw [if_neg (by omega)]

end Canvas

/-! ## Fitting the insets -/

namespace PixelInsets

/-- Two insets whose sum fits in a signed 64-bit word are fitted into a side of at least one
pixel: neither grows, and together they leave at least one pixel. -/
theorem fit_le {a b : Int} {size : Nat} (hno : max a 0 + max b 0 < 2 ^ 63) (hsize : 0 < size) :
    ((fit a b size).1 : Int) ≤ max a 0 ∧ ((fit a b size).2 : Int) ≤ max b 0 ∧
      (fit a b size).1 + (fit a b size).2 < size := by
  have hwrap : Number.wrapInt64 (max a 0 + max b 0) = max a 0 + max b 0 :=
    Int.bmod_eq_of_le (by simp only [Nat.pow_eq]; omega) (by simp only [Nat.pow_eq]; omega)
  unfold fit
  dsimp only
  rw [hwrap]
  split
  case isTrue hbig =>
    -- the first takes at most half of what is left after one pixel, the second the rest
    omega
  case isFalse hsmall => omega

end PixelInsets

/-! ## The cuts of an axis -/

/-- The cuts of an axis partition a source side of `size` pixels and a drawn side of `target`
pixels: each side is cut in three slices that run from `0` to its end in order, the middle source
slice is not empty, and a drawn slice that is not empty is drawn from a source slice that is not
empty. -/
structure AxisCuts.Partitions (cuts : AxisCuts) (size target : Nat) : Prop where
  source_start : cuts.source.getD 0 0 = 0
  source_end : cuts.source.getD 3 0 = size
  source_mono : ∀ i < 3, cuts.source.getD i 0 ≤ cuts.source.getD (i + 1) 0
  middle_nonempty : cuts.source.getD 1 0 < cuts.source.getD 2 0
  target_start : cuts.target.getD 0 0 = 0
  target_end : cuts.target.getD 3 0 = target
  target_mono : ∀ i < 3, cuts.target.getD i 0 ≤ cuts.target.getD (i + 1) 0
  drawn_from_nonempty : ∀ i < 3, cuts.target.getD i 0 < cuts.target.getD (i + 1) 0 →
    cuts.source.getD i 0 < cuts.source.getD (i + 1) 0

section Cuts

/-- The four entries of an array of four cuts. -/
theorem getD_four {α : Type} (a b c d z : α) :
    #[a, b, c, d].getD 0 z = a ∧ #[a, b, c, d].getD 1 z = b ∧ #[a, b, c, d].getD 2 z = c ∧
      #[a, b, c, d].getD 3 z = d :=
  ⟨rfl, rfl, rfl, rfl⟩

variable (lead trail : Int) (size target : Nat)

theorem axisCuts_source :
    (axisCuts lead trail size target).source =
      #[0, ((PixelInsets.fit lead trail size).1 : Int),
        (size : Int) - (PixelInsets.fit lead trail size).2, size] :=
  rfl

/-- On the drawn side the leading cap takes at most half, the trailing cap at most the rest. -/
theorem axisCuts_target :
    (axisCuts lead trail size target).target =
      #[0, min (PixelInsets.fit lead trail size).1 (target / 2),
        target - min (PixelInsets.fit lead trail size).2
          (target - min (PixelInsets.fit lead trail size).1 (target / 2)), target] :=
  rfl

/-- Insets whose sum fits in a signed 64-bit word cut a side of at least one pixel into a
partition, whatever the drawn side. -/
theorem axisCuts_partitions (hno : max lead 0 + max trail 0 < 2 ^ 63) (hsize : 0 < size) :
    (axisCuts lead trail size target).Partitions size target := by
  obtain ⟨-, -, hsum⟩ := PixelInsets.fit_le hno hsize
  have hsrc := axisCuts_source lead trail size target
  have htgt := axisCuts_target lead trail size target
  generalize PixelInsets.fit lead trail size = caps at hsrc htgt hsum
  obtain ⟨L, R⟩ := caps
  dsimp only at hsrc htgt hsum
  -- each property is a comparison of the four cuts, slice by slice
  refine
    { source_start := by simp only [hsrc, getD_four]
      source_end := by simp only [hsrc, getD_four]
      source_mono := fun i hi => ?_
      middle_nonempty := by simp only [hsrc, getD_four]; omega
      target_start := by simp only [htgt, getD_four]
      target_end := by simp only [htgt, getD_four]
      target_mono := fun i hi => ?_
      drawn_from_nonempty := fun i hi => ?_ }
  · interval_cases i <;> simp only [hsrc, getD_four, Nat.reduceAdd] <;> omega
  · interval_cases i <;> simp only [htgt, getD_four, Nat.reduceAdd] <;> omega
  · interval_cases i <;> simp only [hsrc, htgt, getD_four, Nat.reduceAdd] at hi ⊢ <;> omega

end Cuts

/-- Insets of `5·10^18` on both sides of a side of two pixels are signed 64-bit words, but their
sum wraps around to a negative one: the fitting keeps them, so together they leave no pixel, and
the cuts do not partition the side. -/
theorem axisCuts_overflow :
    (5000000000000000000 : Int) < 2 ^ 63 ∧
      PixelInsets.fit 5000000000000000000 5000000000000000000 2 =
        (5000000000000000000, 5000000000000000000) ∧
      ¬(axisCuts 5000000000000000000 5000000000000000000 2 4).Partitions 2 4 := by
  have hfit : PixelInsets.fit 5000000000000000000 5000000000000000000 2 =
      (5000000000000000000, 5000000000000000000) := by
    decide
  refine ⟨by norm_num, hfit, fun h => ?_⟩
  have hmiddle := h.middle_nonempty
  rw [axisCuts_source, hfit] at hmiddle
  simp at hmiddle

@[simp] theorem Raster.scan_width (p : Raster) : p.scan.width = p.width :=
  rfl

@[simp] theorem Raster.scan_height (p : Raster) : p.scan.height = p.height :=
  rfl

/-! ## Painting the tiles -/

/-- Slice `i` of an axis is copied without resizing: its source slice starts at `s` and its drawn
slice at `t`, both `n` pixels long. -/
def AxisCuts.Copies (cuts : AxisCuts) (i s t n : Nat) : Prop :=
  cuts.source.getD i 0 = s ∧ cuts.source.getD (i + 1) 0 = s + n ∧
    cuts.target.getD i 0 = t ∧ cuts.target.getD (i + 1) 0 = t + n

/-- The tiles of `cells` painted one after the other over `dst`. -/
def paintTiles (src : Canvas) (xs ys : AxisCuts) (cells : List (Nat × Nat)) (dst : Canvas) :
    Canvas :=
  cells.foldl (fun dst cell => paintTile src xs ys dst cell.1 cell.2) dst

section Painting

variable (src : Canvas) (xs ys : AxisCuts)

@[simp] theorem paintTile_width (dst : Canvas) (row col : Nat) :
    (paintTile src xs ys dst row col).width = dst.width := by
  dsimp only [paintTile]
  split <;> rfl

@[simp] theorem paintTile_height (dst : Canvas) (row col : Nat) :
    (paintTile src xs ys dst row col).height = dst.height := by
  dsimp only [paintTile]
  split <;> rfl

theorem paintTile_size {dst : Canvas} (hdst : dst.pixels.size = dst.width * dst.height)
    (row col : Nat) :
    (paintTile src xs ys dst row col).pixels.size = dst.width * dst.height := by
  dsimp only [paintTile]
  split
  · exact hdst
  · exact Canvas.paste_size _ _ _ _

/-- A tile changes no pixel above or to the left of the corner of its drawn rectangle. -/
theorem paintTile_pixelAt_of_lt {dst : Canvas} (row col : Nat) {x y : Nat} (hx : x < dst.width)
    (hy : y < dst.height) (h : x < xs.target.getD col 0 ∨ y < ys.target.getD row 0) :
    (paintTile src xs ys dst row col).pixelAt x y = dst.pixelAt x y := by
  dsimp only [paintTile]
  split
  · rfl
  · exact Canvas.paste_pixelAt_of_lt _ _ _ _ hx hy h

/-- A tile whose source and drawn slices have the same size, `n` columns and `m` rows, is the
source rectangle copied unchanged: it is cut out and not resized. -/
theorem paintTile_copy {dst : Canvas} {row col sx sy tx ty n m : Nat}
    (hcol : xs.Copies col sx tx n) (hrow : ys.Copies row sy ty m) (hn : 0 < n) (hm : 0 < m)
    (hsrc : sx + n ≤ src.width) (hsrc' : sy + m ≤ src.height) :
    paintTile src xs ys dst row col =
      dst.paste (Canvas.tabulate n m fun x y => src.pixelAt (sx + x) (sy + y)) tx ty := by
  obtain ⟨hsx, hsx', htx, htx'⟩ := hcol
  obtain ⟨hsy, hsy', hty, hty'⟩ := hrow
  unfold paintTile
  simp only [hsx, hsx', hsy, hsy', htx, htx', hty, hty']
  rw [min_eq_left (by omega), max_eq_right (by omega), min_eq_left (by omega),
    max_eq_right (by omega)]
  have hcrop := Canvas.crop_of_le src (Nat.lt_add_of_pos_right hn) (Nat.lt_add_of_pos_right hm)
    hsrc hsrc'
  simp only [← Int.natCast_add, Int.toNat_natCast, hcrop]
  rw [if_neg (by simp only [Bool.or_eq_true, decide_eq_true_eq, beq_iff_eq]; omega)]
  simp only [Nat.add_sub_cancel_left, Canvas.tabulate_width, Canvas.tabulate_height,
    bne_self_eq_false, Bool.or_self, Bool.false_eq_true, if_false]

theorem paintTiles_cons (cell : Nat × Nat) (cells : List (Nat × Nat)) (dst : Canvas) :
    paintTiles src xs ys (cell :: cells) dst =
      paintTiles src xs ys cells (paintTile src xs ys dst cell.1 cell.2) :=
  rfl

theorem paintTiles_append (pre post : List (Nat × Nat)) (dst : Canvas) :
    paintTiles src xs ys (pre ++ post) dst = paintTiles src xs ys post (paintTiles src xs ys pre dst) :=
  List.foldl_append

@[simp] theorem paintTiles_width (cells : List (Nat × Nat)) (dst : Canvas) :
    (paintTiles src xs ys cells dst).width = dst.width := by
  induction cells generalizing dst with
  | nil => rfl
  | cons cell cells ih => rw [paintTiles_cons, ih, paintTile_width]

@[simp] theorem paintTiles_height (cells : List (Nat × Nat)) (dst : Canvas) :
    (paintTiles src xs ys cells dst).height = dst.height := by
  induction cells generalizing dst with
  | nil => rfl
  | cons cell cells ih => rw [paintTiles_cons, ih, paintTile_height]

/-- Painting keeps a canvas holding one pixel per column and row. -/
theorem paintTiles_size (cells : List (Nat × Nat)) {dst : Canvas}
    (hdst : dst.pixels.size = dst.width * dst.height) :
    (paintTiles src xs ys cells dst).pixels.size = dst.width * dst.height := by
  induction cells generalizing dst with
  | nil => exact hdst
  | cons cell cells ih =>
    have hcell := paintTile_size src xs ys hdst cell.1 cell.2
    rw [← paintTile_width src xs ys dst cell.1 cell.2, ← paintTile_height src xs ys dst cell.1 cell.2]
      at hcell ⊢
    rw [paintTiles_cons, ih hcell]

/-- Tiles whose drawn rectangles all start to the right of a pixel or below it leave it alone. -/
theorem paintTiles_pixelAt_of_lt (cells : List (Nat × Nat)) {dst : Canvas} {x y : Nat}
    (hx : x < dst.width) (hy : y < dst.height)
    (h : ∀ cell ∈ cells, x < xs.target.getD cell.2 0 ∨ y < ys.target.getD cell.1 0) :
    (paintTiles src xs ys cells dst).pixelAt x y = dst.pixelAt x y := by
  induction cells generalizing dst with
  | nil => rfl
  | cons cell cells ih =>
    rw [paintTiles_cons, ih (by simpa using hx) (by simpa using hy)
      (fun c hc => h c (List.mem_cons_of_mem _ hc))]
    exact paintTile_pixelAt_of_lt src xs ys _ _ hx hy (h cell List.mem_cons_self)

/-- A tile copied unchanged shows through every later tile whose drawn rectangle starts to the
right of the pixel or below it. -/
theorem paintTiles_copy (pre post : List (Nat × Nat)) (dst : Canvas)
    {row col sx sy tx ty n m i j : Nat} (hcol : xs.Copies col sx tx n) (hrow : ys.Copies row sy ty m)
    (hsrc : sx + n ≤ src.width) (hsrc' : sy + m ≤ src.height)
    (hdst : tx + n ≤ dst.width) (hdst' : ty + m ≤ dst.height) (hi : i < n) (hj : j < m)
    (hpost : ∀ cell ∈ post, tx + i < xs.target.getD cell.2 0 ∨ ty + j < ys.target.getD cell.1 0) :
    (paintTiles src xs ys (pre ++ (row, col) :: post) dst).pixelAt (tx + i) (ty + j) =
      src.pixelAt (sx + i) (sy + j) := by
  have hw : (paintTiles src xs ys pre dst).width = dst.width := paintTiles_width ..
  have hh : (paintTiles src xs ys pre dst).height = dst.height := paintTiles_height ..
  rw [paintTiles_append, paintTiles_cons, paintTiles_pixelAt_of_lt src xs ys post
    (by simp; omega) (by simp; omega) hpost]
  rw [paintTile_copy src xs ys hcol hrow (by omega) (by omega) hsrc hsrc',
    Canvas.paste_pixelAt_add _ _ _ _ (by simpa using hi) (by simpa using hj) (by omega) (by omega),
    Canvas.tabulate_pixelAt _ _ _ hi hj]

end Painting

/-! ## Stretching -/

section Caps

variable (lead trail : Int) (size target : Nat)

/-- A leading cap that takes at most half of the drawn side is copied as it is. -/
theorem axisCuts_copies_lead (hlead : (PixelInsets.fit lead trail size).1 ≤ target / 2) :
    (axisCuts lead trail size target).Copies 0 0 0 (PixelInsets.fit lead trail size).1 := by
  refine ⟨?_, ?_, ?_, ?_⟩ <;>
    simp only [axisCuts_source, axisCuts_target, getD_four, Nat.cast_zero, zero_add, min_eq_left hlead]

/-- A trailing cap that fits in what the leading cap leaves of the drawn side is copied as it
is, from the end of the source side to the end of the drawn side. -/
theorem axisCuts_copies_trail
    (hsum : (PixelInsets.fit lead trail size).1 + (PixelInsets.fit lead trail size).2 < size)
    (hlead : (PixelInsets.fit lead trail size).1 ≤ target / 2)
    (htrail : (PixelInsets.fit lead trail size).2 ≤ target - (PixelInsets.fit lead trail size).1) :
    (axisCuts lead trail size target).Copies 2 (size - (PixelInsets.fit lead trail size).2)
      (target - (PixelInsets.fit lead trail size).2) (PixelInsets.fit lead trail size).2 := by
  refine ⟨?_, ?_, ?_, ?_⟩
  · simp only [axisCuts_source, getD_four]
    omega
  · simp only [axisCuts_source, getD_four, Nat.reduceAdd]
    omega
  · simp only [axisCuts_target, getD_four, min_eq_left hlead, min_eq_left htrail]
  · simp only [axisCuts_target, getD_four, Nat.reduceAdd, min_eq_left hlead, min_eq_left htrail]
    omega

end Caps

theorem tiles_eq :
    tiles = [(0, 0), (0, 1), (0, 2), (1, 0), (1, 1), (1, 2), (2, 0), (2, 1), (2, 2)] :=
  rfl

/-- With no empty side and insets that are not all zero, a stretch paints the nine tiles over a
clear canvas of the drawn size. -/
theorem stretch_eq_paintTiles (p : Raster) (insets : PixelInsets) (w h : Nat) (hp : 0 < p.width)
    (hq : 0 < p.height) (hw : 0 < w) (hh : 0 < h) (hins : insets.isZero = false) :
    stretch p insets w h =
      paintTiles p.scan (axisCuts insets.left insets.right p.width w)
        (axisCuts insets.top insets.bottom p.height h) tiles (Canvas.filled w h Rgba8.clear) := by
  unfold stretch
  rw [if_neg (by simp only [Bool.or_eq_true, beq_iff_eq]; omega), if_neg (by simp [hins])]
  rfl

/-- The four corners of a canvas `out` are copies, pixel by pixel, of those of `src`, with caps
`L` and `R` wide and `T` and `B` high. -/
def CornersCopied (src out : Canvas) (L R T B : Nat) : Prop :=
  ∀ x y,
    (x < L → y < T → out.pixelAt x y = src.pixelAt x y) ∧
    (x < R → y < T → out.pixelAt (out.width - R + x) y = src.pixelAt (src.width - R + x) y) ∧
    (x < L → y < B → out.pixelAt x (out.height - B + y) = src.pixelAt x (src.height - B + y)) ∧
    (x < R → y < B →
      out.pixelAt (out.width - R + x) (out.height - B + y) =
        src.pixelAt (src.width - R + x) (src.height - B + y))


/-- When the caps fit in the drawn size, the four corners of a stretch are the corners of the
source: each corner tile is copied unchanged, and the tiles painted after it lie to its right or
below it. -/
theorem stretch_corners (p : Raster) (insets : PixelInsets) (w h : Nat) (hp : 0 < p.width)
    (hq : 0 < p.height) (hw : 0 < w) (hh : 0 < h) (hins : insets.isZero = false)
    (hx : max insets.left 0 + max insets.right 0 < 2 ^ 63)
    (hy : max insets.top 0 + max insets.bottom 0 < 2 ^ 63)
    (hL : (PixelInsets.fit insets.left insets.right p.width).1 ≤ w / 2)
    (hR : (PixelInsets.fit insets.left insets.right p.width).2 ≤
      w - (PixelInsets.fit insets.left insets.right p.width).1)
    (hT : (PixelInsets.fit insets.top insets.bottom p.height).1 ≤ h / 2)
    (hB : (PixelInsets.fit insets.top insets.bottom p.height).2 ≤
      h - (PixelInsets.fit insets.top insets.bottom p.height).1) :
    CornersCopied p.scan (stretch p insets w h)
      (PixelInsets.fit insets.left insets.right p.width).1
      (PixelInsets.fit insets.left insets.right p.width).2
      (PixelInsets.fit insets.top insets.bottom p.height).1
      (PixelInsets.fit insets.top insets.bottom p.height).2 := by
  obtain ⟨-, -, hLR⟩ := PixelInsets.fit_le hx hp
  obtain ⟨-, -, hTB⟩ := PixelInsets.fit_le hy hq
  have hleft := axisCuts_copies_lead insets.left insets.right p.width w hL
  have hright := axisCuts_copies_trail insets.left insets.right p.width w hLR hL hR
  have htop := axisCuts_copies_lead insets.top insets.bottom p.height h hT
  have hbottom := axisCuts_copies_trail insets.top insets.bottom p.height h hTB hT hB
  -- the drawn cuts that the later tiles start at
  have hxt := And.intro hleft.2.2.1 (And.intro hleft.2.2.2 hright.2.2.1)
  have hyt := And.intro htop.2.2.1 (And.intro htop.2.2.2 hbottom.2.2.1)
  simp only [Nat.zero_add, Array.getD_eq_getD_getElem?] at hxt hyt
  rw [stretch_eq_paintTiles p insets w h hp hq hw hh hins, tiles_eq]
  intro x y
  simp only [paintTiles_width, paintTiles_height, Canvas.filled_width, Canvas.filled_height,
    Raster.scan_width, Raster.scan_height]
  refine ⟨fun hx' hy' => ?_, fun hx' hy' => ?_, fun hx' hy' => ?_, fun hx' hy' => ?_⟩
  · -- the top left tile is painted first
    have hcopy := paintTiles_copy p.scan _ _ [] [(0, 1), (0, 2), (1, 0), (1, 1), (1, 2), (2, 0),
      (2, 1), (2, 2)] (Canvas.filled w h Rgba8.clear) hleft htop (by simp; omega) (by simp; omega)
      (by simp; omega) (by simp; omega) hx' hy' (by simp [hxt, hyt]; omega)
    simpa using hcopy
  · -- the top right tile is followed by the rows below it
    have hcopy := paintTiles_copy p.scan _ _ [(0, 0), (0, 1)] [(1, 0), (1, 1), (1, 2), (2, 0),
      (2, 1), (2, 2)] (Canvas.filled w h Rgba8.clear) hright htop (by simp; omega) (by simp; omega) (by simp; omega)
      (by simp; omega) hx' hy' (by simp [hxt, hyt]; omega)
    simpa using hcopy
  · -- the bottom left tile is followed by the rest of the bottom row
    have hcopy := paintTiles_copy p.scan _ _ [(0, 0), (0, 1), (0, 2), (1, 0), (1, 1), (1, 2)]
      [(2, 1), (2, 2)] (Canvas.filled w h Rgba8.clear) hleft hbottom (by simp; omega) (by simp; omega) (by simp; omega)
      (by simp; omega) hx' hy' (by simp [hxt, hyt]; omega)
    simpa using hcopy
  · -- the bottom right tile is painted last
    have hcopy := paintTiles_copy p.scan _ _ [(0, 0), (0, 1), (0, 2), (1, 0), (1, 1), (1, 2),
      (2, 0), (2, 1)] [] (Canvas.filled w h Rgba8.clear) hright hbottom (by simp; omega) (by simp; omega) (by simp; omega)
      (by simp; omega) hx' hy' (by simp)
    simpa using hcopy


/-- A nine-slice stretch of a picture with no empty side, to a size with no empty side, with
insets that are not all zero, has exactly `w × h` pixels. Each axis whose two insets, negatives
taken as zero, sum below `2^63` is partitioned by its cuts, with a middle source slice that is not
empty. And when both axes are, and the fitted caps fit in the drawn size, the four corners of the
result are the corners of the source, pixel by pixel. -/
theorem stretch_nine_slice (p : Raster) (insets : PixelInsets) (w h : Nat) (hp : 0 < p.width)
    (hq : 0 < p.height) (hw : 0 < w) (hh : 0 < h) (hins : insets.isZero = false) :
    let out := stretch p insets w h
    let columns := PixelInsets.fit insets.left insets.right p.width
    let rows := PixelInsets.fit insets.top insets.bottom p.height
    out.width = w ∧ out.height = h ∧ out.pixels.size = w * h ∧
    (max insets.left 0 + max insets.right 0 < 2 ^ 63 →
      (axisCuts insets.left insets.right p.width w).Partitions p.width w) ∧
    (max insets.top 0 + max insets.bottom 0 < 2 ^ 63 →
      (axisCuts insets.top insets.bottom p.height h).Partitions p.height h) ∧
    (max insets.left 0 + max insets.right 0 < 2 ^ 63 →
      max insets.top 0 + max insets.bottom 0 < 2 ^ 63 →
      columns.1 ≤ w / 2 → columns.2 ≤ w - columns.1 → rows.1 ≤ h / 2 → rows.2 ≤ h - rows.1 →
      CornersCopied p.scan out columns.1 columns.2 rows.1 rows.2) := by
  intro out columns rows
  have hout : out = _ := stretch_eq_paintTiles p insets w h hp hq hw hh hins
  refine ⟨?_, ?_, ?_, fun hx => axisCuts_partitions _ _ _ _ hx hp,
    fun hy => axisCuts_partitions _ _ _ _ hy hq, ?_⟩
  · rw [hout, paintTiles_width, Canvas.filled_width]
  · rw [hout, paintTiles_height, Canvas.filled_height]
  · rw [hout, paintTiles_size _ _ _ _ (Canvas.filled_size _ _ _), Canvas.filled_width,
      Canvas.filled_height]
  · intro hx hy hL hR hT hB
    exact stretch_corners p insets w h hp hq hw hh hins hx hy hL hR hT hB

/-- A clear picture of four by four pixels with caps of one pixel, drawn at twenty by ten. -/
theorem stretch_nine_slice_frame :
    let p := (Canvas.filled 4 4 Rgba8.clear).toRaster
    let insets : PixelInsets := ⟨1, 1, 1, 1⟩
    (0 < p.width ∧ 0 < p.height ∧ 0 < 20 ∧ 0 < 10 ∧ insets.isZero = false) ∧
    let out := stretch p insets 20 10
    let columns := PixelInsets.fit insets.left insets.right p.width
    let rows := PixelInsets.fit insets.top insets.bottom p.height
    out.width = 20 ∧ out.height = 10 ∧ out.pixels.size = 20 * 10 ∧
    (max insets.left 0 + max insets.right 0 < 2 ^ 63 →
      (axisCuts insets.left insets.right p.width 20).Partitions p.width 20) ∧
    (max insets.top 0 + max insets.bottom 0 < 2 ^ 63 →
      (axisCuts insets.top insets.bottom p.height 10).Partitions p.height 10) ∧
    (max insets.left 0 + max insets.right 0 < 2 ^ 63 →
      max insets.top 0 + max insets.bottom 0 < 2 ^ 63 →
      columns.1 ≤ 20 / 2 → columns.2 ≤ 20 - columns.1 → rows.1 ≤ 10 / 2 → rows.2 ≤ 10 - rows.1 →
      CornersCopied p.scan out columns.1 columns.2 rows.1 rows.2) :=
  ⟨⟨by decide, by decide, by decide, by decide, by decide⟩,
    stretch_nine_slice (Canvas.filled 4 4 Rgba8.clear).toRaster ⟨1, 1, 1, 1⟩ 20 10 (by decide)
      (by decide) (by decide) (by decide) (by decide)⟩

end Theming.Picture
