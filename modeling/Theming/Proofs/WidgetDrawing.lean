import Theming.Widget.Render
import Theming.Proofs.DoubleValues

/-!
# Drawing a widget

A widget is drawn at its frame's size. Each side is rounded to whole pixels, halves away from
zero, and capped at 4096; a side that rounds to zero or less, or is not a number, leaves nothing
to draw, and the drawing fails with `emptyFrame`.

* `renderSide_eq_framePixels`: the pixels a side gives are its exact value rounded and capped
  (`framePixels`), and there are none exactly when the side is not a number or rounds to zero or
  less (`framePixels_eq_zero_iff`).
* `render_emptyFrame_iff`, `render_size`: the drawing fails with `emptyFrame` exactly then;
  otherwise it is a canvas of exactly those sides, or the failure to decode the background image.
* `render_fill`: a hidden widget, or one without a background image, is drawn in one colour, its
  background colour's fill (`fillColor`), or transparent black without one.
* `fillColor_spec`: the fill goes through 16-bit premultiplied channels and back. It keeps the
  alpha byte; an opaque colour comes back as it was and a clear one as transparent black, but
  in between a colour channel may come back one lower (`LosesAtMostOne`).
  `fill_lowers_channels` shows it happening.

`render_draws_frame` collects them.
-/

set_option autoImplicit false

namespace Theming.Widget

open Theming.Value Theming.Picture Theming.Number Float.Model

/-! ## Frame sides -/

/-- The pixels a frame side gives, read on its exact value: the side rounded, halves away from
zero, and capped at 4096, with none for a side that rounds to zero or less; an infinite side
gives 4096 when positive, and not-a-number none. -/
def framePixels (f : Float) : ℕ :=
  match exactValue? f with
  | some q => (min (halfAway q) maxRenderSide).toNat
  | none => if 0 < f then maxRenderSide else 0

theorem exactValue?_zero : exactValue? (0 : Float) = some 0 := by
  have hbits : (0 : Float).toBits.toNat = 0 := by decide
  rw [exactValue?_eq_pattern, hbits, if_neg (by norm_num), patternValue_zero]

theorem exactValue?_maxRenderSide : exactValue? (Float.ofNat maxRenderSide) = some 4096 := by
  have hbits : (Float.ofNat maxRenderSide).toBits.toNat = 1035 * 2 ^ 52 + 0 := by decide
  rw [exactValue?_eq_pattern, hbits, if_neg (by norm_num),
    patternValue_fields (by norm_num) (by norm_num) (by norm_num)]
  norm_num

theorem truncateToInt64_maxRenderSide : truncateToInt64 (Float.ofNat maxRenderSide) = 4096 := by
  rw [truncateToInt64_eq exactValue?_maxRenderSide]
  have hcast : (4096 : ℚ) = ((4096 : ℤ) : ℚ) := by norm_num
  rw [hcast, towardZero_intCast]
  decide

theorem isNaN_of_exactValue {x : Float} {q : ℚ} (hx : exactValue? x = some q) :
    x.isNaN = false := by
  rw [isNaN_eq_unpack]
  rw [exactValue?_eq_unpack] at hx
  cases h : x.toModel.unpack with
  | infinity s => rw [h] at hx; cases hx
  | notANumber => rw [h] at hx; cases hx
  | zero s => rfl
  | finite s m e hm => rfl

/-- A double with no exact value is not-a-number or an infinity. -/
theorem unpack_of_no_value {x : Float} (hx : exactValue? x = none) :
    x.toModel.unpack = .notANumber ∨ ∃ s, x.toModel.unpack = .infinity s := by
  rw [exactValue?_eq_unpack] at hx
  cases h : x.toModel.unpack with
  | infinity s => exact .inr ⟨s, rfl⟩
  | notANumber => exact .inl rfl
  | zero s => rw [h] at hx; cases hx
  | finite s m e hm => rw [h] at hx; cases hx

theorem biasedExponent_of_no_value {x : Float} (hx : exactValue? x = none) :
    biasedExponent x = 2047 := by
  by_contra h
  rw [exactValue?, if_neg h] at hx
  cases hx

theorem halfAway_nonpos {q : ℚ} (hq : q ≤ 0) : halfAway q ≤ 0 := by
  rcases hq.lt_or_eq with hlt | rfl
  · rw [halfAway, if_neg (not_le.2 hlt), neg_nonpos, round_eq]
    exact Int.floor_nonneg.2 (by linarith)
  · simp [halfAway]

theorem halfAway_pos {q : ℚ} (hq : 0 < q) : 0 ≤ halfAway q := by
  rw [halfAway_of_nonneg hq.le, round_eq]
  exact Int.floor_nonneg.2 (by linarith)

/-- The canvas side of a finite frame side is its exact value rounded and capped. -/
theorem renderSide_of_value {f : Float} {q : ℚ} (hf : exactValue? f = some q) :
    renderSide f = (min (halfAway q) maxRenderSide).toNat := by
  have hle0 : f ≤ 0 ↔ q ≤ 0 := le_iff_value hf exactValue?_zero
  unfold renderSide
  rw [isNaN_of_exactValue hf, Bool.or_false]
  by_cases hq : q ≤ 0
  · rw [if_pos (decide_eq_true (hle0.2 hq))]
    have := halfAway_nonpos hq
    omega
  rw [if_neg (by simpa using mt hle0.1 hq)]
  -- the rounded side against the cap, both compared as exact values
  have hr := exactValue?_roundHalfAway hf
  have hcap : roundHalfAway f ≤ Float.ofNat maxRenderSide ↔ halfAway q ≤ 4096 := by
    rw [le_iff_value hr exactValue?_maxRenderSide]
    exact_mod_cast Iff.rfl
  have hmin : min (roundHalfAway f) (Float.ofNat maxRenderSide) =
      if roundHalfAway f ≤ Float.ofNat maxRenderSide then roundHalfAway f
      else Float.ofNat maxRenderSide := rfl
  have hpos := halfAway_pos (not_le.1 hq)
  rw [hmin]
  by_cases hc : halfAway q ≤ 4096
  · rw [if_pos (hcap.2 hc), truncateToInt64_of_whole hr hpos hc]
    simp only [maxRenderSide, Nat.cast_ofNat]
    omega
  · rw [if_neg (mt hcap.1 hc), truncateToInt64_maxRenderSide]
    simp only [maxRenderSide, Nat.cast_ofNat]
    omega

/-- The positive infinity is above every finite double, and the negative one below. -/
theorem infinity_le_iff {s : UnpackedFloat.Sign} {u : UnpackedFloat} {q : ℚ}
    (hu : unpackedValue? u = some q) :
    (UnpackedFloat.infinity s).le u = true ↔ s = .negative := by
  cases u with
  | infinity t => cases hu
  | notANumber => cases hu
  | zero t => cases s <;> cases t <;> simp [UnpackedFloat.le, UnpackedFloat.compare]
  | finite t m e hm => cases s <;> simp [UnpackedFloat.le, UnpackedFloat.compare]

theorem le_infinity_iff {s : UnpackedFloat.Sign} {u : UnpackedFloat} {q : ℚ}
    (hu : unpackedValue? u = some q) :
    u.le (UnpackedFloat.infinity s) = true ↔ s = .positive := by
  cases u with
  | infinity t => cases hu
  | notANumber => cases hu
  | zero t => cases s <;> cases t <;> simp [UnpackedFloat.le, UnpackedFloat.compare]
  | finite t m e hm => cases s <;> cases t <;> simp [UnpackedFloat.le, UnpackedFloat.compare]

/-- The canvas side of an infinite or not-a-number frame side: 4096 for the positive infinity,
none otherwise. -/
theorem renderSide_of_no_value {f : Float} (hf : exactValue? f = none) :
    renderSide f = if 0 < f then maxRenderSide else 0 := by
  have hzero : unpackedValue? (0 : Float).toModel.unpack = some 0 := by
    rw [← exactValue?_eq_unpack, exactValue?_zero]
  have hcap : unpackedValue? (Float.ofNat maxRenderSide).toModel.unpack = some 4096 := by
    rw [← exactValue?_eq_unpack, exactValue?_maxRenderSide]
  unfold renderSide
  rw [roundHalfAway_of_not_finite (biasedExponent_of_no_value hf)]
  rcases unpack_of_no_value hf with hnan | ⟨s, hinf⟩
  · have hn : f.isNaN = true := by rw [isNaN_eq_unpack, hnan]; rfl
    have hlt : ¬0 < f := by
      rw [lt_iff_unpack, hnan]
      exact Bool.false_ne_true
    rw [hn, Bool.or_true, if_pos rfl, if_neg hlt]
  · have hn : f.isNaN = false := by rw [isNaN_eq_unpack, hinf]; rfl
    have hle0 : f ≤ 0 ↔ s = .negative := by rw [le_iff_unpack, hinf]; exact infinity_le_iff hzero
    have hlt0 : 0 < f ↔ s = .positive := by
      rw [lt_iff_unpack, hinf, zero_unpack]
      cases s <;> simp [UnpackedFloat.lt, UnpackedFloat.compare]
    rw [hn, Bool.or_false]
    cases s
    · rw [if_pos (decide_eq_true (hle0.2 rfl)), if_neg (hlt0.not.2 (by simp))]
    · have hcapped : ¬f ≤ Float.ofNat maxRenderSide := by
        rw [le_iff_unpack, hinf, infinity_le_iff hcap]
        simp
      have hmin : min f (Float.ofNat maxRenderSide) = Float.ofNat maxRenderSide := if_neg hcapped
      rw [if_neg (by simpa using hle0.not.2 (by simp)), if_pos (hlt0.2 rfl), hmin,
        truncateToInt64_maxRenderSide]
      rfl

/-- A frame side gives the pixels of its exact value rounded and capped. -/
theorem renderSide_eq_framePixels (f : Float) : renderSide f = framePixels f := by
  unfold framePixels
  cases hf : exactValue? f with
  | some q => exact renderSide_of_value hf
  | none => exact renderSide_of_no_value hf

/-- A frame side gives no pixels exactly when it is not a number or rounds to zero or less. -/
theorem framePixels_eq_zero_iff (f : Float) :
    framePixels f = 0 ↔ f.isNaN = true ∨ roundHalfAway f ≤ 0 := by
  unfold framePixels
  cases hf : exactValue? f with
  | some q =>
    have hr := exactValue?_roundHalfAway hf
    rw [isNaN_of_exactValue hf, le_iff_value hr exactValue?_zero]
    simp only [Bool.false_eq_true, false_or, Int.cast_nonpos, maxRenderSide]
    omega
  | none =>
    rw [roundHalfAway_of_not_finite (biasedExponent_of_no_value hf)]
    rcases unpack_of_no_value hf with hnan | ⟨s, hinf⟩
    · have hn : f.isNaN = true := by rw [isNaN_eq_unpack, hnan]; rfl
      have hlt : ¬0 < f := by
        rw [lt_iff_unpack, hnan]
        exact Bool.false_ne_true
      rw [if_neg hlt]
      exact iff_of_true rfl (.inl hn)
    · have hzero : unpackedValue? (0 : Float).toModel.unpack = some 0 := by
        rw [← exactValue?_eq_unpack, exactValue?_zero]
      have hn : f.isNaN = false := by rw [isNaN_eq_unpack, hinf]; rfl
      have hle0 : f ≤ 0 ↔ s = .negative := by
        rw [le_iff_unpack, hinf]
        exact infinity_le_iff hzero
      have hlt0 : 0 < f ↔ s = .positive := by
        rw [lt_iff_unpack, hinf, zero_unpack]
        cases s <;> simp [UnpackedFloat.lt, UnpackedFloat.compare]
      cases s
      · rw [if_neg (hlt0.not.2 (by simp))]
        exact iff_of_true rfl (.inr (hle0.2 rfl))
      · rw [if_pos (hlt0.2 rfl), hn]
        exact iff_of_false (by decide) (by simpa using hle0.not.2 (by simp))

end Theming.Widget

/-! ## The fill colour -/

namespace Theming.Picture

/-- `p` is `q` with the same alpha and each colour channel the same or one lower: what a round
trip through premultiplied 16-bit channels can do to a byte colour. -/
def Rgba8.LosesAtMostOne (p q : Rgba8) : Prop :=
  p.a = q.a ∧ p.r ≤ q.r ∧ q.r ≤ p.r + 1 ∧ p.g ≤ q.g ∧ q.g ≤ p.g + 1 ∧ p.b ≤ q.b ∧ q.b ≤ p.b + 1

/-- A byte channel `c` at byte alpha `a`, neither zero nor all ones, premultiplied to 16 bits and
divided back: the byte comes back as `c` or one lower. -/
theorem straightened_channel {c a : ℕ} (hc : c < 256) (ha0 : 0 < a) (ha : a < 256) :
    c * 0x101 * a / 0xFF * 0xFFFF / (a * 0x101) / 256 % 256 ≤ c ∧
      c ≤ c * 0x101 * a / 0xFF * 0xFFFF / (a * 0x101) / 256 % 256 + 1 := by
  obtain ⟨X, hX⟩ : ∃ X, X = c * a := ⟨_, rfl⟩
  obtain ⟨P, hP⟩ : ∃ P, P = c * 0x101 * a / 0xFF := ⟨_, rfl⟩
  have hP' : P = 257 * X / 255 := by rw [hP, hX]; ring_nf
  have hden : 0 < a * 0x101 := by positivity
  -- premultiplying and dividing back loses less than one unit of the 16-bit channel
  have hup : P * 0xFFFF / (a * 0x101) ≤ 257 * c := by
    apply Nat.div_le_of_le_mul
    have : (a * 0x101) * (257 * c) = 66049 * X := by rw [hX]; ring
    rw [this]
    omega
  have hdown : 257 * c - 255 ≤ P * 0xFFFF / (a * 0x101) := by
    rw [Nat.le_div_iff_mul_le hden]
    rcases Nat.eq_zero_or_pos c with rfl | hc0
    · simp
    · have hexp : (257 * c - 255) * (a * 0x101) + 65535 * a = 66049 * X := by
        rw [hX]
        zify [show 255 ≤ 257 * c by omega]
        ring
      omega
  obtain ⟨Q, hQ⟩ : ∃ Q, Q = P * 0xFFFF / (a * 0x101) := ⟨_, rfl⟩
  rw [← hQ] at hup hdown
  rw [← hP, ← hQ]
  have hQ256 : Q / 256 < 256 := by omega
  rw [Nat.mod_eq_of_lt hQ256]
  constructor <;> omega

/-- A byte colour through premultiplied 16-bit channels and back: opaque it comes back as it
was, clear it becomes transparent black, and otherwise it keeps its alpha and loses at most one
in each colour channel. -/
theorem straighten_premultiplied {r g b a : ℕ} (hr : r < 256) (hg : g < 256) (hb : b < 256)
    (ha : a < 256) :
    let p := Shade.straighten (Shade.nrgba r g b a).premultiplied
    (a = 255 → p = ⟨r, g, b, a⟩) ∧ (a = 0 → p = Rgba8.clear) ∧
      (0 < a → p.LosesAtMostOne ⟨r, g, b, a⟩) := by
  intro p
  have hfull : a = 255 → p = ⟨r, g, b, a⟩ := by
    rintro rfl
    -- at full alpha the premultiplied channel is the byte times 257, and halving back gives it
    have hback {c : ℕ} (hc : c < 256) : c * 0x101 * 255 / 0xFF / 256 = c := by
      rw [Nat.mul_div_cancel _ (by norm_num)]
      omega
    simp only [p, Shade.premultiplied, Shade.straighten, Nat.reduceMul, BEq.rfl, ↓reduceIte,
      hback hr, hback hg, hback hb]
  refine ⟨hfull, ?_, fun ha0 => ?_⟩
  · rintro rfl
    simp only [p, Shade.premultiplied, Shade.straighten, Nat.zero_mul, Nat.mul_zero, Nat.zero_div,
      BEq.rfl, Nat.reduceBEq, Bool.false_eq_true, ↓reduceIte]
  rcases Nat.lt_or_ge a 255 with hlt | hge
  · -- neither opaque nor clear: each channel is divided back by the alpha
    have hne : (a * 0x101 == 0xFFFF) = false := by simp only [beq_eq_false_iff_ne]; omega
    have hne0 : (a * 0x101 == 0) = false := by simp only [beq_eq_false_iff_ne]; omega
    have hp : p = ⟨r * 0x101 * a / 0xFF * 0xFFFF / (a * 0x101) / 256 % 256,
        g * 0x101 * a / 0xFF * 0xFFFF / (a * 0x101) / 256 % 256,
        b * 0x101 * a / 0xFF * 0xFFFF / (a * 0x101) / 256 % 256, a * 0x101 / 256⟩ := by
      simp only [p, Shade.premultiplied, Shade.straighten, hne, hne0, Bool.false_eq_true,
        ↓reduceIte]
    obtain ⟨hr₁, hr₂⟩ := straightened_channel hr ha0 ha
    obtain ⟨hg₁, hg₂⟩ := straightened_channel hg ha0 ha
    obtain ⟨hb₁, hb₂⟩ := straightened_channel hb ha0 ha
    rw [hp]
    exact ⟨by show a * 0x101 / 256 = a; omega, hr₁, hr₂, hg₁, hg₂, hb₁, hb₂⟩
  · rw [hfull (by omega)]
    exact ⟨rfl, le_rfl, by omega, le_rfl, by omega, le_rfl, by omega⟩

end Theming.Picture

namespace Theming.Value

/-- The 8-bit straight channels of a colour, as it reports them. -/
def Color.nrgba (c : Color) : Theming.Picture.Rgba8 :=
  ⟨Color.channelByte c.r, Color.channelByte c.g, Color.channelByte c.b, Color.alphaByte c.a⟩

theorem truncateToByte_lt (x : Float) : Theming.Number.truncateToByte x < 256 := by
  unfold Theming.Number.truncateToByte
  have h := Int.emod_lt_of_pos (Theming.Number.truncateToInt64 x) (show (0 : ℤ) < 256 by norm_num)
  have h0 := Int.emod_nonneg (Theming.Number.truncateToInt64 x) (show (256 : ℤ) ≠ 0 by norm_num)
  omega

end Theming.Value

namespace Theming.Widget

open Theming.Value Theming.Picture Theming.Number

/-- A colour is filled in as its bytes through premultiplied 16-bit channels: opaque it fills
with its own bytes, clear with transparent black, and otherwise with its alpha and each colour
channel its own or one lower. -/
theorem fillColor_spec (c : Color) :
    (c.nrgba.a = 255 → fillColor c = c.nrgba) ∧ (c.nrgba.a = 0 → fillColor c = Rgba8.clear) ∧
      (0 < c.nrgba.a → (fillColor c).LosesAtMostOne c.nrgba) :=
  straighten_premultiplied (truncateToByte_lt _) (truncateToByte_lt _) (truncateToByte_lt _)
    (truncateToByte_lt _)

/-! ## Drawing -/

section Drawing

variable (w : Widget)

/-- The colour a widget is filled with: its background colour's fill, or transparent black
without one. -/
def Widget.fill : Rgba8 := (w.base.backgroundColor.map fillColor).getD Rgba8.clear

/-- A widget's fill at its frame's size in pixels. -/
def Widget.filledCanvas : Canvas :=
  Canvas.filled (framePixels w.base.frame.w) (framePixels w.base.frame.h) w.fill

/-- A side of the frame gives no pixels. -/
def Widget.EmptyFrame : Prop := framePixels w.base.frame.w = 0 ∨ framePixels w.base.frame.h = 0

theorem render_of_emptyFrame (h : w.EmptyFrame) : w.render = .error .emptyFrame := by
  simp only [Widget.render, renderSide_eq_framePixels]
  rcases h with h | h <;> simp [h, throw, throwThe, MonadExceptOf.throw]

theorem render_of_plain (h : ¬w.EmptyFrame) (hplain : w.base.hidden = true ∨ w.background = none) :
    w.render = .ok w.filledCanvas := by
  simp only [Widget.EmptyFrame, not_or] at h
  simp only [Widget.render, renderSide_eq_framePixels]
  rcases hplain with hp | hp <;> simp [h, hp, Widget.filledCanvas, Widget.fill, pure, Except.pure]

/-- A shown widget with a background image is the image laid over its fill, or the image's
failure to decode. -/
theorem render_of_background {img : Image} (h : ¬w.EmptyFrame) (hshown : w.base.hidden = false)
    (hb : w.background = some img) :
    (∃ msg, img.decode = .error msg ∧ w.render = .error (.plain msg)) ∨
      ∃ picture, w.render = .ok (overlay w.filledCanvas picture (max 0 (min 1 w.base.alpha))) := by
  simp only [Widget.EmptyFrame, not_or] at h
  simp only [Widget.render, renderSide_eq_framePixels]
  cases hs : img.stretchTo (framePixels w.base.frame.w) (framePixels w.base.frame.h) with
  | error msg =>
    left
    refine ⟨msg, ?_, by simp [h, hshown, hb, hs, Except.mapError]⟩
    -- stretching fails only when decoding does, with its message
    unfold Image.stretchTo at hs
    cases hd : img.decode <;> simp_all [bind, Except.bind]
  | ok picture =>
    right
    exact ⟨picture, by simp [h, hshown, hb, hs, Except.mapError, Widget.filledCanvas, Widget.fill]⟩

/-- Unless a side gives no pixels, the drawing is a canvas of the frame's size in pixels, or the
background image's failure to decode. -/
theorem render_size (h : ¬w.EmptyFrame) :
    (∃ c, w.render = .ok c ∧ c.width = framePixels w.base.frame.w ∧
        c.height = framePixels w.base.frame.h) ∨
      ∃ img msg, w.background = some img ∧ img.decode = .error msg ∧
        w.render = .error (.plain msg) := by
  -- the fill has the frame's size, and laying the image over it keeps that size
  cases hv : w.base.hidden with
  | true => exact .inl ⟨_, render_of_plain w h (.inl hv), rfl, rfl⟩
  | false =>
    cases hb : w.background with
    | none => exact .inl ⟨_, render_of_plain w h (.inr hb), rfl, rfl⟩
    | some img =>
      rcases render_of_background w h hv hb with ⟨msg, hd, hr⟩ | ⟨picture, hr⟩
      · exact .inr ⟨img, msg, rfl, hd, hr⟩
      · exact .inl ⟨_, hr, rfl, rfl⟩

theorem render_emptyFrame_iff : w.render = .error .emptyFrame ↔ w.EmptyFrame := by
  refine ⟨fun hr => ?_, render_of_emptyFrame w⟩
  by_contra h
  rcases render_size w h with ⟨c, hc, -, -⟩ | ⟨img, msg, -, -, hm⟩
  · rw [hc] at hr
    cases hr
  · rw [hm] at hr
    cases hr

/-- A hidden widget, or one without a background image, is drawn in its fill alone. -/
theorem render_fill (hplain : w.base.hidden = true ∨ w.background = none) {c : Canvas}
    (hc : w.render = .ok c) : ∀ p ∈ c.pixels, p = w.fill := by
  have h : ¬w.EmptyFrame := fun h => by
    rw [render_of_emptyFrame w h] at hc
    cases hc
  rw [render_of_plain w h hplain] at hc
  cases hc
  intro p hp
  exact (Array.mem_replicate.1 hp).2

end Drawing

/-- A view of two by one pixels whose background colour has bytes `(200, 100, 50, 1)` is drawn
as `(200, 99, 49, 1)` in both pixels: at alpha 1 the premultiplied green and blue channels lose
their fractions, and dividing back gives each one less. -/
theorem fill_lowers_channels :
    let w := Widget.view { View.sized 2 1 with backgroundColor := some (Color.ofBytes 200 100 50 1) }
    (Color.ofBytes 200 100 50 1).nrgba = ⟨200, 100, 50, 1⟩ ∧ w.background = none ∧
      w.render = .ok (Canvas.filled 2 1 ⟨200, 99, 49, 1⟩) := by
  intro w
  have hW : framePixels w.base.frame.w = 2 := by decide +kernel
  have hH : framePixels w.base.frame.h = 1 := by decide +kernel
  have hfill : w.fill = ⟨200, 99, 49, 1⟩ := by decide +kernel
  refine ⟨by decide +kernel, rfl, ?_⟩
  rw [render_of_plain w (by simp [Widget.EmptyFrame, hW, hH]) (.inr rfl), Widget.filledCanvas, hW,
    hH, hfill]

/-- A widget is drawn at exactly its frame's size. The drawing fails with `emptyFrame` exactly
when a side is not a number or rounds, halves away from zero, to zero or less. Otherwise it is a
canvas whose sides are the frame's rounded and capped at 4096 (`framePixels`), or the failure to
decode the background image. A hidden widget, or one without a background image, is drawn in one
colour in every pixel: transparent black without a background colour, and otherwise the colour's
bytes through 16-bit premultiplied channels, which an opaque colour keeps, a clear one turns into
transparent black, and any other keeps in its alpha with each colour channel its own or one
lower. -/
theorem render_draws_frame (w : Widget) :
    (w.render = .error .emptyFrame ↔
        (w.base.frame.w.isNaN = true ∨ roundHalfAway w.base.frame.w ≤ 0) ∨
          (w.base.frame.h.isNaN = true ∨ roundHalfAway w.base.frame.h ≤ 0)) ∧
    (framePixels w.base.frame.w ≠ 0 → framePixels w.base.frame.h ≠ 0 →
      (∃ c, w.render = .ok c ∧ c.width = framePixels w.base.frame.w ∧
          c.height = framePixels w.base.frame.h) ∨
        ∃ img msg, w.background = some img ∧ img.decode = .error msg ∧
          w.render = .error (.plain msg)) ∧
    ((w.base.hidden = true ∨ w.background = none) → ∀ c, w.render = .ok c →
      ∀ p ∈ c.pixels, p = (w.base.backgroundColor.map fillColor).getD Rgba8.clear) ∧
    (∀ color : Color, (color.nrgba.a = 255 → fillColor color = color.nrgba) ∧
      (color.nrgba.a = 0 → fillColor color = Rgba8.clear) ∧
      (0 < color.nrgba.a → (fillColor color).LosesAtMostOne color.nrgba)) := by
  refine ⟨?_, fun hW hH => render_size w (not_or.2 ⟨hW, hH⟩),
    fun hplain _ hc => render_fill w hplain hc, fillColor_spec⟩
  rw [render_emptyFrame_iff, Widget.EmptyFrame, framePixels_eq_zero_iff, framePixels_eq_zero_iff]

/-- The plain view of two by one pixels with background colour bytes `(200, 100, 50, 1)` is drawn
in its fill, `(200, 99, 49, 1)`, in every pixel. -/
theorem plain_view_drawn_in_fill :
    let w := Widget.view { View.sized 2 1 with backgroundColor := some (Color.ofBytes 200 100 50 1) }
    ∀ c, w.render = .ok c → ∀ p ∈ c.pixels, p = ⟨200, 99, 49, 1⟩ := by
  intro w c hc p hp
  have hfill : (w.base.backgroundColor.map fillColor).getD Rgba8.clear = ⟨200, 99, 49, 1⟩ := by
    decide +kernel
  rw [← hfill]
  exact (render_draws_frame w).2.2.1 (.inr rfl) c hc p hp

end Theming.Widget
