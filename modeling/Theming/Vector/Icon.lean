import Theming.Markup.Xml
import Theming.Number.Read
import Theming.Number.Convert
import Theming.Text.Printable

/-!
# Vector icons

An icon is read from an SVG document: the view box of its `svg` element (or its `width` and
`height` when the box gives none), and its filled shapes in document order. A shape is made of
closed outlines of points in 26.6 fixed point (coordinates are cut toward zero to a 64th), with
the fill color, fill opacity and transform in force where it stands.

Styles are inherited down the element tree and come from attributes and `style` declarations:
`fill` (a color name, `#rgb`, `#rrggbb`, `rgb(r,g,b)`, `none`, or a `url(…)` that paints black),
`opacity` and `fill-opacity` (which multiply), `stroke` colors (checked only) and `transform`
(`translate`, `scale`, `rotate` and `matrix`, applied after the parent's). Shapes are
rectangles, polygons and polylines, and paths of straight segments (`M L H V Z`, absolute or
relative). Elements that are not understood are skipped.
-/

set_option autoImplicit false

namespace Theming.Vector

open Theming.Markup Theming.Number

/-- An affine map `(x, y) ↦ (a·x + c·y + e, b·x + d·y + f)`. -/
structure Affine where
  a : Float
  b : Float
  c : Float
  d : Float
  e : Float
  f : Float
  deriving Inhabited

namespace Affine

/-- The identity map. -/
def identity : Affine := ⟨1, 0, 0, 1, 0, 0⟩

/-- The map that applies `n` first, then `m`. -/
def mult (m n : Affine) : Affine :=
  { a := m.a * n.a + m.c * n.b, b := m.b * n.a + m.d * n.b,
    c := m.a * n.c + m.c * n.d, d := m.b * n.c + m.d * n.d,
    e := m.a * n.e + m.c * n.f + m.e, f := m.b * n.e + m.d * n.f + m.f }

/-- A translation applied before the map. -/
def translate (m : Affine) (x y : Float) : Affine := m.mult ⟨1, 0, 0, 1, x, y⟩

/-- A scaling applied before the map. -/
def scale (m : Affine) (x y : Float) : Affine := m.mult ⟨x, 0, 0, y, 0, 0⟩

/-- A rotation by an angle in radians applied before the map. -/
def rotate (m : Affine) (theta : Float) : Affine :=
  m.mult ⟨theta.cos, theta.sin, -theta.sin, theta.cos, 0, 0⟩

/-- A point in 26.6 fixed point mapped and cut back to 26.6 fixed point. -/
def applyFixed (m : Affine) (p : Int × Int) : Int × Int :=
  let x := Float.ofInt p.1
  let y := Float.ofInt p.2
  (truncateToInt32 ((x * m.a + y * m.c) + m.e * 64), truncateToInt32 ((x * m.b + y * m.d) + m.f * 64))

end Affine

/-- A coordinate in 26.6 fixed point, cut toward zero. -/
def toFixed (x : Float) : Int := truncateToInt32 (x * 64)

/-- A straight color: red, green, blue and opacity bytes. -/
structure Paint where
  r : Nat
  g : Nat
  b : Nat
  a : Nat
  deriving Repr, BEq, Inhabited

/-- The style in force at an element. -/
structure Style where
  fill : Option Paint
  fillOpacity : Float
  lineOpacity : Float
  transform : Affine
  deriving Inhabited

/-- The style of the document root: black fill, full opacity, no transform. -/
def Style.initial : Style := ⟨some ⟨0, 0, 0, 255⟩, 1, 1, Affine.identity⟩

/-- A filled shape: outlines of fixed-point points, and its style. -/
structure Shape where
  outlines : List (List (Int × Int))
  style : Style
  deriving Inhabited

/-- A view box: origin and size. -/
structure ViewBox where
  x : Float
  y : Float
  w : Float
  h : Float
  deriving Inhabited

/-- An icon: its view box and its shapes in drawing order. -/
structure Icon where
  viewBox : ViewBox
  shapes : List Shape
  deriving Inhabited

/-- The failure of a parameter list of the wrong length. -/
def paramMismatch : String := "param mismatch"

/-- A number of an attribute, surrounding blanks ignored. -/
def number (s : String) : Except String Float :=
  let t := Theming.Text.Printable.trim s
  (readFloat t).mapError fun e => e.message "ParseFloat" t

/-- A length of an attribute: a number, optionally followed by `px`. -/
def length (s : String) : Except String Float :=
  let t := Theming.Text.Printable.trim s
  number (if t.endsWith "px" then String.ofList (t.toList.dropLast.dropLast) else t)

/-- Whether a character belongs to a number in a list of points. -/
def pointChar (c : Char) : Bool := c.isDigit || c == '.' || c == 'e'

/-- The numbers of a list of points: runs of digits, points and exponents; a minus sign starts
a number unless it follows an exponent mark; every other character separates. -/
def points (s : String) : Except String (List Float) := do
  let step (acc : List (List Char) × List Char × Char) (c : Char) :
      List (List Char) × List Char × Char :=
    let (done, cur, prev) := acc
    if !pointChar c && !(c == '-' && prev == 'e') then
      let done := if cur.isEmpty then done else cur.reverse :: done
      (done, (if c == '-' then ['-'] else []), c)
    else (done, c :: cur, c)
  let (done, cur, _) := s.toList.foldl step ([], [], ' ')
  let runs := (if cur.isEmpty then done else cur.reverse :: done).reverse
  runs.mapM fun r => number (String.ofList r)

/-- The SVG color names. -/
def colorNames : List (String × Nat × Nat × Nat) := [
  ("aliceblue", 240, 248, 255), ("antiquewhite", 250, 235, 215), ("aqua", 0, 255, 255),
  ("aquamarine", 127, 255, 212), ("azure", 240, 255, 255), ("beige", 245, 245, 220),
  ("bisque", 255, 228, 196), ("black", 0, 0, 0), ("blanchedalmond", 255, 235, 205),
  ("blue", 0, 0, 255), ("blueviolet", 138, 43, 226), ("brown", 165, 42, 42),
  ("burlywood", 222, 184, 135), ("cadetblue", 95, 158, 160), ("chartreuse", 127, 255, 0),
  ("chocolate", 210, 105, 30), ("coral", 255, 127, 80), ("cornflowerblue", 100, 149, 237),
  ("cornsilk", 255, 248, 220), ("crimson", 220, 20, 60), ("cyan", 0, 255, 255),
  ("darkblue", 0, 0, 139), ("darkcyan", 0, 139, 139), ("darkgoldenrod", 184, 134, 11),
  ("darkgray", 169, 169, 169), ("darkgreen", 0, 100, 0), ("darkgrey", 169, 169, 169),
  ("darkkhaki", 189, 183, 107), ("darkmagenta", 139, 0, 139), ("darkolivegreen", 85, 107, 47),
  ("darkorange", 255, 140, 0), ("darkorchid", 153, 50, 204), ("darkred", 139, 0, 0),
  ("darksalmon", 233, 150, 122), ("darkseagreen", 143, 188, 143),
  ("darkslateblue", 72, 61, 139), ("darkslategray", 47, 79, 79), ("darkslategrey", 47, 79, 79),
  ("darkturquoise", 0, 206, 209), ("darkviolet", 148, 0, 211), ("deeppink", 255, 20, 147),
  ("deepskyblue", 0, 191, 255), ("dimgray", 105, 105, 105), ("dimgrey", 105, 105, 105),
  ("dodgerblue", 30, 144, 255), ("firebrick", 178, 34, 34), ("floralwhite", 255, 250, 240),
  ("forestgreen", 34, 139, 34), ("fuchsia", 255, 0, 255), ("gainsboro", 220, 220, 220),
  ("ghostwhite", 248, 248, 255), ("gold", 255, 215, 0), ("goldenrod", 218, 165, 32),
  ("gray", 128, 128, 128), ("grey", 128, 128, 128), ("green", 0, 128, 0),
  ("greenyellow", 173, 255, 47), ("honeydew", 240, 255, 240), ("hotpink", 255, 105, 180),
  ("indianred", 205, 92, 92), ("indigo", 75, 0, 130), ("ivory", 255, 255, 240),
  ("khaki", 240, 230, 140), ("lavender", 230, 230, 250), ("lavenderblush", 255, 240, 245),
  ("lawngreen", 124, 252, 0), ("lemonchiffon", 255, 250, 205), ("lightblue", 173, 216, 230),
  ("lightcoral", 240, 128, 128), ("lightcyan", 224, 255, 255),
  ("lightgoldenrodyellow", 250, 250, 210), ("lightgray", 211, 211, 211),
  ("lightgreen", 144, 238, 144), ("lightgrey", 211, 211, 211), ("lightpink", 255, 182, 193),
  ("lightsalmon", 255, 160, 122), ("lightseagreen", 32, 178, 170),
  ("lightskyblue", 135, 206, 250), ("lightslategray", 119, 136, 153),
  ("lightslategrey", 119, 136, 153), ("lightsteelblue", 176, 196, 222),
  ("lightyellow", 255, 255, 224), ("lime", 0, 255, 0), ("limegreen", 50, 205, 50),
  ("linen", 250, 240, 230), ("magenta", 255, 0, 255), ("maroon", 128, 0, 0),
  ("mediumaquamarine", 102, 205, 170), ("mediumblue", 0, 0, 205),
  ("mediumorchid", 186, 85, 211), ("mediumpurple", 147, 112, 219),
  ("mediumseagreen", 60, 179, 113), ("mediumslateblue", 123, 104, 238),
  ("mediumspringgreen", 0, 250, 154), ("mediumturquoise", 72, 209, 204),
  ("mediumvioletred", 199, 21, 133), ("midnightblue", 25, 25, 112),
  ("mintcream", 245, 255, 250), ("mistyrose", 255, 228, 225), ("moccasin", 255, 228, 181),
  ("navajowhite", 255, 222, 173), ("navy", 0, 0, 128), ("oldlace", 253, 245, 230),
  ("olive", 128, 128, 0), ("olivedrab", 107, 142, 35), ("orange", 255, 165, 0),
  ("orangered", 255, 69, 0), ("orchid", 218, 112, 214), ("palegoldenrod", 238, 232, 170),
  ("palegreen", 152, 251, 152), ("paleturquoise", 175, 238, 238),
  ("palevioletred", 219, 112, 147), ("papayawhip", 255, 239, 213),
  ("peachpuff", 255, 218, 185), ("peru", 205, 133, 63), ("pink", 255, 192, 203),
  ("plum", 221, 160, 221), ("powderblue", 176, 224, 230), ("purple", 128, 0, 128),
  ("red", 255, 0, 0), ("rosybrown", 188, 143, 143), ("royalblue", 65, 105, 225),
  ("saddlebrown", 139, 69, 19), ("salmon", 250, 128, 114), ("sandybrown", 244, 164, 96),
  ("seagreen", 46, 139, 87), ("seashell", 255, 245, 238), ("sienna", 160, 82, 45),
  ("silver", 192, 192, 192), ("skyblue", 135, 206, 235), ("slateblue", 106, 90, 205),
  ("slategray", 112, 128, 144), ("slategrey", 112, 128, 144), ("snow", 255, 250, 250),
  ("springgreen", 0, 255, 127), ("steelblue", 70, 130, 180), ("tan", 210, 180, 140),
  ("teal", 0, 128, 128), ("thistle", 216, 191, 216), ("tomato", 255, 99, 71),
  ("turquoise", 64, 224, 208), ("violet", 238, 130, 238), ("wheat", 245, 222, 179),
  ("white", 255, 255, 255), ("whitesmoke", 245, 245, 245), ("yellow", 255, 255, 0),
  ("yellowgreen", 154, 205, 50)]

/-- The value of two hex digits, with the failure of an unsigned reading. -/
def hexByte (s : String) : Except String Nat :=
  let ds := s.toList.map (digitValue 16)
  if ds.length == 2 && ds.all Option.isSome then .ok (ds.foldl (fun a d => a * 16 + d.getD 0) 0)
  else .error ("strconv.ParseUint: parsing " ++ Theming.Text.Quoted.quote s ++ ": invalid syntax")

/-- A channel of `rgb(…)`: a number, or a percentage of 255. -/
def channel (s : String) : Except String Nat := do
  let t := Theming.Text.Printable.trim s
  if t.endsWith "%" then
    let v ← number (String.ofList t.toList.dropLast)
    pure (truncateToByte (v * 255 / 100))
  else
    let v ← number t
    pure (truncateToByte v)

/-- A color; `none` for no paint. -/
def parseColor (s : String) : Except String (Option Paint) := do
  let v := s.toLower
  if v.startsWith "url" then return some ⟨0, 0, 0, 255⟩
  if v == "none" || v.isEmpty then return none
  match colorNames.lookup v with
  | some (r, g, b) => return some ⟨r, g, b, 255⟩
  | none => pure ()
  if s.startsWith "rgb(" then
    let inner := String.ofList (s.toList.drop 4)
    let inner := if inner.endsWith ")" then String.ofList inner.toList.dropLast else inner
    match inner.splitOn "," with
    | [r, g, b] => return some ⟨← channel r, ← channel g, ← channel b, 255⟩
    | _ => throw paramMismatch
  if s.startsWith "#" then
    let body := String.ofList (s.toList.drop 1)
    let body ← if body.length == 6 then pure body
      else if body.length == 3 then
        pure (String.ofList (body.toList.flatMap fun c => [c, c]))
      else throw ("color string " ++ body ++ " is not length 3 or 6 as required by SVG specification")
    let cs := body.toList
    let pair (i : Nat) : String := String.ofList [cs.getD i '0', cs.getD (i + 1) '0']
    return some ⟨← hexByte (pair 0), ← hexByte (pair 2), ← hexByte (pair 4), 255⟩
  throw paramMismatch

/-- A transform attribute, applied after the parent's transform. -/
def parseTransform (parent : Affine) (v : String) : Except String Affine := do
  let parts := (v.splitOn ")").map Theming.Text.Printable.trim |>.filter (!·.isEmpty)
  parts.foldlM (fun (m : Affine) t => do
    match t.splitOn "(" with
    | [name, args] =>
      if args.isEmpty then throw paramMismatch
      let ps ← points args
      match (Theming.Text.Printable.trim name).toLower, ps with
      | "translate", [x] => pure (m.translate x 0)
      | "translate", [x, y] => pure (m.translate x y)
      | "scale", [x] => pure (m.scale x x)
      | "scale", [x, y] => pure (m.scale x y)
      | "rotate", [t] => pure (m.rotate (t * 3.141592653589793 / 180))
      | "rotate", [t, x, y] =>
        pure (((m.translate x y).rotate (t * 3.141592653589793 / 180)).translate (-x) (-y))
      | "matrix", [a, b, c, d, e, f] => pure (m.mult ⟨a, b, c, d, e, f⟩)
      | _, _ => throw paramMismatch
    | _ => throw paramMismatch) parent

/-- The style declarations of a start tag: each attribute as a declaration, and the
declarations of a `style` attribute split at semicolons. -/
def declarations (attrs : List Attribute) : List (String × String) :=
  attrs.flatMap fun a =>
    let pairs := if a.name.localName.toLower == "style" then a.value.splitOn ";"
      else if a.name.localName.toLower == "class" then []
      else [a.name.localName ++ ":" ++ a.value]
    pairs.filterMap fun p =>
      match p.splitOn ":" with
      | k :: v :: _ => some (Theming.Text.Printable.trim k.toLower, Theming.Text.Printable.trim v)
      | _ => none

/-- Applies one style declaration. -/
def applyDeclaration (st : Style) (kv : String × String) : Except String Style := do
  let (k, v) := kv
  match k with
  | "fill" => pure { st with fill := ← parseColor v }
  | "stroke" =>
    let _ ← parseColor v
    pure st
  | "stroke-width" =>
    let _ ← number v
    pure st
  | "opacity" =>
    let op ← number v
    pure { st with fillOpacity := st.fillOpacity * op, lineOpacity := st.lineOpacity * op }
  | "fill-opacity" =>
    let op ← number v
    pure { st with fillOpacity := st.fillOpacity * op }
  | "stroke-opacity" =>
    let op ← number v
    pure { st with lineOpacity := st.lineOpacity * op }
  | "transform" => pure { st with transform := ← parseTransform st.transform v }
  | _ => pure st

/-- The value of an attribute by its local name. -/
def attr (attrs : List Attribute) (n : String) : Option String :=
  (attrs.find? (·.name.localName == n)).map (·.value)

/-- The outline of a rectangle. -/
def rectOutline (attrs : List Attribute) : Except String (List (List (Int × Int))) := do
  let get (n : String) : Except String Float :=
    match attr attrs n with
    | some v => length v
    | none => pure 0
  let x ← get "x"
  let y ← get "y"
  let w ← get "width"
  let h ← get "height"
  if w == 0 || h == 0 then pure []
  else
    let x1 := w + x
    let y1 := h + y
    pure [[(toFixed x, toFixed y), (toFixed x1, toFixed y), (toFixed x1, toFixed y1),
      (toFixed x, toFixed y1)]]

/-- The outline of a polygon or polyline. -/
def polyOutline (attrs : List Attribute) : Except String (List (List (Int × Int))) := do
  match attr attrs "points" with
  | none => pure []
  | some v =>
    let ps ← points v
    if ps.length % 2 != 0 then throw paramMismatch
    let rec pairs : List Float → List (Int × Int)
      | x :: y :: rest => (toFixed x, toFixed y) :: pairs rest
      | _ => []
    let pts := pairs ps
    if pts.isEmpty then pure [] else pure [pts]

/-- A token of path data: a command letter or a number. -/
inductive PathItem where
  | command (c : Char)
  | value (x : Float)

/-- Splits path data into command letters and numbers. -/
def pathItems (d : String) : Except String (List PathItem) := do
  let isCmd (c : Char) : Bool := "MmLlHhVvZzCcSsQqTtAa".toList.contains c
  let step (acc : List (List Char ⊕ Char)) (c : Char) : List (List Char ⊕ Char) :=
    if isCmd c then .inr c :: acc
    else match acc with
      | .inl cur :: rest => .inl (c :: cur) :: rest
      | _ => .inl [c] :: acc
  let groups := (d.toList.foldl step []).reverse
  groups.flatMapM fun g =>
    match g with
    | .inr c => pure [PathItem.command c]
    | .inl cs => do
      let xs ← points (String.ofList cs.reverse)
      pure (xs.map PathItem.value)

/-- The outlines of path data made of straight segments. -/
def pathOutlines (d : String) : Except String (List (List (Int × Int))) := do
  let items ← pathItems d
  -- state: finished outlines, current outline (reversed), pen, start, command
  let rec walk : List PathItem → List (List (Int × Int)) → List (Int × Int) → Float × Float →
      Float × Float → Char → Except String (List (List (Int × Int)))
    | [], done, cur, _, _, _ => pure ((if cur.isEmpty then done else cur.reverse :: done).reverse)
    | .command c :: rest, done, cur, pen, start, _ =>
      if c == 'Z' || c == 'z' then
        let done := if cur.isEmpty then done else cur.reverse :: done
        walk rest done [] start start c
      else walk rest done cur pen start c
    | .value x :: rest, done, cur, pen, start, cmd =>
      let rel := cmd.isLower
      let (px, py) := pen
      match cmd.toUpper with
      | 'M' =>
        match rest with
        | .value y :: rest =>
          let p := if rel then (px + x, py + y) else (x, y)
          let done := if cur.isEmpty then done else cur.reverse :: done
          walk rest done [(toFixed p.1, toFixed p.2)] p p (if rel then 'l' else 'L')
        | _ => throw paramMismatch
      | 'L' =>
        match rest with
        | .value y :: rest =>
          let p := if rel then (px + x, py + y) else (x, y)
          walk rest done ((toFixed p.1, toFixed p.2) :: cur) p start cmd
        | _ => throw paramMismatch
      | 'H' =>
        let p := if rel then (px + x, py) else (x, py)
        walk rest done ((toFixed p.1, toFixed p.2) :: cur) p start cmd
      | 'V' =>
        let p := if rel then (px, py + x) else (px, x)
        walk rest done ((toFixed p.1, toFixed p.2) :: cur) p start cmd
      | _ => walk rest done cur pen start cmd
  walk items [] [] (0, 0) (0, 0) 'M'

/-- The outlines an element draws, by its name. -/
def outlines (name : String) (attrs : List Attribute) : Except String (List (List (Int × Int))) :=
  match name with
  | "rect" => rectOutline attrs
  | "polygon" | "polyline" => polyOutline attrs
  | "path" => match attr attrs "d" with
    | some d => pathOutlines d
    | none => pure []
  | _ => pure []

/-- Reads the view box of the `svg` element: from `viewBox`, which must have four numbers, with
`width` and `height` standing in for a zero size. -/
def readViewBox (attrs : List Attribute) : Except String ViewBox := do
  let vb ← attrs.foldlM (fun (acc : ViewBox × Float × Float) a => do
    let (vb, w, h) := acc
    match a.name.localName with
    | "viewBox" =>
      let ps := points a.value
      let ns := match ps with
        | .ok ns => ns
        | .error _ => []
      if ns.length != 4 then throw paramMismatch
      let _ ← ps
      pure (⟨ns.getD 0 0, ns.getD 1 0, ns.getD 2 0, ns.getD 3 0⟩, w, h)
    | "width" => pure (vb, ← number a.value, h)
    | "height" => pure (vb, w, ← number a.value)
    | _ => pure (vb, w, h)) (⟨0, 0, 0, 0⟩, 0, 0)
  let (vb, w, h) := vb
  pure { vb with w := if vb.w == 0 then w else vb.w, h := if vb.h == 0 then h else vb.h }

/-- Reads an icon from the tokens of its document. -/
def Icon.ofTokens (tokens : List XmlToken) : Except String Icon := do
  let step (acc : Icon × List Style) (t : XmlToken) : Except String (Icon × List Style) := do
    let (icon, styles) := acc
    let top := styles.headD Style.initial
    match t with
    | .start n attrs =>
      let st ← (declarations attrs).foldlM applyDeclaration top
      let styles := st :: styles
      if n.localName == "svg" then
        pure ({ icon with viewBox := ← readViewBox attrs }, styles)
      else
        let outs ← outlines n.localName attrs
        if outs.isEmpty then pure (icon, styles)
        else pure ({ icon with shapes := icon.shapes ++ [⟨outs, st⟩] }, styles)
    | .close _ => pure (icon, styles.drop 1)
    | _ => pure (icon, styles)
  let (icon, _) ← tokens.foldlM step (⟨⟨0, 0, 0, 0⟩, []⟩, [Style.initial])
  pure icon

/-- Reads an icon from an SVG document. Tokens are taken in order, so a failure in the styles
of an element comes before a syntax error later in the document. -/
def Icon.read (data : ByteArray) : Except String Icon := do
  let (tokens, failure) := xmlTokens data
  let icon ← Icon.ofTokens tokens
  match failure with
  | some e => throw e
  | none => pure icon

end Theming.Vector
