import Theming.Yaml.Node
import Theming.Yaml.Resolve
import Theming.Text.Quoted

/-!
# Writing YAML

Documents are written in block style with a chosen indentation step:

* a mapping writes `key: value` lines, with the comment lines of a key above it; a nested
  collection goes on the following lines, indented to the next multiple of the step;
* a sequence writes `- item` lines; a collection inside an item starts right after the dash and
  continues two columns in;
* empty collections are written in flow style, `[]` and `{}`.

A scalar keeps its style when the text allows it. A plain scalar must not start with an
indicator, contain `: ` or ` #`, start or end with a space, or span lines; otherwise it is
single-quoted. Single quotes need a text without tabs, special characters or breaks next to
spaces; otherwise it is double-quoted, with escapes for what is not printable. A literal block
needs a text without trailing spaces or special characters. Texts are never folded, however
long.

Strings of a program are written plain when they would read back as the same strings,
double-quoted otherwise, and as literal blocks when they span lines.
-/

set_option autoImplicit false

namespace Theming.Yaml

/-- Whether a character is a line break for YAML. -/
def isBreakChar (c : Char) : Bool :=
  c == '\n' || c == '\r' || c.toNat == 0x85 || c.toNat == 0x2028 || c.toNat == 0x2029

/-- Whether a character may be written as it is. -/
def isPrintable (c : Char) : Bool :=
  let n := c.toNat
  n == 0x0A || (0x20 ≤ n && n ≤ 0x7E) || (0xA0 ≤ n && n ≤ 0xD7FF) ||
    (0xE000 ≤ n && n ≤ 0xFFFD && n != 0xFEFF)

/-- What the text of a scalar allows. -/
structure Allowed where
  multiline : Bool
  flowPlain : Bool
  blockPlain : Bool
  single : Bool
  block : Bool

/-- Looks at a scalar text to see which styles can write it. -/
def analyze (s : String) : Allowed :=
  let cs := s.toList
  if cs.isEmpty then ⟨false, false, true, true, false⟩
  else
    let startsMarker := cs.take 3 == ['-', '-', '-'] || cs.take 3 == ['.', '.', '.']
    let n := cs.length
    let isBlank (c : Char) : Bool := c == ' ' || c == '\t'
    let step (acc : Bool × Bool × Bool × Bool × Bool × Bool × Bool × Bool × Bool × Bool × Bool × Bool × Bool)
        (ic : Nat × Char) :=
      let (i, c) := ic
      let (flowInd, blockInd, breaks, special, tabs, leadSpace, leadBreak, trailSpace, trailBreak,
        breakSpace, spaceBreak, prevSpace, prevBreak) := acc
      let next := cs.getD (i + 1) ' '
      let followedByBlank := i + 1 ≥ n || isBlank next || isBreakChar next
      let precededByBlank := i == 0 || (let p := cs.getD (i - 1) ' '; isBlank p || isBreakChar p)
      let (fi, bi) :=
        if i == 0 then
          if "#,[]\x7b\x7d&*!|>'\"%@\x60".contains c then (true, true)
          else if c == '?' || c == ':' then (true, followedByBlank)
          else if c == '-' then (followedByBlank, followedByBlank)
          else (false, false)
        else
          if ",?[]\x7b\x7d".contains c then (true, false)
          else if c == ':' then (true, followedByBlank)
          else if c == '#' then (precededByBlank, precededByBlank)
          else (false, false)
      let tabs := tabs || c == '\t'
      let special := special || (c != '\t' && !isPrintable c)
      let last := i + 1 == n
      if c == ' ' then
        (flowInd || fi, blockInd || bi, breaks, special, tabs, leadSpace || i == 0, leadBreak,
          trailSpace || last, trailBreak, breakSpace || prevBreak, spaceBreak, true, false)
      else if isBreakChar c then
        (flowInd || fi, blockInd || bi, true, special, tabs, leadSpace, leadBreak || i == 0,
          trailSpace, trailBreak || last, breakSpace, spaceBreak || prevSpace, false, true)
      else
        (flowInd || fi, blockInd || bi, breaks, special, tabs, leadSpace, leadBreak, trailSpace,
          trailBreak, breakSpace, spaceBreak, false, false)
    let init := (startsMarker, startsMarker, false, false, false, false, false, false, false,
      false, false, false, false)
    let (flowInd, blockInd, breaks, special, tabs, leadSpace, leadBreak, trailSpace, trailBreak,
      breakSpace, spaceBreak, _, _) := (List.range n).zip cs |>.foldl step init
    let edges := leadSpace || leadBreak || trailSpace || trailBreak
    let noPlain := edges || breakSpace || spaceBreak || tabs || special || breaks
    { multiline := breaks
      flowPlain := !noPlain && !flowInd
      blockPlain := !noPlain && !blockInd
      single := !(breakSpace || spaceBreak || tabs || special)
      block := !(trailSpace || spaceBreak || special) }

/-- The style a scalar is written in: the wanted one if the text allows it, else the next
safer one. -/
def chooseStyle (s : String) (wanted : Style) (inFlow isKey : Bool) : Style :=
  let a := analyze s
  let style := if isKey && a.multiline then Style.double else wanted
  let style :=
    if style == .plain then
      if (inFlow && !a.flowPlain) || (!inFlow && !a.blockPlain) then Style.single
      else if s.isEmpty && (inFlow || isKey) then Style.single
      else Style.plain
    else style
  let style := if style == .single && !a.single then Style.double else style
  if (style == .literal || style == .folded) && (!a.block || inFlow || isKey) then Style.double
  else style

/-- A character escaped inside double quotes. -/
def escapeChar (c : Char) : String :=
  let n := c.toNat
  if c == '"' then "\\\""
  else if c == '\\' then "\\\\"
  else if isPrintable c && n != 0xFEFF && !isBreakChar c then c.toString
  else
    match n with
    | 0x00 => "\\0"
    | 0x07 => "\\a"
    | 0x08 => "\\b"
    | 0x09 => "\\t"
    | 0x0A => "\\n"
    | 0x0B => "\\v"
    | 0x0C => "\\f"
    | 0x0D => "\\r"
    | 0x1B => "\\e"
    | 0x85 => "\\N"
    | 0xA0 => "\\_"
    | 0x2028 => "\\L"
    | 0x2029 => "\\P"
    | _ =>
      if n ≤ 0xFF then "\\x" ++ String.ofList (Theming.Text.Quoted.hexDigits 2 n)
      else if n ≤ 0xFFFF then "\\u" ++ String.ofList (Theming.Text.Quoted.hexDigits 4 n)
      else "\\U" ++ String.ofList (Theming.Text.Quoted.hexDigits 8 n)

/-- A scalar in double quotes. -/
def quoteDouble (s : String) : String :=
  "\"" ++ String.join (s.toList.map escapeChar) ++ "\""

/-- A scalar in single quotes. -/
def quoteSingle (s : String) : String :=
  "'" ++ s.replace "'" "''" ++ "'"

/-- `n` spaces. -/
def spaces (n : Nat) : String := String.ofList (List.replicate n ' ')

/-- The header and content lines of a literal block scalar whose content is indented to
`indent` columns; `step` is the indentation step, written as an indicator when the text starts
with a space or a break. -/
def literalLines (s : String) (indent step : Nat) : String × List String :=
  let cs := s.toList
  let indentHint := match cs.head? with
    | some c => if c == ' ' || isBreakChar c then toString step else ""
    | none => ""
  let chomp :=
    if cs.isEmpty then "-"
    else
      let rev := cs.reverse
      if !isBreakChar (rev.headD ' ') then "-"
      else if cs.length == 1 then "+"
      else if isBreakChar (rev.getD 1 ' ') then "+" else ""
  let body := if cs.isEmpty then [] else
    let parts := s.splitOn "\n"
    let parts := if s.endsWith "\n" then parts.dropLast else parts
    parts.map fun l => if l.isEmpty then "" else spaces indent ++ l
  ("|" ++ indentHint ++ chomp, body)

/-- A scalar written on one line (not as a block). -/
def inlineScalar (s : String) (style : Style) : String :=
  match style with
  | .plain => s
  | .single => quoteSingle s
  | _ => quoteDouble s

/-- The indentation of a collection nested in one at `indent`: two more inside a sequence item,
otherwise the next multiple of the step. -/
def nestedIndent (step indent : Nat) (inItem : Bool) : Nat :=
  if inItem then indent + 2 else step * ((indent + step) / step)

mutual
/-- A node written in flow style. -/
def flowText : Node → String
  | .scalar _ v s => inlineScalar v (chooseStyle v s true false)
  | .sequence _ items _ => "[" ++ flowItems items ++ "]"
  | .mapping _ entries _ => "\x7b" ++ flowEntries entries ++ "\x7d"

/-- Flow sequence items separated by commas. -/
def flowItems : List Node → String
  | [] => ""
  | [x] => flowText x
  | x :: rest => flowText x ++ ", " ++ flowItems rest

/-- Flow mapping entries separated by commas. -/
def flowEntries : List (Node × Node) → String
  | [] => ""
  | [(k, v)] => flowText k ++ ": " ++ flowText v
  | (k, v) :: rest => flowText k ++ ": " ++ flowText v ++ ", " ++ flowEntries rest
end

/-- Comment lines at an indentation. -/
def commentLines (indent : Nat) (m : Mark) : List String :=
  m.comment.map fun c => spaces indent ++ "#" ++ c

/-- Whether a node is written inline after its key or dash: scalars, empty collections and
flow collections. -/
def isInline : Node → Bool
  | .scalar _ _ _ => true
  | .sequence _ items flow => flow || items.isEmpty
  | .mapping _ entries flow => flow || entries.isEmpty

/-- The text of an inline node after a key or dash, with the lines of a literal block that
follow it at `indent`. -/
def inlineText (step indent : Nat) (n : Node) : String × List String :=
  match n with
  | .scalar _ v s =>
    let style := chooseStyle v s false false
    if style == .literal || style == .folded then literalLines v indent step
    else (inlineScalar v style, [])
  | n => (flowText n, [])

mutual
/-- The lines of a block collection whose entries start at column `indent`; `inItem` tells
that it is an item of a sequence. -/
def blockLines (step indent : Nat) (inItem : Bool) : Node → List String
  | .scalar _ v s =>
    let (head, more) := inlineText step (nestedIndent step indent inItem) (.scalar {} v s)
    (spaces indent ++ head) :: more
  | .sequence _ items _ => itemLines step indent items
  | .mapping _ entries _ => entryLines step indent entries

/-- The lines of sequence items at column `indent`. -/
def itemLines (step indent : Nat) : List Node → List String
  | [] => []
  | x :: rest =>
    let here :=
      if isInline x then
        let (head, more) := inlineText step (indent + 2) x
        commentLines indent x.mark ++ [spaces indent ++ "- " ++ head] ++ more
      else
        match blockLines step (indent + 2) true x with
        | first :: more => commentLines indent x.mark ++ (spaces indent ++ "- " ++ (first.drop (indent + 2)).toString) :: more
        | [] => []
    here ++ itemLines step indent rest

/-- The lines of mapping entries at column `indent`. -/
def entryLines (step indent : Nat) : List (Node × Node) → List String
  | [] => []
  | (k, v) :: rest =>
    let key := inlineScalar k.value (chooseStyle k.value (match k with
      | .scalar _ _ s => s
      | _ => .plain) false true)
    let here :=
      if isInline v then
        let (head, more) := inlineText step (nestedIndent step indent false) v
        commentLines indent k.mark ++ [spaces indent ++ key ++ ": " ++ head] ++ more
      else
        commentLines indent k.mark ++ [spaces indent ++ key ++ ":"] ++
          blockLines step (nestedIndent step indent false) false v
    here ++ entryLines step indent rest
end

/-- A document written with an indentation step, ending with a line break. -/
def Node.emit (step : Nat) (doc : Node) : String :=
  let lines :=
    if isInline doc then
      let (head, more) := inlineText step 0 doc
      commentLines 0 doc.mark ++ head :: more
    else blockLines step 0 false doc
  String.join (lines.map (· ++ "\n"))

/-- A string of a program as a scalar: plain when it reads back as the same string, a literal
block when it spans lines, double-quoted otherwise. -/
def stringNode (s : String) : Node :=
  let style :=
    if s.contains '\n' then Style.literal
    else if plainSafe s then .plain else .double
  .scalar {} s style

end Theming.Yaml
