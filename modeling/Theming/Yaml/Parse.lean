import Theming.Yaml.Node
import Theming.Yaml.Resolve

/-!
# Reading YAML

A document is read in block context: a mapping is a column of `key: value` lines, a sequence a
column of `- item` lines (a sequence under a key may stand in the key's own column), and a plain
scalar may go on over lines that are indented deeper than the collection it belongs to. Flow
collections (`[a, b]`, `{a: b}`) may appear anywhere and span lines, so a JSON text is a YAML
document too. Scalars are plain, single-quoted (`''` is a quote), double-quoted (with the
escapes `\0 \a \b \t \n \v \f \r \e \" \/ \\ \N \_ \L \P \x \u \U`), or literal (`|`) and
folded (`>`) blocks with chomping and indentation indicators. Line breaks inside quotes fold
into a space, and empty lines into breaks.

Only the first document is read; a text without one has no document.

Problems are reported as `yaml: line N: what`. Problems found while splitting the text into
pieces name the line of the piece they concern; problems of the structure name the line before
the collection they concern (or the line of the problem when the collection starts on the first
line); a problem on the first line names no line.
-/

set_option autoImplicit false

namespace Theming.Yaml

/-- Why a text is not a YAML document: the line the message names (0 for none) and what is
wrong. -/
structure Problem where
  line : Nat
  text : String
  deriving Inhabited, Repr

/-- The message of a problem. -/
def Problem.message (p : Problem) : String :=
  "yaml: " ++ (if p.line == 0 then "" else "line " ++ toString p.line ++ ": ") ++ p.text

/-- A problem found while splitting the text into pieces, for a piece on 0-based line `context`
found on line `problem`. -/
def Problem.scanning (context problem : Nat) (text : String) : Problem :=
  ⟨if context != 0 then context + 1 else if problem != 0 then problem + 1 else 0, text⟩

/-- A problem of the structure, for a collection starting on 0-based line `context` found on
line `problem`. -/
def Problem.parsing (context problem : Nat) (text : String) : Problem :=
  ⟨if context != 0 then context else problem, text⟩

/-- A place in the text: the index of a character and its 0-based line and column. -/
structure Pos where
  index : Nat
  line : Nat
  column : Nat
  deriving Inhabited, Repr

/-- The mark of a node starting at a place. -/
def Pos.mark (p : Pos) : Mark := { line := p.line + 1, column := p.column + 1 }

/-- The characters that end a plain scalar inside a flow collection. -/
def flowIndicators : List Char := [',', '[', ']', '\x7b', '\x7d']

section Reading

variable (cs : Array Char)

/-- The character `k` places after `p`; NUL past the end. -/
def ahead (p : Pos) (k : Nat) : Char := cs.getD (p.index + k) '\x00'

/-- Whether a place is past the end of the text. -/
def atEnd (p : Pos) : Bool := p.index ≥ cs.size

/-- The place after the character at `p`. -/
def next (p : Pos) : Pos :=
  match cs[p.index]? with
  | some '\n' => ⟨p.index + 1, p.line + 1, 0⟩
  | some _ => ⟨p.index + 1, p.line, p.column + 1⟩
  | none => p

/-- Whether the character `k` places after `p` is a blank, a break or the end. -/
def blankAt (p : Pos) (k : Nat) : Bool :=
  let c := ahead cs p k
  c == ' ' || c == '\t' || c == '\n' || c == '\x00'

/-- Whether a line ends at `p`: a break, a comment or the end. -/
def lineEnds (p : Pos) : Bool :=
  atEnd cs p || ahead cs p 0 == '\n' || ahead cs p 0 == '#'

/-- Whether a document marker (`---` or `...`) stands at `p`. -/
def docMarker (p : Pos) : Bool :=
  p.column == 0 && blankAt cs p 3 &&
    ((ahead cs p 0 == '-' && ahead cs p 1 == '-' && ahead cs p 2 == '-') ||
      (ahead cs p 0 == '.' && ahead cs p 1 == '.' && ahead cs p 2 == '.'))

/-- Skips blanks on the line. -/
def skipBlank : Nat → Pos → Pos
  | 0, p => p
  | fuel + 1, p =>
    let c := ahead cs p 0
    if c == ' ' || c == '\t' then skipBlank fuel (next cs p) else p

/-- Skips to the break that ends the line. -/
def skipLine : Nat → Pos → Pos
  | 0, p => p
  | fuel + 1, p =>
    if atEnd cs p || ahead cs p 0 == '\n' then p else skipLine fuel (next cs p)

/-- Skips blanks, comments and breaks. In block context a tab in the indentation of a line is a
problem. -/
def skipSpaceFrom (flow : Bool) : Nat → Bool → Pos → Except Problem Pos
  | 0, _, p => .ok p
  | fuel + 1, lineStart, p =>
    let c := ahead cs p 0
    if atEnd cs p then .ok p
    else if c == ' ' then skipSpaceFrom flow fuel lineStart (next cs p)
    else if c == '\t' then
      if !flow && lineStart then
        .error (.scanning p.line p.line "found character that cannot start any token")
      else skipSpaceFrom flow fuel lineStart (next cs p)
    else if c == '#' then skipSpaceFrom flow fuel false (skipLine cs (cs.size + 1) p)
    else if c == '\n' then skipSpaceFrom flow fuel true (next cs p)
    else .ok p

/-- Skips blanks, comments and breaks from `p`. -/
def skipSpace (flow : Bool) (p : Pos) : Except Problem Pos :=
  skipSpaceFrom cs flow (cs.size + 1) (p.column == 0) p

/-- The text between two places. -/
def between (p q : Pos) : String := String.ofList (cs.extract p.index q.index).toList

/-- The value of `n` hexadecimal digits at `p`. -/
def hexAt (p : Pos) (n : Nat) : Option Nat :=
  digitsIn 16 ((cs.extract p.index (p.index + n)).toList) |>.filter fun _ =>
    p.index + n ≤ cs.size

/-- The character a one-letter escape in double quotes stands for. -/
def simpleEscape (e : Char) : Option Char :=
  match e with
  | '0' => some (Char.ofNat 0)
  | 'a' => some (Char.ofNat 7)
  | 'b' => some (Char.ofNat 8)
  | 't' => some '\t'
  | '\t' => some '\t'
  | 'n' => some '\n'
  | 'v' => some (Char.ofNat 11)
  | 'f' => some (Char.ofNat 12)
  | 'r' => some '\r'
  | 'e' => some (Char.ofNat 27)
  | ' ' => some ' '
  | '"' => some '"'
  | '/' => some '/'
  | '\'' => some '\''
  | '\\' => some '\\'
  | 'N' => some (Char.ofNat 0x85)
  | '_' => some (Char.ofNat 0xA0)
  | 'L' => some (Char.ofNat 0x2028)
  | 'P' => some (Char.ofNat 0x2029)
  | _ => none

/-- Folds the line breaks inside a quoted scalar, starting at a break: one break becomes a
space, each further one a break; blanks at the start of the lines go. -/
def foldBreaks : Nat → Nat → Pos → String × Pos
  | 0, _, p => (" ", p)
  | fuel + 1, breaks, p =>
    let q := skipBlank cs (cs.size + 1) p
    if ahead cs q 0 == '\n' then foldBreaks fuel (breaks + 1) (next cs q)
    else (if breaks == 0 then " " else String.ofList (List.replicate breaks '\n'), q)

/-- Reads the rest of a double-quoted scalar opened on line `start`. -/
def doubleQuoted (start : Nat) : Nat → Pos → String → Except Problem (String × Pos)
  | 0, p, _ => .error (.scanning start p.line "found unexpected end of stream")
  | fuel + 1, p, acc =>
    let c := ahead cs p 0
    if atEnd cs p then .error (.scanning start p.line "found unexpected end of stream")
    else if c == '"' then .ok (acc, next cs p)
    else if c == '\\' then
      let e := ahead cs p 1
      if e == '\n' then doubleQuoted start fuel (skipBlank cs (cs.size + 1) (next cs (next cs p))) acc
      else
        match simpleEscape e with
        | some ch => doubleQuoted start fuel (next cs (next cs p)) (acc.push ch)
        | none =>
          let width := if e == 'x' then 2 else if e == 'u' then 4 else if e == 'U' then 8 else 0
          if width == 0 then .error (.scanning start p.line "found unknown escape character")
          else
            let digitsAt : Pos := ⟨p.index + 2, p.line, p.column + 2⟩
            match hexAt cs digitsAt width with
            | none => .error (.scanning start p.line "did not find expected hexdecimal number")
            | some v =>
              if (0xD800 ≤ v && v ≤ 0xDFFF) || v > 0x10FFFF then
                .error (.scanning start p.line "found invalid Unicode character escape code")
              else
                doubleQuoted start fuel ⟨p.index + 2 + width, p.line, p.column + 2 + width⟩
                  (acc.push (Char.ofNat v))
    else if c == ' ' || c == '\t' then
      let q := skipBlank cs (cs.size + 1) p
      if ahead cs q 0 == '\n' then doubleQuoted start fuel q acc
      else doubleQuoted start fuel q (acc ++ between cs p q)
    else if c == '\n' then
      let (fold, q) := foldBreaks cs (cs.size + 1) 0 (next cs p)
      doubleQuoted start fuel q (acc ++ fold)
    else doubleQuoted start fuel (next cs p) (acc.push c)

/-- Reads the rest of a single-quoted scalar opened on line `start`. -/
def singleQuoted (start : Nat) : Nat → Pos → String → Except Problem (String × Pos)
  | 0, p, _ => .error (.scanning start p.line "found unexpected end of stream")
  | fuel + 1, p, acc =>
    let c := ahead cs p 0
    if atEnd cs p then .error (.scanning start p.line "found unexpected end of stream")
    else if c == '\'' then
      if ahead cs p 1 == '\'' then singleQuoted start fuel (next cs (next cs p)) (acc.push '\'')
      else .ok (acc, next cs p)
    else if c == ' ' || c == '\t' then
      let q := skipBlank cs (cs.size + 1) p
      if ahead cs q 0 == '\n' then singleQuoted start fuel q acc
      else singleQuoted start fuel q (acc ++ between cs p q)
    else if c == '\n' then
      let (fold, q) := foldBreaks cs (cs.size + 1) 0 (next cs p)
      singleQuoted start fuel q (acc ++ fold)
    else singleQuoted start fuel (next cs p) (acc.push c)

/-- Whether a plain scalar stops at `p`; `afterBlank` tells that blanks stand before it. -/
def plainStops (flow afterBlank : Bool) (p : Pos) : Bool :=
  let c := ahead cs p 0
  atEnd cs p || c == '\n' || (c == '#' && afterBlank) ||
    (c == ':' && (blankAt cs p 1 || (flow && flowIndicators.contains (ahead cs p 1)))) ||
    (flow && flowIndicators.contains c)

/-- Reads a plain scalar to the end of its line; blanks at its end are left out. -/
def plainRun (flow : Bool) : Nat → Pos → String → String × Pos
  | 0, p, acc => (acc, p)
  | fuel + 1, p, acc =>
    let c := ahead cs p 0
    if plainStops cs flow false p then (acc, p)
    else if c == ' ' || c == '\t' then
      let q := skipBlank cs (cs.size + 1) p
      if plainStops cs flow true q then (acc, q)
      else plainRun flow fuel q (acc ++ between cs p q)
    else plainRun flow fuel (next cs p) (acc.push c)

/-- The place of the next line's content after the break at `p`, with the number of breaks on
the way. -/
def nextContent : Nat → Nat → Pos → Nat × Pos
  | 0, n, p => (n, p)
  | fuel + 1, n, p =>
    let q := skipBlank cs (cs.size + 1) p
    if ahead cs q 0 == '\n' then nextContent fuel (n + 1) (next cs q) else (n, q)

/-- Goes on with a plain scalar over the following lines indented deeper than `parent`. -/
def plainMore (parent : Int) : Nat → Pos → String → String × Pos
  | 0, p, acc => (acc, p)
  | fuel + 1, p, acc =>
    if ahead cs p 0 != '\n' then (acc, p)
    else
      let (breaks, q) := nextContent cs (cs.size + 1) 1 (next cs p)
      if atEnd cs q || (q.column : Int) ≤ parent || ahead cs q 0 == '#' || docMarker cs q then
        (acc, p)
      else
        let joined := acc ++ (if breaks == 1 then " " else String.ofList (List.replicate (breaks - 1) '\n'))
        let (more, r) := plainRun cs false (cs.size + 1) q joined
        plainMore parent fuel r more

/-- Reads a tag such as `!!str` at `p`. -/
def readTag (p : Pos) : String × Pos :=
  let rec go : Nat → Pos → Pos
    | 0, q => q
    | fuel + 1, q => if blankAt cs q 0 || flowIndicators.contains (ahead cs q 0) then q else go fuel (next cs q)
  let q := go (cs.size + 1) p
  (between cs p q, q)

/-- The state of reading the lines of a block scalar. -/
structure BlockState where
  text : String := ""
  leadingBreak : String := ""
  trailingBreaks : String := ""
  leadingBlank : Bool := false

/-- Eats the indentation and the empty lines before a line of a block scalar, collecting the
breaks; finds the indentation when it is 0. -/
def scalarBreaks (start : Nat) : Nat → Nat → Nat → String → Pos → Except Problem (Nat × Nat × String × Pos)
  | 0, indent, maxIndent, breaks, p => .ok (indent, maxIndent, breaks, p)
  | fuel + 1, indent, maxIndent, breaks, p =>
    let rec spaces : Nat → Pos → Pos
      | 0, q => q
      | f + 1, q => if (indent == 0 || q.column < indent) && ahead cs q 0 == ' ' then spaces f (next cs q) else q
    let q := spaces (cs.size + 1) p
    let maxIndent := max maxIndent q.column
    if (indent == 0 || q.column < indent) && ahead cs q 0 == '\t' then
      .error (.scanning start q.line "found a tab character where an indentation space is expected")
    else if ahead cs q 0 == '\n' then scalarBreaks start fuel indent maxIndent (breaks.push '\n') (next cs q)
    else .ok (indent, maxIndent, breaks, q)

/-- Reads the lines of a block scalar at indentation `indent`. -/
def scalarLines (start : Nat) (literal : Bool) (indent : Nat) : Nat → BlockState → Pos →
    Except Problem (BlockState × Pos)
  | 0, st, p => .ok (st, p)
  | fuel + 1, st, p =>
    if p.column != indent || atEnd cs p then .ok (st, p)
    else
      let trailingBlank := ahead cs p 0 == ' ' || ahead cs p 0 == '\t'
      let (lead, folded) :=
        if !literal && st.leadingBreak.startsWith "\n" && !st.leadingBlank && !trailingBlank then
          ((if st.trailingBreaks.isEmpty then " " else ""), true)
        else ("", false)
      let text := st.text ++ lead ++ (if folded then "" else st.leadingBreak) ++ st.trailingBreaks
      let leadingBlank := trailingBlank
      let q := skipLine cs (cs.size + 1) p
      let text := text ++ between cs p q
      let (leadingBreak, q) := if ahead cs q 0 == '\n' then ("\n", next cs q) else ("", q)
      match scalarBreaks cs start (cs.size + 1) indent 0 "" q with
      | .error e => .error e
      | .ok (_, _, breaks, r) =>
        scalarLines start literal indent fuel
          { text, leadingBreak, trailingBreaks := breaks, leadingBlank } r

/-- Reads a block scalar whose indicator (`|` or `>`) is at `p`, in a collection at column
`parent`. -/
def blockScalar (literal : Bool) (parent : Int) (p : Pos) : Except Problem (String × Pos) := do
  let start := p.line
  let q := next cs p
  let readChomp (q : Pos) : Int × Pos :=
    if ahead cs q 0 == '+' then (1, next cs q) else if ahead cs q 0 == '-' then (-1, next cs q) else (0, q)
  let readIndent (q : Pos) : Except Problem (Nat × Pos) :=
    let c := ahead cs q 0
    if c == '0' then .error (.scanning start q.line "found an indentation indicator equal to 0")
    else if c.isDigit then .ok (c.toNat - '0'.toNat, next cs q) else .ok (0, q)
  let (chomp, q) := readChomp q
  let (increment, q) ← readIndent q
  let (chomp, q) := if chomp == 0 then readChomp q else (chomp, q)
  let q := skipBlank cs (cs.size + 1) q
  let q := if ahead cs q 0 == '#' then skipLine cs (cs.size + 1) q else q
  if !(atEnd cs q || ahead cs q 0 == '\n') then
    throw (.scanning start q.line "did not find expected comment or line break")
  let q := next cs q
  let indent : Nat :=
    if increment > 0 then (if parent ≥ 0 then parent.toNat + increment else increment) else 0
  let (indent, maxIndent, breaks, r) ← scalarBreaks cs start (cs.size + 1) indent 0 "" q
  let indent :=
    if indent == 0 then max (max maxIndent (parent + 1).toNat) 1 else indent
  let (st, r) ← scalarLines cs start literal indent (cs.size + 1) { trailingBreaks := breaks } r
  let text := st.text ++ (if chomp != -1 then st.leadingBreak else "") ++
    (if chomp == 1 then st.trailingBreaks else "")
  -- the scalar ends at the start of the line that is not part of it
  let r := if r.column > 0 && r.column < indent && !atEnd cs r then ⟨r.index - r.column, r.line, 0⟩ else r
  pure (text, r)

/-- An empty scalar at a place. -/
def emptyAt (p : Pos) : Node := .scalar p.mark "" .plain

/-- The same node with a tag. -/
def tagged (tag : String) : Node → Node
  | .scalar m v s => .scalar { m with tag } v s
  | .sequence m xs f => .sequence { m with tag } xs f
  | .mapping m es f => .mapping { m with tag } es f

mutual
/-- Reads a node in flow context at `p`. -/
def flowNode : Nat → Pos → Except Problem (Node × Pos)
  | 0, p => .error (.parsing p.line p.line "did not find expected node content")
  | fuel + 1, p =>
    let c := ahead cs p 0
    if c == '[' then flowSeq fuel p.line p.mark (next cs p) []
    else if c == '\x7b' then flowMap fuel p.line p.mark (next cs p) []
    else if c == '"' then
      (doubleQuoted cs p.line (cs.size + 1) (next cs p) "").map fun (s, q) => (.scalar p.mark s .double, q)
    else if c == '\'' then
      (singleQuoted cs p.line (cs.size + 1) (next cs p) "").map fun (s, q) => (.scalar p.mark s .single, q)
    else if c == '!' then
      let (tag, q) := readTag cs p
      match skipSpace cs true q with
      | .error e => .error e
      | .ok q =>
        if flowIndicators.contains (ahead cs q 0) || atEnd cs q then .ok (tagged tag (emptyAt q), q)
        else (flowNode fuel q).map fun (n, r) => (tagged tag n, r)
    else if c == ']' || c == '\x7d' || c == ',' || atEnd cs p then
      .error (.parsing p.line p.line "did not find expected node content")
    else if c == '@' || c == '`' || c == '%' then
      .error (.scanning p.line p.line "found character that cannot start any token")
    else
      let (s, q) := plainRun cs true (cs.size + 1) p ""
      .ok (.scalar p.mark s .plain, q)

/-- Reads the rest of a flow sequence opened on line `start`. -/
def flowSeq : Nat → Nat → Mark → Pos → List Node → Except Problem (Node × Pos)
  | 0, start, _, p, _ => .error (.parsing start p.line "did not find expected ',' or ']'")
  | fuel + 1, start, m, p, acc => do
    let q ← skipSpace cs true p
    if ahead cs q 0 == ']' then return (.sequence m acc.reverse true, next cs q)
    let (item, r) ← flowNode fuel q
    let r ← skipSpace cs true r
    let (item, r) ←
      if ahead cs r 0 == ':' then do
        let s ← skipSpace cs true (next cs r)
        if ahead cs s 0 == ',' || ahead cs s 0 == ']' then
          pure (Node.mapping item.mark [(item, emptyAt s)] true, s)
        else do
          let (v, t) ← flowNode fuel s
          let t ← skipSpace cs true t
          pure (Node.mapping item.mark [(item, v)] true, t)
      else pure (item, r)
    if ahead cs r 0 == ',' then flowSeq fuel start m (next cs r) (item :: acc)
    else if ahead cs r 0 == ']' then return (.sequence m (item :: acc).reverse true, next cs r)
    else throw (.parsing start r.line "did not find expected ',' or ']'")

/-- Reads the rest of a flow mapping opened on line `start`. -/
def flowMap : Nat → Nat → Mark → Pos → List (Node × Node) → Except Problem (Node × Pos)
  | 0, start, _, p, _ => .error (.parsing start p.line "did not find expected ',' or '\x7d'")
  | fuel + 1, start, m, p, acc => do
    let q ← skipSpace cs true p
    if ahead cs q 0 == '\x7d' then return (.mapping m acc.reverse true, next cs q)
    let (k, r) ← if ahead cs q 0 == ':' then pure (emptyAt q, q) else flowNode fuel q
    let r ← skipSpace cs true r
    let (v, r) ←
      if ahead cs r 0 == ':' then do
        let s ← skipSpace cs true (next cs r)
        if ahead cs s 0 == ',' || ahead cs s 0 == '\x7d' then pure (emptyAt s, s)
        else do
          let (v, t) ← flowNode fuel s
          let t ← skipSpace cs true t
          pure (v, t)
      else pure (emptyAt r, r)
    if ahead cs r 0 == ',' then flowMap fuel start m (next cs r) ((k, v) :: acc)
    else if ahead cs r 0 == '\x7d' then return (.mapping m ((k, v) :: acc).reverse true, next cs r)
    else throw (.parsing start r.line "did not find expected ',' or '\x7d'")
end

/-- Reads a piece that may be a key: a flow collection, a quoted scalar, or a plain scalar to the
end of its line. -/
def keyPiece (p : Pos) : Except Problem (Node × Pos) :=
  let c := ahead cs p 0
  if c == '[' || c == '\x7b' || c == '"' || c == '\'' then flowNode cs (4 * cs.size + 64) p
  else if c == ']' || c == '\x7d' || c == ',' then
    .error (.parsing p.line p.line "did not find expected node content")
  else if c == '@' || c == '`' || c == '%' then
    .error (.scanning p.line p.line "found character that cannot start any token")
  else
    let (s, q) := plainRun cs false (cs.size + 1) p ""
    .ok (.scalar p.mark s .plain, q)

/-- Whether a mapping value indicator (`:` before a blank) stands at `p`. -/
def valueIndicator (p : Pos) : Bool := ahead cs p 0 == ':' && blankAt cs p 1

/-- Whether a sequence entry indicator (`-` before a blank) stands at `p`. -/
def entryIndicator (p : Pos) : Bool := ahead cs p 0 == '-' && blankAt cs p 1

mutual
/-- Reads a node in block context at `p`, inside a collection at column `parent` (-1 at the
top). A node on the line of its key (`inline`) cannot start a mapping or a sequence. -/
def blockNode : Nat → Int → Bool → Pos → Except Problem (Node × Pos)
  | 0, _, _, p => .error (.parsing p.line p.line "did not find expected node content")
  | fuel + 1, parent, inline, p =>
    let c := ahead cs p 0
    if entryIndicator cs p then
      if inline then
        .error (.scanning p.line p.line "block sequence entries are not allowed in this context")
      else blockSeq fuel p.column false p.line p.mark p []
    else if c == '|' || c == '>' then
      (blockScalar cs (c == '|') parent p).map fun (s, q) =>
        (.scalar p.mark s (if c == '|' then .literal else .folded), q)
    else if c == '!' then
      let (tag, q) := readTag cs p
      let q := skipBlank cs (cs.size + 1) q
      if lineEnds cs q then
        match skipSpace cs false q with
        | .error e => .error e
        | .ok r =>
          if !atEnd cs r && (r.column : Int) > parent && !docMarker cs r then
            (blockNode fuel parent false r).map fun (n, t) => (tagged tag n, t)
          else .ok (tagged tag (emptyAt q), r)
      else (blockNode fuel parent inline q).map fun (n, r) => (tagged tag n, r)
    else
      match keyPiece cs p with
      | .error e => .error e
      | .ok (n, q) =>
        let q' := skipBlank cs (cs.size + 1) q
        if valueIndicator cs q' then
          if inline then
            .error (.scanning q'.line q'.line "mapping values are not allowed in this context")
          else blockMap fuel p.column p.line p.mark [] n q'
        else
          match n with
          | .scalar m s .plain =>
            let (s, r) := plainMore cs parent (cs.size + 1) q s
            let r' := skipBlank cs (cs.size + 1) r
            if valueIndicator cs r' then
              .error (.scanning r'.line r'.line "mapping values are not allowed in this context")
            else .ok (.scalar m s .plain, r)
          | n => .ok (n, q)

/-- Reads the entries of a block mapping at column `col` that started on line `start`, from the
value indicator after `key`. -/
def blockMap : Nat → Nat → Nat → Mark → List (Node × Node) → Node → Pos → Except Problem (Node × Pos)
  | 0, _, start, _, _, _, p => .error (.parsing start p.line "did not find expected key")
  | fuel + 1, col, start, m, acc, key, q => do
    let r := skipBlank cs (cs.size + 1) (next cs q)
    let (v, t) ←
      if lineEnds cs r then do
        let s ← skipSpace cs false r
        if atEnd cs s || docMarker cs s then pure (emptyAt r, s)
        else if s.column > col then blockNode fuel col false s
        else if s.column == col && entryIndicator cs s then blockSeq fuel col true s.line s.mark s []
        else pure (emptyAt r, s)
      else blockNode fuel col true r
    let acc := (key, v) :: acc
    let t ← skipSpace cs false t
    if atEnd cs t || t.column < col || docMarker cs t then
      return (.mapping m acc.reverse false, t)
    if t.column > col || entryIndicator cs t then
      throw (.parsing start t.line "did not find expected key")
    let (k, u) ← keyPiece cs t
    let u := skipBlank cs (cs.size + 1) u
    if valueIndicator cs u then blockMap fuel col start m acc k u
    else throw (.scanning t.line u.line "could not find expected ':'")

/-- Reads the items of a block sequence at column `col` that started on line `start`, from the
entry indicator at `p`. A sequence in its key's column (`indentless`) ends at a line that is not
an entry. -/
def blockSeq : Nat → Nat → Bool → Nat → Mark → Pos → List Node → Except Problem (Node × Pos)
  | 0, _, _, start, _, p, _ => .error (.parsing start p.line "did not find expected '-' indicator")
  | fuel + 1, col, indentless, start, m, p, acc => do
    let r := skipBlank cs (cs.size + 1) (next cs p)
    let (item, t) ←
      if lineEnds cs r then do
        let s ← skipSpace cs false r
        if !atEnd cs s && s.column > col && !docMarker cs s then blockNode fuel col false s
        else pure (emptyAt r, s)
      else blockNode fuel col false r
    let acc := item :: acc
    let t ← skipSpace cs false t
    if atEnd cs t || t.column < col || docMarker cs t then
      return (.sequence m acc.reverse false, t)
    if t.column == col && entryIndicator cs t then blockSeq fuel col indentless start m t acc
    else if t.column == col && indentless then return (.sequence m acc.reverse false, t)
    else throw (.parsing start t.line "did not find expected '-' indicator")
end

end Reading

/-- Reads the first document of a text; none when the text has no document. -/
def parseDocument (text : String) : Except Problem (Option Node) := do
  let chars := (text.replace "\r\n" "\n").toList
  let chars := if chars.head? == some '﻿' then chars.tail else chars
  let cs := chars.toArray
  let p ← skipSpace cs false ⟨0, 0, 0⟩
  let (started, p) ←
    if docMarker cs p && ahead cs p 0 == '-' then do
      let q := skipBlank cs (cs.size + 1) ⟨p.index + 3, p.line, 3⟩
      let q ← if lineEnds cs q then skipSpace cs false q else pure q
      pure (true, q)
    else pure (false, p)
  if atEnd cs p || docMarker cs p then
    return (if started then some (emptyAt p) else none)
  let (n, q) ← blockNode cs (4 * cs.size + 64) (-1) false p
  let q ← skipSpace cs false q
  if atEnd cs q || docMarker cs q then return some n
  throw (.parsing q.line q.line "did not find expected <document start>")

end Theming.Yaml
