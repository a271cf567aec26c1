import Theming.Sheet.TokenStream
import Theming.Sheet.StyleSheet

/-!
# Reading style sheets

The grammar of theme text, over its token stream:

```
file       = block* ;
block      = IDENT '{' assignment* '}' ;
assignment = path ':' value ';' ;
path       = IDENT ('.' IDENT)* ;
value      = NUMBER | HASH | STRING ['capInsets' args] | IDENT [args | NUMBER] ;
args       = '(' NUMBER (',' NUMBER)* ')' ;
```

A name followed by `(` must be `rgb` or `rgba` (three or four numbers, a color), `CGRect` (four
numbers) or `CGSize` (two). A name followed by a number is a font. Other names are truth values
(`true`, `yes`, `false`, `no` in any letter case), `nil`, or plain names.

Two rules settle repetition, and both leave a warning: inside a block, a later assignment to the
same path replaces the earlier one and moves to the end; a later block with the same name
replaces the earlier block and moves its name to the end.

Reading stops at the first syntax error, lexical or grammatical, whichever comes first in the
token stream.
-/

set_option autoImplicit false

namespace Theming.Sheet

open Theming.Text

/-- What the grammar reads from: the text (for positions), its source name, and how the token
stream ended. -/
structure Reader where
  data : List UInt8
  source : String
  failure : Option SyntaxError

namespace Reader

/-- The token at the end of the text. -/
def eofToken (r : Reader) : Token := { kind := .eof, text := "", offset := r.data.length }

/-- The next token without taking it; past the last token, the stream's error or the end. -/
def peek (r : Reader) : List Token → Except SyntaxError Token
  | t :: _ => .ok t
  | [] => match r.failure with
    | some e => .error e
    | none => .ok r.eofToken

/-- Takes the next token. -/
def next (r : Reader) (ts : List Token) : Except SyntaxError (Token × List Token) :=
  (r.peek ts).map fun t => (t, ts.drop 1)

/-- The syntax error for a cause at a token; a string token is shown by its contents. -/
def errorAt (r : Reader) (problem : Problem) (t : Token) : SyntaxError :=
  SyntaxError.make r.data r.source problem t.offset (if t.kind == .string then t.text else t.describe)

/-- Takes the next token, which must be of the given kind. -/
def expect (r : Reader) (kind : TokenKind) (what : Expectation) (ts : List Token) :
    Except SyntaxError (Token × List Token) := do
  let (t, rest) ← r.next ts
  if t.kind == kind then pure (t, rest) else throw (r.errorAt (.expected what) t)

/-- The line of a token: one more than the line feeds before it. -/
def lineOf (r : Reader) (t : Token) : Nat := Position.lineOf r.data t.offset

/-- The numbers of a constructor's argument list, after the `(`, collected in reverse. -/
def argList (r : Reader) (fn : Token) (ts : List Token) (acc : List Float) :
    Except SyntaxError (List Float × List Token) := do
  let (t, rest) ← r.next ts
  if t.kind != .number then throw (r.errorAt (.argumentNotNumber fn.text) t)
  let (sep, rest') ← r.next rest
  if sep.kind == .rparen then pure ((t.number :: acc).reverse, rest')
  else if sep.kind != .comma then throw (r.errorAt (.argumentSeparator fn.text) sep)
  else if rest'.length < ts.length then r.argList fn rest' (t.number :: acc)
  else pure ((t.number :: acc).reverse, rest')
termination_by ts.length

/-- A constructor's arguments: `(`, numbers separated by commas, `)`, in one of the allowed
counts. -/
def args (r : Reader) (fn : Token) (counts : List Nat) (ts : List Token) :
    Except SyntaxError (List Float × List Token) := do
  let (_, rest) ← r.expect .lparen (.openParenAfter fn.text) ts
  let (nums, rest) ← r.argList fn rest []
  if counts.contains nums.length then pure (nums, rest)
  else throw (r.errorAt (.argumentCount fn.text counts nums.length) fn)

/-- Whether a byte is an ASCII hex digit. -/
def isHexByte (c : UInt8) : Bool :=
  (48 ≤ c && c ≤ 57) || (97 ≤ c && c ≤ 102) || (65 ≤ c && c ≤ 70)

/-- A `#hex` color: six or eight hex digits after the `#`. -/
def hexColor (r : Reader) (t : Token) : Except SyntaxError RawValue :=
  let digits := (Utf8.encode t.text).drop 1
  if digits.length != 6 && digits.length != 8 then .error (r.errorAt .hexLength t)
  else if !digits.all isHexByte then .error (r.errorAt .hexDigits t)
  else .ok { kind := .color, text := t.text }

/-- A letter compared without letter case; the long s counts as `s`. -/
def foldLetter (c : Char) : Char := if c = 'ſ' then 's' else c.toLower

/-- Whether two names are equal without regard to letter case. -/
def equalFold (a b : String) : Bool := a.toList.map foldLetter == b.toList.map foldLetter

/-- The truth value written by a name: true, yes, false or no in any letter case. -/
def boolLiteral (s : String) : Option Bool :=
  if equalFold s "TRUE" || equalFold s "YES" then some true
  else if equalFold s "FALSE" || equalFold s "NO" then some false
  else none

/-- A value that starts with a name: a constructor, a font, a truth value, `nil` or a name. -/
def identValue (r : Reader) (t : Token) (ts : List Token) :
    Except SyntaxError (RawValue × List Token) := do
  let nxt ← r.peek ts
  match nxt.kind with
  | .lparen =>
    if t.text == "rgb" || t.text == "rgba" then
      let (nums, rest) ← r.args t [3, 4] ts
      pure ({ kind := .color, numbers := nums }, rest)
    else if t.text == "CGRect" then
      let (nums, rest) ← r.args t [4] ts
      pure ({ kind := .rect, numbers := nums }, rest)
    else if t.text == "CGSize" then
      let (nums, rest) ← r.args t [2] ts
      pure ({ kind := .size, numbers := nums }, rest)
    else throw (r.errorAt .unknownConstructor t)
  | .number => pure ({ kind := .font, text := t.text, numbers := [nxt.number] }, ts.drop 1)
  | _ =>
    match boolLiteral t.text with
    | some b => pure ({ kind := .boolean, bool := b, text := t.text }, ts)
    | none =>
      if t.text == "nil" then pure ({ kind := .nil }, ts)
      else pure ({ kind := .ident, text := t.text }, ts)

/-- A value. -/
def value (r : Reader) (ts : List Token) : Except SyntaxError (RawValue × List Token) := do
  let (t, rest) ← r.next ts
  match t.kind with
  | .number => pure ({ kind := .number, numbers := [t.number] }, rest)
  | .hash => do
    let v ← r.hexColor t
    pure (v, rest)
  | .string => do
    let nxt ← r.peek rest
    if nxt.kind == .ident && nxt.text == "capInsets" then
      let (insets, rest') ← r.args nxt [4] (rest.drop 1)
      pure ({ kind := .image, text := t.text, insets }, rest')
    else pure ({ kind := .string, text := t.text }, rest)
  | .ident => r.identValue t rest
  | .semicolon => throw (r.errorAt .valueMissing t)
  | _ => throw (r.errorAt (.expected .value) t)

/-- The segments after the first one: `.` and a name, repeatedly. -/
def pathTail (r : Reader) (ts : List Token) (acc : List String) :
    Except SyntaxError (Path × List Token) := do
  let t ← r.peek ts
  if t.kind != .dot then pure (acc.reverse, ts)
  else
    let (seg, rest) ← r.next (ts.drop 1)
    if seg.kind != .ident then throw (r.errorAt .emptySegment seg)
    if rest.length < ts.length then r.pathTail rest (seg.text :: acc)
    else pure ((seg.text :: acc).reverse, rest)
termination_by ts.length

/-- A property path. -/
def path (r : Reader) (ts : List Token) : Except SyntaxError (Path × List Token) := do
  let (t, rest) ← r.next ts
  match t.kind with
  | .ident => r.pathTail rest [t.text]
  | .colon => throw (r.errorAt .pathMissing t)
  | _ => throw (r.errorAt (.expected .propertyPath) t)

/-- An assignment, with the line of its first token. -/
def assignment (r : Reader) (ts : List Token) : Except SyntaxError (Assignment × List Token) := do
  let first ← r.peek ts
  let (p, rest) ← r.path ts
  let (_, rest) ← r.expect .colon (.colonAfter p.render) rest
  let (v, rest) ← r.value rest
  let (_, rest) ← r.expect .semicolon (.semicolonAfter p.render) rest
  pure ({ path := p, value := v, line := r.lineOf first }, rest)

/-- Adds an assignment to a block: an earlier one to the same path is dropped, with a warning. -/
def addAssignment (styleName : String) (list : List Assignment) (a : Assignment)
    (warnings : List String) : List Assignment × List String :=
  let key := a.path.render
  match list.find? (·.path.render == key) with
  | some old =>
    (list.filter (·.path.render != key) ++ [a],
      warnings ++ ["style " ++ Quoted.quote styleName ++ ": " ++ Quoted.quote key ++
        " assigned on line " ++ toString a.line ++ " overrides line " ++ toString old.line])
  | none => (list ++ [a], warnings)

/-- The assignments of a block up to its `}`. -/
def blockBody (r : Reader) (nameTok : Token) (ts : List Token) (list : List Assignment)
    (warnings : List String) : Except SyntaxError ((List Assignment × List String) × List Token) := do
  let t ← r.peek ts
  if t.kind == .rbrace then pure ((list, warnings), ts.drop 1)
  else if t.kind == .eof then throw (r.errorAt (.unclosedStyle nameTok.text) t)
  else
    let (a, rest) ← r.assignment ts
    let (list, warnings) := addAssignment nameTok.text list a warnings
    if rest.length < ts.length then r.blockBody nameTok rest list warnings
    else pure ((list, warnings), rest)
termination_by ts.length

/-- Adds a block to a sheet: an earlier block of the same name is dropped, with a warning. -/
def addBlock (r : Reader) (sheet : StyleSheet) (nameTok : Token) (list : List Assignment) :
    StyleSheet :=
  let name := nameTok.text
  match sheet.style? name with
  | some _ =>
    { sheet with
      styles := sheet.styles.filter (·.1 != name) ++ [(name, list)],
      warnings := sheet.warnings ++ ["style " ++ Quoted.quote name ++ " on line " ++
        toString (r.lineOf nameTok) ++ " replaces earlier definition"] }
  | none => { sheet with styles := sheet.styles ++ [(name, list)] }

/-- A block: a style name, `{`, assignments and `}`. -/
def block (r : Reader) (sheet : StyleSheet) (ts : List Token) :
    Except SyntaxError (StyleSheet × List Token) := do
  let (nameTok, rest) ← r.expect .ident .styleName ts
  let (_, rest) ← r.expect .lbrace .openBrace rest
  let ((list, warnings), rest) ← r.blockBody nameTok rest [] sheet.warnings
  pure (r.addBlock { sheet with warnings } nameTok list, rest)

/-- Blocks up to the end of the text. -/
def file (r : Reader) (sheet : StyleSheet) (ts : List Token) : Except SyntaxError StyleSheet := do
  let t ← r.peek ts
  if t.kind == .eof then pure sheet
  else
    let (sheet, rest) ← r.block sheet ts
    if rest.length < ts.length then r.file sheet rest else pure sheet
termination_by ts.length

end Reader

/-- Reads a style sheet from theme text named `source`. -/
def StyleSheet.parse (data : List UInt8) (source : String) : Except SyntaxError StyleSheet :=
  let stream := TokenStream.ofBytes data source
  let r : Reader := { data, source, failure := stream.failure }
  r.file { source } stream.tokens

end Theming.Sheet
