import Theming.Sheet.Lexeme
import Theming.Sheet.Token
import Theming.Sheet.SyntaxError
import Theming.Number.Read

/-!
# The token stream of theme text

Theme text is cut into lexemes (`Theming.Sheet.Lexeme`) and the lexemes become tokens: blanks
and comments are dropped, `//` starts a comment that runs to the end of the line, a function
lexeme `name(` gives a name token and a `(` token, strings are decoded, numbers are read, and
every lexeme that theme text does not use is a syntax error. The stream ends with an
end-of-input token whose offset is the length of the text, or at the first syntax error.
-/

set_option autoImplicit false

namespace Theming.Sheet

open Theming.Text

/-- The tokens of a text up to the end or the first error, and that error. -/
structure TokenStream where
  tokens : List Token
  failure : Option SyntaxError

namespace TokenStream

/-- Decodes the body of a quoted string: `\n` and `\t` stand for line feed and tab, a backslash
before a line feed continues the line, and a backslash before any other byte stands for that
byte. The decoding succeeds only if the closing quote is the last byte. -/
def unquoteBody (quote : UInt8) : List UInt8 → List UInt8 → Option (List UInt8)
  | [], _ => none
  | 92 :: c :: r, acc =>
    let acc := if c == 110 then 10 :: acc
      else if c == 116 then 9 :: acc
      else if c == 10 then acc
      else c :: acc
    unquoteBody quote r acc
  | [92], _ => none
  | c :: r, acc => if c == quote then (if r.isEmpty then some acc.reverse else none)
    else unquoteBody quote r (c :: acc)

/-- Decodes a string lexeme (with its quotes). -/
def unquote : List UInt8 → Option (List UInt8)
  | q :: body => unquoteBody q body []
  | [] => none

/-- The position of the first backslash in a name, if any. -/
def backslashIndex (bs : List UInt8) : Option Nat := bs.findIdx? (· == 92)

/-- Drops trailing line breaks (line feed, carriage return, form feed). -/
def trimBreaks (bs : List UInt8) : List UInt8 :=
  (bs.reverse.dropWhile fun c => c == 10 || c == 13 || c == 12).reverse

/-- The bytes of a line comment after its first slash, up to (not including) the line break. -/
def lineCommentWidth (rest : List UInt8) : Nat :=
  Lexeme.countWhile (fun c => c != 10 && c != 13) rest

/-- What one lexeme contributes: tokens, a syntax error, or nothing (blanks and comments); and
how many bytes to go on after. -/
inductive Outcome where
  | emit (tokens : List Token)
  | fail (problem : Problem) (offset : Nat) (token : String)
  | skip

/-- The outcome of the lexeme of kind `kind` that takes the bytes `text` at `offset`, with
`after` the input following it. -/
def lexemeOutcome (kind : LexemeKind) (text after : List UInt8) (offset : Nat) : Outcome :=
  let shown := Utf8.toText text
  match kind with
  | .blank => .skip
  | .comment =>
    if text.length < 4 || !(text.drop (text.length - 2) == [42, 47]) then
      .fail .commentNotClosed offset "/*"
    else .skip
  | .ident =>
    match backslashIndex text with
    | some i => .fail .escapeInName (offset + i) shown
    | none => .emit [{ kind := .ident, text := shown, offset }]
  | .function =>
    match backslashIndex text with
    | some i => .fail .escapeInName (offset + i) shown
    | none =>
      let name := text.take (text.length - 1)
      .emit [{ kind := .ident, text := Utf8.toText name, offset },
        { kind := .lparen, text := "(", offset := offset + name.length }]
  | .string =>
    match unquote text with
    | some body => .emit [{ kind := .string, text := Utf8.toText body, offset }]
    | none => .fail .stringNotClosed offset shown
  | .badString => .fail .lineBreakInString offset (Utf8.toText (trimBreaks text))
  | .number =>
    if text.head? == some 43 then .fail .explicitPlus offset shown
    else if after.head? == some 46 then .fail .digitsAfterPoint offset (shown ++ ".")
    else match Theming.Number.readFloat shown with
      | .ok x => .emit [{ kind := .number, text := shown, number := x, offset }]
      | .error _ => .fail (.outOfRange shown) offset shown
  | .dimension | .percentage => .fail .units offset shown
  | .hash => .emit [{ kind := .hash, text := shown, offset }]
  | .lbrace => .emit [{ kind := .lbrace, text := "\x7b", offset }]
  | .rbrace => .emit [{ kind := .rbrace, text := "\x7d", offset }]
  | .colon => .emit [{ kind := .colon, text := ":", offset }]
  | .semicolon => .emit [{ kind := .semicolon, text := ";", offset }]
  | .lparen => .emit [{ kind := .lparen, text := "(", offset }]
  | .rparen => .emit [{ kind := .rparen, text := ")", offset }]
  | .comma => .emit [{ kind := .comma, text := ",", offset }]
  | .delim =>
    if text == [46] then .emit [{ kind := .dot, text := ".", offset }]
    else if text == [47] && after.head? == some 47 then .skip
    else .fail .strayCharacter offset shown
  | .other => .fail .strayCharacter offset shown

/-- The width of a lexeme including what it makes the reader skip: a `//` comment runs on to
the end of its line. -/
def consumed (kind : LexemeKind) (width : Nat) (rest : List UInt8) : Nat :=
  let text := rest.take width
  let after := rest.drop width
  match kind with
  | .delim => if text == [47] && after.head? == some 47 then width + lineCommentWidth after
    else width
  | _ => width

/-- Reads the tokens of `data` from the point where `rest` remains, collecting them in reverse
in `acc`. -/
def scan (data : List UInt8) (source : String) (rest : List UInt8) (acc : List Token) :
    TokenStream :=
  match _hr : rest with
  | [] =>
    { tokens := (acc.reverse ++ [{ kind := .eof, text := "", offset := data.length }]),
      failure := none }
  | _ :: _ =>
    let (kind, width) := Lexeme.next rest
    let width := max width 1
    let offset := data.length - rest.length
    match lexemeOutcome kind (rest.take width) (rest.drop width) offset with
    | .fail problem errorAt token =>
      { tokens := acc.reverse,
        failure := some (SyntaxError.make data source problem errorAt token) }
    | .emit tokens => scan data source (rest.drop (consumed kind width rest)) (tokens.reverse ++ acc)
    | .skip => scan data source (rest.drop (consumed kind width rest)) acc
termination_by rest.length
decreasing_by
  all_goals
    subst _hr
    simp only [consumed, List.length_drop, List.length_cons]
    split <;> (try split) <;> omega

/-- The token stream of a text with the given source name. -/
def ofBytes (data : List UInt8) (source : String) : TokenStream :=
  scan data source data []

end TokenStream

end Theming.Sheet
