import Theming.Text.Quoted

/-!
# Tokens of theme text

Theme text is read as a sequence of tokens: names, quoted strings, numbers, hash words
(`#ff0000`), the six punctuation marks `{ } : ; ( ) , .`, and a final end-of-input token. A token
records its kind, its text (the decoded contents for a string), its number for a number token,
and the byte offset where it starts.
-/

set_option autoImplicit false

namespace Theming.Sheet

/-- The kinds of tokens, in their fixed numbering from zero. -/
inductive TokenKind where
  | eof
  | ident
  | string
  | number
  | hash
  | lbrace
  | rbrace
  | colon
  | semicolon
  | lparen
  | rparen
  | comma
  | dot
  deriving Repr, BEq, DecidableEq, Inhabited

namespace TokenKind

/-- All kinds in their numbering. -/
def all : List TokenKind :=
  [eof, ident, string, number, hash, lbrace, rbrace, colon, semicolon, lparen, rparen, comma, dot]

/-- The printed name of a kind: a word for the classes, the quoted mark for punctuation. -/
def name : TokenKind → String
  | eof => "EOF"
  | ident => "IDENT"
  | string => "STRING"
  | number => "NUMBER"
  | hash => "HASH"
  | lbrace => "'\x7b'"
  | rbrace => "'\x7d'"
  | colon => "':'"
  | semicolon => "';'"
  | lparen => "'('"
  | rparen => "')'"
  | comma => "','"
  | dot => "'.'"

/-- The printed name of a kind given by its number; numbers outside the kinds are shown as
`TokenKind(n)`. -/
def nameOfCode (n : Int) : String :=
  if 0 ≤ n then
    match all[n.toNat]? with
    | some k => k.name
    | none => "TokenKind(" ++ toString n ++ ")"
  else "TokenKind(" ++ toString n ++ ")"

end TokenKind

/-- A token: its kind, its text (decoded contents for strings, the mark for punctuation, empty
at the end), its value when it is a number, and the byte offset where it starts. -/
structure Token where
  kind : TokenKind
  text : String
  number : Float := 0
  offset : Nat
  deriving Inhabited

namespace Token

/-- How a token is named in messages: the end is "end of input", a string is shown quoted,
names, numbers and hash words by their text, punctuation by its kind. -/
def describe (t : Token) : String :=
  match t.kind with
  | .eof => "end of input"
  | .string => Theming.Text.Quoted.quote t.text
  | .ident | .number | .hash => t.text
  | k => k.name

end Token

end Theming.Sheet
