import Theming.Sheet.Position
import Theming.Text.Quoted
import Theming.Text.Naming

/-!
# Syntax errors in theme text

Reading theme text stops at the first problem. A problem has a cause (`Problem`), which decides
both its class (`SyntaxErrorKind`) and its message, and a place: the byte offset, the line and
column of that offset, the text of the offending token and the line around it.

The full message is `source:line:column: kind at "token": message`, where the source and its
colon are left out when the source has no name, `at "token"` when there is no token text, and
`: message` when the message is empty.
-/

set_option autoImplicit false

namespace Theming.Sheet

/-- The classes of syntax errors, in their fixed numbering from zero. -/
inductive SyntaxErrorKind where
  | unterminatedString
  | unterminatedComment
  | unexpectedCharacter
  | unexpectedToken
  | malformedNumber
  | malformedColor
  | emptyPath
  deriving Repr, BEq, DecidableEq

namespace SyntaxErrorKind

/-- All classes in their numbering. -/
def all : List SyntaxErrorKind :=
  [unterminatedString, unterminatedComment, unexpectedCharacter, unexpectedToken,
    malformedNumber, malformedColor, emptyPath]

/-- The name of a class. -/
def name : SyntaxErrorKind → String
  | unterminatedString => "unterminatedString"
  | unterminatedComment => "unterminatedComment"
  | unexpectedCharacter => "unexpectedCharacter"
  | unexpectedToken => "unexpectedToken"
  | malformedNumber => "malformedNumber"
  | malformedColor => "malformedColor"
  | emptyPath => "emptyPath"

/-- The names of the values, under the type name. -/
def naming : Theming.Text.Naming := ⟨"SyntaxErrorKind", all.map name⟩

end SyntaxErrorKind

/-- What the grammar expected where it found something else. -/
inductive Expectation where
  | styleName
  | openBrace
  | colonAfter (path : String)
  | semicolonAfter (path : String)
  | propertyPath
  | value
  | openParenAfter (constructor : String)
  deriving Repr, BEq, DecidableEq

/-- The causes of syntax errors. -/
inductive Problem where
  /-- A comment runs to the end of the text. -/
  | commentNotClosed
  /-- A string runs to the end of the text, or ends in a lone backslash. -/
  | stringNotClosed
  /-- A raw line break inside a string. -/
  | lineBreakInString
  /-- A backslash escape inside a name. -/
  | escapeInName
  /-- A character, or a CSS construct, that theme text does not use. -/
  | strayCharacter
  /-- A number written with a plus sign. -/
  | explicitPlus
  /-- A decimal point with no digit after it. -/
  | digitsAfterPoint
  /-- A number too large for a double. -/
  | outOfRange (text : String)
  /-- A number followed by a unit or a percent sign. -/
  | units
  /-- Some other token where the grammar expected something. -/
  | expected (what : Expectation)
  /-- The text ends inside a style block. -/
  | unclosedStyle (name : String)
  /-- A semicolon directly after the colon of an assignment. -/
  | valueMissing
  /-- A name followed by `(` that is not `rgb`, `rgba`, `CGRect` or `CGSize`. -/
  | unknownConstructor
  /-- A constructor with the wrong number of arguments. -/
  | argumentCount (constructor : String) (allowed : List Nat) (given : Nat)
  /-- A constructor argument that is not a number. -/
  | argumentNotNumber (constructor : String)
  /-- Something other than `,` or `)` after a constructor argument. -/
  | argumentSeparator (constructor : String)
  /-- A colon where an assignment's path should start. -/
  | pathMissing
  /-- A point in a path not followed by a name. -/
  | emptySegment
  /-- A hex color whose digit count is neither six nor eight. -/
  | hexLength
  /-- A hex color with a character that is not a hex digit. -/
  | hexDigits
  deriving Repr, BEq, DecidableEq

open Theming.Text.Quoted in
/-- What the grammar expected, in words. -/
def Expectation.words : Expectation → String
  | .styleName => "style name"
  | .openBrace => "'\x7b' after style name"
  | .colonAfter path => "':' after " ++ quote path
  | .semicolonAfter path => "';' after value of " ++ quote path
  | .propertyPath => "property path"
  | .value => "value"
  | .openParenAfter constructor => "'(' after " ++ constructor

namespace Problem

/-- The class of a cause. -/
def kind : Problem → SyntaxErrorKind
  | commentNotClosed => .unterminatedComment
  | stringNotClosed | lineBreakInString => .unterminatedString
  | escapeInName | strayCharacter => .unexpectedCharacter
  | explicitPlus | digitsAfterPoint | outOfRange _ | units | argumentNotNumber _ => .malformedNumber
  | expected _ | unclosedStyle _ | valueMissing | unknownConstructor | argumentCount .. |
    argumentSeparator _ => .unexpectedToken
  | pathMissing | emptySegment => .emptyPath
  | hexLength | hexDigits => .malformedColor

open Theming.Text.Quoted in
/-- The message of a cause. -/
def message : Problem → String
  | commentNotClosed => "comment is not closed"
  | stringNotClosed => "string is not closed"
  | lineBreakInString => "line break inside string"
  | escapeInName => "escapes are not allowed in names"
  | strayCharacter => ""
  | explicitPlus => "explicit plus sign is not allowed"
  | digitsAfterPoint => "digits expected after decimal point"
  | outOfRange text => "strconv.ParseFloat: parsing " ++ quote text ++ ": value out of range"
  | units => "units are not supported"
  | expected what => "expected " ++ what.words
  | unclosedStyle name => "expected '\x7d' to close style " ++ quote name
  | valueMissing => "value is missing"
  | unknownConstructor => "unknown value constructor"
  | argumentCount constructor allowed given =>
    constructor ++ " takes " ++ " or ".intercalate (allowed.map toString) ++ " arguments, got " ++
      toString given
  | argumentNotNumber constructor => constructor ++ " arguments must be numbers"
  | argumentSeparator constructor => "expected ',' or ')' in " ++ constructor
  | pathMissing => "property path is missing"
  | emptySegment => "empty path segment"
  | hexLength => "expected #RRGGBB or #RRGGBBAA"
  | hexDigits => "invalid hexadecimal digits"

end Problem

/-- A syntax error: its cause, the name of the text, the byte offset, its line and column, the
offending token's text and the line around it. -/
structure SyntaxError where
  problem : Problem
  source : String
  offset : Nat
  line : Nat
  column : Nat
  token : String
  context : String
  deriving Repr, BEq

namespace SyntaxError

/-- The error for a cause at a byte offset of the text (clamped to the text's length). -/
def make (data : List UInt8) (source : String) (problem : Problem) (offset : Nat)
    (token : String) : SyntaxError :=
  let offset := min offset data.length
  let (line, column) := Position.lineColumn data offset
  { problem, source, offset, line, column, token,
    context := Position.contextLine data offset }

/-- The class of the error. -/
def kind (e : SyntaxError) : SyntaxErrorKind := e.problem.kind

/-- The message of the cause alone. -/
def msg (e : SyntaxError) : String := e.problem.message

/-- The full message: place, class, token and cause. -/
def message (e : SyntaxError) : String :=
  (if e.source.isEmpty then "" else e.source ++ ":") ++
    toString e.line ++ ":" ++ toString e.column ++ ": " ++ e.kind.name ++
    (if e.token.isEmpty then "" else " at " ++ Theming.Text.Quoted.quote e.token) ++
    (if e.msg.isEmpty then "" else ": " ++ e.msg)

end SyntaxError

end Theming.Sheet
