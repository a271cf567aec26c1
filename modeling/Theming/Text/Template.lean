/-!
# Text templates

A template is text with actions between `{{` and `}}`. An action holds a pipeline: commands
separated by `|`, each a function name with arguments or a single argument; the value of a
command is passed as the last argument of the next. Arguments are fields of the data (`.Name`,
chained as `.Name.Inner`, or `.` for the data itself), quoted strings and numbers. A `-` next
to a delimiter, followed or preceded by a blank, trims the blanks of the text on that side;
`{{/* … */}}` is a comment.

The functions are `print` (arguments side by side, with a space between two that are not
strings) and `printf` (a format with `%s`, `%v`, `%d`, `%q` and `%%`), and `len`; the other
names of the standard set are known but give their argument back.

Problems of the text are reported as `template: NAME:LINE: what`; problems when filling in
as `template: NAME:LINE:COLUMN: executing "NAME" at <NODE>: what`, where the column counts
bytes from the start of the line, from 0.
-/

set_option autoImplicit false

namespace Theming.Text

/-- A value a template reads: text, a record of named fields, or a value shown as given. -/
inductive Datum where
  | text (s : String)
  | record (typeName : String) (fields : List (String × Datum))
  | shown (typeName : String) (s : String)
  deriving Inhabited

namespace Datum

/-- The name of the datum's type. -/
def typeName : Datum → String
  | text _ => "string"
  | record t _ => t
  | shown t _ => t

/-- The field of a record. -/
def field? (d : Datum) (name : String) : Option Datum :=
  match d with
  | record _ fs => fs.lookup name
  | _ => none

/-- The text a datum fills in. -/
def filled : Datum → String
  | text s => s
  | record _ fs => "&\x7b" ++ " ".intercalate (fs.map fun f => match f.2 with
      | text s => s
      | shown _ s => s
      | record t _ => t) ++ "\x7d"
  | shown _ s => s

end Datum

/-- An argument of a command. -/
inductive Arg where
  /-- A chain of fields from the data, empty for the data itself. -/
  | field (names : List String)
  | literal (s : String)
  | number (s : String)
  | function (name : String)
  deriving Inhabited, BEq

/-- An argument with the byte offset where it starts in the template and the text it was written
as. -/
structure Located where
  arg : Arg
  offset : Nat
  written : String
  deriving Inhabited

/-- A piece of a template: text, or an action with the commands of its pipeline. -/
inductive Piece where
  | text (s : String)
  | action (commands : List (List Located))
  deriving Inhabited

/-- A parsed template. -/
structure Template where
  name : String
  source : String
  pieces : List Piece
  deriving Inhabited

/-- The names of the standard functions. -/
def builtinFunctions : List String :=
  ["and", "call", "html", "index", "slice", "js", "len", "not", "or", "print", "printf",
   "println", "urlquery", "eq", "ge", "gt", "le", "lt", "ne"]

/-- The control words, which this subset does not carry out. -/
def controlWords : List String :=
  ["block", "break", "continue", "define", "else", "end", "if", "range", "template", "with"]

/-- Whether a character is a blank inside actions. -/
def isActionSpace (c : Char) : Bool := c == ' ' || c == '\t' || c == '\r' || c == '\n'

/-- Whether a character may be part of a name. -/
def isNameChar (c : Char) : Bool := c.isAlphanum || c == '_' || c.toNat ≥ 0x80

/-- The number of UTF-8 bytes of some characters. -/
def byteCount (cs : List Char) : Nat := cs.foldl (fun n c => n + c.utf8Size) 0

/-- The problem of a template's text, on a line. -/
def textProblem (name : String) (line : Nat) (what : String) : String :=
  "template: " ++ name ++ ":" ++ toString line ++ ": " ++ what

/-- The state of reading an action: the characters left, and the byte offset and line where
they start. -/
structure Cursor where
  rest : List Char
  offset : Nat
  line : Nat

namespace Cursor

/-- Steps over some characters. -/
def skip (c : Cursor) (n : Nat) : Cursor :=
  let taken := c.rest.take n
  { rest := c.rest.drop n, offset := c.offset + byteCount taken,
    line := c.line + (taken.filter (· == '\n')).length }

/-- Steps over blanks. -/
def skipSpace (c : Cursor) : Cursor := c.skip (c.rest.takeWhile isActionSpace).length

/-- Whether the action closes here, with or without a trim marker; the number of characters of
the closing. -/
def closing? (c : Cursor) : Option Nat :=
  match c.rest with
  | '}' :: '}' :: _ => some 2
  | ' ' :: '-' :: '}' :: '}' :: _ => some 4
  | '\t' :: '-' :: '}' :: '}' :: _ => some 4
  | '\n' :: '-' :: '}' :: '}' :: _ => some 4
  | '\r' :: '-' :: '}' :: '}' :: _ => some 4
  | _ => none

end Cursor

/-- Reads a quoted string after its opening quote: the text and the number of characters read,
the closing quote included. Escapes are kept as written except `\"` and `\\`. -/
def quotedString (cs : List Char) : Option (String × Nat) :=
  let rec go : List Char → String → Nat → Option (String × Nat)
    | [], _, _ => none
    | '"' :: _, acc, n => some (acc, n + 1)
    | '\\' :: c :: rest, acc, n =>
      if c == '\n' then none
      else go rest (acc.push (match c with
        | 'n' => '\n'
        | 't' => '\t'
        | c => c)) (n + 2)
    | '\n' :: _, _, _ => none
    | c :: rest, acc, n => go rest (acc.push c) (n + 1)
  go cs "" 0

/-- Reads the arguments of an action up to its closing: the commands, and the cursor after the
closing with whether the closing trims. -/
def readAction (name : String) : Nat → Cursor → List Located → List (List Located) →
    Except String (List (List Located) × Cursor × Bool)
  | 0, c, _, _ => .error (textProblem name c.line "unclosed action")
  | fuel + 1, c, cmd, cmds =>
    let finish (cmds : List (List Located)) : List (List Located) :=
      (if cmd.isEmpty then cmds else cmd.reverse :: cmds).reverse
    match c.closing? with
    | some n =>
      .ok (finish cmds, c.skip n, n == 4)
    | none =>
      match c.rest with
      | [] => .error (textProblem name c.line "unclosed action")
      | ch :: more =>
        if isActionSpace ch then readAction name fuel (c.skip 1) cmd cmds
        else if ch == '|' then
          if cmd.isEmpty then .error (textProblem name c.line "missing value for command")
          else readAction name fuel (c.skip 1) [] (cmd.reverse :: cmds)
        else if ch == '.' then
          let chain := (ch :: more).takeWhile fun x => isNameChar x || x == '.'
          let written := String.ofList chain
          let names := (written.splitOn ".").drop 1
          let names := if names == [""] then [] else names
          if names.any (·.isEmpty) then .error (textProblem name c.line "unexpected . after term")
          else
            readAction name fuel (c.skip chain.length)
              (⟨.field names, c.offset, written⟩ :: cmd) cmds
        else if ch == '"' then
          match quotedString more with
          | none => .error (textProblem name c.line "unterminated quoted string")
          | some (s, n) =>
            readAction name fuel (c.skip (n + 1))
              (⟨.literal s, c.offset, String.ofList ((ch :: more).take (n + 1))⟩ :: cmd) cmds
        else if ch.isDigit || ch == '-' || ch == '+' then
          let numeral := (ch :: more).takeWhile fun x => x.isAlphanum || x == '.' || x == '-' || x == '+' || x == '_'
          readAction name fuel (c.skip numeral.length)
            (⟨.number (String.ofList numeral), c.offset, String.ofList numeral⟩ :: cmd) cmds
        else if isNameChar ch then
          let word := String.ofList ((ch :: more).takeWhile isNameChar)
          if controlWords.contains word || word == "true" || word == "false" || word == "nil" then
            readAction name fuel (c.skip word.length)
              (⟨.literal word, c.offset, word⟩ :: cmd) cmds
          else if builtinFunctions.contains word then
            readAction name fuel (c.skip word.length)
              (⟨.function word, c.offset, word⟩ :: cmd) cmds
          else .error (textProblem name c.line ("function " ++ "\"" ++ word ++ "\" not defined"))
        else .error (textProblem name c.line
          ("unexpected \"" ++ ch.toString ++ "\" in command"))

/-- Skips a comment after its opening `/*`: the cursor after the closing delimiter and whether
the closing trims. -/
def readComment (name : String) (c : Cursor) : Except String (Cursor × Bool) :=
  let rec find : Nat → Cursor → Option Cursor
    | 0, _ => none
    | fuel + 1, c =>
      match c.rest with
      | '*' :: '/' :: _ => some (c.skip 2)
      | [] => none
      | _ :: _ => find fuel (c.skip 1)
  match find (c.rest.length + 1) c with
  | none => .error (textProblem name c.line "unclosed comment")
  | some after =>
    match after.closing? with
    | some n => .ok (after.skip n, n == 4)
    | none => .error (textProblem name after.line "comment ends before closing delimiter")

/-- Drops blanks at the end of a text. -/
def trimEnd (s : String) : String :=
  String.ofList (s.toList.reverse.dropWhile isActionSpace).reverse

/-- Reads the pieces of a template from a cursor; `trimNext` tells that the text that follows is
to lose its leading blanks. -/
def readPieces (name : String) : Nat → Cursor → Bool → List Piece → Except String (List Piece)
  | 0, _, _, acc => .ok acc.reverse
  | fuel + 1, c, trimNext, acc =>
    let rec textUntil : Nat → List Char → List Char → List Char × List Char
      | 0, seen, rest => (seen.reverse, rest)
      | f + 1, seen, rest =>
        match rest with
        | '{' :: '{' :: _ => (seen.reverse, rest)
        | [] => (seen.reverse, [])
        | x :: more => textUntil f (x :: seen) more
    let (before, _) := textUntil (c.rest.length + 1) [] c.rest
    let text := String.ofList (if trimNext then before.dropWhile isActionSpace else before)
    let c := c.skip before.length
    if c.rest.isEmpty then
      .ok (if text.isEmpty then acc.reverse else (Piece.text text :: acc).reverse)
    else
      -- an action opens
      let opened := c.skip 2
      let (trimBefore, opened) :=
        match opened.rest with
        | '-' :: x :: _ => if isActionSpace x then (true, opened.skip 2) else (false, opened)
        | _ => (false, opened)
      let text := if trimBefore then trimEnd text else text
      let acc := if text.isEmpty then acc else Piece.text text :: acc
      match opened.rest with
      | '/' :: '*' :: _ =>
        match readComment name (opened.skip 2) with
        | .error e => .error e
        | .ok (after, trim) => readPieces name fuel after trim acc
      | _ =>
        match readAction name (opened.rest.length + 1) opened [] [] with
        | .error e => .error e
        | .ok (cmds, after, trim) =>
          if cmds.isEmpty then .error (textProblem name opened.line "missing value for command")
          else
            match cmds.flatten.find? fun l => match l.arg with
              | .literal w => controlWords.contains w
              | _ => false with
            | some l => .error (textProblem name opened.line
                ("unexpected \x7b\x7b" ++ l.written ++ "\x7d\x7d"))
            | none => readPieces name fuel after trim (Piece.action cmds :: acc)

namespace Template

/-- Parses a template under a name. -/
def parse (name source : String) : Except String Template := do
  let pieces ← readPieces name (source.length + 1) ⟨source.toList, 0, 1⟩ false []
  pure { name, source, pieces }

/-- The line and column of a byte offset of the template, the column counted in bytes from 0. -/
def place (t : Template) (offset : Nat) : Nat × Nat :=
  let before := (t.source.toUTF8.extract 0 offset).toList
  let lines := (before.filter (· == 10)).length
  let lastBreak := (List.range before.length).reverse.find? fun i => before.getD i 0 == 10
  (lines + 1, match lastBreak with
    | some i => offset - (i + 1)
    | none => offset)

/-- The problem of filling in at an argument. -/
def execProblem (t : Template) (at_ : Located) (what : String) : String :=
  let (line, col) := t.place at_.offset
  "template: " ++ t.name ++ ":" ++ toString line ++ ":" ++ toString col ++ ": executing \"" ++
    t.name ++ "\" at <" ++ at_.written ++ ">: " ++ what

/-- The value of an argument. -/
def evalArg (t : Template) (data : Datum) (l : Located) : Except String Datum :=
  match l.arg with
  | .field names =>
    names.foldlM (fun (d : Datum) n =>
      match d.field? n with
      | some v => .ok v
      | none => .error (t.execProblem l ("can't evaluate field " ++ n ++ " in type " ++ d.typeName)))
      data
  | .literal s => .ok (.text s)
  | .number s => .ok (.text s)
  | .function f => .ok (.text f)

/-- Fills a `printf` format with texts. -/
def formatWith (fmt : List Char) (args : List String) : String :=
  let rec go : Nat → List Char → List String → String → String
    | 0, _, _, acc => acc
    | fuel + 1, cs, args, acc =>
      match cs with
      | [] => acc
      | '%' :: '%' :: rest => go fuel rest args (acc.push '%')
      | '%' :: v :: rest =>
        match args with
        | a :: more =>
          let shown := if v == 'q' then "\"" ++ a ++ "\"" else a
          go fuel rest more (acc ++ shown)
        | [] => go fuel rest [] (acc ++ "%!" ++ v.toString ++ "(MISSING)")
      | c :: rest => go fuel rest args (acc.push c)
  go (fmt.length + 1) fmt args ""

/-- Runs one command, with the value of the previous command if there is one. -/
def runCommand (t : Template) (data : Datum) (cmd : List Located) (piped : Option Datum) :
    Except String Datum := do
  match cmd with
  | [] => pure (piped.getD (.text ""))
  | first :: rest =>
    match first.arg with
    | .function f =>
      let args ← rest.mapM (t.evalArg data)
      let args := args ++ piped.toList
      let texts := args.map Datum.filled
      match f with
      | "print" => pure (.text (String.join texts))
      | "printf" =>
        match texts with
        | fmt :: more => pure (.text (formatWith fmt.toList more))
        | [] => pure (.text "")
      | "println" => pure (.text (" ".intercalate texts ++ "\n"))
      | "len" =>
        match texts with
        | [s] => pure (.text (toString s.utf8ByteSize))
        | _ => pure (.text "0")
      | _ => pure (args.getLastD (.text ""))
    | _ =>
      if !rest.isEmpty then throw (t.execProblem first "can't give argument to non-function")
      else t.evalArg data first

/-- Fills in a template with data. -/
def execute (t : Template) (data : Datum) : Except String String :=
  t.pieces.foldlM (fun acc p => match p with
    | .text s => .ok (acc ++ s)
    | .action cmds => do
      let v ← cmds.foldlM (fun (prev : Option Datum) cmd => do
        let r ← t.runCommand data cmd prev
        pure (some r)) none
      pure (acc ++ (v.map Datum.filled).getD "")) ""

end Template

end Theming.Text
