import Theming.Text.Utf8

/-!
# XML tokens

A strict reader of XML documents as a stream of tokens: start tags with their attributes, end
tags (an empty-element tag gives a start and an end), character data, comments, processing
instructions and directives.

What content begins with decides what is read: `</` an end tag, `<?` a processing instruction,
`<!--` a comment, `<![CDATA[` character data up to `]]>`, another `<!` a directive, another `<` a
start tag, anything else character data up to the next `<`. Names are runs of letters, digits
and `_ : . -` (and any non-ASCII character) that start with a letter, `_` or `:`; a name with
one colon has a prefix. Attribute values are quoted; in them and in character data the five
predefined entities and numeric character references are replaced, and a carriage return (with
a line feed after it) becomes a line feed.

End tags must match the open start tags, by prefix and local name. A document may end only
with every element closed. Failures read `XML syntax error on line N: …`, where `N` counts the
line feeds read so far.
-/

set_option autoImplicit false

namespace Theming.Markup

/-- A name with an optional prefix. -/
structure QName where
  qualifier : String
  localName : String
  deriving Repr, BEq, Inhabited

/-- An attribute of a start tag. -/
structure Attribute where
  name : QName
  value : String
  deriving Repr, Inhabited

/-- A token of an XML document. -/
inductive XmlToken where
  | start (name : QName) (attrs : List Attribute)
  | close (name : QName)
  | text (data : String)
  | comment
  | instruction (target : String)
  | directive
  deriving Repr, Inhabited

/-- The reading position: the offset and the current line. -/
structure Cursor where
  pos : Nat
  line : Nat
  deriving Inhabited

/-- Reading XML, failing with a finished message. -/
abbrev XmlM := ReaderT ByteArray (StateT Cursor (Except String))

namespace Xml

/-- Fails with a syntax error on the current line. -/
def syntaxError {α : Type} (msg : String) : XmlM α := do
  let c ← get
  throw ("XML syntax error on line " ++ toString c.line ++ ": " ++ msg)

/-- The next byte, or `none` at the end of the data. -/
def getc : XmlM (Option Nat) := do
  let data ← read
  let c ← get
  match data[c.pos]? with
  | none => pure none
  | some b =>
    set { pos := c.pos + 1, line := if b == 10 then c.line + 1 else c.line : Cursor }
    pure (some b.toNat)

/-- The next byte; the end of the data is an unexpected end. -/
def mustgetc : XmlM Nat := do
  match ← getc with
  | some b => pure b
  | none => syntaxError "unexpected EOF"

/-- Puts back the byte just read. -/
def ungetc (b : Nat) : XmlM Unit :=
  modify fun c => { pos := c.pos - 1, line := if b == 10 then c.line - 1 else c.line }

/-- Skips blanks: spaces, tabs, carriage returns and line feeds. -/
def space : Nat → XmlM Unit
  | 0 => pure ()
  | fuel + 1 => do
    match ← getc with
    | none => pure ()
    | some b =>
      if b == 32 || b == 13 || b == 10 || b == 9 then space fuel else ungetc b

/-- Whether an ASCII byte may stand in a name. -/
def isNameByte (c : Nat) : Bool :=
  (65 ≤ c && c ≤ 90) || (97 ≤ c && c ≤ 122) || (48 ≤ c && c ≤ 57) ||
    c == 95 || c == 58 || c == 46 || c == 45

/-- Whether a name is well formed: it starts with a letter, `_`, `:` or a non-ASCII character,
and its bytes spell UTF-8. -/
def isName (bs : List UInt8) : Bool :=
  match bs with
  | [] => false
  | b :: _ =>
    Text.Utf8.isValid bs &&
      ((65 ≤ b && b ≤ 90) || (97 ≤ b && b ≤ 122) || b == 95 || b == 58 || b ≥ 128)

/-- Reads the bytes of a name; `none` when the next byte cannot start one. -/
def readName (fuel : Nat) : XmlM (Option (List UInt8)) := do
  let b ← mustgetc
  if b < 128 && !isNameByte b then
    ungetc b
    pure none
  else
    let rec more : Nat → List UInt8 → XmlM (List UInt8)
      | 0, acc => pure acc.reverse
      | k + 1, acc => do
        let b ← mustgetc
        if b < 128 && !isNameByte b then
          ungetc b
          pure acc.reverse
        else more k (b.toUInt8 :: acc)
    pure (some (← more fuel [b.toUInt8]))

/-- Reads a name and checks it. -/
def name (fuel : Nat) : XmlM (Option String) := do
  match ← readName fuel with
  | none => pure none
  | some bs =>
    if isName bs then pure (some (Text.Utf8.toText bs))
    else syntaxError ("invalid XML name: " ++ Text.Utf8.toText bs)

/-- Reads a name with an optional prefix; `none` when there is none, or when it has more than
one colon. -/
def qname (fuel : Nat) : XmlM (Option QName) := do
  match ← name fuel with
  | none => pure none
  | some s =>
    match s.splitOn ":" with
    | [l] => pure (some ⟨"", l⟩)
    | [p, l] => if p.isEmpty || l.isEmpty then pure (some ⟨"", s⟩) else pure (some ⟨p, l⟩)
    | _ => pure none

/-- The predefined entities. -/
def entity (s : String) : Option Char :=
  match s with
  | "lt" => some '<'
  | "gt" => some '>'
  | "amp" => some '&'
  | "apos" => some '\''
  | "quot" => some '"'
  | _ => none

/-- Whether a character may appear in a document. -/
def isDocumentChar (c : Char) : Bool :=
  let n := c.toNat
  n == 9 || n == 10 || n == 13 || (0x20 ≤ n && n ≤ 0xD7FF) || (0xE000 ≤ n && n ≤ 0xFFFD) ||
    (0x10000 ≤ n && n ≤ 0x10FFFF)

/-- The digits of a character reference in a base, up to the first other byte. -/
def refDigits (base : Nat) : Nat → List UInt8 → XmlM (List UInt8 × Nat)
  | 0, acc => do pure (acc.reverse, ← mustgetc)
  | fuel + 1, acc => do
    let b ← mustgetc
    let digit := (48 ≤ b && b ≤ 57) || (base == 16 && ((97 ≤ b && b ≤ 102) || (65 ≤ b && b ≤ 70)))
    if digit then refDigits base fuel (b.toUInt8 :: acc) else pure (acc.reverse, b)

/-- The value of hex or decimal digits. -/
def digitsValue (base : Nat) (ds : List UInt8) : Nat :=
  ds.foldl (fun acc d =>
    let d := d.toNat
    let v := if d ≤ 57 then d - 48 else if d ≥ 97 then d - 87 else d - 55
    acc * base + v) 0

/-- Reads a reference after `&`: gives the bytes to put in its place, or fails. -/
def reference (fuel : Nat) : XmlM (List UInt8) := do
  let b ← mustgetc
  if b == 35 then
    let b ← mustgetc
    let (base, written, b) ← if b == 120 then do pure (16, "&#x", ← mustgetc) else pure (10, "&#", b)
    ungetc b
    let (ds, b) ← refDigits base fuel []
    let shown := written ++ Text.Utf8.toText ds
    if b != 59 then
      ungetc b
      syntaxError ("invalid character entity " ++ shown ++ " (no semicolon)")
    else
      let n := digitsValue base ds
      if ds.isEmpty || n > 0x10FFFF || ds.length > 20 then
        syntaxError ("invalid character entity " ++ shown ++ ";")
      else
        -- surrogates become the replacement character, as a rune conversion does
        let c := if 0xD800 ≤ n && n < 0xE000 then Text.Utf8.replacement else Char.ofNat n
        pure (Text.Utf8.encode (String.singleton c))
  else
    ungetc b
    let nm ← readName fuel
    let nm := nm.getD []
    let b ← mustgetc
    let shown := "&" ++ Text.Utf8.toText nm
    if b != 59 then
      ungetc b
      syntaxError ("invalid character entity " ++ shown ++ " (no semicolon)")
    else
      match (if isName nm then entity (Text.Utf8.toText nm) else none) with
      | some c => pure (Text.Utf8.encode (String.singleton c))
      | none => syntaxError ("invalid character entity " ++ shown ++ ";")

/-- What ends a run of text: a quote, `]]>` of character data, or `<`. -/
inductive TextEnd where
  | quote (q : Nat)
  | cdata
  | markup
  deriving BEq, Inhabited

/-- Checks the characters of a run of text. -/
def checkText (bs : List UInt8) : XmlM String := do
  if !Text.Utf8.isValid bs then syntaxError "invalid UTF-8"
  let s := Text.Utf8.toText bs
  match s.toList.find? (!isDocumentChar ·) with
  | some c =>
    let hex := String.ofList (Nat.toDigits 16 c.toNat |>.map Char.toUpper)
    let hex := String.ofList (List.replicate (4 - min 4 hex.length) '0') ++ hex
    syntaxError ("illegal character code U+" ++ hex)
  | none => pure s

/-- Reads a run of text up to its end; gives the text. -/
def text (stop : TextEnd) (fuel : Nat) : XmlM String := do
  let rec go : Nat → List UInt8 → Nat → Nat → XmlM (List UInt8)
    | 0, acc, _, _ => pure acc
    | k + 1, acc, b0, b1 => do
      match ← getc with
      | none =>
        if stop == .cdata then syntaxError "unexpected EOF in CDATA section"
        else pure acc
      | some b =>
        let quoted := match stop with
          | .quote _ => true
          | _ => false
        if !quoted && b0 == 93 && b1 == 93 && b == 62 then
          if stop == .cdata then pure (acc.drop 2)
          else syntaxError "unescaped ]]> not in CDATA section"
        else if b == 60 && stop != .cdata then
          if quoted then syntaxError "unescaped < inside quoted string"
          else
            ungetc b
            pure acc
        else if stop == .quote b then pure acc
        else if b == 38 && stop != .cdata then
          let bs ← reference fuel
          go k (bs.reverse ++ acc) 0 0
        else if b == 13 then go k (10 :: acc) b1 b
        else if b1 == 13 && b == 10 then go k acc b1 b
        else go k (b.toUInt8 :: acc) b1 b
  let bs ← go fuel [] 0 0
  checkText bs.reverse

/-- Reads an attribute value after `=` and blanks. -/
def attrValue (fuel : Nat) : XmlM String := do
  let b ← mustgetc
  if b == 34 || b == 39 then text (.quote b) fuel
  else syntaxError "unquoted or missing attribute value in element"

/-- Reads bytes up to and including `?>`. -/
def skipInstruction : Nat → Nat → XmlM Unit
  | 0, _ => pure ()
  | k + 1, b0 => do
    let b ← mustgetc
    if b0 == 63 && b == 62 then pure () else skipInstruction k b

/-- Reads a comment after `<!--`. -/
def skipComment : Nat → Nat → Nat → XmlM Unit
  | 0, _, _ => pure ()
  | k + 1, b0, b1 => do
    let b ← mustgetc
    if b0 == 45 && b1 == 45 then
      if b != 62 then syntaxError "invalid sequence \"--\" not allowed in comments"
      else pure ()
    else skipComment k b1 b

/-- Reads a directive after `<!` up to its closing `>`, skipping quoted parts, nested angle
brackets and comments. -/
def skipDirective : Nat → Nat → Nat → XmlM Unit
  | 0, _, _ => pure ()
  | k + 1, quote, depth => do
    let b ← mustgetc
    if quote == 0 && b == 62 && depth == 0 then pure ()
    else if quote != 0 then skipDirective k (if b == quote then 0 else quote) depth
    else if b == 39 || b == 34 then skipDirective k b depth
    else if b == 62 then skipDirective k 0 (depth - 1)
    else if b == 60 then
      -- a comment inside the directive, or a nested bracket
      let b1 ← mustgetc
      if b1 != 33 then
        ungetc b1
        skipDirective k 0 (depth + 1)
      else
        let b2 ← mustgetc
        if b2 != 45 then
          ungetc b2
          skipDirective k 0 (depth + 1)
        else
          let b3 ← mustgetc
          if b3 != 45 then
            ungetc b3
            skipDirective k 0 (depth + 1)
          else
            let rec comment : Nat → Nat → Nat → XmlM Unit
              | 0, _, _ => pure ()
              | j + 1, c0, c1 => do
                let c ← mustgetc
                if c0 == 45 && c1 == 45 && c == 62 then pure () else comment j c1 c
            comment k 0 0
            skipDirective k 0 depth
    else skipDirective k 0 depth

/-- The value of a pseudo-attribute of the XML declaration. -/
def declParam (param content : String) : Option String :=
  match content.splitOn (param ++ "=") with
  | _ :: rest :: _ =>
    match rest.toList with
    | q :: more => if q == '"' || q == '\'' then
        let v := more.takeWhile (· != q)
        if v.length < more.length then some (String.ofList v) else none
      else none
    | [] => none
  | _ => none

/-- Reads the attributes of a start tag up to `>` or `/>`; tells whether the tag is empty. -/
def attributes (fuel : Nat) : Nat → List Attribute → XmlM (List Attribute × Bool)
  | 0, acc => pure (acc.reverse, false)
  | k + 1, acc => do
    space fuel
    let b ← mustgetc
    if b == 47 then
      let b ← mustgetc
      if b != 62 then syntaxError "expected /> in element" else pure (acc.reverse, true)
    else if b == 62 then pure (acc.reverse, false)
    else
      ungetc b
      match ← qname fuel with
      | none => syntaxError "expected attribute name in element"
      | some n =>
        space fuel
        let b ← mustgetc
        if b != 61 then syntaxError "attribute name without = in element"
        else
          space fuel
          let v ← attrValue fuel
          attributes fuel k (⟨n, v⟩ :: acc)

/-- Reads one raw token, and whether it is an empty-element tag; `none` at the end of the
data. -/
def rawToken (fuel : Nat) : XmlM (Option (XmlToken × Bool)) := do
  match ← getc with
  | none => pure none
  | some b =>
    if b != 60 then
      ungetc b
      pure (some (.text (← text .markup fuel), false))
    else
      let b ← mustgetc
      if b == 47 then
        match ← qname fuel with
        | none => syntaxError "expected element name after </"
        | some n =>
          space fuel
          let b ← mustgetc
          if b != 62 then syntaxError ("invalid characters between </" ++ n.localName ++ " and >")
          else pure (some (.close n, false))
      else if b == 63 then
        match ← name fuel with
        | none => syntaxError "expected target name after <?"
        | some target =>
          space fuel
          let start := (← get).pos
          skipInstruction fuel 0
          let stop := (← get).pos
          let data ← read
          let content := Text.Utf8.toText (data.extract start (stop - 2)).toList
          if target == "xml" then
            match declParam "version" content with
            | some v =>
              if v != "1.0" then
                throw ("xml: unsupported version " ++ "\"" ++ v ++ "\"" ++
                  "; only version 1.0 is supported")
            | none => pure ()
          pure (some (.instruction target, false))
      else if b == 33 then
        let b ← mustgetc
        if b == 45 then
          let b ← mustgetc
          if b != 45 then syntaxError "invalid sequence <!- not part of <!--"
          else
            skipComment fuel 0 0
            pure (some (.comment, false))
        else if b == 91 then
          let want := "CDATA[".toUTF8.toList
          for w in want do
            let c ← mustgetc
            if c != w.toNat then syntaxError "invalid <![ sequence"
          pure (some (.text (← text .cdata fuel), false))
        else
          ungetc b
          skipDirective fuel 0 0
          pure (some (.directive, false))
      else
        ungetc b
        match ← qname fuel with
        | none => syntaxError "expected element name after <"
        | some n =>
          let (attrs, empty) ← attributes fuel fuel []
          pure (some (.start n attrs, empty))

/-- The message of a syntax error on the current line. -/
def syntaxMessage (msg : String) : XmlM String := do
  let c ← get
  pure ("XML syntax error on line " ++ toString c.line ++ ": " ++ msg)

/-- Reads tokens up to the end of the data or the first failure, checking that end tags match
start tags; gives the tokens read and the failure, if any. An empty-element tag gives its start
and its end. -/
def tokens (fuel : Nat) : Nat → List QName → List XmlToken → XmlM (List XmlToken × Option String)
  | 0, _, acc => pure (acc.reverse, none)
  | k + 1, stack, acc => do
    let next ← try (Sum.inl <$> rawToken fuel) catch e => pure (Sum.inr e)
    match next with
    | .inr e => pure (acc.reverse, some e)
    | .inl none =>
      if stack.isEmpty then pure (acc.reverse, none)
      else pure (acc.reverse, some (← syntaxMessage "unexpected EOF"))
    | .inl (some (t, empty)) =>
      match t with
      | .start n attrs =>
        if empty then tokens fuel k stack (.close n :: .start n attrs :: acc)
        else tokens fuel k (n :: stack) (.start n attrs :: acc)
      | .close n =>
        match stack with
        | [] => pure (acc.reverse, some (← syntaxMessage ("unexpected end element </" ++ n.localName ++ ">")))
        | o :: rest =>
          if o.localName != n.localName then
            pure (acc.reverse,
              some (← syntaxMessage ("element <" ++ o.localName ++ "> closed by </" ++ n.localName ++ ">")))
          else if o.qualifier != n.qualifier then
            pure (acc.reverse, some (← syntaxMessage ("element <" ++ o.localName ++ "> in space " ++
              o.qualifier ++ " closed by </" ++ n.localName ++ "> in space " ++
              (if n.qualifier.isEmpty then "\"\"" else n.qualifier))))
          else tokens fuel k rest (.close n :: acc)
      | t => tokens fuel k stack (t :: acc)

end Xml

/-- The tokens of an XML document up to its end or its first error, and that error. -/
def xmlTokens (data : ByteArray) : List XmlToken × Option String :=
  let fuel := data.size + 2
  match ((Xml.tokens fuel (2 * fuel) [] []).run data).run' { pos := 0, line := 1 } with
  | .ok r => r
  | .error e => ([], some e)

end Theming.Markup
