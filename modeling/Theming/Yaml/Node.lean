/-!
# YAML documents

A YAML document is a tree of nodes: scalars (a text with the style it was written in or should be
written in), sequences and mappings (kept in order). Every node remembers where it started, by
1-based line and column, and the comment lines written just above it.

A node read from text also has a tag: the explicit one, or for plain scalars the type the text
resolves to (`!!null`, `!!bool`, `!!int`, `!!float` or `!!str`), for quoted and block scalars
`!!str`, and `!!seq` or `!!map` for collections.
-/

set_option autoImplicit false

namespace Theming.Yaml

/-- How a scalar is written. -/
inductive Style where
  | plain
  | single
  | double
  | literal
  | folded
  deriving Repr, BEq, DecidableEq, Inhabited

/-- Where a node starts, its tag, and the comment lines above it (without `#`). -/
structure Mark where
  line : Nat := 0
  column : Nat := 0
  tag : String := ""
  comment : List String := []
  deriving Repr, Inhabited

/-- A node of a document. -/
inductive Node where
  | scalar (mark : Mark) (value : String) (style : Style)
  | sequence (mark : Mark) (items : List Node) (flow : Bool)
  | mapping (mark : Mark) (entries : List (Node × Node)) (flow : Bool)
  deriving Repr, Inhabited

namespace Node

/-- The mark of a node. -/
def mark : Node → Mark
  | scalar m _ _ => m
  | sequence m _ _ => m
  | mapping m _ _ => m

/-- The line a node starts on. -/
def line (n : Node) : Nat := n.mark.line

/-- The tag of a node. -/
def tag (n : Node) : String := n.mark.tag

/-- The text of a scalar; collections have none. -/
def text? : Node → Option String
  | scalar _ v _ => some v
  | _ => none

/-- The text of a scalar, empty for collections. -/
def value (n : Node) : String := n.text?.getD ""

/-- A plain scalar made in a program. -/
def str (value : String) : Node := scalar {} value .plain

/-- A block mapping made in a program. -/
def map (entries : List (String × Node)) : Node :=
  mapping {} (entries.map fun (k, v) => (str k, v)) false

/-- A block sequence made in a program. -/
def seq (items : List Node) : Node := sequence {} items false

/-- The same node with comment lines above it. -/
def withComment (n : Node) (lines : List String) : Node :=
  match n with
  | scalar m v s => scalar { m with comment := lines } v s
  | sequence m xs f => sequence { m with comment := lines } xs f
  | mapping m es f => mapping { m with comment := lines } es f

/-- The value of the last entry of a mapping whose key has the given text. -/
def get? (n : Node) (key : String) : Option Node :=
  match n with
  | mapping _ es _ => (es.reverse.find? fun (k, _) => k.text? == some key).map (·.2)
  | _ => none

/-- The items of a sequence. -/
def items? : Node → Option (List Node)
  | sequence _ xs _ => some xs
  | _ => none

/-- The entries of a mapping. -/
def entries? : Node → Option (List (Node × Node))
  | mapping _ es _ => some es
  | _ => none

/-- Whether a scalar was written in quotes. -/
def isQuoted : Node → Bool
  | scalar _ _ s => s == .single || s == .double
  | _ => false

end Node

end Theming.Yaml
