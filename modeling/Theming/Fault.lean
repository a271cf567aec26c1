import Theming.Sheet.SyntaxError
import Theming.Sheet.RawValue
import Theming.Value.Type

/-!
# Failures

Every operation that can fail answers with a `Fault`. A fault may wrap the fault that caused it,
so a failure seen by the caller can be asked what lies underneath: whether a resource was not
found somewhere down the chain, or whether theme text was malformed.

The message of a fault is its own text followed by the message of its cause, joined by `: `.
Several faults reported together are joined by `; `.
-/

set_option autoImplicit false

namespace Theming

open Theming.Sheet Theming.Value Theming.Text

/-- A failure, with the failures it wraps. -/
inductive Fault where
  /-- A resource name that no provider knows. -/
  | notFound (name : String)
  /-- A failure known only by its message. -/
  | plain (message : String)
  /-- A failure described further: the text comes before the cause's message. -/
  | context (text : String) (cause : Fault)
  /-- Theme text that does not follow the grammar. -/
  | parse (e : SyntaxError)
  /-- A written value that does not fit its destination, at a property path, maybe because of
  another failure. -/
  | coercion (expected : ValueType) (actual : ValueKind) (path : String) (cause : Option Fault)
  /-- A name or number that is not a constant of an enumeration (named, or unnamed when the name
  is empty), at a property path. -/
  | unknownEnum (enumeration : String) (name : String) (path : String)
  /-- A property path that leads nowhere on the styled object: the path, the segment where it
  stopped, the object's type there, and why. -/
  | unresolved (path : String) (segment : String) (target : String) (reason : String)
  /-- A theme that could not be loaded from a path. -/
  | load (path : String) (cause : Fault)
  /-- A widget with an empty frame cannot be drawn. -/
  | emptyFrame
  /-- Several failures reported together. -/
  | joined (parts : List Fault)
  deriving Inhabited

namespace Fault

/-- The message of a fault. -/
def message : Fault → String
  | notFound name => "resource not found: " ++ Quoted.quote name
  | plain m => m
  | context text cause => text ++ ": " ++ cause.message
  | parse e => e.message
  | coercion expected actual path cause =>
    (if path.isEmpty then "" else path ++ ": ") ++ "cannot use " ++ actual.name ++ " value as " ++
      expected.render ++
      (match cause with
        | some c => ": " ++ c.message
        | none => "")
  | unknownEnum enumeration name path =>
    (if path.isEmpty then "" else path ++ ": ") ++
      (if enumeration.isEmpty then "unknown enumeration value " ++ Quoted.quote name
       else Quoted.quote name ++ " is not a " ++ enumeration ++ " value")
  | unresolved path segment target reason =>
    path ++ ": " ++ Quoted.quote segment ++ " on " ++ target ++ ": " ++ reason
  | load path cause => "unable to load theme " ++ Quoted.quote path ++ ": " ++ cause.message
  | emptyFrame => "widget frame is empty"
  | joined parts => "; ".intercalate (parts.attach.map fun ⟨p, _⟩ => p.message)

/-- The faults of the chain, depth first: the fault itself, then what it wraps. -/
def chain : Fault → List Fault
  | f@(context _ cause) => f :: cause.chain
  | f@(coercion _ _ _ (some cause)) => f :: cause.chain
  | f@(load _ cause) => f :: cause.chain
  | f@(joined parts) => f :: (parts.attach.map fun ⟨p, _⟩ => p.chain).flatten
  | f => [f]

/-- Whether a resource was not found somewhere in the chain. -/
def isNotFound (f : Fault) : Bool :=
  f.chain.any fun
    | notFound _ => true
    | _ => false

/-- The first syntax error in the chain. -/
def syntaxError? (f : Fault) : Option SyntaxError :=
  f.chain.findSome? fun
    | parse e => some e
    | _ => none

/-- Whether theme text was malformed somewhere in the chain. -/
def isMalformedText (f : Fault) : Bool := f.syntaxError?.isSome

/-- The first coercion failure in the chain: expected type, actual kind, path and cause. -/
def coercion? (f : Fault) : Option (ValueType × ValueKind × String × Option Fault) :=
  f.chain.findSome? fun
    | coercion t k p c => some (t, k, p, c)
    | _ => none

/-- The first unknown enumeration value in the chain: enumeration, name and path. -/
def unknownEnum? (f : Fault) : Option (String × String × String) :=
  f.chain.findSome? fun
    | unknownEnum e n p => some (e, n, p)
    | _ => none

/-- The first unresolved path in the chain: path, segment, object type and reason. -/
def unresolved? (f : Fault) : Option (String × String × String × String) :=
  f.chain.findSome? fun
    | unresolved p s t r => some (p, s, t, r)
    | _ => none

/-- Whether the chain holds a theme that could not be loaded. -/
def isLoad (f : Fault) : Bool :=
  f.chain.any fun
    | load _ _ => true
    | _ => false

/-- Whether the chain holds an empty frame. -/
def isEmptyFrame (f : Fault) : Bool :=
  f.chain.any fun
    | emptyFrame => true
    | _ => false

/-- The name of the most telling class of failure in the chain, in this order: a theme not
loaded, malformed text, a coercion, an enumeration value, an unresolved path, a resource not
found, an empty frame; anything else is an `Error`. -/
def className (f : Fault) : String :=
  if f.isLoad then "LoadError"
  else if f.isMalformedText then "SyntaxError"
  else if f.coercion?.isSome then "CoercionError"
  else if f.unknownEnum?.isSome then "UnknownEnumValueError"
  else if f.unresolved?.isSome then "UnresolvedPathError"
  else if f.isNotFound then "NotFound"
  else if f.isEmptyFrame then "EmptyFrame"
  else "Error"

/-- Records the property path in the first coercion failure of the chain or, when there is
none, in the first unknown enumeration value; other faults stay as they are. -/
def withPath (f : Fault) (path : String) : Fault :=
  let rec setCoercion : Fault → Option Fault
    | coercion t k _ c => some (coercion t k path c)
    | context text cause => (setCoercion cause).map (context text)
    | load p cause => (setCoercion cause).map (load p)
    | _ => none
  let rec setEnum : Fault → Option Fault
    | unknownEnum e n _ => some (unknownEnum e n path)
    | context text cause => (setEnum cause).map (context text)
    | load p cause => (setEnum cause).map (load p)
    | _ => none
  match setCoercion f with
  | some g => g
  | none => (setEnum f).getD f

end Fault

end Theming
