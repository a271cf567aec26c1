/-!
# Log entries

The program tells what it does through log entries: a level, the name of the logger that wrote
the entry, and a message. Logger names are dotted paths below the program's name: the parser of
a theme writes as `theme.parser`, and the program itself as the empty path. Details attached to
an entry are not kept.

Levels are ordered from debug through info and warn to error. A sink takes the entries from some
lowest level up, and possibly below some level.
-/

set_option autoImplicit false

namespace Theming.Log

/-- How important an entry is. -/
inductive Level where
  | debug
  | info
  | warn
  | error
  deriving Repr, BEq, DecidableEq, Inhabited

namespace Level

/-- The position of a level in the order. -/
def rank : Level → Nat
  | debug => 0
  | info => 1
  | warn => 2
  | error => 3

/-- The name of a level as logs write it. -/
def name : Level → String
  | debug => "DEBUG"
  | info => "INFO"
  | warn => "WARN"
  | error => "ERROR"

/-- Whether a level is at least another. -/
def atLeast (l m : Level) : Bool := m.rank ≤ l.rank

end Level

/-- One entry of a log. -/
structure Entry where
  level : Level
  /-- The dotted path of the logger below the program's name; empty for the program itself. -/
  logger : String
  message : String
  /-- Whether the entry was written before the logger got the program's name. -/
  unnamed : Bool := false
  deriving Repr, Inhabited

namespace Entry

/-- A debug entry. -/
def debug (logger message : String) : Entry :=
  { level := .debug, logger, message }

/-- An info entry. -/
def info (logger message : String) : Entry :=
  { level := .info, logger, message }

/-- A warning entry. -/
def warn (logger message : String) : Entry :=
  { level := .warn, logger, message }

/-- An error entry. -/
def error (logger message : String) : Entry :=
  { level := .error, logger, message }

/-- The full name of the entry's logger below a root name. -/
def fullName (root : String) (e : Entry) : String :=
  if e.unnamed then "" else if e.logger.isEmpty then root else root ++ "." ++ e.logger

/-- The line a log file holds for an entry: level, full logger name and message, separated by
tabs. -/
def line (root : String) (e : Entry) : String :=
  e.level.name ++ "\t" ++ e.fullName root ++ "\t" ++ e.message

end Entry

end Theming.Log
