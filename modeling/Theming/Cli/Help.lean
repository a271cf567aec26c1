import Theming.Cli.Command

/-!
# Help texts

Help is written in sections (`NAME:`, `USAGE:`, `VERSION:`, `COMMANDS:`, `OPTIONS:`,
`GLOBAL OPTIONS:`), each line indented by three spaces. The rows of a list are two cells; the
first cells of a list are padded to the widest of them plus two spaces, so the second cells
line up.

A flag is shown by its names, the long name first, each followed by the name of its value when
it takes one: the word between backquotes in its help text (`value` when there is none). A list
flag shows that it may be repeated: `--only NAMES [ --only NAMES ]`.

A command's help comes in two forms. Asked for from the command line of the command itself
(`sct check --help`), its usage line says `[options]` and the global flags are listed too; asked
for as a topic of the root (`sct --help check`), neither is shown. A command may add text after
its help.
-/

set_option autoImplicit false

namespace Theming.Cli

/-- The name of a flag's value and its help text without the backquotes. -/
def splitUsage (usage : String) : String × String :=
  match usage.splitOn "\x60" with
  | before :: name :: after :: rest => (name, before ++ name ++ "\x60".intercalate (after :: rest))
  | _ => ("", usage)

namespace Flag

/-- A name with its dashes. -/
def dashed (n : String) : String := (if n.length == 1 then "-" else "--") ++ n

/-- The first cell of a flag's help row. -/
def cell (f : Flag) : String :=
  let (value, _) := splitUsage f.usage
  let value := if value.isEmpty then "value" else value
  match f.kind with
  | .switch => ", ".intercalate (f.names.map dashed)
  | .text => ", ".intercalate (f.names.map fun n => dashed n ++ " " ++ value)
  | .texts =>
    ", ".intercalate (f.names.map fun n => dashed n ++ " " ++ value ++ " [ " ++ dashed n ++ " " ++ value ++ " ]")

/-- A flag's help row. -/
def row (f : Flag) : String × String := (f.cell, (splitUsage f.usage).2)

end Flag

/-- Rows of two cells, the first cells padded to a common width. -/
def table (rows : List (String × String)) : String :=
  let width := rows.foldl (fun w (a, _) => max w (a.length + 3)) 0 + 2
  String.join (rows.map fun (a, b) =>
    "\n   " ++ a ++ String.ofList (List.replicate (width - 3 - a.length) ' ') ++ b)

/-- A section with a list. -/
def listSection (title : String) (rows : List (String × String)) : String :=
  if rows.isEmpty then "" else "\n\n" ++ title ++ ":" ++ table rows

/-- The first line of a help text: the full name and what it does. -/
def nameLine (full usage : String) : String :=
  "NAME:\n   " ++ full ++ (if usage.isEmpty then "" else " - " ++ usage)

namespace App

/-- The root's help. -/
def help (a : App) : String :=
  nameLine a.name a.usage ++
  "\n\nUSAGE:\n   " ++ a.name ++ " [global options]" ++
    (if a.allCommands.isEmpty then "" else " [command [command options]]") ++
  (if a.version.isEmpty then "" else "\n\nVERSION:\n   " ++ a.version) ++
  listSection "COMMANDS" (a.allCommands.map fun c => (", ".intercalate (c.name :: c.aliases), c.usage)) ++
  listSection "GLOBAL OPTIONS" (a.rootFlags.map Flag.row) ++ "\n"

/-- A command's help; `invoked` when asked for from the command's own command line. -/
def commandHelp (a : App) (c : Command) (invoked : Bool) : String :=
  let full := a.name ++ " " ++ c.name
  nameLine full c.usage ++
  "\n\nUSAGE:\n   " ++ full ++ (if invoked then " [options]" else "") ++
    (if c.argsUsage.isEmpty then "" else " " ++ c.argsUsage) ++
  listSection "OPTIONS" ((c.flags ++ [Flag.help]).map Flag.row) ++
  (if invoked then listSection "GLOBAL OPTIONS" ((a.flags.filter (!·.local_)).map Flag.row) else "") ++
  "\n" ++ c.helpSuffix

/-- The version line. -/
def versionText (a : App) : String := a.name ++ " version " ++ a.version ++ "\n"

end App

end Theming.Cli
