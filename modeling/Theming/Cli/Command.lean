/-!
# Command lines

A program is a root command with global flags and subcommands, each with flags of its own.
Flags are texts (`--name value`, `--name=value`), switches (`--name`, `--name=false`) or lists of
texts (given again to add a value; commas separate values too). A flag has a name and aliases; a
name of one letter is written with one dash and longer names with two, but either form is
accepted. Every command has a `--help`/`-h` switch and the root may have `--version`/`-v`;
these two belong to their command only, while the other root flags are accepted everywhere.

Reading the arguments of a command goes from left to right:

* an empty argument ends the reading, and what follows is dropped;
* `--` ends the flags: it and everything after it are arguments;
* an argument that does not start with a dash is an argument; when it names a subcommand,
  it and everything after it are left for the subcommand;
* a lone `-` is an argument and ends the reading; a dash followed by anything but a letter or a
  second dash makes it and everything after it arguments;
* otherwise it is a flag, which must be known (`flag provided but not defined: -name`); a text
  flag without `=` takes the next argument, which must be there (`flag needs an argument: -x`).
-/

set_option autoImplicit false

namespace Theming.Cli

/-- What a flag holds. -/
inductive FlagKind where
  | text
  | switch
  | texts
  deriving Repr, BEq, DecidableEq, Inhabited

/-- A flag of a command. -/
structure Flag where
  name : String
  aliases : List String := []
  /-- The help text; a word between backquotes names the flag's value. -/
  usage : String
  kind : FlagKind := .text
  /-- Whether the flag belongs to its command only. -/
  local_ : Bool := false
  deriving Inhabited

namespace Flag

/-- All names of a flag. -/
def names (f : Flag) : List String := f.name :: f.aliases

/-- The help switch every command has. -/
def help : Flag := { name := "help", aliases := ["h"], usage := "show help", kind := .switch, local_ := true }

/-- The version switch of a root command with a version. -/
def version : Flag :=
  { name := "version", aliases := ["v"], usage := "print the version", kind := .switch, local_ := true }

end Flag

/-- A subcommand. -/
structure Command where
  name : String
  aliases : List String := []
  usage : String := ""
  argsUsage : String := ""
  flags : List Flag := []
  /-- Text shown after the command's help. -/
  helpSuffix : String := ""
  deriving Inhabited

/-- A program: its root command's name, help text, version, global flags and subcommands. -/
structure App where
  name : String
  usage : String := ""
  version : String := ""
  flags : List Flag := []
  commands : List Command := []
  /-- Whether a `help` subcommand is offered. -/
  offersHelp : Bool := true
  deriving Inhabited

namespace Command

/-- Whether a command answers to a name. -/
def hasName (c : Command) (n : String) : Bool := c.name == n || c.aliases.contains n

end Command

/-- The `help` subcommand. -/
def helpCommand : Command :=
  { name := "help", aliases := ["h"], usage := "Shows a list of commands or help for one command",
    argsUsage := "[command]" }

namespace App

/-- The flags of the root command, the help and version switches last. -/
def rootFlags (a : App) : List Flag :=
  a.flags ++ [Flag.help] ++ (if a.version.isEmpty then [] else [Flag.version])

/-- The subcommands, the `help` command last when offered. -/
def allCommands (a : App) : List Command :=
  a.commands ++ (if a.offersHelp then [Cli.helpCommand] else [])

/-- The subcommand of a name. -/
def command? (a : App) (n : String) : Option Command := a.allCommands.find? (·.hasName n)

/-- The flags a subcommand accepts: its own, its help switch, and the global ones. -/
def commandFlags (a : App) (c : Command) : List Flag :=
  c.flags ++ [Flag.help] ++ a.flags.filter (!·.local_)

end App

/-- The values given to flags, by flag name, in the order given. -/
abbrev FlagValues := List (String × String)

namespace FlagValues

/-- Whether a flag was given. -/
def isSet (v : FlagValues) (name : String) : Bool := v.any (·.1 == name)

/-- The last text given to a flag, or the empty text. -/
def text (v : FlagValues) (name : String) : String :=
  ((v.filter (·.1 == name)).getLast?.map (·.2)).getD ""

/-- Whether a switch was given and left on. -/
def switch (v : FlagValues) (name : String) : Bool := v.text name == "true"

/-- All texts given to a list flag. -/
def texts (v : FlagValues) (name : String) : List String :=
  (v.filter (·.1 == name)).flatMap fun (_, s) => s.splitOn ","

end FlagValues

/-- The words read as a true or false switch. -/
def switchValue? (s : String) : Option Bool :=
  if ["1", "t", "T", "TRUE", "true", "True"].contains s then some true
  else if ["0", "f", "F", "FALSE", "false", "False"].contains s then some false
  else none

/-- What reading the arguments of one command gives: the flags given, the arguments, and the
subcommand named with the arguments left for it. -/
structure Reading where
  values : FlagValues := []
  args : List String := []
  deriving Inhabited

/-- Drops blanks at both ends of an argument. -/
def trimArg (s : String) : String :=
  let blank (c : Char) : Bool := c == ' ' || c == '\t' || c == '\n' || c == '\r' ||
    c.toNat == 0x0B || c.toNat == 0x0C || c.toNat == 0x85 || c.toNat == 0xA0
  String.ofList ((s.toList.dropWhile blank).reverse.dropWhile blank).reverse

/-- Reads the arguments of a command with the flags it accepts; `isCommand` tells the names of
its subcommands. -/
def readArgs (flags : List Flag) (isCommand : String → Bool) :
    List String → Reading → Except String Reading
  | [], r => .ok r
  | arg :: rest, r =>
    let first := trimArg arg
    let done (args : List String) : Except String Reading := .ok { r with args := r.args ++ args }
    match first.toList with
    | [] => .ok r
    | ['-'] => done [first]
    | '-' :: '-' :: [] => done (arg :: rest)
    | '-' :: second :: more =>
      if second != '-' && !second.isAlpha then done (first :: rest)
      else
        let body := String.ofList (if second == '-' then more else second :: more)
        let (name, value) := match body.splitOn "=" with
          | n :: v :: vs => (n, some ("=".intercalate (v :: vs)))
          | _ => (body, none)
        match flags.find? (·.names.contains name) with
        | none => .error ("flag provided but not defined: -" ++ name)
        | some f =>
          if f.kind == .switch then
            let given := (value.filter (!·.isEmpty)).getD "true"
            match switchValue? given with
            | some b =>
              readArgs flags isCommand rest
                { r with values := r.values ++ [(f.name, if b then "true" else "false")] }
            | none =>
              .error ("invalid value " ++ "\"" ++ given ++ "\" for flag -" ++ name ++
                ": parse error")
          else
            match value.filter (!·.isEmpty) with
            | some v => readArgs flags isCommand rest { r with values := r.values ++ [(f.name, v)] }
            | none =>
              match rest with
              | v :: rest' =>
                readArgs flags isCommand rest' { r with values := r.values ++ [(f.name, v)] }
              | [] => .error ("flag needs an argument: " ++ first)
    | _ =>
      if isCommand first then done (first :: rest)
      else readArgs flags isCommand rest { r with args := r.args ++ [first] }

/-- Where reading a command line leads. -/
inductive Route where
  /-- A flag problem, in the root (none) or in a subcommand. -/
  | usageError (command : Option Command) (message : String) (values : FlagValues)
  /-- The root's help switch: help on the program or on a topic. -/
  | rootHelp (topic : Option String) (values : FlagValues)
  /-- The root's version switch. -/
  | version (values : FlagValues)
  /-- A subcommand's help switch, with the topic asked about if any. -/
  | commandHelp (command : Command) (topic : Option String) (values : FlagValues)
  /-- The root with its arguments, no subcommand named. -/
  | root (args : List String) (values : FlagValues)
  /-- A subcommand with its arguments, and the root's arguments. -/
  | run (command : Command) (args : List String) (rootArgs : List String) (values : FlagValues)
  deriving Inhabited

/-- Reads a command line. -/
def App.route (a : App) (args : List String) : Route :=
  match readArgs a.rootFlags (a.command? · |>.isSome) args {} with
  | .error e => .usageError none e []
  | .ok r =>
    if r.values.switch "help" then .rootHelp r.args.head? r.values
    else if !a.version.isEmpty && r.values.switch "version" then .version r.values
    else
      match r.args with
      | first :: rest =>
        match a.command? first with
        | some c =>
          match readArgs (a.commandFlags c) (fun _ => false) rest {} with
          | .error e => .usageError (some c) e r.values
          | .ok cr =>
            let values := r.values ++ cr.values
            if cr.values.switch "help" then .commandHelp c cr.args.head? values
            else .run c cr.args r.args values
        | none => .root r.args r.values
      | [] => .root [] r.values

end Theming.Cli
