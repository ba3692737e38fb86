/-!
Command lines described as data. A command has arguments and subcommands. An argument is
named by a short letter, a long name, or, when it has neither, its place among the positional
arguments; it takes a value, takes any number of values, is a switch, or asks for the help or
the version.

An argument is written in messages as its long name (else its short letter) followed by its
value name: `--status <STATUS>`. A positional argument is written as its value name alone, in
angle brackets when it must be given and in square brackets when it may be left out, with
`...` after it when it takes any number of values.
-/

namespace SubtitleQueue.Cli

/-- How the text given for an argument is read. -/
inductive Reading where
  /-- Any text. -/
  | text
  /-- Any text, naming a file. -/
  | path
  /-- A whole number of 64 bits, signed or not. -/
  | whole (signed : Bool)
  /-- One of the listed names, which are its possible values. -/
  | oneOf (names : List String)
  /-- Text that a check may refuse, giving its reason. -/
  | checked (refuse : String → Option String)
  deriving Inhabited

/-- What an argument does when it is given. -/
inductive Action where
  /-- Takes one value. -/
  | set
  /-- Takes any number of values. -/
  | append
  /-- A switch: given or not. -/
  | flag
  /-- Shows the help and stops. -/
  | help
  /-- Shows the version and stops. -/
  | version
  deriving DecidableEq, Inhabited

/-- An argument of a command. `requires` names arguments that must be given with this one;
`requiredUnless` names arguments whose presence makes this one optional, and which otherwise
make it required. -/
structure Arg where
  id : String
  short : Option Char := none
  long : Option String := none
  help : Option String := none
  longHelp : Option String := none
  action : Action := .set
  valueName : String := ""
  reading : Reading := .text
  required : Bool := false
  default : Option String := none
  requires : List String := []
  requiredUnless : List String := []
  global : Bool := false
  deriving Inhabited

namespace Arg

/-- An argument with neither a short letter nor a long name. -/
def positional (a : Arg) : Bool := a.short.isNone && a.long.isNone

/-- Whether the argument takes values. -/
def takesValue (a : Arg) : Bool := a.action == .set || a.action == .append

/-- The possible values of an argument, when it lists them. -/
def possibleValues (a : Arg) : List String :=
  if a.takesValue then
    match a.reading with
    | .oneOf names => names
    | _ => []
  else []

/-- The value name as written: `<NAME>`, or `[NAME]` for a positional argument that may be
left out, followed by `...` for one that takes any number of values. -/
def valueText (a : Arg) (required : Bool) : String :=
  let open_ := a.positional && (a.action == .append || !required)
  let name := if open_ then "[" ++ a.valueName ++ "]" else "<" ++ a.valueName ++ ">"
  if a.positional && a.action == .append then name ++ "..." else name

/-- The argument written after its name: ` <NAME>` for an option, the value name for a
positional argument, nothing for a switch. -/
def suffix (a : Arg) (required : Bool) : String :=
  if a.positional then a.valueText required
  else if a.takesValue then " " ++ a.valueText required
  else ""

/-- The argument as written in usage lines, as if it were required or not. -/
def styled (a : Arg) (required : Bool) : String :=
  let name := match a.long, a.short with
    | some l, _ => "--" ++ l
    | none, some c => "-" ++ c.toString
    | none, none => ""
  name ++ a.suffix required

/-- The argument as written in messages. -/
def display (a : Arg) : String := a.styled a.required

end Arg

/-- A command: its about line and longer description, its version, arguments and
subcommands. A command that `needsSubcommand` fails without one, and shows its help when its
command line is empty. -/
structure Command where
  name : String
  about : Option String := none
  longAbout : Option String := none
  version : Option String := none
  args : List Arg := []
  subcommands : List Command := []
  needsSubcommand : Bool := false
  helpSubcommand : Bool := true
  helpFlag : Bool := true
  deriving Inhabited

namespace Command

/-- The positional arguments, in order. -/
def positionals (c : Command) : List Arg := c.args.filter Arg.positional

/-- The named arguments, in order. -/
def named (c : Command) : List Arg := c.args.filter fun a => !a.positional

/-- The argument with an id. -/
def find? (c : Command) (id : String) : Option Arg := c.args.find? (·.id == id)

/-- The argument with a long name. -/
def findLong? (c : Command) (l : String) : Option Arg := c.args.find? (·.long == some l)

/-- The argument with a short letter. -/
def findShort? (c : Command) (ch : Char) : Option Arg := c.args.find? (·.short == some ch)

/-- The subcommand with a name. -/
def findSub? (c : Command) (name : String) : Option Command := c.subcommands.find? (·.name == name)

/-- The names of the subcommands, in order. -/
def subcommandNames (c : Command) : List String := c.subcommands.map (·.name)

/-- The long names of the arguments, in order. -/
def longs (c : Command) : List String := c.args.filterMap (·.long)

/-- A subcommand is smaller than its command. -/
theorem sizeOf_lt_of_mem_subcommands {c s : Command} (h : s ∈ c.subcommands) :
    sizeOf s < sizeOf c := by
  have := List.sizeOf_lt_of_mem h
  cases c
  simp only [Command.mk.sizeOf_spec] at *
  omega

/-- Whether the command has a long help that differs from the short one. -/
def hasLongHelp (c : Command) : Bool := c.longAbout.isSome || c.args.any (·.longHelp.isSome)

end Command

end SubtitleQueue.Cli
