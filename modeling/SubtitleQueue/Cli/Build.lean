import SubtitleQueue.Cli.Spec

/-!
A command made ready for use. Every command gets a help switch (`-h`, `--help`), the top one
also a version switch when it has a version, and a command with subcommands gets a `help`
subcommand. Global arguments reach every subcommand below the command that declares them,
after the subcommand's own arguments.

The `help` subcommand takes the names of the subcommands whose help to show. For shell
completion it is instead expanded into a tree: under it stands a copy of every subcommand
(name, about line and subcommands, without arguments), and a `help` of its own.
-/

namespace SubtitleQueue.Cli

/-- The about line of a `help` subcommand. -/
def helpAbout : String := "Print this message or the help of the given subcommand(s)"

/-- A `help` command without arguments or subcommands of its own. -/
def helpLeaf : Command :=
  { name := "help", about := some helpAbout, helpSubcommand := false, helpFlag := false }

/-- The `help` subcommand as parsed: it names the subcommands whose help to show. -/
def helpCommand : Command :=
  { helpLeaf with
    args := [{ id := "subcommand", action := .append, valueName := "COMMAND",
               help := some "Print help for the subcommand(s)" }] }

/-- The version switch. -/
def versionArg : Arg :=
  { id := "version", short := some 'V', long := some "version", action := .version,
    help := some "Print version" }

namespace Command

/-- The help switch of a command: it points to the other help when the two differ. -/
def helpArg (c : Command) : Arg :=
  let base : Arg := { id := "help", short := some 'h', long := some "help", action := .help }
  if c.hasLongHelp then
    { base with help := some "Print help (see more with '--help')",
                longHelp := some "Print help (see a summary with '-h')" }
  else { base with help := some "Print help" }

/-- A copy of a command for the expanded `help` tree: its name, about line and subcommands. -/
def helpCopy (c : Command) : Command :=
  { name := c.name, about := c.about, helpSubcommand := false, helpFlag := false,
    subcommands := c.subcommands.attach.map fun ⟨s, _⟩ => helpCopy s }
decreasing_by exact sizeOf_lt_of_mem_subcommands ‹_›

/-- The `help` subcommand expanded for completion. -/
def expandedHelp (c : Command) : Command :=
  { helpLeaf with subcommands := c.subcommands.map helpCopy ++ [helpLeaf] }

/-- The command ready for use, given the global arguments of the commands above it; with
`expand` its `help` subcommands are expanded for completion. -/
def prepare (expand : Bool) (inherited : List Arg) (c : Command) : Command :=
  let own := c.args ++ inherited.filter fun a => !c.args.any (·.id == a.id)
  let withHelp : Command := { c with args := own }
  let args := own ++ (if c.helpFlag then [withHelp.helpArg] else []) ++
    (if c.version.isSome then [versionArg] else [])
  let globals := own.filter (·.global)
  let subs := c.subcommands.attach.map fun ⟨s, _⟩ => prepare expand globals s
  let subs := if c.helpSubcommand && !c.subcommands.isEmpty then
      subs ++ [if expand then c.expandedHelp else helpCommand]
    else subs
  { c with args, subcommands := subs }
decreasing_by exact sizeOf_lt_of_mem_subcommands ‹_›

/-- The command ready for parsing and help. -/
def ready (c : Command) : Command := c.prepare false []

/-- The command ready for shell completion. -/
def forCompletion (c : Command) : Command := c.prepare true []

end Command

end SubtitleQueue.Cli
