import SubtitleQueue.Cli.Shell

/-!
Completion scripts for fish: one `complete` line per switch and per subcommand of every
command, with a condition telling fish at which command it applies. Commands three levels down
are not covered. Helper functions find the subcommand typed so far, skipping the top command's
own switches.
-/

namespace SubtitleQueue.Cli.Fish

/-- A text inside single quotes: backslashes and quotes escaped. -/
def escaped (s : String) : String := replaceChar (replaceChar s '\\' "\\\\") '\'' "\\'"

/-- A help text on one line, escaped. -/
def helpText (s : String) : String := escaped (replaceChar s '\n' " ")

/-- What follows an option's description: its possible values, or how its value is found. -/
def valueCompletion (a : Arg) : String :=
  match a.possibleValues with
  | [] =>
    match a.reading with
    | .path => " -r -F"
    | _ => " -r"
  | vs => " -r -f -a \"" ++ "\n".intercalate (vs.map fun v => escaped v ++ "\\t''") ++ "\""

/-- The names and descriptions of a switch or option. -/
def describe (a : Arg) : String :=
  (a.short.map fun c => " -s " ++ c.toString).getD "" ++
    (a.long.map fun l => " -l " ++ escaped l).getD "" ++
    (a.help.map fun h => " -d '" ++ helpText h ++ "'").getD ""

/-- The lines of a command reached by the subcommand names `parents`, and of its
subcommands. -/
def lines (bin needs usingFn : String) (parents : List String) (c : Command) : String :=
  let condition : Option String := match parents with
    | [] => if c.subcommands.isEmpty then some "" else some (" -n \"" ++ needs ++ "\"")
    | [p] => some (" -n \"" ++ usingFn ++ " " ++ p ++
        (if c.subcommands.isEmpty then "" else "; and not __fish_seen_subcommand_from") ++
        String.join (c.subcommandNames.map (" " ++ ·)) ++ "\"")
    | [p, q] => some (" -n \"" ++ usingFn ++ " " ++ p ++ "; and __fish_seen_subcommand_from " ++ q ++ "\"")
    | _ => none
  match condition with
  | none => ""
  | some cond =>
    let base := "complete -c " ++ bin ++ cond
    let options := c.options.map fun a => base ++ describe a ++ valueCompletion a ++ "\n"
    let switches := c.switches.map fun a => base ++ describe a ++ "\n"
    let subBase := base ++ (if c.positionals.isEmpty then " -f" else "")
    let subs := c.subcommands.map fun s =>
      subBase ++ " -a \"" ++ s.name ++ "\"" ++ (s.about.map fun h => " -d '" ++ helpText h ++ "'").getD "" ++ "\n"
    let below := c.subcommands.attach.map fun ⟨s, _⟩ => lines bin needs usingFn (parents ++ [s.name]) s
    String.join options ++ String.join switches ++ String.join subs ++ String.join below
termination_by c
decreasing_by exact Command.sizeOf_lt_of_mem_subcommands ‹_›

/-- The switches of the top command as fish's `argparse` reads them. -/
def optspecs (c : Command) : String :=
  String.join (c.named.map fun a =>
    let short := (a.short.map Char.toString).getD ""
    let long := match a.long with
      | some l => (if a.short.isSome then "/" else "") ++ escaped l
      | none => ""
    " " ++ short ++ long ++ (if a.takesValue then "=" else ""))

/-- The completion script of a command called `bin`. -/
def script (c : Command) (bin : String) : String :=
  let name := replaceChar bin '-' "_"
  if c.subcommands.isEmpty then lines bin "__fish_use_subcommand" "__fish_seen_subcommand_from" [] c
  else
    let needs := "__fish_" ++ name ++ "_needs_command"
    let usingFn := "__fish_" ++ name ++ "_using_subcommand"
    let specs := "__fish_" ++ name ++ "_global_optspecs"
    "# Print an optspec for argparse to handle cmd's options that are independent of any subcommand.\n" ++
    "function " ++ specs ++ "\n" ++
    "    string join \\n" ++ optspecs c ++ "\n" ++
    "end\n\n" ++
    "function " ++ needs ++ "\n" ++
    "    # Figure out if the current invocation already has a command.\n" ++
    "    set -l cmd (commandline -opc)\n" ++
    "    set -e cmd[1]\n" ++
    "    argparse -s (" ++ specs ++ ") -- $cmd 2>/dev/null\n" ++
    "    or return\n" ++
    "    if set -q argv[1]\n" ++
    "        # Also print the command, so this can be used to figure out what it is.\n" ++
    "        echo $argv[1]\n" ++
    "        return 1\n" ++
    "    end\n" ++
    "    return 0\n" ++
    "end\n\n" ++
    "function " ++ usingFn ++ "\n" ++
    "    set -l cmd (" ++ needs ++ ")\n" ++
    "    test -z \"$cmd\"\n" ++
    "    and return 1\n" ++
    "    contains -- $cmd[1] $argv\n" ++
    "end\n\n" ++
    lines bin needs usingFn [] c

end SubtitleQueue.Cli.Fish
