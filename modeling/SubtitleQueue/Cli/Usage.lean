import SubtitleQueue.Cli.Spec

/-!
Usage lines. The full usage of a command names it, says `[OPTIONS]` when it has a named
argument that may be left out (the help and version switches apart), lists its required named
arguments and then all its positional arguments, and ends with `<COMMAND>` when it has
subcommands (`[COMMAND]` when one may be left out).

The usage shown with a mistake lists instead the required arguments and those that were
given or found missing: named ones first, each once, in that order, and then the positional
arguments by place. An argument's companions (those it requires) come right before it.
-/

namespace SubtitleQueue.Cli

namespace Command

/-- The arguments that an argument requires, and theirs, depth first; `fuel` bounds the depth. -/
def requiredBy (c : Command) : Nat → String → List String
  | 0, _ => []
  | fuel + 1, id =>
    match c.find? id with
    | some a => a.requires.flatMap fun r => c.requiredBy fuel r ++ [r]
    | none => []

/-- The ids of the required arguments, in order. -/
def requiredIds (c : Command) : List String := (c.args.filter (·.required)).map (·.id)

/-- The ids in `required` with their companions before each, then those in `extra`. -/
def unrolled (c : Command) (required extra : List String) : List String :=
  required.flatMap (fun id => c.requiredBy c.args.length id ++ [id]) ++ extra

/-- The arguments of a usage line: named ones in `ids` once each, then the positional ones by
place, those in `ids` as required. -/
def usageArgs (c : Command) (ids : List String) : List String :=
  let chosen := ids.filterMap c.find?
  let namedOnce := ((chosen.filter fun a => !a.positional).map (·.styled true)).eraseDups
  let places := c.positionals.map fun p =>
    if chosen.any (·.id == p.id) then p.styled true else p.styled false
  namedOnce ++ places

/-- Whether the usage says `[OPTIONS]`. -/
def hasOptions (c : Command) : Bool :=
  c.named.any fun a => a.long != some "help" && a.long != some "version" && !a.required

/-- The full usage of a command called `bin`. -/
def fullUsage (c : Command) (bin : String) : String :=
  let opts := if c.hasOptions then " [OPTIONS]" else ""
  let args := c.usageArgs (c.unrolled c.requiredIds [])
  let sub := if c.subcommands.isEmpty then ""
    else if c.needsSubcommand then " <COMMAND>" else " [COMMAND]"
  bin ++ opts ++ String.join (args.map (" " ++ ·)) ++ sub

/-- The usage shown with a mistake: the arguments in `required` and those in `used`. -/
def usageWith (c : Command) (bin : String) (required used : List String) : String :=
  if used.isEmpty then c.fullUsage bin
  else
    let args := c.usageArgs (c.unrolled required used)
    let sub := if c.needsSubcommand then " <COMMAND>" else ""
    bin ++ String.join (args.map (" " ++ ·)) ++ sub

end Command

end SubtitleQueue.Cli
