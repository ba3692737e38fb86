import SubtitleQueue.Cli.Shell
import SubtitleQueue.Text.Blank

/-!
Completion scripts for zsh. Each command becomes an `_arguments` call listing its options
(with their value names and how their values are completed), its switches and its positional
arguments; a command with subcommands then hands the rest of the line to the chosen one, whose
call is nested in a `case` on the word typed. Every command also gets a function describing
its subcommands.
-/

namespace SubtitleQueue.Cli.Zsh

/-- A help text inside single quotes and brackets. -/
def escapedHelp (s : String) : String :=
  String.join (s.toList.map fun c =>
    match c with
    | '\\' => "\\\\"
    | '\'' => "'\\''"
    | '[' => "\\["
    | ']' => "\\]"
    | ':' => "\\:"
    | '$' => "\\$"
    | '`' => "\\`"
    | '\n' => " "
    | c => c.toString)

/-- How a value is completed: from its possible values, or as a file; none when nothing is
known of it. -/
def valueCompletion (a : Arg) : Option String :=
  match a.possibleValues with
  | [] =>
    match a.reading with
    | .path => some "_files"
    | _ => none
  | vs => some ("(" ++ " ".intercalate vs ++ ")")

/-- The lines of an option. -/
def optionLines (a : Arg) : List String :=
  let help := escapedHelp (a.help.getD "")
  let vc := ":" ++ a.valueName ++ ":" ++ (valueCompletion a).getD " "
  (a.short.map fun c => "'-" ++ c.toString ++ "+[" ++ help ++ "]" ++ vc ++ "' \\").toList ++
    (a.long.map fun l => "'--" ++ l ++ "=[" ++ help ++ "]" ++ vc ++ "' \\").toList

/-- The lines of a switch. -/
def switchLines (a : Arg) : List String :=
  let help := escapedHelp (a.help.getD "")
  (a.short.map fun c => "'-" ++ c.toString ++ "[" ++ help ++ "]' \\").toList ++
    (a.long.map fun l => "'--" ++ l ++ "[" ++ help ++ "]' \\").toList

/-- The line of a positional argument. -/
def positionalLine (c : Command) (a : Arg) : String :=
  let many := a.action == .append
  let cardinality := if many && c.subcommands.isEmpty then "*:" else if !a.required then ":" else ""
  let help := (a.help.map fun h =>
    String.join ((" -- " ++ Text.trimEnd h).toList.map fun ch =>
      match ch with
      | '[' => "\\["
      | ']' => "\\]"
      | '\'' => "'\\''"
      | ':' => "\\:"
      | ch => ch.toString)).getD ""
  "'" ++ cardinality ++ ":" ++ a.id ++ help ++ ":" ++ (valueCompletion a).getD "" ++ "' \\"

/-- The function name part of a command called `bin`. -/
def underscored (bin : String) : String := String.intercalate "__" (bin.splitOn " ")

/-- The `_arguments` call of a command called `bin`. -/
def argsOf (c : Command) (bin : String) : String :=
  let lines := ["_arguments \"$\x7b_arguments_options[@]\x7d\" : \\"] ++
    c.options.flatMap optionLines ++ c.switches.flatMap switchLines ++
    c.positionals.map (positionalLine c) ++
    (if c.subcommands.isEmpty then []
     else ["\":: :_" ++ underscored bin ++ "_commands\" \\", "\"*::: :->" ++ c.name ++ "\" \\"]) ++
    ["&& ret=0"]
  "\n".intercalate lines

/-- The nested cases of the subcommands of a command called `bin`. -/
def casesOf (c : Command) (bin : String) : String :=
  if c.subcommands.isEmpty then ""
  else
    let pos := toString (c.positionals.length + 1)
    let each := c.subcommands.attach.map fun ⟨s, _⟩ =>
      let sBin := bin ++ " " ++ s.name
      let children := casesOf s sBin
      "\n".intercalate (["(" ++ s.name ++ ")", argsOf s sBin] ++
        (if children.isEmpty then [] else [children]) ++ [";;"])
    "\n" ++
    "    case $state in\n" ++
    "    (" ++ c.name ++ ")\n" ++
    "        words=($line[" ++ pos ++ "] \"$\x7bwords[@]\x7d\")\n" ++
    "        (( CURRENT += 1 ))\n" ++
    "        curcontext=\"$\x7bcurcontext%:*:*\x7d:" ++ String.intercalate "-" (bin.splitOn " ") ++
      "-command-$line[" ++ pos ++ "]:\"\n" ++
    "        case $line[" ++ pos ++ "] in\n" ++
    "            " ++ "\n".intercalate each ++ "\n" ++
    "        esac\n" ++
    "    ;;\n" ++
    "esac"
termination_by c
decreasing_by exact Command.sizeOf_lt_of_mem_subcommands ‹_›

/-- The function describing the subcommands of a command called `bin`. -/
def commandsFunction (c : Command) (bin : String) : String :=
  let items := c.subcommands.map fun s => "'" ++ s.name ++ ":" ++ escapedHelp (s.about.getD "") ++ "' \\"
  let list := if items.isEmpty then "" else "\n".intercalate ([""] ++ items ++ ["    "])
  "(( $+functions[_" ++ underscored bin ++ "_commands] )) ||\n" ++
  "_" ++ underscored bin ++ "_commands() \x7b\n" ++
  "    local commands; commands=(" ++ list ++ ")\n" ++
  "    _describe -t commands '" ++ bin ++ " commands' commands \"$@\"\n" ++
  "\x7d"

/-- Whether one text sorts before another, by characters. -/
def textLe (a b : String) : Bool := charsLe a.toList b.toList

/-- The completion script of a command called `bin`. -/
def script (c : Command) (bin : String) : String :=
  let below := ((c.nodes []).drop 1).map fun (path, cmd) => (" ".intercalate (bin :: path.drop 1), cmd)
  let below := (below.mergeSort fun x y => textLe x.1 y.1).foldl (fun acc x =>
    if acc.any (·.1 == x.1) then acc else acc ++ [x]) []
  let details := "\n".intercalate (commandsFunction c bin :: below.map fun (b, cmd) => commandsFunction cmd b)
  "#compdef " ++ bin ++ "\n" ++
  "\n" ++
  "autoload -U is-at-least\n" ++
  "\n" ++
  "_" ++ bin ++ "() \x7b\n" ++
  "    typeset -A opt_args\n" ++
  "    typeset -a _arguments_options\n" ++
  "    local ret=1\n" ++
  "\n" ++
  "    if is-at-least 5.2; then\n" ++
  "        _arguments_options=(-s -S -C)\n" ++
  "    else\n" ++
  "        _arguments_options=(-s -C)\n" ++
  "    fi\n" ++
  "\n" ++
  "    local context curcontext=\"$curcontext\" state line\n" ++
  "    " ++ argsOf c bin ++ casesOf c bin ++ "\n" ++
  "\x7d\n" ++
  "\n" ++
  details ++ "\n" ++
  "\n" ++
  "if [ \"$funcstack[1]\" = \"_" ++ bin ++ "\" ]; then\n" ++
  "    _" ++ bin ++ " \"$@\"\n" ++
  "else\n" ++
  "    compdef _" ++ bin ++ " " ++ bin ++ "\n" ++
  "fi\n"

end SubtitleQueue.Cli.Zsh
