import SubtitleQueue.Cli.Shell

/-!
Completion scripts for bash. The script first walks the words typed so far to find the command
they reach, each command named by a function name made of the names leading to it (dashes and
the steps between names become `__subcmd__`). For that command it offers its switches, the
possible values of its positional arguments and its subcommands; after an option it offers the
option's possible values, or file names.
-/

namespace SubtitleQueue.Cli.Bash

/-- The function name of a command reached by the names `path`. -/
def fnName : List String → String
  | [] => ""
  | top :: rest => top ++ String.join (rest.map fun n => "__subcmd__" ++ replaceChar n '-' "__subcmd__")

/-- What is offered after an option. -/
def valuesFor (a : Arg) : String :=
  match a.possibleValues with
  | [] => "$(compgen -f \"$\x7bcur\x7d\")"
  | vs => "$(compgen -W \"" ++ " ".intercalate vs ++ "\" -- \"$\x7bcur\x7d\")"

/-- The words offered at a command. -/
def offered (c : Command) : String :=
  let shorts := c.named.filterMap fun a => a.short.map fun ch => "-" ++ ch.toString
  let longs := c.named.filterMap fun a => a.long.map ("--" ++ ·)
  let values := c.positionals.flatMap Arg.possibleValues
  " ".intercalate (shorts ++ longs ++ values ++ c.subcommandNames)

/-- The cases for the word before the cursor being an option. -/
def optionCases (c : Command) : String :=
  String.join (c.options.map fun a =>
    let entry (flag : String) : String :=
      "\n                " ++ flag ++ ")\n                    COMPREPLY=(" ++ valuesFor a ++
        ")\n                    return 0\n                    ;;"
    (a.long.map fun l => entry ("--" ++ l)).getD "" ++
      (a.short.map fun ch => entry ("-" ++ ch.toString)).getD "")

/-- The case of one command. -/
def commandCase (path : List String) (c : Command) : String :=
  fnName path ++ ")\n            opts=\"" ++ offered c ++ "\"\n" ++
  "            if [[ $\x7bcur\x7d == -* || $\x7bCOMP_CWORD\x7d -eq " ++ toString path.length ++ " ]] ; then\n" ++
  "                COMPREPLY=( $(compgen -W \"$\x7bopts\x7d\" -- \"$\x7bcur\x7d\") )\n" ++
  "                return 0\n" ++
  "            fi\n" ++
  "            case \"$\x7bprev\x7d\" in" ++ optionCases c ++ "\n" ++
  "                *)\n" ++
  "                    COMPREPLY=()\n" ++
  "                    ;;\n" ++
  "            esac\n" ++
  "            COMPREPLY=( $(compgen -W \"$\x7bopts\x7d\" -- \"$\x7bcur\x7d\") )\n" ++
  "            return 0\n" ++
  "            ;;"

/-- Whether one text sorts before another, by characters. -/
def textLe (a b : String) : Bool := charsLe a.toList b.toList

/-- The completion script of a command called `bin`. -/
def script (c : Command) (bin : String) : String :=
  let nodes := c.nodes []
  let steps := (nodes.filterMap fun (path, _) =>
      if path.length ≤ 1 then none else some (fnName path.dropLast, path.getLast?.getD "", fnName path)).mergeSort
    fun x y => textLe x.1 y.1 && (x.1 != y.1 || textLe x.2.1 y.2.1)
  let stepCases := String.join (steps.map fun (parent, name, fn) =>
    "\n            " ++ parent ++ "," ++ name ++ ")\n                cmd=\"" ++ fn ++ "\"\n                ;;")
  let cases := (nodes.mergeSort fun x y => textLe (fnName x.1) (fnName y.1)).map fun (path, cmd) =>
    "\n        " ++ commandCase path cmd
  "_" ++ bin ++ "() \x7b\n" ++
  "    local i cur prev opts cmd\n" ++
  "    COMPREPLY=()\n" ++
  "    if [[ \"$\x7bBASH_VERSINFO[0]\x7d\" -ge 4 ]]; then\n" ++
  "        cur=\"$2\"\n" ++
  "    else\n" ++
  "        cur=\"$\x7bCOMP_WORDS[COMP_CWORD]\x7d\"\n" ++
  "    fi\n" ++
  "    prev=\"$3\"\n" ++
  "    cmd=\"\"\n" ++
  "    opts=\"\"\n" ++
  "\n" ++
  "    for i in \"$\x7bCOMP_WORDS[@]:0:COMP_CWORD\x7d\"\n" ++
  "    do\n" ++
  "        case \"$\x7bcmd\x7d,$\x7bi\x7d\" in\n" ++
  "            \",$1\")\n" ++
  "                cmd=\"" ++ bin ++ "\"\n" ++
  "                ;;" ++ stepCases ++ "\n" ++
  "            *)\n" ++
  "                ;;\n" ++
  "        esac\n" ++
  "    done\n" ++
  "\n" ++
  "    case \"$\x7bcmd\x7d\" in" ++ String.join cases ++ "\n" ++
  "    esac\n" ++
  "\x7d\n" ++
  "\n" ++
  "if [[ \"$\x7bBASH_VERSINFO[0]\x7d\" -eq 4 && \"$\x7bBASH_VERSINFO[1]\x7d\" -ge 4 || \"$\x7bBASH_VERSINFO[0]\x7d\" -gt 4 ]]; then\n" ++
  "    complete -F _" ++ bin ++ " -o nosort -o bashdefault -o default " ++ bin ++ "\n" ++
  "else\n" ++
  "    complete -F _" ++ bin ++ " -o bashdefault -o default " ++ bin ++ "\n" ++
  "fi\n"

end SubtitleQueue.Cli.Bash
