import SubtitleQueue.Cli.Shell

/-!
Completion scripts for elvish: the words typed so far, joined by `;`, select the candidates of
the command they reach, each with its description (its help, or its own name when it has
none).
-/

namespace SubtitleQueue.Cli.Elvish

/-- A text inside single quotes: quotes doubled, on one line. -/
def escaped (s : String) : String := replaceChar (replaceChar s '\'' "''") '\n' " "

/-- The start of each candidate. -/
def preamble : String := "\n            cand "

/-- The candidates of a switch or option: its short name, then its long name. -/
def argCandidates (a : Arg) : String :=
  let tip (fallback : String) : String := (a.help.map escaped).getD fallback
  (a.short.map fun c => preamble ++ "-" ++ c.toString ++ " '" ++ tip c.toString ++ "'").getD "" ++
  (a.long.map fun l => preamble ++ "--" ++ l ++ " '" ++ tip l ++ "'").getD ""

/-- The entries of a command reached by the words `key`, and of its subcommands. -/
def entries (key : String) (c : Command) : String :=
  let items := String.join (c.options.map argCandidates) ++ String.join (c.switches.map argCandidates) ++
    String.join (c.subcommands.map fun s =>
      preamble ++ s.name ++ " '" ++ ((s.about.map escaped).getD s.name) ++ "'")
  "\n        &'" ++ key ++ "'= \x7b" ++ items ++ "\n        \x7d" ++
    String.join (c.subcommands.attach.map fun ⟨s, _⟩ => entries (key ++ ";" ++ s.name) s)
termination_by c
decreasing_by exact Command.sizeOf_lt_of_mem_subcommands ‹_›

/-- The completion script of a command called `bin`. -/
def script (c : Command) (bin : String) : String :=
  "\n" ++
  "use builtin;\n" ++
  "use str;\n" ++
  "\n" ++
  "set edit:completion:arg-completer[" ++ bin ++ "] = \x7b|@words|\n" ++
  "    fn spaces \x7b|n|\n" ++
  "        builtin:repeat $n ' ' | str:join ''\n" ++
  "    \x7d\n" ++
  "    fn cand \x7b|text desc|\n" ++
  "        edit:complex-candidate $text &display=$text' '(spaces (- 14 (wcswidth $text)))$desc\n" ++
  "    \x7d\n" ++
  "    var command = '" ++ bin ++ "'\n" ++
  "    for word $words[1..-1] \x7b\n" ++
  "        if (str:has-prefix $word '-') \x7b\n" ++
  "            break\n" ++
  "        \x7d\n" ++
  "        set command = $command';'$word\n" ++
  "    \x7d\n" ++
  "    var completions = [" ++ entries bin c ++ "\n" ++
  "    ]\n" ++
  "    $completions[$command]\n" ++
  "\x7d\n"

end SubtitleQueue.Cli.Elvish
