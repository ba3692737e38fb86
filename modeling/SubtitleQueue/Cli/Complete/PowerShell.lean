import SubtitleQueue.Cli.Shell

/-!
Completion scripts for PowerShell: the words typed so far, joined by `;`, select a case that
lists the switches and subcommands of the command they reach, each with its tooltip (its help,
or its own name when it has none).
-/

namespace SubtitleQueue.Cli.PowerShell

/-- A text inside single quotes: quotes doubled, on one line. -/
def escaped (s : String) : String := replaceChar (replaceChar s '\'' "''") '\n' " "

/-- The start of each completion. -/
def preamble : String := "\n            [CompletionResult]::new("

/-- The completions of a switch or option: its short name, then its long name. An upper-case
letter gets a trailing space, which keeps it apart from the lower-case one. -/
def argCompletions (a : Arg) : String :=
  let tip (fallback : String) : String := (a.help.map escaped).getD fallback
  (a.short.map fun c =>
    preamble ++ "'-" ++ c.toString ++ "', '-" ++ c.toString ++ (if c.isUpper then " " else "") ++
      "', [CompletionResultType]::ParameterName, '" ++ tip c.toString ++ "')").getD "" ++
  (a.long.map fun l =>
    preamble ++ "'--" ++ l ++ "', '--" ++ l ++ "', [CompletionResultType]::ParameterName, '" ++
      tip l ++ "')").getD ""

/-- The cases of a command reached by the words `key`, and of its subcommands. -/
def cases (key : String) (c : Command) : String :=
  let items := String.join (c.options.map argCompletions) ++ String.join (c.switches.map argCompletions) ++
    String.join (c.subcommands.map fun s =>
      preamble ++ "'" ++ s.name ++ "', '" ++ s.name ++ "', [CompletionResultType]::ParameterValue, '" ++
        ((s.about.map escaped).getD s.name) ++ "')")
  "\n        '" ++ key ++ "' \x7b" ++ items ++ "\n            break\n        \x7d" ++
    String.join (c.subcommands.attach.map fun ⟨s, _⟩ => cases (key ++ ";" ++ s.name) s)
termination_by c
decreasing_by exact Command.sizeOf_lt_of_mem_subcommands ‹_›

/-- The completion script of a command called `bin`. -/
def script (c : Command) (bin : String) : String :=
  "\n" ++
  "using namespace System.Management.Automation\n" ++
  "using namespace System.Management.Automation.Language\n" ++
  "\n" ++
  "Register-ArgumentCompleter -Native -CommandName '" ++ bin ++ "' -ScriptBlock \x7b\n" ++
  "    param($wordToComplete, $commandAst, $cursorPosition)\n" ++
  "\n" ++
  "    $commandElements = $commandAst.CommandElements\n" ++
  "    $command = @(\n" ++
  "        '" ++ bin ++ "'\n" ++
  "        for ($i = 1; $i -lt $commandElements.Count; $i++) \x7b\n" ++
  "            $element = $commandElements[$i]\n" ++
  "            if ($element -isnot [StringConstantExpressionAst] -or\n" ++
  "                $element.StringConstantType -ne [StringConstantType]::BareWord -or\n" ++
  "                $element.Value.StartsWith('-') -or\n" ++
  "                $element.Value -eq $wordToComplete) \x7b\n" ++
  "                break\n" ++
  "        \x7d\n" ++
  "        $element.Value\n" ++
  "    \x7d) -join ';'\n" ++
  "\n" ++
  "    $completions = @(switch ($command) \x7b" ++ cases bin c ++ "\n" ++
  "    \x7d)\n" ++
  "\n" ++
  "    $completions.Where\x7b $_.CompletionText -like \"$wordToComplete*\" \x7d |\n" ++
  "        Sort-Object -Property ListItemText\n" ++
  "\x7d\n"

end SubtitleQueue.Cli.PowerShell
