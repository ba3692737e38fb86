import SubtitleQueue.Cli.Complete.Bash
import SubtitleQueue.Cli.Complete.Elvish
import SubtitleQueue.Cli.Complete.Fish
import SubtitleQueue.Cli.Complete.PowerShell
import SubtitleQueue.Cli.Complete.Zsh

/-!
Completion scripts for a command, for each shell. The script is written for the command made
ready for completion, with its `help` subcommands expanded into trees.
-/

namespace SubtitleQueue.Cli

/-- The completion script of a command called `bin` for a shell. -/
def Shell.script (sh : Shell) (c : Command) (bin : String) : String :=
  let ready := c.forCompletion
  match sh with
  | .bash => Bash.script ready bin
  | .elvish => Elvish.script ready bin
  | .fish => Fish.script ready bin
  | .powershell => PowerShell.script ready bin
  | .zsh => Zsh.script ready bin

end SubtitleQueue.Cli
