import SubtitleQueue.Cli.Build

/-!
The shells that completion scripts are written for, and the walk over a command tree that the
scripts share: every command with the names leading to it, depth first, a command before its
subcommands.
-/

namespace SubtitleQueue.Cli

/-- Whether one list of characters sorts before another or equals it: the first character
that differs decides, by code point, and a list sorts before every longer list it starts. -/
def charsLe : List Char → List Char → Bool
  | [], _ => true
  | _ :: _, [] => false
  | x :: xs, y :: ys =>
    if x.toNat < y.toNat then true else if y.toNat < x.toNat then false else charsLe xs ys

/-- A shell that completion scripts are written for. -/
inductive Shell where
  | bash
  | elvish
  | fish
  | powershell
  | zsh
  deriving Repr, DecidableEq, Inhabited

namespace Shell

/-- Every shell, in the order they are listed. -/
def all : List Shell := [.bash, .elvish, .fish, .powershell, .zsh]

/-- The name of a shell. -/
def name : Shell → String
  | .bash => "bash"
  | .elvish => "elvish"
  | .fish => "fish"
  | .powershell => "powershell"
  | .zsh => "zsh"

/-- The names of the shells. -/
def names : List String := all.map name

/-- The shell with a name. -/
def ofName? (s : String) : Option Shell := all.find? (·.name == s)

end Shell

/-- Braces around a text. -/
def braced (s : String) : String := "\x7b" ++ s ++ "\x7d"

/-- A text with every occurrence of a character replaced by a text. -/
def replaceChar (s : String) (c : Char) (by_ : String) : String :=
  String.join (s.toList.map fun d => if d == c then by_ else d.toString)

namespace Command

/-- Every command of a tree with the names from the top to it, the command before its
subcommands. -/
def nodes (path : List String) (c : Command) : List (List String × Command) :=
  (path ++ [c.name], c) :: c.subcommands.attach.flatMap fun ⟨s, _⟩ => nodes (path ++ [c.name]) s
decreasing_by exact sizeOf_lt_of_mem_subcommands ‹_›

/-- The named arguments that take a value, in order. -/
def options (c : Command) : List Arg := c.named.filter Arg.takesValue

/-- The named arguments that take no value, in order. -/
def switches (c : Command) : List Arg := c.named.filter fun a => !a.takesValue

end Command

end SubtitleQueue.Cli
