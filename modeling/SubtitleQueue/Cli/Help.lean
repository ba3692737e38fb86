import SubtitleQueue.Cli.Usage
import SubtitleQueue.Text.Blank
import SubtitleQueue.Text.Quote

/-!
The help of a command. It opens with the about line (in the long help, the longer
description), then the usage, then a section each for the subcommands, the positional
arguments and the named ones. Each entry is the name, padded to a common column, and its help,
followed by its default value and its possible values in brackets.

Lines are 100 columns wide and never wrapped. When an entry's help would not fit beside the
widest name in the section, and the names already take more than two fifths of the line, every
help of the section goes on the line after its name, indented by ten columns; the long help
always does so, with a blank line between entries and its bracketed notes on lines of their
own.
-/

namespace SubtitleQueue.Cli

/-- The width of a help line. -/
def lineWidth : Nat := 100

/-- Spaces. -/
def spaces (n : Nat) : String := String.ofList (List.replicate n ' ')

/-- A default value as shown: quoted when empty or holding a blank. -/
def shownDefault (v : String) : String :=
  if v.isEmpty || v.any Text.isBlank then Text.quoted v else v

/-- The bracketed notes after an argument's help: its default and its possible values. -/
def notes (a : Arg) (long : Bool) : String :=
  let dflt := if a.takesValue then (a.default.map fun v => "[default: " ++ shownDefault v ++ "]").toList
    else []
  let pvs := a.possibleValues
  let pv := if pvs.isEmpty then [] else ["[possible values: " ++ ", ".intercalate pvs ++ "]"]
  (if long then "\n" else " ").intercalate (dflt ++ pv)

/-- A help text after its name: on the next line when `nextLine`, with its later lines
indented to the column where it starts. -/
def helpText (help : String) (notes : String) (noteSep : String) (nextLine : Bool) (column : Nat) :
    String :=
  let body := if notes.isEmpty then help
    else if help.isEmpty then notes else help ++ noteSep ++ notes
  let indented := match body.splitOn "\n" with
    | [] => ""
    | first :: rest => String.join (first :: rest.map fun l => "\n" ++ spaces column ++ l)
  (if nextLine then "\n" ++ spaces 10 else "") ++ indented

/-- Whether an entry's help goes on the next line: the name column takes more than two fifths
of the line and the help does not fit beside it. -/
def overflows (taken helpWidth : Nat) : Bool :=
  lineWidth ≥ taken && 10 * taken > 4 * lineWidth && helpWidth > lineWidth - taken

namespace Command

/-- The width a named argument takes in its column. -/
def nameWidth (a : Arg) : Nat := if a.positional then a.display.length else a.display.length + 4

/-- The help of an argument in the short or long help. -/
def argHelp (a : Arg) (long : Bool) : String :=
  (if long then a.longHelp <|> a.help else a.help <|> a.longHelp).getD ""

/-- The entries of an argument section. -/
def argEntries (args : List Arg) (long : Bool) : String :=
  let longest := args.foldl (fun m a =>
    if a.takesValue || a.long.isSome || a.short.isNone then max m (nameWidth a) else m) 2
  let nextLine := long || args.any fun a =>
    let taken := if a.positional then longest + 4 else longest + 8
    overflows taken ((a.help.getD "").length + (notes a false).length)
  let entry (a : Arg) : String :=
    let shortPart := match a.short with
      | some c => "-" ++ c.toString
      | none => if a.long.isSome then "    " else ""
    let longPart := match a.long with
      | some l => (if a.short.isSome then ", " else "") ++ "--" ++ l
      | none => ""
    let pad := if nextLine then 0
      else if a.positional then longest + 2 - a.display.length
      else longest + (if a.long.isSome then 2 else 6) - (a.display.length + 4)
    let column := if nextLine then 10 else longest + 4
    "  " ++ shortPart ++ longPart ++ a.suffix a.required ++ spaces pad ++
      helpText (argHelp a long) (notes a long) (if long then "\n\n" else " ") nextLine column
  (if nextLine && long then "\n\n" else "\n").intercalate (args.map entry)

/-- The entries of the subcommand section. -/
def subEntries (subs : List Command) : String :=
  let longest := subs.foldl (fun m s => max m s.name.length) 2
  let nextLine := subs.any fun s => overflows (longest + 4) ((s.about <|> s.longAbout).getD "").length
  let entry (s : Command) : String :=
    let about := (s.about <|> s.longAbout).getD ""
    "  " ++ s.name ++ (if nextLine then "" else spaces (longest + 2 - s.name.length)) ++
      helpText about "" " " nextLine (if nextLine then 10 else longest + 4)
  "\n".intercalate (subs.map entry)

/-- The help of a command called `bin`, long or short. -/
def helpOf (c : Command) (bin : String) (long : Bool) : String :=
  let useLong := long && c.hasLongHelp
  let about := if useLong then c.longAbout <|> c.about else c.about
  let sections :=
    (if c.subcommands.isEmpty then [] else ["Commands:\n" ++ subEntries c.subcommands]) ++
    (if c.positionals.isEmpty then [] else ["Arguments:\n" ++ argEntries c.positionals useLong]) ++
    (if c.named.isEmpty then [] else ["Options:\n" ++ argEntries c.named useLong])
  let text := (about.map (· ++ "\n")).getD "" ++ "\nUsage: " ++ c.fullUsage bin ++ "\n\n" ++
    "\n\n".intercalate sections
  let text := match text.splitOn "\n" with
    | first :: rest => if Text.isBlankText first then "\n".intercalate rest else text
    | [] => text
  Text.trimEnd text ++ "\n"

end Command

end SubtitleQueue.Cli
