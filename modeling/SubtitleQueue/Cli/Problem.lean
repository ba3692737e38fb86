/-!
What can be wrong with a command line, and how it is told. A message starts with `error: `,
may be followed by tips, then by a usage line, and ends by pointing to `--help`.

Tips come in a fixed order: a similar name first, then the other hints (how to pass a word
that looks like a switch as a value, where a similar switch exists).
-/

namespace SubtitleQueue.Cli

/-- A mistake in a command line. Usage lines are kept as they are to be shown. -/
inductive Problem where
  /-- A word that names no argument here; with a similar long name, whether the word could
  be passed as a value after `--`, and a subcommand that has a similar switch. -/
  | unexpected (word : String) (similar : Option String) (asValue : Bool)
      (elsewhere : Option (String × String)) (usage : String)
  /-- A subcommand name after `--`, which makes it a value. -/
  | escapedSubcommand (name : String) (usage : String)
  /-- A word where a subcommand is expected, with the similar subcommand names. -/
  | unknownSubcommand (word : String) (similar : List String) (usage : String)
  /-- Required arguments that were not given. -/
  | missing (args : List String) (usage : String)
  /-- A command that needs a subcommand got none. -/
  | missingSubcommand (bin : String) (names : List String) (usage : String)
  /-- A value that is not among the possible ones, with the most similar. -/
  | notPossible (value arg : String) (possible : List String) (similar : Option String)
  /-- An argument given without its value. -/
  | noValue (arg : String) (possible : List String)
  /-- A value that the argument's reading refused, with the reason. -/
  | refused (value arg reason : String)
  /-- A value attached to a switch. -/
  | extraValue (value arg : String) (usage : String)
  /-- An argument given twice. -/
  | repeated (arg : String) (usage : String)
  deriving Inhabited

namespace Problem

/-- The list of possible values, on a line of its own. -/
def valuesLine (label : String) (vs : List String) : String :=
  if vs.isEmpty then "" else "\n  [" ++ label ++ ": " ++ ", ".intercalate vs ++ "]"

/-- The tip about similar names of a kind. -/
def similarTip (kind : String) : List String → String
  | [] => ""
  | [n] => "\n  tip: a similar " ++ kind ++ " exists: '" ++ n ++ "'"
  | ns => "\n  tip: some similar " ++ kind ++ "s exist: " ++ ", ".intercalate (ns.map fun n => "'" ++ n ++ "'")

/-- The first line, the tips and the usage line. -/
def parts : Problem → String × List String × List String × Option String
  | .unexpected w similar asValue elsewhere usage =>
    ("unexpected argument '" ++ w ++ "' found", similar.toList,
     (if asValue then ["to pass '" ++ w ++ "' as a value, use '-- " ++ w ++ "'"] else []) ++
       (elsewhere.map fun (sub, flag) => "'" ++ sub ++ " " ++ flag ++ "' exists").toList,
     some usage)
  | .escapedSubcommand name usage =>
    ("unexpected argument '--' found", [],
     ["subcommand '" ++ name ++ "' exists; to use it, remove the '--' before it"], some usage)
  | .unknownSubcommand w similar usage =>
    ("unrecognized subcommand '" ++ w ++ "'", similar, [], some usage)
  | .missing args usage =>
    ("the following required arguments were not provided:" ++
       String.join (args.map ("\n  " ++ ·)), [], [], some usage)
  | .missingSubcommand bin names usage =>
    ("'" ++ bin ++ "' requires a subcommand but one was not provided" ++
       valuesLine "subcommands" names, [], [], some usage)
  | .notPossible value arg possible similar =>
    ("invalid value '" ++ value ++ "' for '" ++ arg ++ "'" ++ valuesLine "possible values" possible,
     similar.toList, [], none)
  | .noValue arg possible =>
    ("a value is required for '" ++ arg ++ "' but none was supplied" ++
       valuesLine "possible values" possible, [], [], none)
  | .refused value arg reason =>
    ("invalid value '" ++ value ++ "' for '" ++ arg ++ "': " ++ reason, [], [], none)
  | .extraValue value arg usage =>
    ("unexpected value '" ++ value ++ "' for '" ++ arg ++ "' found; no more were expected",
     [], [], some usage)
  | .repeated arg usage =>
    ("the argument '" ++ arg ++ "' cannot be used multiple times", [], [], some usage)

/-- The kind of name a similar-name tip speaks of. -/
def similarKind : Problem → String
  | .unexpected .. => "argument"
  | .unknownSubcommand .. => "subcommand"
  | _ => "value"

/-- The whole message. -/
def render (p : Problem) : String :=
  let (first, similar, hints, usage) := p.parts
  let similarPart := if similar.isEmpty then "" else "\n" ++ similarTip p.similarKind similar
  let hintPart := if hints.isEmpty then ""
    else (if similar.isEmpty then "\n" else "") ++ String.join (hints.map ("\n  tip: " ++ ·))
  "error: " ++ first ++ similarPart ++ hintPart ++
    (usage.map ("\n\nUsage: " ++ ·)).getD "" ++ "\n\nFor more information, try '--help'.\n"

end Problem

end SubtitleQueue.Cli
