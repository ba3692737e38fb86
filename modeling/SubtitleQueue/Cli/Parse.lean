import SubtitleQueue.Cli.Build
import SubtitleQueue.Cli.Help
import SubtitleQueue.Cli.Problem
import SubtitleQueue.Cli.Similar

/-!
Reading a command line against a command, one word at a time.

A word that names a subcommand hands the rest of the line to it (unless a positional argument
is still taking values); `help` instead shows the help of the subcommands named after it. The
word `--` makes every later word a positional value. `--name` and `--name=value` name an
argument by its long name, `-abc` names switches by their letters, the last of which may take
the rest of the word (after an optional `=`) or the next word as its value. Any other word is
the value of the option named just before it, or else the next positional argument.

Values are checked when the argument they belong to is complete: when the next argument
starts, when a positional value comes, or when the line ends; the arguments of a command are
completed after its subcommand has been read, so a mistake further right is reported first.
After a command's words come its default values, and then its checks: a command that needs a
subcommand shows its help when it was given nothing, and fails when it was given something
else; then every required argument must be there.
-/

namespace SubtitleQueue.Cli

/-- The values an argument was given; `explicit` when they come from the command line rather
than from its default. -/
structure Given where
  id : String
  values : List String
  explicit : Bool := true
  deriving Inhabited

/-- What a command line gave a command: its arguments, in the order they were given, and the
subcommand chosen with what it was given. -/
structure Matches where
  given : List Given := []
  sub : Option (String × Matches) := none
  deriving Inhabited

/-- Why reading a command line stopped: the help or the version was asked for, the help is
shown for want of a subcommand, or the line is wrong. -/
inductive Stop where
  | help (text : String)
  | version (text : String)
  | helpInstead (text : String)
  | problem (p : Problem)
  deriving Inhabited

/-- A command being read, with the name it is called by. -/
structure Level where
  cmd : Command
  bin : String
  deriving Inhabited

/-- What is expected of the next word: anything, the value of an option, or more values of a
positional argument. -/
inductive Expect where
  | free
  | value (id : String)
  | more (id : String)
  deriving Inhabited, DecidableEq

/-- The state of reading one command's words: what was given so far, the argument still taking
values, what is expected, the place of the next positional argument, and whether `--` was
seen. -/
structure Scan where
  given : List Given := []
  pending : Option (String × List String) := none
  expect : Expect := .free
  place : Nat := 0
  escaped : Bool := false
  deriving Inhabited

/-- A whole number of 64 bits: an optional sign (`-` only when signed) and decimal digits. The
first fault found from the left is reported: a character that is no digit, or the number
growing past the bounds. -/
def wholeValue (signed : Bool) (s : String) : Except String Int :=
  let fail := "invalid digit found in string"
  let (negative, digits) := match s.toList with
    | '+' :: rest => (false, rest)
    | '-' :: rest => if signed then (true, rest) else (false, '-' :: rest)
    | cs => (false, cs)
  let limit : Nat := if signed then (if negative then Nat.pow 2 63 else Nat.pow 2 63 - 1) else Nat.pow 2 64 - 1
  let tooBig := if negative then "number too small to fit in target type"
    else "number too large to fit in target type"
  if s.isEmpty then .error "cannot parse integer from empty string"
  else if digits.isEmpty then .error fail
  else
    let step (acc : Except String Nat) (c : Char) : Except String Nat := do
      let n ← acc
      if !c.isDigit then throw fail
      let n' := n * 10 + (c.toNat - 48)
      if n' > limit then throw tooBig
      pure n'
    match digits.foldl step (.ok 0) with
    | .ok n => .ok (if negative then -(n : Int) else n)
    | .error e => .error e

namespace Level

/-- Checks one value of an argument. -/
def check (a : Arg) (v : String) : Except Stop Unit :=
  match a.reading with
  | .text | .path => pure ()
  | .whole signed =>
    match wholeValue signed v with
    | .ok _ => pure ()
    | .error e => throw (.problem (.refused v a.display e))
  | .oneOf names =>
    if names.contains v then pure ()
    else throw (.problem (.notPossible v a.display names (mostSimilar? v names)))
  | .checked refuse =>
    match refuse v with
    | some reason => throw (.problem (.refused v a.display reason))
    | none => pure ()

/-- The ids of the arguments given on the command line, in order. -/
def explicitIds (s : Scan) : List String := (s.given.filter (·.explicit)).map (·.id)

/-- Whether an argument was given on the command line. -/
def present (s : Scan) (id : String) : Bool := s.given.any fun g => g.id == id && g.explicit

/-- Completes an argument with its values: the help and the version stop the reading; an
option must have a value and may be given once; every value must read. -/
def settle (lv : Level) (s : Scan) (a : Arg) (vals : List String) (byLetter : Bool) :
    Except Stop Scan := do
  if a.action == .set && vals.isEmpty then
    throw (.problem (.noValue a.display a.possibleValues))
  match a.action with
  | .help => throw (.help (lv.cmd.helpOf lv.bin !byLetter))
  | .version => throw (.version (lv.bin ++ " " ++ (lv.cmd.version.getD "") ++ "\n"))
  | .append =>
    vals.forM (check a)
    match s.given.find? (·.id == a.id) with
    | some _ => pure { s with given := s.given.map fun g =>
        if g.id == a.id then { g with values := g.values ++ vals } else g }
    | none => pure { s with given := s.given ++ [{ id := a.id, values := vals }] }
  | .set | .flag =>
    if present s a.id then throw (.problem (.repeated a.display (lv.cmd.fullUsage lv.bin)))
    let vals := if a.action == .flag && vals.isEmpty then ["true"] else vals
    vals.forM (check a)
    pure { s with given := s.given ++ [{ id := a.id, values := vals }] }

/-- Completes the argument still taking values, if any. -/
def resolve (lv : Level) (s : Scan) : Except Stop Scan :=
  match s.pending with
  | none => pure s
  | some (id, vals) =>
    match lv.cmd.find? id with
    | some a => lv.settle { s with pending := none } a vals false
    | none => pure { s with pending := none }

/-- Completes the argument still taking values, then an argument given now. -/
def react (lv : Level) (s : Scan) (a : Arg) (vals : List String) (byLetter : Bool) :
    Except Stop Scan := do
  let s ← lv.resolve s
  lv.settle s a vals byLetter

/-- The state once the argument still taking values is completed, when it can be. -/
def settled (lv : Level) (s : Scan) : Scan :=
  match lv.resolve s with
  | .ok s => s
  | .error _ => { s with pending := none }

/-- Whether a word looks like a long or short switch. -/
def looksLikeSwitch (w : String) : Bool :=
  (w.startsWith "--" && w != "--") || (w.startsWith "-" && w != "-")

/-- The failure for a long name that names no argument: with a similar long name here, or
else with a subcommand named later on the line that has a similar one. -/
def unknownLong (lv : Level) (s : Scan) (name : String) (rest : List String) : Stop :=
  let s := lv.settled s
  let similar := mostSimilar? name lv.cmd.longs
  let elsewhere : Option (String × String) := match similar with
    | some _ => none
    | none =>
      let found := lv.cmd.subcommands.filterMap fun sc =>
        match mostSimilar? name sc.longs, rest.idxOf? sc.name with
        | some flag, some pos => some (pos, sc.name, "--" ++ flag)
        | _, _ => none
      (found.foldl (fun best x => match best with
        | none => some x
        | some b => if x.1 < b.1 then some x else some b) none).map fun (_, sc, flag) => (sc, flag)
  let s := match similar.bind lv.cmd.findLong? with
    | some a => if present s a.id then s else { s with given := s.given ++ [{ id := a.id, values := [] }] }
    | none => s
  let asValue := similar.isNone && !s.escaped && !lv.cmd.positionals.isEmpty
  .problem (.unexpected ("--" ++ name) (similar.map ("--" ++ ·)) asValue elsewhere
    (lv.cmd.usageWith lv.bin lv.cmd.requiredIds (explicitIds s)))

/-- The failure for a word that is no argument here. -/
def unplaced (lv : Level) (s : Scan) (w : String) : Stop :=
  let usage := lv.cmd.fullUsage lv.bin
  if s.escaped && (lv.cmd.findSub? w).isSome then .problem (.escapedSubcommand w usage)
  else
    let asValue := !s.escaped && !lv.cmd.positionals.isEmpty && looksLikeSwitch w
    let names := lv.cmd.subcommandNames
    if !names.isEmpty then
      let cands := similar w names
      if !cands.isEmpty || lv.cmd.positionals.isEmpty then .problem (.unknownSubcommand w cands usage)
      else .problem (.unexpected w none asValue none usage)
    else .problem (.unexpected w none asValue none usage)

/-- Shows the help of the subcommands named by the words after `help`. -/
def helpFor (c : Command) (bin : String) : List String → Stop
  | [] => .help (c.helpOf bin true)
  | w :: ws =>
    match c.findSub? w with
    | some sc => helpFor sc (bin ++ " " ++ sc.name) ws
    | none => .problem (.unknownSubcommand w [] (c.fullUsage bin))

/-- Reads the letters of a short switch word. -/
def shorts (lv : Level) (s : Scan) : List Char → Except Stop Scan
  | [] => pure { s with expect := .free }
  | c :: more =>
    match lv.cmd.findShort? c with
    | some a =>
      if !a.takesValue then do
        let s ← lv.react s a [] true
        lv.shorts s more
      else
        let attached := match more with
          | [] => none
          | '=' :: v => some (String.ofList v)
          | v => some (String.ofList v)
        match attached with
        | some v => do
          let s ← lv.react s a [v] true
          pure { s with expect := .free }
        | none => do
          let s ← lv.resolve s
          pure { s with pending := some (a.id, []), expect := .value a.id }
    | none =>
      let s := lv.settled s
      let w := "-" ++ c.toString
      throw (.problem (.unexpected w none (!s.escaped && !lv.cmd.positionals.isEmpty) none
        (lv.cmd.fullUsage lv.bin)))

/-- Adds a positional value. -/
def placeValue (lv : Level) (s : Scan) (w : String) : Except Stop Scan :=
  match lv.cmd.positionals[s.place]? with
  | none => throw (lv.unplaced s w)
  | some a => do
    let same := match s.pending with
      | some (id, _) => id == a.id
      | none => false
    let s ← if same && a.action == .append then pure s else lv.resolve s
    let pending := match s.pending with
      | some (id, vs) => if id == a.id then some (id, vs ++ [w]) else some (a.id, [w])
      | none => some (a.id, [w])
    if a.action == .append then pure { s with pending, expect := .more a.id }
    else pure { s with pending, expect := .free, place := s.place + 1 }

/-- Reads words until they end or one names a subcommand; then the state and the subcommand
with the words after it. -/
def scan (lv : Level) : List String → Scan → Except Stop (Scan × Option (Command × List String))
  | [], s => pure (s, none)
  | w :: rest, s => do
    if s.escaped then
      let s ← lv.placeValue s w
      return ← lv.scan rest s
    let isMore := match s.expect with
      | .more _ => true
      | _ => false
    if !isMore then
      if let some sc := lv.cmd.findSub? w then
        if w == "help" && lv.cmd.helpSubcommand then throw (helpFor lv.cmd lv.bin rest)
        return (s, some (sc, rest))
    if w == "--" then
      return ← lv.scan rest { s with escaped := true }
    if w.startsWith "--" then
      let body := (w.drop 2).toString
      let (name, value) := match body.splitOn "=" with
        | [n] => (n, none)
        | n :: vs => (n, some ("=".intercalate vs))
        | [] => (body, none)
      match lv.cmd.findLong? name with
      | none => throw (lv.unknownLong s name rest)
      | some a =>
        if a.takesValue then
          match value with
          | some v =>
            let s ← lv.react s a [v] false
            return ← lv.scan rest { s with expect := .free }
          | none =>
            let s ← lv.resolve s
            return ← lv.scan rest { s with pending := some (a.id, []), expect := .value a.id }
        else
          match value with
          | some v =>
            throw (.problem (.extraValue v a.display
              (lv.cmd.usageWith lv.bin lv.cmd.requiredIds (explicitIds s ++ [a.id]))))
          | none =>
            let s ← lv.react s a [] false
            return ← lv.scan rest { s with expect := .free }
    if w.startsWith "-" && w.length ≥ 2 then
      let s ← lv.shorts s (w.drop 1).toString.toList
      return ← lv.scan rest s
    if let .value id := s.expect then
      let pending := match s.pending with
        | some (pid, vs) => if pid == id then some (pid, vs ++ [w]) else some (id, [w])
        | none => some (id, [w])
      return ← lv.scan rest { s with pending, expect := .free }
    let s ← lv.placeValue s w
    lv.scan rest s

/-- The arguments an argument requires, and theirs. -/
def companions (lv : Level) (id : String) : List String := lv.cmd.requiredBy lv.cmd.args.length id

/-- Checks that every required argument was given. -/
def checkRequired (lv : Level) (s : Scan) : Except Stop Unit := do
  let given := explicitIds s
  let required := (lv.cmd.requiredIds ++ given.flatMap lv.companions).eraseDups
  let missing := required.filter fun id => !present s id
  let conditional := (lv.cmd.args.filter fun a =>
    !present s a.id && !a.requiredUnless.isEmpty && !a.requiredUnless.any (present s)).map (·.id)
  let missing := missing ++ conditional
  let places := lv.cmd.positionals.zipIdx
  let highest := missing.foldl (fun m id =>
    match places.find? (·.1.id == id) with
    | some (_, i) => max m (i + 1)
    | none => m) 0
  let earlier := (places.filter fun (p, i) => !present s p.id && i + 1 < highest).map (·.1.id)
  let missing := missing ++ earlier
  if missing.isEmpty then return ()
  let listed := (lv.cmd.unrolled required missing).filter (!present s ·)
  let args := listed.filterMap lv.cmd.find?
  let named := ((args.filter fun a => !a.positional).map (·.styled true)).eraseDups
  let byPlace := (places.filter fun (p, _) => listed.contains p.id).map (·.1.styled true)
  throw (.problem (.missing (named ++ byPlace) (lv.cmd.usageWith lv.bin required (given ++ missing))))

/-- The default values of the arguments not given: a switch is off. -/
def defaults (lv : Level) (s : Scan) : List Given :=
  (lv.cmd.args.filter fun a => !s.given.any (·.id == a.id)).filterMap fun a =>
    if a.action == .flag then some { id := a.id, values := ["false"], explicit := false }
    else a.default.map fun d => { id := a.id, values := [d], explicit := false }

/-- Reads a command's words, then its subcommand's; `fuel` bounds the depth. -/
def read : Nat → Level → List String → Except Stop Matches
  | 0, _, _ => pure {}
  | fuel + 1, lv, words => do
    let (s, next) ← lv.scan words {}
    let sub ← match next with
      | some (sc, rest) => do
        let m ← read fuel { cmd := sc, bin := lv.bin ++ " " ++ sc.name } rest
        pure (some (sc.name, m))
      | none => pure none
    let s ← lv.resolve s
    if sub.isNone && lv.cmd.needsSubcommand then
      if (explicitIds s).isEmpty then throw (.helpInstead (lv.cmd.helpOf lv.bin false))
      throw (.problem (.missingSubcommand lv.bin lv.cmd.subcommandNames (lv.cmd.fullUsage lv.bin)))
    lv.checkRequired s
    pure { given := s.given ++ lv.defaults s, sub }

end Level

/-- Reads a command line for a command called `bin`. -/
def Command.parse (c : Command) (bin : String) (words : List String) : Except Stop Matches :=
  Level.read (words.length + 1) { cmd := c.ready, bin } words

namespace Matches

/-- The values an argument was given at this command. -/
def values? (m : Matches) (id : String) : Option (List String) :=
  (m.given.find? (·.id == id)).map (·.values)

/-- The one value of an argument at this command. -/
def value? (m : Matches) (id : String) : Option String := (m.values? id).bind List.head?

/-- Whether a switch is on at this command. -/
def flag (m : Matches) (id : String) : Bool := m.value? id == some "true"

/-- The value given explicitly deepest on the chosen path; `fuel` bounds the depth. -/
def explicitValue? : Nat → Matches → String → Option String
  | 0, _, _ => none
  | fuel + 1, m, id =>
    let below := match m.sub with
      | some (_, s) => explicitValue? fuel s id
      | none => none
    below <|> (m.given.find? fun g => g.id == id && g.explicit).bind (·.values.head?)

/-- The value of a global argument: the one given deepest on the chosen path, else its
default. -/
def globalValue? (m : Matches) (id : String) : Option String :=
  explicitValue? 8 m id <|> m.value? id

end Matches

end SubtitleQueue.Cli
