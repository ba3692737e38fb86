import SubtitleQueue.Console.Serve
import SubtitleQueue.Console.Terminal
import SubtitleQueue.Cli.Complete
import SubtitleQueue.Process.Schedule

/-!
One run of the program, from its words to what it wrote and how it ended.

A command line that asks for help or the version is answered on the output stream; one that
cannot be read is refused with exit code 2. Completion scripts need nothing else. Every other
command reads the configuration (the level given on the command line replacing the
configured one), checks it, opens the queue and carries the command out; the first failure
ends the program with exit code 1. The database is written back to its file whatever
happened, and the clock moves on by a second between runs.
-/

namespace SubtitleQueue.Console

open Store Config

/-- How many turns of its tasks one run may take before it counts as hung. -/
def programTurns : Nat := 1000000

/-- The time between two runs of the program, in milliseconds. -/
def pauseBetweenRuns : Nat := 1000

/-- Prepares the opened queue and carries out a command. -/
def carryOut (h : Host) (c : Config) : Order → Work Unit
  | .run sweep => do Work.act (prepareQueue c); serve h c sweep
  | order => do Work.act (prepareQueue c); perform h order

/-- Reads the configuration, opens the queue and carries out a command, writing on a terminal
that already holds the configuration's warnings. -/
def startAndCarryOut (h : Host) (m : Machine) (configPath : String) (level : Option LogLevel)
    (order : Order) : Machine × Exit :=
  let (disk, warnings, loaded) := loadConfig h m.disk configPath
  let m := { m with disk }
  let t := ({} : Terminal).log warnings
  match loaded with
  | .error f => (m, t.fail f)
  | .ok c =>
    let c := { c with logLevel := level.getD c.logLevel }
    let t := { t with threshold := c.logLevel }
    match c.check with
    | .error f => (m, t.fail (f.within "Configuration validation failed"))
    | .ok () =>
      let (file, shown) := databaseOf h c
      let o := openFileAt m.disk m.shelf file shown m.clock
      let t := t.log o.log.toList
      let m := { m with disk := o.disk, shelf := o.shelf }
      match o.result with
      | .error f => (m, t.fail f)
      | .ok store =>
        let world : World :=
          { clock := m.clock, disk := m.disk, store, settings := .stored,
            sink := .reporter true true, meter := some (meterOf c.provider) }
        let work := (ExceptT.run (carryOut h c order)).run #[]
        let limit := m.clock + h.lifetime.getD (programTurns * 1000)
        let (w, r) := Process.runMainBefore programTurns limit world World.stopTask work
        let (disk, shelf) := saveFile w.disk m.shelf file w.store
        let m := { disk, shelf, clock := w.clock + pauseBetweenRuns }
        let t := t.log w.log.toList
        match r with
        | some (result, printed) => (m, (t.print printed.toList).finish result)
        | none => (m, { ending := .killed, out := t.out, err := t.err })

/-- Runs the program once with its words. -/
def runProgram (h : Host) (m : Machine) (words : List String) : Machine × Exit :=
  match readCommandLine words with
  | .error (.help text) => (m, { ending := .code 0, out := text })
  | .error (.version text) => (m, { ending := .code 0, out := text })
  | .error (.helpInstead text) => (m, { ending := .code 2, err := text })
  | .error (.problem p) => (m, { ending := .code 2, err := p.render })
  | .ok inv =>
    match inv.order with
    | .completions sh => (m, { ending := .code 0, out := Cli.Shell.script sh grammar programName })
    | order => startAndCarryOut h m inv.configPath inv.logLevel order

end SubtitleQueue.Console
