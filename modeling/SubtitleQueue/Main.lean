import SubtitleQueue.Console.Program

/-!
The command line. The program runs once with the given words on a machine of its own, which
holds nothing but the working folder; what it writes goes to the two streams, and its exit code
is the process's. The working folder, the home folder and the temporary folder come from the
environment.
-/

open SubtitleQueue Console

/-- The media tools of a machine that has none installed. -/
def noTools : Extraction.Tools :=
  { prober := none, converter := none, probeTimeout := 60000, extractTimeout := 120000 }

/-- The exit status of a run: its code, or that of a killed process. -/
def exitStatus : Ending → UInt32
  | .code n => n.toNat.toUInt32
  | .killed => 137

/-- Runs the program once with the command line's words. -/
def main (args : List String) : IO UInt32 := do
  let cwd := (← IO.getEnv "PWD").getD "/"
  let home := (← IO.getEnv "HOME").getD "/"
  let temp := (← IO.getEnv "TMPDIR").getD "/tmp"
  let host : Host :=
    { cwd, dataDir := Files.join home ".local/share", tempDir := temp, tools := noTools }
  let disk := (Files.Disk.createDirAll {} cwd).toOption.getD {}
  let (_, exit) := runProgram host { disk } args
  IO.print exit.out
  IO.eprint exit.err
  return exitStatus exit.ending
