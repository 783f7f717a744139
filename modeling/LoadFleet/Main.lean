import LoadFleet.Process.Program
/-!
# The program at the command line
-/

namespace LoadFleet

/-- The text of a file, if it can be read. -/
def readText? (path : String) : IO (Option String) := do
  try
    return some (← IO.FS.readFile path)
  catch _ => return none

/-- The variables of the environment, taken from a text with a zero after each of them. -/
def variablesOf (text : String) : List (String × String) :=
  (text.splitOn "\x00").filterMap fun entry =>
    match entry.splitOn "=" with
    | name :: value :: more => some (name, "=".intercalate (value :: more))
    | _ => none

/-- When the machine was started, in seconds since the epoch, taken from what the system tells about
itself; the epoch itself when it does not tell. -/
def machineStart (text : String) : Nat :=
  ((text.splitOn "\n").findSome? fun line =>
    match line.splitOn " " with
    | ["btime", seconds] => seconds.toNat?
    | _ => none).getD 0

/-- Prints what the program has to say, and tells its exit code. -/
def conclude (e : Exit) : IO UInt32 := do
  IO.print e.output
  if let some complaint := e.complaint then IO.eprintln s!"Error: {complaint}"
  return e.code.toUInt32

end LoadFleet

open LoadFleet

/-- Reads what a call needs, carries it out and writes its file. -/
def main (args : List String) : IO UInt32 := do
  match CommandLine.read args with
  | .error exit =>
    if let .refused reason := exit then
      IO.eprintln s!"{reason}\nRun {CommandLine.program} --help for more information."
    conclude (Program.early exit)
  | .ok invocation =>
    let texts ← (Program.filesOf invocation).mapM fun path => do
      return (path, ← readText? path)
    let environment ← readText? "/proc/self/environ"
    let uptime ← IO.monoNanosNow
    let system ← readText? "/proc/stat"
    let host : Host :=
      { environment := variablesOf (environment.getD "")
        read := fun path => (texts.lookup path).join
        time := .ofNanos (machineStart (system.getD "") * nanosPerSecond + uptime)
        seed := uptime.toUInt64 }
    let performance := Program.execute invocation host
    match performance.file with
    | none => conclude performance.exit
    | some (path, text) =>
      let written ← try IO.FS.writeFile path text; pure true catch _ => pure false
      conclude (if written then performance.exit else Performance.unwritten path)
