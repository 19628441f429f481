import ConfigBar.Command.Run
/-!
# The program

Reads the arguments and the environment, opens the file of the log, reads the project file, and
writes what the run says.
-/

namespace ConfigBar

/-- An error of the system as an error of a file. -/
def FileError.ofSystem : IO.Error → FileError
  | .noFileOrDirectory .. => .notFound
  | e => .other (toString e)

/-- Makes sure that a file can be appended to. -/
def openLog (path : Option String) : IO (Except FileError Unit) :=
  match path with
  | none => return .ok ()
  | some path => do
    try
      let _ ← IO.FS.Handle.mk path .append
      return .ok ()
    catch e => return .error (.ofSystem e)

/-- Reads the text of a file. -/
def readText (path : String) : IO (Except FileError String) := do
  try
    let bytes ← IO.FS.readBinFile path
    return (String.fromUTF8? bytes).elim (.error .invalidText) .ok
  catch e => return .error (.ofSystem e)

/-- The text of an entry of the log. -/
def LogEntry.text : LogEntry → String
  | .line s => s
  | .object v => v.compress

/-- Writes what a run leaves behind. -/
def Session.write (s : Session) : IO Unit := do
  let log := String.join (s.log.map fun e => e.text ++ "\n")
  match s.logFile with
  | some path => (← IO.FS.Handle.mk path .append).putStr log
  | none => IO.eprint log
  IO.print s.output
  if let some e := s.error then IO.eprintln ("error: " ++ e)

/-- Does a job. -/
def Job.execute (j : Job) : IO UInt32 := do
  let env : Environment := ⟨← IO.getEnv projectVariable, ← IO.getEnv "RUST_LOG"⟩
  let opened ← openLog j.log.file
  let content ← readText (j.projectPath env)
  let session := j.run env opened content
  session.write
  return UInt32.ofNat session.exitCode

end ConfigBar

open ConfigBar in
/-- Runs the program. -/
def main (args : List String) : IO UInt32 :=
  match Invocation.read args with
  | .job j => j.execute
  | .version => do
    IO.print versionText
    return 0
  | .help => do
    IO.println "Usage: layoutcfg [OPTIONS] <devices|themes|locales|resolve>"
    return 0
  | .fault => do
    IO.eprintln "error: wrong arguments; try --help"
    return UInt32.ofNat usageExitCode
