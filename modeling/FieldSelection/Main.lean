import FieldSelection.Cli.Program
/-!
# The command-line program

`main` runs the program on the real file system: files are read and written relative to the
working directory, standard input is read whole when the document comes from it, and what the
program printed goes to standard output and standard error before it exits with its status.
-/

namespace FieldSelection.Cli

/-- The file fault of a system error. -/
def faultOfError : IO.Error → FileFault
  | .noFileOrDirectory _ _ _ => .notFound
  | .inappropriateType _ 21 _ => .isDirectory
  | .inappropriateType _ 20 _ => .notDirectory
  | .inappropriateType _ c d => .other d c.toNat
  | .permissionDenied _ c _ => .other "Permission denied" c.toNat
  | .alreadyExists _ c d => .other d c.toNat
  | .otherError c d => .other d c.toNat
  | .resourceBusy c d => .other d c.toNat
  | .invalidArgument _ c d => .other d c.toNat
  | e => .other (toString e) 0

instance : Host IO where
  readFile p := do
    try pure (.ok (← IO.FS.readFile p))
    catch e => pure (.error (faultOfError e))
  writeFile p content := do
    try
      IO.FS.writeFile p content
      pure (.ok ())
    catch e => pure (.error (faultOfError e))
  readInput := do (← IO.getStdin).readToEnd

/-- The environment variables the program reads, from the process environment. -/
def environment : IO Environment := do
  return { configFile := ← IO.getEnv "FIELD_FILTER_CONFIG"
           logFilter := ← IO.getEnv "RUST_LOG"
           noColor := ← IO.getEnv "NO_COLOR"
           colorForce := ← IO.getEnv "CLICOLOR_FORCE" }

end FieldSelection.Cli

/-- Runs the program on the command line. -/
def main (args : List String) : IO UInt32 := do
  let out ← FieldSelection.Cli.run (← FieldSelection.Cli.environment) args
  let stdout ← IO.getStdout
  stdout.putStr out.stdout
  stdout.flush
  let stderr ← IO.getStderr
  stderr.putStr out.stderr
  stderr.flush
  return out.status.toUInt32
