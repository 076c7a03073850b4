import RestQuery.Cli.Session

/-!
# The command

Reads the configuration file named by the arguments, then either answers the
request line given on the command line or answers the lines of standard
input one by one as they arrive.  Everything it decides is in `Cli`; this
module only reads and writes.
-/

open RestQuery.Cli

/-- What reading a path as text gives on this system. -/
def readConfig (path : String) : IO FileRead := do
  try
    let bytes ← IO.FS.readBinFile path
    match String.fromUTF8? bytes with
    | some text => pure (.text text)
    | none => pure (.failed "stream did not contain valid UTF-8")
  catch e =>
    pure <| match e with
      | .noFileOrDirectory .. => .missing
      | .inappropriateType _ code details => .failed (details ++ " (os error " ++ toString code ++ ")")
      | .permissionDenied _ code details => .failed (details ++ " (os error " ++ toString code ++ ")")
      | .otherError code details => .failed (details ++ " (os error " ++ toString code ++ ")")
      | other => .failed (toString other)

/-- Writes the end of a run and gives its status. -/
def finish (o : Outcome) : IO UInt32 := do
  let out ← IO.getStdout
  out.putStr o.stdout
  out.flush
  let err ← IO.getStderr
  err.putStr o.stderr
  err.flush
  return o.status.toUInt32

/-- Answers the lines of standard input until it ends. -/
partial def serveLines (s : Session) (verbose : Bool) (input output : IO.FS.Stream) : IO Unit := do
  let line ← input.getLine
  if line.isEmpty then return
  output.putStr (s.reply verbose line)
  output.flush
  serveLines s verbose input output

def main (args : List String) : IO UInt32 := do
  let env ← IO.getEnv "UNIVERSAL_QUERY_CONFIG"
  match begin args env with
  | .inl o => finish o
  | .inr o =>
    match launch o (← readConfig o.config) with
    | .finished outcome => finish outcome
    | .serving shown s =>
      let output ← IO.getStdout
      output.putStr shown
      output.flush
      serveLines s o.verbose (← IO.getStdin) output
      return 0
