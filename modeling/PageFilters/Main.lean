import PageFilters.Program

/-!
# The command line

The first argument names the program to run; the others are its own.  The
program itself is a function of what is read here.
-/

namespace PageFilters

def Program.ofName? : String → Option Program
  | "syntax-highlighting" => some .source
  | "email-gravatar" => some .email
  | _ => none

namespace CommandLine

def variableNames : List String :=
  ["CGIT_FILTER_CONFIG", "CGIT_FILTER_LOG", "CGIT_REPO_URL", "CGIT_REPO_NAME", "CGIT_REPO_PATH",
    "CGIT_REPO_OWNER", "CGIT_REPO_DEFBRANCH", "CGIT_REPO_SECTION", "CGIT_REPO_CLONE_URL",
    "XDG_CONFIG_HOME", "HOME"]

/-- A reason with the number that the system gives to it. -/
def numbered (code : UInt32) (details : String) : String :=
  details.capitalize ++ " (os error " ++ toString code.toNat ++ ")"

/-- The reason for which the system has refused something. -/
def reason : IO.Error → String
  | .otherError code details | .resourceBusy code details | .resourceVanished code details
  | .unsupportedOperation code details | .hardwareFault code details
  | .unsatisfiedConstraints code details | .illegalOperation code details
  | .protocolError code details | .timeExpired code details => numbered code details
  | .alreadyExists _ code details | .invalidArgument _ code details
  | .permissionDenied _ code details | .resourceExhausted _ code details
  | .inappropriateType _ code details | .noSuchThing _ code details => numbered code details
  | .interrupted _ code details | .noFileOrDirectory _ code details => numbered code details
  | .unexpectedEof => "unexpected end of file"
  | .userError details => details

partial def readAll (stream : IO.FS.Stream) (read : ByteArray) : IO ByteArray := do
  let piece ← stream.read 65536
  if piece.isEmpty then return read
  else readAll stream (read ++ piece)

def environment : IO Environment := do
  let values ← variableNames.mapM fun name => do return (name, ← IO.getEnv name)
  return fun name => (values.lookup name).join.map fun value => Text.encode value.toList

def fileState (path : Path) : IO FileState := do
  try
    return .present (← IO.FS.readBinFile path.shown).toList
  catch
    | .noFileOrDirectory .. => return .missing
    | error => return .unreadable (reason error)

def input : IO (Except String Text.Bytes) := do
  try
    return .ok (← readAll (← IO.getStdin) ByteArray.empty).toList
  catch error =>
    return .error (reason error)

/-- Writes the output of a program.  Where it is refused, the program is asked
again what it does when that happens. -/
def perform (program : Program) (surroundings : Surroundings) : IO UInt32 := do
  let outcome := program.run .bundled surroundings
  let outcome ←
    try
      let stdout ← IO.getStdout
      stdout.write (ByteArray.mk outcome.output.toArray)
      stdout.flush
      pure outcome
    catch error =>
      let output : Sink := { limit := some 0, fullReason := reason error }
      pure (program.run .bundled { surroundings with output })
  (← IO.getStderr).putStr outcome.log
  return UInt32.ofNat outcome.exitCode

end CommandLine

end PageFilters

open PageFilters CommandLine in
/-- Runs the program that the first argument names. -/
def main (arguments : List String) : IO UInt32 := do
  match arguments.head?.bind Program.ofName? with
  | none =>
      (← IO.getStderr).putStrLn "usage: (syntax-highlighting | email-gravatar) [ARGUMENT]..."
      return 2
  | some program =>
      let environment ← environment
      let path := Settings.path environment none
      let file ← fileState path
      perform program {
        arguments := arguments.tail.map fun argument => Text.encode argument.toList
        environment := environment
        input := ← input
        files := fun other => if other == path then file else .missing }
