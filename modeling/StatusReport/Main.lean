import StatusReport.Command.Arguments
import StatusReport.Command.Run

/-! # The program

The program reads the files that a request names, runs the request on what they hold, and writes
what came of it. A report goes to the standard output and an error to the standard error.
-/

namespace StatusReport.Program

open Text (Bytes)

/-! ## Reading -/

def readError (e : IO.Error) : ReadError :=
  match e with
  | .noFileOrDirectory .. => .notFound
  | .inappropriateType _ 21 _ => .isADirectory
  | .inappropriateType _ 20 _ => .notADirectory
  | e => .other (toString e)

def bytesOfFile (path : String) : IO (Except ReadError Bytes) := do
  try
    return .ok (← IO.FS.readBinFile path).toList
  catch e =>
    return .error (readError e)

partial def bytesOfStream (stream : IO.FS.Stream) (read : ByteArray) : IO ByteArray := do
  let chunk ← stream.read 65536
  if chunk.isEmpty then return read else bytesOfStream stream (read ++ chunk)

/-- Where settings are looked for: here, then in the home directory. -/
def settingsPaths : IO (List String) := do
  match ← IO.getEnv "HOME" with
  | some home => return [settingsFileName, home ++ "/" ++ settingsFileName]
  | none => return [settingsFileName]

def environment (request : Request) : IO Environment := do
  let settingsPaths ← settingsPaths
  let files ← (request.paths settingsPaths).mapM fun path => do
    return (path, ← bytesOfFile path)
  let input ←
    if request.readsInput then bytesOfStream (← IO.getStdin) .empty else pure .empty
  let color := (← (← IO.getStdout).isTty) && (← IO.getEnv "NO_COLOR").isNone
  return {
    file := fun path => (files.lookup path).getD (.error .notFound)
    input := input.toList
    settingsPaths
    color }

/-! ## Writing -/

def usage : String :=
  "Usage: status-report [-c FILE] [-v]... [-q] <COMMAND>\n\n" ++
  "Commands:\n" ++
  "  table   -l FILE [-i FILE] [--show PATHS] [--hide PATHS] [--hide-all]\n" ++
  "  detail  -l FILE [-i FILE] [--index N] [--show PATHS] [--hide PATHS] [--hide-all]\n" ++
  "  check   -l FILE [--show PATHS] [--hide PATHS] [--hide-all]\n"

def version : String := "status-report 0.1.0\n"

def describe : UsageError → String
  | .unknownArgument => "unexpected argument"
  | .unknownCommand => "unrecognized subcommand"
  | .missingArgument => "a required argument is missing"
  | .missingCommand => "a subcommand is missing"
  | .invalidValue => "a value is required"
  | .malformedValue => "invalid value"
  | .unneededValue => "unexpected value"
  | .repeatedOption => "an argument cannot be used multiple times"
  | .help => "help requested"
  | .nothingAsked => "a subcommand is missing"
  | .version => "version requested"

def answerUsage (e : UsageError) : IO UInt32 := do
  match e with
  | .help => IO.print usage; return 0
  | .version => IO.print version; return 0
  | .nothingAsked => IO.eprint usage; return 2
  | e => IO.eprint ("error: " ++ describe e ++ "\n\n" ++ usage); return 2

def answer (request : Request) : IO UInt32 := do
  let env ← environment request
  let (out, result) := request.run env ({} : Transcript)
  IO.print out.received
  match result with
  | .ok () => return 0
  | .error e => IO.eprint ("Error: " ++ e.message ++ "\n"); return 1

end StatusReport.Program

def main (args : List String) : IO UInt32 :=
  match StatusReport.Request.ofArguments args with
  | .error e => StatusReport.Program.answerUsage e
  | .ok request => StatusReport.Program.answer request
