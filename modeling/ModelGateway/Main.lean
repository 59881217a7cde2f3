import ModelGateway.CommandLine.Run
import Std.Time.DateTime

/-!
# The program

Reads the arguments, the environment, the configuration file and the time, runs the command and
carries out its report. No client of the model service is built in, so the commands that call a
model end with the message that says so.
-/
namespace ModelGateway.Program

open Text (padded)

/-- The environment variables that can matter to a command. -/
def variableNames : List String :=
  ["AWS_REGION", "AWS_PROFILE", "BEDROCK_ENDPOINT_URL", "BEDROCK_TEXT_MODEL",
   "BEDROCK_CHAT_MODEL", "BEDROCK_EMBEDDING_MODEL", "BEDROCK_IMAGE_MODEL",
   "BEDROCK_STRICT_DECODING", "BEDROCK_LOG_EVENTS", "REGION", "ENDPOINT_URL", "PROFILE_NAME"]

def environment : IO Environment :=
  variableNames.filterMapM fun name => do
    return (← IO.getEnv name).map fun text => (name, text)

/-- A moment as text: date and time of day to the microsecond, in UTC. -/
def momentText (t : Std.Time.PlainDateTime) : String :=
  let micros := t.time.nanosecond.val.toNat / 1000
  let date := s!"{padded 4 t.date.year.toInt.toNat}-{padded 2 t.date.month.val.toNat}-" ++
    padded 2 t.date.day.val.toNat
  let time := s!"{padded 2 t.time.hour.val.toNat}:{padded 2 t.time.minute.val.toNat}:" ++
    padded 2 t.time.second.val.toNat
  let fraction := if micros = 0 then "" else "." ++ padded 6 micros
  s!"{date}T{time}{fraction}+00:00"

def now : IO String := do
  let moment ← Std.Time.Timestamp.now
  return momentText (.ofWallTime (.ofNanoseconds moment.toNanosecondsSinceUnixEpoch))

def readFile (path : String) : IO (Except CommandLine.FileFault (Option String)) := do
  try
    match String.fromUTF8? (← IO.FS.readBinFile path) with
    | some text => return .ok (some text)
    | none => return .error .notText
  catch
    | .noFileOrDirectory .. => return .ok none
    | _ => return .error .isDirectory

def abortText : CommandLine.Abort → String
  | .config _ => "the configuration file is not valid"
  | .image _ => "the image is not in base 64"
  | .file _ => "a file could not be used"
  | .output _ => "the standard output could not show a text"
  | .fault _ => "the answer of the model service could not be decoded"

/-- What is shown when help is asked for or the arguments are wrong. -/
def usage : String :=
  "usage: bedrockio [-h] [--config CONFIG] COMMAND [OPTION ...]\n\n" ++
  "  models    List supported model families\n" ++
  "  encode    Print the request body for a model without calling it\n" ++
  "  generate  Generate text from a prompt\n" ++
  "  chat      Chat completion via the Converse API\n" ++
  "  embed     Embed one or more texts\n" ++
  "  image     Generate an image from a description\n"

end ModelGateway.Program

open ModelGateway

def main (args : List String) : IO UInt32 := do
  match CommandLine.parse args with
  | .error stop =>
    match stop with
    | .help => IO.print Program.usage
    | .misuse => IO.eprint Program.usage
    return .ofNat stop.exitCode
  | .ok line =>
    let path := (line.config.filter (· ≠ "")).getD Config.defaultFile
    let file ← Program.readFile path
    let (ending, report) := line.run
      { env := ← Program.environment
        fileText := fun _ => file
        writeFault := fun _ => none
        refusal? := fun _ _ => none
        service := none
        time := ← Program.now }
    IO.print report.stdout
    IO.eprint report.stderr
    if let some (target, octets) := report.written then
      IO.FS.writeBinFile target ⟨octets.toArray⟩
    match ending with
    | .exit code => return .ofNat code
    | .escape why =>
      IO.eprintln (Program.abortText why)
      return 1
