import ModelGateway.Base64
import ModelGateway.Client
import ModelGateway.CommandLine.Grammar
import ModelGateway.Config
import ModelGateway.Service

/-!
# What commands see and do

A command runs in surroundings that hold everything it can see: the environment, the files, the
standard output, the time and the model service. Its report holds everything it does: what it prints,
the connection and the calls it makes, and the file it writes. An action is a step of a command; it
writes in the report whether or not it is cut short.
-/
namespace ModelGateway.CommandLine

inductive FileFault where
  | notFound
  | isDirectory
  /-- A part of the path in front of the last is a file. -/
  | notDirectory
  /-- A part of the path, or the whole path, is longer than the system allows. -/
  | tooLong
  /-- The path holds a character that no path may hold. -/
  | badName
  | notText
  deriving DecidableEq, Repr

structure Surroundings where
  env : Environment
  /-- The text of the file at a path, if there is one. -/
  fileText : String → Except FileFault (Option String)
  /-- Why no file can be written at a path. -/
  writeFault : String → Option FileFault
  /-- Why the standard output, when it shows one text, does not take another: a character of it, or half
  of a surrogate pair, may have no code there. What is refused is refused as a whole. -/
  refusal? : (shown text : String) → Option Foreign
  /-- The service's client, unless it is not installed. -/
  service : Option Service
  time : String

inductive Abort where
  | fault (f : Fault)
  | config (f : Toml.Fault)
  | image (f : Base64.Fault)
  | file (f : FileFault)
  /-- The standard output does not take a text. -/
  | output (f : Foreign)
  deriving DecidableEq, Repr

structure Report where
  stdout : String
  stderr : String
  connection : Option Connection
  calls : List Call
  written : Option (String × List UInt8)
  deriving Repr

def Report.empty : Report := ⟨"", "", none, [], none⟩

abbrev Action := ExceptT Abort (StateM Report)

namespace Action

def update (f : Report → Report) : Action Unit := ExceptT.mk fun r => (.ok (), f r)

/-- Hands a text to the standard output. -/
def write (s : Surroundings) (text : String) : Action Unit := ExceptT.mk fun r =>
  match s.refusal? r.stdout text with
  | some why => (.error (.output why), r)
  | none => (.ok (), { r with stdout := r.stdout ++ text })

/-- Writes to the error output, which takes every text. -/
def writeError (text : String) : Action Unit :=
  update fun r => { r with stderr := r.stderr ++ text }

def print (s : Surroundings) (line : String) : Action Unit := do
  write s line
  write s "\n"

def printError (line : String) : Action Unit := writeError (line ++ "\n")

/-- An outcome whose failures are read as reasons to stop. -/
def ofOutcome (why : ε → Abort) (outcome : Except ε α) : Action α :=
  ExceptT.mk (pure (outcome.mapError why))

def ofGateway (outcome : Except GatewayError α) : Action α :=
  ofOutcome (fun e => .fault (.gateway e)) outcome

/-- Runs what writes a journal: the calls go into the report and the events to the error output. -/
def journaled (s : Surroundings) (session : StateM Journal α) : Action α :=
  ExceptT.mk fun r =>
    let (outcome, journal) := session.run ⟨r.calls, []⟩
    let logged := String.join ((Event.lines s.env s.time journal.events).map (· ++ "\n"))
    (.ok outcome, { r with calls := journal.calls, stderr := r.stderr ++ logged })

def session (s : Surroundings) (operation : Session α) : Action α := do
  ofOutcome Abort.fault (← journaled s operation.run)

/-- Shows the next fragment of a stream and goes on with the rest, unless the stream has ended. -/
def showNext (s : Surroundings) (client : Client capability) (invoker : Invoker) (stream : Stream)
    (goOn : Stream → Action Unit) : Action Unit := do
  match ← session s (client.next invoker stream) with
  | none => return ()
  | some (fragment, rest) =>
    write s fragment
    goOn rest

def showUpTo (s : Surroundings) (client : Client capability) (invoker : Invoker) :
    Nat → Stream → Action Unit
  | 0, _ => return ()
  | wanted + 1, stream => showNext s client invoker stream (showUpTo s client invoker wanted)

/-- Prints the fragments of a stream as they come: after the first there are no more of them than
items. -/
def printStream (s : Surroundings) (client : Client capability) (invoker : Invoker)
    (stream : OpenStream) : Action Unit := do
  showNext s client invoker (.opened stream) fun rest =>
    showUpTo s client invoker (rest.pending + 1) rest
  write s "\n"

/-- The effective configuration: of the named file, or of the default file. -/
def config (s : Surroundings) (named : Option String) : Action EffectiveConfig := do
  let file ← ofOutcome Abort.file (s.fileText ((named.filter (· ≠ "")).getD Config.defaultFile))
  return EffectiveConfig.make (← ofOutcome Abort.config (Config.ofFile file)) s.env

/-- The model that is named, or the configured one. -/
def model (named : Option String) (key : String) (configured : Value) : Action String :=
  match named.filter (· ≠ "") with
  | some modelId => return modelId
  | none =>
    if configured.isTruthy then return configured.display
    else throw (.fault (.gateway (.invalidParameter (.noModel key))))

def connect (s : Surroundings) (c : EffectiveConfig) : Action Invoker :=
  match s.service with
  | some service => do
    update fun r => { r with connection := some (.ofOptions (some c.toObject) s.env) }
    return service.invoker
  | none => throw (.fault (.gateway .noServiceClient))

/-- The settings in the text of a JSON object; the empty text holds none. -/
def settings (given : Option String) : Action Settings :=
  match given.filter (· ≠ "") with
  | none => return none
  | some text =>
    match Json.parse text with
    | .ok (.object o) => return some o
    | .ok _ => throw (.fault (.gateway (.invalidParameter .settingsNotObject)))
    | .error f => throw (.fault (.gateway (.invalidParameter (.settingsNotJson f))))

def writeFile (s : Surroundings) (path : String) (octets : List UInt8) : Action Unit :=
  match s.writeFault path with
  | some f => throw (.file f)
  | none => update fun r => { r with written := some (path, octets) }

end Action
end ModelGateway.CommandLine
