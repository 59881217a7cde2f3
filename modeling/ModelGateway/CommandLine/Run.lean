import ModelGateway.CommandLine.Action
import ModelGateway.CommandLine.Command

/-!
# Running commands

Every command is an action that ends with an exit code. An error of the gateway ends a command with
its message and code 2; any other reason to stop escapes.
-/
namespace ModelGateway.CommandLine

inductive Ending where
  | exit (code : Nat)
  | escape (why : Abort)
  deriving DecidableEq, Repr

/-- The exit code when there is no command to run. -/
def Stop.exitCode : Stop → Nat
  | help => 0
  | misuse => 2

namespace Action

/-- A route as the list of models shows it. -/
def routeLine (r : Route) : String :=
  s!"{r.provider}.{r.familyPrefix}*\t{r.adapter.name}\t" ++
    ",".intercalate (r.capabilities.map Capability.name)

def listModels (s : Surroundings) : Action Nat := do
  Registry.standard.routes.forM fun r => print s (routeLine r)
  return 0

/-- The payload of a request, made without calling the model. -/
def payload (modelId : String) (kind : RequestKind) (input width height : Value)
    (settings : Settings) (route : Route) : Except Fault Object :=
  match kind with
  | .text => do
    (← Fault.ofGateway (route.require .textGeneration)).adapter.textRequest modelId input settings
  | .chat => do
    (← Fault.ofGateway (route.require .chat)).adapter.converseRequest modelId
      (History.addUser ⟨[]⟩ input).turns settings
  | .embedding => do
    (← Fault.ofGateway (route.require .embedding)).adapter.embeddingRequest modelId input
  | .image => do
    (← Fault.ofGateway (route.require .textToImage)).adapter.imageRequest modelId input
      width height settings

def encode (s : Surroundings) (modelId : String) (kind : RequestKind) (input width height : Value)
    (given : Option String) : Action Nat := do
  let route ← ofGateway (Registry.standard.find (.text modelId))
  let settings ← settings given
  let request ← ofOutcome .fault (payload modelId kind input width height settings route)
  if Object.canWrite request then
    print s (Json.render .indented (.object request))
    return 0
  else throw (.fault (.conversion .notWritable))

def generate (s : Surroundings) (c : EffectiveConfig) (named : Option String) (prompt : Value)
    (given : Option String) (stream : Bool) : Action Nat := do
  let modelId ← model named "text_model" c.textModel
  let invoker ← connect s c
  let client ← ofGateway
    (Client.bind .textGeneration Registry.standard modelId c.strictDecoding c.logEvents)
  let settings ← settings given
  if stream then
    printStream s client invoker (← ofOutcome .fault (client.openText prompt settings))
  else
    (← session s (client.generate invoker prompt settings)).forM fun item => print s item.text
  return 0

/-- The conversation that the arguments make: the system text, unless it is empty, and what the
user says. -/
def conversation (system : Option String) (messages : List Value) : History :=
  let start : History :=
    match system.filter (· ≠ "") with
    | some text => History.addSystem ⟨[]⟩ (.text text)
    | none => ⟨[]⟩
  messages.foldl History.addUser start

def chat (s : Surroundings) (c : EffectiveConfig) (named system : Option String)
    (messages : List Value) (given : Option String) (stream : Bool) : Action Nat := do
  let modelId ← model named "chat_model" c.chatModel
  let invoker ← connect s c
  let client ← ofGateway (Client.bind .chat Registry.standard modelId false c.logEvents)
  let settings ← settings given
  let turns := (conversation system messages).turns
  if stream then
    printStream s client invoker (← ofOutcome .fault (client.openChat turns settings))
  else
    (← session s (client.complete invoker turns settings)).forM fun reply => print s reply.content
  return 0

def embed (s : Surroundings) (c : EffectiveConfig) (named : Option String)
    (texts : List String) : Action Nat := do
  let modelId ← model named "embedding_model" c.embeddingModel
  let invoker ← connect s c
  let client ← ofGateway
    (Client.bind .embedding Registry.standard modelId c.strictDecoding c.logEvents)
  let vectors ← session s (client.embed invoker (.list (texts.map .text)))
  vectors.forM fun vector => print s (Json.render .line (.list (vector.map .float)))
  return 0

/-- Shows an image: in the file that is named, otherwise as text. -/
def showImage (s : Surroundings) (result : ImageResult) (output : Option String) : Action Unit :=
  match output.filter (· ≠ "") with
  | some path => do
    writeFile s path (← ofOutcome .image (Base64.decode (result.base64.getD "")))
    print s s!"Wrote {path}"
  | none => print s result.message

def image (s : Surroundings) (c : EffectiveConfig) (named : Option String)
    (description width height : Value) (given output : Option String) : Action Nat := do
  let modelId ← model named "image_model" c.imageModel
  let invoker ← connect s c
  let client ← ofGateway
    (Client.bind .textToImage Registry.standard modelId c.strictDecoding c.logEvents)
  let settings ← settings given
  let result ← session s
    (client.generateImage invoker description width height settings)
  if result.ok then
    showImage s result output
    return 0
  else
    printError result.message
    return 1

end Action

/-- The action of a command, with its exit code. -/
def Arguments.action (s : Surroundings) (line : Arguments) : Action Nat :=
  match line.command with
  | .models => Action.listModels s
  | .encode modelId kind input width height settings =>
    Action.encode s modelId kind input width height settings
  | .generate modelId prompt settings stream => do
    Action.generate s (← Action.config s line.config) modelId prompt settings stream
  | .chat modelId system messages settings stream => do
    Action.chat s (← Action.config s line.config) modelId system messages settings stream
  | .embed modelId texts => do
    Action.embed s (← Action.config s line.config) modelId texts
  | .image modelId description width height settings output => do
    Action.image s (← Action.config s line.config) modelId description width height settings output

def Arguments.run (s : Surroundings) (line : Arguments) : Ending × Report :=
  match (line.action s).run Report.empty with
  | (.ok code, report) => (.exit code, report)
  | (.error (.fault (.gateway e)), report) =>
    (.exit 2, { report with stderr := report.stderr ++ s!"error: {e.message}\n" })
  | (.error why, report) => (.escape why, report)

end ModelGateway.CommandLine
