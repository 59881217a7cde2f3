import ModelGateway.Proofs.Client.Stream
import ModelGateway.Proofs.CommandLine.Interruption

/-!
# Commands show all of their output or none

Whatever can fail in a command comes before anything is printed or written, and adds nothing but log
lines to the error output. What comes after that cannot fail where every text is taken, but for writing
an image to a file, which is done before it is announced. Streams are the exception: their fragments are
shown as they come, and a failure leaves those that came before it.

A standard output that refuses a text leaves what came in front of it, so all of this is proved of one
that takes everything and then carried over.
-/
namespace ModelGateway.CommandLine

namespace Action

variable {α β ε : Type} {s : Surroundings}

section
variable (hs : s.TakesAll)
include hs

end

/-! ## Images -/

/-- The result of an image, before any of it is shown. -/
def draw (s : Surroundings) (c : EffectiveConfig) (named : Option String)
    (description width height : Value) (given : Option String) : Action ImageResult := do
  let modelId ← model named "image_model" c.imageModel
  let invoker ← connect s c
  let client ← ofGateway
    (Client.bind .textToImage Registry.standard modelId c.strictDecoding c.logEvents)
  let settings ← settings given
  session s (client.generateImage invoker description width height settings)

/-- What is done with the result of an image. -/
def present (s : Surroundings) (output : Option String) (result : ImageResult) : Action Nat := do
  if result.ok then
    showImage s result output
    return 0
  else
    printError result.message
    return 1

theorem image_eq (c : EffectiveConfig) (named : Option String) (description width height : Value)
    (given output : Option String) :
    image s c named description width height given output =
      draw s c named description width height given >>= present s output := by
  unfold image draw
  simp only [bind_assoc]
  rfl

theorem run_writeFile (path : String) (octets : List UInt8) (r : Report) :
    (writeFile s path octets).run r =
      match s.writeFault path with
      | some f => (.error (.file f), r)
      | none => (.ok (), { r with written := some (path, octets) }) := by
  unfold writeFile
  cases s.writeFault path <;> rfl

/-- What becomes of the result of an image, with the file that it is to be written to. -/
inductive Presented (s : Surroundings) (result : ImageResult) (r : Report) :
    Option String → Except Abort Nat × Report → Prop where
  | unsuccessful {output : Option String} (hstatus : result.status ≠ .success) :
      Presented s result r output (.ok 1, { r with stderr := r.stderr ++ (result.message ++ "\n") })
  | printed (hstatus : result.status = .success) :
      Presented s result r none (.ok 0, { r with stdout := r.stdout ++ (result.message ++ "\n") })
  | undecodable {path : String} {f : Base64.Fault} (hstatus : result.status = .success)
      (hdecode : Base64.decode (result.base64.getD "") = .error f) :
      Presented s result r (some path) (.error (.image f), r)
  | refused {path : String} {f : FileFault} (hstatus : result.status = .success)
      (hfault : s.writeFault path = some f) :
      Presented s result r (some path) (.error (.file f), r)
  | written {path : String} {octets : List UInt8} (hstatus : result.status = .success)
      (hdecode : Base64.decode (result.base64.getD "") = .ok octets)
      (hfault : s.writeFault path = none) :
      Presented s result r (some path) (.ok 0, { r with
        stdout := r.stdout ++ (s!"Wrote {path}" ++ "\n"), written := some (path, octets) })

theorem presented (hs : s.TakesAll) (output : Option String) (result : ImageResult) (r : Report) :
    Presented s result r (output.filter (· ≠ "")) ((present s output result).run r) := by
  unfold present showImage ImageResult.ok
  by_cases hstatus : result.status = .success
  · rw [if_pos (beq_iff_eq.mpr hstatus)]
    rcases output.filter (· ≠ "") with _ | path
    · change Presented s result r none
        ((print s result.message >>= fun _ => (pure 0 : Action Nat)).run r)
      rw [run_bind_of_ok (run_print hs result.message r)]
      exact .printed hstatus
    · rcases hdecode : Base64.decode (result.base64.getD "") with f | octets
      · exact .undecodable hstatus hdecode
      · -- The binds as they are nested in the action, so that they can be taken apart in order.
        change Presented s result r (some path)
          (((writeFile s path octets >>= fun _ => print s s!"Wrote {path}") >>=
            fun _ => (pure 0 : Action Nat)).run r)
        rw [run_bind, run_bind, run_writeFile]
        rcases hfault : s.writeFault path with _ | f
        · dsimp only
          rw [run_print hs]
          exact .written hstatus hdecode hfault
        · exact .refused hstatus hfault
  · rw [if_neg (mt beq_iff_eq.mp hstatus)]
    exact .unsuccessful hstatus

end Action

/-! ## Streams -/

/-- A stream that is about to be shown. -/
structure Opened where
  capability : Capability
  client : Client capability
  invoker : Invoker
  stream : OpenStream

/-- The fragments of a stream that is pulled to its end or to a failure, after earlier calls. -/
def Opened.pulled (o : Opened) (calls : List Call) : List String × Except Fault StreamEnd :=
  ((o.client.pull o.invoker o.stream none).run ⟨calls, []⟩).1

namespace Action

variable {s : Surroundings}

def openText (s : Surroundings) (c : EffectiveConfig) (named : Option String) (prompt : Value)
    (given : Option String) : Action Opened := do
  let modelId ← model named "text_model" c.textModel
  let invoker ← connect s c
  let client ← ofGateway
    (Client.bind .textGeneration Registry.standard modelId c.strictDecoding c.logEvents)
  let settings ← settings given
  return ⟨_, client, invoker, ← ofOutcome .fault (client.openText prompt settings)⟩

def openChat (s : Surroundings) (c : EffectiveConfig) (named system : Option String)
    (messages : List Value) (given : Option String) : Action Opened := do
  let modelId ← model named "chat_model" c.chatModel
  let invoker ← connect s c
  let client ← ofGateway (Client.bind .chat Registry.standard modelId false c.logEvents)
  let settings ← settings given
  return ⟨_, client, invoker,
    ← ofOutcome .fault (client.openChat (conversation system messages).turns settings)⟩

/-- Shows a stream as the last thing of a command. -/
def follow (s : Surroundings) (o : Opened) : Action Nat := do
  printStream s o.client o.invoker o.stream
  return 0

/-- What becomes of a stream that is followed. -/
inductive Followed (s : Surroundings) (o : Opened) (r : Report) :
    Except Abort Nat × Report → Prop where
  | cut {fragments : List String} {f : Fault} {calls : List Call} {events : List Event}
      (hpulled : o.pulled r.calls = (fragments, .error f)) :
      Followed s o r (.error (.fault f), { r with
        stdout := r.stdout ++ String.join fragments, calls := calls,
        stderr := r.stderr ++ logText s events })
  | ended {fragments : List String} {ending : StreamEnd} {calls : List Call} {events : List Event}
      (hpulled : o.pulled r.calls = (fragments, .ok ending)) :
      Followed s o r (.ok 0, { r with
        stdout := r.stdout ++ String.join fragments ++ "\n", calls := calls,
        stderr := r.stderr ++ logText s events })

/-- That an action shows the fragments of a stream as they are pulled, and ends as the stream does. -/
def Shows (s : Surroundings) (action : Action Unit)
    (pull : StateM Journal (List String × Except Fault StreamEnd)) : Prop :=
  ∀ r : Report, action.run r =
    (((pull.run ⟨r.calls, []⟩).1.2.mapError Abort.fault).map fun _ => (), { r with
      stdout := r.stdout ++ String.join (pull.run ⟨r.calls, []⟩).1.1
      calls := (pull.run ⟨r.calls, []⟩).2.calls
      stderr := r.stderr ++ logText s (pull.run ⟨r.calls, []⟩).2.events })

section
variable (hs : s.TakesAll) {capability : Capability} {client : Client capability} {invoker : Invoker}
include hs

/-- A step of the loop over a stream: nothing is logged in front of a fragment, so the log lines are
those of the rest. -/
theorem shows_showNext (stream : Stream) {goOn : Stream → Action Unit}
    {pull : Stream → StateM Journal (List String × Except Fault StreamEnd)}
    (h : ∀ rest, Shows s (goOn rest) (pull rest)) :
    Shows s (showNext s client invoker stream goOn) (client.proceed invoker stream pull) := by
  intro r
  unfold showNext
  rw [run_bind, run_session]
  rcases hnext : (client.next invoker stream).run ⟨r.calls, []⟩ with ⟨f | _ | ⟨fragment, rest⟩, j⟩
  · rw [Client.run_proceed_of_error client invoker hnext, String.join_nil, String.append_empty]
    rfl
  · rw [Client.run_proceed_of_finished client invoker hnext, String.join_nil, String.append_empty]
    rfl
  · obtain ⟨calls, events⟩ := j
    obtain rfl : events = [] := client.events_of_next invoker hnext
    rw [Client.run_proceed_of_fragment client invoker hnext, String.join_cons, ← String.append_assoc]
    change (write s fragment >>= fun _ => goOn rest).run { r with
      calls := calls, stderr := r.stderr ++ logText s [] } = _
    rw [run_bind_of_ok (run_write_of_taken (hs _ _)), h rest, logText_nil, String.append_empty]

theorem shows_showUpTo (n : Nat) (stream : Stream) :
    Shows s (showUpTo s client invoker n stream) (client.pullUpTo invoker n stream) := by
  induction n generalizing stream with
  | zero =>
    intro r
    change (Except.ok (), r) = (.ok (), { r with
      stdout := r.stdout ++ String.join [], stderr := r.stderr ++ logText s [] })
    rw [String.join_nil, logText_nil, String.append_empty, String.append_empty]
  | succ n ih => exact shows_showNext hs stream ih

theorem followed (o : Opened) (r : Report) : Followed s o r ((follow s o).run r) := by
  let journal := ((o.client.pull o.invoker o.stream none).run ⟨r.calls, []⟩).2
  have hshown : (showNext s o.client o.invoker (.opened o.stream) fun rest =>
      showUpTo s o.client o.invoker (rest.pending + 1) rest).run r =
        (((o.pulled r.calls).2.mapError .fault).map fun _ => (), { r with
          stdout := r.stdout ++ String.join (o.pulled r.calls).1
          calls := journal.calls, stderr := r.stderr ++ logText s journal.events }) :=
    shows_showNext hs _ (fun rest => shows_showUpTo hs (rest.pending + 1) rest) r
  unfold follow printStream
  rcases hpulled : o.pulled r.calls with ⟨fragments, f | _⟩
  · rw [hpulled] at hshown
    rw [run_bind_of_error (run_bind_of_error hshown)]
    exact .cut hpulled
  · rw [hpulled] at hshown
    rw [bind_assoc, run_bind_of_ok hshown, run_bind_of_ok (run_write_of_taken (hs _ _))]
    exact .ended hpulled

end

end Action

/-! ## Whole commands -/

namespace Ending

/-- How a command ends whose action has an outcome. -/
def ofOutcome : Except Abort Nat → Ending
  | .ok code => exit code
  | .error (.fault (.gateway _)) => exit 2
  | .error why => escape why

end Ending

namespace Arguments

variable {s : Surroundings} {line : Arguments}

/-- The stream of a command that streams. -/
def opening? (s : Surroundings) (line : Arguments) : Option (Action Opened) :=
  match line.command with
  | .generate modelId prompt settings true => some do
    Action.openText s (← Action.config s line.config) modelId prompt settings
  | .chat modelId system messages settings true => some do
    Action.openChat s (← Action.config s line.config) modelId system messages settings
  | _ => none

/-- The image of a command that asks for one. -/
def drawing? (s : Surroundings) (line : Arguments) : Option (Action ImageResult) :=
  match line.command with
  | .image modelId description width height settings _ => some do
    Action.draw s (← Action.config s line.config) modelId description width height settings
  | _ => none

/-- The file that an image is to be written to. -/
def output? (line : Arguments) : Option String :=
  match line.command with
  | .image _ _ _ _ _ output => output.filter (· ≠ "")
  | _ => none

/-- The fragments of a command that streams and how they end, or why it has no stream. -/
def pulled? (s : Surroundings) (line : Arguments) :
    Option (Except Abort (List String × Except Fault StreamEnd)) :=
  (line.opening? s).map fun opening =>
    match opening.run .empty with
    | (.ok o, r) => .ok (o.pulled r.calls)
    | (.error why, _) => .error why

/-- The result that a command gets when it asks for an image. -/
def drawn? (s : Surroundings) (line : Arguments) : Option ImageResult :=
  (line.drawing? s).bind fun drawing => (drawing.run .empty).1.toOption

/-- What can happen in a run of a command: it stops before it shows anything, it shows all there is
to show, or it is left with a stream to follow or with an image to present. -/
inductive Ran (s : Surroundings) (line : Arguments) : Except Abort Nat × Report → Prop where
  | stopped {why : Abort} {r : Report} (hlogged : Report.empty.LoggedSince s r)
      (hpulled : ∀ p, line.pulled? s = some p → p = .error why)
      (hdrawn : line.drawn? s = none) : Ran s line (.error why, r)
  | shown {r : Report} (hwritten : r.written = none) (hpulled : line.pulled? s = none)
      (hdrawn : line.drawn? s = none) : Ran s line (.ok 0, r)
  | followed {o : Opened} {r : Report} {p : Except Abort Nat × Report}
      (hlogged : Report.empty.LoggedSince s r)
      (hpulled : line.pulled? s = some (.ok (o.pulled r.calls)))
      (hdrawn : line.drawn? s = none) (h : Action.Followed s o r p) : Ran s line p
  | presented {result : ImageResult} {output : Option String} {r : Report}
      {p : Except Abort Nat × Report} (hlogged : Report.empty.LoggedSince s r)
      (hpulled : line.pulled? s = none) (hdrawn : line.drawn? s = some result)
      (houtput : line.output? = output) (h : Action.Presented s result r output p) : Ran s line p

namespace Ran

variable {p : Except Abort Nat × Report}

/-- The error output of a command that is cut short holds log lines only. -/
theorem logged (h : line.Ran s p) {why : Abort} (hp : p.1 = .error why) :
    ∃ events, p.2.stderr = logText s events := by
  cases h with
  | stopped hlogged => exact hlogged.stderr_of_empty
  | shown => cases hp
  | followed hlogged _ _ h =>
    obtain ⟨events, hevents⟩ := hlogged.stderr_of_empty
    cases h with
    | @cut _ _ _ more =>
      refine ⟨events ++ more, ?_⟩
      rw [logText_append, ← hevents]
    | ended => cases hp
  | presented hlogged _ _ _ h =>
    cases h with
    | unsuccessful | printed | written => cases hp
    | undecodable | refused => exact hlogged.stderr_of_empty

end Ran

end Arguments

/-- A place whose standard output has codes for ASCII only, with a model that answers two texts. -/
def asciiOutput : Surroundings where
  env := []
  fileText _ := .ok none
  writeFault _ := none
  refusal? _ text :=
    if text.toList.all (·.toNat < 128) then none
    else some ⟨"UnicodeEncodeError", "ordinal not in range(128)"⟩
  service := some
    { invoke := fun _ _ => .ok (.octets (Object.encodeBody
        [("outputs", .list [.object [("text", .text "a")], .object [("text", .text "é")]])]))
      invokeStream := fun _ _ => .ok ⟨[], none⟩
      converse := fun _ _ => .ok .null
      converseStream := fun _ _ => .ok ⟨[], none⟩ }
  time := ""

/-- The second text is refused, and the first is out already. -/
example :
    let line : Arguments :=
      ⟨none, .generate (some "mistral.mistral-7b-instruct-v0:2") (.text "hi") none false⟩
    (line.run asciiOutput).1 =
        .escape (.output ⟨"UnicodeEncodeError", "ordinal not in range(128)"⟩) ∧
      (line.run asciiOutput).2.stdout = "a\n" := by
  decide +kernel

end ModelGateway.CommandLine
