import ModelGateway.Proofs.Client.Stream
import ModelGateway.Proofs.Decoding.Strictness
import ModelGateway.Proofs.Json.RoundTrip
import ModelGateway.Proofs.Options
import Mathlib.Data.List.Forall2

/-!
# One text, in pieces or whole

A model's text may come in one response or in a stream, cut at any places. The stream gives the
pieces that are not empty, in order; a response gives its text, or the texts of its blocks. Put
together they are the same text, in each format of streams and of responses.
-/
namespace ModelGateway

/-- The fragment that a piece of text gives: none if it is empty. -/
def piece? (t : String) : Option String := if t = "" then none else some t

theorem Value.fragment_text (t : String) : (Value.text t).fragment = piece? t := by
  unfold fragment piece? isTruthy display
  by_cases h : t = ""
  · simp [h]
  · simp [h]

theorem join_filterMap_piece? (ts : List String) :
    String.join (ts.filterMap piece?) = String.join ts := by
  induction ts with
  | nil => rfl
  | cons t ts ih =>
    by_cases h : t = ""
    · simp [piece?, h, ih]
    · simp [piece?, h, ih]

theorem Value.elements_list (items : List Value) : (Value.list items).elements = .ok items := by
  cases items <;> rfl

theorem Value.elementObjects_map_object (objects : List Object) :
    (Value.list (objects.map .object)).elementObjects = .ok objects := by
  rw [elementObjects, elements_list]
  change Except.ok ((objects.map object).filterMap _) = _
  rw [List.filterMap_map]
  exact congrArg _ List.filterMap_some

theorem Value.elementObjects_single (o : Object) :
    (Value.list [.object o]).elementObjects = .ok [o] := elementObjects_map_object [o]

theorem Body.object_of_holds {body : Body} {o : Object} (h : body.Holds o) (strict : Bool) :
    body.object strict = .ok o := by
  rw [object, (decode_eq_ok_iff body o).mpr h]

/-! ## Formats -/

namespace ChatFormat

/-- The chunks of a stream that carry a piece of text. -/
inductive Chunk : ChatFormat → String → Object → Prop where
  | titan {t : String} {o : Object} (h : Object.value o "outputText" = .text t) : Chunk titan t o
  | completion {t : String} {o : Object} (h : Object.value o "completion" = .text t)
      (htype : Object.value o "type" ≠ .text "content_block_delta") : Chunk claude t o
  | delta {t : String} {o : Object} (hcompletion : Object.value o "completion" = .null)
      (htype : Object.value o "type" = .text "content_block_delta")
      (h : (Object.value o "delta").member "text" = .text t) : Chunk claude t o
  | commandR {t : String} {o : Object} (h : Object.value o "text" = .text t) : Chunk commandR t o
  | llama {t : String} {o : Object} (h : Object.value o "generation" = .text t) : Chunk llama t o
  | mistral {t : String} {o output : Object}
      (houtputs : Object.value o "outputs" = .list [.object output])
      (h : Object.value output "text" = .text t) : Chunk mistral t o
  | jamba {t : String} {o choice : Object}
      (hchoices : Object.value o "choices" = .list [.object choice])
      (h : (Object.value choice "delta").member "content" = .text t) : Chunk jamba t o

/-- The content blocks of a Messages response that carry a piece of text. -/
def TextBlock (t : String) (block : Object) : Prop :=
  Object.value block "type" = .text "text" ∧ Object.value block "text" = .text t

/-- The responses that carry a text in pieces, of which all formats but Messages have one. -/
inductive Response : ChatFormat → List String → Object → Prop where
  | titan {t : String} {o result : Object}
      (hresults : Object.value o "results" = .list [.object result])
      (h : Object.value result "outputText" = .text t) : Response titan [t] o
  | completion {t : String} {o : Object} (h : Object.value o "completion" = .text t)
      (hcontent : Object.value o "content" = .null) : Response claude [t] o
  | messages {ts : List String} {o : Object} {blocks : List Object}
      (hcompletion : Object.value o "completion" = .null)
      (hcontent : Object.value o "content" = .list (blocks.map .object))
      (h : List.Forall₂ TextBlock ts blocks) : Response claude ts o
  | commandR {t : String} {o : Object} (h : Object.value o "text" = .text t) :
      Response commandR [t] o
  | llama {t : String} {o : Object} (h : Object.value o "generation" = .text t) : Response llama [t] o
  | mistral {t : String} {o output : Object}
      (houtputs : Object.value o "outputs" = .list [.object output])
      (h : Object.value output "text" = .text t) : Response mistral [t] o
  | jamba {t : String} {o choice : Object}
      (hchoices : Object.value o "choices" = .list [.object choice])
      (h : (Object.value choice "message").member "content" = .text t) : Response jamba [t] o

variable {f : ChatFormat} {t : String} {ts us : List String} {o : Object}

/-- A chunk is decoded to the piece that it carries. -/
theorem fragment_of_chunk (h : f.Chunk t o) : f.adapter.fragment o = .ok (piece? t) := by
  rw [← Value.fragment_text]
  cases h with
  | titan h | commandR h | llama h =>
    rw [← h]
    rfl
  | completion h htype =>
    change Except.ok (Claude.fragment o) = _
    rw [Claude.fragment, h]
    cases (Value.text t).fragment with
    | some fragment => rfl
    | none =>
      dsimp only
      split
      · rename_i hdelta
        exact absurd hdelta htype
      · rfl
  | delta hcompletion htype h =>
    change Except.ok (Claude.fragment o) = _
    rw [Claude.fragment, hcompletion, htype, ← h]
    rfl
  | mistral houtputs h =>
    change Except.ok (Mistral.fragment o) = _
    rw [Mistral.fragment, houtputs, ← h]
    rfl
  | jamba hchoices h =>
    change Except.ok (Jamba.fragment o) = _
    rw [Jamba.fragment, hchoices, ← h]
    rfl

/-- Decoders that give no completion for an empty piece lose no text. -/
theorem join_texts_of_piece? {completions : List Completion}
    (h : completions.map Completion.text = (piece? t).toList) :
    String.join (completions.map Completion.text) = String.join [t] := by
  rw [h, ← join_filterMap_piece? [t], List.filterMap_cons]
  cases piece? t <;> rfl

theorem filterMap_blockText? {blocks : List Object} (h : List.Forall₂ TextBlock ts blocks) :
    blocks.filterMap Claude.blockText? = ts.filterMap piece? := by
  induction h with
  | nil => rfl
  | @cons t block ts blocks hblock _ ih =>
    have hpart : Claude.blockText? block = piece? t := by
      rw [Claude.blockText?, hblock.1, hblock.2, ← Value.fragment_text]
      rfl
    rw [List.filterMap_cons, List.filterMap_cons, hpart, ih]

/-- The completions of a payload in a format. -/
def decode (modelId : String) : ChatFormat → Object → Except Conversion (List Completion)
  | titan => Titan.completions modelId
  | claude => Claude.completions modelId
  | commandR => fun o => .ok (CommandR.completions modelId o)
  | llama => fun o => .ok (Llama.completions modelId o)
  | mistral => Mistral.completions modelId
  | jamba => Jamba.completions modelId

theorem completions_eq (f : ChatFormat) (modelId : String) :
    f.adapter.completions modelId = Body.decodeWith (f.decode modelId) := by
  cases f <;> rfl

/-- The text blocks of a Messages response are joined to one completion, if there are any. -/
theorem decode_of_blocks (modelId : String) {blocks : List Object}
    (hcompletion : (Object.value o "completion").fragment = none)
    (hblocks : (Object.value o "content").elementObjects = .ok blocks) :
    ∃ completions, claude.decode modelId o = .ok completions ∧
      String.join (completions.map Completion.text) =
        String.join (blocks.filterMap Claude.blockText?) := by
  rw [decode, Claude.completions, hcompletion, hblocks]
  generalize hparts : blocks.filterMap Claude.blockText? = parts
  cases parts with
  | nil =>
    refine ⟨[], ?_, rfl⟩
    change (if (blocks.filterMap _).isEmpty then _ else _) = _
    rw [hparts]
    rfl
  | cons part parts =>
    refine ⟨[⟨String.join (part :: parts), modelId, Object.value o "stop_reason", []⟩], ?_, ?_⟩
    · change (if (blocks.filterMap _).isEmpty then _ else _) = _
      rw [hparts]
      rfl
    · simp

/-- A response is decoded to completions that have its text between them. -/
theorem decode_of_response (modelId : String) (h : f.Response us o) :
    ∃ completions, f.decode modelId o = .ok completions ∧
      String.join (completions.map Completion.text) = String.join us := by
  cases h with
  | titan hresults h =>
    refine ⟨_, by rw [decode, Titan.completions, hresults, Value.elementObjects_single]; rfl, ?_⟩
    rw [h, Value.displayOrEmpty_text]
    rfl
  | @completion t _ h hcontent =>
    have hfragment : (Object.value o "completion").fragment = piece? t := by
      rw [h, Value.fragment_text]
    -- An empty completion is looked for among the content blocks, of which there are none.
    refine ⟨(piece? t).toList.map (⟨·, modelId, Object.value o "stop_reason", []⟩), ?_,
      join_texts_of_piece? ?_⟩
    · rw [decode, Claude.completions, hfragment, hcontent]
      cases piece? t <;> rfl
    · cases piece? t <;> rfl
  | messages hcompletion hcontent h =>
    have hblocks := hcontent ▸ Value.elementObjects_map_object _
    obtain ⟨completions, hdecode, htexts⟩ :=
      decode_of_blocks modelId (by rw [hcompletion]; rfl) hblocks
    rw [filterMap_blockText? h, join_filterMap_piece?] at htexts
    exact ⟨completions, hdecode, htexts⟩
  | @commandR t _ h =>
    refine ⟨_, rfl, join_texts_of_piece? ?_⟩
    rw [CommandR.completions, h, Value.fragment_text]
    cases piece? t <;> rfl
  | @llama t _ h =>
    refine ⟨_, rfl, join_texts_of_piece? ?_⟩
    rw [Llama.completions, h, Value.fragment_text]
    cases piece? t <;> rfl
  | @mistral t _ _ houtputs h =>
    refine ⟨_, by rw [decode, Mistral.completions, houtputs, Value.elementObjects_single]; rfl,
      join_texts_of_piece? ?_⟩
    rw [List.filterMap_cons, Mistral.completion?, h, Value.fragment_text]
    cases piece? t <;> rfl
  | @jamba t _ _ hchoices h =>
    refine ⟨_, by rw [decode, Jamba.completions, hchoices, Value.elementObjects_single]; rfl,
      join_texts_of_piece? ?_⟩
    rw [List.filterMap_cons, Jamba.completion?, h, Value.fragment_text]
    cases piece? t <;> rfl

end ChatFormat

/-! ## Converse -/

namespace Reply

/-- The events of a chat stream that carry a piece of text. -/
def EventText (t : String) (event : Value) : Prop :=
  ((event.member "contentBlockDelta").member "delta").member "text" = .text t

/-- The content blocks of a converse response that carry a piece of text. -/
def BlockText (t : String) (block : Value) : Prop := block.member "text" = .text t

/-- The converse responses that carry a text in pieces. -/
def ResponseText (ts : List String) (response : Value) : Prop :=
  ∃ message blocks, (response.member "output").member "message" = .object message ∧
    Object.value message "content" = .list blocks ∧ List.Forall₂ BlockText ts blocks

variable {ts : List String}

theorem streamText_of_eventText {t : String} {event : Value} (h : EventText t event) :
    streamText event = piece? t := by
  rw [← Value.fragment_text, streamText, h]
  rfl

theorem filterMap_blockText? {blocks : List Value} (h : List.Forall₂ BlockText ts blocks) :
    blocks.filterMap blockText? = ts := by
  induction h with
  | nil => rfl
  | @cons t block ts blocks hblock _ ih =>
    have hpart : blockText? block = some t := by
      rw [blockText?, hblock]
      rfl
    rw [List.filterMap_cons, hpart, ih]

/-- A response is decoded to one reply for each piece, the empty ones too. -/
theorem ofResponse_of_responseText {response : Value} (h : ResponseText ts response)
    (modelId : String) :
    ∃ replies, ofResponse response modelId = .ok replies ∧ replies.map Reply.content = ts := by
  obtain ⟨message, blocks, hmessage, hcontent, hblocks⟩ := h
  have helements : ((Value.object message).member "content").elements = .ok blocks := by
    rw [Value.member, hcontent, Value.elements_list]
  have hobject : ¬(!(Value.object message).isObject) = true := Bool.false_ne_true
  rw [ofResponse, hmessage]
  dsimp only
  rw [if_neg hobject, helements]
  refine ⟨_, rfl, ?_⟩
  rw [List.map_map, filterMap_blockText? hblocks]
  exact List.map_id _

end Reply

/-! ## Streams -/

namespace Delivery

variable {α β : Type} {decode : α → Except Fault (Option String)} {g : β → Option String}

/-- Where items stand for what they are decoded to, no item is refused and no fragment left out. -/
theorem fragments_of_forall₂ {bs : List β} {items : List α}
    (h : List.Forall₂ (fun b item => decode item = .ok (g b)) bs items) :
    fragments decode items = bs.filterMap g ∧ refusal? decode items = none := by
  induction h with
  | nil => exact ⟨rfl, rfl⟩
  | @cons b item bs items hitem _ ih =>
    obtain ⟨hfragments, hrefusal⟩ := ih
    constructor
    · unfold fragments at hfragments ⊢
      rw [List.takeWhile_cons, readable, hitem]
      simp only [if_true]
      rw [List.filterMap_cons, List.filterMap_cons, hfragments, fragment?, hitem]
    · unfold refusal? at hrefusal ⊢
      rw [List.findSome?_cons, hitem]
      exact hrefusal

end Delivery

namespace Client

variable {capability : Capability} {α : Type} {c : Client capability} {invoker : Invoker}
  {f : ChatFormat} {ts us : List String}

/-- A delivery of pieces that ends without a failure gives the pieces that are not empty. -/
theorem pull_all_of_pieces {operation : String} {decode : α → Except Fault (Option String)}
    {wrap : Delivery α → Stream} {stream : OpenStream} {call : Call} {items : List α} {j : Journal}
    (hw : c.Continues invoker operation decode wrap)
    (ha : c.Answered invoker stream call (wrap ⟨items, none⟩) j)
    (h : List.Forall₂ (fun t item => decode item = .ok (piece? t)) ts items) :
    ((c.pull invoker stream none).run j).1 = (ts.filterMap piece?, .ok .finished) := by
  obtain ⟨hfragments, hrefusal⟩ := Delivery.fragments_of_forall₂ h
  rw [run_pull_all hw ha, ending, hfragments, hrefusal]

theorem textFragment_of_chunk (hadapter : c.route.adapter = f.adapter) {t : String} {chunk : Body}
    {o : Object} (hholds : chunk.Holds o) (h : f.Chunk t o) :
    c.textFragment chunk = .ok (piece? t) := by
  unfold textFragment
  rw [Body.object_of_holds hholds, hadapter]
  exact ChatFormat.fragment_of_chunk h

/-- However a text is cut into pieces, empty ones among them, a stream that delivers the pieces one
by one and a response that has the text in any pieces come to the same text, in all formats. -/
theorem streams_and_responses_agree (invoker : Invoker) (j : Journal) (ts us : List String)
    (hcut : String.join us = String.join ts) :
    (∀ (f : ChatFormat) (c : Client .textGeneration) (prompt : Value) (settings : Settings)
      (stream : OpenStream) (payload : Object) (chunks : List Body) (response : Body),
      c.route.adapter = f.adapter → c.openText prompt settings = .ok stream →
      f.adapter.textRequest c.modelId prompt settings = .ok payload →
      Object.canWrite payload = true →
      invoker.invokeStream j.calls (c.modelRequest payload) = ⟨chunks, none⟩ →
      List.Forall₂ (fun t chunk => ∃ o, chunk.Holds o ∧ f.Chunk t o) ts chunks →
      (∃ o, response.Holds o ∧ f.Response us o) →
      ∃ fragments completions,
        ((c.pull invoker stream none).run j).1 = (fragments, .ok .finished) ∧
        (∀ strict, f.adapter.completions c.modelId response strict = .ok completions) ∧
        String.join fragments = String.join (completions.map Completion.text) ∧
        String.join fragments = String.join ts) ∧
    (∀ (c : Client .chat) (turns : List Turn) (settings : Settings) (stream : OpenStream)
      (request : Object) (events : List Value) (response : Value),
      c.openChat turns settings = .ok stream →
      c.route.adapter.converseRequest c.modelId turns settings = .ok request →
      invoker.converseStream j.calls request = ⟨events, none⟩ →
      List.Forall₂ Reply.EventText ts events → Reply.ResponseText us response →
      ∃ fragments replies,
        ((c.pull invoker stream none).run j).1 = (fragments, .ok .finished) ∧
        Reply.ofResponse response c.modelId = .ok replies ∧
        String.join fragments = String.join (replies.map Reply.content) ∧
        String.join fragments = String.join ts) := by
  constructor
  · intro f c prompt settings stream payload chunks response hadapter hopen hpayload hwrite
      hdelivery hchunks ⟨o, hholds, hresponse⟩
    obtain ⟨_, payload', hpayload', rfl⟩ := of_openText hopen
    rw [hadapter, hpayload] at hpayload'
    obtain rfl := Except.ok.inj hpayload'
    obtain ⟨completions, hdecode, htexts⟩ := ChatFormat.decode_of_response c.modelId hresponse
    have hpieces : List.Forall₂ (fun t chunk => c.textFragment chunk = .ok (piece? t)) ts chunks :=
      hchunks.imp fun _ _ ⟨_, hchunk, h⟩ => textFragment_of_chunk hadapter hchunk h
    have hanswered := c.answered_text invoker hwrite j
    rw [hdelivery] at hanswered
    refine ⟨_, completions, pull_all_of_pieces (c.continues_chunks invoker) hanswered hpieces,
      ?_, ?_, join_filterMap_piece? ts⟩
    · intro strict
      rw [ChatFormat.completions_eq, Body.decodeWith_of_object (Body.object_of_holds hholds strict),
        hdecode]
      rfl
    · rw [join_filterMap_piece?, htexts, hcut]
  · intro c turns settings stream request events response hopen hrequest hdelivery hevents hresponse
    obtain ⟨_, request', hrequest', rfl⟩ := of_openChat hopen
    rw [hrequest] at hrequest'
    obtain rfl := Except.ok.inj hrequest'
    obtain ⟨replies, hdecode, hcontents⟩ := Reply.ofResponse_of_responseText hresponse c.modelId
    have hpieces : List.Forall₂ (fun t event => chatFragment event = .ok (piece? t)) ts events :=
      hevents.imp fun _ _ h => congrArg Except.ok (Reply.streamText_of_eventText h)
    have hanswered := c.answered_chat invoker request j
    rw [hdelivery] at hanswered
    refine ⟨_, replies, pull_all_of_pieces (c.continues_events invoker) hanswered hpieces,
      hdecode, ?_, join_filterMap_piece? ts⟩
    rw [join_filterMap_piece?, hcontents, hcut]

def claudeText : Client .textGeneration :=
  ⟨"anthropic.claude-v2", .make "anthropic" "claude" Claude.adapter textAndChat, true, false⟩

def claudeChat : Client .chat := ⟨claudeText.modelId, claudeText.route, true, false⟩

/-- An invoker whose streams deliver a text in three pieces, one of them empty. -/
def inPieces : Invoker where
  invoke _ _ := .ok (.value .null)
  invokeStream _ _ := ⟨[.octets (Object.encodeBody completion), .value (delta ""),
    .value (delta "llo")], none⟩
  converse _ _ := .ok .null
  converseStream _ _ := ⟨[event "He", event "", event "llo"], none⟩
where
  completion : Object := [("completion", .text "He")]
  delta (t : String) : Value :=
    .object [("type", .text "content_block_delta"), ("delta", .object [("text", .text t)])]
  event (t : String) : Value :=
    .object [("contentBlockDelta", .object [("delta", .object [("text", .text t)])])]

/-- The content of a response that has the text in two pieces. -/
def twoBlocks : List Object := [block "Hel", block "lo"]
where
  block (t : String) : Object := [("type", .text "text"), ("text", .text t)]

def messagesResponse : Body := .value (.object [("content", .list (twoBlocks.map .object))])

def converseResponse : Value :=
  .object [("output", .object [("message", .object
    [("content", .list (twoBlocks.map .object))])])]

theorem hello_in_pieces_and_blocks :
    (∃ stream, claudeText.openText (.text "hi") none = .ok stream ∧ ∃ fragments completions,
      ((claudeText.pull inPieces stream none).run .empty).1 = (fragments, .ok .finished) ∧
      (∀ strict, Claude.adapter.completions claudeText.modelId messagesResponse strict =
        .ok completions) ∧
      String.join fragments = String.join (completions.map Completion.text) ∧
      String.join fragments = "Hello") ∧
    (∃ stream, claudeChat.openChat [.message ⟨"user", .text "hi"⟩] none = .ok stream ∧
      ∃ fragments replies,
        ((claudeChat.pull inPieces stream none).run .empty).1 = (fragments, .ok .finished) ∧
        Reply.ofResponse converseResponse claudeChat.modelId = .ok replies ∧
        String.join fragments = String.join (replies.map Reply.content) ∧
        String.join fragments = "Hello") := by
  have h := streams_and_responses_agree inPieces .empty ["He", "", "llo"] ["Hel", "lo"] (by decide)
  have hoctets : (Body.octets (Object.encodeBody inPieces.completion)).Holds inPieces.completion :=
    ⟨_, Utf8.decode_encode _, Json.parse_render Json.Style.faithful_line (by decide)⟩
  have htype : Object.value inPieces.completion "type" ≠ .text "content_block_delta" := by
    rintro ⟨⟩
  have hblocks : List.Forall₂ ChatFormat.TextBlock ["Hel", "lo"] twoBlocks :=
    .cons ⟨rfl, rfl⟩ (.cons ⟨rfl, rfl⟩ .nil)
  constructor
  · refine ⟨_, rfl, h.1 .claude claudeText (.text "hi") none _ _ _ messagesResponse rfl rfl rfl
      (by decide) rfl ?_ ⟨_, rfl, .messages rfl rfl hblocks⟩⟩
    exact .cons ⟨_, hoctets, .completion rfl htype⟩
      (.cons ⟨_, rfl, .delta rfl rfl rfl⟩ (.cons ⟨_, rfl, .delta rfl rfl rfl⟩ .nil))
  · refine ⟨_, rfl, h.2 claudeChat [.message ⟨"user", .text "hi"⟩] none _ _ _ converseResponse
      rfl rfl rfl ?_ ⟨_, _, rfl, rfl, .cons rfl (.cons rfl .nil)⟩⟩
    exact .cons rfl (.cons rfl (.cons rfl .nil))

end Client
end ModelGateway
