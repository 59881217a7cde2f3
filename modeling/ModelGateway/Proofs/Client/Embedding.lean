import ModelGateway.Proofs.Client.EmbeddingBody
import ModelGateway.Proofs.Client.Session
import Mathlib.Data.List.Forall2

/-!
# Embedding calls once for each text and stops at the first failure

Each text becomes a request of its own. The requests are made in the order of the texts, each after
the answer to the one before it, and the first that fails, in the call or in its answer, is the
last. The vectors come out only if there is no such request.

A text with half of a surrogate pair fails like a request, but its body has no encoding, so it makes no
call. `Attempt` covers both, and the run is described by the attempts that the texts come to.
-/
namespace ModelGateway

/-- What a text comes to before the invoker is asked: a request, or why its body has no encoding. -/
abbrev Attempt := Except Utf8.EncodeFault ModelRequest

/-- The requests that are made in attempts. -/
def Attempt.requests (attempts : List Attempt) : List ModelRequest :=
  attempts.filterMap Except.toOption

theorem Attempt.requests_cons (a : Attempt) (rest : List Attempt) :
    requests (a :: rest) = requests [a] ++ requests rest :=
  List.filterMap_append (l := [a])

/-- The journal after requests have been made. -/
def Journal.afterRequests (j : Journal) (requests : List ModelRequest) : Journal :=
  { j with calls := j.calls ++ requests.map .invoke }

theorem Journal.afterRequests_append (j : Journal) (requests more : List ModelRequest) :
    (j.afterRequests requests).afterRequests more = j.afterRequests (requests ++ more) := by
  simp [afterRequests]

namespace Client

variable (c : Client .embedding) (invoker : Invoker)

/-- What a request comes to after the calls before it: what its answer is decoded to, or what
callers see of the invoker's failure. -/
def embeddingOutcome (before : List Call) (r : ModelRequest) : Except Fault (List Binary64) :=
  match invoker.invoke before r with
  | .ok body => c.route.adapter.embedding body c.strict
  | .error failure => .error (c.surfaced failure)

/-- What an attempt comes to: a body without an encoding is shown as a foreign failure of an invoker
is. -/
def attemptOutcome (before : List Call) : Attempt → Except Fault (List Binary64)
  | .ok r => c.embeddingOutcome invoker before r
  | .error f => .error (c.surfaced (.notEncodable f))

/-- What the attempt at an index comes to, after the calls of those in front of it. -/
def attemptAt (before : List Call) (attempts : List Attempt) (i : Nat) :
    Option (Except Fault (List Binary64)) :=
  attempts[i]?.map
    (c.attemptOutcome invoker (before ++ (Attempt.requests (attempts.take i)).map .invoke))

/-- That a text is embedded with a request. -/
def Embeds (text : Value) (r : ModelRequest) : Prop :=
  ∃ payload, c.route.adapter.embeddingRequest c.modelId text = .ok payload ∧
    Object.canWrite payload = true ∧ r = c.modelRequest payload

/-- What a text comes to: a string is embedded with a request, and of any other text the body has no
encoding, because of the first half in it. -/
inductive Attempts : LooseText → Attempt → Prop
  | encoded {s : String} {r : ModelRequest} (h : c.Embeds (.text s) r) :
    Attempts (.ofString s) (.ok r)
  | refused {t body : LooseText} {f : Utf8.EncodeFault} (hfirst : t.halves.head? = some f.first)
    (hbody : c.embeddingBody t = .ok body) (h : Utf8.encodeLoose body = .error f) :
    Attempts t (.error f)

theorem attemptAt_zero (before : List Call) (a : Attempt) (rest : List Attempt) :
    c.attemptAt invoker before (a :: rest) 0 = some (c.attemptOutcome invoker before a) := by
  simp [attemptAt, Attempt.requests]

theorem attemptAt_succ (j : Journal) (a : Attempt) (rest : List Attempt) (i : Nat) :
    c.attemptAt invoker j.calls (a :: rest) (i + 1) =
      c.attemptAt invoker (j.afterRequests (Attempt.requests [a])).calls rest i := by
  rw [attemptAt, attemptAt, List.take_succ_cons, Attempt.requests_cons, List.map_append,
    ← List.append_assoc]
  rfl

variable {c invoker}

variable (invoker) in
/-- One text makes one call; nothing is logged unless it fails. -/
theorem run_embedOne {text : Value} {r : ModelRequest} (h : c.Embeds text r) (j : Journal) :
    ∃ j', (c.embedOne invoker text).run j = (c.embeddingOutcome invoker j.calls r, j') ∧
      j'.calls = (j.afterRequests [r]).calls ∧
      ∀ v, c.embeddingOutcome invoker j.calls r = .ok v → j' = j.afterRequests [r] := by
  obtain ⟨payload, hpayload, hwrite, rfl⟩ := h
  have hinvoke := c.run_invoke invoker hwrite j
  unfold embedOne embeddingOutcome
  rw [hpayload, run_bind_of_ok (Session.run_ofOutcome _ j)]
  cases hanswer : invoker.invoke j.calls (c.modelRequest payload) with
  | error failure =>
    rw [hanswer] at hinvoke
    rw [run_bind_of_error hinvoke]
    exact ⟨_, rfl, c.noted_calls _ _ _, nofun⟩
  | ok body =>
    rw [hanswer] at hinvoke
    rw [run_bind_of_ok hinvoke, Session.run_ofOutcome]
    exact ⟨_, rfl, rfl, fun _ _ => rfl⟩

variable (c invoker) in
/-- A string is embedded as the value that it is. -/
theorem embedLoose_ofString (s : String) :
    c.embedLoose invoker (.ofString s) = c.embedOne invoker (.text s) := by
  refine funext fun j => ?_
  change (c.embedLoose invoker (.ofString s)).run j = (c.embedOne invoker (.text s)).run j
  rw [embedLoose, embeddingBody_ofString, LooseText.fill_ofString]
  cases hrequest : c.route.adapter.embeddingRequest c.modelId (.text s) with
  | error f =>
    rw [embedOne, hrequest]
    rfl
  | ok payload =>
    have hbody := Session.run_ofOutcome (.ok (LooseText.ofString (Object.bodyText payload))) j
    refine (run_bind_of_ok hbody).trans ?_
    rw [Utf8.encodeLoose_ofString]

variable (invoker) in
/-- A text makes the call of its attempt; nothing is logged unless it fails. -/
theorem run_embedLoose {t : LooseText} {a : Attempt} (h : c.Attempts t a) (j : Journal) :
    ∃ j', (c.embedLoose invoker t).run j = (c.attemptOutcome invoker j.calls a, j') ∧
      j'.calls = (j.afterRequests (Attempt.requests [a])).calls ∧
      ∀ v, c.attemptOutcome invoker j.calls a = .ok v →
        j' = j.afterRequests (Attempt.requests [a]) := by
  cases h with
  | encoded h =>
    rw [embedLoose_ofString]
    exact run_embedOne invoker h j
  | @refused _ _ f hfirst hbody h =>
    have hrun : (c.embedLoose invoker t).run j =
        (c.fail "invoke_model" (.notEncodable f) : Session (List Binary64)).run j := by
      rw [embedLoose, hbody, run_bind_of_ok (Session.run_ofOutcome _ j), h]
    refine ⟨_, hrun.trans (c.run_fail ..), ?_, nofun⟩
    rw [noted_calls]
    exact (List.append_nil _).symm

theorem run_embedLoose_of_ok {t : LooseText} {a : Attempt} (h : c.Attempts t a) {j : Journal}
    {v : List Binary64} (hv : c.attemptOutcome invoker j.calls a = .ok v) :
    (c.embedLoose invoker t).run j = (.ok v, j.afterRequests (Attempt.requests [a])) := by
  obtain ⟨j', hrun, _, hj'⟩ := run_embedLoose invoker h j
  rw [hrun, hv, hj' v hv]

variable {texts : List LooseText} {attempts : List Attempt}

/-- Where none of the first attempts fails, the very first does not, and the others follow its call. -/
theorem first_of_all_ok {a : Attempt} {j : Journal} {n : Nat}
    (h : ∀ i < n + 1, ∃ v, c.attemptAt invoker j.calls (a :: attempts) i = some (.ok v)) :
    ∃ v, c.attemptOutcome invoker j.calls a = .ok v ∧
      ∀ i < n, ∃ v, c.attemptAt invoker (j.afterRequests (Attempt.requests [a])).calls attempts i =
        some (.ok v) := by
  obtain ⟨v, hv⟩ := h 0 (Nat.succ_pos n)
  rw [attemptAt_zero] at hv
  refine ⟨v, Option.some.inj hv, fun i hi => ?_⟩
  rw [← attemptAt_succ]
  exact h (i + 1) (Nat.succ_lt_succ hi)

/-- Where no attempt fails, all requests are made and every answer gives its vector. -/
theorem run_embedAll_of_ok (h : List.Forall₂ c.Attempts texts attempts) (j : Journal)
    (hall : ∀ i < attempts.length, ∃ v, c.attemptAt invoker j.calls attempts i = some (.ok v)) :
    ∃ vectors requests, attempts = requests.map .ok ∧
      (texts.mapM (c.embedLoose invoker)).run j = (.ok vectors, j.afterRequests requests) ∧
      vectors.length = texts.length ∧
      ∀ i, c.attemptAt invoker j.calls attempts i = vectors[i]?.map .ok := by
  induction h generalizing j with
  | nil =>
    refine ⟨[], [], rfl, ?_, rfl, fun i => rfl⟩
    rw [Journal.afterRequests, List.map_nil, List.append_nil]
    rfl
  | @cons text a texts attempts ha _ ih =>
    obtain ⟨v, hv, hrest⟩ := first_of_all_ok hall
    obtain ⟨vectors, requests, hrequests, hvectors, hlength, hat⟩ := ih _ hrest
    cases a with
    | error f => cases hv
    | ok r =>
      refine ⟨v :: vectors, r :: requests, congrArg _ hrequests, ?_,
        congrArg (· + 1) hlength, ?_⟩
      · rw [List.mapM_cons, run_bind_of_ok (run_embedLoose_of_ok ha hv), run_bind_of_ok hvectors,
          Journal.afterRequests_append]
        rfl
      · intro i
        cases i with
        | zero => rw [attemptAt_zero, hv]; rfl
        | succ i => rw [attemptAt_succ, hat]; rfl

/-- The first attempt that fails is the last that is made, and its failure is the outcome. -/
theorem run_embedAll_of_error (h : List.Forall₂ c.Attempts texts attempts) (j : Journal) {k : Nat}
    {f : Fault} (hk : c.attemptAt invoker j.calls attempts k = some (.error f))
    (hbefore : ∀ i < k, ∃ v, c.attemptAt invoker j.calls attempts i = some (.ok v)) :
    ∃ j', (texts.mapM (c.embedLoose invoker)).run j = (.error f, j') ∧
      j'.calls = (j.afterRequests (Attempt.requests (attempts.take (k + 1)))).calls := by
  induction h generalizing j k with
  | nil => cases hk
  | @cons text a texts attempts ha _ ih =>
    rw [List.mapM_cons]
    cases k with
    | zero =>
      rw [attemptAt_zero] at hk
      obtain ⟨j', hrun, hcalls, _⟩ := run_embedLoose invoker ha j
      rw [Option.some.inj hk] at hrun
      rw [run_bind_of_error hrun]
      exact ⟨j', rfl, hcalls⟩
    | succ k =>
      obtain ⟨v, hv, hrest⟩ := first_of_all_ok hbefore
      rw [attemptAt_succ] at hk
      obtain ⟨j', hfailed, hcalls⟩ := ih _ hk hrest
      rw [run_bind_of_ok (run_embedLoose_of_ok ha hv), run_bind_of_error hfailed]
      refine ⟨j', rfl, ?_⟩
      rw [hcalls, Journal.afterRequests_append, ← Attempt.requests_cons]
      rfl

theorem exists_attempt (h : c.route.adapter.TakesTexts) (t : LooseText) : ∃ a, c.Attempts t a := by
  rcases t.eq_ofString_or_half with ⟨s, rfl⟩ | ⟨s, n, rest, rfl⟩
  · obtain ⟨front, back, hrequest⟩ := h c.modelId
    obtain ⟨payload, hpayload, hwrite, -⟩ := hrequest s
    exact ⟨.ok _, .encoded ⟨payload, hpayload, hwrite, rfl⟩⟩
  · obtain ⟨body, f, hbody, hfault, rfl⟩ := c.embeddingBody_half h s n rest
    refine ⟨.error f, .refused ?_ hbody hfault⟩
    rw [LooseText.halves_append, LooseText.ofString, LooseText.halves_chars]
    rfl

theorem exists_attempts (h : c.route.adapter.TakesTexts) (texts : List LooseText) :
    ∃ attempts, List.Forall₂ c.Attempts texts attempts := by
  induction texts with
  | nil => exact ⟨[], .nil⟩
  | cons t rest ih =>
    obtain ⟨a, ha⟩ := exists_attempt h t
    obtain ⟨attempts, hattempts⟩ := ih
    exact ⟨a :: attempts, .cons ha hattempts⟩

variable (c invoker)

theorem embedTexts_one (t : LooseText) :
    c.embedTexts invoker (.one t) = c.embedTexts invoker (.several [t]) := rfl

theorem embedTexts_several {texts : List LooseText} (h : texts ≠ []) :
    c.embedTexts invoker (.several texts) = texts.mapM (c.embedLoose invoker) := by
  obtain ⟨t, rest, rfl⟩ := List.exists_cons_of_ne_nil h
  rfl

/-- Strings are embedded as the values that they are. -/
theorem embedTexts_ofString (texts : List String) :
    c.embedTexts invoker (.several (texts.map .ofString)) =
      c.embed invoker (.list (texts.map .text)) := by
  cases texts with
  | nil => rfl
  | cons s rest =>
    change ((s :: rest).map LooseText.ofString).mapM (c.embedLoose invoker) =
      ((s :: rest).map Value.text).mapM (c.embedOne invoker)
    rw [List.mapM_map, List.mapM_map]
    exact congrArg (List.mapM · (s :: rest)) (funext (c.embedLoose_ofString invoker))

/-- How a batch of texts is embedded, with one attempt for each of them. -/
structure Batch (texts : List LooseText) (attempts : List Attempt) (j : Journal) : Prop where
  attempted : List.Forall₂ c.Attempts texts attempts
  embedded : (∀ i < texts.length, ∃ v, c.attemptAt invoker j.calls attempts i = some (.ok v)) →
    ∃ (vectors : List (List Binary64)) (requests : List ModelRequest), attempts = requests.map .ok ∧
      (c.embedTexts invoker (.several texts)).run j =
        (.ok vectors, { j with calls := j.calls ++ requests.map .invoke }) ∧
      vectors.length = texts.length ∧
      ∀ i, c.attemptAt invoker j.calls attempts i = vectors[i]?.map .ok
  stopped : ∀ k f, c.attemptAt invoker j.calls attempts k = some (.error f) →
    (∀ i < k, ∃ v, c.attemptAt invoker j.calls attempts i = some (.ok v)) →
    ∃ j', (c.embedTexts invoker (.several texts)).run j = (.error f, j') ∧
      j'.calls = j.calls ++ (Attempt.requests (attempts.take (k + 1))).map .invoke

theorem exists_batch (h : c.route.adapter.TakesTexts) {texts : List LooseText} (hne : texts ≠ [])
    (j : Journal) : ∃ attempts, c.Batch invoker texts attempts j := by
  obtain ⟨attempts, hattempts⟩ := exists_attempts h texts
  refine ⟨attempts, hattempts, ?_, ?_⟩
  · intro hall
    rw [hattempts.length_eq] at hall
    rw [embedTexts_several c invoker hne]
    obtain ⟨vectors, requests, h⟩ := run_embedAll_of_ok hattempts j hall
    exact ⟨vectors, requests, h⟩
  · intro k f hk hbefore
    rw [embedTexts_several c invoker hne]
    exact run_embedAll_of_error hattempts j hk hbefore

/-- Embedding refuses an empty list without a call and takes a text for a list of one. Otherwise it
makes one call for each text, in order, and gives as many vectors, unless the body of a text has no
encoding, or its call or the decoding of the answer fails: then this text is the last, its failure is
all that comes out, and the calls are those of the texts up to it, without its own if there is no
body. Strings are embedded in this way whether they come as values or from outside. -/
theorem embed_stops_at_first_failure (j : Journal)
    (h : c.route.adapter = Titan.adapter ∨ c.route.adapter = CohereEmbed.adapter) :
    (∀ t, c.embedTexts invoker (.one t) = c.embedTexts invoker (.several [t])) ∧
      (c.embedTexts invoker (.several [])).run j =
        (.error (.gateway (.invalidParameter .noTexts)), j) ∧
      (∀ texts : List LooseText, texts ≠ [] → ∃ attempts, c.Batch invoker texts attempts j) ∧
      (∀ s, c.embed invoker (.text s) = c.embedTexts invoker (.one (.ofString s))) ∧
      ∀ texts : List String, c.embed invoker (.list (texts.map .text)) =
        c.embedTexts invoker (.several (texts.map .ofString)) := by
  have htakes : c.route.adapter.TakesTexts := by
    rcases h with h | h
    · rw [h]
      exact Titan.takesTexts
    · rw [h]
      exact CohereEmbed.takesTexts
  refine ⟨c.embedTexts_one invoker, rfl, fun texts hne => c.exists_batch invoker htakes hne j, ?_,
    fun texts => (c.embedTexts_ofString invoker texts).symm⟩
  intro s
  rw [embedTexts_one]
  exact (c.embedTexts_ofString invoker [s]).symm

def titanEmbed : Client .embedding :=
  ⟨"amazon.titan-embed-text-v1", .make "amazon" "titan-embed" Titan.adapter [.embedding], true,
    true⟩

/-- An invoker that answers its first call and fails from then on. -/
def failsAfterFirst : Invoker where
  invoke before _ :=
    if before.isEmpty then .ok (.value (.object [("embedding", .list [.int 1])]))
    else .error (.foreign ⟨"RuntimeError", "service unavailable"⟩)
  invokeStream _ _ := ⟨[], none⟩
  converse _ _ := .ok .null
  converseStream _ _ := ⟨[], none⟩

/-- A batch of three texts, one of them twice, with an invoker that fails in the middle. -/
theorem embed_three_texts_fails_at_second :
    titanEmbed.route.adapter = Titan.adapter ∧ ["a", "b", "a"].map LooseText.ofString ≠ [] ∧
      ∃ attempts,
        titanEmbed.Batch failsAfterFirst (["a", "b", "a"].map .ofString) attempts .empty :=
  ⟨rfl, by decide,
    (titanEmbed.embed_stops_at_first_failure failsAfterFirst .empty (.inl rfl)).2.2.1 _ (by decide)⟩

/-- An invoker that gives the empty vector for every text. -/
def embedsAll : Invoker where
  invoke _ _ := .ok (.value (.object [("embedding", .list [])]))
  invokeStream _ _ := ⟨[], none⟩
  converse _ _ := .ok .null
  converseStream _ _ := ⟨[], none⟩

/-- Where every call would be answered with a vector, a text with half of a surrogate pair is still not
sent. -/
theorem not_every_text_is_sent :
    ¬∀ (c : Client .embedding) (invoker : Invoker) (texts : List LooseText),
      c.route.adapter = Titan.adapter ∨ c.route.adapter = CohereEmbed.adapter → texts ≠ [] →
      (∀ before r, ∃ v, c.embeddingOutcome invoker before r = .ok v) →
      ((c.embedTexts invoker (.several texts)).run .empty).2.calls.length = texts.length := by
  intro h
  have hlength := h titanEmbed embedsAll [.ofString "a", [.half 0x4FF]] (.inl rfl) (by decide)
    (fun _ _ => ⟨_, rfl⟩)
  exact absurd hlength (by decide +kernel)

end Client
end ModelGateway
