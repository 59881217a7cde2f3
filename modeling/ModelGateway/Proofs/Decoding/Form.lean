import ModelGateway.Proofs.Decoding.Strictness
import ModelGateway.Proofs.Text.Utf8

/-!
# The forms in which a body arrives

A text may arrive as itself, as its UTF-8 octets or in a buffer that holds them. All three are decoded
to the object that the text holds, or refused for the same reason at the same place. An object that is
decoded already is that object.
-/
namespace ModelGateway.Body

/-- That a text holds no object, and why. -/
inductive Refuses : String → Malformed → Prop where
  | empty : Refuses "" (.notObject "NoneType")
  | syntaxFault {s : String} {f : Json.Fault} (hne : s ≠ "") (h : Json.parse s = .error f) :
      Refuses s (.notJson (.syntaxFault f))
  | otherKind {s : String} {v : Value} (h : Json.parse s = .ok v) (hkind : v.isObject = false) :
      Refuses s (.notObject v.kindName)

theorem decodeText_of_refuses {s : String} {why : Malformed} (h : Refuses s why) :
    decodeText s = .error why := by
  unfold decodeText
  cases h with
  | empty => rfl
  | syntaxFault hne hparse => rw [if_neg hne, hparse]
  | otherKind hparse hkind =>
    rename_i v
    have hne : s ≠ "" := by
      rintro rfl
      exact parse_empty _ hparse
    rw [if_neg hne, hparse]
    cases v with
    | object o => cases hkind
    | _ => rfl

/-- A text holds an object or is refused. -/
theorem holds_or_refuses (s : String) :
    (∃ o, Json.parse s = .ok (.object o)) ∨ ∃ why, Refuses s why := by
  by_cases hne : s = ""
  · subst hne
    exact .inr ⟨_, .empty⟩
  · cases hparse : Json.parse s with
    | error f => exact .inr ⟨_, .syntaxFault hne hparse⟩
    | ok v =>
      cases hkind : v.isObject with
      | false => exact .inr ⟨_, .otherKind hparse hkind⟩
      | true =>
        cases v with
        | object o => exact .inl ⟨o, rfl⟩
        | _ => cases hkind

/-- A text with a byte order mark is refused at its first character, whatever follows the mark. -/
theorem refuses_byteOrderMark (rest : List Char) :
    Refuses (String.ofList ('\uFEFF' :: rest)) (.notJson (.syntaxFault ⟨.byteOrderMark, []⟩)) := by
  refine .syntaxFault ?_ ?_
  · intro hempty
    cases String.ofList_eq_empty_iff.mp hempty
  · have hread : Json.readDocument ('\uFEFF' :: rest) = .error ⟨.byteOrderMark, '\uFEFF' :: rest⟩ := rfl
    rw [Json.parse, String.toList_ofList, hread]
    change Except.error (Json.Fault.ofHalt _ _) = _
    rw [Json.Fault.ofHalt, Nat.sub_self]
    rfl

/-- A text by itself, as octets, and in a buffer of octets as the standard library fills it. -/
def formsOf (s : String) : List Body := [value (.text s), octets (Utf8.encode s), ofBuffer s.toUTF8]

theorem decode_of_mem_formsOf {s : String} {body : Body} (h : body ∈ formsOf s) :
    body.decode = decodeText s := by
  have hoctets : (octets (Utf8.encode s)).decode = decodeText s := by
    rw [decode, Utf8.decode_encode]
  simp only [formsOf, List.mem_cons, List.not_mem_nil, or_false] at h
  obtain rfl | rfl | rfl := h
  · rfl
  · exact hoctets
  · rw [ofBuffer, Utf8.toList_toUTF8]
    exact hoctets

/-- All forms of a text that holds an object are decoded to it, whether or not the body has to hold
one. All forms of any other text are refused for one reason where it has to, and count as empty where
it has not. An object that is decoded already is itself in either case. A byte order mark is a reason
at the first character. -/
theorem text_forms_agree (s : String) :
    ((∃ o, Json.parse s = .ok (.object o) ∧
        ∀ body ∈ formsOf s, ∀ strict, body.object strict = .ok o) ∨
      ∃ why, Refuses s why ∧ ∀ body ∈ formsOf s,
        body.object true = .error (.gateway (.malformedResponse why)) ∧ body.object false = .ok []) ∧
    (∀ o strict, (value (.object o)).object strict = .ok o) ∧
    ∀ rest, Refuses (String.ofList ('\uFEFF' :: rest))
      (.notJson (.syntaxFault ⟨.byteOrderMark, []⟩)) := by
  refine ⟨?_, fun _ _ => rfl, refuses_byteOrderMark⟩
  rcases holds_or_refuses s with ⟨o, hparse⟩ | ⟨why, hwhy⟩
  · refine .inl ⟨o, hparse, ?_⟩
    intro body hbody strict
    have hdecode : body.decode = .ok o := by
      rw [decode_of_mem_formsOf hbody]
      exact (decodeText_eq_ok_iff s o).mpr hparse
    rw [object, hdecode]
  · refine .inr ⟨why, hwhy, ?_⟩
    intro body hbody
    have hdecode : body.decode = .error why := by
      rw [decode_of_mem_formsOf hbody, decodeText_of_refuses hwhy]
    rw [object, object, hdecode]
    exact ⟨rfl, rfl⟩

end ModelGateway.Body
