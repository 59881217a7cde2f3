import ModelGateway.Settings
import ModelGateway.Proofs.Run

/-!
# What a settings record holds

A record that has been read holds, under the name of each field of its schema, what that field
reads. Of an object made of named fields only those that are not null are left when the nulls are
dropped.
-/
namespace ModelGateway

theorem Value.isNull_eq_false_iff {v : Value} : v.isNull = false ↔ v ≠ .null := by
  cases v <;> simp [isNull]

namespace Object

theorem value?_append (o other : Object) (key : String) :
    value? (o ++ other) key = (value? o key).or (value? other key) := List.lookup_append

theorem value_cons (k : String) (w : Value) (rest : Object) (key : String) :
    value ((k, w) :: rest) key = if key = k then w else value rest key := by
  unfold value
  rw [value?_cons]
  split <;> rfl

theorem value?_dropNull_map (field : String → Value) (names : List String) (key : String) :
    value? (dropNull (names.map fun name => (name, field name))) key =
      if key ∈ names ∧ (field key).isNull = false then some (field key) else none := by
  induction names with
  | nil => rfl
  | cons name rest ih =>
    rw [List.map_cons, dropNull, List.filter_cons, ← dropNull]
    by_cases hkey : key = name
    · subst hkey
      cases hnull : (field key).isNull with
      | true => simpa [hnull] using ih
      | false => simp [value?_cons]
    · split
      · simp [value?_cons, hkey, ih]
      · simp [hkey, ih]

theorem dropNull_append (o other : Object) :
    dropNull (o ++ other) = dropNull o ++ dropNull other := List.filter_append _ _

theorem value?_eq_none_iff {o : Object} {key : String} :
    value? o key = none ↔ key ∉ o.map Prod.fst := by
  rw [value?, List.lookup_eq_none_iff]
  constructor
  · intro h hkey
    obtain ⟨m, hm, rfl⟩ := List.mem_map.mp hkey
    exact bne_iff_ne.mp (h m hm) rfl
  · intro h m hm
    rw [bne_iff_ne]
    rintro rfl
    exact h (List.mem_map_of_mem hm)

/-- What is not null under a key is there. -/
theorem value?_of_value {o : Object} {key : String} {v : Value} (h : value o key = v)
    (hv : v ≠ .null) : value? o key = some v := by
  unfold value at h
  cases hfound : value? o key with
  | none =>
    rw [hfound] at h
    exact absurd h.symm hv
  | some w =>
    rw [hfound] at h
    exact congrArg some h

theorem mem_of_value? {o : Object} {key : String} {v : Value} (h : value? o key = some v) :
    (key, v) ∈ o := by
  obtain ⟨before, after, rfl, _⟩ := List.lookup_eq_some_iff.mp h
  exact List.mem_append_right _ List.mem_cons_self

theorem value?_of_mem {o : Object} (hkeys : (o.map Prod.fst).Nodup) {key : String} {v : Value}
    (h : (key, v) ∈ o) : value? o key = some v := by
  induction o with
  | nil => cases h
  | cons m rest ih =>
    obtain ⟨hfresh, hrest⟩ := List.nodup_cons.mp hkeys
    rw [value?_cons]
    rcases List.mem_cons.mp h with rfl | h
    · exact if_pos rfl
    · rw [if_neg, ih hrest h]
      rintro rfl
      exact hfresh (List.mem_map.mpr ⟨_, h, rfl⟩)

theorem dropNull_keys_nodup {o : Object} (h : (o.map Prod.fst).Nodup) :
    ((dropNull o).map Prod.fst).Nodup :=
  h.sublist (List.filter_sublist.map Prod.fst)

/-- Dropping the nulls of an object with distinct keys takes away what is null, and nothing else. -/
theorem value?_dropNull {o : Object} (h : (o.map Prod.fst).Nodup) (key : String) :
    value? (dropNull o) key = (value? o key).filter fun v => !v.isNull := by
  induction o with
  | nil => rfl
  | cons m rest ih =>
    obtain ⟨k, v⟩ := m
    obtain ⟨hfresh, hrest⟩ := List.nodup_cons.mp h
    rw [dropNull, List.filter_cons, ← dropNull, value?_cons k v rest]
    by_cases hkey : key = k
    · subst hkey
      cases hnull : v.isNull with
      | true => simp [ih hrest, value?_eq_none_iff.mpr hfresh, Option.filter, hnull]
      | false => simp [value?_cons, Option.filter, hnull]
    · rw [if_neg hkey, ← ih hrest]
      split
      · rw [value?_cons, if_neg hkey]
      · rfl

end Object

theorem Schema.read_cons_eq_ok {field : Field} {rest : Schema} {settings : Settings}
    {record : Object} (h : Schema.read (field :: rest) settings = .ok record) :
    ∃ v others, field.read settings = .ok v ∧ Schema.read rest settings = .ok others ∧
      record = (field.name, v) :: others := by
  obtain ⟨v, hv, h⟩ := ok_of_bind_eq_ok h
  obtain ⟨others, hothers, h⟩ := ok_of_bind_eq_ok h
  exact ⟨v, others, hv, hothers, (Except.ok.inj h).symm⟩

/-- A record holds under a name what the first field of that name reads. -/
theorem Schema.field_read {schema : Schema} {settings : Settings} {record : Object}
    (h : schema.read settings = .ok record) (name : String) {field : Field}
    (hfield : schema.find? (fun field => field.name == name) = some field) :
    field.read settings = .ok (Object.value record name) := by
  induction schema generalizing record with
  | nil => cases hfield
  | cons first rest ih =>
    obtain ⟨v, others, hv, hothers, rfl⟩ := read_cons_eq_ok h
    rw [List.find?_cons] at hfield
    rw [Object.value_cons]
    cases hname : first.name == name with
    | true =>
      rw [hname] at hfield
      obtain rfl := Option.some.inj hfield
      rw [if_pos (beq_iff_eq.mp hname).symm, hv]
    | false =>
      rw [hname] at hfield
      rw [if_neg (Ne.symm (beq_eq_false_iff_ne.mp hname))]
      exact ih hothers hfield

/-- The text that settings give under a key. -/
def Settings.text? (settings : Settings) (key : String) : Option String :=
  match settings.bind fun o => Object.value? o key with
  | some (.text s) => some s
  | _ => none

/-- A text that is unset by default is the one given, and null when none is. -/
theorem Settings.resolve_text (settings : Settings) (key : String) :
    settings.resolve key .null .text = .ok (Value.ofText? (settings.text? key)) := by
  unfold resolve text?
  cases settings.bind fun o => Object.value? o key with
  | none => rfl
  | some v => cases v <;> rfl

namespace Kind

/-- What is accepted is not null, and conversion keeps it so. -/
theorem convert_not_null {kind : Kind} {v w : Value} (h : kind.accepts v = true)
    (hconvert : kind.convert v = .ok w) : w.isNull = false := by
  cases kind with
  | float =>
    cases hv : v.toFloat with
    | error c =>
      rw [convert, hv] at hconvert
      cases hconvert
    | ok x =>
      rw [convert, hv] at hconvert
      rw [← Except.ok.inj hconvert]
      rfl
  | _ =>
    cases v with
    | null => cases h
    | _ =>
      obtain rfl := Except.ok.inj hconvert
      rfl

end Kind

/-- A setting is its default, or what a value of its kind is converted to. -/
theorem Settings.resolve_cases (settings : Settings) (key : String) (default : Value) (kind : Kind) :
    settings.resolve key default kind = .ok default ∨
      ∃ v, (settings.bind fun o => Object.value? o key) = some v ∧ kind.accepts v = true ∧
        settings.resolve key default kind = kind.convert v := by
  unfold resolve
  cases settings.bind fun o => Object.value? o key with
  | none => exact .inl rfl
  | some v =>
    cases hv : kind.accepts v with
    | false => exact .inl (by simp [hv])
    | true => exact .inr ⟨v, rfl, hv, by simp [hv]⟩

theorem Field.read_not_null {field : Field} {settings : Settings} {v : Value}
    (hdefault : field.default.isNull = false) (h : field.read settings = .ok v) :
    v.isNull = false := by
  unfold read at h
  split at h
  · rwa [← Except.ok.inj h]
  · rcases settings.resolve_cases field.key field.default field.kind with hr | ⟨w, _, hw, hr⟩
    · rw [hr] at h
      rwa [← Except.ok.inj h]
    · rw [hr] at h
      exact Kind.convert_not_null hw h

/-- A field for a list of texts that is unset or empty by default holds null or a list. -/
theorem Field.read_textList {field : Field} {settings : Settings} {v : Value}
    (hkind : field.kind = .textList)
    (hdefault : field.default = .null ∨ ∃ items, field.default = .list items)
    (h : field.read settings = .ok v) : v = .null ∨ ∃ items, v = .list items := by
  unfold read at h
  split at h
  · rwa [← Except.ok.inj h]
  · rw [hkind] at h
    rcases settings.resolve_cases field.key field.default .textList with hr | ⟨w, _, hw, hr⟩
    · rw [hr] at h
      rwa [← Except.ok.inj h]
    · rw [hr] at h
      cases w with
      | list items => exact .inr ⟨items, (Except.ok.inj h).symm⟩
      | tuple items => exact .inr ⟨items, (Except.ok.inj h).symm⟩
      | _ => cases hw

/-- A field with a default that is not null never holds null. -/
theorem Schema.value_not_null {schema : Schema} {settings : Settings} {record : Object}
    (h : schema.read settings = .ok record) (name : String) {field : Field}
    (hfield : schema.find? (fun field => field.name == name) = some field)
    (hdefault : field.default.isNull = false) : (Object.value record name).isNull = false :=
  Field.read_not_null hdefault (field_read h name hfield)

end ModelGateway
