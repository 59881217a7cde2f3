import ModelGateway.Proofs.Json.Plain
import ModelGateway.Proofs.Settings
import Mathlib.Data.List.Sort
import Mathlib.Data.String.Basic

/-!
# Texts with sorted keys

A style that sorts keys writes a value as the same style without sorting writes the value with its
keys sorted at every depth. Two plain values have the same sorted form if and only if they are equal
up to the order of keys, so the text of a plain value in the canonical style is that of another one
in no other case.
-/
namespace ModelGateway

namespace Value

mutual

/-- Whether two values are equal up to the order of keys: objects are compared by what stands under
each key, everything else item by item. -/
def sameUpToOrder : Value → Value → Bool
  | null, null => true
  | bool a, bool b => a == b
  | int m, int n => m == n
  | float x, float y => x == y
  | text s, text t => s == t
  | list xs, list ys => sameItems xs ys
  | tuple xs, tuple ys => sameItems xs ys
  | object ms, object ns => ms.length == ns.length && sameMembers ms ns
  | message role content, message role' content' => role == role' && sameUpToOrder content content'
  | _, _ => false

def sameItems : List Value → List Value → Bool
  | [], [] => true
  | v :: vs, w :: ws => sameUpToOrder v w && sameItems vs ws
  | _, _ => false

/-- Whether every member has its counterpart in an object. -/
def sameMembers : List (String × Value) → Object → Bool
  | [], _ => true
  | (key, v) :: rest, o =>
    (match Object.value? o key with
      | some w => sameUpToOrder v w
      | none => false) && sameMembers rest o

end

end Value

namespace Object

/-- Whether one key does not come after another; the values do not count. -/
def inOrder {α : Type} (m n : String × α) : Bool := !decide (n.1 < m.1)

def sortByKey {α : Type} (members : List (String × α)) : List (String × α) :=
  members.mergeSort inOrder

section
variable {α β : Type}

theorem inOrder_iff {m n : String × α} : inOrder m n = true ↔ m.1 ≤ n.1 := by
  rw [inOrder, Bool.not_eq_true', decide_eq_false_iff_not, not_lt]

theorem sortByKey_perm (members : List (String × α)) : (sortByKey members).Perm members :=
  List.mergeSort_perm _ _

theorem sortByKey_sorted (members : List (String × α)) :
    (sortByKey members).Pairwise fun m n => m.1 ≤ n.1 := by
  have hsorted : (sortByKey members).Pairwise fun m n => inOrder m n = true := by
    apply List.pairwise_mergeSort
    · intro m n k hmn hnk
      rw [inOrder_iff] at hmn hnk ⊢
      exact hmn.trans hnk
    · intro m n
      rw [Bool.or_eq_true, inOrder_iff, inOrder_iff]
      exact le_total m.1 n.1
  exact hsorted.imp fun h => inOrder_iff.mp h

theorem map_sortByKey (f : String × α → β) (members : List (String × α)) :
    (sortByKey members).map (fun m => (m.1, f m)) =
      sortByKey (members.map fun m => (m.1, f m)) :=
  List.map_mergeSort fun _ _ _ _ => rfl

/-- Members with distinct keys are put into one order, whatever the order they came in. -/
theorem sortByKey_congr {members others : List (String × α)} (h : members.Perm others)
    (hkeys : (members.map Prod.fst).Nodup) : sortByKey members = sortByKey others := by
  have hperm := (sortByKey_perm members).trans (h.trans (sortByKey_perm others).symm)
  refine List.Perm.eq_of_pairwise ?_ (sortByKey_sorted members) (sortByKey_sorted others) hperm
  intro m n hm hn hmn hnm
  have hm := (sortByKey_perm members).subset hm
  have hn := h.symm.subset ((sortByKey_perm others).subset hn)
  exact List.inj_on_of_nodup_map hkeys hm hn (le_antisymm hmn hnm)

theorem perm_of_sortByKey_eq {members others : List (String × α)}
    (h : sortByKey members = sortByKey others) : members.Perm others :=
  (sortByKey_perm members).symm.trans (h ▸ sortByKey_perm others)

end
end Object

namespace Value

mutual

/-- A value with its keys sorted at every depth. -/
def sorted : Value → Value
  | list items => list (sortedItems items)
  | tuple items => tuple (sortedItems items)
  | object members => object (Object.sortByKey (sortedMembers members))
  | message role content => message role content
  | v => v

def sortedItems : List Value → List Value
  | [] => []
  | v :: vs => sorted v :: sortedItems vs

def sortedMembers : List (String × Value) → List (String × Value)
  | [] => []
  | (key, v) :: rest => (key, sorted v) :: sortedMembers rest

end

theorem sortedMembers_eq (members : List (String × Value)) :
    sortedMembers members = members.map fun m => (m.1, sorted m.2) := by
  induction members with
  | nil => rfl
  | cons m rest ih => rw [sortedMembers, ih, List.map_cons]

theorem keys_sortedMembers (members : List (String × Value)) :
    (sortedMembers members).map Prod.fst = members.map Prod.fst := by
  rw [sortedMembers_eq, List.map_map]
  rfl

end Value

namespace Json

open Value (sorted sortedItems sortedMembers sameUpToOrder sameItems sameMembers)

/-! ## Sorting before writing -/

/-- A style that keeps keys in their order. -/
def Style.unsorted (style : Style) : Style := { style with sortKeys := false }

theorem arrange_of_sortKeys {style : Style} (hs : style.sortKeys = true)
    (members : List (String × List Char)) : arrange style members = Object.sortByKey members :=
  if_pos hs

theorem arrange_unsorted (style : Style) (members : List (String × List Char)) :
    arrange style.unsorted members = members := rfl

theorem writeMembers_eq (style : Style) (level : Nat) (members : List (String × Value)) :
    writeMembers style level members = members.map fun m => (m.1, write style level m.2) := by
  induction members with
  | nil => rfl
  | cons m rest ih => rw [writeMembers, ih, List.map_cons]

mutual

/-- Keys may be sorted in the value instead of in its text. -/
theorem write_sorted {style : Style} (hs : style.sortKeys = true) (level : Nat) (v : Value) :
    write style level v = write style.unsorted level (sorted v) := by
  cases v with
  | list items =>
    rw [write, sorted, write, writeItems_sorted hs (level + 1) items]
    rfl
  | tuple items =>
    rw [write, sorted, write, writeItems_sorted hs (level + 1) items]
    rfl
  | object members =>
    have harrange : arrange style (writeMembers style (level + 1) members) =
        arrange style.unsorted
          (writeMembers style.unsorted (level + 1) (Object.sortByKey (sortedMembers members))) := by
      rw [arrange_of_sortKeys hs, arrange_unsorted, writeMembers_sorted hs (level + 1) members,
        writeMembers_eq, writeMembers_eq]
      exact (Object.map_sortByKey (fun m => write style.unsorted (level + 1) m.2) _).symm
    rw [write, sorted, write, harrange]
    rfl
  | null => rfl
  | bool b => cases b <;> rfl
  | int n => rfl
  | float x => rfl
  | text s => rfl
  | message role content => rfl

theorem writeItems_sorted {style : Style} (hs : style.sortKeys = true) (level : Nat)
    (items : List Value) :
    writeItems style level items = writeItems style.unsorted level (sortedItems items) := by
  cases items with
  | nil => rfl
  | cons v vs =>
    rw [writeItems, sortedItems, writeItems, write_sorted hs level v, writeItems_sorted hs level vs]

theorem writeMembers_sorted {style : Style} (hs : style.sortKeys = true) (level : Nat)
    (members : List (String × Value)) :
    writeMembers style level members = writeMembers style.unsorted level (sortedMembers members) := by
  cases members with
  | nil => rfl
  | cons m rest =>
    obtain ⟨key, v⟩ := m
    rw [writeMembers, sortedMembers, writeMembers, write_sorted hs level v,
      writeMembers_sorted hs level rest]

end

mutual

theorem isPlain_sorted (v : Value) (h : isPlain v = true) : isPlain (sorted v) = true := by
  cases v with
  | list items =>
    rw [isPlain] at h
    rw [sorted, isPlain]
    exact arePlainItems_sorted items h
  | object members =>
    rw [isPlain, Bool.and_eq_true, decide_eq_true_iff] at h
    have hperm := Object.sortByKey_perm (sortedMembers members)
    rw [sorted, isPlain_object_iff]
    constructor
    · rw [(hperm.map Prod.fst).nodup_iff, Value.keys_sortedMembers]
      exact h.1
    · intro m hm
      exact (arePlainMembers_iff _).mp (arePlainMembers_sorted members h.2) m (hperm.subset hm)
  | tuple items => cases h
  | message role content => cases h
  | _ => rfl

theorem arePlainItems_sorted (items : List Value) (h : arePlainItems items = true) :
    arePlainItems (sortedItems items) = true := by
  cases items with
  | nil => rfl
  | cons v vs =>
    rw [arePlainItems, Bool.and_eq_true] at h
    rw [sortedItems, arePlainItems, isPlain_sorted v h.1, arePlainItems_sorted vs h.2]
    rfl

theorem arePlainMembers_sorted (members : List (String × Value))
    (h : arePlainMembers members = true) : arePlainMembers (sortedMembers members) = true := by
  cases members with
  | nil => rfl
  | cons m rest =>
    obtain ⟨key, v⟩ := m
    rw [arePlainMembers, Bool.and_eq_true] at h
    rw [sortedMembers, arePlainMembers, isPlain_sorted v h.1, arePlainMembers_sorted rest h.2]
    rfl

end

theorem Style.faithful_canonical : Style.canonical.unsorted.Faithful :=
  ⟨separator_bare ',', separator_bare ':', rfl⟩

/-- The canonical text of a plain value holds the value with its keys sorted. -/
theorem parse_render_canonical {v : Value} (h : isPlain v = true) :
    parse (render .canonical v) = .ok (sorted v) := by
  have hrender : render .canonical v = render Style.canonical.unsorted (sorted v) := by
    rw [render, write_sorted rfl 0 v]
    rfl
  rw [hrender]
  exact parse_render Style.faithful_canonical (isPlain_sorted v h)

theorem render_canonical_eq_iff {v w : Value} (hv : isPlain v = true) (hw : isPlain w = true) :
    render .canonical v = render .canonical w ↔ sorted v = sorted w := by
  constructor
  · intro h
    have hparse := parse_render_canonical hv
    rw [h, parse_render_canonical hw] at hparse
    exact (Except.ok.inj hparse).symm
  · intro h
    rw [render, render, write_sorted rfl 0 v, write_sorted rfl 0 w, h]

/-! ## Equality up to the order of keys -/

theorem sameMembers_iff (members : List (String × Value)) (o : Object) :
    sameMembers members o = true ↔
      ∀ m ∈ members, ∃ w, Object.value? o m.1 = some w ∧ sameUpToOrder m.2 w = true := by
  induction members with
  | nil => simp [sameMembers]
  | cons m rest ih =>
    obtain ⟨key, v⟩ := m
    rw [sameMembers, Bool.and_eq_true, ih, List.forall_mem_cons]
    cases Object.value? o key <;> simp

/-- Members that have their counterparts among as many others are those others, once both are
sorted inside. -/
theorem sortedMembers_perm {ms ns : Object} (hms : (ms.map Prod.fst).Nodup)
    (hlength : ms.length = ns.length)
    (h : ∀ m ∈ ms, ∃ w, Object.value? ns m.1 = some w ∧ sorted m.2 = sorted w) :
    (sortedMembers ms).Perm (sortedMembers ns) := by
  have hnodup : (sortedMembers ms).Nodup := by
    refine List.Nodup.of_map Prod.fst ?_
    rwa [Value.keys_sortedMembers]
  have hsubset : sortedMembers ms ⊆ sortedMembers ns := by
    intro m hm
    rw [Value.sortedMembers_eq] at hm ⊢
    obtain ⟨⟨key, v⟩, hmem, rfl⟩ := List.mem_map.mp hm
    obtain ⟨w, hw, heq⟩ := h _ hmem
    exact List.mem_map.mpr ⟨(key, w), Object.mem_of_value? hw, Prod.ext rfl heq.symm⟩
  refine (List.subperm_of_subset hnodup hsubset).perm_of_length_le ?_
  rw [Value.sortedMembers_eq, Value.sortedMembers_eq, List.length_map, List.length_map, hlength]

theorem exists_of_sortedMembers_perm {ms ns : Object} (hns : (ns.map Prod.fst).Nodup)
    (h : (sortedMembers ms).Perm (sortedMembers ns)) {m : String × Value} (hm : m ∈ ms) :
    ∃ w, Object.value? ns m.1 = some w ∧ sorted m.2 = sorted w := by
  have hmem : (m.1, sorted m.2) ∈ sortedMembers ns := by
    refine h.subset ?_
    rw [Value.sortedMembers_eq]
    exact List.mem_map_of_mem hm
  rw [Value.sortedMembers_eq] at hmem
  obtain ⟨⟨key, w⟩, hw, heq⟩ := List.mem_map.mp hmem
  obtain ⟨rfl, hsorted⟩ := Prod.mk.inj heq
  exact ⟨w, Object.value?_of_mem hns hw, hsorted.symm⟩

mutual

/-- Two plain values have one sorted form if and only if they are equal up to the order of keys. -/
theorem sorted_eq_iff (v w : Value) (hv : isPlain v = true) (hw : isPlain w = true) :
    sorted v = sorted w ↔ sameUpToOrder v w = true := by
  cases v with
  | null => cases w <;> simp [sorted, sameUpToOrder]
  | bool b => cases w <;> simp [sorted, sameUpToOrder]
  | int n => cases w <;> simp [sorted, sameUpToOrder]
  | float x => cases w <;> simp [sorted, sameUpToOrder]
  | text s => cases w <;> simp [sorted, sameUpToOrder]
  | tuple items => cases hv
  | message role content => cases hv
  | list items =>
    cases w with
    | list others =>
      rw [isPlain] at hv hw
      rw [sorted, sorted, sameUpToOrder, Value.list.injEq]
      exact sortedItems_eq_iff items others hv hw
    | _ => simp [sorted, sameUpToOrder]
  | object members =>
    cases w with
    | object others =>
      rw [isPlain, Bool.and_eq_true, decide_eq_true_iff] at hv
      have hothers := (isPlain_object_iff others).mp hw
      -- The counterpart of a member is under its key, and induction compares the two values.
      have hmembers : sameMembers members others = true ↔
          ∀ m ∈ members, ∃ w, Object.value? others m.1 = some w ∧ sorted m.2 = sorted w := by
        rw [sameMembers_iff]
        exact sortedMembers_iff members others hv.2 hothers.2
      rw [sorted, sorted, sameUpToOrder, Value.object.injEq, Bool.and_eq_true, beq_iff_eq, hmembers]
      constructor
      · intro h
        have hperm := Object.perm_of_sortByKey_eq h
        have hlength := hperm.length_eq
        rw [Value.sortedMembers_eq, Value.sortedMembers_eq, List.length_map, List.length_map]
          at hlength
        exact ⟨hlength, fun m hm => exists_of_sortedMembers_perm hothers.1 hperm hm⟩
      · rintro ⟨hlength, h⟩
        refine Object.sortByKey_congr (sortedMembers_perm hv.1 hlength h) ?_
        rw [Value.keys_sortedMembers]
        exact hv.1
    | _ => simp [sorted, sameUpToOrder]

theorem sortedItems_eq_iff (items others : List Value) (h : arePlainItems items = true)
    (hothers : arePlainItems others = true) :
    sortedItems items = sortedItems others ↔ sameItems items others = true := by
  cases items with
  | nil => cases others <;> simp [sortedItems, sameItems]
  | cons v vs =>
    cases others with
    | nil => simp [sortedItems, sameItems]
    | cons w ws =>
      rw [arePlainItems, Bool.and_eq_true] at h hothers
      rw [sortedItems, sortedItems, sameItems, List.cons.injEq, Bool.and_eq_true,
        sorted_eq_iff v w h.1 hothers.1, sortedItems_eq_iff vs ws h.2 hothers.2]

theorem sortedMembers_iff (members : List (String × Value)) (o : Object)
    (h : arePlainMembers members = true) (ho : ∀ m ∈ o, isPlain m.2 = true) :
    (∀ m ∈ members, ∃ w, Object.value? o m.1 = some w ∧ sameUpToOrder m.2 w = true) ↔
      ∀ m ∈ members, ∃ w, Object.value? o m.1 = some w ∧ sorted m.2 = sorted w := by
  cases members with
  | nil => simp
  | cons m rest =>
    obtain ⟨key, v⟩ := m
    rw [arePlainMembers, Bool.and_eq_true] at h
    rw [List.forall_mem_cons, List.forall_mem_cons, sortedMembers_iff rest o h.2 ho]
    refine and_congr_left fun _ => exists_congr fun w => and_congr_right fun hw => ?_
    exact (sorted_eq_iff v w h.1 (ho _ (Object.mem_of_value? hw))).symm

end

/-- Canonical texts tell plain values apart if and only if they differ in more than the order of
keys. -/
theorem render_canonical_eq_iff_same {v w : Value} (hv : isPlain v = true)
    (hw : isPlain w = true) :
    render .canonical v = render .canonical w ↔ sameUpToOrder v w = true :=
  (render_canonical_eq_iff hv hw).trans (sorted_eq_iff v w hv hw)

end Json
end ModelGateway
