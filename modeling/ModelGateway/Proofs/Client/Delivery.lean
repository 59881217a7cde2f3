import ModelGateway.Client
import Mathlib.Data.List.TakeWhile

/-!
# The fragments of a delivery

The fragments of a delivery are those of the items in front of the first that cannot be decoded, in
order, at most one for each item. Reading on gives them one by one, and the reason why an item
cannot be decoded only after all of them.
-/
namespace ModelGateway

namespace Delivery

variable {α : Type}

def readable (decode : α → Except Fault (Option String)) (item : α) : Bool :=
  match decode item with
  | .ok _ => true
  | .error _ => false

def fragment? (decode : α → Except Fault (Option String)) (item : α) : Option String :=
  match decode item with
  | .ok fragment => fragment
  | .error _ => none

/-- The fragments of items, in order, up to the first item that cannot be decoded. -/
def fragments (decode : α → Except Fault (Option String)) (items : List α) : List String :=
  (items.takeWhile (readable decode)).filterMap (fragment? decode)

/-- Why the first item that cannot be decoded cannot be. -/
def refusal? (decode : α → Except Fault (Option String)) (items : List α) : Option Fault :=
  items.findSome? fun item =>
    match decode item with
    | .ok _ => none
    | .error f => some f

variable {decode : α → Except Fault (Option String)}

/-- Reading on stops at the first fragment, and what is left has the other fragments. -/
theorem advance_of_fragments_cons {items : List α} {t : String} {ts : List String}
    (h : fragments decode items = t :: ts) :
    ∃ rest, advance decode items = .ok (some (t, rest)) ∧ fragments decode rest = ts ∧
      refusal? decode rest = refusal? decode items := by
  induction items with
  | nil => cases h
  | cons item rest ih =>
    unfold fragments at h
    cases hd : decode item with
    | error f => simp [readable, hd] at h
    | ok fragment =>
      have hrefusal : refusal? decode (item :: rest) = refusal? decode rest := by
        simp [refusal?, hd]
      cases fragment with
      | none =>
        have hrest : fragments decode rest = t :: ts := by
          simpa [fragments, readable, fragment?, hd] using h
        obtain ⟨left, hadv, hts, hleft⟩ := ih hrest
        refine ⟨left, ?_, hts, hleft.trans hrefusal.symm⟩
        rw [advance, hd]
        exact hadv
      | some fragment =>
        have hboth : fragment = t ∧ fragments decode rest = ts := by
          simpa [fragments, readable, fragment?, hd] using h
        obtain ⟨rfl, hts⟩ := hboth
        refine ⟨rest, ?_, hts, hrefusal.symm⟩
        rw [advance, hd]

/-- Without a fragment, reading on runs into the first item that cannot be decoded, if any. -/
theorem advance_of_fragments_nil {items : List α} (h : fragments decode items = []) :
    advance decode items =
      match refusal? decode items with
      | some f => .error f
      | none => .ok none := by
  induction items with
  | nil => rfl
  | cons item rest ih =>
    unfold fragments at h
    cases hd : decode item with
    | error f => simp [advance, refusal?, hd]
    | ok fragment =>
      cases fragment with
      | none =>
        have hrest : fragments decode rest = [] := by
          simpa [fragments, readable, fragment?, hd] using h
        have hrefusal : refusal? decode (item :: rest) = refusal? decode rest := by
          simp [refusal?, hd]
        rw [advance, hd, hrefusal]
        exact ih hrest
      | some fragment => simp [readable, fragment?, hd] at h

theorem fragments_length_le (decode : α → Except Fault (Option String)) (items : List α) :
    (fragments decode items).length ≤ items.length :=
  Nat.le_trans (List.length_filterMap_le _ _) (List.takeWhile_sublist _).length_le

/-- A fragment is what some item is decoded to. -/
theorem exists_item_of_mem_fragments {items : List α} {t : String} (h : t ∈ fragments decode items) :
    ∃ item ∈ items, decode item = .ok (some t) := by
  obtain ⟨item, hmem, hitem⟩ := List.mem_filterMap.mp h
  refine ⟨item, (List.takeWhile_sublist _).subset hmem, ?_⟩
  unfold fragment? at hitem
  cases hd : decode item with
  | ok fragment =>
    rw [hd] at hitem
    exact congrArg Except.ok hitem
  | error f =>
    rw [hd] at hitem
    cases hitem

/-- Where every item can be decoded, no fragment is left out. -/
theorem fragments_of_readable (items : List α) (h : ∀ item, readable decode item = true) :
    fragments decode items = items.filterMap (fragment? decode) ∧ refusal? decode items = none := by
  constructor
  · unfold fragments
    rw [List.takeWhile_eq_self_iff.mpr fun item _ => h item]
  · apply List.findSome?_eq_none_iff.mpr
    intro item _
    have hitem := h item
    unfold readable at hitem
    cases hd : decode item with
    | ok fragment => rfl
    | error f =>
      rw [hd] at hitem
      cases hitem

end Delivery

end ModelGateway
