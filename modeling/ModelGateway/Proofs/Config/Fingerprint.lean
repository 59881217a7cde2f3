import ModelGateway.Config
import ModelGateway.Proofs.Json.Canonical

/-!
# Fingerprints of configurations

The text behind a fingerprint is the same for two configurations if and only if they are equal up
to the order of keys. Nothing is assumed of the hash: two fingerprints are equal if and only if
that is so or the two texts are a collision of the hash.
-/
namespace ModelGateway

/-! ## What lies between the text and the fingerprint -/

theorem Utf8.encode_injective {s t : String} (h : encode s = encode t) : s = t := by
  have hdecode := decode_encode s
  rw [h, decode_encode] at hdecode
  exact (Except.ok.inj hdecode).symm

namespace Sha256

theorem digitChar_inj : ∀ m < 16, ∀ n < 16, Nat.digitChar m = Nat.digitChar n → m = n := by decide

theorem hex_injective {xs ys : List UInt8} (h : hex xs = hex ys) : xs = ys := by
  unfold hex at h
  have hdigits := congrArg String.toList h
  rw [String.toList_ofList, String.toList_ofList] at hdigits
  clear h
  induction xs generalizing ys with
  | nil =>
    cases ys with
    | nil => rfl
    | cons y ys => cases hdigits
  | cons x xs ih =>
    cases ys with
    | nil => cases hdigits
    | cons y ys =>
      have hx := x.toNat_lt
      have hy := y.toNat_lt
      simp only [List.flatMap_cons, List.cons_append, List.nil_append, List.cons.injEq] at hdigits
      obtain ⟨hhigh, hlow, hrest⟩ := hdigits
      have hhigh := digitChar_inj _ (by omega) _ (by omega) hhigh
      have hlow := digitChar_inj _ (Nat.mod_lt _ (by decide)) _ (Nat.mod_lt _ (by decide)) hlow
      have hoctet : x.toNat = y.toNat := by omega
      rw [UInt8.toNat_inj.mp hoctet, ih hrest]

/-- Two messages with one hash. -/
def Collision (x y : List UInt8) : Prop := x ≠ y ∧ hash x = hash y

end Sha256

namespace Config

/-- The octets that are hashed for a fingerprint. -/
def hashed (config : Object) : List UInt8 := Utf8.encode (canonicalText config)

theorem fingerprint_eq_iff (c d : Object) :
    fingerprint c = fingerprint d ↔
      canonicalText c = canonicalText d ∨ Sha256.Collision (hashed c) (hashed d) := by
  constructor
  · intro h
    by_cases heq : canonicalText c = canonicalText d
    · exact .inl heq
    · exact .inr ⟨fun hhashed => heq (Utf8.encode_injective hhashed), Sha256.hex_injective h⟩
  · rintro (h | ⟨_, h⟩)
    · rw [fingerprint, fingerprint, h]
    · exact congrArg Sha256.hex h

/-- Two configurations have one canonical text if and only if they are equal up to the order of keys
at every depth. Then they have one fingerprint, and otherwise only if their texts collide. -/
theorem fingerprint_ignores_order_only (c d : Object) (hc : Json.isPlain (.object c) = true)
    (hd : Json.isPlain (.object d) = true) :
    (canonicalText c = canonicalText d ↔ Value.sameUpToOrder (.object c) (.object d) = true) ∧
      (fingerprint c = fingerprint d ↔ Value.sameUpToOrder (.object c) (.object d) = true ∨
        Sha256.Collision (hashed c) (hashed d)) := by
  have htext : canonicalText c = canonicalText d ↔
      Value.sameUpToOrder (.object c) (.object d) = true :=
    Json.render_canonical_eq_iff_same hc hd
  refine ⟨htext, ?_⟩
  rw [fingerprint_eq_iff, htext]

/-- Two configurations whose keys come in different orders at both depths. -/
theorem fingerprint_of_reordered :
    Json.isPlain (.object [("models", .object [("b", .text "é😀"), ("a", .int 1)]),
      ("flags", .list [.bool true, .null])]) = true ∧
    Json.isPlain (.object [("flags", .list [.bool true, .null]),
      ("models", .object [("a", .int 1), ("b", .text "é😀")])]) = true ∧
    fingerprint [("models", .object [("b", .text "é😀"), ("a", .int 1)]),
        ("flags", .list [.bool true, .null])] =
      fingerprint [("flags", .list [.bool true, .null]),
        ("models", .object [("a", .int 1), ("b", .text "é😀")])] :=
  ⟨by decide, by decide,
    ((fingerprint_ignores_order_only _ _ (by decide) (by decide)).2).mpr (.inl (by decide))⟩

/-- A boolean is never the same as a number. -/
example : Value.sameUpToOrder (.object [("a", .bool true)]) (.object [("a", .int 1)]) = false := by
  decide

end Config
end ModelGateway
