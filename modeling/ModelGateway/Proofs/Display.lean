import ModelGateway.Adapter

/-!
# What is present displays as a text that is not empty

Every value but a text has a form that holds at least one character, so the only empty display is
that of the empty text, which does not count as present.
-/
namespace ModelGateway

theorem decimalDigits_ne_nil (n : Nat) : decimalDigits n ≠ [] := Nat.toDigits_ne_nil

theorem intText_toList_ne_nil (n : Int) : (intText n).toList ≠ [] := by
  cases n with
  | ofNat k =>
    rw [intText, String.toList_ofList]
    exact decimalDigits_ne_nil k
  | negSucc k =>
    rw [intText, String.toList_ofList]
    exact List.cons_ne_nil _ _

theorem FloatLayout.write_ne_nil (l : FloatLayout) (d : Decimal) : l.write d ≠ [] := by
  have hdigits := decimalDigits_ne_nil d.coefficient
  unfold write
  dsimp only
  generalize decimalDigits d.coefficient = digits at hdigits
  generalize (if d.coefficient = 0 then 0 else d.lead - 1 : Int) = e
  split
  · split
    · exact List.append_ne_nil_of_right_ne_nil _ (List.cons_ne_nil _ _)
    · exact List.cons_ne_nil _ _
  · split
    · exact absurd rfl hdigits
    · exact List.cons_ne_nil _ _
    · exact List.cons_ne_nil _ _

theorem Binary64.textWith_ne_nil (x : Binary64) {nanText infinityText : List Char}
    (hnan : nanText ≠ []) (hinfinity : infinityText ≠ []) :
    x.textWith nanText infinityText ≠ [] := by
  cases x with
  | nan => exact hnan
  | infinite negative => exact List.append_ne_nil_of_right_ne_nil _ hinfinity
  | finite negative m =>
    exact List.append_ne_nil_of_right_ne_nil _ (FloatLayout.standard.write_ne_nil m.shortest)

namespace Value

theorem quotedForm_ne_nil (v : Value) : v.quotedForm ≠ [] := by
  fun_cases quotedForm v
  case case4 n => exact intText_toList_ne_nil n
  case case5 x => exact x.textWith_ne_nil (by decide) (by decide)
  all_goals simp [Text.quoted]

theorem quote_ne_empty (v : Value) : v.quote ≠ "" := by
  intro h
  apply v.quotedForm_ne_nil
  rw [← String.toList_ofList (l := v.quotedForm), ← quote, h]
  rfl

/-- The display of a value that counts as present is not empty. -/
theorem display_ne_empty {v : Value} (h : v.isTruthy = true) : v.display ≠ "" := by
  cases v with
  | text s => exact bne_iff_ne.mp h
  | _ => exact quote_ne_empty _

theorem fragment_ne_empty (v : Value) : v.fragment ≠ some "" := by
  unfold fragment
  split
  · rename_i hv
    exact fun h => display_ne_empty hv (Option.some.inj h)
  · exact nofun

end Value
end ModelGateway
