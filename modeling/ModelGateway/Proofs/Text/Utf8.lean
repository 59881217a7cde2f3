import ModelGateway.Text.Utf8

/-!
# UTF-8 reads back what it writes

The lead of a written character announces its other octets and the range of the first of them. The
ranges are where the argument needs that a character is no surrogate and at most U+10FFFF.

Of the texts that may hold halves of surrogate pairs, those without a half are encoded as the strings
they are, and the first half of any other is what its fault names.
-/
namespace ModelGateway
namespace Utf8

theorem toNat_ofNat {n : Nat} (h : n < 256) : (UInt8.ofNat n).toNat = n := by
  rw [UInt8.toNat_ofNat']
  exact Nat.mod_eq_of_lt h

/-- A character is no surrogate and at most U+10FFFF. -/
theorem toNat_range (c : Char) : c.toNat < 0xD800 ∨ 0xDFFF < c.toNat ∧ c.toNat < 0x110000 := c.valid

variable {position : Nat} {rest : Octets} {cs : List Char}

theorem decodeFrom_ascii {n : Nat} (h : n < 0x80)
    (hrest : ∀ position, decodeFrom position none rest = .ok cs) :
    decodeFrom position none (.ofNat n :: rest) = .ok (Char.ofNat n :: cs) := by
  rw [decodeFrom, toNat_ofNat (by omega), if_pos h, hrest]
  rfl

theorem decodeFrom_lead {n : Nat} {p : Pending} (h : 0x80 ≤ n) (hn : n < 256)
    (hp : Pending.ofLead? position (.ofNat n) = some p) :
    decodeFrom position none (.ofNat n :: rest) = decodeFrom (position + 1) (some p) rest := by
  rw [decodeFrom, toNat_ofNat hn, if_neg (Nat.not_lt.mpr h), hp]

theorem decodeFrom_middle {n : Nat} {p : Pending} (hlow : p.low ≤ n) (hhigh : n ≤ p.high)
    (hn : n < 256) (hmissing : 1 < p.missing) :
    decodeFrom position (some p) (.ofNat n :: rest) =
      decodeFrom (position + 1) (some (p.extend n)) rest := by
  rw [decodeFrom, toNat_ofNat hn, if_pos ⟨hlow, hhigh⟩]
  exact if_neg (Nat.not_le.mpr hmissing)

theorem decodeFrom_last {n : Nat} {p : Pending} (hlow : p.low ≤ n) (hhigh : n ≤ p.high)
    (hn : n < 256) (hmissing : p.missing ≤ 1)
    (hrest : ∀ position, decodeFrom position none rest = .ok cs) :
    decodeFrom position (some p) (.ofNat n :: rest) =
      .ok (Char.ofNat (p.bits * 64 + (n - 0x80)) :: cs) := by
  rw [decodeFrom, toNat_ofNat hn, if_pos ⟨hlow, hhigh⟩]
  dsimp only
  rw [if_pos hmissing, hrest]
  rfl

theorem ofLead?_two {n : Nat} (hlow : 0xC2 ≤ n) (hhigh : n < 0xE0) :
    Pending.ofLead? position (.ofNat n) =
      some ⟨position, .ofNat n, 1, 1, 0x80, 0xBF, n - 0xC0⟩ := by
  unfold Pending.ofLead?
  dsimp only
  rw [toNat_ofNat (by omega), if_neg (by omega), if_pos hhigh]

theorem ofLead?_three {n : Nat} (hlow : 0xE0 ≤ n) (hhigh : n < 0xF0) :
    Pending.ofLead? position (.ofNat n) =
      some ⟨position, .ofNat n, 1, 2, if n = 0xE0 then 0xA0 else 0x80,
        if n = 0xED then 0x9F else 0xBF, n - 0xE0⟩ := by
  unfold Pending.ofLead?
  dsimp only
  rw [toNat_ofNat (by omega), if_neg (by omega), if_neg (by omega), if_pos hhigh]

theorem ofLead?_four {n : Nat} (hlow : 0xF0 ≤ n) (hhigh : n < 0xF5) :
    Pending.ofLead? position (.ofNat n) =
      some ⟨position, .ofNat n, 1, 3, if n = 0xF0 then 0x90 else 0x80,
        if n = 0xF4 then 0x8F else 0xBF, n - 0xF0⟩ := by
  unfold Pending.ofLead?
  dsimp only
  rw [toNat_ofNat (by omega), if_neg (by omega), if_neg (by omega), if_neg (by omega),
    if_pos hhigh]

theorem ofNat_of_eq (c : Char) {n : Nat} (h : n = c.toNat) : Char.ofNat n = c :=
  h ▸ Char.ofNat_toNat c

/-- Behind a written character the octets are read on from a fresh start. -/
theorem decodeFrom_encodeChar (c : Char) (position : Nat)
    (hrest : ∀ position, decodeFrom position none rest = .ok cs) :
    decodeFrom position none (encodeChar c ++ rest) = .ok (c :: cs) := by
  have hrange := toNat_range c
  unfold encodeChar
  dsimp only
  split
  · rename_i hone
    rw [List.singleton_append, decodeFrom_ascii hone hrest, ofNat_of_eq c rfl]
  split
  · rw [List.cons_append, List.singleton_append,
      decodeFrom_lead (by omega) (by omega) (ofLead?_two (by omega) (by omega)),
      decodeFrom_last (by dsimp only; omega) (by dsimp only; omega) (by omega)
        (show 1 ≤ 1 by decide) hrest,
      ofNat_of_eq c (by dsimp only; omega)]
  split
  · rw [List.cons_append, List.cons_append, List.singleton_append,
      decodeFrom_lead (by omega) (by omega) (ofLead?_three (by omega) (by omega)),
      decodeFrom_middle (by dsimp only; split <;> omega) (by dsimp only; split <;> omega)
        (by omega) (show 1 < 2 by decide),
      decodeFrom_last (by dsimp only [Pending.extend]; omega)
        (by dsimp only [Pending.extend]; omega) (by omega) (show 1 ≤ 1 by decide) hrest,
      ofNat_of_eq c (by dsimp only [Pending.extend]; omega)]
  · rw [List.cons_append, List.cons_append, List.cons_append, List.singleton_append,
      decodeFrom_lead (by omega) (by omega) (ofLead?_four (by omega) (by omega)),
      decodeFrom_middle (by dsimp only; split <;> omega) (by dsimp only; split <;> omega)
        (by omega) (show 1 < 3 by decide),
      decodeFrom_middle (by dsimp only [Pending.extend]; omega)
        (by dsimp only [Pending.extend]; omega) (by omega) (show 1 < 2 by decide),
      decodeFrom_last (by dsimp only [Pending.extend]; omega)
        (by dsimp only [Pending.extend]; omega) (by omega) (show 1 ≤ 1 by decide) hrest,
      ofNat_of_eq c (by dsimp only [Pending.extend]; omega)]

theorem decodeFrom_flatMap (cs : List Char) (position : Nat) :
    decodeFrom position none (cs.flatMap encodeChar) = .ok cs := by
  induction cs generalizing position with
  | nil => rfl
  | cons c cs ih =>
    rw [List.flatMap_cons]
    exact decodeFrom_encodeChar c position ih

/-- Decoding gives back the text that was encoded. -/
theorem decode_encode (s : String) : decode (encode s) = .ok s := by
  unfold decode encode
  rw [decodeFrom_flatMap]
  exact congrArg Except.ok (String.ofList_toList)

/-! ## The standard library -/

/-- The octets of a character are those that the standard library writes for it. -/
theorem encodeChar_eq (c : Char) : encodeChar c = String.utf8EncodeChar c := by
  have hrange := toNat_range c
  unfold encodeChar String.utf8EncodeChar
  generalize hn : c.toNat = n at hrange
  rw [show c.val.toNat = n from hn]
  dsimp only
  by_cases hone : n < 0x80
  · rw [if_pos hone, if_pos (show n ≤ 127 by omega)]
  rw [if_neg hone, if_neg (show ¬n ≤ 127 by omega)]
  by_cases htwo : n < 0x800
  · rw [if_pos htwo, if_pos (show n ≤ 2047 by omega), Nat.mod_eq_of_lt (show n / 64 < 32 by omega),
      Nat.add_comm, Nat.add_comm 0x80]
  rw [if_neg htwo, if_neg (show ¬n ≤ 2047 by omega)]
  by_cases hthree : n < 0x10000
  · rw [if_pos hthree, if_pos (show n ≤ 65535 by omega),
      Nat.mod_eq_of_lt (show n / 4096 < 16 by omega), Nat.add_comm, Nat.add_comm 0x80,
      Nat.add_comm 0x80]
  · rw [if_neg hthree, if_neg (show ¬n ≤ 65535 by omega),
      Nat.mod_eq_of_lt (show n / 262144 < 8 by omega), Nat.add_comm, Nat.add_comm 0x80,
      Nat.add_comm 0x80, Nat.add_comm 0x80]

theorem toList_toUTF8 (s : String) : s.toUTF8.data.toList = encode s := by
  have h : s.toUTF8 = s.toList.utf8Encode := by
    rw [String.toUTF8_eq_toByteArray, ← String.toByteArray_ofList, String.ofList_toList]
  rw [h, List.utf8Encode, List.toList_data_toByteArray, encode, funext encodeChar_eq]

end Utf8

namespace LooseText

/-- A text is a string, or a half stands after a string in it. -/
theorem eq_ofString_or_half (t : LooseText) :
    (∃ s, t = ofString s) ∨ ∃ (s : String) (n : Fin 0x800) (rest : LooseText),
      t = ofString s ++ .half n :: rest := by
  induction t with
  | nil => exact .inl ⟨"", rfl⟩
  | cons p rest ih =>
    cases p with
    | half n => exact .inr ⟨"", n, rest, rfl⟩
    | char c =>
      rcases ih with ⟨s, rfl⟩ | ⟨s, n, after, rfl⟩
      · exact .inl ⟨.ofList (c :: s.toList), by simp [ofString]⟩
      · exact .inr ⟨.ofList (c :: s.toList), n, after, by simp [ofString]⟩

theorem halves_append (t u : LooseText) : halves (t ++ u) = t.halves ++ u.halves :=
  List.filterMap_append ..

theorem halves_chars (cs : List Char) : halves (cs.map .char) = [] := by
  induction cs with
  | nil => rfl
  | cons c cs ih => exact ih

theorem filled_chars (standIn : Char) (cs : List Char) :
    (cs.map CodePoint.char).map (·.filled standIn) = cs := by
  rw [List.map_map]
  exact List.map_id cs

theorem fill_ofString (standIn : Char) (s : String) : (ofString s).fill standIn = s := by
  rw [fill, ofString, filled_chars, String.ofList_toList]

theorem ofFillings_same (hs : List (Fin 0x800)) (c : Char) (as bs : List Char) :
    ofFillings hs (c :: as) (c :: bs) = .char c :: ofFillings hs as bs :=
  if_pos rfl

theorem ofFillings_apart {a b : Char} (h : a ≠ b) (n : Fin 0x800) (hs : List (Fin 0x800))
    (as bs : List Char) :
    ofFillings (n :: hs) (a :: as) (b :: bs) = .half n :: ofFillings hs as bs :=
  if_neg h

/-- Two fillings with different characters differ at the halves only. -/
theorem ofFillings_filled {a b : Char} (h : a ≠ b) (t : LooseText) :
    ofFillings t.halves (t.map (·.filled a)) (t.map (·.filled b)) = t := by
  induction t with
  | nil => cases halves [] <;> rfl
  | cons p rest ih =>
    cases p with
    | char c =>
      change ofFillings (halves rest) (c :: rest.map _) (c :: rest.map _) = _
      rw [ofFillings_same, ih]
    | half n =>
      change ofFillings (n :: halves rest) (a :: rest.map _) (b :: rest.map _) = _
      rw [ofFillings_apart h, ih]

end LooseText

namespace Utf8

theorem encodeLooseFrom_chars (cs : List Char) (position : Nat) :
    encodeLooseFrom position (cs.map .char) = .ok (cs.flatMap encodeChar) := by
  induction cs generalizing position with
  | nil => rfl
  | cons c cs ih =>
    rw [List.map_cons, encodeLooseFrom, ih]
    rfl

theorem encodeLoose_ofString (s : String) : encodeLoose (.ofString s) = .ok (encode s) :=
  encodeLooseFrom_chars s.toList 0

theorem encodeLooseFrom_half (cs : List Char) (n : Fin 0x800) (rest : LooseText)
    (position : Nat) :
    encodeLooseFrom position (cs.map .char ++ .half n :: rest) =
      .error ⟨position + cs.length, n, (rest.takeWhile CodePoint.isHalf).length + 1⟩ := by
  induction cs generalizing position with
  | nil => rfl
  | cons c cs ih =>
    rw [List.map_cons, List.cons_append, encodeLooseFrom, ih, List.length_cons,
      Nat.add_right_comm, Nat.add_assoc]
    rfl

end Utf8
end ModelGateway
