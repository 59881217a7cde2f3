/-!
# Decoding base 64

Characters outside the alphabet are skipped. Decoding ends at the padding that completes a group of
four, whatever follows it; otherwise the last group has to be complete.
-/
namespace ModelGateway.Base64

inductive Fault where
  | notAscii
  | incompleteGroup
  deriving DecidableEq, Repr

/-- The six bits of a character of the alphabet. -/
def sextet? (c : Char) : Option Nat :=
  if 'A' ≤ c ∧ c ≤ 'Z' then some (c.toNat - 'A'.toNat)
  else if 'a' ≤ c ∧ c ≤ 'z' then some (c.toNat - 'a'.toNat + 26)
  else if '0' ≤ c ∧ c ≤ '9' then some (c.toNat - '0'.toNat + 52)
  else if c = '+' then some 62
  else if c = '/' then some 63
  else none

/-- What has been read of the current group of four characters. -/
structure Group where
  /-- The characters of the alphabet in it, at most three. -/
  taken : Nat
  /-- The padding right after them. -/
  pads : Nat
  /-- The bits that have not gone into an octet. -/
  bits : Nat
  deriving DecidableEq, Repr

def Group.start : Group := ⟨0, 0, 0⟩

/-- The octet that a further sextet completes, and the group after it. -/
def Group.add (g : Group) (sextet : Nat) : List UInt8 × Group :=
  match g.taken with
  | 0 => ([], ⟨1, 0, sextet⟩)
  | 1 => ([.ofNat (g.bits * 4 + sextet / 16)], ⟨2, 0, sextet % 16⟩)
  | 2 => ([.ofNat (g.bits * 16 + sextet / 4)], ⟨3, 0, sextet % 4⟩)
  | _ => ([.ofNat (g.bits * 64 + sextet)], .start)

def decodeFrom (g : Group) : List Char → Except Fault (List UInt8)
  | [] => if g.taken = 0 then .ok [] else .error .incompleteGroup
  | c :: rest =>
    if c = '=' then
      if 2 ≤ g.taken then
        if 4 ≤ g.taken + g.pads + 1 then .ok [] else decodeFrom { g with pads := g.pads + 1 } rest
      else decodeFrom g rest
    else match sextet? c with
      | some sextet => ((g.add sextet).1 ++ ·) <$> decodeFrom (g.add sextet).2 rest
      | none => decodeFrom g rest

def decode (s : String) : Except Fault (List UInt8) :=
  if s.toList.all fun c => c.toNat < 128 then decodeFrom .start s.toList else .error .notAscii

end ModelGateway.Base64
