/-!
# UTF-8

`encode` writes each character as one to four octets. `decode` accepts exactly what
`encode` writes and otherwise names the first place where an octet sequence goes wrong:
overlong forms, surrogates and code points beyond U+10FFFF are refused by the range of
the octet that may follow a lead.

A text that comes from outside may hold half of a surrogate pair without the other half. Such a text
has no encoding, and `encodeLoose` names the first place that has none.
-/
namespace ModelGateway

/-- A code point of a text: a character, or half of a surrogate pair that stands alone, counted from
U+D800. -/
inductive CodePoint where
  | char (c : Char)
  | half (n : Fin 0x800)
  deriving DecidableEq, Repr

namespace CodePoint

def isHalf : CodePoint → Bool
  | char _ => false
  | half _ => true

def half? : CodePoint → Option (Fin 0x800)
  | char _ => none
  | half n => some n

/-- A character stays, and another stands in for a half. -/
def filled (standIn : Char) : CodePoint → Char
  | char c => c
  | half _ => standIn

end CodePoint

abbrev LooseText := List CodePoint

namespace LooseText

def ofString (s : String) : LooseText := s.toList.map .char

def halves (t : LooseText) : List (Fin 0x800) := t.filterMap CodePoint.half?

/-- The text with a character in place of every half. -/
def fill (standIn : Char) (t : LooseText) : String := String.ofList (t.map (·.filled standIn))

/-- The text that two fillings with different characters come from, given its halves: a half is where
they differ. -/
def ofFillings : (halves : List (Fin 0x800)) → List Char → List Char → LooseText
  | halves, a :: as, b :: bs =>
    if a = b then .char a :: ofFillings halves as bs
    else match halves with
      | n :: rest => .half n :: ofFillings rest as bs
      | [] => .char a :: ofFillings [] as bs
  | _, _, _ => []

end LooseText

namespace Utf8

abbrev Octets := List UInt8

def encodeChar (c : Char) : Octets :=
  let n := c.toNat
  if n < 0x80 then [.ofNat n]
  else if n < 0x800 then [.ofNat (0xC0 + n / 64), .ofNat (0x80 + n % 64)]
  else if n < 0x10000 then
    [.ofNat (0xE0 + n / 4096), .ofNat (0x80 + n / 64 % 64), .ofNat (0x80 + n % 64)]
  else
    [.ofNat (0xF0 + n / 262144), .ofNat (0x80 + n / 4096 % 64), .ofNat (0x80 + n / 64 % 64),
      .ofNat (0x80 + n % 64)]

def encode (s : String) : Octets := s.toList.flatMap encodeChar

/-- Why a text has no encoding: from `position` on it holds `count` halves of surrogate pairs. -/
structure EncodeFault where
  position : Nat
  first : Fin 0x800
  count : Nat
  deriving DecidableEq, Repr

/-- Encodes a text that starts at `position`. -/
def encodeLooseFrom (position : Nat) : LooseText → Except EncodeFault Octets
  | [] => .ok []
  | .char c :: rest => (encodeChar c ++ ·) <$> encodeLooseFrom (position + 1) rest
  | .half n :: rest => .error ⟨position, n, (rest.takeWhile CodePoint.isHalf).length + 1⟩

def encodeLoose (t : LooseText) : Except EncodeFault Octets := encodeLooseFrom 0 t

inductive Reason where
  | invalidStart
  | invalidContinuation
  | unexpectedEnd
  deriving DecidableEq, Repr

/-- Why octets are not UTF-8: the octets at fault start at `position`, the first of them is `octet`
and there are `count` of them. -/
structure Fault where
  position : Nat
  octet : UInt8
  count : Nat
  reason : Reason
  deriving DecidableEq, Repr

/-- A character of which some octets have been read. -/
structure Pending where
  start : Nat
  lead : UInt8
  /-- How many octets have been read, the lead among them. -/
  taken : Nat
  missing : Nat
  low : Nat
  high : Nat
  bits : Nat
  deriving DecidableEq, Repr

/-- What an octet announces as the first of several. -/
def Pending.ofLead? (start : Nat) (octet : UInt8) : Option Pending :=
  let b := octet.toNat
  if b < 0xC2 then none
  else if b < 0xE0 then some ⟨start, octet, 1, 1, 0x80, 0xBF, b - 0xC0⟩
  else if b < 0xF0 then
    some ⟨start, octet, 1, 2, if b = 0xE0 then 0xA0 else 0x80, if b = 0xED then 0x9F else 0xBF,
      b - 0xE0⟩
  else if b < 0xF5 then
    some ⟨start, octet, 1, 3, if b = 0xF0 then 0x90 else 0x80, if b = 0xF4 then 0x8F else 0xBF,
      b - 0xF0⟩
  else none

def Pending.fault (p : Pending) (reason : Reason) : Fault := ⟨p.start, p.lead, p.taken, reason⟩

/-- The state after a continuation octet of a character that needs more. -/
def Pending.extend (p : Pending) (b : Nat) : Pending :=
  { p with taken := p.taken + 1, missing := p.missing - 1, low := 0x80, high := 0xBF,
           bits := p.bits * 64 + (b - 0x80) }

/-- Decodes octets that start at `position`, with at most one character begun. -/
def decodeFrom (position : Nat) : Option Pending → Octets → Except Fault (List Char)
  | none, [] => .ok []
  | some p, [] => .error (p.fault .unexpectedEnd)
  | none, b :: rest =>
    if b.toNat < 0x80 then (Char.ofNat b.toNat :: ·) <$> decodeFrom (position + 1) none rest
    else match Pending.ofLead? position b with
      | some p => decodeFrom (position + 1) (some p) rest
      | none => .error ⟨position, b, 1, .invalidStart⟩
  | some p, b :: rest =>
    if p.low ≤ b.toNat ∧ b.toNat ≤ p.high then
      let next := p.extend b.toNat
      if p.missing ≤ 1 then (Char.ofNat next.bits :: ·) <$> decodeFrom (position + 1) none rest
      else decodeFrom (position + 1) (some next) rest
    else .error (p.fault .invalidContinuation)

def decode (octets : Octets) : Except Fault String :=
  String.ofList <$> decodeFrom 0 none octets

end Utf8
end ModelGateway
