import ModelGateway.Text.CaseMap
import ModelGateway.Text.CaseContext

/-!
# Lowercase and uppercase of texts

The full mappings: a character may become several, and a capital sigma at the end of a word
becomes a final sigma.
-/
namespace ModelGateway.Text

/-- Whether a capital sigma after `before` (nearest character first) and in front of `after` ends
a word: the nearest character that counts is a letter before it and none after it. -/
def isFinalSigma (before after : List Char) : Bool :=
  (before.dropWhile isCaseIgnorable).head?.any isCased &&
    !(after.dropWhile isCaseIgnorable).head?.any isCased

/-- The lowercase of `cs` when it follows `before`, whose nearest character comes first. -/
def lowerAfter (before : List Char) : List Char → List Char
  | [] => []
  | c :: rest =>
    (if c = 'Σ' then [if isFinalSigma before rest then 'ς' else 'σ'] else lowerChar c) ++
      lowerAfter (c :: before) rest

def lower (s : String) : String := String.ofList (lowerAfter [] s.toList)

def upper (s : String) : String := String.ofList (s.toList.flatMap upperChar)

end ModelGateway.Text
