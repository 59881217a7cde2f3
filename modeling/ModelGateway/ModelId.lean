import ModelGateway.Fault
import ModelGateway.Text.Case
import ModelGateway.Text.Blank

/-!
# Model identifiers

A model id reads `[region.]provider.family[:version]`. The region is a cross-region routing
token; it counts as one only when a provider and a family still follow it.
-/
namespace ModelGateway

def regionTokens : List String := ["us", "eu", "apac", "us-gov", "global"]

structure ModelId where
  /-- The id as given, without surrounding blanks. -/
  raw : String
  provider : String
  family : String
  version : Option String
  region : Option String
  deriving DecidableEq, Repr

/-- Splits a text at the first occurrence of a character. -/
def splitFirst (mark : Char) : List Char → List Char × Option (List Char)
  | [] => ([], none)
  | c :: rest =>
    if c = mark then ([], some rest)
    else ((c :: (splitFirst mark rest).1), (splitFirst mark rest).2)

namespace ModelId

def isRegionToken (cs : List Char) : Bool := regionTokens.contains (Text.lower (String.ofList cs))

/-- Splits a dotted text into region, provider and the rest. -/
def split? (cs : List Char) : Option (Option (List Char) × List Char × List Char) :=
  match splitFirst '.' cs with
  | (_, none) => none
  | (first, some rest) =>
    match splitFirst '.' rest with
    | (second, some rest') =>
      if isRegionToken first then some (some first, second, rest') else some (none, first, rest)
    | (_, none) => some (none, first, rest)

/-- Reads a model id; surrounding blanks do not count. -/
def parse (given : String) : Except GatewayError ModelId :=
  let raw := Text.strip given
  match split? raw.toList with
  | none => .error (.unsupportedModel raw (some "expected '<provider>.<model>'"))
  | some (region, provider, rest) =>
    if provider.isEmpty || rest.isEmpty then
      .error (.unsupportedModel raw (some "empty provider or model family"))
    else
      let (family, version) := splitFirst ':' rest
      .ok { raw
            provider := Text.lower (String.ofList provider)
            family := Text.lower (String.ofList family)
            version := version.map String.ofList
            region := region.map String.ofList }

def ofValue (v : Value) : Except GatewayError ModelId := parse v.displayOrEmpty

def baseId (id : ModelId) : String :=
  match id.region with
  | some region => String.ofList (id.raw.toList.drop (region.length + 1))
  | none => id.raw

end ModelId
end ModelGateway
