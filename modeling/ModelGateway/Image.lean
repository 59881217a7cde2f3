import ModelGateway.Value.Display

/-!
# Results of image generation
-/
namespace ModelGateway

inductive ImageStatus where
  | noData
  | invalid
  | failed
  | success
  deriving DecidableEq, Repr

namespace ImageStatus

def name : ImageStatus → String
  | noData => "no_data"
  | invalid => "invalid"
  | failed => "failed"
  | success => "success"

def all : List ImageStatus := [noData, invalid, failed, success]

def ofName? (s : String) : Option ImageStatus := all.find? fun status => status.name == s

end ImageStatus

structure ImageResult where
  status : ImageStatus
  base64 : Option String
  finishReason : Value
  seed : Value
  deriving Repr

namespace ImageResult

def ok (r : ImageResult) : Bool := r.status == .success

/-- The image in base 64 after a success, otherwise what went wrong. -/
def message (r : ImageResult) : String :=
  match r.status with
  | .success => r.base64.getD ""
  | .noData => "No image data received."
  | .invalid => "Image generation failed: Invalid response."
  | .failed => s!"Image generation failed: {r.finishReason.display}"

end ImageResult
end ModelGateway
