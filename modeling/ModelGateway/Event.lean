import ModelGateway.Json.Writer
import ModelGateway.Options

/-!
# Log events

An event is logged as one line of JSON with its name and the time, followed by its fields. The
environment can switch logging off.
-/
namespace ModelGateway

structure Event where
  name : String
  fields : Object
  deriving Repr

namespace Event

def enabled (env : Environment) : Bool :=
  let setting := (env.value? "BEDROCK_LOG_EVENTS").getD "1"
  !Options.noWords.contains (Text.lower (Text.strip setting))

/-- The members of an event's record. A field may replace the name or the time. -/
def record (time : String) (e : Event) : Object :=
  Object.putAll [("event", .text e.name), ("ts", .text time)] e.fields

/-- An event as a line of text, without the line's end. -/
def line (time : String) (e : Event) : String := Json.render .line (.object (e.record time))

def lines (env : Environment) (time : String) (events : List Event) : List String :=
  if enabled env then events.map (line time) else []

/-- What events add to the error output. -/
def output (env : Environment) (time : String) (events : List Event) : String :=
  String.join ((lines env time events).map (· ++ "\n"))

end Event
end ModelGateway
