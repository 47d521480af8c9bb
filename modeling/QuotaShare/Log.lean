import QuotaShare.CommandLine
import QuotaShare.Event
import QuotaShare.Json.Value

/-!
# Log

The lines in which events are written, either for people or as JSON.
-/

namespace QuotaShare

/-- The value of a field in JSON. -/
def Field.json : Field → Json
  | text s => .text s
  | count n => .whole n
  | rate x => .real x

/-- The text of a field. -/
def Field.describe : Field → String
  | text s => s
  | count n => toString n
  | rate x => Decimal.Layout.detailed.float x

/-- The line of an event. -/
def Event.line (format : LogFormat) (e : Event) : String :=
  match format with
  | .text =>
    " ".intercalate (e.level.text :: e.message ::
      e.fields.map fun (name, value) => name ++ "=" ++ value.describe)
  | .json =>
    let fields := e.fields.map fun (name, value) => (name, value.json)
    Json.compact (.object (("level", .text e.level.text) :: ("message", .text e.message) :: fields))

end QuotaShare
