import PacedImages.Log.Entry
import PacedImages.Param.Value

/-!
# Written log entries

An entry is written on a line, either as a JSON object with its fields in an object of their own, or
plainly, with texts in quotes and words without. The message counts among the fields.
-/

namespace PacedImages

/-- A field as a JSON value. -/
def FieldValue.value : FieldValue → Value
  | .number n => .int n
  | .text s | .words s => .text s
  | .real x => .real x

/-- A field in a plain line. -/
def FieldValue.plain (v : FieldValue) : String :=
  match v with
  | .text s => Text.quoted s
  | .words s => s
  | _ => v.value.compact

namespace LogEntry

/-- The message and the fields as a JSON object. -/
def fieldObject (e : LogEntry) : Value :=
  .ofFields (("message", .text e.message) :: e.fields.map fun (name, v) => (name, v.value))

/-- An entry as a JSON object, without its time. -/
def object (e : LogEntry) : List (String × Value) :=
  [("level", .text e.level.name), ("target", .text e.component.target), ("fields", e.fieldObject)]

/-- The line of an entry in JSON. -/
def jsonLine (time : String) (e : LogEntry) : String :=
  (Value.ofFields (("timestamp", .text time) :: e.object)).compact

/-- The plain line of an entry. -/
def plainLine (time : String) (e : LogEntry) : String :=
  let level := String.ofList (List.replicate (5 - e.level.name.length) ' ') ++ e.level.name
  let fields := e.fields.map fun (name, v) => s!" {name}={v.plain}"
  s!"{time} {level} {e.component.target}: {e.message}" ++ String.join fields

end LogEntry

end PacedImages
