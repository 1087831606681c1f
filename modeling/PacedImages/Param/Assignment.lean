import PacedImages.Param.Parameters
import PacedImages.Text.Blank

/-!
# Assignments

Overrides written as `name=value`. The text before the first equals sign, trimmed, is the name; the
rest is read as a document, except that a blank rest is the empty text. How a document is read is a
parameter: it gives a value or a report.
-/

namespace PacedImages

/-- A way to read a document: to a value, or to a report of what is wrong with it. -/
abbrev DocumentReader := String → Except String Value

/-- The characters before the first equals sign and those after it. -/
def splitAssignment? : List Char → Option (List Char × List Char)
  | [] => none
  | '=' :: rest => some ([], rest)
  | c :: rest => (splitAssignment? rest).map fun (name, value) => (c :: name, value)

/-- The value on the right of an assignment. -/
def assignedValue (readDocument : DocumentReader) (raw : List Char) : Except ParamError Value :=
  if (Text.trim raw).isEmpty then .ok (.text "")
  else match readDocument (String.ofList raw) with
    | .ok v => .ok v
    | .error report => .error (.malformed report)

/-- The name and the value of an assignment. -/
def readAssignment (readDocument : DocumentReader) (assignment : String) :
    Except ParamError (String × Value) :=
  match splitAssignment? assignment.toList with
  | none => .error (.badAssignment assignment)
  | some (before, after) =>
    let name := Text.trim before
    if name.isEmpty then .error (.badAssignment assignment)
    else match assignedValue readDocument after with
      | .ok v => .ok (String.ofList name, v)
      | .error e => .error e

/-- The set that a list of assignments leaves behind, or the failure of the first bad one. -/
def readAssignments (readDocument : DocumentReader) (assignments : List String) :
    Except ParamError Parameters :=
  assignments.foldlM
    (fun set assignment => do
      let (name, value) ← readAssignment readDocument assignment
      return set.insert name value)
    ∅

end PacedImages
