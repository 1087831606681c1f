import PacedImages.Param.Assignment

/-!
# Sections of a parameter document

A document may be flat, or keyed by the name of a node, and the parameters may be wrapped once more
under `ros__parameters`. A name that does not lead to a mapping is passed over, so that a flat
document serves every node.
-/

namespace PacedImages

/-- The name that may wrap the parameters of a node. -/
def wrapperName : String := "ros__parameters"

/-- The mapping under a name, if there is one. -/
def submap? (fields : List (String × Value)) (name : String) :
    Option (List (String × Value)) :=
  match fields.find? (·.1 == name) with
  | some (_, .map inner) => some inner
  | _ => none

/-- The section of a node: the mapping under its name if there is one, unwrapped if it is wrapped. -/
def sectionOf (ns : Option String) (fields : List (String × Value)) : List (String × Value) :=
  let inner := (ns.bind (submap? fields)).getD fields
  (submap? inner wrapperName).getD inner

/-- The parameters that a document holds for a node. -/
def readSection (readDocument : DocumentReader) (ns : Option String) (document : String) :
    Except ParamError Parameters :=
  match readDocument document with
  | .error report => .error (.malformed report)
  | .ok .null => .ok ∅
  | .ok (.map fields) => .ok (.ofList (sectionOf ns fields))
  | .ok other => .error (.wrongType (.root other))

end PacedImages
