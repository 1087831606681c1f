import PacedImages.Param.Kind

/-!
# Failures of parameter sources

One constructor for each cause. A document that is not well formed comes with its reader's report.
-/

namespace PacedImages

/-- Why a file that exists could not be read as text. -/
inductive FileFault where
  | isDirectory
  | notText
  | denied
deriving Repr, DecidableEq

def FileFault.message : FileFault → String
  | .isDirectory => "Is a directory (os error 21)"
  | .notText => "stream did not contain valid UTF-8"
  | .denied => "Permission denied (os error 13)"

/-- Why a parameter has the wrong type. -/
inductive TypeFault where
  /-- The document is neither a mapping nor null. -/
  | root (found : Value)
  /-- The parameter of that name does not fit its kind. -/
  | parameter (name : String) (mismatch : Mismatch)

/-- The parameter that a type fault is about. -/
def TypeFault.name : TypeFault → String
  | .root _ => "<root>"
  | .parameter name _ => name

def TypeFault.reason : TypeFault → String
  | .root found => s!"expected a mapping, found {found.compact}"
  | .parameter _ mismatch => mismatch.message

inductive ParamError where
  | file (fault : FileFault)
  | malformed (report : String)
  | wrongType (fault : TypeFault)
  | badAssignment (assignment : String)
  | unavailable (reason : String)

def ParamError.message : ParamError → String
  | .file fault => s!"failed to read file: {fault.message}"
  | .malformed report => s!"failed to parse YAML: {report}"
  | .wrongType fault => s!"parameter '{fault.name}' has the wrong type: {fault.reason}"
  | .badAssignment assignment =>
    s!"invalid parameter override '{assignment}': expected name=value"
  | .unavailable reason => s!"parameter source unavailable: {reason}"

end PacedImages
