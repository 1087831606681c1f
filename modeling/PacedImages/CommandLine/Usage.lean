import PacedImages.CommandLine.Basic

/-!
# Usage

The text that explains the switches, and the texts of refusals.
-/

namespace PacedImages

/-- The value that counts where a switch is given nowhere, for switches that have one. -/
def Switch.default? : Switch → Option String
  | .name => some CommandLine.standard.name
  | .topic => some CommandLine.standard.topic
  | .transport => some CommandLine.standard.backend.name
  | .natsUrl => some CommandLine.standard.natsUrl
  | .queueDepth => some (toString CommandLine.standard.queueDepth)
  | .paramWait => some (toString CommandLine.standard.paramWait)
  | _ => none

/-- What the usage text says of a switch, with its stand-in and its default. -/
def Switch.explanation (environment : String → Option String) (s : Switch) : String :=
  let standIn := match s.standIn? with
    | some key =>
      let value := (environment key).getD ""
      s!" [env: {key}={value}]"
    | none => ""
  let otherwise := match s.default? with
    | some value => s!" [default: {value}]"
    | none => ""
  s.purpose ++ standIn ++ otherwise

/-- The two lines for a switch. -/
def Switch.usage (environment : String → Option String) (s : Switch) : String :=
  let lead := if s = .help then "  -h, " else "      "
  s!"{lead}{s.synopsis}\n          {s.explanation environment}\n"

def CommandLine.usage (environment : String → Option String) : String :=
  "image-publisher: publish a bounded number of images at a fixed rate\n\n" ++
    "Usage: image-publisher [OPTIONS]\n\nOptions:\n" ++
    String.join (Switch.all.map (Switch.usage environment))

namespace Refusal

/-- What is wrong, in one sentence. -/
def message : Refusal → String
  | .help => "help was asked for"
  | .unknown argument => s!"unexpected argument '{argument}' found"
  | .missingValue switch => s!"a value is required for '{switch.synopsis}' but none was supplied"
  | .badValue switch text => s!"invalid value '{text}' for '{switch.synopsis}'"
  | .repeated switch => s!"the argument '{switch.synopsis}' cannot be used multiple times"
  | .needlessValue switch text =>
    s!"unexpected value '{text}' for '{switch.synopsis}' found; no more were expected"

/-- What is written to the standard error stream. -/
def report (r : Refusal) : String :=
  s!"error: {r.message}\n\nFor more information, try '--help'.\n"

end Refusal

end PacedImages
