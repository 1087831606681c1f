import PacedImages.Publisher.Settings

/-!
# Failure reports

A report gives the context of a failure and then its causes, the outermost first. A single cause is
indented; several are numbered from zero. Further lines of a cause stand under its first.
-/

namespace PacedImages

/-- The message of a failure and those of the failures behind it. -/
def ParamError.causes (e : ParamError) : List String :=
  match e with
  | .file fault => [e.message, fault.message]
  | .malformed report => [e.message, report]
  | _ => [e.message]

/-- The message of a failure and those of the failures behind it. -/
def WorkerError.causes (e : WorkerError) : List String :=
  match e with
  | .param inner => e.message :: inner.causes
  | .transport inner => [e.message, inner.message]
  | _ => [e.message]

namespace Report

/-- A text of which the first line follows a lead and the others stand as far in. -/
def indented (lead text : String) : String :=
  let margin := String.ofList (List.replicate lead.length ' ')
  lead ++ ("\n" ++ margin).intercalate (text.splitOn "\n")

/-- A cause behind its number. -/
def numbered (place : Nat) (cause : String) : String :=
  let digits := toString place
  indented (String.ofList (List.replicate (5 - digits.length) ' ') ++ digits ++ ": ") cause

/-- The lines under the context. -/
def causeLines : List String → List String
  | [] => []
  | [cause] => ["", "Caused by:", indented "    " cause]
  | causes => ["", "Caused by:"] ++ causes.mapIdx numbered

/-- The report of a failure. -/
def text (context : String) (causes : List String) : String :=
  String.join ((s!"Error: {context}" :: causeLines causes).map (· ++ "\n"))

end Report

end PacedImages
