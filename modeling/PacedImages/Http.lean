import PacedImages.Metrics

/-!
# Health and metrics over HTTP

Two routes that are read with GET; HEAD gives the same answer without its body. Of a target only the
path counts, not what stands in front of it or follows it.
-/

namespace PacedImages.Http

structure Response where
  status : Nat
  contentType : Option String
  allow : Option String
  body : String
deriving Repr, DecidableEq

/-- The characters of a scheme: ASCII letters and digits, and three marks. -/
def isSchemeChar (c : Char) : Bool := c.isAlphanum || c == '+' || c == '-' || c == '.'

/-- The target without a scheme and a host in front of its path. -/
def withoutHost (target : List Char) : List Char :=
  match target.dropWhile isSchemeChar with
  | ':' :: '/' :: '/' :: rest => rest.dropWhile (· != '/')
  | _ => target

/-- The path of a target. -/
def path (target : String) : String :=
  String.ofList (withoutHost (target.toList.takeWhile fun c => c != '?' && c != '#'))

/-- What a path serves. -/
def content? (m : Metrics) : String → Option String
  | "/healthz" => some "ok"
  | "/metrics" => some m.text
  | _ => none

def respond (m : Metrics) (method target : String) : Response :=
  match content? m (path target) with
  | none => ⟨404, none, none, ""⟩
  | some body =>
    let contentType := some "text/plain; charset=utf-8"
    match method with
    | "GET" => ⟨200, contentType, none, body⟩
    | "HEAD" => ⟨200, contentType, none, ""⟩
    | _ => ⟨405, none, some "GET,HEAD", ""⟩

end PacedImages.Http
