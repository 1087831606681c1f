import PacedImages.Messaging.Message
import PacedImages.Text.Blank

/-!
# Subjects

A topic is a path of segments between slashes; its subject is a list of tokens between dots, one for
each segment that is not empty. Characters with a meaning of their own in subjects, and blanks, are
replaced, so a segment never becomes more than one token. A topic without any segment has no subject.
-/

namespace PacedImages.Subject

/-- Whether a character has to be replaced in a token. -/
def isReserved (c : Char) : Bool :=
  c == '.' || c == '*' || c == '>' || Text.isBlank c

/-- A token without reserved characters. -/
def sanitize (token : List Char) : List Char :=
  token.map fun c => if isReserved c then '_' else c

/-- The pieces between the slashes of a path, empty ones included. -/
def pieces : List Char → List (List Char)
  | [] => [[]]
  | '/' :: rest => [] :: pieces rest
  | c :: rest =>
    match pieces rest with
    | first :: others => (c :: first) :: others
    | [] => [[c]]

/-- The segments of a topic. -/
def segments (topic : List Char) : List (List Char) :=
  (pieces topic).filter fun segment => !segment.isEmpty

/-- Tokens with dots between them. -/
def joinDots : List (List Char) → List Char
  | [] => []
  | [token] => token
  | token :: rest => token ++ '.' :: joinDots rest

/-- The subject of a topic without anything in front. -/
def ofTopic (topic : String) : Except TransportError String :=
  match segments topic.toList with
  | [] => .error (.invalidTopic topic)
  | tokens => .ok (String.ofList (joinDots (tokens.map sanitize)))

/-- What a prefix puts in front of subjects: nothing if it is empty, else the text up to its last
dots and one dot. -/
def lead (given : String) : String :=
  if given.isEmpty then ""
  else String.ofList ((given.toList.reverse.dropWhile (· == '.')).reverse ++ ['.'])

end PacedImages.Subject
