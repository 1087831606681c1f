import PacedImages.Messaging.Subject

/-!
# Subject books

A book gives topics their subjects under one prefix and remembers those it gave.
-/

namespace PacedImages

structure SubjectBook where
  lead : String
  known : Std.ExtTreeMap String String

namespace SubjectBook

/-- A book that puts every subject under the prefix. -/
def under (given : String) : SubjectBook := ⟨Subject.lead given, ∅⟩

def plain : SubjectBook := under ""

/-- The subject of a topic, and the book with the topic entered. -/
def subject (book : SubjectBook) (topic : String) :
    Except TransportError String × SubjectBook :=
  match book.known[topic]? with
  | some subject => (.ok subject, book)
  | none =>
    match Subject.ofTopic topic with
    | .ok tokens =>
      let subject := book.lead ++ tokens
      (.ok subject, { book with known := book.known.insert topic subject })
    | .error e => (.error e, book)

/-- The answers to a list of topics, one after the other. -/
def subjects : SubjectBook → List String → List (Except TransportError String)
  | _, [] => []
  | book, topic :: rest =>
    let (answer, book) := book.subject topic
    answer :: book.subjects rest

end SubjectBook

end PacedImages
