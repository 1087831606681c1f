import PacedImages.Yaml.Cursor

/-!
# Tokens

The units of a document's text, each with the mark where it starts. Block collections have their
starts and ends marked, although the text shows them by indentation alone. Tags are sequences of
bytes, since a tag may spell out bytes that form no text.
-/

namespace PacedImages.Yaml

inductive TokenKind where
  | streamEnd
  | version (major minor : Nat)
  | tagHandle (handle : List Char) (stem : List UInt8)
  | documentStart
  | documentEnd
  | blockListStart
  | blockMapStart
  | blockEnd
  | flowListStart
  | flowListEnd
  | flowMapStart
  | flowMapEnd
  | blockEntry
  | flowEntry
  | key
  | value
  | alias (name : String)
  | anchor (name : String)
  | tag (handle : List Char) (suffix : List UInt8)
  | scalar (text : String) (plain : Bool)
deriving BEq

structure Token where
  kind : TokenKind
  mark : Mark

end PacedImages.Yaml
