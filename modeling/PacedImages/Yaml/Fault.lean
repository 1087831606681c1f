import PacedImages.Text.Quoted
import PacedImages.Yaml.Cursor

/-!
# Faults of documents

What is wrong with a document, where it was found, and what was being read. The report gives the
problem and its place, then the construct that it belongs to and where that starts if it is
elsewhere. A place at the very start of the document is not mentioned.
-/

namespace PacedImages.Yaml

inductive Problem where
  | controlCharacter
  | missingColon
  | strayCharacter
  | entryNotAllowed
  | keyNotAllowed
  | valueNotAllowed
  | directiveNameMissing
  | directiveNameBroken
  | directiveUnknown
  | lineNotEnded
  | versionPointMissing
  | versionTooLong
  | versionMissing
  | blankMissing
  | gapMissing
  | anchorNameMissing
  | tagNotClosed
  | tagMarkMissing
  | tagEmpty
  | tagByteMissing
  | tagLeadingByte
  | tagFollowingByte
  | increment
  | tabInIndentation
  | documentMark
  | unclosedQuote
  | unknownEscape
  | escapeDigits
  | escapeCode
  | strayColon
  | tabBeforeText
  | documentStartMissing
  | versionRepeated
  | versionUnsupported
  | handleRepeated
  | handleUnknown
  | contentMissing
  | dashMissing
  | keyMissing
  | listNotClosed
  | mapNotClosed
  | anchorUnknown
  | tooDeep
  | tooManyAliases
  | secondDocument
  /-- A value at a path of names and positions that its reader does not take. -/
  | unfit (path reason : String)

def Problem.message : Problem → String
  | .controlCharacter => "control characters are not allowed"
  | .missingColon => "could not find expected ':'"
  | .strayCharacter => "found character that cannot start any token"
  | .entryNotAllowed => "block sequence entries are not allowed in this context"
  | .keyNotAllowed => "mapping keys are not allowed in this context"
  | .valueNotAllowed => "mapping values are not allowed in this context"
  | .directiveNameMissing => "could not find expected directive name"
  | .directiveNameBroken => "found unexpected non-alphabetical character"
  | .directiveUnknown => "found unknown directive name"
  | .lineNotEnded => "did not find expected comment or line break"
  | .versionPointMissing => "did not find expected digit or '.' character"
  | .versionTooLong => "found extremely long version number"
  | .versionMissing => "did not find expected version number"
  | .blankMissing => "did not find expected whitespace"
  | .gapMissing => "did not find expected whitespace or line break"
  | .anchorNameMissing => "did not find expected alphabetic or numeric character"
  | .tagNotClosed => "did not find the expected '>'"
  | .tagMarkMissing => "did not find expected '!'"
  | .tagEmpty => "did not find expected tag URI"
  | .tagByteMissing => "did not find URI escaped octet"
  | .tagLeadingByte => "found an incorrect leading UTF-8 octet"
  | .tagFollowingByte => "found an incorrect trailing UTF-8 octet"
  | .increment => "found an indentation indicator equal to 0"
  | .tabInIndentation => "found a tab character where an indentation space is expected"
  | .documentMark => "found unexpected document indicator"
  | .unclosedQuote => "found unexpected end of stream"
  | .unknownEscape => "found unknown escape character"
  | .escapeDigits => "did not find expected hexadecimal number"
  | .escapeCode => "found invalid Unicode character escape code"
  | .strayColon => "found unexpected ':'"
  | .tabBeforeText => "found a tab character that violates indentation"
  | .documentStartMissing => "did not find expected <document start>"
  | .versionRepeated => "found duplicate %YAML directive"
  | .versionUnsupported => "found incompatible YAML document"
  | .handleRepeated => "found duplicate %TAG directive"
  | .handleUnknown => "found undefined tag handle"
  | .contentMissing => "did not find expected node content"
  | .dashMissing => "did not find expected '-' indicator"
  | .keyMissing => "did not find expected key"
  | .listNotClosed => "did not find expected ',' or ']'"
  | .mapNotClosed => "did not find expected ',' or '\x7d'"
  | .anchorUnknown => "unknown anchor"
  | .tooDeep => "recursion limit exceeded"
  | .tooManyAliases => "repetition limit exceeded"
  | .secondDocument =>
    "deserializing from YAML containing more than one document is not supported"
  | .unfit path reason => if path == "." then reason else s!"{path}: {reason}"

/-- What was being read when a problem was found. -/
inductive Construct where
  | simpleKey
  | nextToken
  | directive
  | versionDirective
  | tagDirective
  | tagDirectiveMark
  | tagDirectiveHandle
  | tagDirectiveStem
  | anchor
  | alias
  | tag
  | tagSuffix
  | blockScalar
  | quotedScalar
  | escape
  | plainScalar
  | node
  | blockNode
  | flowNode
  | blockList
  | blockMap
  | flowList
  | flowMap
deriving DecidableEq

def Construct.message : Construct → String
  | .simpleKey => "while scanning a simple key"
  | .nextToken => "while scanning for the next token"
  | .directive => "while scanning a directive"
  | .versionDirective => "while scanning a %YAML directive"
  | .tagDirective => "while scanning a %TAG directive"
  | .tagDirectiveMark => "while scanning a tag directive"
  | .tagDirectiveHandle => "while parsing a tag directive"
  | .tagDirectiveStem => "while parsing a %TAG directive"
  | .anchor => "while scanning an anchor"
  | .alias => "while scanning an alias"
  | .tag => "while scanning a tag"
  | .tagSuffix => "while parsing a tag"
  | .blockScalar => "while scanning a block scalar"
  | .quotedScalar => "while scanning a quoted scalar"
  | .escape => "while parsing a quoted scalar"
  | .plainScalar => "while scanning a plain scalar"
  | .node => "while parsing a node"
  | .blockNode => "while parsing a block node"
  | .flowNode => "while parsing a flow node"
  | .blockList => "while parsing a block collection"
  | .blockMap => "while parsing a block mapping"
  | .flowList => "while parsing a flow sequence"
  | .flowMap => "while parsing a flow mapping"

/-- Where a problem was found. -/
inductive Place where
  | spot (mark : Mark)
  /-- The number of bytes in front of it. -/
  | behindBytes (count : Nat)
  | unknown

/-- A construct and where it starts. -/
structure Origin where
  construct : Construct
  mark : Mark

structure Fault where
  problem : Problem
  place : Place
  origin : Option Origin

/-- Whether a mark stands at the very start of the document's first line. -/
def Mark.isStart (m : Mark) : Bool := m.line == 0 && m.column == 0

def Mark.samePosition (m n : Mark) : Bool := m.line == n.line && m.column == n.column

def Mark.text (m : Mark) : String := s!" at line {m.line + 1} column {m.column + 1}"

def Place.text : Place → String
  | .spot mark => if mark.isStart then "" else mark.text
  | .behindBytes count => if count == 0 then "" else s!" at position {count}"
  | .unknown => ""

/-- The construct, with its start unless the problem is there. -/
def Origin.text (o : Origin) (place : Place) : String :=
  let elsewhere := match place with
    | .spot mark => !mark.samePosition o.mark
    | _ => true
  let start := if !o.mark.isStart && elsewhere then o.mark.text else ""
  s!", {o.construct.message}{start}"

def Fault.message (f : Fault) : String :=
  let origin := match f.origin with
    | some o => o.text f.place
    | none => ""
  s!"{f.problem.message}{f.place.text}{origin}"

/-- A step that may find a fault. -/
abbrev Scan (α : Type) := Except Fault α

/-- The fault that a cursor stands at. -/
def Cursor.fault (c : Cursor) (problem : Problem) (origin : Option Origin) : Fault :=
  ⟨problem, .spot c.mark, origin⟩

/-- Demands a condition of the place where a cursor stands. -/
def Cursor.expect (c : Cursor) (condition : Bool) (problem : Problem) (origin : Origin) :
    Scan Unit :=
  if condition then .ok () else .error (c.fault problem (some origin))

/-- The found value, or a fault where the cursor stands. -/
def Cursor.demand (c : Cursor) (found : Option α) (problem : Problem) (origin : Origin) :
    Scan α :=
  match found with
  | some a => .ok a
  | none => .error (c.fault problem (some origin))

end PacedImages.Yaml
