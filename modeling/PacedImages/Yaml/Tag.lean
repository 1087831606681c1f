import PacedImages.Yaml.Escape
import PacedImages.Yaml.Token

/-!
# Tags, anchors and directives

The parts of a document that start with an indicator and a name. A tag consists of a handle and a
suffix, or of a suffix alone: in angle brackets, or where it is a lone exclamation mark. A suffix, and
what a handle stands for, end at the first zero byte that is written in them.
-/

namespace PacedImages.Yaml

/-- The characters of a tag's suffix that stand for themselves. -/
def isTagChar (bracketed : Bool) (c : Char) : Bool :=
  isNameChar c ||
    [';', '/', '?', ':', '@', '&', '=', '+', '$', '.', '!', '~', '*', '\'', '(', ')'].contains c ||
    (bracketed && [',', '[', ']'].contains c)

/-- The longest suffix that starts here; the fuel bounds the number of its characters. -/
def scanSuffix (bracketed : Bool) (origin : Origin) : Nat → List UInt8 → Cursor →
    Scan (List UInt8 × Cursor)
  | 0, acc, c => .ok (acc.reverse, c)
  | fuel + 1, acc, c =>
    match c.peek? with
    | some '%' =>
      match scanPercent origin c with
      | .ok (bytes, c) => scanSuffix bracketed origin fuel (bytes.reverse ++ acc) c
      | .error f => .error f
    | some x =>
      if isTagChar bracketed x then
        scanSuffix bracketed origin fuel (UInt8.ofNat x.toNat :: acc) c.next
      else .ok (acc.reverse, c)
    | none => .ok (acc.reverse, c)

/-- What counts of the bytes of a suffix. -/
def suffixText (suffix : List UInt8) : List UInt8 := suffix.takeWhile (· != 0)

/-- A suffix for which at least one character is written. -/
def scanSomeSuffix (bracketed : Bool) (origin : Origin) (c : Cursor) :
    Scan (List UInt8 × Cursor) := do
  let (suffix, c) ← scanSuffix bracketed origin (c.rest.length + 1) [] c
  c.expect (!suffix.isEmpty) .tagEmpty origin
  return (suffixText suffix, c)

/-- An exclamation mark, a name, and a second exclamation mark if there is one. -/
def scanHandle (origin : Origin) (c : Cursor) : Scan (List Char × Cursor) := do
  c.expect (c.looksAt (· == '!')) .tagMarkMissing origin
  let (name, c) := c.next.takeRun isNameChar
  if c.looksAt (· == '!') then return ('!' :: name ++ ['!'], c.next)
  else return ('!' :: name, c)

/-- Whether a handle has a mark at both ends. -/
def isClosedHandle (handle : List Char) : Bool :=
  1 < handle.length && handle.getLast? == some '!'

/-- A tag's handle and suffix. -/
def scanTagParts (c : Cursor) : Scan (List Char × List UInt8 × Cursor) :=
  let inTag : Origin := ⟨.tag, c.mark⟩
  let inSuffix : Origin := ⟨.tagSuffix, c.mark⟩
  if c.ahead? 1 == some '<' then do
    let (suffix, c) ← scanSomeSuffix true inSuffix (c.skip 2)
    c.expect (c.looksAt (· == '>')) .tagNotClosed inTag
    return ([], suffix, c.next)
  else do
    let (handle, c) ← scanHandle inTag c
    if isClosedHandle handle then
      let (suffix, c) ← scanSomeSuffix false inSuffix c
      return (handle, suffix, c)
    else
      let named := handle.tail.map fun x => UInt8.ofNat x.toNat
      let (suffix, c) ← scanSuffix false inSuffix (c.rest.length + 1) named.reverse c
      match suffixText suffix with
      | [] => return ([], [UInt8.ofNat '!'.toNat], c)
      | text => return (['!'], text, c)

/-- A tag, which a blank, a break or the end follows, or in a flow collection a comma. -/
def scanTag (flow : Bool) (c : Cursor) : Scan (TokenKind × Cursor) := do
  let start := c.mark
  let (handle, suffix, c) ← scanTagParts c
  c.expect (c.isGapAt 0 || (flow && c.looksAt (· == ','))) .gapMissing ⟨.tag, start⟩
  return (.tag handle suffix, c)

/-- The name behind the indicator of an anchor or an alias. -/
def scanAnchorName (construct : Construct) (c : Cursor) : Scan (String × Cursor) := do
  let start := c.mark
  let (name, c) := c.next.takeRun isNameChar
  let closed := c.isGapAt 0 || c.looksAt ['?', ':', ',', ']', '\x7d', '%', '@', '\x60'].contains
  c.expect (!name.isEmpty && closed) .anchorNameMissing ⟨construct, start⟩
  return (String.ofList name, c)

/-- A part of a version number: one to nine digits. -/
def scanVersionPart (origin : Origin) (c : Cursor) : Scan (Nat × Cursor) := do
  let (digits, after) := c.takeRun Char.isDigit
  (c.skip 9).expect (digits.length ≤ 9) .versionTooLong origin
  let number ← c.demand (Text.digits? 10 digits) .versionMissing origin
  return (number, after)

def scanVersion (start : Mark) (c : Cursor) : Scan (TokenKind × Cursor) := do
  let origin : Origin := ⟨.versionDirective, start⟩
  let (major, c) ← scanVersionPart origin (c.skipRun isSpaceOrTab)
  c.expect (c.looksAt (· == '.')) .versionPointMissing origin
  let (minor, c) ← scanVersionPart origin c.next
  return (.version major minor, c)

/-- The meaning of a handle: the handle, blanks, and what it stands for. -/
def scanTagHandle (start : Mark) (c : Cursor) : Scan (TokenKind × Cursor) := do
  let (handle, c) ← scanHandle ⟨.tagDirectiveMark, start⟩ (c.skipRun isSpaceOrTab)
  c.expect (handle == ['!'] || isClosedHandle handle) .tagMarkMissing ⟨.tagDirectiveHandle, start⟩
  c.expect (c.looksAt isSpaceOrTab) .blankMissing ⟨.tagDirective, start⟩
  let (stem, c) ← scanSomeSuffix true ⟨.tagDirectiveStem, start⟩ (c.skipRun isSpaceOrTab)
  c.expect (c.isGapAt 0) .gapMissing ⟨.tagDirective, start⟩
  return (.tagHandle handle stem, c)

/-- A directive, the cursor standing at its percent sign; it takes the whole line. -/
def scanDirective (c : Cursor) : Scan (TokenKind × Cursor) := do
  let start := c.mark
  let origin : Origin := ⟨.directive, start⟩
  let (name, c) := c.next.takeRun isNameChar
  c.expect (!name.isEmpty) .directiveNameMissing origin
  c.expect (c.isGapAt 0) .directiveNameBroken origin
  let (token, c) ← match String.ofList name with
    | "YAML" => scanVersion start c
    | "TAG" => scanTagHandle start c
    | _ => .error (c.fault .directiveUnknown (some origin))
  let c := (c.skipRun isSpaceOrTab).skipComment
  c.expect c.atLineEnd .lineNotEnded origin
  return (token, c.takeBreak.2)

end PacedImages.Yaml
