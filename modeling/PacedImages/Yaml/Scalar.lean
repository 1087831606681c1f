import PacedImages.Yaml.Escape

/-!
# Scalars

The text of quoted, plain and block scalars. Text over several lines is folded: a single line break
becomes a space, further ones stay, and a separator is never folded. Block scalars keep their lines
and are folded only where they ask for it. Each loop is given fuel for every character that is left.
-/

namespace PacedImages.Yaml

/-- A break and those after it as they stand in folded text. -/
def foldBreaks (leading trailing : List Char) : List Char :=
  if leading == ['\n'] then
    if trailing.isEmpty then [' '] else trailing
  else leading ++ trailing

/-- Blanks and breaks between the words of a scalar. -/
structure Gap where
  blanks : List Char
  leading : List Char
  trailing : List Char
  /-- Whether blanks are dropped, since a break precedes them. -/
  broken : Bool

namespace Gap

def none : Gap := ⟨[], [], [], false⟩

/-- The gap after a break that the text does not show. -/
def joined : Gap := ⟨[], [], [], true⟩

def text (g : Gap) : List Char :=
  if g.broken then foldBreaks g.leading g.trailing else g.blanks

/-- The gap one break longer. -/
def addBreak (g : Gap) (read : List Char) : Gap :=
  if g.broken then { g with trailing := g.trailing ++ read }
  else ⟨[], read, g.trailing, true⟩

/-- The gap from here on; a tab that would indent a line of the plain scalar below `column` is refused. -/
def scan (start : Mark) (column : Nat) : Nat → Gap → Cursor → Scan (Gap × Cursor)
  | 0, g, c => .ok (g, c)
  | fuel + 1, g, c =>
    match c.peek? with
    | some x =>
      if isSpaceOrTab x then
        if g.broken then
          if x == '\t' && c.column < column then
            .error (c.fault .tabBeforeText (some ⟨.plainScalar, start⟩))
          else scan start column fuel g c.next
        else scan start column fuel { g with blanks := g.blanks ++ [x] } c.next
      else if isBreak x then
        let (read, c) := c.takeBreak
        scan start column fuel (g.addBreak read) c
      else .ok (g, c)
    | Option.none => .ok (g, c)

end Gap

/-- Words up to the next gap or the closing quote, put in front of `acc` in reverse. -/
def scanQuotedWord (double : Bool) (start : Mark) : Nat → List Char → Cursor →
    Scan (List Char × Gap × Cursor)
  | 0, acc, c => .ok (acc, .none, c)
  | fuel + 1, acc, c =>
    if c.isGapAt 0 then .ok (acc, .none, c)
    else match double, c.rest with
      | false, '\'' :: '\'' :: _ => scanQuotedWord double start fuel ('\'' :: acc) (c.skip 2)
      | false, '\'' :: _ => .ok (acc, .none, c)
      | true, '"' :: _ => .ok (acc, .none, c)
      | true, '\\' :: _ =>
        if (c.ahead? 1).any isBreak then .ok (acc, .joined, c.next.takeBreak.2)
        else match scanEscape start c with
          | .ok (char, c) => scanQuotedWord double start fuel (char :: acc) c
          | .error f => .error f
      | _, x :: _ => scanQuotedWord double start fuel (x :: acc) c.next
      | _, [] => .ok (acc, .none, c)

/-- The rest of a quoted scalar up to its closing quote. -/
def scanQuotedRest (double : Bool) (start : Mark) : Nat → List Char → Cursor →
    Scan (List Char × Cursor)
  | 0, acc, c => .ok (acc.reverse, c)
  | fuel + 1, acc, c =>
    if c.atAnyDocumentMark then .error (c.fault .documentMark (some ⟨.quotedScalar, start⟩))
    else if c.atEnd then .error (c.fault .unclosedQuote (some ⟨.quotedScalar, start⟩))
    else match scanQuotedWord double start (fuel + 1) acc c with
      | .error f => .error f
      | .ok (acc, gap, c) =>
        if c.looksAt (· == if double then '"' else '\'') then .ok (acc.reverse, c.next)
        else match Gap.scan start 0 (fuel + 1) gap c with
          | .error f => .error f
          | .ok (gap, c) => scanQuotedRest double start fuel (gap.text.reverse ++ acc) c

/-- A quoted scalar, the cursor standing at its opening quote. -/
def scanQuoted (double : Bool) (c : Cursor) : Scan (String × Cursor) := do
  let (text, c) ← scanQuotedRest double c.mark (c.rest.length + 1) [] c.next
  return (String.ofList text, c)

/-- The characters that end a plain scalar in brackets. -/
def isFlowMark (x : Char) : Bool := [',', '[', ']', '\x7b', '\x7d'].contains x

/-- A run of plain text up to a gap or to where the scalar ends. -/
def scanPlainWord (flow : Bool) (start : Mark) : Nat → List Char → Cursor →
    Scan (List Char × Cursor)
  | 0, acc, c => .ok (acc, c)
  | fuel + 1, acc, c =>
    match c.rest with
    | [] => .ok (acc, c)
    | x :: _ =>
      if c.isGapAt 0 then .ok (acc, c)
      else if flow && x == ':' && (c.ahead? 1).any (fun y => y == '?' || isFlowMark y) then
        .error (c.fault .strayColon (some ⟨.plainScalar, start⟩))
      else if x == ':' && c.isGapAt 1 then .ok (acc, c)
      else if flow && isFlowMark x then .ok (acc, c)
      else scanPlainWord flow start fuel (x :: acc) c.next

/-- The rest of a plain scalar after the gap, with the gap that was left at its end. -/
def scanPlainRest (flow : Bool) (column : Nat) (start : Mark) : Nat → List Char → Gap → Cursor →
    Scan (List Char × Gap × Cursor)
  | 0, acc, gap, c => .ok (acc.reverse, gap, c)
  | fuel + 1, acc, gap, c =>
    if c.atAnyDocumentMark || c.looksAt (· == '#') then .ok (acc.reverse, gap, c)
    else match scanPlainWord flow start (fuel + 1) [] c with
      | .error f => .error f
      | .ok (word, c) =>
        let (acc, gap) :=
          if word.isEmpty then (acc, gap) else (word ++ (gap.text.reverse ++ acc), .none)
        if c.atEnd || !c.isGapAt 0 then .ok (acc.reverse, gap, c)
        else match Gap.scan start column (fuel + 1) gap c with
          | .error f => .error f
          | .ok (gap, c) =>
            if !flow && c.column < column then .ok (acc.reverse, gap, c)
            else scanPlainRest flow column start fuel acc gap c

/-- A plain scalar, and whether a line break follows it; lines on start at `column` or beyond. -/
def scanPlain (flow : Bool) (column : Nat) (c : Cursor) : Scan (String × Bool × Cursor) := do
  let (text, gap, c) ← scanPlainRest flow column c.mark (c.rest.length + 1) [] .none c
  return (String.ofList text, gap.broken, c)

/-- What becomes of the breaks at the end of a block scalar. -/
inductive Chomp where
  | strip
  | clip
  | keep

def chomp? : Char → Option Chomp
  | '+' => some .keep
  | '-' => some .strip
  | _ => none

/-- A digit from one to nine, which gives the indentation of a block scalar. -/
def scanIncrement (origin : Origin) (c : Cursor) : Scan (Option Nat × Cursor) :=
  match c.peek?.bind (Text.digitValue? 10) with
  | some 0 => .error (c.fault .increment (some origin))
  | some n => .ok (some n, c.next)
  | none => .ok (none, c)

def scanChomp (c : Cursor) : Option Chomp × Cursor :=
  match c.peek?.bind chomp? with
  | some chomp => (some chomp, c.next)
  | none => (none, c)

/-- The header of a block scalar behind its indicator: two marks in either order, then a comment. -/
def scanBlockHeader (origin : Origin) (c : Cursor) : Scan (Chomp × Option Nat × Cursor) := do
  let (before, c) := scanChomp c
  let (increment, c) ← scanIncrement origin c
  let (after, c) := if before.isNone && increment.isSome then scanChomp c else (none, c)
  let c := (c.skipRun isSpaceOrTab).skipComment
  c.expect c.atLineEnd .lineNotEnded origin
  return ((before.or after).getD .clip, increment, c.takeBreak.2)

/-- Blank lines of a block scalar, and the widest indentation among them. -/
def scanBlankLines (origin : Origin) (column : Option Nat) : Nat → List Char → Nat → Cursor →
    Scan (List Char × Nat × Cursor)
  | 0, breaks, widest, c => .ok (breaks, widest, c)
  | fuel + 1, breaks, widest, c =>
    let spaces := (c.rest.takeWhile (· == ' ')).length
    let c := c.skip (match column with
      | some column => min spaces (column - c.column)
      | none => spaces)
    let widest := max widest c.column
    if column.all (c.column < ·) && c.looksAt (· == '\t') then
      .error (c.fault .tabInIndentation (some origin))
    else if c.looksAt isBreak then
      let (read, c) := c.takeBreak
      scanBlankLines origin column fuel (breaks ++ read) widest c
    else .ok (breaks, widest, c)

/-- The lines of a block scalar as far as they are read. -/
structure BlockText where
  /-- The text in reverse, up to the break at the end of the last line. -/
  acc : List Char
  leading : List Char
  trailing : List Char
  /-- Whether the last line starts with a blank. -/
  indented : Bool

/-- The text with the breaks in front of the next line, which are folded between plain lines. -/
def BlockText.join (b : BlockText) (folded startsBlank : Bool) : List Char :=
  let breaks :=
    if folded && b.leading == ['\n'] && !b.indented && !startsBlank then
      if b.trailing.isEmpty then [' '] else b.trailing
    else b.leading ++ b.trailing
  breaks.reverse ++ b.acc

/-- The lines of a block scalar at `column`. -/
def scanBlockLines (folded : Bool) (origin : Origin) (column : Nat) : Nat → BlockText → Cursor →
    Scan (BlockText × Cursor)
  | 0, b, c => .ok (b, c)
  | fuel + 1, b, c =>
    if c.column != column || c.atEnd then .ok (b, c)
    else
      let startsBlank := c.looksAt isSpaceOrTab
      let (line, c) := c.takeRun (!isBreak ·)
      let (leading, c) := c.takeBreak
      match scanBlankLines origin (some column) (fuel + 1) [] 0 c with
      | .error f => .error f
      | .ok (trailing, _, c) =>
        scanBlockLines folded origin column fuel
          ⟨line.reverse ++ b.join folded startsBlank, leading, trailing, startsBlank⟩ c

/-- The text of a block scalar with the breaks at its end kept or not. -/
def BlockText.close (b : BlockText) (chomp : Chomp) : String :=
  let tail := match chomp with
    | .strip => []
    | .clip => b.leading
    | .keep => b.leading ++ b.trailing
  String.ofList (b.acc.reverse ++ tail)

/-- A block scalar, the cursor standing at its indicator; `outer` is the indentation around it. -/
def scanBlock (folded : Bool) (outer : Int) (c : Cursor) : Scan (String × Cursor) := do
  let origin : Origin := ⟨.blockScalar, c.mark⟩
  let (chomp, increment, c) ← scanBlockHeader origin c.next
  let fixed := increment.map fun n => (max outer 0).toNat + n
  let fuel := c.rest.length + 1
  let (trailing, widest, c) ← scanBlankLines origin fixed fuel [] 0 c
  let column := fixed.getD (max (max widest (outer + 1).toNat) 1)
  let (lines, c) ← scanBlockLines folded origin column fuel ⟨[], [], trailing, false⟩ c
  return (lines.close chomp, c)

end PacedImages.Yaml
