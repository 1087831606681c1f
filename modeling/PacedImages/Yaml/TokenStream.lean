import PacedImages.Yaml.Scalar
import PacedImages.Yaml.Tag

/-!
# Token streams

The tokens of a document. A key may be known as such only from the colon behind it, so the place of
a token that could be a key is remembered until the line ends, and the marks for a key and for the
mapping that starts with it are put in front of it when the colon comes. Indentation outside of
brackets opens and closes block collections. Where a fault ends the stream, neither what the last
step added nor the tokens from the first one that could still turn out a key are part of it.
-/

namespace PacedImages.Yaml

/-- A place in the token stream where a key may start; a required one has to turn out a key. -/
structure PossibleKey where
  number : Nat
  required : Bool
  mark : Mark

/-- Whether a possible key is too far behind to be one: on an earlier line or over 1024 bytes ago. -/
def PossibleKey.isStale (key : PossibleKey) (here : Mark) : Bool :=
  key.mark.line < here.line || key.mark.index + 1024 < here.index

/-- The state between two tokens. -/
structure TokenStream where
  cursor : Cursor
  tokens : Array Token
  /-- The column of the innermost block collection, −1 outside of all of them. -/
  indent : Int
  indents : List Int
  key : Option PossibleKey
  /-- The possible keys around the open brackets, one for each, innermost first. -/
  outerKeys : List (Option PossibleKey)
  /-- Whether a key may start at the next token. -/
  keyAllowed : Bool

namespace TokenStream

def start (document : List Char) : TokenStream :=
  ⟨.start document, #[], -1, [], none, [], true⟩

/-- Whether a bracket is open. -/
def inFlow (s : TokenStream) : Bool := !s.outerKeys.isEmpty

def column (s : TokenStream) : Int := s.cursor.column

/-- A token of no width at the cursor. -/
def push (s : TokenStream) (kind : TokenKind) : TokenStream :=
  { s with tokens := s.tokens.push ⟨kind, s.cursor.mark⟩ }

/-- A token of the given number of characters. -/
def take (s : TokenStream) (width : Nat) (kind : TokenKind) : TokenStream :=
  { s.push kind with cursor := s.cursor.skip width }

/-- A token that starts at the cursor and ends at another. -/
def accept (s : TokenStream) (kind : TokenKind) (c : Cursor) : TokenStream :=
  { s.push kind with cursor := c }

def allowKey (s : TokenStream) (allowed : Bool) : TokenStream := { s with keyAllowed := allowed }

/-- A required key without its colon. -/
def keyFault (s : TokenStream) (key : PossibleKey) : Fault :=
  s.cursor.fault .missingColon (some ⟨.simpleKey, key.mark⟩)

/-- Gives up the possible key, unless it is required. -/
def dropKey (s : TokenStream) : Scan TokenStream :=
  match s.key.filter (·.required) with
  | some key => .error (s.keyFault key)
  | none => .ok { s with key := none }

/-- Remembers the next token as a possible key where one is allowed. -/
def saveKey (s : TokenStream) : Scan TokenStream :=
  if s.keyAllowed then
    let key : PossibleKey :=
      ⟨s.tokens.size, !s.inFlow && s.indent == s.column, s.cursor.mark⟩
    s.dropKey.map fun s => { s with key := some key }
  else .ok s

/-- Gives up every possible key that is too far behind. -/
def dropStaleKeys (s : TokenStream) : Scan TokenStream :=
  let stale (key : PossibleKey) := key.isStale s.cursor.mark
  match (s.key :: s.outerKeys).reduceOption.find? fun key => key.required && stale key with
  | some key => .error (s.keyFault key)
  | none =>
    let drop (key : Option PossibleKey) := key.filter (!stale ·)
    .ok { s with key := drop s.key, outerKeys := s.outerKeys.map drop }

/-- Opens a block collection at a column to the right of the current one, its token at `place`. -/
def openBlock (s : TokenStream) (column : Int) (place : Nat) (token : Token) : TokenStream :=
  if s.inFlow || column ≤ s.indent then s
  else { s with
    indent := column
    indents := s.indent :: s.indents
    tokens := s.tokens.insertIdxIfInBounds place token }

/-- Ends the block collections to the right of a column. -/
def closeBlocks (s : TokenStream) (column : Int) : TokenStream :=
  if s.inFlow then s
  else
    let closed := (s.indent :: s.indents).takeWhile (column < ·)
    match (s.indent :: s.indents).drop closed.length with
    | indent :: indents =>
      let ends := closed.map fun _ => (⟨.blockEnd, s.cursor.mark⟩ : Token)
      { s with indent, indents, tokens := s.tokens ++ ends.toArray }
    | [] => s

/-- Past blanks, comments and breaks, and past a byte-order mark at the start of a line, which takes a
column; a break outside of brackets allows a key. -/
def skipGap : Nat → TokenStream → TokenStream
  | 0, s => s
  | fuel + 1, s =>
    let c := s.cursor
    let c := if c.column == 0 && c.looksAt (· == byteOrderMark) then c.next else c
    let tabs := s.inFlow || !s.keyAllowed
    let c := (c.skipRun fun x => x == ' ' || (tabs && x == '\t')).skipComment
    if c.looksAt isBreak then
      skipGap fuel
        { s with cursor := c.takeBreak.2, keyAllowed := s.keyAllowed || !s.inFlow }
    else { s with cursor := c }

/-- A directive or a mark between documents, which ends every block collection. -/
def atMargin (s : TokenStream) : Scan TokenStream :=
  (s.closeBlocks (-1)).dropKey.map (·.allowKey false)

def openBracket (s : TokenStream) (kind : TokenKind) : Scan TokenStream := do
  let s ← s.saveKey
  return { (s.take 1 kind) with key := none, outerKeys := s.key :: s.outerKeys, keyAllowed := true }

def closeBracket (s : TokenStream) (kind : TokenKind) : Scan TokenStream := do
  let s ← s.dropKey
  let s := { s.take 1 kind with keyAllowed := false }
  match s.outerKeys with
  | key :: outer => return { s with key, outerKeys := outer }
  | [] => return s

/-- Starts a block collection of the kind here, which is allowed where a key is. -/
def openBlockHere (s : TokenStream) (kind : TokenKind) (problem : Problem) : Scan TokenStream :=
  if s.inFlow then .ok s
  else if s.keyAllowed then
    .ok (s.openBlock s.column s.tokens.size ⟨kind, s.cursor.mark⟩)
  else .error (s.cursor.fault problem none)

def listEntry (s : TokenStream) : Scan TokenStream := do
  let s ← (← s.openBlockHere .blockListStart .entryNotAllowed).dropKey
  return (s.allowKey true).take 1 .blockEntry

/-- A key that is marked by a question mark. -/
def markedKey (s : TokenStream) : Scan TokenStream := do
  let s ← (← s.openBlockHere .blockMapStart .keyNotAllowed).dropKey
  return (s.allowKey !s.inFlow).take 1 .key

/-- The colon between a key and its value. -/
def colon (s : TokenStream) : Scan TokenStream :=
  match s.key with
  | some key =>
    let tokens := s.tokens.insertIdxIfInBounds key.number ⟨.key, key.mark⟩
    let s := { s with tokens, key := none }
    let s := s.openBlock key.mark.column key.number ⟨.blockMapStart, key.mark⟩
    .ok ((s.allowKey false).take 1 .value)
  | none => do
    let s ← s.openBlockHere .blockMapStart .valueNotAllowed
    return (s.allowKey !s.inFlow).take 1 .value

/-- A token that may be a key or stand in front of one. -/
def property (s : TokenStream) (found : Scan (TokenKind × Cursor)) : Scan TokenStream := do
  let s ← s.saveKey
  let (kind, c) ← found
  return (s.allowKey false).accept kind c

def quotedScalar (s : TokenStream) (double : Bool) : Scan TokenStream :=
  s.property ((scanQuoted double s.cursor).map fun (text, c) => (.scalar text false, c))

def blockScalar (s : TokenStream) (folded : Bool) : Scan TokenStream := do
  let s ← s.dropKey
  let (text, c) ← scanBlock folded s.indent s.cursor
  return (s.allowKey true).accept (.scalar text false) c

def plainScalar (s : TokenStream) : Scan TokenStream := do
  let s ← s.saveKey
  let (text, broken, c) ← scanPlain s.inFlow (s.indent + 1).toNat s.cursor
  return (s.allowKey broken).accept (.scalar text true) c

/-- The characters that start no plain scalar. -/
def indicators : List Char :=
  [',', '[', ']', '\x7b', '\x7d', '#', '&', '*', '!', '|', '>', '\'', '"', '%', '@', '\x60']

/-- Whether a plain scalar can start with the character, `gap` telling what follows it. -/
def startsPlain (flow : Bool) (x : Char) (gap : Bool) : Bool :=
  if x == '-' then !gap
  else if x == '?' || x == ':' then !flow && !gap
  else !(isSpaceOrTab x || isBreak x || indicators.contains x)

/-- The token that starts with the character at the cursor. -/
def next (s : TokenStream) (x : Char) : Scan TokenStream :=
  let c := s.cursor
  let gap := c.isGapAt 1
  let flow := s.inFlow
  let stray := Except.error (c.fault .strayCharacter (some ⟨.nextToken, c.mark⟩))
  if c.column == 0 && x == '%' then do
    let s ← s.atMargin
    let (kind, c) ← scanDirective c
    return s.accept kind c
  else if c.atDocumentMark '-' then s.atMargin.map (·.take 3 .documentStart)
  else if c.atDocumentMark '.' then s.atMargin.map (·.take 3 .documentEnd)
  else match x with
    | '[' => s.openBracket .flowListStart
    | '\x7b' => s.openBracket .flowMapStart
    | ']' => s.closeBracket .flowListEnd
    | '\x7d' => s.closeBracket .flowMapEnd
    | ',' => s.dropKey.map fun s => (s.allowKey true).take 1 .flowEntry
    | '*' => s.property ((scanAnchorName .alias c).map fun (name, c) => (.alias name, c))
    | '&' => s.property ((scanAnchorName .anchor c).map fun (name, c) => (.anchor name, c))
    | '!' => s.property (scanTag flow c)
    | '\'' => s.quotedScalar false
    | '"' => s.quotedScalar true
    | '|' => if flow then stray else s.blockScalar false
    | '>' => if flow then stray else s.blockScalar true
    | _ =>
      if x == '-' && gap then s.listEntry
      else if x == '?' && (flow || gap) then s.markedKey
      else if x == ':' && (flow || gap) then s.colon
      else if startsPlain flow x gap then s.plainScalar
      else stray

/-- The end of the stream, which stands at the start of a line and ends every block collection. -/
def finish (s : TokenStream) : Scan TokenStream :=
  let m := s.cursor.mark
  let mark : Mark := if m.column == 0 then m else { m with line := m.line + 1, column := 0 }
  ({ s with cursor.mark := mark } : TokenStream).atMargin.map (·.push .streamEnd)

/-- The stream one token on, and whether it ends there; the fuel bounds the gap in front. -/
def step (fuel : Nat) (s : TokenStream) : Scan (TokenStream × Bool) := do
  let s ← (skipGap fuel s).dropStaleKeys
  let s := s.closeBlocks s.column
  match s.cursor.peek? with
  | none => return (← (← s.finish).dropStaleKeys, true)
  | some x => return (← (← s.next x).dropStaleKeys, false)

/-- The tokens in front of the first one that could still turn out a key. -/
def settled (s : TokenStream) : Array Token :=
  let pending := (s.key :: s.outerKeys).reduceOption.map (·.number)
  s.tokens.take (pending.foldl min s.tokens.size)

/-- The tokens to the end, or to the fault that ends them; every step takes a character. -/
def run : Nat → TokenStream → Array Token × Option Fault
  | 0, s => (s.tokens, none)
  | fuel + 1, s =>
    match s.step (fuel + 1) with
    | .error f => (s.settled, some f)
    | .ok (s, true) => (s.tokens, none)
    | .ok (s, false) => run fuel s

end TokenStream

/-- The number of bytes in front of the first character that is not allowed. -/
def controlCharacter? (text : List Char) : Option Nat :=
  if text.all isAllowed then none
  else some ((text.takeWhile isAllowed).foldl (fun count c => count + c.utf8Size) 0)

/-- The tokens of a document, and the fault that ends them if there is one. -/
def tokensOf (document : List Char) : Array Token × Option Fault :=
  match controlCharacter? document with
  | some count => (#[], some ⟨.controlCharacter, .behindBytes count, none⟩)
  | none => (TokenStream.start document).run (document.length + 2)

end PacedImages.Yaml
