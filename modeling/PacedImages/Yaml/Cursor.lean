/-!
# Characters and positions of a document

The characters that a document may hold, the classes that its grammar tells apart, and a cursor that
counts bytes, lines and columns while it moves on. A line ends with a line feed, a carriage return,
both in that order, NEL, or one of the two Unicode separators; all but the separators are read as a
line feed.
-/

namespace PacedImages.Yaml

/-- Whether a document may hold the character at all. -/
def isAllowed (c : Char) : Bool :=
  let n := c.toNat
  n == 0x09 || n == 0x0A || n == 0x0D || (0x20 ≤ n && n ≤ 0x7E) || n == 0x85 ||
    (0xA0 ≤ n && n ≤ 0xD7FF) || (0xE000 ≤ n && n ≤ 0xFFFD) || 0x10000 ≤ n

def byteOrderMark : Char := '\uFEFF'

def isSpaceOrTab (c : Char) : Bool := c == ' ' || c == '\t'

def isBreak (c : Char) : Bool :=
  c == '\n' || c == '\r' || c == '\u0085' || c == '\u2028' || c == '\u2029'

/-- The characters of anchor names, directive names and tag handles. -/
def isNameChar (c : Char) : Bool :=
  ('0' ≤ c && c ≤ '9') || ('A' ≤ c && c ≤ 'Z') || ('a' ≤ c && c ≤ 'z') || c == '_' || c == '-'

/-- A position: bytes before it, lines before it, and characters before it on its line. -/
structure Mark where
  index : Nat
  line : Nat
  column : Nat

/-- The position behind some characters of its line. -/
def Mark.past (m : Mark) (run : List Char) : Mark :=
  { m with
    index := run.foldl (fun bytes c => bytes + c.utf8Size) m.index
    column := m.column + run.length }

/-- The start of the next line, behind a break of the given number of bytes. -/
def Mark.nextLine (m : Mark) (bytes : Nat) : Mark := ⟨m.index + bytes, m.line + 1, 0⟩

/-- The rest of a document and the position where it starts. -/
structure Cursor where
  rest : List Char
  mark : Mark

namespace Cursor

def start (document : List Char) : Cursor := ⟨document, ⟨0, 0, 0⟩⟩

def column (c : Cursor) : Nat := c.mark.column

def peek? (c : Cursor) : Option Char := c.rest.head?

/-- The character `n` places ahead. -/
def ahead? (c : Cursor) (n : Nat) : Option Char := (c.rest.drop n).head?

def atEnd (c : Cursor) : Bool := c.rest.isEmpty

def looksAt (c : Cursor) (p : Char → Bool) : Bool := c.peek?.any p

/-- Whether the character `n` places ahead is a space, a tab, a break or the end. -/
def isGapAt (c : Cursor) (n : Nat) : Bool :=
  (c.ahead? n).all fun x => isSpaceOrTab x || isBreak x

/-- Whether the cursor is at a break or at the end. -/
def atLineEnd (c : Cursor) : Bool := c.peek?.all isBreak

/-- One character on, within the line. -/
def next (c : Cursor) : Cursor := ⟨c.rest.tail, c.mark.past (c.rest.take 1)⟩

def skip : Nat → Cursor → Cursor
  | 0, c => c
  | n + 1, c => skip n c.next

/-- Past one line break, with the character that it is read as; nothing at any other character. -/
def takeBreak (c : Cursor) : List Char × Cursor :=
  match c.rest with
  | '\r' :: '\n' :: rest => (['\n'], ⟨rest, c.mark.nextLine 2⟩)
  | x :: rest =>
    if isBreak x then
      let read := if x == '\u2028' || x == '\u2029' then x else '\n'
      ([read], ⟨rest, c.mark.nextLine x.utf8Size⟩)
    else ([], c)
  | [] => ([], c)

/-- The longest run of characters of a class, and the cursor behind it. -/
def takeRun (p : Char → Bool) (c : Cursor) : List Char × Cursor :=
  let run := c.rest.takeWhile p
  (run, ⟨c.rest.drop run.length, c.mark.past run⟩)

def skipRun (p : Char → Bool) (c : Cursor) : Cursor := (c.takeRun p).2

/-- Past a comment, if one starts here. -/
def skipComment (c : Cursor) : Cursor :=
  if c.looksAt (· == '#') then c.skipRun (!isBreak ·) else c

/-- Whether a line of three marks of one kind starts here and ends the document's text. -/
def atDocumentMark (c : Cursor) (mark : Char) : Bool :=
  c.column == 0 && c.rest.take 3 == [mark, mark, mark] && c.isGapAt 3

/-- Whether one of the two marks around documents stands here. -/
def atAnyDocumentMark (c : Cursor) : Bool := c.atDocumentMark '-' || c.atDocumentMark '.'

end Cursor

end PacedImages.Yaml
