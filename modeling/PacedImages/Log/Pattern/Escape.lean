import PacedImages.Text.Alphanumeric
import PacedImages.Text.Numeral

/-!
# Modes and escapes of patterns

Flags in a pattern change the modes in which it is read on. In spaced mode, blanks and comments may
stand between its parts. In bytewise mode, it is about bytes instead of characters; since only whole
characters may match, nothing can then be read that stands for a byte above ASCII.
-/

namespace PacedImages.Pattern

structure Modes where
  spaced : Bool
  bytewise : Bool

namespace Modes

/-- The modes that flags lead to, those behind a minus sign being taken back. -/
def apply (m : Modes) (flags : List Char) : Modes :=
  let on := flags.takeWhile (· != '-')
  let off := flags.drop on.length
  { spaced := on.contains 'x' || (m.spaced && !off.contains 'x')
    bytewise := off.contains 'u' || (m.bytewise && !on.contains 'u') }

/-- Past blanks and comments, `inComment` telling whether the text starts in one. -/
def skipSpaced : Bool → List Char → List Char
  | _, [] => []
  | true, c :: rest => skipSpaced (c != '\n') rest
  | false, c :: rest =>
    if c == '#' then skipSpaced true rest
    else if Text.isBlank c then skipSpaced false rest
    else c :: rest

/-- Past what may stand between two parts. -/
def skipGap (m : Modes) (cs : List Char) : List Char :=
  if m.spaced then skipSpaced false cs else cs

/-- The next character, as a range of characters looks ahead for it: past blanks and the sign of one
comment, but not past the comment. -/
def lookAhead (m : Modes) (cs : List Char) : Option Char :=
  if m.spaced then
    match cs.dropWhile Text.isBlank with
    | '#' :: rest => (rest.dropWhile Text.isBlank).head?
    | rest => rest.head?
  else cs.head?

/-- Whether a character can be meant where a byte may be. -/
def canMean (m : Modes) (c : Char) : Bool := !m.bytewise || c.toNat < 0x80

end Modes

/-- What an escape or a part of a class stands for. -/
inductive Item where
  | char (c : Char)
  | set
  /-- A place between characters, such as the start of a word. -/
  | edge

/-- So many hexadecimal digits, and what follows them. -/
def hexadecimal? (m : Modes) : Nat → List Char → Option (List Char × List Char)
  | 0, cs => some ([], cs)
  | n + 1, cs =>
    match m.skipGap cs with
    | c :: rest =>
      if (Text.digitValue? 16 c).isSome then
        (hexadecimal? m n rest).map fun (digits, rest) => (c :: digits, rest)
      else none
    | [] => none

/-- A character given by its code point in so many digits. -/
def codePoint? (m : Modes) (width : Nat) (cs : List Char) : Option (Char × List Char) := do
  let (digits, rest) ← hexadecimal? m width cs
  let code ← Text.digits? 16 digits
  if code.isValidChar then some (Char.ofNat code, rest) else none

/-- The letters of the general categories. -/
def categoryLetters : List Char := ['c', 'l', 'm', 'n', 'p', 's', 'z']

/-- The letters that stand for a control character. -/
def controlLetters : List (Char × Char) :=
  [('a', '\x07'), ('f', '\x0C'), ('t', '\t'), ('n', '\n'), ('r', '\r'), ('v', '\x0B')]

/-- What is escaped behind a backslash. Words end differently for bytes and for characters, and only
the former is supported. -/
def escape? (m : Modes) : List Char → Option (Item × List Char)
  | [] => none
  | c :: rest =>
    let character (found : Option (Char × List Char)) := found.map fun (c, rest) => (Item.char c, rest)
    match c with
    | 'x' => character ((codePoint? m 2 rest).filter fun found => m.canMean found.1)
    | 'u' => character (codePoint? m 4 rest)
    | 'U' => character (codePoint? m 8 rest)
    | 'p' | 'P' =>
      match m.skipGap rest with
      | name :: rest =>
        if categoryLetters.contains name.toLower && !m.bytewise then some (.set, rest) else none
      | [] => none
    | 'd' | 's' | 'w' => some (.set, rest)
    | 'D' | 'S' | 'W' => if m.bytewise then none else some (.set, rest)
    | 'b' | 'B' | '<' | '>' => if m.bytewise then some (.edge, rest) else none
    | 'A' | 'z' => some (.edge, rest)
    | _ =>
      match controlLetters.lookup c with
      | some control => some (.char control, rest)
      | none => if c.isAlphanum || 0x80 ≤ c.toNat then none else some (.char c, rest)

/-- How a sequence nests whose members nest as given: it counts unless it is a single member. -/
def sequenceNesting : List Nat → Nat
  | [] => 0
  | [n] => n
  | ns => ns.foldl max 0 + 1

end PacedImages.Pattern
