import PacedImages.Text.Blank
import PacedImages.Text.Unprinted

/-!
# Quoted text

Text between double quotes in which every character can be seen: a quote and a backslash are
preceded by a backslash, tab, line feed, carriage return and NUL have short escapes, and every other
character that would not show is given by its code point in hexadecimal between braces.
-/

namespace PacedImages.Text

/-- Whether quoted text shows the character as it is, escapes of its own apart. -/
def isShown (c : Char) : Bool :=
  if c.toNat < 0x80 then ' ' ≤ c && c ≤ '~' else !inRanges unprintedRanges c.toNat

/-- A character as it stands in quoted text. -/
def quotedChar (c : Char) : List Char :=
  match c with
  | '"' => ['\\', '"']
  | '\\' => ['\\', '\\']
  | '\t' => ['\\', 't']
  | '\n' => ['\\', 'n']
  | '\r' => ['\\', 'r']
  | '\x00' => ['\\', '0']
  | c =>
    if isShown c then [c]
    else ['\\', 'u', '\x7b'] ++ Nat.toDigits 16 c.toNat ++ ['\x7d']

def quoted (text : String) : String :=
  String.ofList ('"' :: text.toList.flatMap quotedChar ++ ['"'])

end PacedImages.Text
