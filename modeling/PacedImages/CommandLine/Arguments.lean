import PacedImages.CommandLine.Given
import PacedImages.Param.Assignment

/-!
# Arguments

The arguments are read from left to right. A switch that waits for a value takes the next argument
as such unless that begins with a hyphen, a lone hyphen apart. Such a value is looked at when the
next switch comes or the arguments end, and a value after an equals sign at once; so an argument
that nobody knows is refused before a waiting value is looked at.
-/

namespace PacedImages

/-- What an argument is by its first characters. -/
inductive Argument where
  /-- Two hyphens, after which no switch follows. -/
  | separator
  | long (word : String) (value : Option String)
  | short (letters : List Char)
  | plain
deriving Repr, DecidableEq

def Argument.ofText (text : String) : Argument :=
  match text.toList with
  | ['-', '-'] => .separator
  | '-' :: '-' :: rest =>
    match splitAssignment? rest with
    | some (word, value) => .long (String.ofList word) (some (String.ofList value))
    | none => .long (String.ofList rest) none
  | '-' :: c :: rest => .short (c :: rest)
  | _ => .plain

/-- A switch that still waits: for its value, or to be looked at with it. -/
structure Waiting where
  switch : Switch
  value : Option String

/-- What was given, with the waiting switch taken in. -/
def Given.settle (g : Given) (waiting : Option Waiting) : Except Refusal Given :=
  match waiting with
  | none => .ok g
  | some ⟨switch, none⟩ => .error (.missingValue switch)
  | some ⟨switch, some text⟩ => g.take switch text

/-- What arguments say, after those that were read. -/
def readArguments : List String → Given → Option Waiting → Except Refusal Given
  | [], g, waiting => g.settle waiting
  | argument :: rest, g, waiting =>
    match Argument.ofText argument with
    | .separator =>
      match rest with
      | [] => g.settle waiting
      | extra :: _ => .error (.unknown extra)
    | .plain =>
      match waiting with
      | some ⟨switch, none⟩ => readArguments rest g (some ⟨switch, some argument⟩)
      | _ => .error (.unknown argument)
    | .short letters =>
      if letters.head? = some 'h' then do
        let _ ← g.settle waiting
        throw .help
      else .error (.unknown argument)
    | .long word value =>
      match Switch.ofWord? word with
      | none => .error (.unknown argument)
      | some switch =>
        match switch.takesValue, value with
        | false, some text => .error (.needlessValue switch text)
        | true, none => do readArguments rest (← g.settle waiting) (some ⟨switch, none⟩)
        | _, _ => do readArguments rest (← (← g.settle waiting).take switch (value.getD "")) none

end PacedImages
