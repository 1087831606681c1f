import PacedImages.Log.Entry
import PacedImages.Log.Pattern

/-!
# Log filters

A filter is a list of directives. Each gives a level to the entries whose target begins with its own
and that have the field it names, if it names one. Of the directives that fit an entry the one with
the longest target rules, then one with a field before one without, and of two with the same target
and field the later. An entry passes if it is at least as grave as the level of the ruling directive.
Directives are written `target[span{field=value}]=level`, most of which may be missing, with commas
between them. One with a span's name or a field's value is about what happens within spans.
-/

namespace PacedImages

structure Directive where
  /-- How the targets begin that the directive is about; empty for all of them. -/
  target : String
  /-- The field that an entry must have. -/
  field : Option String
  /-- Whether the directive is only about entries within spans; the program opens none. -/
  withinSpan : Bool
  /-- The least grave level that passes; none where nothing does. -/
  level : Option Level
deriving Repr, DecidableEq

namespace Directive

/-- Whether the directive is about an entry. -/
def fits (d : Directive) (e : LogEntry) : Bool :=
  !d.withinSpan && d.target.toList.isPrefixOf e.component.target.toList &&
    d.field.all e.fieldNames.contains

/-- Whether a directive is no more specific than another one about the same entry. -/
def yieldsTo (d other : Directive) : Bool :=
  if d.target.length != other.target.length then d.target.length < other.target.length
  else match d.field, other.field with
    | none, _ => true
    | some _, none => false
    | some name, some otherName => !(otherName < name)

/-- The level in a word: a name in letters of either case, or a number up to five. -/
def level? (word : List Char) : Option (Option Level) :=
  match String.ofList (word.map Char.toLower), Text.readNat? 6 word with
  | "off", _ | _, some 0 => some none
  | "error", _ | _, some 1 => some (some .error)
  | "warn", _ | _, some 2 => some (some .warn)
  | "info", _ | _, some 3 => some (some .info)
  | "debug", _ | _, some 4 => some (some .debug)
  | "trace", _ | _, some 5 => some (some .trace)
  | _, _ => none

/-- The level behind the equals sign; without a word everything passes. -/
def levelBehind? : List Char → Option (Option Level)
  | [] => some (some .trace)
  | word => level? word

/-- Whether a directive may begin with a character. -/
def canOpen (c : Char) : Bool :=
  Text.isAlphanumeric c || c == '-' || c == ':' || c == '_' || c == '['

/-- The place of the first of some characters, counted from the start of the text. -/
def findFrom (text : List Char) (start : Nat) (marks : List Char) : Option Nat :=
  ((text.drop start).findIdx? marks.contains).map (start + ·)

/-- The part of a text from one place up to another. -/
def between (text : List Char) (start stop : Nat) : List Char := (text.take stop).drop start

/-- What brackets hold, and the place behind them. -/
structure Bracketed where
  span : Option (List Char)
  field : Option (List Char)
  stop : Nat

/-- The brackets that open in front of `start`. Their marks are sought in `marked`, and what stands
between is cut from `text` at the same places. -/
def bracketed? (marked text : List Char) (start : Nat) : Option Bracketed := do
  let inner ← findFrom marked start [']', '\x7b']
  let span := between text start inner
  if marked[inner]? == some ']' then return ⟨some span, none, inner + 1⟩
  else
    let close ← findFrom marked (inner + 1) ['\x7d']
    let field := between text (inner + 1) close
    if field.isEmpty || marked[close + 1]? != some ']' then none
    else return ⟨if span.isEmpty then none else some span, some field, close + 2⟩

/-- A directive with brackets behind its target. -/
def ofBracketed? (target : List Char) (b : Bracketed) (level : Option Level) : Option Directive :=
  let name := b.field.map fun field => field.takeWhile (· != '=')
  let value := b.field.bind fun field =>
    match field.dropWhile (· != '=') with
    | _ :: rest => some (rest.takeWhile (· != '='))
    | [] => none
  if value.all Pattern.isReadable then
    some ⟨String.ofList target, name.map String.ofList, b.span.isSome || value.isSome, level⟩
  else none

/-- A directive in its written form. The places of its marks are counted without the blanks before
the directive, which thus are part of what stands left of the first of them. -/
def ofText? (text : List Char) : Option Directive :=
  let marked := Text.trim text
  if !marked.head?.any canOpen then none
  else match findFrom marked 0 ['=', '['] with
    | none =>
      match level? text with
      | some level => some ⟨"", none, false, level⟩
      | none => some ⟨String.ofList text, none, false, some .trace⟩
    | some place =>
      let target := text.take place
      if marked[place]? == some '=' then
        (levelBehind? (text.drop (place + 1))).map fun level =>
          ⟨String.ofList target, none, false, level⟩
      else do
        let brackets ← bracketed? marked text (place + 1)
        match marked.drop brackets.stop with
        | [] => ofBracketed? target brackets (some .trace)
        | '=' :: _ =>
          ofBracketed? target brackets (← levelBehind? (text.drop (brackets.stop + 1)))
        | _ => none

end Directive

abbrev LogFilter := List Directive

namespace LogFilter

/-- The filter of a program that is told nothing. -/
def standard : LogFilter :=
  ["imgbench", "image_publisher"].map fun target => ⟨target, none, false, some .info⟩

/-- A filter in its written form; without any directive nothing passes. -/
def ofText? (text : String) : Option LogFilter :=
  ((text.splitOn ",").filter fun piece => !piece.isEmpty).mapM fun piece =>
    Directive.ofText? piece.toList

/-- The filter that a setting asks for, the standard one if it is absent or unreadable. -/
def ofSetting (setting : Option String) : LogFilter := (setting.bind ofText?).getD standard

/-- The directive that rules an entry. -/
def ruling (filter : LogFilter) (e : LogEntry) : Option Directive :=
  filter.foldl (fun best d => if d.fits e && best.all (·.yieldsTo d) then some d else best) none

/-- Whether an entry passes. -/
def passes (filter : LogFilter) (e : LogEntry) : Bool :=
  match (filter.ruling e).bind Directive.level with
  | some level => e.level.rank ≤ level.rank
  | none => false

end LogFilter

end PacedImages
