import PacedImages.Bench
import PacedImages.Image.Payload
import PacedImages.Messaging.Bus
import PacedImages.Param.Source

/-!
# Scenes

A scene is what stands around a publisher on a bench: the bus or a transport that follows a script,
a set of parameters that can be out of reach, a source that follows a script, a file, the calendar
and the memory.
-/

namespace PacedImages

inductive FileState where
  | missing
  | directory
  | content (bytes : ByteArray)

/-- The file after bytes were written to its path; a directory stays one. -/
def FileState.write (bytes : ByteArray) : FileState → FileState
  | .directory => .directory
  | _ => .content bytes

def FileState.isThere : FileState → Bool
  | .missing => false
  | _ => true

/-- The text of a file; one that is gone reads as empty. -/
def FileState.read : FileState → Except FileFault String
  | .missing => .ok ""
  | .directory => .error .isDirectory
  | .content bytes =>
    match String.fromUTF8? bytes with
    | some document => .ok document
    | none => .error .notText

/-- What a scripted transport does with a message. -/
inductive Delivery where
  | accepted (took : Duration)
  | refused (report : String)

/-- A transport that delivers nothing and answers from a list, then accepts everything. -/
structure Script where
  /-- Why subjects are refused, if they are. -/
  refusal : Option String
  deliveries : List Delivery

/-- One round of a scripted source. -/
structure Round where
  isReachable : Bool
  answer : Except ParamError Parameters

structure Scene where
  bus : Bus
  script : Option Script
  available : Bool
  stored : Parameters
  file : FileState
  /-- The rounds to come of the scripted source. -/
  rounds : List Round
  /-- What the calendar shows the n-th time. -/
  calendar : Nat → Stamp
  readings : Nat
  /-- Memory is granted for less than so many bytes. -/
  memory : Nat
  key : Keystream.Key

/-- Actions on a bench with a scene. -/
abbrev Staged := StateM (Bench Scene)

namespace Scene

/-- An empty bus, no parameters and no file. -/
def fresh : Scene :=
  { bus := .empty
    script := none
    available := true
    stored := ∅
    file := .missing
    rounds := []
    calendar := fun _ => ⟨0, 0⟩
    readings := 0
    memory := Payload.addressSpace
    key := ⟨⟨0, 0, 0, 0⟩, ⟨0, 0, 0, 0⟩⟩ }

def advertise (subject : String) (depth : Nat) (s : Scene) : Except AdvertiseFault Unit × Scene :=
  match s.script with
  | some ⟨some report, _⟩ => (.error (.refused (.connectionFailed report)), s)
  | some _ => (.ok (), s)
  | none =>
    match s.bus.advertise? subject depth with
    | some bus => (.ok (), { s with bus })
    | none => (.error .crash, s)

def publish (subject : String) (payload : ByteArray) (headers : Headers) (s : Scene) :
    Except TransportError Unit × Duration × Scene :=
  match s.script with
  | none => (.ok (), 0, { s with bus := s.bus.publish subject payload headers })
  | some ⟨_, []⟩ => (.ok (), 0, s)
  | some ⟨refusal, .accepted took :: rest⟩ => (.ok (), took, { s with script := some ⟨refusal, rest⟩ })
  | some ⟨refusal, .refused report :: rest⟩ =>
    (.error (.publishFailed report), 0, { s with script := some ⟨refusal, rest⟩ })

def outside : Outside Scene where
  reading s := (s.calendar s.readings, { s with readings := s.readings + 1 })
  reserve size s := (size < s.memory, s)
  drawKey s := (s.key, s)
  advertise := advertise
  publish := publish

def world : World Staged := Bench.world outside

def current : Staged Scene := do return (← get).outside

/-- Changes the scene. -/
def change (f : Scene → Scene) : Staged Unit := modify fun b => { b with outside := f b.outside }

/-- Sets off what happens to the scene after a delay, and whether shutdown is requested then. -/
def plan (delay : Duration) (act : Scene → Scene) (shutdown : Bool) : Staged Unit :=
  modify (Bench.setOff delay ⟨act, shutdown⟩)

/-- A subscription to the messages published from now on. -/
def subscribe (subject : String) : Staged Subscription := do
  let (bus, reader) := (← current).bus.subscribe subject
  change fun s => { s with bus }
  return reader

/-- The file of the scene, under a path. -/
def paramFile (path : String) : ParamFile Staged where
  path
  isThere := do return (← current).file.isThere
  read := do return (← current).file.read

/-- Where a path leads from the directory that the program runs in. -/
inductive Place where
  /-- The directory itself, or one that it lies in. -/
  | directory (inside : Bool)
  | file
  | nowhere

/-- One step on; a file has no places below it, and of the directories outside nothing is known but
those around them. -/
def Place.step (fileName : String) (p : Place) (name : String) : Place :=
  match p, name with
  | .directory inside, "" | .directory inside, "." => .directory inside
  | .directory _, ".." => .directory false
  | .directory inside, name => if inside && name == fileName then .file else .nowhere
  | _, _ => .nowhere

/-- Where a path leads; one that starts with a slash starts outside. -/
def placeOf (fileName path : String) : Place :=
  match path.splitOn "/" with
  | [""] => .nowhere
  | "" :: names => names.foldl (Place.step fileName) (.directory false)
  | names => names.foldl (Place.step fileName) (.directory true)

/-- What is under a path, the file of the scene having a name in the directory of the program. -/
def fileUnder (fileName path : String) : ParamFile Staged :=
  match placeOf fileName path with
  | .file => paramFile path
  | .directory _ =>
    { path
      isThere := pure true
      read := pure (.error .isDirectory) }
  | .nowhere =>
    { path
      isThere := pure false
      read := pure FileState.missing.read }

/-- The parameters of the scene as a source. -/
def memorySource : Source Staged :=
  .memory world (do return (← current).available) (do return (← current).stored)

/-- The round that the scripted source is in; without any it cannot be reached. -/
def round : Staged Round := do
  return (← current).rounds.headD ⟨false, .error (.unavailable "no rounds left")⟩

/-- Goes on to the next round, except from the last one. -/
def nextRound : Staged Unit := change fun s =>
  match s.rounds with
  | _ :: next :: rest => { s with rounds := next :: rest }
  | _ => s

/-- A source that answers round by round. -/
def scriptedSource : Source Staged where
  wait timeout := do
    if (← round).isReachable then return true
    nextRound
    world.sleepUntil ((← world.now) + timeout)
    return false
  get names := do
    let answer := (← round).answer
    nextRound
    return answer.map (·.select names)

end Scene

end PacedImages
