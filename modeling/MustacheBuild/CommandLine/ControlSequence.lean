import MustacheBuild.Encoding.Utf8

/-!
Control sequences of terminals, and a filter that takes them out of a text together with all other
control characters but blanks. A sequence that never ends takes the rest of the text with it.
-/
namespace MustacheBuild.CommandLine.ControlSequence

/-- The parts of a sequence in front of its final byte. -/
inductive Part where
  | entry
  | parameter
  | intermediate
  /-- Behind a byte that does not belong where it stands. -/
  | ignored
  deriving DecidableEq, Repr

/-- What a byte belongs to. -/
inductive State where
  | ground
  | escape
  | escapeIntermediate
  | control (part : Part)
  /-- The head of a device control string. -/
  | device (part : Part)
  | deviceData
  | systemCommand
  /-- Strings that terminals pass over. -/
  | message
  deriving DecidableEq, Repr

def isIntermediate (b : UInt8) : Bool := 0x20 ≤ b && b ≤ 0x2F

def isParameter (b : UInt8) : Bool := 0x30 ≤ b && b ≤ 0x3F

/-- Parameters of private use, which only come first. -/
def isPrivate (b : UInt8) : Bool := 0x3C ≤ b && b ≤ 0x3F

def isFinal (b : UInt8) : Bool := 0x40 ≤ b && b ≤ 0x7E

/-- The part that a byte leads to, where it leads away from the current one. -/
def Part.next? : Part → UInt8 → Option Part
  | entry, b =>
    if isIntermediate b then some intermediate
    else if isParameter b then some parameter
    else none
  | parameter, b =>
    if isIntermediate b then some intermediate
    else if isPrivate b then some ignored
    else none
  | intermediate, b => if isParameter b then some ignored else none
  | ignored, _ => none

/-- The state behind an escape byte and another byte. -/
def State.opened? (b : UInt8) : Option State :=
  if isIntermediate b then some escapeIntermediate
  else if b == 0x50 then some (device .entry)
  else if b == 0x58 || b == 0x5E || b == 0x5F then some message
  else if b == 0x5B then some (control .entry)
  else if b == 0x5D then some systemCommand
  else if isParameter b || isFinal b then some ground
  else none

/-- The state that a byte leads to, where it leads away from the current one. Two bytes cancel a
sequence, and the escape byte begins another. -/
def State.next? (s : State) (b : UInt8) : Option State :=
  if b == 0x18 || b == 0x1A then some ground
  else if b == 0x1B then some escape
  else match s with
    | ground => none
    | escape => opened? b
    | escapeIntermediate => if isParameter b || isFinal b then some ground else none
    | control part => if isFinal b then some ground else (part.next? b).map control
    | systemCommand => if b == 0x07 then some ground else none
    | deviceData | message | device .ignored => if b == 0x9C then some ground else none
    | device part => if isFinal b then some deviceData else (part.next? b).map device

/-- The number of bytes behind the first byte of a character. -/
def followers (b : UInt8) : Nat :=
  if 0xC2 ≤ b && b ≤ 0xDF then 1
  else if 0xE0 ≤ b && b ≤ 0xEF then 2
  else if 0xF0 ≤ b && b ≤ 0xF4 then 3
  else 0

def isBlankControl (b : UInt8) : Bool := b == 0x09 || b == 0x0A || b == 0x0C || b == 0x0D

/-- Whether a byte shows. Blanks show within a sequence as well, but not within a string. -/
def State.shows : State → UInt8 → Bool
  | ground, b => (0x20 ≤ b && b ≤ 0x7E) || isBlankControl b || followers b != 0
  | escape, b | escapeIntermediate, b | control _, b => isBlankControl b
  | _, _ => false

structure Filter where
  state : State
  /-- Whether the last byte was kept. -/
  showing : Bool
  /-- How many bytes the character under way still has. -/
  owed : Nat
  deriving DecidableEq, Repr

namespace Filter

def start : Filter := ⟨.ground, false, 0⟩

/-- Reads a byte where no character is under way, and says whether it is kept. Behind a byte that
was kept, also behind a blank within a sequence, text goes on until something does not show. -/
def between (f : Filter) (b : UInt8) : Bool × Filter :=
  let state := if f.showing then (State.ground.next? b).getD f.state else f.state
  if f.showing && State.ground.shows b then (true, ⟨state, true, followers b⟩)
  else
    let after := (state.next? b).getD state
    if state.shows b then (true, ⟨after, true, followers b⟩) else (false, ⟨after, false, 0⟩)

def step (f : Filter) (b : UInt8) : Bool × Filter :=
  match f.owed with
  | 0 => f.between b
  | 1 => (true, ⟨.ground, true, 0⟩)
  | owed + 1 => (true, { f with owed })

/-- The bytes that are kept. -/
def runFrom : Filter → Bytes → Bytes
  | _, [] => []
  | f, b :: rest =>
    let (kept, f) := f.step b
    if kept then b :: runFrom f rest else runFrom f rest

end Filter

/-- A text without control sequences and control characters. -/
def strip (s : String) : String :=
  let kept := Filter.start.runFrom (Encoding.Utf8.encode s.toList)
  String.ofList (Encoding.Utf8.decoder.decode kept)

end MustacheBuild.CommandLine.ControlSequence
