import MustacheBuild.Encoding.TwoByte

/-!
ISO-2022-JP, which switches between sets of seven bits by escape sequences.
-/
namespace MustacheBuild.Encoding.Iso2022Jp

/-- The sets that can be switched to. -/
inductive Set where
  | ascii
  | roman
  | katakana
  | kanji
  deriving DecidableEq, Repr

inductive Stage where
  /-- Between characters of the current set. -/
  | ready
  | trail (lead : Nat)
  /-- Behind an escape byte. -/
  | escape
  /-- Behind an escape byte and the first byte of its sequence. -/
  | sequence (first : Nat)

structure State where
  current : Set
  stage : Stage
  /-- Whether nothing has been written since the last escape sequence. -/
  idle : Bool

def escapeByte : Nat := 0x1B

/-- Bytes that never stand for a character, as they would switch sets. -/
def isShift (b : Nat) : Bool := b == 0x0E || b == 0x0F || b == escapeByte

/-- Reads a byte that is no part of an escape sequence, and is not the escape byte. -/
def plain (current : Set) (stage : Stage) (b : Nat) : Text × Stage :=
  match current, stage with
  | .ascii, _ => ([if b < 0x80 && !isShift b then Char.ofNat b else replacement], .ready)
  | .roman, _ =>
    ([if b == 0x5C then '¥' else if b == 0x7E then '‾'
      else if b < 0x80 && !isShift b then Char.ofNat b else replacement], .ready)
  | .katakana, _ =>
    ([if 0x21 ≤ b && b ≤ 0x5F then Char.ofNat (0xFF61 + (b - 0x21)) else replacement], .ready)
  | .kanji, .trail lead =>
    let known := if 0x21 ≤ b && b ≤ 0x7E then
      Index.jis0208.char? ((lead - 0x21) * 94 + (b - 0x21)) else none
    ([known.getD replacement], .ready)
  | .kanji, _ => if 0x21 ≤ b && b ≤ 0x7E then ([], .trail b) else ([replacement], .ready)

/-- The set that an escape sequence switches to. -/
def setOf? (first second : Nat) : Option Set :=
  match first, second with
  | 0x28, 0x42 => some .ascii
  | 0x28, 0x4A => some .roman
  | 0x28, 0x49 => some .katakana
  | 0x24, 0x40 => some .kanji
  | 0x24, 0x42 => some .kanji
  | _, _ => none

/-- Reads a byte between escape sequences. -/
def unescaped (s : State) (b : Nat) : Text × State :=
  if b == escapeByte then
    match s.stage with
    | .trail _ => ([replacement], { s with stage := .escape })
    | _ => ([], { s with stage := .escape })
  else
    let (written, stage) := plain s.current s.stage b
    (written, { s with stage, idle := false })

/-- A sequence that switches to no set is replaced, and its bytes are read as characters. A sequence
right behind another is replaced too, but it switches. -/
def step (s : State) (b : UInt8) : Text × State :=
  let b := b.toNat
  match s.stage with
  | .escape =>
    if b == 0x24 || b == 0x28 then ([], { s with stage := .sequence b })
    else
      let (written, s) := unescaped { s with stage := .ready, idle := false } b
      (replacement :: written, s)
  | .sequence first =>
    match setOf? first b with
    | some set =>
      (if s.idle then [replacement] else [], { current := set, stage := .ready, idle := true })
    | none =>
      let (one, s) := unescaped { s with stage := .ready, idle := false } first
      let (two, s) := unescaped s b
      (replacement :: one ++ two, s)
  | _ => unescaped s b

def finish (s : State) : Text :=
  match s.stage with
  | .ready => []
  | .trail _ => [replacement]
  | .escape => [replacement]
  | .sequence first =>
    match plain s.current .ready first with
    | (written, .ready) => replacement :: written
    | (written, _) => replacement :: written ++ [replacement]

def decoder : Decoder := { State, start := ⟨.ascii, .ready, false⟩, step, finish }

/-- The sequence that switches to a set. -/
def escapeTo : Set → Bytes
  | .ascii => [0x1B, 0x28, 0x42]
  | .roman => [0x1B, 0x28, 0x4A]
  | .katakana => [0x1B, 0x28, 0x49]
  | .kanji => [0x1B, 0x24, 0x42]

def switch (current wanted : Set) : Bytes := if current = wanted then [] else escapeTo wanted

/-- The full-width forms of the half-width katakana, in the order of the latter. -/
def fullWidthKana : Text :=
  "。「」、・ヲァィゥェォャュョッーアイウエオカキクケコサシスセソタチツテトナニヌネノハヒフヘホマミムメモヤユヨラリルレロワン゛゜".toList

/-- Half-width katakana have no place in the output and are widened, as is the minus sign. -/
def widen (c : Char) : Char :=
  match halfWidthKana c with
  | some i => (fullWidthKana[i]?).getD c
  | none => widenMinus c

/-- Writes one character; `reference` writes one that has no byte, in ASCII. -/
def encodeChar (reference : Char → Bytes) (current : Set) (c : Char) : Bytes × Set :=
  let n := c.toNat
  if n < 0x80 then
    if isShift n then
      let set := if current = .kanji then .ascii else current
      (switch current set ++ reference replacement, set)
    else if current = .roman && n != 0x5C && n != 0x7E then ([byte n], .roman)
    else (switch current .ascii ++ [byte n], .ascii)
  else if n = 0xA5 then (switch current .roman ++ [0x5C], .roman)
  else if n = 0x203E then (switch current .roman ++ [0x7E], .roman)
  else
    match Index.jis0208.pointer? (widen c) with
    | some pointer =>
      (switch current .kanji ++ [byte (pointer / 94 + 0x21), byte (pointer % 94 + 0x21)], .kanji)
    | none =>
      let set := if current = .kanji then .ascii else current
      (switch current set ++ reference c, set)

/-- Writes a text from a set on, and returns to ASCII at the end. -/
def encodeFrom (reference : Char → Bytes) : Set → Text → Bytes
  | current, [] => switch current .ascii
  | current, c :: rest =>
    let (written, set) := encodeChar reference current c
    written ++ encodeFrom reference set rest

end MustacheBuild.Encoding.Iso2022Jp
