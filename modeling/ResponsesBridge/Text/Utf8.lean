/-!
# Decoding UTF-8

A sequence of octets is cut into *chunks*: a chunk is a character, or octets that no character
can start with, or the beginning of a character at which the sequence stops. The octets of an
invalid chunk are as many as could still have started a character, so every later character is
found again. Three readings follow: strict, with the first bad chunk as the error, lenient, with
a replacement character for every bad chunk, and `glyphs`, which keeps the bad octets apart from
the characters.
-/

set_option autoImplicit false

namespace ResponsesBridge.Text.Utf8

/-- A piece of a decoded sequence. -/
inductive Chunk
  | char (value : Char)
  | invalid (octets : Nat)
  | incomplete (octets : Nat)
deriving DecidableEq, Repr

/-- How many octets follow the first octet of a character, and the range of the second one. -/
def shape (first : UInt8) : Option (Nat × Nat × Nat) :=
  let value := first.toNat
  if 0xC2 ≤ value ∧ value ≤ 0xDF then some (1, 0x80, 0xBF)
  else if value = 0xE0 then some (2, 0xA0, 0xBF)
  else if value = 0xED then some (2, 0x80, 0x9F)
  else if 0xE1 ≤ value ∧ value ≤ 0xEF then some (2, 0x80, 0xBF)
  else if value = 0xF0 then some (3, 0x90, 0xBF)
  else if 0xF1 ≤ value ∧ value ≤ 0xF3 then some (3, 0x80, 0xBF)
  else if value = 0xF4 then some (3, 0x80, 0x8F)
  else none

/-- The bits that the first octet of a character contributes. -/
def leadingBits (following : Nat) (first : UInt8) : Nat :=
  match following with
  | 1 => first.toNat % 0x20
  | 2 => first.toNat % 0x10
  | _ => first.toNat % 0x08

/-- The remaining octets of a character: `needed` of them, the next one between `low` and
`high`, the others anything that may continue a character. `used` octets were read before. -/
def continued : (needed low high used bits : Nat) → List UInt8 → Chunk
  | 0, _, _, _, bits, _ => .char (Char.ofNat bits)
  | _ + 1, _, _, used, _, [] => .incomplete used
  | needed + 1, low, high, used, bits, octet :: octets =>
    if low ≤ octet.toNat ∧ octet.toNat ≤ high then
      continued needed 0x80 0xBF (used + 1) (bits * 0x40 + octet.toNat % 0x40) octets
    else .invalid used

/-- The chunk that a sequence with this first octet begins with. -/
def chunkAt (first : UInt8) (octets : List UInt8) : Chunk :=
  if first.toNat < 0x80 then .char (Char.ofNat first.toNat)
  else
    match shape first with
    | none => .invalid 1
    | some (following, low, high) =>
      continued following low high 1 (leadingBits following first) octets

/-- The number of octets of a chunk. -/
def Chunk.size : Chunk → Nat
  | .char value => value.utf8Size
  | .invalid octets => octets
  | .incomplete octets => octets

/-- The chunks of a sequence, at most as many as the first argument says. -/
def chunksWithin : Nat → List UInt8 → List Chunk
  | 0, _ => []
  | _ + 1, [] => []
  | bound + 1, first :: octets =>
    let chunk := chunkAt first octets
    chunk :: chunksWithin bound (octets.drop (chunk.size - 1))

/-- The chunks of a sequence of octets. -/
def chunks (octets : List UInt8) : List Chunk :=
  chunksWithin octets.length octets

/-- A character, or nothing where an octet belongs to no character. -/
abbrev Glyph := Option Char

/-- The glyphs of a chunk: its character, or one empty glyph for each octet. -/
def Chunk.glyphs : Chunk → List Glyph
  | .char value => [some value]
  | .invalid octets => List.replicate octets none
  | .incomplete octets => List.replicate octets none

/-- The glyphs of a sequence of octets. -/
def glyphs (octets : List UInt8) : List Glyph :=
  (chunks octets).flatMap Chunk.glyphs

/-- The characters before the first bad chunk, and that chunk if there is one. -/
def strict : List Chunk → List Char × Option Chunk
  | [] => ([], none)
  | .char value :: rest =>
    let (characters, bad) := strict rest
    (value :: characters, bad)
  | bad :: _ => ([], some bad)

/-- The characters of a sequence that holds nothing else. -/
def decode? (octets : List UInt8) : Option (List Char) :=
  match strict (chunks octets) with
  | (characters, none) => some characters
  | (_, some _) => none

/-- The character that stands for octets that cannot be decoded. -/
def replacement : Char := '\uFFFD'

/-- The characters of a sequence, with one replacement character for every bad chunk. -/
def decodeLossy (octets : List UInt8) : List Char :=
  (chunks octets).map fun chunk =>
    match chunk with
    | .char value => value
    | _ => replacement

/-- The octets of a character. -/
def encodeChar (character : Char) : List UInt8 :=
  (String.singleton character).toUTF8.toList

/-- The octets of a text. -/
def encode (text : List Char) : List UInt8 :=
  text.flatMap encodeChar

end ResponsesBridge.Text.Utf8
