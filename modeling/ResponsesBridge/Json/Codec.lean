import ResponsesBridge.Json.Node
import ResponsesBridge.Dictionary

/-!
# Codecs

A codec is a pair of a reader of nodes and a writer of values for one type. The two directions
stand side by side so that one table describes both. Readers meet the faults of a node in the
order of the text.
-/

set_option autoImplicit false

namespace ResponsesBridge.Json

/-- How values of a type are read and written. -/
structure Codec (α : Type) where
  read : Node → Except Fault α
  write : α → Value

namespace Codec

/-- Any JSON value. -/
def any : Codec Value where
  read := Node.value
  write := id

/-- A text. -/
def text : Codec String where
  read
    | .text (.ok content) => .ok content
    | node => .error node.refuse
  write := .text

/-- A truth value. -/
def boolean : Codec Bool where
  read
    | .boolean value => .ok value
    | node => .error node.refuse
  write := .boolean

/-- A natural number of 32 bits, written without point and exponent. -/
def word32 : Codec UInt32 where
  read
    | .number (some (.integer value)) =>
      if 0 ≤ value ∧ value < UInt32.size then .ok (UInt32.ofNat value.toNat) else .error .mismatched
    | node => .error node.refuse
  write value := .number (.integer value.toNat)

/-- A natural number of 64 bits, written without point and exponent. -/
def word64 : Codec UInt64 where
  read
    | .number (some (.integer value)) =>
      if 0 ≤ value ∧ value < UInt64.size then .ok (UInt64.ofNat value.toNat) else .error .mismatched
    | node => .error node.refuse
  write value := .number (.integer value.toNat)

/-- A number of a binary format: every number is accepted and rounded to the format. The argument
says which number is written; infinities become `null`. -/
def floating (format : Format) (shown : Floating format → Number) : Codec (Floating format) where
  read
    | .number (some (.integer value)) => .ok (Floating.ofInt format value)
    | .number (some (.real value)) => .ok (value.convert format)
    | .number (some (.single value)) => .ok (value.convert format)
    | node => .error node.refuse
  write value := if value.IsFinite then .number (shown value) else .null

/-- A 64-bit number; infinities become `null`. -/
def double : Codec Double where
  read
    | .number (some (.integer value)) => .ok (Floating.ofInt .double value)
    | .number (some (.real value)) => .ok value
    | .number (some (.single value)) => .ok (value.convert .double)
    | node => .error node.refuse
  write value := if value.IsFinite then .number (.real value) else .null

/-- A value that may be absent; absence is written `null`. -/
def optional {α : Type} (codec : Codec α) : Codec (Option α) where
  read
    | .null => .ok none
    | .broken .nullWord wanted _ => .error wanted
    | node => do return some (← codec.read node)
  write
    | none => .null
    | some value => codec.write value

/-- What a reader makes of all items. -/
def readItems {α : Type} (read : Node → Except Fault α) : Items → Except Fault (List α)
  | .finished => .ok []
  | .next head tail => do
    let value ← read head
    return value :: (← readItems read tail)
  | .broken fault => .error fault
  | .tooDeep _ => .error .malformed
termination_by structural items => items

/-- What a reader makes of all members, repeated names included. -/
def readEntries {α : Type} (read : Node → Except Fault α) :
    Members → Except Fault (List (String × α))
  | .finished => .ok []
  | .next name value tail => do
    let name ← name
    let value ← read value
    return (name, value) :: (← readEntries read tail)
  | .noName _ => .error .malformed
  | .broken fault => .error fault
  | .tooDeep _ => .error .malformed
termination_by structural members => members

/-- A list, written as an array. -/
def list {α : Type} (codec : Codec α) : Codec (List α) where
  read
    | .array items => readItems codec.read items
    | node => .error node.refuse
  write values := .array (values.map codec.write)

/-- Entries in order under different names, written as an object; a repeated name keeps its first
place and takes its last value. -/
def entries {α : Type} (codec : Codec α) : Codec (List (String × α)) where
  read
    | .object members => do return settle (← readEntries codec.read members)
    | node => .error node.refuse
  write values := .object (values.map fun entry => (entry.1, codec.write entry.2))

/-- The members of any object. -/
def fields : Codec Fields where
  read
    | .object members => do return settle (← members.fields)
    | node => .error node.refuse
  write := .object

/-- A dictionary, written as an object in ascending order of names. -/
def dictionary {α : Type} (codec : Codec α) : Codec (Dictionary α) where
  read
    | .object members => do return Dictionary.ofList (← readEntries codec.read members)
    | node => .error node.refuse
  write values := .object (values.entries.map fun entry => (entry.1, codec.write entry.2))

end Codec

end ResponsesBridge.Json
