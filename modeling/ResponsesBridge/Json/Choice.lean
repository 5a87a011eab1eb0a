import ResponsesBridge.Json.Record

/-!
# Choices

Three ways to write which alternative of a type is meant: a name alone (`enumeration`), an object
with one member whose name tells the alternative (`keyed`), and an object with a member `type`
beside the members of the alternative (`Tagged`). A fourth, `firstOf`, writes nothing and tries
the alternatives in turn.

The last two read their value to the end before they look at its shape, so every mismatch of
shape yields to a fault anywhere in the value. Inside a tagged value two more spellings are read:
a name alone may stand over an object without members (`readNothing`), and a tag may be a number
(`readTaggedInside`).
-/

set_option autoImplicit false

namespace ResponsesBridge.Json

variable {α : Type}

/-! ## A name, or an object with one member -/

/-- What may follow the only member of an object. -/
def closeOnly : Members → Except Fault Unit
  | .finished => .ok ()
  | .broken fault => .error fault
  | _ => .error .malformed

/-- What readers of the name and of the node behind it make of an object with one member. -/
def readOnly {β : Type} (named : String → Except Fault β) (read : β → Node → Except Fault α) :
    Members → Except Fault α
  | .finished => .error .malformed
  | .broken fault => .error fault
  | .tooDeep _ => .error .malformed
  | .noName found => .error found.refuse
  | .next name value tail => do
    let name ← name
    let alternative ← named name
    let result ← read alternative value
    closeOnly tail
    return result

/-- What readers of names and of objects make of a node that names an alternative. Anything else
than a quotation or an object is malformed. -/
def readNamed {β : Type} (named : String → Except Fault β) (alone : β → Except Fault α)
    (read : β → Node → Except Fault α) : Node → Except Fault α
  | .text (.ok name) => do alone (← named name)
  | .text (.error fault) => .error fault
  | .object members => readOnly named read members
  | .broken .nothing wanted _ => .error wanted
  | .broken .quotation wanted _ => .error wanted
  | _ => .error .malformed

/-- The alternative of a name. -/
def namedIn (alternatives : List (String × α)) (name : String) : Except Fault α :=
  match lookup name alternatives with
  | some alternative => .ok alternative
  | none => .error .mismatched

/-- A node that holds nothing. -/
def readNull : Node → Except Fault Unit
  | .null => .ok ()
  | node => .error node.refuse

/-- A node that holds nothing: `null`, or an object without members. -/
def readNothing : Node → Except Fault Unit
  | .object .finished => .ok ()
  | node => readNull node

/-- Alternatives without content, written by their names. An object with the name over nothing is
read as well; `nothing` says what counts as that. -/
def enumerationOver (nothing : Node → Except Fault Unit) (alternatives : List (String × α))
    (nameOf : α → String) : Codec α where
  read := readNamed (namedIn alternatives) .ok fun alternative node => do
    nothing node
    return alternative
  write value := .text (nameOf value)

/-- Alternatives without content, written by their names. An object with the name over `null`
is read as well. -/
def enumeration (alternatives : List (String × α)) (nameOf : α → String) : Codec α :=
  enumerationOver readNull alternatives nameOf

/-- An object with one member, whose name tells how its value is read. -/
def keyed (alternatives : List (String × (Node → Except Fault α)))
    (shown : α → String × Value) : Codec α where
  read := readNamed (namedIn alternatives) (fun _ => .error .mismatched) fun read node => read node
  write value := .object [shown value]

/-! ## An object with a member `type` -/

/-- The name of the member that tells the alternative. -/
def tagName : String := "type"

/-- An alternative: its name, how it is read from the members beside `type`, and how from the
items behind the first. -/
structure Alternative (α : Type) where
  tag : String
  ofMembers : Members → Except Fault α
  ofItems : Items → Except Fault α

/-- The alternative with this tag whose members the table describes. -/
def Alternative.ofTable {β : Type} (tag : String) (table : Table β) (blank : β) (make : β → α) :
    Alternative α where
  tag := tag
  ofMembers members := do return make (← table.readObject blank members)
  ofItems items := do return make (← table.readItems items blank)

/-- The members without those of a name. -/
def Members.without (name : String) : Members → Members
  | .next (.ok other) value tail =>
    if other = name then tail.without name else .next (.ok other) value (tail.without name)
  | .next (.error fault) value tail => .next (.error fault) value (tail.without name)
  | members => members
termination_by structural members => members

/-- The tag of an object all of whose values are read; there must be one tag, and `known` must
accept it as soon as it is met. -/
def findTag {β : Type} (known : Node → Except Fault β) :
    Option β → Members → Except Fault β
  | some tag, .finished => .ok tag
  | none, .finished => .error .mismatched
  | found, .next name value tail => do
    let name ← name
    if name = tagName then
      match found with
      | some _ => .error .mismatched
      | none => findTag known (some (← known value)) tail
    else
      let _ ← value.value
      findTag known found tail
  | _, .noName _ => .error .malformed
  | _, .broken fault => .error fault
  | _, .tooDeep _ => .error .malformed
termination_by structural _ members => members

/-- A result whose every fault is a mismatch of shape. -/
def mismatchOnly (result : Except Fault α) : Except Fault α :=
  match result with
  | .ok value => .ok value
  | .error _ => .error .mismatched

/-- The alternative with a tag; without one, the alternative for all other tags, if there is
one. -/
def alternativeFor (alternatives : List (Alternative α)) (other : Option (Alternative α))
    (tag : String) : Except Fault (Alternative α) :=
  match alternatives.find? (fun alternative => alternative.tag == tag), other with
  | some alternative, _ => .ok alternative
  | none, some alternative => .ok alternative
  | none, none => .error .mismatched

/-- The alternative at a place of the list, counted from zero. -/
def alternativeAt (alternatives : List (Alternative α)) (place : Int) :
    Except Fault (Alternative α) :=
  match place with
  | .ofNat place =>
    match alternatives[place]? with
    | some alternative => .ok alternative
    | none => .error .mismatched
  | .negSucc _ => .error .mismatched

/-- What a node becomes whose tag tells the alternative by way of `choose`: the tag may stand at
any place of an object, and stands first in an array. -/
def readChosen (choose : Node → Except Fault (Alternative α)) : Node → Except Fault α
  | .object members => do
    let alternative ← findTag choose none members
    mismatchOnly (alternative.ofMembers (members.without tagName))
  | .array (.next head tail) => do
    let alternative ← choose head
    let _ ← tail.values
    mismatchOnly (alternative.ofItems tail)
  | .array .finished => .error .mismatched
  | .array (.broken fault) => .error fault
  | .array (.tooDeep _) => .error .malformed
  | node => .error node.refuse

/-- What the alternatives make of a node with a tag that is a text. -/
def readTagged (alternatives : List (Alternative α)) (other : Option (Alternative α)) :
    Node → Except Fault α :=
  readChosen fun node => do alternativeFor alternatives other (← Codec.text.read node)

/-- What the alternatives make of a node inside a tagged value. There the tag may also be the
place of the alternative in the list, counted from zero. -/
def readTaggedInside (alternatives : List (Alternative α)) : Node → Except Fault α :=
  readChosen fun
    | .number (some (.integer place)) => alternativeAt alternatives place
    | node => do alternativeFor alternatives none (← Codec.text.read node)

/-- The object with a tag in front of other members. -/
def tagged (tag : String) (members : Fields) : Value :=
  .object ((tagName, .text tag) :: members)

/-! ## Alternatives without a name -/

/-- The first reader that accepts a value which has no fault of its own. -/
def firstOf (readers : List (Node → Except Fault α)) (node : Node) : Except Fault α := do
  let _ ← node.value
  match readers.findSome? (fun read => (read node).toOption) with
  | some result => .ok result
  | none => .error .mismatched

end ResponsesBridge.Json
