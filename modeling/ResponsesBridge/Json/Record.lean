import ResponsesBridge.Json.Codec

/-!
# Records

A record type is described by the table of its members in the order in which they are written.
Each row says how the member is stored into a draft of the record and whether and how it is
written. Reading starts from a blank draft.

A record is read from an object, with its members in any order: names that the table does not
hold are passed over, and a name that occurs twice is a mismatch. It is also read from an array
that holds the members in the order of the table, of which the last ones may be missing if they
have a default.
-/

set_option autoImplicit false

namespace ResponsesBridge.Json

/-- When a member may be missing: never, only from an object, or from an array as well. -/
inductive Presence
  | required
  | optional
  | defaulted
deriving DecidableEq, Repr

/-- A row of the table of a record. -/
structure Member (α : Type) where
  name : String
  presence : Presence
  store : Node → α → Except Fault α
  shown : α → Option Value

namespace Member

variable {α β : Type}

/-- A member of which some values are left out in writing. -/
def of (name : String) (presence : Presence) (codec : Codec β) (get : α → β) (set : β → α → α)
    (omitted : β → Bool) : Member α where
  name := name
  presence := presence
  store node draft := do return set (← codec.read node) draft
  shown record := if omitted (get record) then none else some (codec.write (get record))

/-- A member that must be there. -/
def required (name : String) (codec : Codec β) (get : α → β) (set : β → α → α) : Member α :=
  of name .required codec get set fun _ => false

/-- A member that has a default and is always written. -/
def defaulted (name : String) (codec : Codec β) (get : α → β) (set : β → α → α) : Member α :=
  of name .defaulted codec get set fun _ => false

/-- A member that has a default and is left out when it is that default. -/
def skipped (name : String) (codec : Codec β) (get : α → β) (set : β → α → α)
    (omitted : β → Bool) : Member α :=
  of name .defaulted codec get set omitted

/-- A member that may be absent and is left out then. -/
def optional (name : String) (presence : Presence) (codec : Codec β) (get : α → Option β)
    (set : Option β → α → α) : Member α :=
  of name presence codec.optional get set Option.isNone

/-- A member that may be absent and is written `null` then. -/
def nullable (name : String) (presence : Presence) (codec : Codec β) (get : α → Option β)
    (set : Option β → α → α) : Member α :=
  of name presence codec.optional get set fun _ => false

end Member

/-- The table of a record. -/
abbrev Table (α : Type) := List (Member α)

namespace Table

variable {α : Type}

/-- The row of a name. -/
def find? (table : Table α) (name : String) : Option (Member α) :=
  List.find? (fun row => row.name == name) table

/-- A draft filled from the members of an object, with the names met so far. -/
def readMembers (table : Table α) :
    List String → Members → α → Except Fault (List String × α)
  | met, .finished, draft => .ok (met, draft)
  | met, .next name value tail, draft => do
    let name ← name
    match table.find? name with
    | some row =>
      if met.contains name then .error .mismatched
      else
        let draft ← row.store value draft
        readMembers table (name :: met) tail draft
    | none =>
      value.skip
      readMembers table met tail draft
  | _, .noName _, _ => .error .malformed
  | _, .broken fault, _ => .error fault
  | _, .tooDeep _, _ => .error .malformed
termination_by structural _ members => members

/-- Whether every name that an object must have was met. -/
def complete (table : Table α) (met : List String) : Bool :=
  table.all fun row => row.presence != .required || met.contains row.name

/-- A draft filled from the items of an array, one row after the other. -/
def readItems : Table α → Items → α → Except Fault α
  | [], .finished, draft => .ok draft
  | [], .next _ _, _ => .error .malformed
  | row :: table, .finished, draft =>
    if row.presence = .defaulted then readItems table .finished draft else .error .mismatched
  | row :: table, .next head tail, draft => do
    let draft ← row.store head draft
    readItems table tail draft
  | _, .broken fault, _ => .error fault
  | _, .tooDeep _, _ => .error .malformed
termination_by structural table => table

/-- A draft filled from an object; all required names must have been met. -/
def readObject (table : Table α) (blank : α) (members : Members) : Except Fault α := do
  let (met, record) ← table.readMembers [] members blank
  if table.complete met then .ok record else .error .mismatched

/-- A record read from an object or from an array. -/
def read (table : Table α) (blank : α) : Node → Except Fault α
  | .object members => table.readObject blank members
  | .array items => table.readItems items blank
  | node => .error node.refuse

/-- The members that are written of a record. -/
def fields (table : Table α) (record : α) : Fields :=
  table.filterMap fun row => (row.shown record).map fun value => (row.name, value)

/-- The codec of a record type with this table, whose reading starts from `blank`. -/
def codec (table : Table α) (blank : α) : Codec α where
  read := table.read blank
  write record := .object (table.fields record)

end Table

end ResponsesBridge.Json
