import ResponsesBridge.Json.Value

/-!
# Syntax trees of JSON texts

A reader wants to know two things about a text: the value, or the first place where the text
disappoints the reader. What disappoints depends on what is wanted. A text that stops inside an
array is no fault to a reader who wanted an object, since that reader has given up at the opening
bracket; and a number too big to be represented is a fault only to a reader who wants the
number, not to one who passes over it.

A `Node` therefore records a text up to the point where it stops being JSON. Walking over it in
order of the text, a reader meets a `Fault` exactly where it would have met it in the text.
`Node.value` wants the whole value and `Node.skip` passes over it. A complete value is a node
without faults, `Value.node`.
-/

set_option autoImplicit false

namespace ResponsesBridge.Json

/-- What is wrong at the first place where a text disappoints its reader: it `ended` too early, it
is `malformed`, or it is well formed up to there but `mismatched`: not of the kind wanted. -/
inductive Fault
  | ended
  | malformed
  | mismatched
deriving DecidableEq, Repr, Inhabited

/-- What stands where a value is broken off: no beginning of a value, the beginning of `null`, of
another word or of a number, or an open quotation. -/
inductive Start
  | nothing
  | nullWord
  | word
  | quotation
deriving DecidableEq, Repr

/-- How deep arrays and objects may be nested for a reader that wants them. -/
def depthLimit : Nat := 127

mutual

/-- A value as far as the text goes. -/
inductive Node
  | null
  | boolean (value : Bool)
  /-- A number; nothing if it exceeds the representable numbers. -/
  | number (value : Option Number)
  /-- A closed quotation; a fault if its content is no text. -/
  | text (content : Except Fault String)
  | array (items : Items)
  | object (members : Members)
  /-- The text stops being JSON here, with one fault for readers that want the value and one
  for readers that pass over it. -/
  | broken (start : Start) (wanted skipped : Fault)

/-- The items of an array as far as the text goes. -/
inductive Items
  | finished
  | next (head : Node) (tail : Items)
  | broken (fault : Fault)
  /-- The array is nested too deep to be wanted; it can still be passed over. -/
  | tooDeep (inside : Items)

/-- The members of an object as far as the text goes. -/
inductive Members
  | finished
  | next (name : Except Fault String) (value : Node) (tail : Members)
  /-- Something else than a quotation stands where a name is needed. -/
  | noName (found : Node)
  | broken (fault : Fault)
  /-- The object is nested too deep to be wanted; it can still be passed over. -/
  | tooDeep (inside : Members)

end

instance : Inhabited Node := ⟨.null⟩

namespace Node

/-- The fault of a node that is not of the kind its reader wants. A scalar is read to its end
before it disappoints, an array or an object disappoints at its bracket. -/
def refuse : Node → Fault
  | .null => .mismatched
  | .boolean _ => .mismatched
  | .number (some _) => .mismatched
  | .number none => .malformed
  | .text (.ok _) => .mismatched
  | .text (.error fault) => fault
  | .array _ => .mismatched
  | .object _ => .mismatched
  | .broken _ wanted _ => wanted

end Node

mutual

/-- The whole value of a node. A name that occurs again replaces the earlier value. -/
def Node.value : Node → Except Fault Value
  | .null => .ok .null
  | .boolean value => .ok (.boolean value)
  | .number (some value) => .ok (.number value)
  | .number none => .error .malformed
  | .text (.ok content) => .ok (.text content)
  | .text (.error fault) => .error fault
  | .array items => do return .array (← items.values)
  | .object members => do return .object (settle (← members.fields))
  | .broken _ wanted _ => .error wanted
termination_by structural node => node

/-- The values of all items. -/
def Items.values : Items → Except Fault (List Value)
  | .finished => .ok []
  | .next head tail => do
    let value ← head.value
    return value :: (← tail.values)
  | .broken fault => .error fault
  | .tooDeep _ => .error .malformed
termination_by structural items => items

/-- The values of all members under their names, repeated names included. -/
def Members.fields : Members → Except Fault (List (String × Value))
  | .finished => .ok []
  | .next name value tail => do
    let name ← name
    let value ← value.value
    return (name, value) :: (← tail.fields)
  | .noName _ => .error .malformed
  | .broken fault => .error fault
  | .tooDeep _ => .error .malformed
termination_by structural members => members

end

mutual

/-- Passing over a node: the sizes of numbers, the contents of quotations and the depth of nesting
are of no interest. -/
def Node.skip : Node → Except Fault Unit
  | .null => .ok ()
  | .boolean _ => .ok ()
  | .number _ => .ok ()
  | .text _ => .ok ()
  | .array items => items.skip
  | .object members => members.skip
  | .broken _ _ skipped => .error skipped
termination_by structural node => node

/-- Passing over all items. -/
def Items.skip : Items → Except Fault Unit
  | .finished => .ok ()
  | .next head tail => do
    head.skip
    tail.skip
  | .broken fault => .error fault
  | .tooDeep inside => inside.skip
termination_by structural items => items

/-- Passing over all members, names included. -/
def Members.skip : Members → Except Fault Unit
  | .finished => .ok ()
  | .next _ value tail => do
    value.skip
    tail.skip
  | .noName _ => .error .malformed
  | .broken fault => .error fault
  | .tooDeep inside => inside.skip
termination_by structural members => members

end

mutual

/-- The number of arrays and objects around the innermost part of a node. -/
def Node.height : Node → Nat
  | .array items => items.height + 1
  | .object members => members.height + 1
  | _ => 0
termination_by structural node => node

/-- The greatest height of an item. -/
def Items.height : Items → Nat
  | .next head tail => max head.height tail.height
  | .tooDeep inside => inside.height
  | _ => 0
termination_by structural items => items

/-- The greatest height of a member. -/
def Members.height : Members → Nat
  | .next _ value tail => max value.height tail.height
  | .tooDeep inside => inside.height
  | _ => 0
termination_by structural members => members

end

mutual

/-- The node of a complete value. -/
def Value.node : Value → Node
  | .null => .null
  | .boolean value => .boolean value
  | .number value => .number (some value)
  | .text content => .text (.ok content)
  | .array items => .array (itemsOf items)
  | .object members => .object (membersOf members)
termination_by structural value => value

/-- The items of a complete array. -/
def itemsOf : List Value → Items
  | [] => .finished
  | value :: values => .next value.node (itemsOf values)
termination_by structural values => values

/-- The members of a complete object. -/
def membersOf : List (String × Value) → Members
  | [] => .finished
  | (name, value) :: fields => .next (.ok name) value.node (membersOf fields)
termination_by structural fields => fields

end

end ResponsesBridge.Json
