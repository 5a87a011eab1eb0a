import ResponsesBridge.Json.Choice

/-!
# Schemas

A schema says which JSON values are wanted, in the keywords of JSON Schema. Schemas nest in three
ways: the properties of an object, the items of an array, and alternatives. `Schema.height` is
the depth of nesting; reading and writing recurse through as many levels as the node or the
schema has.
-/

set_option autoImplicit false

namespace ResponsesBridge.Conversation

open Json (Codec Table Member)

/-- The type of a JSON value. -/
inductive JsonType
  | string
  | number
  | integer
  | boolean
  | array
  | object
  | null
deriving DecidableEq, Repr

/-- A schema. Empty texts and lists stand for keywords that are not given. -/
structure Schema where
  type : Option JsonType := none
  title : String := ""
  description : String := ""
  format : String := ""
  nullable : Option Bool := none
  oneOfTexts : List String := []
  properties : List (String × Schema) := []
  required : List String := []
  items : Option Schema := none
  anyOf : List Schema := []
  minimum : Option Double := none
  maximum : Option Double := none
  minItems : Option UInt64 := none
  maxItems : Option UInt64 := none
  minLength : Option UInt64 := none
  maxLength : Option UInt64 := none
  pattern : String := ""
  default : Option Json.Value := none
  additionalProperties : Option Bool := none

instance : Inhabited Schema := ⟨{}⟩

mutual

/-- The number of levels of a schema. -/
def Schema.height : Schema → Nat
  | ⟨_, _, _, _, _, _, properties, _, items, anyOf, _, _, _, _, _, _, _, _, _⟩ =>
    1 + max (heightOfProperties properties) (max (heightOfItems items) (heightOfAll anyOf))
termination_by structural schema => schema

/-- The greatest height among properties. -/
def heightOfProperties : List (String × Schema) → Nat
  | [] => 0
  | (_, schema) :: properties => max schema.height (heightOfProperties properties)
termination_by structural properties => properties

/-- The height of the schema of items, if there is one. -/
def heightOfItems : Option Schema → Nat
  | none => 0
  | some schema => schema.height
termination_by structural items => items

/-- The greatest height in a list. -/
def heightOfAll : List Schema → Nat
  | [] => 0
  | schema :: schemas => max schema.height (heightOfAll schemas)
termination_by structural schemas => schemas

end

/-- A schema of one type. -/
def Schema.ofType (type : JsonType) : Schema := { type := some type }

/-- An object with these properties; a repeated name keeps its first place and takes its last
schema. -/
def Schema.ofProperties (properties : List (String × Schema)) : Schema :=
  { type := some .object, properties := Json.settle properties }

/-! ## JSON form -/

/-- The types under their names. -/
def JsonType.names : List (String × JsonType) :=
  [("string", .string), ("number", .number), ("integer", .integer), ("boolean", .boolean),
    ("array", .array), ("object", .object), ("null", .null)]

/-- The name of a type. -/
def JsonType.name : JsonType → String
  | .string => "string"
  | .number => "number"
  | .integer => "integer"
  | .boolean => "boolean"
  | .array => "array"
  | .object => "object"
  | .null => "null"

def JsonType.codec : Codec JsonType := Json.enumeration JsonType.names JsonType.name

/-- The keywords in the order in which they are written; `inner` reads and writes the schemas
inside. -/
def Schema.table (inner : Codec Schema) : Table Schema :=
  [.optional "type" .defaulted JsonType.codec (·.type) fun type schema => { schema with type },
    .skipped "title" .text (·.title) (fun title schema => { schema with title }) String.isEmpty,
    .skipped "description" .text (·.description)
      (fun description schema => { schema with description }) String.isEmpty,
    .skipped "format" .text (·.format) (fun format schema => { schema with format })
      String.isEmpty,
    .optional "nullable" .defaulted .boolean (·.nullable) fun nullable schema =>
      { schema with nullable },
    .skipped "enum" (.list .text) (·.oneOfTexts)
      (fun oneOfTexts schema => { schema with oneOfTexts }) List.isEmpty,
    .skipped "properties" (.entries inner) (·.properties)
      (fun properties schema => { schema with properties }) List.isEmpty,
    .skipped "required" (.list .text) (·.required)
      (fun required schema => { schema with required }) List.isEmpty,
    .optional "items" .defaulted inner (·.items) fun items schema => { schema with items },
    .skipped "anyOf" (.list inner) (·.anyOf) (fun anyOf schema => { schema with anyOf })
      List.isEmpty,
    .optional "minimum" .defaulted .double (·.minimum) fun minimum schema =>
      { schema with minimum },
    .optional "maximum" .defaulted .double (·.maximum) fun maximum schema =>
      { schema with maximum },
    .optional "minItems" .defaulted .word64 (·.minItems) fun minItems schema =>
      { schema with minItems },
    .optional "maxItems" .defaulted .word64 (·.maxItems) fun maxItems schema =>
      { schema with maxItems },
    .optional "minLength" .defaulted .word64 (·.minLength) fun minLength schema =>
      { schema with minLength },
    .optional "maxLength" .defaulted .word64 (·.maxLength) fun maxLength schema =>
      { schema with maxLength },
    .skipped "pattern" .text (·.pattern) (fun pattern schema => { schema with pattern })
      String.isEmpty,
    .optional "default" .defaulted .any (·.default) fun default schema =>
      { schema with default },
    .optional "additionalProperties" .defaulted .boolean (·.additionalProperties)
      fun additionalProperties schema => { schema with additionalProperties }]

/-- The codec of schemas with at most so many levels. -/
def Schema.codecWithin : Nat → Codec Schema
  | 0 => { read := fun node => .error node.refuse, write := fun _ => .null }
  | levels + 1 => (Schema.table (codecWithin levels)).codec {}

/-- A schema is read through as many levels as its node has, and written through its own. -/
def Schema.codec : Codec Schema where
  read node := (Schema.codecWithin node.height).read node
  write schema := (Schema.codecWithin schema.height).write schema

end ResponsesBridge.Conversation
