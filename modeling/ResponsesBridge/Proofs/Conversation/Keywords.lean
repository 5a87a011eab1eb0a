import ResponsesBridge.Outbound.Tools
import ResponsesBridge.Proofs.Conversation.Schemas

/-!
# The objects that schemas are sent as

A schema is sent as an object that has a member for each keyword that the schema gives, in one order,
and no other member; and so are the schemas inside it, wherever they stand (`Schema.Shown`). From this
object the schema is read as it was (`schemas_return`).

That nothing is sent for a keyword without a value is a property of the table of keywords: the names
that a table shows are those of its rows that show something (`Table.names_fields`), and a row shows
nothing exactly where its value is left out. The induction is on the levels of the writer.
-/

set_option autoImplicit false

namespace ResponsesBridge

/-! ## Names that are shown -/

namespace Json

variable {α β : Type}

theorem Member.isSome_shown_of {name : String} {presence : Presence} {codec : Codec β}
    {get : α → β} {set : β → α → α} {omitted : β → Bool} (record : α) :
    ((Member.of name presence codec get set omitted).shown record).isSome =
      !omitted (get record) := by
  cases left : omitted (get record) <;> simp [Member.of, left]

/-- The members of a record have the names of the rows that show something. -/
theorem Table.names_fields (table : Table α) (record : α) :
    (table.fields record).map Prod.fst =
      ((table.map fun row => (row.name, (row.shown record).isSome)).filter Prod.snd).map
        Prod.fst := by
  induction table with
  | nil => rfl
  | cons row table ih =>
      rw [List.map_cons]
      cases shows : row.shown record with
      | none => rw [Table.fields_of_hidden shows, ih]; rfl
      | some value => rw [Table.fields_of_shown shows, List.map_cons, ih]; rfl

end Json

namespace Conversation

open Json (Codec Table Member Value)

namespace Schema

/-! ## Keywords -/

/-- The keywords in order, and whether a schema gives them: a text, a list or a map gives its keyword
if it is not empty. -/
def keywords (schema : Schema) : List (String × Bool) :=
  [("type", schema.type.isSome), ("title", !schema.title.isEmpty),
    ("description", !schema.description.isEmpty), ("format", !schema.format.isEmpty),
    ("nullable", schema.nullable.isSome), ("enum", !schema.oneOfTexts.isEmpty),
    ("properties", !schema.properties.isEmpty), ("required", !schema.required.isEmpty),
    ("items", schema.items.isSome), ("anyOf", !schema.anyOf.isEmpty),
    ("minimum", schema.minimum.isSome), ("maximum", schema.maximum.isSome),
    ("minItems", schema.minItems.isSome), ("maxItems", schema.maxItems.isSome),
    ("minLength", schema.minLength.isSome), ("maxLength", schema.maxLength.isSome),
    ("pattern", !schema.pattern.isEmpty), ("default", schema.default.isSome),
    ("additionalProperties", schema.additionalProperties.isSome)]

/-- The keywords that a schema gives. -/
def given (schema : Schema) : List String :=
  (schema.keywords.filter Prod.snd).map Prod.fst

mutual

/-- A value is an object with exactly the keywords that a schema gives, and so it is with the schemas
inside, wherever they stand. -/
inductive Shown : Schema → Value → Prop
  | object {schema : Schema} {members : Json.Fields}
      (names : members.map Prod.fst = schema.given)
      (properties : ∀ value, ("properties", value) ∈ members →
        ShownProperties schema.properties value)
      (items : ∀ value, ("items", value) ∈ members → ∀ inner ∈ schema.items, Shown inner value)
      (anyOf : ∀ value, ("anyOf", value) ∈ members → ShownAll schema.anyOf value) :
      Shown schema (.object members)

/-- The schemas of properties stand under their names, in order. -/
inductive ShownProperties : List (String × Schema) → Value → Prop
  | nil : ShownProperties [] (.object [])
  | cons {name : String} {schema : Schema} {value : Value} {properties : List (String × Schema)}
      {members : Json.Fields} (first : Shown schema value)
      (later : ShownProperties properties (.object members)) :
      ShownProperties ((name, schema) :: properties) (.object ((name, value) :: members))

/-- Alternatives stand in order. -/
inductive ShownAll : List Schema → Value → Prop
  | nil : ShownAll [] (.array [])
  | cons {schema : Schema} {value : Value} {schemas : List Schema} {items : List Value}
      (first : Shown schema value) (later : ShownAll schemas (.array items)) :
      ShownAll (schema :: schemas) (.array (value :: items))

end

theorem names_fields_table (inner : Codec Schema) (schema : Schema) :
    ((table inner).fields schema).map Prod.fst = schema.given := by
  have rows : ((table inner).map fun row => (row.name, (row.shown schema).isSome)) =
      schema.keywords := by
    simp only [table, keywords, List.map_cons, List.map_nil, Member.optional, Member.skipped,
      Member.isSome_shown_of]
    simp [Member.of]
  rw [Table.names_fields, rows, given]

/-! ## What stands under keywords -/

section Inner

variable {inner : Codec Schema} {schema : Schema} {value : Value}

theorem value_of_mem_properties (member : ("properties", value) ∈ (table inner).fields schema) :
    value = inner.entries.write schema.properties := by
  obtain ⟨-, rfl⟩ : ¬ schema.properties = [] ∧ inner.entries.write schema.properties = value := by
    simpa [table, Table.fields, Member.skipped, Member.optional, Member.of] using member
  rfl

theorem value_of_mem_items (member : ("items", value) ∈ (table inner).fields schema) :
    ∀ content ∈ schema.items, value = inner.write content := by
  obtain ⟨-, rfl⟩ : ¬ schema.items = none ∧ inner.optional.write schema.items = value := by
    simpa [table, Table.fields, Member.skipped, Member.optional, Member.of] using member
  intro content isGiven
  rw [Option.mem_def.mp isGiven]
  rfl

theorem value_of_mem_anyOf (member : ("anyOf", value) ∈ (table inner).fields schema) :
    value = inner.list.write schema.anyOf := by
  obtain ⟨-, rfl⟩ : ¬ schema.anyOf = [] ∧ inner.list.write schema.anyOf = value := by
    simpa [table, Table.fields, Member.skipped, Member.optional, Member.of] using member
  rfl

theorem shownProperties_write {properties : List (String × Schema)}
    (shown : ∀ entry ∈ properties, Shown entry.2 (inner.write entry.2)) :
    ShownProperties properties (inner.entries.write properties) := by
  induction properties with
  | nil => exact .nil
  | cons entry properties ih =>
      obtain ⟨first, later⟩ := List.forall_mem_cons.mp shown
      exact .cons first (ih later)

theorem shownAll_write {schemas : List Schema}
    (shown : ∀ schema ∈ schemas, Shown schema (inner.write schema)) :
    ShownAll schemas (inner.list.write schemas) := by
  induction schemas with
  | nil => exact .nil
  | cons schema schemas ih =>
      obtain ⟨first, later⟩ := List.forall_mem_cons.mp shown
      exact .cons first (ih later)

end Inner

/-- **What is written of a schema shows it**, at every level. -/
theorem shown_codecWithin {levels : Nat} {schema : Schema} (enough : schema.height ≤ levels) :
    Shown schema ((codecWithin levels).write schema) := by
  induction levels generalizing schema with
  | zero => exact absurd schema.height_pos (Nat.not_lt.mpr enough)
  | succ levels ih =>
      have lower := height_le_succ_iff.mp enough
      refine .object (names_fields_table _ schema) ?_ ?_ ?_
      · intro value member
        rw [value_of_mem_properties member]
        exact shownProperties_write fun entry among => ih (lower.properties entry among)
      · intro value member content isGiven
        rw [value_of_mem_items member content isGiven]
        exact ih (lower.items content isGiven)
      · intro value member
        rw [value_of_mem_anyOf member]
        exact shownAll_write fun content among => ih (lower.anyOf content among)

/-- What is written of a schema is an object. -/
theorem exists_write_eq_object (schema : Schema) :
    ∃ members, codec.write schema = .object members := by
  obtain ⟨levels, isSucc⟩ := Nat.exists_eq_succ_of_ne_zero (Nat.ne_of_gt schema.height_pos)
  exact ⟨_, by simp only [codec, isSucc, codecWithin, Table.codec]; rfl⟩

/-- **A schema returns from the object that it is sent as.** If its bounds are finite, if its properties
and the members of its defaults have different names, as those of every map have, and if no default is
present as `null`, here and in all schemas inside, then it becomes an object, and from this object the
same schema is read, with everything in its order. At every level the object has a member for each
keyword that is given and no other. -/
theorem schemas_return {schema : Schema} (representable : schema.Representable)
    (noNull : schema.HoldsNoNull) :
    ∃ members, Outbound.schemaFields (codec.write schema) = .ok members ∧
      codec.read (Value.object members).node = .ok schema ∧ Shown schema (.object members) := by
  obtain ⟨members, written⟩ := exists_write_eq_object schema
  have returns := rereads representable
  rw [withoutNulls_of_holdsNoNull noNull, Codec.Rereads, written] at returns
  have shown : Shown schema (codec.write schema) := shown_codecWithin (Nat.le_refl _)
  rw [written] at shown
  exact ⟨members, by rw [written]; rfl, returns, shown⟩

/-- An object whose properties nest in all three ways, with a bound, a default and a description. -/
def nestedSchema : Schema where
  type := some .object
  properties :=
    [("zeta",
        { items := some { type := some .number, minimum := some ⟨false, 0, Nat.zero_le _⟩ } }),
      ("alpha", { anyOf := [{ type := some .null }, { oneOfTexts := ["b", "a"] }] })]
  required := ["zeta", "alpha"]
  default := some (.object [("zeta", .null), ("alpha", .array [])])

theorem schemas_return_nested :
    nestedSchema.Representable ∧ nestedSchema.HoldsNoNull ∧
      ∃ members, Outbound.schemaFields (codec.write nestedSchema) = .ok members ∧
        codec.read (Value.object members).node = .ok nestedSchema ∧
        members.map Prod.fst = ["type", "properties", "required", "default"] := by
  have representable : nestedSchema.Representable := by
    have bounded : Representable { type := some .number, minimum := some ⟨false, 0, Nat.zero_le _⟩ } := by
      refine ⟨?_, nofun, nofun, List.nodup_nil, nofun, nofun, nofun⟩
      rintro _ ⟨⟩
      decide
    have listed : Representable
        { items := some { type := some .number, minimum := some ⟨false, 0, Nat.zero_le _⟩ } } := by
      refine ⟨nofun, nofun, nofun, List.nodup_nil, nofun, ?_, nofun⟩
      rintro _ ⟨⟩
      exact bounded
    have leaf (type : Option JsonType) (texts : List String) :
        Representable { type, oneOfTexts := texts } :=
      ⟨nofun, nofun, nofun, List.nodup_nil, nofun, nofun, nofun⟩
    have either : Representable
        { anyOf := [{ type := some .null }, { oneOfTexts := ["b", "a"] }] } := by
      refine ⟨nofun, nofun, nofun, List.nodup_nil, nofun, nofun, ?_⟩
      simpa using ⟨leaf _ _, leaf _ _⟩
    refine ⟨nofun, nofun, ?_, by decide, ?_, nofun, nofun⟩
    · rintro _ ⟨⟩
      simp [Value.Distinct, Json.DistinctMembers, Json.DistinctItems]
    · simpa [nestedSchema] using ⟨listed, either⟩
  have noNull : nestedSchema.HoldsNoNull := by
    have leaf (type : Option JsonType) (texts : List String) (minimum : Option Double) :
        HoldsNoNull { type, oneOfTexts := texts, minimum } := ⟨nofun, nofun, nofun, nofun⟩
    refine ⟨nofun, ?_, nofun, nofun⟩
    simp only [nestedSchema, List.forall_mem_cons]
    refine ⟨⟨nofun, nofun, ?_, nofun⟩, ⟨nofun, nofun, nofun, ?_⟩, nofun⟩
    · rintro _ ⟨⟩
      exact leaf _ _ _
    · simpa using ⟨leaf _ _ _, leaf _ _ _⟩
  obtain ⟨members, sent, read, shown⟩ := schemas_return representable noNull
  refine ⟨representable, noNull, members, sent, read, ?_⟩
  cases shown with
  | object names => exact names.trans rfl

end Schema
end Conversation
end ResponsesBridge
