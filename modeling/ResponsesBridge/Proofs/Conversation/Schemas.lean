import ResponsesBridge.Conversation.Schema
import ResponsesBridge.Proofs.Json.Codecs

/-!
# What becomes of a schema that is written and read

A schema is read as it was written, through all levels and with its properties, names and
alternatives in order, but for one thing: a default that is `null` is not told apart from one that is
not given (`Schema.rereads`, `Schema.withoutNulls`).

Both the reader and the writer of schemas are given a number of levels. Writing does not depend on it
as soon as it suffices for the schema (`Schema.write_codecWithin`), and the node of what is written
has as many levels as the schema (`Schema.height_le_node`), so the levels by which the reader goes
suffice. With one number for both, each level is a record whose inner schemas come back by
induction on the levels.
-/

set_option autoImplicit false

namespace ResponsesBridge.Conversation

open Json (Codec Table Member Value)

/-! ## Heights -/

theorem heightOfProperties_le_iff {properties : List (String × Schema)} {bound : Nat} :
    heightOfProperties properties ≤ bound ↔ ∀ entry ∈ properties, entry.2.height ≤ bound := by
  induction properties with
  | nil => simp [heightOfProperties]
  | cons entry properties ih =>
      rw [heightOfProperties, Nat.max_le, ih, List.forall_mem_cons]

theorem heightOfItems_le_iff {items : Option Schema} {bound : Nat} :
    heightOfItems items ≤ bound ↔ ∀ schema ∈ items, schema.height ≤ bound := by
  cases items <;> simp [heightOfItems]

theorem heightOfAll_le_iff {schemas : List Schema} {bound : Nat} :
    heightOfAll schemas ≤ bound ↔ ∀ schema ∈ schemas, schema.height ≤ bound := by
  induction schemas with
  | nil => simp [heightOfAll]
  | cons schema schemas ih =>
      rw [heightOfAll, Nat.max_le, ih, List.forall_mem_cons]

namespace Schema

/-- A predicate holds of all schemas directly inside a schema. -/
structure Inside (holds : Schema → Prop) (schema : Schema) : Prop where
  properties : ∀ entry ∈ schema.properties, holds entry.2
  items : ∀ inner ∈ schema.items, holds inner
  anyOf : ∀ inner ∈ schema.anyOf, holds inner

theorem height_eq (schema : Schema) :
    schema.height = 1 + max (heightOfProperties schema.properties)
      (max (heightOfItems schema.items) (heightOfAll schema.anyOf)) := by
  cases schema
  rfl

theorem height_pos (schema : Schema) : 0 < schema.height := by
  rw [height_eq]
  omega

theorem height_le_succ_iff {schema : Schema} {levels : Nat} :
    schema.height ≤ levels + 1 ↔ schema.Inside fun inner => inner.height ≤ levels := by
  rw [height_eq, Nat.add_comm 1, Nat.add_le_add_iff_right, Nat.max_le, Nat.max_le,
    heightOfProperties_le_iff, heightOfItems_le_iff, heightOfAll_le_iff]
  exact ⟨fun ⟨properties, items, anyOf⟩ => ⟨properties, items, anyOf⟩,
    fun inside => ⟨inside.properties, inside.items, inside.anyOf⟩⟩

/-! ## Writing by levels -/

/-- What is written of a schema depends on what is written of the schemas directly inside. -/
theorem fields_table_congr {first second : Codec Schema} {schema : Schema}
    (same : schema.Inside fun inner => first.write inner = second.write inner) :
    (table first).fields schema = (table second).fields schema := by
  have properties : (Codec.entries first).write schema.properties =
      (Codec.entries second).write schema.properties := by
    simp only [Codec.entries, Value.object.injEq]
    exact List.map_congr_left fun entry member => by rw [same.properties entry member]
  have items : first.optional.write schema.items = second.optional.write schema.items := by
    cases given : schema.items with
    | none => rfl
    | some inner => exact same.items inner given
  have anyOf : first.list.write schema.anyOf = second.list.write schema.anyOf := by
    simp only [Codec.list, Value.array.injEq]
    exact List.map_congr_left same.anyOf
  simp only [table, Table.fields, Member.optional, Member.skipped, Member.of, List.filterMap_cons,
    properties, items, anyOf]

/-- Writing does not depend on the number of levels as soon as it suffices. -/
theorem write_codecWithin_congr {levels more : Nat} {schema : Schema}
    (enough : schema.height ≤ levels) (enoughToo : schema.height ≤ more) :
    (codecWithin levels).write schema = (codecWithin more).write schema := by
  induction levels generalizing more schema with
  | zero => exact absurd schema.height_pos (Nat.not_lt.mpr enough)
  | succ levels ih =>
      cases more with
      | zero => exact absurd schema.height_pos (Nat.not_lt.mpr enoughToo)
      | succ more =>
          have lower := height_le_succ_iff.mp enough
          have lowerToo := height_le_succ_iff.mp enoughToo
          refine congrArg Value.object (fields_table_congr ⟨?_, ?_, ?_⟩)
          · intro entry member
            exact ih (lower.properties entry member) (lowerToo.properties entry member)
          · intro inner member
            exact ih (lower.items inner member) (lowerToo.items inner member)
          · intro inner member
            exact ih (lower.anyOf inner member) (lowerToo.anyOf inner member)

theorem write_codecWithin {levels : Nat} {schema : Schema} (enough : schema.height ≤ levels) :
    (codecWithin levels).write schema = codec.write schema :=
  write_codecWithin_congr enough (Nat.le_refl _)

/-! ## Levels of what is written -/

section Shown

variable {inner : Codec Schema} {schema : Schema}

theorem mem_fields_properties (given : schema.properties ≠ []) :
    ("properties", inner.entries.write schema.properties) ∈ (table inner).fields schema := by
  simp [table, Table.fields, Member.skipped, Member.optional, Member.of, given]

theorem mem_fields_items {content : Schema} (given : schema.items = some content) :
    ("items", inner.write content) ∈ (table inner).fields schema := by
  simp [table, Table.fields, Member.skipped, Member.optional, Member.of, given, Codec.optional]

theorem mem_fields_anyOf (given : schema.anyOf ≠ []) :
    ("anyOf", inner.list.write schema.anyOf) ∈ (table inner).fields schema := by
  simp [table, Table.fields, Member.skipped, Member.optional, Member.of, given]

end Shown

/-- What is written of a schema has at least as many levels as the schema. -/
theorem height_le_write {levels : Nat} {schema : Schema} (enough : schema.height ≤ levels) :
    schema.height ≤ ((codecWithin levels).write schema).node.height := by
  induction levels generalizing schema with
  | zero => exact absurd schema.height_pos (Nat.not_lt.mpr enough)
  | succ levels ih =>
      have lower := height_le_succ_iff.mp enough
      refine height_le_succ_iff.mpr ⟨?_, ?_, ?_⟩
      · intro entry member
        have written : (entry.1, (codecWithin levels).write entry.2) ∈
            schema.properties.map fun entry => (entry.1, (codecWithin levels).write entry.2) :=
          List.mem_map_of_mem member
        calc entry.2.height ≤ ((codecWithin levels).write entry.2).node.height :=
              ih (lower.properties entry member)
          _ ≤ ((codecWithin levels).entries.write schema.properties).node.height :=
              Nat.le_succ_of_le (Json.height_le_membersOf written)
          _ ≤ _ := Json.height_le_membersOf (mem_fields_properties (List.ne_nil_of_mem member))
      · intro inner given
        calc inner.height ≤ ((codecWithin levels).write inner).node.height :=
              ih (lower.items inner given)
          _ ≤ _ := Json.height_le_membersOf (mem_fields_items given)
      · intro inner member
        have written : (codecWithin levels).write inner ∈
            schema.anyOf.map (codecWithin levels).write := List.mem_map_of_mem member
        calc inner.height ≤ ((codecWithin levels).write inner).node.height :=
              ih (lower.anyOf inner member)
          _ ≤ ((codecWithin levels).list.write schema.anyOf).node.height :=
              Nat.le_succ_of_le (Json.height_le_itemsOf written)
          _ ≤ _ := Json.height_le_membersOf (mem_fields_anyOf (List.ne_nil_of_mem member))

end Schema

/-! ## Reading what is written -/

mutual

/-- A schema without the defaults that are `null`. -/
def Schema.withoutNulls : Schema → Schema
  | ⟨type, title, description, format, nullable, oneOfTexts, properties, required, items, anyOf,
      minimum, maximum, minItems, maxItems, minLength, maxLength, pattern, default,
      additionalProperties⟩ =>
    ⟨type, title, description, format, nullable, oneOfTexts, propertiesWithoutNulls properties,
      required, itemsWithoutNulls items, allWithoutNulls anyOf, minimum, maximum, minItems,
      maxItems, minLength, maxLength, pattern, Codec.unlessNull default, additionalProperties⟩
termination_by structural schema => schema

/-- Properties without the defaults that are `null`. -/
def propertiesWithoutNulls : List (String × Schema) → List (String × Schema)
  | [] => []
  | (name, schema) :: properties => (name, schema.withoutNulls) :: propertiesWithoutNulls properties
termination_by structural properties => properties

/-- The schema of items without the defaults that are `null`. -/
def itemsWithoutNulls : Option Schema → Option Schema
  | none => none
  | some schema => some schema.withoutNulls
termination_by structural items => items

/-- Schemas without the defaults that are `null`. -/
def allWithoutNulls : List Schema → List Schema
  | [] => []
  | schema :: schemas => schema.withoutNulls :: allWithoutNulls schemas
termination_by structural schemas => schemas

end

theorem propertiesWithoutNulls_eq (properties : List (String × Schema)) :
    propertiesWithoutNulls properties =
      properties.map fun entry => (entry.1, entry.2.withoutNulls) := by
  induction properties with
  | nil => rfl
  | cons entry properties ih => rw [propertiesWithoutNulls, ih, List.map_cons]

theorem itemsWithoutNulls_eq (items : Option Schema) :
    itemsWithoutNulls items = items.map Schema.withoutNulls := by
  cases items <;> rfl

theorem allWithoutNulls_eq (schemas : List Schema) :
    allWithoutNulls schemas = schemas.map Schema.withoutNulls := by
  induction schemas with
  | nil => rfl
  | cons schema schemas ih => rw [allWithoutNulls, ih, List.map_cons]

theorem Schema.withoutNulls_eq (schema : Schema) :
    schema.withoutNulls =
      { schema with
        properties := propertiesWithoutNulls schema.properties
        items := itemsWithoutNulls schema.items
        anyOf := allWithoutNulls schema.anyOf
        default := Codec.unlessNull schema.default } := by
  cases schema
  rfl

namespace Schema

/-- The numbers of a schema are finite, the names of its properties are different, and so are those
in each object of its default; likewise of the schemas inside. -/
inductive Representable : Schema → Prop
  | intro {schema : Schema} (minimum : ∀ value ∈ schema.minimum, value.IsFinite)
      (maximum : ∀ value ∈ schema.maximum, value.IsFinite)
      (default : ∀ value ∈ schema.default, value.Distinct)
      (names : (schema.properties.map Prod.fst).Nodup)
      (properties : ∀ entry ∈ schema.properties, Representable entry.2)
      (items : ∀ inner ∈ schema.items, Representable inner)
      (anyOf : ∀ inner ∈ schema.anyOf, Representable inner) : Representable schema

/-- No default of a schema or of one inside is `null`. -/
inductive HoldsNoNull : Schema → Prop
  | intro {schema : Schema} (default : schema.default ≠ some .null)
      (properties : ∀ entry ∈ schema.properties, HoldsNoNull entry.2)
      (items : ∀ inner ∈ schema.items, HoldsNoNull inner)
      (anyOf : ∀ inner ∈ schema.anyOf, HoldsNoNull inner) : HoldsNoNull schema

theorem withoutNulls_of_holdsNoNull {schema : Schema} (holdsNoNull : schema.HoldsNoNull) :
    schema.withoutNulls = schema := by
  induction holdsNoNull with
  | @intro schema default properties items anyOf properties_ih items_ih anyOf_ih =>
      have sameProperties : propertiesWithoutNulls schema.properties = schema.properties := by
        rw [propertiesWithoutNulls_eq]
        refine (List.map_congr_left fun entry member => ?_).trans (List.map_id _)
        exact congrArg (Prod.mk entry.1) (properties_ih entry member)
      have sameItems : itemsWithoutNulls schema.items = schema.items := by
        rw [itemsWithoutNulls_eq]
        cases given : schema.items with
        | none => rfl
        | some inner => exact congrArg some (items_ih inner given)
      have sameAnyOf : allWithoutNulls schema.anyOf = schema.anyOf := by
        rw [allWithoutNulls_eq]
        exact (List.map_congr_left anyOf_ih).trans (List.map_id _)
      rw [withoutNulls_eq, sameProperties, sameItems, sameAnyOf, Codec.unlessNull_of_ne default]
      cases schema
      rfl

end Schema

theorem JsonType.returns (type : JsonType) : JsonType.codec.Returns type :=
  Json.returns_enumerationOver (by cases type <;> decide)

namespace Schema

theorem nodup_table (inner : Codec Schema) : ((table inner).map Member.name).Nodup := by
  have same : (table inner).map Member.name = (table (codecWithin 0)).map Member.name := rfl
  rw [same]
  decide

theorem refusesNull_codecWithin (levels : Nat) : (codecWithin levels).RefusesNull := by
  cases levels with
  | zero => exact .of_error rfl
  | succ levels => exact Table.refusesNull_codec

theorem refusesNull_codec : codec.RefusesNull :=
  .of_error rfl

/-- Each level is a record whose inner schemas come back without their nulls. -/
theorem rereads_codecWithin {levels : Nat} {schema : Schema} (representable : schema.Representable)
    (enough : schema.height ≤ levels) :
    (codecWithin levels).Rereads schema schema.withoutNulls := by
  induction levels generalizing schema with
  | zero => exact absurd schema.height_pos (Nat.not_lt.mpr enough)
  | succ levels ih =>
      have lower := height_le_succ_iff.mp enough
      obtain ⟨minimum, maximum, default, names, properties, items, anyOf⟩ := representable
      have properties : (codecWithin levels).entries.Rereads schema.properties
          (propertiesWithoutNulls schema.properties) := by
        rw [propertiesWithoutNulls_eq]
        refine Codec.rereads_entries names (List.forall₂_map_right_iff.mpr ?_)
        exact List.forall₂_same.mpr fun entry member =>
          ⟨rfl, ih (properties entry member) (lower.properties entry member)⟩
      have items : (codecWithin levels).optional.Rereads schema.items
          (itemsWithoutNulls schema.items) := by
        cases given : schema.items with
        | none => rfl
        | some inner =>
            exact Codec.rereads_optional (refusesNull_codecWithin levels)
              (.some (ih (items inner given) (lower.items inner given)))
      have anyOf : (codecWithin levels).list.Rereads schema.anyOf (allWithoutNulls schema.anyOf) := by
        rw [allWithoutNulls_eq]
        refine Codec.rereads_list (List.forall₂_map_right_iff.mpr ?_)
        exact List.forall₂_same.mpr fun inner member =>
          ih (anyOf inner member) (lower.anyOf inner member)
      have texts (values : List String) : Codec.text.list.Returns values :=
        Codec.returns_list fun _ _ => Codec.returns_text _
      have word64 (value : Option UInt64) : Codec.word64.optional.Returns value :=
        Codec.returns_optional Codec.refusesNull_word64 fun _ _ => Codec.returns_word64 _
      have flag (value : Option Bool) : Codec.boolean.optional.Returns value :=
        Codec.returns_optional Codec.refusesNull_boolean fun _ _ => Codec.returns_boolean _
      rw [withoutNulls_eq]
      refine Table.Leads.rereads ?_ (nodup_table _)
      refine .optional nofun (Codec.returns_optional (.of_error rfl) fun type _ => type.returns)
        id rfl ?_
      refine .skipped (Codec.returns_text _) String.isEmpty_iff.mp rfl ?_
      refine .skipped (Codec.returns_text _) String.isEmpty_iff.mp rfl ?_
      refine .skipped (Codec.returns_text _) String.isEmpty_iff.mp rfl ?_
      refine .optional nofun (flag _) id rfl ?_
      -- the draft is brought to one constructor now and then, so that comparing drafts stays cheap
      dsimp only
      refine .skipped (texts _) List.isEmpty_iff.mp rfl ?_
      refine .skipped properties (fun left => by rw [List.isEmpty_iff.mp left]; rfl) rfl ?_
      refine .skipped (texts _) List.isEmpty_iff.mp rfl ?_
      refine .optional nofun items (fun absent => by rw [absent]; rfl) rfl ?_
      refine .skipped anyOf (fun left => by rw [List.isEmpty_iff.mp left]; rfl) rfl ?_
      dsimp only
      refine .optional nofun (Codec.returns_optional Codec.refusesNull_double fun value given =>
        Codec.returns_double (minimum value given)) id rfl ?_
      refine .optional nofun (Codec.returns_optional Codec.refusesNull_double fun value given =>
        Codec.returns_double (maximum value given)) id rfl ?_
      refine .optional nofun (word64 _) id rfl (.optional nofun (word64 _) id rfl ?_)
      dsimp only
      refine .optional nofun (word64 _) id rfl (.optional nofun (word64 _) id rfl ?_)
      refine .skipped (Codec.returns_text _) String.isEmpty_iff.mp rfl ?_
      refine .freeForm nofun default rfl (.optional nofun (flag _) id rfl ?_)
      dsimp only
      exact .done

/-- **A schema is read as it was written**, without the defaults that are `null`. -/
theorem rereads {schema : Schema} (representable : schema.Representable) :
    codec.Rereads schema schema.withoutNulls := by
  have enough : schema.height ≤ (codec.write schema).node.height :=
    height_le_write (Nat.le_refl _)
  have read := rereads_codecWithin representable enough
  rw [Codec.Rereads, write_codecWithin enough] at read
  exact read

end Schema
end ResponsesBridge.Conversation
