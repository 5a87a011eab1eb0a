import Mathlib.Data.List.Forall2
import ResponsesBridge.Failure
import ResponsesBridge.Json.Choice

/-!
# Members that a reader does not know

A node grows when members are added to the objects in it that hold records. Which objects these
are, and which names their records know, is told by a `Shape`; everything else in the node stays.
A reader tolerates a growth if it makes of the grown node what it made of the node before
(`Codec.Tolerates`).

A reader of a record passes over a member that it does not know, so it asks of the grown node only
that it can be passed over (`Node.skip`). A reader of a tagged object has to keep the members until
it has met the tag, so it asks that the grown node has a value (`Node.value`). For both the argument
goes along the members of the grown object: a member that was there before is read as before, and a
member that was not changes nothing.
-/

set_option autoImplicit false

namespace ResponsesBridge.Json

variable {α β : Type}

/-! ## Growing nodes -/

/-- How nodes may change. -/
abbrev Growth := Node → Node → Prop

/-- Nothing changes. -/
def Growth.none : Growth := Eq

/-- What a reader of records knows: the names of the members, and for members that hold records
how these grow. -/
structure Shape where
  names : List String
  inside : List (String × Growth) := []

/-- How the value under a name grows. -/
def Shape.growth (shape : Shape) (name : String) : Growth :=
  (lookup name shape.inside).getD .none

/-- The members of a record, and the same members with others of unknown names anywhere between
them. -/
inductive Shape.GrownMembers (shape : Shape) : Members → Members → Prop
  | finished : GrownMembers shape .finished .finished
  | kept {name : String} {value grownValue : Node} {tail grownTail : Members}
      (grown : shape.growth name value grownValue) (later : GrownMembers shape tail grownTail) :
      GrownMembers shape (.next (.ok name) value tail) (.next (.ok name) grownValue grownTail)
  | added {name : String} {value : Node} {members grownTail : Members}
      (new : name ∉ shape.names) (later : GrownMembers shape members grownTail) :
      GrownMembers shape members (.next (.ok name) value grownTail)

/-- Items of which each grows in the same way. -/
inductive GrownItems (growth : Growth) : Items → Items → Prop
  | finished : GrownItems growth .finished .finished
  | next {head grownHead : Node} {tail grownTail : Items} (grown : growth head grownHead)
      (later : GrownItems growth tail grownTail) :
      GrownItems growth (.next head tail) (.next grownHead grownTail)

/-- Items that grow each in its own way, as long as there are ways; none is added. -/
inductive GrownRow : List Growth → Items → Items → Prop
  | same (growths : List Growth) (items : Items) : GrownRow growths items items
  | next {growth : Growth} {growths : List Growth} {head grownHead : Node}
      {tail grownTail : Items} (grown : growth head grownHead)
      (later : GrownRow growths tail grownTail) :
      GrownRow (growth :: growths) (.next head tail) (.next grownHead grownTail)

/-- The members of a record that is written as an array, each under the name of its place. -/
def Shape.GrownRow (shape : Shape) : Items → Items → Prop :=
  Json.GrownRow (shape.names.map shape.growth)

/-- An array whose items grow. -/
inductive Growth.list (growth : Growth) : Growth
  | same (node : Node) : list growth node node
  | array {items grownItems : Items} (grown : GrownItems growth items grownItems) :
      list growth (.array items) (.array grownItems)

/-- A record that grows, in either form. -/
inductive Growth.record (shape : Shape) : Growth
  | same (node : Node) : record shape node node
  | object {members grownMembers : Members} (grown : shape.GrownMembers members grownMembers) :
      record shape (.object members) (.object grownMembers)
  | array {items grownItems : Items} (grown : shape.GrownRow items grownItems) :
      record shape (.array items) (.array grownItems)

/-- The values under a name. -/
def Members.under (name : String) : Members → List Node
  | .next (.ok other) value tail =>
    if other = name then value :: tail.under name else tail.under name
  | .next (.error _) _ tail => tail.under name
  | _ => []
termination_by structural members => members

/-- A shape beside the tag. -/
def Shape.tagged (shape : Shape) : Shape where
  names := tagName :: shape.names
  inside := (tagName, .none) :: shape.inside

/-- A tagged value that grows, in either form; its tag tells the shape. -/
inductive Growth.tagged (shapeOf : String → Shape) : Growth
  | same (node : Node) : tagged shapeOf node node
  | object {tag : String} {members grownMembers : Members}
      (tells : members.under tagName = [.text (.ok tag)])
      (grown : (shapeOf tag).tagged.GrownMembers members grownMembers) :
      tagged shapeOf (.object members) (.object grownMembers)
  | array {tag : String} {items grownItems : Items}
      (grown : (shapeOf tag).GrownRow items grownItems) :
      tagged shapeOf (.array (.next (.text (.ok tag)) items))
        (.array (.next (.text (.ok tag)) grownItems))

/-! ## Passing over -/

theorem Members.skip_next_iff {name : Except Fault String} {value : Node} {tail : Members} :
    (Members.next name value tail).skip = .ok () ↔ value.skip = .ok () ∧ tail.skip = .ok () := by
  rw [Members.skip, bind_eq_ok_iff]
  constructor
  · rintro ⟨_, here, later⟩
    exact ⟨here, later⟩
  · rintro ⟨here, later⟩
    exact ⟨(), here, later⟩

theorem Items.skip_next_iff {head : Node} {tail : Items} :
    (Items.next head tail).skip = .ok () ↔ head.skip = .ok () ∧ tail.skip = .ok () := by
  rw [Items.skip, bind_eq_ok_iff]
  constructor
  · rintro ⟨_, here, later⟩
    exact ⟨here, later⟩
  · rintro ⟨here, later⟩
    exact ⟨(), here, later⟩

theorem Members.fields_next_iff {name : Except Fault String} {value : Node} {tail : Members}
    {fields : Fields} :
    (Members.next name value tail).fields = .ok fields ↔
      ∃ text content later, name = .ok text ∧ value.value = .ok content ∧
        tail.fields = .ok later ∧ (text, content) :: later = fields := by
  simp only [Members.fields, bind_eq_ok_iff, pure, Except.pure, Except.ok.injEq]
  grind

theorem Items.values_next_iff {head : Node} {tail : Items} {values : List Value} :
    (Items.next head tail).values = .ok values ↔
      ∃ value later,
        head.value = .ok value ∧ tail.values = .ok later ∧ value :: later = values := by
  simp only [Items.values, bind_eq_ok_iff, pure, Except.pure, Except.ok.injEq]
  grind

mutual

/-- What has a value can be passed over. -/
theorem Node.skip_of_value : ∀ {node : Node} {value : Value},
    node.value = .ok value → node.skip = .ok ()
  | .null, _, _ => rfl
  | .boolean _, _, _ => rfl
  | .number _, _, _ => rfl
  | .text _, _, _ => rfl
  | .array items, _, read => by
      obtain ⟨values, isValues, -⟩ := bind_eq_ok_iff.mp read
      exact Items.skip_of_values isValues
  | .object members, _, read => by
      obtain ⟨fields, isFields, -⟩ := bind_eq_ok_iff.mp read
      exact Members.skip_of_fields isFields

theorem Items.skip_of_values : ∀ {items : Items} {values : List Value},
    items.values = .ok values → items.skip = .ok ()
  | .finished, _, _ => rfl
  | .next _ _, _, read => by
      obtain ⟨_, _, here, later, -⟩ := Items.values_next_iff.mp read
      exact Items.skip_next_iff.mpr ⟨Node.skip_of_value here, Items.skip_of_values later⟩

theorem Members.skip_of_fields : ∀ {members : Members} {fields : Fields},
    members.fields = .ok fields → members.skip = .ok ()
  | .finished, _, _ => rfl
  | .next _ _ _, _, read => by
      obtain ⟨_, _, _, -, here, later, -⟩ := Members.fields_next_iff.mp read
      exact Members.skip_next_iff.mpr ⟨Node.skip_of_value here, Members.skip_of_fields later⟩

end

/-! ## Tolerant readers -/

/-- A reader reads what it has read when the node grows into one that can be passed over. -/
def Codec.Tolerates (codec : Codec α) (growth : Growth) : Prop :=
  ∀ ⦃node grown : Node⦄ ⦃value : α⦄, growth node grown → grown.skip = .ok () →
    codec.read node = .ok value → codec.read grown = .ok value

namespace Codec

variable {codec : Codec α} {growth : Growth}

theorem Tolerates.readItems (tolerates : codec.Tolerates growth) {items grown : Items}
    (grows : GrownItems growth items grown) (whole : grown.skip = .ok ()) {values : List α}
    (read : Codec.readItems codec.read items = .ok values) :
    Codec.readItems codec.read grown = .ok values := by
  induction grows generalizing values with
  | finished => exact read
  | next here _ ih =>
      obtain ⟨wholeHere, wholeLater⟩ := Items.skip_next_iff.mp whole
      simp only [Codec.readItems, bind_eq_ok_iff] at read ⊢
      obtain ⟨value, readHere, later, readLater, same⟩ := read
      exact ⟨value, tolerates here wholeHere readHere, later, ih wholeLater readLater, same⟩

theorem Tolerates.list (tolerates : codec.Tolerates growth) :
    codec.list.Tolerates (.list growth) := by
  intro node grown values grows whole read
  cases grows with
  | same => exact read
  | array grows => exact tolerates.readItems grows whole read

/-- A record that may be absent grows where it is there. -/
theorem Tolerates.optional {shape : Shape} (tolerates : codec.Tolerates (.record shape)) :
    codec.optional.Tolerates (.record shape) := by
  intro node grown value grows whole read
  cases grows with
  | same => exact read
  | object grows =>
      obtain ⟨content, readContent, same⟩ := bind_eq_ok_iff.mp read
      exact bind_eq_ok_iff.mpr ⟨content, tolerates (.object grows) whole readContent, same⟩
  | array grows =>
      obtain ⟨content, readContent, same⟩ := bind_eq_ok_iff.mp read
      exact bind_eq_ok_iff.mpr ⟨content, tolerates (.array grows) whole readContent, same⟩

end Codec

/-- A row stores what it has stored when the node grows into one that can be passed over. -/
def Member.Tolerates (row : Member α) (growth : Growth) : Prop :=
  ∀ ⦃node grown : Node⦄ ⦃draft next : α⦄, growth node grown → grown.skip = .ok () →
    row.store node draft = .ok next → row.store grown draft = .ok next

theorem Member.tolerates_none (row : Member α) : row.Tolerates .none := by
  rintro node _ draft next rfl - stores
  exact stores

theorem Codec.Tolerates.of {codec : Codec β} {growth : Growth} (tolerates : codec.Tolerates growth)
    (name : String) (presence : Presence) (get : α → β) (set : β → α → α) (omitted : β → Bool) :
    (Member.of name presence codec get set omitted).Tolerates growth := by
  intro node grown draft next grows whole stores
  obtain ⟨value, read, same⟩ := bind_eq_ok_iff.mp stores
  exact bind_eq_ok_iff.mpr ⟨value, tolerates grows whole read, same⟩

/-! ## Tolerant tables -/

namespace Table

/-- The shape of the records of a table. -/
def shape (table : Table α) (inside : List (String × Growth)) : Shape where
  names := table.map Member.name
  inside := inside

/-- Each row tolerates that the value under its name grows. -/
def Tolerates (table : Table α) (inside : List (String × Growth)) : Prop :=
  ∀ row ∈ table, row.Tolerates ((table.shape inside).growth row.name)

variable {table : Table α} {inside : List (String × Growth)} {blank : α}

/-- If nothing grows inside of a record, any table will do. -/
theorem tolerates_nil (table : Table α) : table.Tolerates [] :=
  fun row _ => row.tolerates_none

theorem find?_eq_none_iff {name : String} :
    table.find? name = none ↔ name ∉ table.map Member.name := by
  simp [Table.find?]

/-- A draft that is filled from the members of an object is filled in the same way from the
members of the grown object. -/
theorem Tolerates.readMembers (tolerates : table.Tolerates inside) {members grown : Members}
    (grows : (table.shape inside).GrownMembers members grown) (whole : grown.skip = .ok ())
    {met : List String} {draft : α} {result : List String × α}
    (read : table.readMembers met members draft = .ok result) :
    table.readMembers met grown draft = .ok result := by
  induction grows generalizing met draft with
  | finished => exact read
  | @kept name value grownValue tail grownTail here _ ih =>
      obtain ⟨wholeHere, wholeLater⟩ := Members.skip_next_iff.mp whole
      simp only [Table.readMembers, bind_eq_ok_iff, Except.ok.injEq, exists_eq_left'] at read ⊢
      cases found : table.find? name with
      | none =>
          simp only [found, bind_eq_ok_iff] at read ⊢
          obtain ⟨-, -, readLater⟩ := read
          exact ⟨(), wholeHere, ih wholeLater readLater⟩
      | some row =>
          have isRow : row ∈ table := List.mem_of_find?_eq_some found
          have named : row.name = name := by simpa using List.find?_some found
          simp only [found] at read ⊢
          split at read
          case isTrue => cases read
          case isFalse unmet =>
            rw [if_neg unmet]
            obtain ⟨next, stores, readLater⟩ := bind_eq_ok_iff.mp read
            have storesGrown := tolerates row isRow (named ▸ here) wholeHere stores
            exact bind_eq_ok_iff.mpr ⟨next, storesGrown, ih wholeLater readLater⟩
  | @added name value members grownTail new _ ih =>
      obtain ⟨wholeHere, wholeLater⟩ := Members.skip_next_iff.mp whole
      simp only [Table.readMembers, bind_eq_ok_iff, Except.ok.injEq, exists_eq_left',
        find?_eq_none_iff.mpr new]
      exact ⟨(), wholeHere, ih wholeLater read⟩

theorem Tolerates.readObject (tolerates : table.Tolerates inside) {members grown : Members}
    (grows : (table.shape inside).GrownMembers members grown) (whole : grown.skip = .ok ())
    {value : α} (read : table.readObject blank members = .ok value) :
    table.readObject blank grown = .ok value := by
  obtain ⟨result, readMembers, complete⟩ := bind_eq_ok_iff.mp read
  exact bind_eq_ok_iff.mpr ⟨result, tolerates.readMembers grows whole readMembers, complete⟩

/-- A table without rows passes over everything that has a value. -/
theorem readMembers_nil {met : List String} {draft : α} : ∀ {members : Members} {fields : Fields},
    members.fields = .ok fields → Table.readMembers [] met members draft = .ok (met, draft)
  | .finished, _, _ => rfl
  | .next _ _ _, _, whole => by
      obtain ⟨name, content, later, rfl, isValue, areFields, -⟩ := Members.fields_next_iff.mp whole
      simp only [Table.readMembers, Table.find?, List.find?_nil, bind, Except.bind,
        Node.skip_of_value isValue, readMembers_nil areFields]

/-- A draft is filled in the same way from items that grow as the rows tolerate it. -/
theorem readItems_grown {growthOf : String → Growth} {items grown : Items} {rows : Table α}
    (tolerates : ∀ row ∈ rows, row.Tolerates (growthOf row.name))
    (grows : GrownRow (rows.map fun row => growthOf row.name) items grown)
    (whole : grown.skip = .ok ()) {draft value : α}
    (read : rows.readItems items draft = .ok value) : rows.readItems grown draft = .ok value := by
  induction rows generalizing items grown draft with
  | nil =>
      cases grows
      exact read
  | cons row rows ih =>
      obtain ⟨toleratesHere, toleratesLater⟩ := List.forall_mem_cons.mp tolerates
      rw [List.map_cons] at grows
      cases grows with
      | same => exact read
      | next here later =>
          obtain ⟨wholeHere, wholeLater⟩ := Items.skip_next_iff.mp whole
          obtain ⟨next, stores, readLater⟩ := bind_eq_ok_iff.mp read
          exact bind_eq_ok_iff.mpr ⟨next, toleratesHere here wholeHere stores,
            ih toleratesLater later wholeLater readLater⟩

theorem Tolerates.readItems (tolerates : table.Tolerates inside) {items grown : Items}
    (grows : (table.shape inside).GrownRow items grown) (whole : grown.skip = .ok ()) {value : α}
    (read : table.readItems items blank = .ok value) :
    table.readItems grown blank = .ok value := by
  rw [Shape.GrownRow, shape, List.map_map] at grows
  exact readItems_grown tolerates grows whole read

/-- **Members that a table does not know change nothing** about the record that is read. -/
theorem Tolerates.codec (tolerates : table.Tolerates inside) :
    (table.codec blank).Tolerates (.record (table.shape inside)) := by
  intro node grown value grows whole read
  cases grows with
  | same => exact read
  | object grows => exact tolerates.readObject grows whole read
  | array grows => exact tolerates.readItems grows whole read

end Table

/-! ## Tolerant alternatives -/

/-- An alternative reads what it has read when members or items grow into some that can be passed
over. -/
structure Alternative.Tolerates (alternative : Alternative α) (shape : Shape) : Prop where
  ofMembers : ∀ {members grown : Members} {value : α}, shape.GrownMembers members grown →
    grown.skip = .ok () → alternative.ofMembers members = .ok value →
      alternative.ofMembers grown = .ok value
  ofItems : ∀ {items grown : Items} {value : α}, shape.GrownRow items grown →
    grown.skip = .ok () → alternative.ofItems items = .ok value →
      alternative.ofItems grown = .ok value

theorem Table.Tolerates.alternative {table : Table β} {inside : List (String × Growth)}
    (tolerates : table.Tolerates inside) (tag : String) (blank : β) (make : β → α) :
    (Alternative.ofTable tag table blank make).Tolerates (table.shape inside) where
  ofMembers grows whole read := by
    obtain ⟨record, readRecord, same⟩ := bind_eq_ok_iff.mp read
    exact bind_eq_ok_iff.mpr ⟨record, tolerates.readObject grows whole readRecord, same⟩
  ofItems grows whole read := by
    obtain ⟨record, readRecord, same⟩ := bind_eq_ok_iff.mp read
    exact bind_eq_ok_iff.mpr ⟨record, tolerates.readItems grows whole readRecord, same⟩

/-- How the records of alternatives are shaped, by their tags: as each alternative tolerates it. -/
abbrev ShapesFor (alternatives : List (Alternative α)) (shapes : List (String × Shape)) : Prop :=
  List.Forall₂ (fun alternative entry => alternative.tag = entry.1 ∧ alternative.Tolerates entry.2)
    alternatives shapes

/-- The alternative with a tag tolerates the shape under that tag, and without an alternative there
is no shape. -/
theorem ShapesFor.lookup {alternatives : List (Alternative α)} {shapes : List (String × Shape)}
    (shaped : ShapesFor alternatives shapes) (tag : String) :
    match alternatives.find? (fun alternative => alternative.tag == tag) with
    | some alternative =>
      ∃ shape, Json.lookup tag shapes = some shape ∧ alternative.Tolerates shape
    | none => Json.lookup tag shapes = none := by
  induction shaped with
  | nil => rfl
  | @cons alternative entry alternatives shapes here _ ih =>
      obtain ⟨sameTag, tolerates⟩ := here
      by_cases same : alternative.tag = tag
      · rw [List.find?_cons_of_pos (by simpa using same)]
        exact ⟨entry.2, by simp [Json.lookup, ← sameTag, same], tolerates⟩
      · have later : Json.lookup tag (entry :: shapes) = Json.lookup tag shapes := by
          simp [Json.lookup, ← sameTag, same]
        rw [List.find?_cons_of_neg (by simpa using same), later]
        exact ih

/-! ### The tag among members -/

section Tag

variable {known : Node → Except Fault β} {found : Option β} {result : β}

/-- A member that is not the tag must have a value. -/
theorem findTag_next_iff {name : String} (other : name ≠ tagName) {value : Node} {tail : Members} :
    findTag known found (.next (.ok name) value tail) = .ok result ↔
      (∃ content, value.value = .ok content) ∧ findTag known found tail = .ok result := by
  cases found <;>
    simp [findTag, bind, Except.bind, other] <;>
    cases value.value <;> simp

/-- There is one tag. -/
theorem findTag_next_tag_iff {value : Node} {tail : Members} :
    findTag known found (.next (.ok tagName) value tail) = .ok result ↔
      found = none ∧ ∃ tag, known value = .ok tag ∧ findTag known (some tag) tail = .ok result := by
  cases found with
  | some tag => simp [findTag, bind, Except.bind]
  | none => simp only [findTag, if_true, bind_eq_ok_iff, Except.ok.injEq, exists_eq_left',
      true_and]

/-- A tag that is found is the only value under its name, or was found before. -/
theorem under_of_findTag : ∀ {members : Members} {found : Option β} {result : β},
    findTag known found members = .ok result →
      (found = none ∧ ∃ node, members.under tagName = [node] ∧ known node = .ok result) ∨
        (found = some result ∧ members.under tagName = [])
  | .finished, some _, _, finds => .inr ⟨congrArg some (Except.ok.inj finds), rfl⟩
  | .finished, none, _, finds => nomatch finds
  | .next (.ok name) value tail, found, result, finds => by
      by_cases isTag : name = tagName
      · subst isTag
        obtain ⟨rfl, tag, knows, later⟩ := findTag_next_tag_iff.mp finds
        obtain ⟨some, -⟩ | ⟨same, under⟩ := under_of_findTag later
        · cases some
        · obtain rfl := Option.some.inj same
          exact .inl ⟨rfl, value, by rw [Members.under, if_pos rfl, under], knows⟩
      · rw [Members.under, if_neg isTag]
        exact under_of_findTag ((findTag_next_iff isTag).mp finds).2
  | .next (.error _) _ _, found, _, finds => by cases found <;> cases finds
  | .noName _, found, _, finds => by cases found <;> cases finds
  | .broken _, found, _, finds => by cases found <;> cases finds
  | .tooDeep _, found, _, finds => by cases found <;> cases finds

/-- If all members have values, the only value under the name of the tag is found. -/
theorem findTag_of_under : ∀ {members : Members} {fields : Fields} {found : Option β} {result : β},
    members.fields = .ok fields →
      (found = none ∧ ∃ node, members.under tagName = [node] ∧ known node = .ok result) ∨
        (found = some result ∧ members.under tagName = []) →
      findTag known found members = .ok result
  | .finished, _, _, _, _, .inl ⟨_, _, under, _⟩ => nomatch under
  | .finished, _, _, _, _, .inr ⟨same, _⟩ => by rw [same, findTag]
  | .next name value tail, fields, found, result, whole, told => by
      obtain ⟨name, content, later, rfl, isValue, areFields, -⟩ := Members.fields_next_iff.mp whole
      by_cases isTag : name = tagName
      · subst isTag
        rw [Members.under, if_pos rfl] at told
        obtain ⟨rfl, node, under, knows⟩ | ⟨-, under⟩ := told
        · obtain ⟨rfl, noOther⟩ := List.cons.inj under
          exact findTag_next_tag_iff.mpr
            ⟨rfl, result, knows, findTag_of_under areFields (.inr ⟨rfl, noOther⟩)⟩
        · cases under
      · rw [Members.under, if_neg isTag] at told
        exact (findTag_next_iff isTag).mpr ⟨⟨content, isValue⟩, findTag_of_under areFields told⟩

end Tag

/-- The values under a name that does not grow stay when the members around them grow. -/
theorem Shape.GrownMembers.under {shape : Shape} {name : String} (knows : name ∈ shape.names)
    (stays : shape.growth name = .none) {members grown : Members}
    (grows : shape.GrownMembers members grown) : grown.under name = members.under name := by
  induction grows with
  | finished => rfl
  | @kept other value grownValue tail grownTail here _ ih =>
      by_cases same : other = name
      · subst same
        rw [stays] at here
        simp only [Members.under, if_true, ih, show value = grownValue from here]
      · simp only [Members.under, if_neg same, ih]
  | @added other value members grownTail new _ ih =>
      have different : other ≠ name := fun same => new (same ▸ knows)
      rw [Members.under, if_neg different, ih]

/-- Beside the tag, the members of a tagged object grow as those of its record. -/
theorem Shape.GrownMembers.without {shape : Shape} {members grown : Members}
    (grows : shape.tagged.GrownMembers members grown) :
    shape.GrownMembers (members.without tagName) (grown.without tagName) := by
  induction grows with
  | finished => exact .finished
  | @kept name value grownValue tail grownTail here _ ih =>
      by_cases isTag : name = tagName
      · simpa only [Members.without, if_pos isTag] using ih
      · simp only [Members.without, if_neg isTag]
        have same : shape.tagged.growth name = shape.growth name := by
          simp [Shape.growth, Shape.tagged, lookup, Ne.symm isTag]
        exact .kept (same ▸ here) ih
  | @added name value members grownTail new _ ih =>
      simp only [Shape.tagged, List.mem_cons, not_or] at new
      simp only [Members.without, if_neg new.1]
      exact .added new.2 ih

/-- Without the members of a name, the others still have values. -/
theorem Members.exists_fields_without (name : String) : ∀ {members : Members} {fields : Fields},
    members.fields = .ok fields → ∃ others, (members.without name).fields = .ok others
  | .finished, _, _ => ⟨[], rfl⟩
  | .next _ _ _, _, whole => by
      obtain ⟨other, content, later, rfl, isValue, areFields, -⟩ :=
        Members.fields_next_iff.mp whole
      obtain ⟨others, areOthers⟩ := exists_fields_without name areFields
      by_cases same : other = name
      · exact ⟨others, by rw [Members.without, if_pos same, areOthers]⟩
      · rw [Members.without, if_neg same]
        exact ⟨_, Members.fields_next_iff.mpr
          ⟨other, content, others, rfl, isValue, areOthers, rfl⟩⟩

/-! ### Tagged values -/

section Tagged

variable {alternatives : List (Alternative α)} {other : Option (Alternative α)}
  {shapeOf : String → Shape} {result : α}

theorem mismatchOnly_eq_ok_iff {outcome : Except Fault α} :
    mismatchOnly outcome = .ok result ↔ outcome = .ok result := by
  cases outcome <;> simp [mismatchOnly]

/-- **A tagged value is read as before** when it grows into one that has a value, if the
alternative of each tag tolerates the growth that the tag allows. -/
theorem readTagged_of_grown
    (tolerates : ∀ {tag : String} {alternative : Alternative α},
      alternativeFor alternatives other tag = .ok alternative → alternative.Tolerates (shapeOf tag))
    {node grown : Node} (grows : Growth.tagged shapeOf node grown) {whole : Value}
    (isValue : grown.value = .ok whole)
    (read : readTagged alternatives other node = .ok result) :
    readTagged alternatives other grown = .ok result := by
  cases grows with
  | same => exact read
  | @object tag members grownMembers tells grows =>
      obtain ⟨fields, areFields, -⟩ := bind_eq_ok_iff.mp isValue
      obtain ⟨alternative, finds, readMembers⟩ := bind_eq_ok_iff.mp read
      obtain ⟨-, node, under, chosen⟩ | ⟨absurd, -⟩ := under_of_findTag finds
      · obtain rfl : Node.text (.ok tag) = node := by simpa [tells] using under
        have stays : grownMembers.under tagName = [.text (.ok tag)] := by
          rw [grows.under (List.mem_cons_self ..) rfl, tells]
        obtain ⟨others, areOthers⟩ := Members.exists_fields_without tagName areFields
        refine bind_eq_ok_iff.mpr
          ⟨alternative, findTag_of_under areFields (.inl ⟨rfl, _, stays, chosen⟩), ?_⟩
        rw [mismatchOnly_eq_ok_iff] at readMembers ⊢
        exact (tolerates chosen).ofMembers grows.without (Members.skip_of_fields areOthers)
          readMembers
      · cases absurd
  | @array tag items grownItems grows =>
      obtain ⟨values, areValues, -⟩ := bind_eq_ok_iff.mp isValue
      obtain ⟨_, later, -, areLater, -⟩ := Items.values_next_iff.mp areValues
      obtain ⟨alternative, chosen, behind⟩ := bind_eq_ok_iff.mp read
      obtain ⟨-, -, readItems⟩ := bind_eq_ok_iff.mp behind
      refine bind_eq_ok_iff.mpr
        ⟨alternative, chosen, bind_eq_ok_iff.mpr ⟨later, areLater, ?_⟩⟩
      rw [mismatchOnly_eq_ok_iff] at readItems ⊢
      exact (tolerates chosen).ofItems grows (Items.skip_of_values areLater) readItems

end Tagged

end ResponsesBridge.Json
