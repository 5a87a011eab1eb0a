import ResponsesBridge.Json.Choice
import ResponsesBridge.Proofs.Json.Values
import Mathlib.Data.List.Forall2

/-!
# Values that come back

A codec returns a value when what it writes of the value is read as that value
(`Codec.Returns`). Every way to build a codec keeps this property: absence, lists, records by their
tables, names, tags. For a record the argument goes through the table row by row
(`Table.Fills`): each row stores into the draft what it has shown of the record, and a row that
shows nothing leaves the draft as it must be. Where the rows of a table end, the draft is the
record.

Not every value comes back as it was: a free-form member that is present as `null` is read as an
absent one (`unlessNull`). The lemmas are therefore about values that are read as some value
(`Codec.Rereads`, `Table.Leads`), of which coming back is the case of the same value.
-/

set_option autoImplicit false

namespace ResponsesBridge.Json

variable {α β : Type}

namespace Codec

/-- A value is read as `result` behind being written. -/
def Rereads (codec : Codec α) (value result : α) : Prop :=
  codec.read (codec.write value).node = .ok result

/-- A value is read as itself behind being written. -/
def Returns (codec : Codec α) (value : α) : Prop :=
  codec.read (codec.write value).node = .ok value

/-- The reader does not take `null` for a value. -/
def RefusesNull (codec : Codec α) : Prop :=
  ∀ value, codec.read .null ≠ .ok value

theorem RefusesNull.of_error {codec : Codec α} {fault : Fault}
    (refused : codec.read .null = .error fault) : codec.RefusesNull := by
  intro value read
  rw [refused] at read
  cases read

theorem refusesNull_text : text.RefusesNull := .of_error rfl

theorem refusesNull_boolean : boolean.RefusesNull := .of_error rfl

theorem refusesNull_word32 : word32.RefusesNull := .of_error rfl

theorem refusesNull_word64 : word64.RefusesNull := .of_error rfl

theorem refusesNull_double : double.RefusesNull := .of_error rfl

theorem returns_text (value : String) : text.Returns value := rfl

theorem returns_boolean (value : Bool) : boolean.Returns value := rfl

theorem returns_word32 (value : UInt32) : word32.Returns value := by
  have inside : 0 ≤ (value.toNat : Int) ∧ (value.toNat : Int) < UInt32.size :=
    ⟨Int.natCast_nonneg _, Int.ofNat_lt.mpr value.toNat_lt_size⟩
  simp only [Returns, word32, Value.node, if_pos inside, Int.toNat_natCast, UInt32.ofNat_toNat]

theorem returns_word64 (value : UInt64) : word64.Returns value := by
  have inside : 0 ≤ (value.toNat : Int) ∧ (value.toNat : Int) < UInt64.size :=
    ⟨Int.natCast_nonneg _, Int.ofNat_lt.mpr value.toNat_lt_size⟩
  simp only [Returns, word64, Value.node, if_pos inside, Int.toNat_natCast, UInt64.ofNat_toNat]

theorem returns_double {value : Double} (finite : value.IsFinite) : double.Returns value := by
  simp only [Returns, double, if_pos finite, Value.node]

/-- Free-form members come back if their names are different. -/
theorem returns_fields {members : Fields} (distinct : (Value.object members).Distinct) :
    fields.Returns members := by
  obtain ⟨read, settled⟩ := settled_fields_membersOf distinct
  simp only [Returns, fields, Value.node, read, bind, Except.bind, pure, Except.pure, settled]

theorem rereads_optional {codec : Codec α} {value result : Option α} (refuses : codec.RefusesNull)
    (rereads : Option.Rel codec.Rereads value result) : codec.optional.Rereads value result := by
  cases rereads with
  | none => rfl
  | @some content result rereads =>
      have read : codec.read (codec.write content).node = .ok result := rereads
      simp only [Rereads, optional]
      cases written : codec.write content with
      | null =>
          rw [written] at read
          exact absurd read (refuses result)
      | _ =>
          rw [written] at read
          simp only [Value.node] at read ⊢
          simp only [read, bind, Except.bind, pure, Except.pure]

theorem returns_optional {codec : Codec α} {value : Option α} (refuses : codec.RefusesNull)
    (returns : ∀ content ∈ value, codec.Returns content) : codec.optional.Returns value := by
  cases value with
  | none => rfl
  | some content => exact rereads_optional refuses (.some (returns content rfl))

/-- A free-form value that is present as `null` is not told apart from an absent one. -/
def unlessNull : Option Value → Option Value
  | some .null => none
  | value => value

theorem unlessNull_of_ne {value : Option Value} (present : value ≠ some .null) :
    unlessNull value = value := by
  unfold unlessNull
  split
  · exact absurd rfl present
  · rfl

theorem returns_any {value : Value} (distinct : value.Distinct) : any.Returns value := by
  obtain ⟨result, read, same⟩ := exists_value_node value
  exact same distinct ▸ read

theorem rereads_anyOptional {value : Option Value}
    (distinct : ∀ content ∈ value, content.Distinct) :
    any.optional.Rereads value (unlessNull value) := by
  cases value with
  | none => rfl
  | some content =>
      have read : any.read content.node = .ok content := returns_any (distinct content rfl)
      simp only [Rereads, optional]
      cases content with
      | null => rfl
      | _ =>
          simp only [Value.node, any, id] at read ⊢
          simp only [read, bind, Except.bind, pure, Except.pure, unlessNull]

theorem rereads_list {codec : Codec α} {values results : List α}
    (rereads : List.Forall₂ codec.Rereads values results) :
    codec.list.Rereads values results := by
  simp only [Rereads, list, Value.node]
  induction rereads with
  | nil => rfl
  | @cons value result values results rereads later ih =>
      have first : codec.read (codec.write value).node = .ok result := rereads
      simp only [List.map_cons, itemsOf, readItems, first, ih, bind, Except.bind, pure,
        Except.pure]

theorem returns_list {codec : Codec α} {values : List α}
    (returns : ∀ value ∈ values, codec.Returns value) : codec.list.Returns values :=
  rereads_list (List.forall₂_same.mpr returns)

/-- Entries under different names keep their order. -/
theorem rereads_entries {codec : Codec α} {values results : List (String × α)}
    (different : (values.map Prod.fst).Nodup)
    (rereads : List.Forall₂ (fun value result =>
      value.1 = result.1 ∧ codec.Rereads value.2 result.2) values results) :
    codec.entries.Rereads values results := by
  have read : readEntries codec.read
      (membersOf (values.map fun entry => (entry.1, codec.write entry.2))) = .ok results := by
    clear different
    induction rereads with
    | nil => rfl
    | @cons value result values results rereads later ih =>
        have first : codec.read (codec.write value.2).node = .ok result.2 := rereads.2
        simp only [List.map_cons, membersOf, readEntries, first, ih, bind, Except.bind, pure,
          Except.pure, rereads.1]
  have names : values.map Prod.fst = results.map Prod.fst := by
    clear different read
    induction rereads with
    | nil => rfl
    | cons rereads later ih => rw [List.map_cons, List.map_cons, rereads.1, ih]
  simp only [Rereads, entries, Value.node, read, bind, Except.bind, pure, Except.pure,
    settle_of_nodup (names ▸ different)]

/-- A dictionary comes back if its values do. -/
theorem returns_dictionary {codec : Codec α} {values : Dictionary α}
    (returns : ∀ entry ∈ values.entries, codec.Returns entry.2) :
    codec.dictionary.Returns values := by
  have read : readEntries codec.read
      (membersOf (values.entries.map fun entry => (entry.1, codec.write entry.2))) =
        .ok values.entries := by
    generalize values.entries = entries at returns
    induction entries with
    | nil => rfl
    | cons entry entries ih =>
        have first : codec.read (codec.write entry.2).node = .ok entry.2 :=
          returns entry (List.mem_cons_self ..)
        have later := ih fun entry member => returns entry (List.mem_cons_of_mem _ member)
        simp only [List.map_cons, membersOf, readEntries, first, later, bind, Except.bind, pure,
          Except.pure]
  simp only [Returns, dictionary, Value.node, read, bind, Except.bind, pure, Except.pure,
    Dictionary.ofList_entries]

end Codec

/-! ## Records -/

namespace Table

variable {record result : α}

/-- The rows of a table, one after the other, take a draft to `result` when they read what they
have shown of a record. -/
inductive Leads (record result : α) : Table α → α → Prop
  | done : Leads record result [] result
  | shown {row : Member α} {rows : Table α} {draft next : α} {value : Value}
      (shows : row.shown record = some value) (stores : row.store value.node draft = .ok next)
      (later : Leads record result rows next) : Leads record result (row :: rows) draft
  | hidden {row : Member α} {rows : Table α} {draft : α} (hides : row.shown record = none)
      (dispensable : row.presence ≠ .required) (later : Leads record result rows draft) :
      Leads record result (row :: rows) draft

/-- The rows of a table, one after the other, take a draft to the record when they read what they
have shown of it. -/
abbrev Fills (record : α) : Table α → α → Prop := Leads record record

section Rows

variable {name : String} {presence : Presence} {codec : Codec β} {get : α → β}
  {set : β → α → α} {omitted : β → Bool} {rows : Table α} {draft : α} {value : β}

/-- A row stores what it shows; where it shows nothing, the draft has the value already. -/
theorem Leads.of (rereads : codec.Rereads (get record) value)
    (blank : omitted (get record) = true → presence ≠ .required ∧ set value draft = draft)
    (later : Leads record result rows (set value draft)) :
    Leads record result (Member.of name presence codec get set omitted :: rows) draft := by
  cases left : omitted (get record) with
  | true =>
      obtain ⟨dispensable, same⟩ := blank left
      exact .hidden (by simp [Member.of, left]) dispensable (same ▸ later)
  | false =>
      have read : codec.read (codec.write (get record)).node = .ok value := rereads
      have shows : (Member.of name presence codec get set omitted).shown record =
          some (codec.write (get record)) := by simp [Member.of, left]
      refine .shown shows ?_ later
      simp only [Member.of, read, bind, Except.bind, pure, Except.pure]

theorem Leads.required (rereads : codec.Rereads (get record) value)
    (later : Leads record result rows (set value draft)) :
    Leads record result (.required name codec get set :: rows) draft :=
  .of rereads (fun left => Bool.noConfusion left) later

theorem Leads.defaulted (rereads : codec.Rereads (get record) value)
    (later : Leads record result rows (set value draft)) :
    Leads record result (.defaulted name codec get set :: rows) draft :=
  .of rereads (fun left => Bool.noConfusion left) later

theorem Leads.skipped {usual : β} (rereads : codec.Rereads (get record) value)
    (isUsual : omitted (get record) = true → value = usual) (same : set usual draft = draft)
    (later : Leads record result rows (set value draft)) :
    Leads record result (.skipped name codec get set omitted :: rows) draft :=
  .of rereads (fun left => ⟨Presence.noConfusion, by rw [isUsual left, same]⟩) later

theorem Fills.required (returns : codec.Returns (get record))
    (later : Fills record rows (set (get record) draft)) :
    Fills record (.required name codec get set :: rows) draft :=
  Leads.required returns later

theorem Fills.defaulted (returns : codec.Returns (get record))
    (later : Fills record rows (set (get record) draft)) :
    Fills record (.defaulted name codec get set :: rows) draft :=
  Leads.defaulted returns later

theorem Fills.skipped {usual : β} (returns : codec.Returns (get record))
    (isUsual : omitted (get record) = true → get record = usual) (same : set usual draft = draft)
    (later : Fills record rows (set (get record) draft)) :
    Fills record (.skipped name codec get set omitted :: rows) draft :=
  Leads.skipped returns isUsual same later

end Rows

section Absence

variable {name : String} {presence : Presence} {codec : Codec β} {get : α → Option β}
  {set : Option β → α → α} {rows : Table α} {draft : α}

theorem Leads.optional {value : Option β} (dispensable : presence ≠ .required)
    (rereads : codec.optional.Rereads (get record) value) (absent : get record = none → value = none)
    (same : set none draft = draft) (later : Leads record result rows (set value draft)) :
    Leads record result (.optional name presence codec get set :: rows) draft :=
  .of rereads
    (fun left => ⟨dispensable, by rw [absent (Option.isNone_iff_eq_none.mp left), same]⟩) later

/-- A free-form member loses its value if that is `null`. -/
theorem Leads.freeForm {get : α → Option Value} {set : Option Value → α → α}
    (dispensable : presence ≠ .required) (distinct : ∀ content ∈ get record, content.Distinct)
    (same : set none draft = draft)
    (later : Leads record result rows (set (Codec.unlessNull (get record)) draft)) :
    Leads record result (.optional name presence .any get set :: rows) draft :=
  .optional dispensable (Codec.rereads_anyOptional distinct) (fun absent => by rw [absent]; rfl) same
    later

theorem Fills.optional (dispensable : presence ≠ .required) (refuses : codec.RefusesNull)
    (returns : ∀ content ∈ get record, codec.Returns content) (same : set none draft = draft)
    (later : Fills record rows (set (get record) draft)) :
    Fills record (.optional name presence codec get set :: rows) draft :=
  Leads.optional dispensable (Codec.returns_optional refuses returns) id same later

theorem Fills.nullable (refuses : codec.RefusesNull)
    (returns : ∀ content ∈ get record, codec.Returns content)
    (later : Fills record rows (set (get record) draft)) :
    Fills record (.nullable name presence codec get set :: rows) draft :=
  Leads.of (Codec.returns_optional refuses returns) (fun left => Bool.noConfusion left) later

end Absence

theorem name_not_mem {before rows : Table α} {row : Member α}
    (different : ((before ++ row :: rows).map Member.name).Nodup) :
    row.name ∉ before.map Member.name := by
  intro earlier
  rw [List.map_append, List.nodup_append] at different
  exact different.2.2 row.name earlier row.name (List.mem_cons_self ..) rfl

theorem find?_name {before rows : Table α} {row : Member α}
    (different : ((before ++ row :: rows).map Member.name).Nodup) :
    (before ++ row :: rows).find? row.name = some row := by
  have absent : ∀ other ∈ before, ¬ (other.name == row.name) = true := by
    intro other member same
    exact name_not_mem different (beq_iff_eq.mp same ▸ List.mem_map_of_mem member)
  rw [find?, List.find?_append, List.find?_eq_none.mpr absent]
  simp

/-- A member whose name has not been met is stored by the row of that name. -/
theorem readMembers_next {before rows : Table α} {row : Member α}
    (different : ((before ++ row :: rows).map Member.name).Nodup) {met : List String}
    (fresh : row.name ∉ met) {node : Node} {draft next : α}
    (stores : row.store node draft = .ok next) (tail : Members) :
    (before ++ row :: rows).readMembers met (.next (.ok row.name) node tail) draft =
      (before ++ row :: rows).readMembers (row.name :: met) tail next := by
  have unmet : met.contains row.name = false := by simpa using fresh
  simp only [readMembers, bind, Except.bind, find?_name different, unmet, Bool.false_eq_true,
    if_false, stores]

theorem fields_of_shown {row : Member α} {value : Value} (shows : row.shown record = some value)
    (rows : Table α) :
    fields (row :: rows) record = (row.name, value) :: fields rows record := by
  simp [fields, shows]

theorem fields_of_hidden {row : Member α} (hides : row.shown record = none) (rows : Table α) :
    fields (row :: rows) record = fields rows record := by
  simp [fields, hides]

/-- Reading the members that the rows from a place on have shown ends at the result, and meets every
row that has shown one. -/
theorem Leads.readMembers {rows : Table α} {draft : α} (leads : Leads record result rows draft)
    {before : Table α} (different : ((before ++ rows).map Member.name).Nodup)
    {met : List String} (old : ∀ name ∈ met, name ∈ before.map Member.name) :
    ∃ last, (before ++ rows).readMembers met (membersOf (Table.fields rows record)) draft =
        .ok (last, result) ∧
      (∀ name ∈ met, name ∈ last) ∧ ∀ row ∈ rows, row.presence = .required → row.name ∈ last := by
  induction leads generalizing before met with
  | done => exact ⟨met, rfl, fun _ member => member, fun _ member => nomatch member⟩
  | @shown row rows draft next value shows stores later ih =>
      have fresh : row.name ∉ met := fun repeated => name_not_mem different (old row.name repeated)
      have shifted : before ++ row :: rows = (before ++ [row]) ++ rows := by simp
      have older : ∀ name ∈ row.name :: met, name ∈ (before ++ [row]).map Member.name := by
        rw [List.forall_mem_cons, List.map_append]
        exact ⟨List.mem_append_right _ (List.mem_cons_self ..),
          fun name member => List.mem_append_left _ (old name member)⟩
      obtain ⟨last, read, kept, required⟩ := ih (shifted ▸ different) older
      obtain ⟨here, keptMet⟩ := List.forall_mem_cons.mp kept
      refine ⟨last, ?_, keptMet, List.forall_mem_cons.mpr ⟨fun _ => here, required⟩⟩
      rw [fields_of_shown shows, membersOf, readMembers_next different fresh stores, shifted, read]
  | @hidden row rows draft hides dispensable later ih =>
      have shifted : before ++ row :: rows = (before ++ [row]) ++ rows := by simp
      have older : ∀ name ∈ met, name ∈ (before ++ [row]).map Member.name := by
        intro name member
        rw [List.map_append]
        exact List.mem_append_left _ (old name member)
      obtain ⟨last, read, kept, required⟩ := ih (shifted ▸ different) older
      refine ⟨last, ?_, kept, List.forall_mem_cons.mpr ⟨(absurd · dispensable), required⟩⟩
      rw [fields_of_hidden hides, shifted, read]

/-- What is read from the members that are written of a record. -/
theorem Leads.readObject {table : Table α} {blank : α} (leads : Leads record result table blank)
    (different : (table.map Member.name).Nodup) :
    table.readObject blank (membersOf (table.fields record)) = .ok result := by
  have none : ∀ name ∈ ([] : List String), name ∈ ([] : Table α).map Member.name :=
    fun _ member => nomatch member
  obtain ⟨last, read, -, required⟩ := @Leads.readMembers α record result table blank leads []
    different [] none
  have complete : table.complete last = true := by
    rw [Table.complete, List.all_eq_true]
    intro row member
    by_cases necessary : row.presence = .required
    · simp [required row member necessary]
    · simp [necessary]
  rw [List.nil_append] at read
  simp only [Table.readObject, read, bind, Except.bind, complete, if_true]

theorem refusesNull_codec {table : Table α} {blank : α} : (table.codec blank).RefusesNull :=
  .of_error rfl

theorem Leads.rereads {table : Table α} {blank : α} (leads : Leads record result table blank)
    (different : (table.map Member.name).Nodup) : (table.codec blank).Rereads record result :=
  leads.readObject different

theorem Fills.returns {table : Table α} {blank : α} (fills : Fills record table blank)
    (different : (table.map Member.name).Nodup) : (table.codec blank).Returns record :=
  fills.readObject different

/-- A row shows a member under its own name. -/
theorem mem_names_of_mem_fields {table : Table α} {name : String}
    (member : name ∈ (table.fields record).map Prod.fst) : name ∈ table.map Member.name := by
  obtain ⟨entry, shown, rfl⟩ := List.mem_map.mp member
  obtain ⟨row, there, same⟩ := List.mem_filterMap.mp shown
  obtain ⟨value, -, rfl⟩ := Option.map_eq_some_iff.mp same
  exact List.mem_map_of_mem there

end Table

/-! ## Choices -/

/-- An alternative comes back if its name leads to it. -/
theorem returns_enumerationOver {nothing : Node → Except Fault Unit}
    {alternatives : List (String × α)} {nameOf : α → String} {value : α}
    (named : lookup (nameOf value) alternatives = some value) :
    (enumerationOver nothing alternatives nameOf).Returns value := by
  simp only [Codec.Returns, enumerationOver, Value.node, readNamed, namedIn, named, bind,
    Except.bind]

/-- An object with one member comes back if the name of the member leads to its reader. -/
theorem returns_keyed {alternatives : List (String × (Node → Except Fault α))}
    {shown : α → String × Value} {value : α} {read : Node → Except Fault α}
    (named : lookup (shown value).1 alternatives = some read)
    (reads : read (shown value).2.node = .ok value) : (keyed alternatives shown).Returns value := by
  simp only [Codec.Returns, keyed, Value.node, membersOf, readNamed, readOnly, namedIn, named,
    reads, closeOnly, bind, Except.bind, pure, Except.pure]

theorem Members.without_membersOf {name : String} {members : Fields}
    (absent : name ∉ members.map Prod.fst) :
    (membersOf members).without name = membersOf members := by
  induction members with
  | nil => rfl
  | cons member members ih =>
      obtain ⟨other, value⟩ := member
      simp only [List.map_cons, List.mem_cons, not_or] at absent
      simp only [membersOf, Members.without, if_neg (Ne.symm absent.1), ih absent.2]

/-- Behind the tag of a complete object nothing changes it. -/
theorem findTag_membersOf {known : Node → Except Fault β} {tag : β} {members : Fields}
    (untagged : tagName ∉ members.map Prod.fst) :
    findTag known (some tag) (membersOf members) = .ok tag := by
  induction members with
  | nil => rfl
  | cons member members ih =>
      obtain ⟨name, value⟩ := member
      simp only [List.map_cons, List.mem_cons, not_or] at untagged
      obtain ⟨result, read, -⟩ := exists_value_node value
      simp only [membersOf, findTag, bind, Except.bind, if_neg (Ne.symm untagged.1), read,
        ih untagged.2]

/-- A tagged object is read by the alternative of its tag from the other members. -/
theorem readChosen_tagged {choose : Node → Except Fault (Alternative α)} {tag : String}
    {alternative : Alternative α} {members : Fields} {result : α}
    (chosen : choose (.text (.ok tag)) = .ok alternative)
    (untagged : tagName ∉ members.map Prod.fst)
    (read : alternative.ofMembers (membersOf members) = .ok result) :
    readChosen choose (tagged tag members).node = .ok result := by
  simp only [tagged, Value.node, membersOf, readChosen, findTag, bind, Except.bind, if_true,
    chosen, findTag_membersOf untagged, Members.without, Members.without_membersOf untagged, read,
    mismatchOnly]

section Tagged

variable {table : Table β} {blank record : β} {tag : String} {make : β → α}
  {alternatives : List (Alternative α)}

/-- The members of an alternative that is described by a table. -/
theorem readChosen_ofTable {choose : Node → Except Fault (Alternative α)}
    (chosen : choose (.text (.ok tag)) = .ok (.ofTable tag table blank make))
    (different : (tagName :: table.map Member.name).Nodup)
    (fills : table.Fills record blank) :
    readChosen choose (tagged tag (table.fields record)).node = .ok (make record) := by
  obtain ⟨untagged, different⟩ := List.nodup_cons.mp different
  refine readChosen_tagged chosen
    (fun member => untagged (Table.mem_names_of_mem_fields member)) ?_
  simp only [Alternative.ofTable, fills.readObject different, bind, Except.bind, pure,
    Except.pure]

/-- A record comes back under the tag of its alternative. -/
theorem readTagged_ofTable {other : Option (Alternative α)}
    (listed : alternativeFor alternatives other tag = .ok (.ofTable tag table blank make))
    (different : (tagName :: table.map Member.name).Nodup)
    (fills : table.Fills record blank) :
    readTagged alternatives other (tagged tag (table.fields record)).node = .ok (make record) :=
  readChosen_ofTable listed different fills

theorem readTaggedInside_ofTable
    (listed : alternativeFor alternatives none tag = .ok (.ofTable tag table blank make))
    (different : (tagName :: table.map Member.name).Nodup)
    (fills : table.Fills record blank) :
    readTaggedInside alternatives (tagged tag (table.fields record)).node = .ok (make record) :=
  readChosen_ofTable listed different fills

end Tagged

/-- The first reader that takes a complete value tells the result. -/
theorem firstOf_node {readers : List (Node → Except Fault α)} {value : Value} {result : α}
    (first : readers.findSome? (fun read => (read value.node).toOption) = some result) :
    firstOf readers value.node = .ok result := by
  obtain ⟨whole, read, -⟩ := exists_value_node value
  simp only [firstOf, read, bind, Except.bind, first]

end ResponsesBridge.Json
