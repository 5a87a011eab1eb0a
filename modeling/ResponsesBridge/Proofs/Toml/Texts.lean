import Mathlib.Data.List.Basic
import ResponsesBridge.Toml.Read

/-!
# The texts of a document

A document holds texts in its entries. They can be listed, and they can be changed where they stand
(`HoldsTexts`). Building tables takes no notice of them: entries under keys and sections under
headers come to the same table when their texts are changed before or after (`tableOf?_retext`), and
every text of the statements is in the table as often as it was written (`perm_texts_tableOf?`).
-/

set_option autoImplicit false

namespace ResponsesBridge.Toml

open Json (lookup put)

/-- Data that hold texts: the texts in their order, and the data with each text changed. -/
class HoldsTexts (α : Type) where
  texts : α → List String
  retext : (String → String) → α → α
  retext_of_fixed : ∀ change value, (∀ text ∈ texts value, change text = text) →
    retext change value = value

export HoldsTexts (texts retext retext_of_fixed)

section Instances

variable {α β : Type} [HoldsTexts α] [HoldsTexts β]

/-- Data without texts. -/
abbrev HoldsTexts.none (α : Type) : HoldsTexts α where
  texts _ := []
  retext _ value := value
  retext_of_fixed _ _ _ := rfl

instance : HoldsTexts Unit := .none Unit

instance : HoldsTexts Key := .none Key

/-- A name is not a text of the document. -/
instance : HoldsTexts String := .none String

instance : HoldsTexts (α × β) where
  texts pair := texts pair.1 ++ texts pair.2
  retext change pair := (retext change pair.1, retext change pair.2)
  retext_of_fixed change pair fixed := by
    obtain ⟨first, second⟩ := List.forall_mem_append.mp fixed
    exact Prod.ext (retext_of_fixed change _ first) (retext_of_fixed change _ second)

instance : HoldsTexts (List α) where
  texts values := values.flatMap texts
  retext change values := values.map (retext change)
  retext_of_fixed change values fixed := by
    refine (List.map_congr_left ?_).trans (List.map_id values)
    intro value member
    refine retext_of_fixed change value ?_
    intro text held
    exact fixed text (List.mem_flatMap.mpr ⟨value, member, held⟩)

@[simp] theorem texts_pair (first : α) (second : β) :
    texts (first, second) = texts first ++ texts second := rfl

@[simp] theorem retext_pair (change : String → String) (first : α) (second : β) :
    retext change (first, second) = (retext change first, retext change second) := rfl

@[simp] theorem texts_nil : texts ([] : List α) = [] := rfl

@[simp] theorem texts_cons (value : α) (values : List α) :
    texts (value :: values) = texts value ++ texts values := rfl

theorem texts_append (values more : List α) : texts (values ++ more) = texts values ++ texts more :=
  List.flatMap_append

@[simp] theorem retext_nil (change : String → String) : retext change ([] : List α) = [] := rfl

@[simp] theorem retext_cons (change : String → String) (value : α) (values : List α) :
    retext change (value :: values) = retext change value :: retext change values := rfl

theorem retext_append (change : String → String) (values more : List α) :
    retext change (values ++ more) = retext change values ++ retext change more :=
  List.map_append

@[simp] theorem texts_name (name : String) : texts name = [] := rfl

@[simp] theorem texts_key (key : Key) : texts key = [] := rfl

@[simp] theorem retext_name (change : String → String) (name : String) :
    retext change name = name := rfl

@[simp] theorem retext_key (change : String → String) (key : Key) : retext change key = key := rfl

/-- One text in the place of another one. -/
def exchange (token other text : String) : String := if text = token then other else text

@[simp] theorem exchange_token (token other : String) : exchange token other token = other :=
  if_pos rfl

/-- Data without the text do not change. -/
theorem retext_exchange_of_absent {token : String} (other : String) {value : α}
    (absent : token ∉ texts value) : retext (exchange token other) value = value := by
  refine retext_of_fixed _ _ ?_
  intro text held
  refine if_neg ?_
  rintro rfl
  exact absent held

end Instances

/-! ## Entries -/

mutual

/-- The texts of an entry. -/
def Entry.texts : Entry → List String
  | .text value => [value]
  | .scalar => []
  | .array items => textsOfItems items
  | .table _ members => textsOfMembers members
termination_by structural entry => entry

/-- The texts of the items of an array. -/
def textsOfItems : List Entry → List String
  | [] => []
  | item :: items => item.texts ++ textsOfItems items
termination_by structural items => items

/-- The texts of the entries of a table. -/
def textsOfMembers : List (String × Entry) → List String
  | [] => []
  | (_, entry) :: members => entry.texts ++ textsOfMembers members
termination_by structural members => members

end

mutual

/-- An entry with each text changed. -/
def Entry.retext (change : String → String) : Entry → Entry
  | .text value => .text (change value)
  | .scalar => .scalar
  | .array items => .array (retextItems change items)
  | .table origin members => .table origin (retextMembers change members)
termination_by structural entry => entry

/-- The items of an array with each text changed. -/
def retextItems (change : String → String) : List Entry → List Entry
  | [] => []
  | item :: items => item.retext change :: retextItems change items
termination_by structural items => items

/-- The entries of a table with each text changed. -/
def retextMembers (change : String → String) : List (String × Entry) → List (String × Entry)
  | [] => []
  | (name, entry) :: members => (name, entry.retext change) :: retextMembers change members
termination_by structural members => members

end

mutual

theorem Entry.retext_of_fixed (change : String → String) : ∀ entry : Entry,
    (∀ text ∈ entry.texts, change text = text) → entry.retext change = entry
  | .text value, fixed => congrArg Entry.text (fixed value (.head _))
  | .scalar, _ => rfl
  | .array items, fixed => congrArg Entry.array (retextItems_of_fixed change items fixed)
  | .table origin members, fixed =>
      congrArg (Entry.table origin) (retextMembers_of_fixed change members fixed)

theorem retextItems_of_fixed (change : String → String) : ∀ items : List Entry,
    (∀ text ∈ textsOfItems items, change text = text) → retextItems change items = items
  | [], _ => rfl
  | item :: items, fixed => by
      obtain ⟨first, later⟩ := List.forall_mem_append.mp fixed
      rw [retextItems, item.retext_of_fixed change first, retextItems_of_fixed change items later]

theorem retextMembers_of_fixed (change : String → String) : ∀ members : List (String × Entry),
    (∀ text ∈ textsOfMembers members, change text = text) → retextMembers change members = members
  | [], _ => rfl
  | (name, entry) :: members, fixed => by
      obtain ⟨first, later⟩ := List.forall_mem_append.mp fixed
      rw [retextMembers, entry.retext_of_fixed change first,
        retextMembers_of_fixed change members later]

end

instance : HoldsTexts Entry where
  texts := Entry.texts
  retext := Entry.retext
  retext_of_fixed := Entry.retext_of_fixed

theorem textsOfItems_eq (items : List Entry) : textsOfItems items = texts items := by
  induction items with
  | nil => rfl
  | cons item items ih => exact congrArg (item.texts ++ ·) ih

theorem textsOfMembers_eq (members : List (String × Entry)) :
    textsOfMembers members = texts members := by
  induction members with
  | nil => rfl
  | cons member members ih => exact congrArg (member.2.texts ++ ·) ih

theorem retextItems_eq (change : String → String) (items : List Entry) :
    retextItems change items = retext change items := by
  induction items with
  | nil => rfl
  | cons item items ih => exact congrArg (item.retext change :: ·) ih

theorem retextMembers_eq (change : String → String) (members : List (String × Entry)) :
    retextMembers change members = retext change members := by
  induction members with
  | nil => rfl
  | cons member members ih => exact congrArg ((member.1, member.2.retext change) :: ·) ih

@[simp] theorem texts_text (value : String) : texts (Entry.text value) = [value] := rfl

@[simp] theorem texts_array (items : List Entry) : texts (Entry.array items) = texts items :=
  textsOfItems_eq items

@[simp] theorem texts_table (origin : Origin) (members : Table) :
    texts (Entry.table origin members) = texts members :=
  textsOfMembers_eq members

@[simp] theorem retext_text (change : String → String) (value : String) :
    retext change (Entry.text value) = .text (change value) := rfl

@[simp] theorem retext_array (change : String → String) (items : List Entry) :
    retext change (Entry.array items) = .array (retext change items) :=
  congrArg Entry.array (retextItems_eq change items)

@[simp] theorem retext_table (change : String → String) (origin : Origin) (members : Table) :
    retext change (Entry.table origin members) = .table origin (retext change members) :=
  congrArg (Entry.table origin) (retextMembers_eq change members)

/-! ## Tables -/

section Tables

variable {change : String → String} {name : String} {entry : Entry} {table : Table}

theorem lookup_retext (change : String → String) (name : String) (table : Table) :
    lookup name (retext change table) = (lookup name table).map (retext change) := by
  induction table with
  | nil => rfl
  | cons member table ih =>
      obtain ⟨other, content⟩ := member
      by_cases same : other = name
      · simp [lookup, same]
      · simpa [lookup, same] using ih

theorem put_retext (change : String → String) (name : String) (entry : Entry) (table : Table) :
    put name (retext change entry) (retext change table) =
      retext change (put name entry table) := by
  induction table with
  | nil => rfl
  | cons member table ih =>
      obtain ⟨other, content⟩ := member
      by_cases same : other = name
      · simp [put, same]
      · simpa [put, same] using ih

/-- A new entry brings its texts. -/
theorem perm_texts_put_of_none (absent : lookup name table = none) (entry : Entry) :
    (texts (put name entry table)).Perm (texts table ++ texts entry) := by
  induction table with
  | nil => simp [put]
  | cons member table ih =>
      obtain ⟨other, content⟩ := member
      by_cases same : other = name
      · simp [lookup, same] at absent
      · have absent : lookup name table = none := by simpa [lookup, same] using absent
        simpa [put, same] using (ih absent).append_left (texts content)

/-- An entry that takes the place of another one brings its texts, and the others are gone. -/
theorem perm_texts_put_of_some {old : Entry} (present : lookup name table = some old)
    (entry : Entry) :
    (texts (put name entry table) ++ texts old).Perm (texts table ++ texts entry) := by
  induction table with
  | nil => cases present
  | cons member table ih =>
      obtain ⟨other, content⟩ := member
      by_cases same : other = name
      · have isOld : content = old := by simpa [lookup, same] using present
        subst isOld
        refine List.perm_iff_count.mpr ?_
        intro text
        simp only [put, same, if_true, texts_cons, texts_pair, texts_name, List.nil_append,
          List.count_append]
        omega
      · have present : lookup name table = some old := by simpa [lookup, same] using present
        simpa [put, same] using (ih present).append_left (texts content)

/-- An inner table is put into its place with changed texts, or changed there. -/
theorem put_table_retext (change : String → String) (name : String) (origin : Origin)
    (inner : Option Table) (table : Table) :
    (do
      let filled ← inner.map (retext change)
      return put name (Entry.table origin filled) (retext change table)) =
      (do
        let filled ← inner
        return put name (Entry.table origin filled) table).map (retext change) := by
  cases inner with
  | none => rfl
  | some filled =>
      have changed := put_retext change name (.table origin filled) table
      rw [retext_table] at changed
      exact congrArg some changed

theorem assign?_retext (change : String → String) (steps : List String) (name : String)
    (entry : Entry) (table : Table) :
    assign? steps name (retext change entry) (retext change table) =
      (assign? steps name entry table).map (retext change) := by
  induction steps generalizing table with
  | nil =>
      simp only [assign?, lookup_retext]
      cases lookup name table with
      | none => exact congrArg some (retext_append change table [(name, entry)]).symm
      | some old => rfl
  | cons step steps ih =>
      simp only [assign?, lookup_retext]
      cases lookup step table with
      | none =>
          have inner := ih []
          rw [retext_nil] at inner
          simp only [Option.map_none, inner]
          exact put_table_retext change step .dotted _ table
      | some old =>
          cases old with
          | table origin inner =>
              simp only [Option.map_some, retext_table, ih]
              split
              case isTrue => exact put_table_retext change step origin _ table
              case isFalse => rfl
          | text value => rfl
          | scalar => rfl
          | array items =>
              simp only [Option.map_some, retext_array]
              rfl

theorem perm_texts_assign? {steps : List String} {filled : Table}
    (assigned : assign? steps name entry table = some filled) :
    (texts filled).Perm (texts table ++ texts entry) := by
  induction steps generalizing table filled with
  | nil =>
      simp only [assign?] at assigned
      split at assigned
      case h_1 => cases assigned
      case h_2 =>
        cases assigned
        simp [texts_append]
  | cons step steps ih =>
      simp only [assign?] at assigned
      split at assigned
      case h_1 absent =>
        obtain ⟨inner, below, same⟩ := Option.bind_eq_some_iff.mp assigned
        cases same
        refine (perm_texts_put_of_none absent _).trans (List.Perm.append_left _ ?_)
        simpa using ih below
      case h_2 origin inner present =>
        split at assigned
        case isTrue =>
          obtain ⟨deeper, below, same⟩ := Option.bind_eq_some_iff.mp assigned
          cases same
          have put := perm_texts_put_of_some present (Entry.table origin deeper)
          have below := ih below
          rw [List.perm_iff_count] at put below ⊢
          intro text
          have put := put text
          have below := below text
          simp only [texts_table, List.count_append] at put below ⊢
          omega
        case isFalse => cases assigned
      case h_3 => cases assigned

theorem assignAll?_retext (change : String → String) (entries : List (Key × Entry))
    (table : Table) :
    assignAll? (retext change entries) (retext change table) =
      (assignAll? entries table).map (retext change) := by
  induction entries generalizing table with
  | nil => rfl
  | cons first entries ih =>
      obtain ⟨key, entry⟩ := first
      simp only [retext_cons, retext_pair, retext_key, assignAll?, assign?_retext]
      cases assign? key.steps key.name entry table with
      | none => rfl
      | some filled => exact ih filled

theorem perm_texts_assignAll? {entries : List (Key × Entry)} {filled : Table}
    (assigned : assignAll? entries table = some filled) :
    (texts filled).Perm (texts table ++ texts entries) := by
  induction entries generalizing table with
  | nil =>
      cases assigned
      simp
  | cons first entries ih =>
      obtain ⟨key, entry⟩ := first
      obtain ⟨next, one, others⟩ := Option.bind_eq_some_iff.mp assigned
      have one := perm_texts_assign? one
      simpa using (ih others).trans (one.append_right (texts entries))

/-- The same for what is behind a header, if it holds of what the header is filled with. -/
theorem openTable?_retext {fill changed : Table → Option Table}
    (alike : ∀ table, changed (retext change table) = (fill table).map (retext change))
    (steps : List String) (name : String) (table : Table) :
    openTable? changed steps name (retext change table) =
      (openTable? fill steps name table).map (retext change) := by
  have empty : changed [] = (fill []).map (retext change) := alike []
  induction steps generalizing table with
  | nil =>
      simp only [openTable?, lookup_retext]
      cases lookup name table with
      | none =>
          simp only [Option.map_none, empty]
          exact put_table_retext change name .opened _ table
      | some old =>
          cases old with
          | table origin inner =>
              simp only [Option.map_some, retext_table]
              cases origin with
              | passed =>
                  simp only [alike]
                  exact put_table_retext change name .opened _ table
              | opened | dotted | braces => rfl
          | text value => rfl
          | scalar => rfl
          | array items =>
              simp only [Option.map_some, retext_array]
              rfl
  | cons step steps ih =>
      simp only [openTable?, lookup_retext]
      cases lookup step table with
      | none =>
          have inner := ih []
          rw [retext_nil] at inner
          simp only [Option.map_none, inner]
          exact put_table_retext change step .passed _ table
      | some old =>
          cases old with
          | table origin inner =>
              simp only [Option.map_some, retext_table]
              cases origin with
              | braces => rfl
              | opened | passed | dotted =>
                  simp only [ih]
                  exact put_table_retext change step _ _ table
          | text value => rfl
          | scalar => rfl
          | array items =>
              simp only [Option.map_some, retext_array]
              rfl

theorem perm_texts_openTable? {fill : Table → Option Table} {more : List String}
    (fills : ∀ table filled, fill table = some filled →
      (texts filled).Perm (texts table ++ more))
    {steps : List String} {filled : Table}
    (opened : openTable? fill steps name table = some filled) :
    (texts filled).Perm (texts table ++ more) := by
  -- the new inner table stands in the place of the old one
  have replaced {step : String} {origin other : Origin} {inner deeper table : Table}
      (present : lookup step table = some (.table origin inner))
      (below : (texts deeper).Perm (texts inner ++ more)) :
      (texts (put step (.table other deeper) table)).Perm (texts table ++ more) := by
    have put := perm_texts_put_of_some present (Entry.table other deeper)
    rw [List.perm_iff_count] at put below ⊢
    intro text
    have put := put text
    have below := below text
    simp only [texts_table, List.count_append] at put below ⊢
    omega
  have added {step : String} {origin : Origin} {deeper table : Table}
      (absent : lookup step table = none)
      (below : (texts deeper).Perm (texts ([] : Table) ++ more)) :
      (texts (put step (.table origin deeper) table)).Perm (texts table ++ more) := by
    refine (perm_texts_put_of_none absent _).trans (List.Perm.append_left _ ?_)
    simpa using below
  induction steps generalizing table filled with
  | nil =>
      simp only [openTable?] at opened
      split at opened
      case h_1 absent =>
        obtain ⟨deeper, below, same⟩ := Option.bind_eq_some_iff.mp opened
        cases same
        exact added absent (fills _ _ below)
      case h_2 inner present =>
        obtain ⟨deeper, below, same⟩ := Option.bind_eq_some_iff.mp opened
        cases same
        exact replaced present (fills _ _ below)
      case h_3 => cases opened
  | cons step steps ih =>
      simp only [openTable?] at opened
      split at opened
      case h_1 absent =>
        obtain ⟨deeper, below, same⟩ := Option.bind_eq_some_iff.mp opened
        cases same
        exact added absent (ih below)
      case h_2 => cases opened
      case h_3 origin inner _ present =>
        obtain ⟨deeper, below, same⟩ := Option.bind_eq_some_iff.mp opened
        cases same
        exact replaced present (ih below)
      case h_4 => cases opened

end Tables

/-! ## Documents -/

instance : HoldsTexts Section where
  texts part := texts part.entries
  retext change part := { part with entries := retext change part.entries }
  retext_of_fixed change part fixed := by
    rw [retext_of_fixed change part.entries fixed]

instance : HoldsTexts Statement where
  texts
    | .header _ => []
    | .entry _ value => texts value
  retext change
    | .header key => .header key
    | .entry key value => .entry key (retext change value)
  retext_of_fixed change statement fixed := by
    cases statement with
    | header key => rfl
    | entry key value => exact congrArg (Statement.entry key) (retext_of_fixed change value fixed)

theorem openAll?_retext (change : String → String) (parts : List Section) (table : Table) :
    openAll? (retext change parts) (retext change table) =
      (openAll? parts table).map (retext change) := by
  induction parts generalizing table with
  | nil => rfl
  | cons part parts ih =>
      have one := openTable?_retext (assignAll?_retext change part.entries) part.header.steps
        part.header.name table
      rw [retext_cons]
      refine (congrArg (Option.bind · _) one).trans ?_
      rw [openAll?]
      cases openTable? (assignAll? part.entries) part.header.steps part.header.name table with
      | none => rfl
      | some filled => exact ih filled

theorem perm_texts_openAll? {parts : List Section} {table filled : Table}
    (opened : openAll? parts table = some filled) :
    (texts filled).Perm (texts table ++ texts parts) := by
  induction parts generalizing table with
  | nil =>
      cases opened
      simp
  | cons part parts ih =>
      obtain ⟨next, one, others⟩ := Option.bind_eq_some_iff.mp opened
      have one := perm_texts_openTable? (fun _ _ => perm_texts_assignAll?) one
      refine (ih others).trans ?_
      rw [texts_cons, ← List.append_assoc]
      exact one.append_right (texts parts)

theorem sections_retext (change : String → String) (statements : List Statement) :
    sections (retext change statements) = retext change (sections statements) := by
  induction statements with
  | nil => rfl
  | cons statement statements ih =>
      cases statement with
      | header key =>
          have behind : sections (retext change (.header key :: statements)) =
              ([], ⟨key, (sections (retext change statements)).1⟩ ::
                (sections (retext change statements)).2) := rfl
          rw [behind, ih]
          rfl
      | entry key value =>
          have behind : sections (retext change (.entry key value :: statements)) =
              ((key, retext change value) :: (sections (retext change statements)).1,
                (sections (retext change statements)).2) := rfl
          rw [behind, ih]
          rfl

theorem texts_sections (statements : List Statement) :
    texts (sections statements) = texts statements := by
  induction statements with
  | nil => rfl
  | cons statement statements ih =>
      rw [texts_cons, ← ih]
      cases statement with
      | header key => rfl
      | entry key value => exact List.append_assoc (texts value) _ _

/-- The table of the statements of a document. -/
def tableOf? (statements : List Statement) : Option Table := do
  let (entries, parts) := sections statements
  openAll? parts (← assignAll? entries [])

/-- Statements with changed texts come to the table with changed texts. -/
theorem tableOf?_retext (change : String → String) (statements : List Statement) :
    tableOf? (retext change statements) = (tableOf? statements).map (retext change) := by
  simp only [tableOf?, sections_retext]
  have assigned := assignAll?_retext change (sections statements).1 []
  rw [retext_nil] at assigned
  refine (congrArg (Option.bind · _) assigned).trans ?_
  cases found : assignAll? (sections statements).1 [] with
  | none => rfl
  | some filled => exact openAll?_retext change (sections statements).2 filled

/-- The texts of the statements are those of the table. -/
theorem perm_texts_tableOf? {statements : List Statement} {table : Table}
    (built : tableOf? statements = some table) : (texts table).Perm (texts statements) := by
  obtain ⟨filled, assigned, opened⟩ := Option.bind_eq_some_iff.mp built
  rw [← texts_sections]
  have first := perm_texts_assignAll? assigned
  exact (perm_texts_openAll? opened).trans (first.append_right _)

end ResponsesBridge.Toml
