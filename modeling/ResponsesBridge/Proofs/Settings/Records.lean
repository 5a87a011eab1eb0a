import ResponsesBridge.Proofs.Toml.Texts
import ResponsesBridge.Settings.Configuration

/-!
# Records that show a text of a document

A record is read from the entries of a table or from the items of an array, each of which is stored
under a setting (`storeAll`). Some settings fill a slot of the record with a text of their entry,
the others leave the slot alone (`Fills`, `Leaves`). If a record shows a text in its slot that
stands only once in what it is read from, then the text can be exchanged there: the record is the
same except for the slot (`exposes_record?`).
-/

set_option autoImplicit false

namespace ResponsesBridge.Settings

open Toml (Entry Origin Table HoldsTexts texts retext exchange retext_exchange_of_absent)

variable {α β : Type}

instance : HoldsTexts (Setting α) := .none _

/-! ## The settings of the entries -/

/-- A draft filled from entries with their settings. -/
def storeAll : List (Setting α × Entry) → α → Option α
  | [], draft => some draft
  | (setting, entry) :: pairs, draft => (setting.store entry draft).bind (storeAll pairs)

/-- The settings of the entries of a table, if all are known. -/
def memberSettings? (settings : List (Setting α)) : Table → Option (List (Setting α × Entry))
  | [] => some []
  | (name, entry) :: members => do
    let setting ← settings.find? fun setting => setting.name == name
    return (setting, entry) :: (← memberSettings? settings members)

/-- The settings of the items of an array, if none is missing. -/
def itemSettings? : List (Setting α) → List Entry → Option (List (Setting α × Entry))
  | [], _ => some []
  | setting :: settings, [] =>
    if setting.isRequired then none else itemSettings? settings []
  | setting :: settings, entry :: entries => do
    return (setting, entry) :: (← itemSettings? settings entries)

/-- The settings of what a record is read from. -/
def entrySettings? (settings : List (Setting α)) : Entry → Option (List (Setting α × Entry))
  | .table _ members =>
    if settings.all fun setting =>
        !setting.isRequired || (Json.lookup setting.name members).isSome then
      memberSettings? settings members
    else none
  | .array items => itemSettings? settings items
  | _ => none

theorem storeMembers_eq (settings : List (Setting α)) (members : Table) (draft : α) :
    storeMembers settings members draft =
      (memberSettings? settings members).bind fun pairs => storeAll pairs draft := by
  induction members generalizing draft with
  | nil => rfl
  | cons member members ih =>
      obtain ⟨name, entry⟩ := member
      simp only [storeMembers, memberSettings?]
      cases settings.find? fun setting => setting.name == name with
      | none => rfl
      | some setting =>
          simp only [bind, Option.bind, ih]
          cases memberSettings? settings members with
          | none => cases setting.store entry draft <;> rfl
          | some pairs => rfl

theorem storeItems_eq (settings : List (Setting α)) (items : List Entry) (draft : α) :
    storeItems settings items draft =
      (itemSettings? settings items).bind fun pairs => storeAll pairs draft := by
  induction settings generalizing items draft with
  | nil => rfl
  | cons setting settings ih =>
      cases items with
      | nil =>
          simp only [storeItems, itemSettings?]
          split
          case isTrue => rfl
          case isFalse => exact ih [] draft
      | cons entry items =>
          simp only [storeItems, itemSettings?, bind, Option.bind, ih]
          cases itemSettings? settings items with
          | none => cases setting.store entry draft <;> rfl
          | some pairs => rfl

theorem record?_eq (settings : List (Setting α)) (blank : α) (entry : Entry) :
    record? settings blank entry =
      (entrySettings? settings entry).bind fun pairs => storeAll pairs blank := by
  cases entry with
  | table origin members =>
      simp only [record?, ofTable?, entrySettings?, storeMembers_eq]
      split <;> rfl
  | array items => exact storeItems_eq settings items blank
  | text value | scalar => rfl

theorem memberSettings?_retext (change : String → String) (settings : List (Setting α))
    (members : Table) : memberSettings? settings (retext change members) =
      (memberSettings? settings members).map (retext change) := by
  induction members with
  | nil => rfl
  | cons member members ih =>
      obtain ⟨name, entry⟩ := member
      simp only [Toml.retext_cons, Toml.retext_pair, Toml.retext_name, memberSettings?, ih]
      cases settings.find? fun setting => setting.name == name with
      | none => rfl
      | some setting => cases memberSettings? settings members <;> rfl

theorem itemSettings?_retext (change : String → String) (settings : List (Setting α))
    (items : List Entry) : itemSettings? settings (retext change items) =
      (itemSettings? settings items).map (retext change) := by
  induction settings generalizing items with
  | nil => rfl
  | cons setting settings ih =>
      cases items with
      | nil =>
          simp only [Toml.retext_nil, itemSettings?]
          split
          case isTrue => rfl
          case isFalse => exact ih []
      | cons entry items =>
          simp only [Toml.retext_cons, itemSettings?, ih]
          cases itemSettings? settings items <;> rfl

/-- The same settings belong to entries with changed texts. -/
theorem entrySettings?_retext (change : String → String) (settings : List (Setting α))
    (entry : Entry) : entrySettings? settings (retext change entry) =
      (entrySettings? settings entry).map (retext change) := by
  cases entry with
  | table origin members =>
      simp only [Toml.retext_table, entrySettings?, Toml.lookup_retext, Option.isSome_map,
        memberSettings?_retext]
      split <;> rfl
  | array items =>
      rw [Toml.retext_array]
      exact itemSettings?_retext change settings items
  | text value | scalar => rfl

/-- The entries are among those of the table, and their settings are settings of the record. -/
theorem memberSettings?_spec {settings : List (Setting α)} {members : Table}
    {pairs : List (Setting α × Entry)} (found : memberSettings? settings members = some pairs) :
    (∀ pair ∈ pairs, pair.1 ∈ settings) ∧ texts pairs = texts members := by
  induction members generalizing pairs with
  | nil =>
      cases found
      exact ⟨nofun, rfl⟩
  | cons member members ih =>
      obtain ⟨name, entry⟩ := member
      obtain ⟨setting, known, later⟩ := Option.bind_eq_some_iff.mp found
      obtain ⟨others, rest, same⟩ := Option.bind_eq_some_iff.mp later
      cases same
      obtain ⟨all, held⟩ := ih rest
      refine ⟨List.forall_mem_cons.mpr ⟨List.mem_of_find?_eq_some known, all⟩, ?_⟩
      exact congrArg (texts entry ++ ·) held

theorem itemSettings?_spec {settings : List (Setting α)} {items : List Entry}
    {pairs : List (Setting α × Entry)} (found : itemSettings? settings items = some pairs) :
    (∀ pair ∈ pairs, pair.1 ∈ settings) ∧ (texts pairs).Sublist (texts items) := by
  induction settings generalizing items pairs with
  | nil =>
      cases found
      exact ⟨nofun, List.nil_sublist _⟩
  | cons setting settings ih =>
      cases items with
      | nil =>
          simp only [itemSettings?] at found
          split at found
          case isTrue => cases found
          case isFalse =>
            obtain ⟨all, held⟩ := ih found
            exact ⟨fun pair member => .tail _ (all pair member), held⟩
      | cons entry items =>
          obtain ⟨others, rest, same⟩ := Option.bind_eq_some_iff.mp found
          cases same
          obtain ⟨all, held⟩ := ih rest
          have later (pair : Setting α × Entry) (member : pair ∈ others) :
              pair.1 ∈ setting :: settings := .tail _ (all pair member)
          exact ⟨List.forall_mem_cons.mpr ⟨.head _, later⟩, held.append_left (texts entry)⟩

theorem entrySettings?_spec {settings : List (Setting α)} {entry : Entry}
    {pairs : List (Setting α × Entry)} (found : entrySettings? settings entry = some pairs) :
    (∀ pair ∈ pairs, pair.1 ∈ settings) ∧ (texts pairs).Sublist (texts entry) := by
  cases entry with
  | table origin members =>
      simp only [entrySettings?] at found
      split at found
      case isTrue =>
        obtain ⟨all, held⟩ := memberSettings?_spec found
        rw [Toml.texts_table, held]
        exact ⟨all, .refl _⟩
      case isFalse => cases found
  | array items =>
      rw [Toml.texts_array]
      exact itemSettings?_spec found
  | text value | scalar => cases found

/-! ## Slots -/

/-- A part of a record that may hold a text. -/
structure Slot (α : Type) where
  content : α → Option String
  put : String → α → α

section Exchange

variable (token other : String)

/-- What is read with the text in a slot comes from an entry with the text; and if the text stands
there only once, it can be exchanged. -/
def Exposes (slot : Slot β) (read : Entry → Option β) : Prop :=
  ∀ entry value, read entry = some value → slot.content value = some token →
    token ∈ texts entry ∧ ((texts entry).count token ≤ 1 →
      read (retext (exchange token other) entry) = some (slot.put other value))

/-- A setting fills the slot from its entry. -/
def Fills (slot : Slot α) (setting : Setting α) : Prop :=
  ∀ draft, Exposes token other slot fun entry => setting.store entry draft

/-- A setting leaves the slot as it is. -/
def Leaves (slot : Slot α) (setting : Setting α) : Prop :=
  ∀ entry draft next, setting.store entry draft = some next →
    slot.content next = slot.content draft ∧
      setting.store entry (slot.put other draft) = some (slot.put other next)

variable {token other} {slot : Slot α}

theorem exposes_text? : Exposes token other ⟨some, fun text _ => text⟩ text? := by
  intro entry value read shown
  cases entry with
  | text held =>
      cases read
      cases shown
      refine ⟨.head _, ?_⟩
      intro _
      exact congrArg some (Toml.exchange_token _ other)
  | scalar | array | table => cases read

theorem fills_of_exposes {inner : Slot β} {name : String} {isRequired : Bool}
    {read : Entry → Option β} {set : β → α → α} (exposes : Exposes token other inner read)
    (content : ∀ value draft, slot.content (set value draft) = inner.content value)
    (put : ∀ value draft, set (inner.put other value) draft = slot.put other (set value draft)) :
    Fills token other slot (.of name isRequired read set) := by
  intro draft entry next stored shown
  obtain ⟨value, is, same⟩ := Option.bind_eq_some_iff.mp stored
  cases same
  rw [content] at shown
  obtain ⟨held, exchanged⟩ := exposes entry value is shown
  refine ⟨held, ?_⟩
  intro once
  refine Option.bind_eq_some_iff.mpr ⟨_, exchanged once, ?_⟩
  exact congrArg some (put value draft)

theorem leaves_of {name : String} {isRequired : Bool} {read : Entry → Option β} {set : β → α → α}
    (content : ∀ value draft, slot.content (set value draft) = slot.content draft)
    (put : ∀ value draft, set value (slot.put other draft) = slot.put other (set value draft)) :
    Leaves other slot (.of name isRequired read set) := by
  intro entry draft next stored
  obtain ⟨value, is, same⟩ := Option.bind_eq_some_iff.mp stored
  cases same
  refine ⟨content value draft, Option.bind_eq_some_iff.mpr ⟨value, is, ?_⟩⟩
  exact congrArg some (put value draft)

variable {settings : List (Setting α)} {pairs : List (Setting α × Entry)} {draft record : α}

/-- Entries without the text leave the slot as it is, if it shows the text at the end. -/
theorem storeAll_of_absent
    (treats : ∀ pair ∈ pairs, Fills token other slot pair.1 ∨ Leaves other slot pair.1)
    (stored : storeAll pairs draft = some record) (shown : slot.content record = some token)
    (absent : token ∉ texts pairs) :
    slot.content draft = some token ∧
      storeAll pairs (slot.put other draft) = some (slot.put other record) := by
  induction pairs generalizing draft with
  | nil =>
      cases stored
      exact ⟨shown, rfl⟩
  | cons pair pairs ih =>
      obtain ⟨setting, entry⟩ := pair
      obtain ⟨one, others⟩ := List.forall_mem_cons.mp treats
      obtain ⟨next, first, later⟩ := Option.bind_eq_some_iff.mp stored
      obtain ⟨notHere, notLater⟩ := not_or.mp (mt List.mem_append.mpr absent)
      obtain ⟨kept, goesOn⟩ := ih others later notLater
      rcases one with fills | leaves
      · exact absurd (fills draft entry next first kept).1 notHere
      · obtain ⟨content, put⟩ := leaves entry draft next first
        exact ⟨content ▸ kept, Option.bind_eq_some_iff.mpr ⟨_, put, goesOn⟩⟩

/-- A text that stands once in the entries can be exchanged there. -/
theorem storeAll_exchange
    (treats : ∀ pair ∈ pairs, Fills token other slot pair.1 ∨ Leaves other slot pair.1)
    (stored : storeAll pairs draft = some record) (shown : slot.content record = some token)
    (blank : slot.content draft ≠ some token) :
    token ∈ texts pairs ∧ ((texts pairs).count token ≤ 1 →
      storeAll (retext (exchange token other) pairs) draft = some (slot.put other record)) := by
  refine ⟨?_, ?_⟩
  · by_contra absent
    exact blank (storeAll_of_absent treats stored shown absent).1
  induction pairs generalizing draft with
  | nil =>
      cases stored
      exact absurd shown blank
  | cons pair pairs ih =>
      intro once
      obtain ⟨setting, entry⟩ := pair
      obtain ⟨one, others⟩ := List.forall_mem_cons.mp treats
      obtain ⟨next, first, later⟩ := Option.bind_eq_some_iff.mp stored
      have counts : (texts entry).count token + (texts pairs).count token ≤ 1 := by
        rw [← List.count_append]
        exact once
      by_cases here : slot.content next = some token
      · -- the slot is filled from this entry, and the text does not stand in the others
        rcases one with fills | leaves
        · obtain ⟨held, exchanged⟩ := fills draft entry next first here
          have present := List.count_pos_iff.mpr held
          have absent : token ∉ texts pairs := List.count_eq_zero.mp (by omega)
          have goesOn := (storeAll_of_absent others later shown absent).2
          refine Option.bind_eq_some_iff.mpr ⟨_, exchanged (by omega), ?_⟩
          rw [← goesOn]
          exact congrArg (storeAll · _) (retext_exchange_of_absent other absent)
        · exact absurd ((leaves entry draft next first).1 ▸ here) blank
      · have held : token ∈ texts pairs := by
          by_contra absent
          exact here (storeAll_of_absent others later shown absent).1
        have present := List.count_pos_iff.mpr held
        have absent : token ∉ texts entry := List.count_eq_zero.mp (by omega)
        have same := retext_exchange_of_absent other absent
        refine Option.bind_eq_some_iff.mpr ⟨next, ?_, ih others later here (by omega)⟩
        exact (congrArg (setting.store · draft) same).trans first

/-- **A record is the same with another text in the slot.** -/
theorem exposes_record? {blank : α}
    (treats : ∀ setting ∈ settings, Fills token other slot setting ∨ Leaves other slot setting)
    (empty : slot.content blank ≠ some token) :
    Exposes token other slot (record? settings blank) := by
  intro entry record read shown
  rw [record?_eq] at read
  obtain ⟨pairs, found, stored⟩ := Option.bind_eq_some_iff.mp read
  obtain ⟨all, held⟩ := entrySettings?_spec found
  have treated (pair : Setting α × Entry) (member : pair ∈ pairs) := treats _ (all pair member)
  obtain ⟨met, exchanged⟩ := storeAll_exchange treated stored shown empty
  refine ⟨held.subset met, ?_⟩
  intro once
  rw [record?_eq, entrySettings?_retext, found, Option.map_some, Option.bind_some]
  exact exchanged (Nat.le_trans (held.count_le token) once)

end Exchange
end ResponsesBridge.Settings
