/-!
# Dictionaries

A dictionary maps names to values and has no order of its own: its entries are kept in
ascending order of their names, so two dictionaries with the same entries are equal. Names are
ordered by code points.
-/

set_option autoImplicit false

namespace ResponsesBridge

/-- Entries in strictly ascending order of their names. -/
def Ascending {α : Type} : List (String × α) → Prop
  | [] => True
  | entry :: entries => (∀ later ∈ entries, entry.1 < later.1) ∧ Ascending entries

/-- A finite map from names to values. -/
structure Dictionary (α : Type) where
  entries : List (String × α)
  ascending : Ascending entries

namespace Dictionary

variable {α : Type}

/-- The entries with a value put under a name, at the place of that name. -/
def insertEntry (name : String) (value : α) : List (String × α) → List (String × α)
  | [] => [(name, value)]
  | (other, old) :: entries =>
    if other < name then (other, old) :: insertEntry name value entries
    else if other = name then (name, value) :: entries
    else (name, value) :: (other, old) :: entries

theorem mem_insertEntry {name : String} {value : α} {entry : String × α}
    {entries : List (String × α)} (member : entry ∈ insertEntry name value entries) :
    entry = (name, value) ∨ entry ∈ entries := by
  induction entries with
  | nil => simpa [insertEntry] using member
  | cons first entries ih =>
      obtain ⟨other, old⟩ := first
      simp only [insertEntry] at member
      split at member
      · rcases List.mem_cons.mp member with same | later
        · exact .inr (by simp [same])
        · rcases ih later with new | old
          · exact .inl new
          · exact .inr (List.mem_cons_of_mem _ old)
      · split at member
        · rcases List.mem_cons.mp member with same | later
          · exact .inl same
          · exact .inr (List.mem_cons_of_mem _ later)
        · rcases List.mem_cons.mp member with same | later
          · exact .inl same
          · exact .inr later

/-- Inserting keeps the entries in order. -/
theorem ascending_insertEntry {name : String} {value : α} {entries : List (String × α)}
    (ordered : Ascending entries) : Ascending (insertEntry name value entries) := by
  induction entries with
  | nil => simp [insertEntry, Ascending]
  | cons first entries ih =>
      obtain ⟨other, old⟩ := first
      simp only [insertEntry]
      split
      · rename_i smaller
        refine ⟨fun later member => ?_, ih ordered.2⟩
        rcases mem_insertEntry member with rfl | old
        · exact smaller
        · exact ordered.1 later old
      · split
        · rename_i same
          subst same
          exact ordered
        · rename_i notSmaller different
          have greater : name < other :=
            Std.lt_of_le_of_ne (String.not_lt.mp notSmaller) (fun same => different same.symm)
          refine ⟨fun later member => ?_, ordered⟩
          rcases List.mem_cons.mp member with rfl | old
          · exact greater
          · exact String.lt_trans greater (ordered.1 later old)

/-- The dictionary without entries. -/
def empty : Dictionary α := ⟨[], trivial⟩

instance : Inhabited (Dictionary α) := ⟨empty⟩

/-- The dictionary with a value put under a name in place of any earlier one. -/
def insert (name : String) (value : α) (dictionary : Dictionary α) : Dictionary α :=
  ⟨insertEntry name value dictionary.entries, ascending_insertEntry dictionary.ascending⟩

/-- The dictionary of entries of which a later one replaces an earlier one of the same name. -/
def ofList (entries : List (String × α)) : Dictionary α :=
  entries.foldl (fun dictionary entry => dictionary.insert entry.1 entry.2) empty

/-- Whether a dictionary has no entries. -/
def isEmpty (dictionary : Dictionary α) : Bool :=
  dictionary.entries.isEmpty

/-- The number of names. -/
def size (dictionary : Dictionary α) : Nat :=
  dictionary.entries.length

/-- The value under a name. -/
def find? (name : String) (dictionary : Dictionary α) : Option α :=
  (dictionary.entries.find? fun entry => entry.1 == name).map Prod.snd

/-- Leaving entries out keeps the others in order. -/
theorem ascending_filter {keep : String × α → Bool} {entries : List (String × α)}
    (ordered : Ascending entries) : Ascending (entries.filter keep) := by
  induction entries with
  | nil => trivial
  | cons first entries ih =>
      simp only [List.filter_cons]
      split
      · exact ⟨fun later member => ordered.1 later (List.mem_filter.mp member).1, ih ordered.2⟩
      · exact ih ordered.2

/-- The dictionary without a name. -/
def erase (name : String) (dictionary : Dictionary α) : Dictionary α :=
  ⟨dictionary.entries.filter fun entry => entry.1 != name,
    ascending_filter dictionary.ascending⟩

/-- What was put under a name is found under it. -/
theorem find?_insert_self (name : String) (value : α) (dictionary : Dictionary α) :
    (dictionary.insert name value).find? name = some value := by
  obtain ⟨entries, ordered⟩ := dictionary
  simp only [find?, insert]
  clear ordered
  induction entries with
  | nil => simp [insertEntry]
  | cons first entries ih =>
      obtain ⟨other, old⟩ := first
      simp only [insertEntry]
      split
      · rename_i smaller
        have different : other ≠ name := fun same => String.lt_irrefl _ (same ▸ smaller)
        simpa [different] using ih
      · split <;> simp

/-- Under an erased name nothing is found. -/
theorem find?_erase_self (name : String) (dictionary : Dictionary α) :
    (dictionary.erase name).find? name = none := by
  simp only [find?, erase, Option.map_eq_none_iff, List.find?_eq_none]
  intro entry member
  simpa using (List.mem_filter.mp member).2

/-- Inserting changes what is found under one name only. -/
theorem find?_insert_of_ne {name other : String} (different : other ≠ name) (value : α)
    (dictionary : Dictionary α) :
    (dictionary.insert name value).find? other = dictionary.find? other := by
  obtain ⟨entries, ordered⟩ := dictionary
  simp only [find?, insert]
  clear ordered
  induction entries with
  | nil => simp [insertEntry, different.symm]
  | cons first entries ih =>
      obtain ⟨key, old⟩ := first
      simp only [insertEntry]
      split
      · simp only [List.find?_cons]
        split
        · rfl
        · exact ih
      · split
        · rename_i same
          subst same
          simp [different.symm]
        · simp [different.symm]

/-- Erasing changes what is found under one name only. -/
theorem find?_erase_of_ne {name other : String} (different : other ≠ name)
    (dictionary : Dictionary α) :
    (dictionary.erase name).find? other = dictionary.find? other := by
  simp only [find?, erase, List.find?_filter]
  congr 2
  funext entry
  by_cases same : entry.1 = other
  · simp [same, different]
  · simp [same]

/-- A name behind all others goes to the end. -/
theorem insertEntry_of_lt {name : String} {value : α} {entries : List (String × α)}
    (behind : ∀ entry ∈ entries, entry.1 < name) :
    insertEntry name value entries = entries ++ [(name, value)] := by
  induction entries with
  | nil => rfl
  | cons first entries ih =>
      obtain ⟨here, later⟩ := List.forall_mem_cons.mp behind
      rw [insertEntry, if_pos here, ih later, List.cons_append]

theorem lt_of_ascending_append {first second : List (String × α)}
    (ordered : Ascending (first ++ second)) {entry later : String × α} (earlier : entry ∈ first)
    (member : later ∈ second) : entry.1 < later.1 := by
  induction first with
  | nil => cases earlier
  | cons head first ih =>
      rcases List.mem_cons.mp earlier with rfl | inside
      · exact ordered.1 later (List.mem_append_right _ member)
      · exact ih ordered.2 inside

/-- A dictionary is made of its entries. -/
theorem ofList_entries (dictionary : Dictionary α) : ofList dictionary.entries = dictionary := by
  have behind : ∀ (entries : List (String × α)) (start : Dictionary α),
      Ascending (start.entries ++ entries) →
        (entries.foldl (fun dictionary entry => dictionary.insert entry.1 entry.2) start).entries =
          start.entries ++ entries := by
    intro entries
    induction entries with
    | nil => intro start _; exact (List.append_nil _).symm
    | cons entry entries ih =>
        intro start ordered
        have grown : (start.insert entry.1 entry.2).entries = start.entries ++ [entry] :=
          insertEntry_of_lt fun earlier member =>
            lt_of_ascending_append ordered member (List.mem_cons_self ..)
        have shifted : start.entries ++ entry :: entries = (start.entries ++ [entry]) ++ entries := by
          simp
        rw [List.foldl_cons, ih _ (by rw [grown, ← shifted]; exact ordered), grown, shifted]
  obtain ⟨entries, ordered⟩ := dictionary
  have same := behind entries empty ordered
  simp only [empty, List.nil_append] at same
  simp only [ofList, empty]
  generalize entries.foldl _ _ = made at same
  subst same
  rfl

/-- The names under which something is found, in order. -/
def names (dictionary : Dictionary α) : List String :=
  dictionary.entries.map Prod.fst

theorem length_names (dictionary : Dictionary α) : dictionary.names.length = dictionary.size :=
  List.length_map ..

theorem mem_names_iff {name : String} {dictionary : Dictionary α} :
    name ∈ dictionary.names ↔ dictionary.find? name ≠ none := by
  simp [names, find?]

theorem nodup_names (dictionary : Dictionary α) : dictionary.names.Nodup := by
  obtain ⟨entries, ordered⟩ := dictionary
  simp only [names]
  induction entries with
  | nil => exact List.nodup_nil
  | cons first entries ih =>
      refine List.nodup_cons.mpr ⟨fun repeated => ?_, ih ordered.2⟩
      obtain ⟨later, member, same⟩ := List.mem_map.mp repeated
      exact String.lt_irrefl _ (same ▸ ordered.1 later member)

end Dictionary

end ResponsesBridge
