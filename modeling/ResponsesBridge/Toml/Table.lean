import ResponsesBridge.Json.Value

/-!
# TOML tables

A document is a table of named entries. Tables come about in four ways: a header opens one, a
longer header passes through one on its way, a dotted key passes through one, and braces write
one out. Nothing may be defined twice, and how a table came about decides what may still be added
to it: a table that a header opened or that is written in braces is complete, one that was only
passed through may still be opened or extended.
-/

set_option autoImplicit false

namespace ResponsesBridge.Toml

/-- How a table came about. -/
inductive Origin
  | opened
  | passed
  | dotted
  | braces
deriving DecidableEq, Repr

/-- An entry of a table. Numbers, truth values and dates are not told apart. -/
inductive Entry
  | text (value : String)
  | scalar
  | array (items : List Entry)
  | table (origin : Origin) (members : List (String × Entry))

instance : Inhabited Entry := ⟨.scalar⟩

/-- The entries of a table under their names. -/
abbrev Table := List (String × Entry)

/-- Whether a key that goes on may add something to a table of this origin. A key that only passes
through may also pass a table that a header has passed. -/
def Origin.isOpenTo (origin : Origin) (passesOn : Bool) : Bool :=
  match origin with
  | .dotted => true
  | .passed => passesOn
  | .opened => false
  | .braces => false

/-- A table with an entry under a dotted key: the steps before the last dot, and the name behind
it. -/
def assign? : List String → String → Entry → Table → Option Table
  | [], name, entry, table =>
    match Json.lookup name table with
    | some _ => none
    | none => some (table ++ [(name, entry)])
  | step :: steps, name, entry, table =>
    match Json.lookup step table with
    | none => do
      let inner ← assign? steps name entry []
      return Json.put step (.table .dotted inner) table
    | some (.table origin inner) =>
      if origin.isOpenTo (!steps.isEmpty) then do
        let inner ← assign? steps name entry inner
        return Json.put step (.table origin inner) table
      else none
    | some _ => none

/-- A table in which a header has opened the table at its last name; `fill` adds the entries that
follow the header. -/
def openTable? (fill : Table → Option Table) : List String → String → Table → Option Table
  | [], name, table =>
    match Json.lookup name table with
    | none => do return Json.put name (.table .opened (← fill [])) table
    | some (.table .passed inner) => do
      return Json.put name (.table .opened (← fill inner)) table
    | some _ => none
  | step :: steps, name, table =>
    match Json.lookup step table with
    | none => do
      let inner ← openTable? fill steps name []
      return Json.put step (.table .passed inner) table
    | some (.table .braces _) => none
    | some (.table origin inner) => do
      let inner ← openTable? fill steps name inner
      return Json.put step (.table origin inner) table
    | some _ => none

/-- A key with its dots: the steps before the last dot, and the name behind it. -/
structure Key where
  steps : List String
  name : String
deriving DecidableEq, Repr

/-- A table with entries under their keys. -/
def assignAll? : List (Key × Entry) → Table → Option Table
  | [], table => some table
  | (key, entry) :: entries, table => do
    let table ← assign? key.steps key.name entry table
    assignAll? entries table

/-- A section of a document: its header, and the entries behind it. -/
structure Section where
  header : Key
  entries : List (Key × Entry)

/-- A table with the sections of a document. -/
def openAll? : List Section → Table → Option Table
  | [], table => some table
  | part :: parts, table => do
    let table ← openTable? (assignAll? part.entries) part.header.steps part.header.name table
    openAll? parts table

end ResponsesBridge.Toml
