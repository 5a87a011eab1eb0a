import ResponsesBridge.Number.Decimal
import ResponsesBridge.Text.Hex

/-!
# JSON values

A value keeps the members of an object in the order in which their names first appeared. Numbers
are integers or floating-point numbers, and the two stay apart: `1` and `1.0` are different
values. Text is read as 64-bit numbers only; a 32-bit number is there to be written, since its
shortest digits are others than those of the same number in 64 bits. `Value.write` gives the
compact text of a value.
-/

set_option autoImplicit false

namespace ResponsesBridge.Json

/-- A JSON number. -/
inductive Number
  | integer (value : Int)
  | real (value : Double)
  | single (value : Single)
deriving DecidableEq, Repr

/-- A JSON value; `object` lists its members in order. -/
inductive Value
  | null
  | boolean (value : Bool)
  | number (value : Number)
  | text (value : String)
  | array (items : List Value)
  | object (members : List (String × Value))

instance : Inhabited Value := ⟨.null⟩

/-- Members of an object, in order. -/
abbrev Fields := List (String × Value)

/-! ## Association lists in order of first appearance -/

/-- The entries with the value under `name` replaced where the name stands, or added at the end. -/
def put {α : Type} (name : String) (value : α) : List (String × α) → List (String × α)
  | [] => [(name, value)]
  | (other, old) :: entries =>
    if other = name then (name, value) :: entries else (other, old) :: put name value entries

/-- Entries with pairwise different names, from entries in which a later one replaces an earlier
one of the same name. -/
def settle {α : Type} (entries : List (String × α)) : List (String × α) :=
  entries.foldl (fun settled entry => put entry.1 entry.2 settled) []

/-- The value under a name. -/
def lookup {α : Type} (name : String) (entries : List (String × α)) : Option α :=
  (entries.find? fun entry => entry.1 == name).map Prod.snd

/-- A new name goes to the end. -/
theorem put_of_not_mem {α : Type} {name : String} {value : α} {entries : List (String × α)}
    (fresh : name ∉ entries.map Prod.fst) :
    put name value entries = entries ++ [(name, value)] := by
  induction entries with
  | nil => rfl
  | cons entry entries ih =>
      obtain ⟨other, old⟩ := entry
      simp only [List.map_cons, List.mem_cons, not_or] at fresh
      simp [put, Ne.symm fresh.1, ih fresh.2]

/-! ## Compact text -/

/-- A character inside a quoted text: the quote, the backslash and the control characters below
the space are escaped, all else stands for itself. -/
def escape (character : Char) : List Char :=
  match character with
  | '"' => ['\\', '"']
  | '\\' => ['\\', '\\']
  | '\n' => ['\\', 'n']
  | '\t' => ['\\', 't']
  | '\r' => ['\\', 'r']
  | '\x08' => ['\\', 'b']
  | '\x0c' => ['\\', 'f']
  | _ =>
    if character.toNat < 0x20 then
      ['\\', 'u', '0', '0', Text.hexDigit (character.toNat / 16),
        Text.hexDigit (character.toNat % 16)]
    else [character]

/-- The inside of a quoted text. -/
def escapeAll : List Char → List Char
  | [] => []
  | character :: rest => escape character ++ escapeAll rest

/-- A quoted text. -/
def quoted (text : String) : List Char :=
  '"' :: (escapeAll text.toList ++ ['"'])

/-- A number; infinities have no JSON form and are written as `null`. -/
def Number.write : Number → List Char
  | .integer value =>
    if value < 0 then '-' :: Decimal.digitsOf value.natAbs else Decimal.digitsOf value.natAbs
  | .real value => if value.IsFinite then value.digits .double else ['n', 'u', 'l', 'l']
  | .single value => if value.IsFinite then value.digits .single else ['n', 'u', 'l', 'l']

mutual

/-- The compact text of a value. -/
def Value.write : Value → List Char
  | .null => ['n', 'u', 'l', 'l']
  | .boolean true => ['t', 'r', 'u', 'e']
  | .boolean false => ['f', 'a', 'l', 's', 'e']
  | .number value => value.write
  | .text value => quoted value
  | .array items => '[' :: writeItems items
  | .object members => '{' :: writeMembers members
termination_by structural value => value

/-- The items of an array and its closing bracket. -/
def writeItems : List Value → List Char
  | [] => [']']
  | item :: items => item.write ++ writeMoreItems items
termination_by structural items => items

/-- The items after the first, each with a comma before it. -/
def writeMoreItems : List Value → List Char
  | [] => [']']
  | item :: items => ',' :: (item.write ++ writeMoreItems items)
termination_by structural items => items

/-- The members of an object and its closing brace. -/
def writeMembers : List (String × Value) → List Char
  | [] => ['}']
  | (name, value) :: members => quoted name ++ ':' :: (value.write ++ writeMoreMembers members)
termination_by structural members => members

/-- The members after the first, each with a comma before it. -/
def writeMoreMembers : List (String × Value) → List Char
  | [] => ['}']
  | (name, value) :: members =>
    ',' :: (quoted name ++ ':' :: (value.write ++ writeMoreMembers members))
termination_by structural members => members

end

/-- The compact text of a value, as a string. -/
def Value.toText (value : Value) : String :=
  String.ofList value.write

end ResponsesBridge.Json
