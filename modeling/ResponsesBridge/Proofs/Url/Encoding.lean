import ResponsesBridge.Url.Read
import Mathlib.Data.List.Infix

/-!
# Encoded texts

Encoding leaves no character of its set behind, since the characters of an encoded octet are in no
set of a part that can hold a percent sign (`percentEncode_clear`). So an encoded text stays the
same when it is encoded again (`percentEncode_of_clear`).

A segment of a path must not become dots by encoding, as dots are resolved. It does not: the octet
of a point is never written as an escape, because no set holds the point and every octet of a
character beyond ASCII is at least `0x80` (`isDots_of_percentEncode`).
-/

set_option autoImplicit false

namespace ResponsesBridge.Url

/-- A text without characters of a set. -/
theorem clear_of_all {test : Char → Bool} {text : List Char}
    (all : (text.all fun character => !test character) = true) :
    ∀ character ∈ text, test character = false := by
  simpa using all

/-- The characters that octets are written with. -/
def escapeChars : List Char := '%' :: (List.range 16).map Text.upperHexDigit

/-- A set without the characters that octets are written with. -/
def SparesEscapes (encoded : Char → Bool) : Prop :=
  ∀ character ∈ escapeChars, encoded character = false

instance (encoded : Char → Bool) : Decidable (SparesEscapes encoded) :=
  List.decidableBAll (fun character => encoded character = false) escapeChars

theorem sparesEscapes_inPath : SparesEscapes inPath := by decide

theorem sparesEscapes_inSpecialQuery : SparesEscapes inSpecialQuery := by decide

theorem sparesEscapes_inFragment : SparesEscapes inFragment := by decide

theorem sparesEscapes_inUserInfo : SparesEscapes inUserInfo := by decide

theorem mem_percentOctet {character : Char} {octet : UInt8}
    (member : character ∈ percentOctet octet) : character ∈ escapeChars := by
  have bound := octet.toNat_lt
  have digit (value : Nat) (small : value < 16) : Text.upperHexDigit value ∈ escapeChars :=
    List.mem_cons_of_mem _ (List.mem_map_of_mem (List.mem_range.mpr small))
  simp only [percentOctet, List.mem_cons, List.not_mem_nil, or_false] at member
  rcases member with rfl | rfl | rfl
  · exact List.mem_cons_self
  · exact digit _ (by omega)
  · exact digit _ (by omega)

/-- What stands in an encoded text: characters of octets, and characters of the text. -/
theorem mem_percentEncode {encoded : Char → Bool} {text : List Char} {character : Char}
    (member : character ∈ percentEncode encoded text) :
    character ∈ escapeChars ∨ (character ∈ text ∧ encoded character = false) := by
  obtain ⟨origin, here, written⟩ := List.mem_flatMap.mp member
  split at written
  · obtain ⟨octet, -, digit⟩ := List.mem_flatMap.mp written
    exact .inl (mem_percentOctet digit)
  · obtain rfl := List.mem_singleton.mp written
    exact .inr ⟨here, by simpa using ‹¬ encoded character = true›⟩

/-- Encoding leaves nothing to encode. -/
theorem percentEncode_clear {encoded : Char → Bool} (spares : SparesEscapes encoded)
    (text : List Char) : ∀ character ∈ percentEncode encoded text, encoded character = false := by
  intro character member
  rcases mem_percentEncode member with escape | ⟨-, clear⟩
  · exact spares character escape
  · exact clear

/-- Where there is nothing to encode, the text stays as it is. -/
theorem percentEncode_of_clear {encoded : Char → Bool} {text : List Char}
    (clear : ∀ character ∈ text, encoded character = false) :
    percentEncode encoded text = text := by
  induction text with
  | nil => rfl
  | cons character text ih =>
      have here := clear character List.mem_cons_self
      have later := ih fun other member => clear other (List.mem_cons_of_mem _ member)
      simpa [percentEncode, here] using later

theorem percentEncode_append (encoded : Char → Bool) (first second : List Char) :
    percentEncode encoded (first ++ second) =
      percentEncode encoded first ++ percentEncode encoded second :=
  List.flatMap_append

/-- What stands in every part is visible, but for the space. -/
theorem visible_of_inEveryPart {character : Char} (spared : inEveryPart character = false)
    (blank : character ≠ ' ') : 0x20 < character.toNat := by
  have visible : 0x20 ≤ character.toNat := by
    simp only [inEveryPart, Bool.or_eq_false_iff, decide_eq_false_iff_not, Nat.not_lt] at spared
    exact spared.1
  have other : character.toNat ≠ 0x20 := fun same => blank (Char.toNat_inj.mp same)
  omega

theorem visible_of_inFragment {character : Char} (spared : inFragment character = false) :
    0x20 < character.toNat := by
  refine visible_of_inEveryPart (Bool.or_eq_false_iff.mp spared).1 ?_
  rintro rfl
  exact absurd spared (by decide)

theorem visible_of_inSpecialQuery {character : Char} (spared : inSpecialQuery character = false) :
    0x20 < character.toNat := by
  have query : inQuery character = false := (Bool.or_eq_false_iff.mp spared).1
  refine visible_of_inEveryPart (Bool.or_eq_false_iff.mp query).1 ?_
  rintro rfl
  exact absurd spared (by decide)

theorem inFragment_of_inPath {character : Char} (spared : inPath character = false) :
    inFragment character = false :=
  (Bool.or_eq_false_iff.mp spared).1

/-! ## Octets of characters -/

/-- What the loop behind `ByteArray.toList` adds to the octets it has passed. -/
theorem toList_loop (octets : ByteArray) (position : Nat) (passed : List UInt8) :
    ByteArray.toList.loop octets position passed =
      passed.reverse ++ octets.data.toList.drop position := by
  by_cases inside : position < octets.size
  · have here : octets.data.toList.drop position =
        octets.get! position :: octets.data.toList.drop (position + 1) := by
      have bound : position < octets.data.toList.length := by simpa using inside
      rw [List.drop_eq_getElem_cons bound]
      simp [ByteArray.get!, getElem!_pos, inside]
    rw [ByteArray.toList.loop, if_pos inside, toList_loop octets (position + 1), here]
    simp
  · have ended : octets.data.toList.length ≤ position := by simpa using inside
    rw [ByteArray.toList.loop, if_neg inside, List.drop_eq_nil_of_le ended, List.append_nil]
termination_by octets.size - position

theorem encodeChar_eq (character : Char) :
    Text.Utf8.encodeChar character = String.utf8EncodeChar character := by
  have octets : (String.singleton character).toUTF8 =
      (String.utf8EncodeChar character).toByteArray := by
    simp [String.toUTF8, List.utf8Encode_singleton]
  rw [Text.Utf8.encodeChar, octets, ByteArray.toList, toList_loop]
  simp

/-- The octets of a character begin with that of a point only if it is the point. -/
theorem eq_point_of_encodeChar {character : Char} {octet : UInt8} {octets : List UInt8}
    (written : Text.Utf8.encodeChar character = octet :: octets) (value : octet.toNat = 0x2E) :
    character = '.' := by
  rw [encodeChar_eq, String.utf8EncodeChar] at written
  split at written
  · obtain ⟨rfl, -⟩ := List.cons.inj written
    have point : character.val.toNat = 0x2E := by
      rw [UInt8.toNat_ofNat'] at value
      omega
    exact Char.ext (UInt32.toNat_inj.mp point)
  -- Behind ASCII the first octet is at least 0xC0.
  all_goals
    exfalso
    split at written <;> (try split at written) <;>
    · obtain ⟨rfl, -⟩ := List.cons.inj written
      rw [UInt8.toNat_ofNat'] at value
      omega

/-- The two digits of an octet are those of a point only if it is the octet of a point. -/
theorem percentOctet_point {octet : UInt8} {high low : Char}
    (written : percentOctet octet = ['%', high, low]) (two : high.toLower = '2')
    (letter : low.toLower = 'e') : octet.toNat = 0x2E := by
  have bound := octet.toNat_lt
  have digits : ∀ value < 16, ((Text.upperHexDigit value).toLower = '2' → value = 2) ∧
      ((Text.upperHexDigit value).toLower = 'e' → value = 14) := by decide
  simp only [percentOctet, List.cons.injEq, true_and, and_true] at written
  obtain ⟨rfl, rfl⟩ := written
  have upper := (digits (octet.toNat / 16) (by omega)).1 two
  have lower := (digits (octet.toNat % 16) (by omega)).2 letter
  omega

/-! ## Dots -/

/-- Whether every percent sign of a text begins the octet of a point. -/
def EscapesPoints (text : List Char) : Prop :=
  ∀ before high low behind, text = before ++ '%' :: high :: low :: behind →
    high.toLower = '2' ∧ low.toLower = 'e'

/-- Nothing was encoded in a text whose encoded form escapes points only. -/
theorem percentEncode_of_escapesPoints {encoded : Char → Bool} (spared : encoded '.' = false)
    {text : List Char} (points : EscapesPoints (percentEncode encoded text)) :
    percentEncode encoded text = text := by
  apply percentEncode_of_clear
  intro character member
  rw [Bool.eq_false_iff]
  intro set
  -- The first octet of an encoded character would have to be that of a point.
  obtain ⟨before, behind, rfl⟩ := List.append_of_mem member
  cases written : Text.Utf8.encodeChar character with
  | nil =>
      rw [encodeChar_eq] at written
      exact String.utf8EncodeChar_ne_nil written
  | cons octet octets =>
      have whole : percentEncode encoded (before ++ character :: behind) =
          percentEncode encoded before ++ '%' :: Text.upperHexDigit (octet.toNat / 16) ::
            Text.upperHexDigit (octet.toNat % 16) ::
              (octets.flatMap percentOctet ++ percentEncode encoded behind) := by
        rw [percentEncode_append]
        simp [percentEncode, set, written, percentOctet]
      obtain ⟨two, letter⟩ := points _ _ _ _ whole
      have point := eq_point_of_encodeChar written (percentOctet_point rfl two letter)
      rw [point, spared] at set
      exact Bool.false_ne_true set

/-- Whether a segment is dots, for the place itself or for the place above. -/
def isDots (segment : List Char) : Bool := isSingleDot segment || isDoubleDot segment

/-- The forms of dots. -/
def dotForms : List (List Char) :=
  [['.'], ['%', '2', 'e'], ['.', '.'], ['.', '%', '2', 'e'], ['%', '2', 'e', '.'],
    ['%', '2', 'e', '%', '2', 'e']]

theorem isDots_eq (segment : List Char) :
    isDots segment = dotForms.contains (segment.map Char.toLower) := by
  simp [isDots, isSingleDot, isDoubleDot, dotForms, Bool.or_assoc]

theorem escapesPoints_of_isDots {segment : List Char} (dots : isDots segment) :
    EscapesPoints segment := by
  rintro before high low behind rfl
  have forms : ∀ form ∈ dotForms, ∀ tail ∈ form.tails, tail.head? = some '%' →
      (tail.drop 1).take 2 = ['2', 'e'] := by decide
  rw [isDots_eq, List.contains_iff_mem] at dots
  have escape : '%' :: high.toLower :: low.toLower :: behind.map Char.toLower ∈
      ((before ++ '%' :: high :: low :: behind).map Char.toLower).tails := by
    rw [List.mem_tails, List.map_append]
    exact List.suffix_append _ _
  simpa using forms _ dots _ escape rfl

/-- **Encoding a segment makes no dots.** -/
theorem isDots_of_percentEncode {segment : List Char}
    (dots : isDots (percentEncode inPath segment)) : isDots segment := by
  rwa [percentEncode_of_escapesPoints rfl (escapesPoints_of_isDots dots)] at dots

end ResponsesBridge.Url
