import ResponsesBridge.Proofs.Url.Encoding

/-!
# Authorities

An authority that was read is written without slashes, marks of other parts and blanks, and its host
is never empty where the scheme is special (`addressable_authority`). So the text of an authority
ends where the reader takes it to end.
-/

set_option autoImplicit false

namespace ResponsesBridge.Url

/-- The characters that authorities are written with. -/
def isAuthorityChar (character : Char) : Bool :=
  0x20 < character.toNat && !endsAuthority true character

/-- A text that can be written as an authority. -/
structure Addressable (text : List Char) : Prop where
  filled : text ≠ []
  clear : ∀ character ∈ text, isAuthorityChar character = true

/-! ## Numbers -/

/-- The digits of a number are digits below the base. -/
theorem mem_toDigits {base : Nat} (several : 1 < base) {number : Nat} {digit : Char}
    (member : digit ∈ Nat.toDigits base number) : ∃ value < base, digit = Nat.digitChar value := by
  induction number using Nat.strongRecOn with
  | ind number ih =>
      rw [Nat.toDigits_eq_if several] at member
      split at member
      · exact ⟨number, ‹_›, List.mem_singleton.mp member⟩
      · have positive : 0 < number := by omega
        rcases List.mem_append.mp member with front | last
        · exact ih _ (Nat.div_lt_self positive several) front
        · exact ⟨number % base, Nat.mod_lt _ (by omega), List.mem_singleton.mp last⟩

theorem isAuthorityChar_toDigits {base : Nat} (several : 1 < base) (few : base ≤ 16)
    (number : Nat) :
    ∀ digit ∈ Nat.toDigits base number, isAuthorityChar digit = true := by
  have digits : ∀ value < 16, isAuthorityChar (Nat.digitChar value) = true := by decide
  intro digit member
  obtain ⟨value, small, rfl⟩ := mem_toDigits several member
  exact digits value (by omega)

/-! ## Hosts -/

theorem isAuthorityChar_shortAddressText (address : Nat) :
    ∀ character ∈ shortAddressText address, isAuthorityChar character = true := by
  have digits (number : Nat) : ∀ digit ∈ decimal number, isAuthorityChar digit = true :=
    isAuthorityChar_toDigits (by decide) (by decide) number
  have point : isAuthorityChar '.' = true := by decide
  intro character member
  simp only [shortAddressText, List.mem_append, List.mem_cons] at member
  grind

theorem isAuthorityChar_groupsText (groups : List Nat) :
    ∀ character ∈ groupsText groups, isAuthorityChar character = true := by
  have digits (number : Nat) : ∀ digit ∈ Nat.toDigits 16 number, isAuthorityChar digit = true :=
    isAuthorityChar_toDigits (by decide) (by decide) number
  rw [groupsText]
  induction groups with
  | nil => exact nofun
  | cons group groups ih =>
      cases groups with
      | nil => simpa [List.intercalate_singleton] using digits group
      | cons next groups =>
          rw [List.map_cons, List.map_cons, List.intercalate_cons_cons, List.forall_mem_append,
            List.forall_mem_append]
          exact ⟨⟨digits group, List.forall_mem_singleton.mpr (by decide)⟩, ih⟩

theorem isAuthorityChar_longAddressText (groups : List Nat) :
    ∀ character ∈ longAddressText groups, isAuthorityChar character = true := by
  have colon : isAuthorityChar ':' = true := by decide
  rw [longAddressText]
  dsimp only
  split
  · exact isAuthorityChar_groupsText groups
  · rw [List.forall_mem_append, List.forall_mem_cons, List.forall_mem_cons]
    exact ⟨isAuthorityChar_groupsText _, colon, colon, isAuthorityChar_groupsText _⟩

theorem addressable_shortAddress (address : Nat) :
    Addressable (Host.shortAddress address).toText.toList := by
  rw [Host.toText, String.toList_ofList]
  exact ⟨by simp [shortAddressText], isAuthorityChar_shortAddressText address⟩

theorem addressable_longAddress (groups : List Nat) :
    Addressable (Host.longAddress groups).toText.toList := by
  rw [Host.toText, String.toList_ofList]
  refine ⟨List.cons_ne_nil _ _, ?_⟩
  rw [List.forall_mem_cons, List.forall_mem_append]
  exact ⟨by decide, isAuthorityChar_longAddressText groups,
    List.forall_mem_singleton.mpr (by decide)⟩

theorem isAuthorityChar_of_domain {character : Char}
    (allowed : isForbiddenInDomain character = false) : isAuthorityChar character = true := by
  simp only [isForbiddenInDomain, Bool.or_eq_false_iff, decide_eq_false_iff_not,
    Nat.not_le] at allowed
  obtain ⟨⟨visible, -⟩, marks⟩ := allowed
  have others : character ≠ '/' ∧ character ≠ '\\' ∧ character ≠ '?' ∧ character ≠ '#' := by
    refine ⟨?_, ?_, ?_, ?_⟩ <;> rintro rfl <;> exact absurd marks (by decide)
  simp [isAuthorityChar, endsAuthority, isSlash, visible, others]

/-- A domain holds no forbidden character. -/
theorem allowed_domain {text domain : List Char} (reads : domain? text = some domain) :
    ∀ character ∈ domain, isForbiddenInDomain character = false := by
  simp only [domain?, Option.bind_eq_bind, Option.bind_eq_some_iff] at reads
  obtain ⟨folded, -, labels, -, result⟩ := reads
  split at result
  · cases result
  · split at result
    · cases result
    · rename_i allowed
      cases result
      simpa using allowed

theorem addressable_bracketed {text : List Char} {host : Host}
    (reads : Host.bracketed? text = some host) : Addressable host.toText.toList := by
  rw [Host.bracketed?] at reads
  split at reads
  · obtain ⟨groups, -, result⟩ := Option.bind_eq_some_iff.mp reads
    cases result
    exact addressable_longAddress groups
  · cases reads

/-- The host of a special URL. -/
theorem addressable_special {text : List Char} {host : Host}
    (reads : Host.special? text = some host) : Addressable host.toText.toList := by
  rw [Host.special?.eq_def] at reads
  split at reads
  · exact addressable_bracketed reads
  · simp only [Option.bind_eq_bind, Option.bind_eq_some_iff] at reads
    obtain ⟨decoded, -, domain, named, result⟩ := reads
    split at result
    · cases result
    · rename_i filled
      split at result
      · obtain ⟨address, -, result⟩ := Option.bind_eq_some_iff.mp result
        cases result
        exact addressable_shortAddress address
      · cases result
        rw [Host.toText, String.toList_ofList]
        refine ⟨?_, fun character member => ?_⟩
        · simpa using filled
        · exact isAuthorityChar_of_domain (allowed_domain named character member)

/-! ## Whole authorities -/

theorem isAuthorityChar_of_userInfo {character : Char} (spared : inUserInfo character = false) :
    isAuthorityChar character = true := by
  have path : inPath character = false := (Bool.or_eq_false_iff.mp spared).1
  have visible : 0x20 < character.toNat := visible_of_inFragment (inFragment_of_inPath path)
  have others : character ≠ '/' ∧ character ≠ '\\' ∧ character ≠ '?' ∧ character ≠ '#' := by
    refine ⟨?_, ?_, ?_, ?_⟩ <;> rintro rfl <;> exact absurd spared (by decide)
  simp [isAuthorityChar, endsAuthority, isSlash, visible, others]

/-- What is written of an encoded user or password. -/
theorem isAuthorityChar_encoded (text : List Char) :
    ∀ character ∈ (String.ofList (percentEncode inUserInfo text)).toList,
      isAuthorityChar character = true := by
  rw [String.toList_ofList]
  intro character member
  exact isAuthorityChar_of_userInfo
    (percentEncode_clear sparesEscapes_inUserInfo text character member)

/-- An authority whose parts can be written as parts of an authority. -/
structure Authority.Written (authority : Authority) : Prop where
  user : ∀ character ∈ authority.user.toList, isAuthorityChar character = true
  password : ∀ character ∈ authority.password.toList, isAuthorityChar character = true
  host : Addressable authority.host.toText.toList

theorem Authority.Written.userText {authority : Authority} (written : authority.Written) :
    ∀ character ∈ authority.userText.toList, isAuthorityChar character = true := by
  have colon : isAuthorityChar ':' = true := by decide
  have sign : isAuthorityChar '@' = true := by decide
  rw [Authority.userText]
  split
  · simp
  · split
    · simpa [or_imp, forall_and, sign] using written.user
    · simpa [or_imp, forall_and, sign, colon] using ⟨written.user, written.password⟩

/-- The text of an authority behind its slashes. -/
def Authority.letters (authority : Authority) : List Char := authority.toText.toList.drop 2

/-- An authority is written as slashes, the user, the host and the port. -/
theorem Authority.toText_eq (authority : Authority) :
    ∃ portText, authority.toText = "//" ++ authority.userText ++ authority.host.toText ++ portText ∧
      ∀ character ∈ portText.toList, isAuthorityChar character = true := by
  cases given : authority.port with
  | none => exact ⟨"", by rw [Authority.toText, given], by simp⟩
  | some port =>
      refine ⟨":" ++ toString port, by rw [Authority.toText, given], ?_⟩
      have text : (":" ++ toString port).toList = ':' :: Nat.toDigits 10 port := by
        rw [Nat.toString_eq_ofList_toDigits]
        simp
      rw [text, List.forall_mem_cons]
      exact ⟨by decide, isAuthorityChar_toDigits (by decide) (by decide) port⟩

theorem Authority.toList_toText (authority : Authority) :
    authority.toText.toList = '/' :: '/' :: authority.letters := by
  obtain ⟨portText, text, -⟩ := authority.toText_eq
  rw [letters, text]
  simp

theorem Authority.Written.addressable {authority : Authority} (written : authority.Written) :
    Addressable authority.letters := by
  obtain ⟨portText, text, port⟩ := authority.toText_eq
  have parts : authority.letters =
      authority.userText.toList ++ authority.host.toText.toList ++ portText.toList := by
    rw [letters, text]
    simp
  have host := written.host
  rw [parts]
  refine ⟨by simp [host.filled], ?_⟩
  rw [List.forall_mem_append, List.forall_mem_append]
  exact ⟨⟨written.userText, host.clear⟩, port⟩

/-- **What is read as an authority of the web** is written as one. -/
theorem written_authority {scheme : String} {text : List Char} {isLast : Bool}
    {authority : Authority} (special : isSpecial scheme)
    (reads : authority? scheme text isLast = some authority) : authority.Written := by
  simp only [authority?, host?, special, if_true] at reads
  split at reads
  · cases reads
  · simp only [Option.bind_eq_bind, Option.bind_eq_some_iff] at reads
    obtain ⟨host, named, port, -, result⟩ := reads
    split at result
    · cases result
    · cases result
      exact ⟨isAuthorityChar_encoded _, isAuthorityChar_encoded _, addressable_special named⟩

end ResponsesBridge.Url
