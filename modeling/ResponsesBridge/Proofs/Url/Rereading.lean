import ResponsesBridge.Proofs.Url.Authorities
import ResponsesBridge.Proofs.Url.Paths

/-!
# Texts of addresses

The reader puts the parts of an address of the web into their written form (`written_ofText?`). The
text of such parts is cut at the same places again, and all of them but the authority are read as
they are (`ofText?_toText`). The host of an authority is read anew: whether a domain in its written
form is read as itself is a matter of the tables of characters, and nothing here depends on it.
-/

set_option autoImplicit false

namespace ResponsesBridge.Url

/-- An address of the web whose parts are in their written form. -/
structure Written (url : Url) : Prop where
  scheme : IsWeb url.scheme
  authority : ∃ authority, url.authority = some authority ∧ authority.Written
  path : ∃ names, url.path = .segments names ∧ SettledNames names
  query : ∀ query ∈ url.query, ∀ character ∈ query.toList, inSpecialQuery character = false
  fragment : ∀ fragment ∈ url.fragment, ∀ character ∈ fragment.toList,
    inFragment character = false

/-! ## Reading -/

theorem clear_encodedText {encoded : Char → Bool} (spares : SparesEscapes encoded)
    {text : Option (List Char)} :
    ∀ part ∈ text.map (encodedText encoded), ∀ character ∈ part.toList,
      encoded character = false := by
  intro part given
  obtain ⟨letters, -, rfl⟩ := Option.map_eq_some_iff.mp given
  rw [encodedText, String.toList_ofList]
  exact percentEncode_clear spares letters

theorem parts?_of_web {scheme : String} (web : IsWeb scheme) (text : List Char) (isLast : Bool) :
    parts? scheme text isLast = authorityAndPath? scheme (text.dropWhile (isSlash true)) isLast := by
  rw [parts?.eq_def, if_neg web.not_file, if_pos web.special]

/-- **What is read as an address of the web** has its parts in their written form. -/
theorem written_ofText? {text : String} {url : Url} (reads : ofText? text = some url)
    (web : IsWeb url.scheme) : url.Written := by
  simp only [ofText?, Option.bind_eq_bind, Option.bind_eq_some_iff] at reads
  obtain ⟨⟨scheme, rest⟩, -, ⟨authority, path⟩, parts, result⟩ := reads
  cases result
  rw [parts?_of_web web, authorityAndPath?] at parts
  simp only [Option.bind_eq_bind, Option.bind_eq_some_iff] at parts
  obtain ⟨named, reads, result⟩ := parts
  cases result
  refine ⟨web, ⟨named, rfl, written_authority web.special reads⟩, settled_pathBehind web _, ?_, ?_⟩
  · simp only [web.special, if_true]
    exact clear_encodedText sparesEscapes_inSpecialQuery
  · exact clear_encodedText sparesEscapes_inFragment

/-! ## Texts -/

/-- What stands in front of query and fragment. -/
def frontText (url : Url) : String := url.scheme ++ ":" ++ url.hierarchyText

/-- A part with its mark in front of it. -/
def marked (mark : Char) (part : Option (List Char)) : List Char :=
  match part with
  | some text => mark :: text
  | none => []

theorem toList_markedText (mark : Char) (part : Option String) :
    (markedText (String.singleton mark) part).toList = marked mark (part.map String.toList) := by
  cases part <;> simp [markedText, marked]

theorem toList_toText (url : Url) :
    url.toText.toList = url.frontText.toList ++ marked '?' (url.query.map String.toList) ++
      marked '#' (url.fragment.map String.toList) := by
  rw [← toList_markedText, ← toList_markedText, ← String.toList_append, ← String.toList_append]
  rfl

/-- A text without a mark is passed on the way to the mark. -/
theorem passed_of_not_mem {mark : Char} {text : List Char} (clear : mark ∉ text) :
    ∀ character ∈ text, (character != mark) = true := by
  intro character member
  exact bne_iff_ne.mpr (ne_of_mem_of_not_mem member clear)

theorem takeWhile_marked {mark : Char} {text : List Char} (clear : mark ∉ text)
    (part : Option (List Char)) :
    (text ++ marked mark part).takeWhile (fun character => character != mark) = text := by
  rw [List.takeWhile_append_of_pos (passed_of_not_mem clear)]
  cases part <;> simp [marked]

theorem dropWhile_marked {mark : Char} {text : List Char} (clear : mark ∉ text)
    (part : Option (List Char)) :
    (text ++ marked mark part).dropWhile (fun character => character != mark) =
      marked mark part := by
  rw [List.dropWhile_append_of_pos (passed_of_not_mem clear)]
  cases part <;> simp [marked]

/-- **Marked parts are told apart**, where no earlier part holds a later mark. -/
theorem splitTail_marked {front : List Char} {query fragment : Option (List Char)}
    (clear : '?' ∉ front ∧ '#' ∉ front) (free : ∀ text ∈ query, '#' ∉ text) :
    splitTail (front ++ marked '?' query ++ marked '#' fragment) = (front, query, fragment) := by
  have whole : '#' ∉ front ++ marked '?' query := by
    cases query with
    | none => simpa [marked] using clear.2
    | some text => simpa [marked] using ⟨clear.2, free text rfl⟩
  rw [splitTail, takeWhile_marked whole, dropWhile_marked whole, takeWhile_marked clear.1,
    dropWhile_marked clear.1]
  cases query <;> cases fragment <;> rfl

/-- Visible characters are kept by the reader. -/
theorem cleaned_of_visible {text : List Char}
    (visible : ∀ character ∈ text, 0x20 < character.toNat) : cleaned text = text := by
  have kept (part : List Char) (within : ∀ character ∈ part, 0x20 < character.toNat) :
      part.dropWhile (fun character => decide (character.toNat ≤ 0x20)) = part := by
    cases part with
    | nil => rfl
    | cons first rest =>
        have here := within first List.mem_cons_self
        rw [List.dropWhile_cons_of_neg]
        simpa using here
  have backwards : ∀ character ∈ text.reverse, 0x20 < character.toNat := by simpa using visible
  rw [cleaned, kept text visible, kept _ backwards, List.reverse_reverse, List.filter_eq_self]
  intro character member
  have here := visible character member
  have others : character ≠ '\t' ∧ character ≠ '\n' ∧ character ≠ '\r' := by
    refine ⟨?_, ?_, ?_⟩ <;> rintro rfl <;> exact absurd here (by decide)
  simp [others]

/-- The schemes of the web are read as they are. -/
theorem scheme?_web {scheme : String} (web : IsWeb scheme) (rest : List Char) :
    scheme? (scheme.toList ++ ':' :: rest) = some (scheme, rest) := by
  rcases web with rfl | rfl <;> rfl

theorem first_segments {names : List String} (settled : SettledNames names) :
    ∃ rest, (Path.segments names).toText.toList = '/' :: rest := by
  obtain ⟨first, others, rfl⟩ := List.exists_cons_of_ne_nil settled.filled
  exact ⟨_, toList_segments _⟩

theorem not_ends_of_isAuthorityChar {character : Char} (allowed : isAuthorityChar character) :
    endsAuthority true character = false := by
  simpa using (Bool.and_eq_true_iff.mp allowed).2

/-- The authority of an address is read anew, the path as it is. -/
theorem parts?_web {scheme : String} (web : IsWeb scheme) {letters : List Char}
    (addressable : Addressable letters) {names : List String} (settled : SettledNames names)
    (isLast : Bool) :
    parts? scheme ('/' :: '/' :: letters ++ (Path.segments names).toText.toList) isLast =
      (authority? scheme letters false).map fun authority =>
        (some authority, .segments names) := by
  have path := pathBehind_toText web settled
  obtain ⟨rest, begins⟩ := first_segments settled
  rw [begins] at path ⊢
  have goesOn : ∀ character ∈ letters, (!endsAuthority true character) = true := by
    intro character member
    simpa using not_ends_of_isAuthorityChar (addressable.clear character member)
  have behindSlashes : ('/' :: '/' :: letters ++ '/' :: rest).dropWhile (isSlash true) =
      letters ++ '/' :: rest := by
    obtain ⟨first, others, rfl⟩ := List.exists_cons_of_ne_nil addressable.filled
    have ends := not_ends_of_isAuthorityChar (addressable.clear first List.mem_cons_self)
    have slash : isSlash true first = false := by
      simp only [endsAuthority, Bool.or_eq_false_iff] at ends
      exact ends.1.1
    have leading : isSlash true '/' = true := rfl
    simp [leading, slash]
  have ends : (!endsAuthority true '/') = false := rfl
  rw [parts?_of_web web, behindSlashes, authorityAndPath?, web.special,
    List.takeWhile_append_of_pos goesOn, List.dropWhile_append_of_pos goesOn]
  simp only [List.takeWhile_cons, List.dropWhile_cons, ends, Bool.false_eq_true, if_false,
    List.append_nil, List.isEmpty_cons, Bool.and_false, path]
  cases authority? scheme letters false <;> rfl

/-! ## Rereading -/

/-- An address with its authority read anew. -/
def reread (url : Url) : Option Url := do
  let authority ← url.authority
  let again ← authority? url.scheme authority.letters false
  return { url with authority := some again }

/-- The text in front of query and fragment. -/
theorem Written.toList_frontText {url : Url} {authority : Authority}
    (given : url.authority = some authority) :
    url.frontText.toList = url.scheme.toList ++ ':' ::
      ('/' :: '/' :: authority.letters ++ url.path.toText.toList) := by
  rw [frontText, hierarchyText, given]
  simp [authority.toList_toText]

/-- The characters in front of query and fragment. -/
def isFrontChar (character : Char) : Bool :=
  0x20 < character.toNat && character != '?' && character != '#'

theorem isFrontChar_of_isAuthorityChar {character : Char} (allowed : isAuthorityChar character) :
    isFrontChar character = true := by
  simp only [isAuthorityChar, endsAuthority, Bool.and_eq_true, Bool.not_eq_true',
    Bool.or_eq_false_iff] at allowed
  obtain ⟨visible, ⟨-, question⟩, hash⟩ := allowed
  simp [isFrontChar, visible, bne, question, hash]

theorem isFrontChar_of_inPath {character : Char} (spared : inPath character = false) :
    isFrontChar character = true := by
  have visible := visible_of_inFragment (inFragment_of_inPath spared)
  have others : character ≠ '?' ∧ character ≠ '#' := by
    refine ⟨?_, ?_⟩ <;> rintro rfl <;> exact absurd spared (by decide)
  simp [isFrontChar, visible, others]

theorem isFrontChar_path {names : List String} (settled : SettledNames names) :
    ∀ character ∈ (Path.segments names).toText.toList, isFrontChar character = true := by
  rw [toList_segments]
  intro character member
  obtain ⟨name, given, here⟩ := List.mem_flatMap.mp member
  obtain ⟨text, named, rfl⟩ := List.mem_map.mp given
  rcases List.mem_cons.mp here with rfl | letter
  · decide
  · exact isFrontChar_of_inPath ((settled.settled text named).clear character letter)

theorem Written.isFrontChar {url : Url} (written : url.Written) :
    ∀ character ∈ url.frontText.toList, isFrontChar character = true := by
  obtain ⟨authority, given, addressed⟩ := written.authority
  obtain ⟨names, named, settled⟩ := written.path
  have scheme : ∀ character ∈ url.scheme.toList, Url.isFrontChar character = true := by
    rcases written.scheme with same | same <;> rw [same] <;> exact List.all_eq_true.mp (by decide)
  have slash : Url.isFrontChar '/' = true := by decide
  rw [toList_frontText given, named, List.forall_mem_append, List.forall_mem_cons,
    List.forall_mem_append, List.forall_mem_cons, List.forall_mem_cons]
  refine ⟨scheme, by decide, ⟨slash, slash, ?_⟩, isFrontChar_path settled⟩
  intro character member
  exact isFrontChar_of_isAuthorityChar (addressed.addressable.clear character member)

/-- No mark stands among the characters in front. -/
theorem clear_of_isFrontChar {text : List Char}
    (front : ∀ character ∈ text, isFrontChar character = true) : '?' ∉ text ∧ '#' ∉ text := by
  refine ⟨fun member => ?_, fun member => ?_⟩
  · exact absurd (front _ member) (by decide)
  · exact absurd (front _ member) (by decide)

theorem Written.query_free {url : Url} (written : url.Written) :
    ∀ text ∈ url.query.map String.toList, '#' ∉ text := by
  intro text member hash
  obtain ⟨query, given, rfl⟩ := Option.map_eq_some_iff.mp member
  exact absurd (written.query query given '#' hash) (by decide)

/-- **The text of an address is cut into its parts.** -/
theorem Written.splitTail {url : Url} (written : url.Written) :
    Url.splitTail url.toText.toList =
      (url.frontText.toList, url.query.map String.toList, url.fragment.map String.toList) := by
  rw [toList_toText]
  exact splitTail_marked (clear_of_isFrontChar written.isFrontChar) written.query_free

theorem visible_marked {mark : Char} (visible : 0x20 < mark.toNat) {part : Option String}
    (within : ∀ text ∈ part, ∀ character ∈ text.toList, 0x20 < character.toNat) :
    ∀ character ∈ marked mark (part.map String.toList), 0x20 < character.toNat := by
  cases part with
  | none => exact nofun
  | some text => exact List.forall_mem_cons.mpr ⟨visible, within text rfl⟩

theorem Written.visible {url : Url} (written : url.Written) :
    ∀ character ∈ url.toText.toList, 0x20 < character.toNat := by
  rw [toList_toText, List.forall_mem_append, List.forall_mem_append]
  refine ⟨⟨?_, visible_marked (by decide) ?_⟩, visible_marked (by decide) ?_⟩
  · intro character member
    have front := written.isFrontChar character member
    simp only [Url.isFrontChar, Bool.and_eq_true, decide_eq_true_eq] at front
    exact front.1.1
  · intro query given character member
    exact visible_of_inSpecialQuery (written.query query given character member)
  · intro fragment given character member
    exact visible_of_inFragment (written.fragment fragment given character member)

/-- An encoded part is encoded as it is. -/
theorem map_encodedText {encoded : Char → Bool} {part : Option String}
    (clear : ∀ text ∈ part, ∀ character ∈ text.toList, encoded character = false) :
    (part.map String.toList).map (encodedText encoded) = part := by
  cases part with
  | none => rfl
  | some text => simp [encodedText, percentEncode_of_clear (clear text rfl)]

/-- **The text of an address is read as the address**, but for the authority, which is read anew. -/
theorem ofText?_toText {url : Url} (written : url.Written) : ofText? url.toText = url.reread := by
  obtain ⟨authority, given, addressed⟩ := written.authority
  obtain ⟨names, named, settled⟩ := written.path
  have front := written.isFrontChar
  rw [Written.toList_frontText given, List.forall_mem_append, List.forall_mem_cons] at front
  have clear := clear_of_isFrontChar front.2.2
  have text : url.toText.toList = url.scheme.toList ++ ':' ::
      ('/' :: '/' :: authority.letters ++ url.path.toText.toList ++
        marked '?' (url.query.map String.toList) ++
          marked '#' (url.fragment.map String.toList)) := by
    rw [toList_toText, Written.toList_frontText given]
    simp
  rw [ofText?, cleaned_of_visible written.visible, text, scheme?_web written.scheme]
  simp only [Option.bind_eq_bind, Option.bind_some, splitTail_marked clear written.query_free]
  rw [named, parts?_web written.scheme addressed.addressable settled, written.scheme.special,
    if_pos rfl, map_encodedText written.query, map_encodedText written.fragment, reread, given]
  simp only [Option.bind_eq_bind, Option.bind_some]
  cases authority? url.scheme authority.letters false with
  | none => rfl
  | some again => simp [← named]

end ResponsesBridge.Url
