import ResponsesBridge.Proofs.Url.Rereading
import Mathlib.Data.List.DropRight

/-!
# One more step

A path gets one more name behind its last name that is not empty (`Path.below`), which puts the name
behind the text of the path without the slashes at its end (`toText_below`).

A whole address gets one more step at the end of its text (`stepped`). The end of the text is the
end of the path only where no query and no fragment follow it; a step behind these is a part of
them. The parts stay in their written form (`Written.stepped`), so the longer text is read as the
address with that step (`ofText?_stepped`).
-/

set_option autoImplicit false

namespace ResponsesBridge.Url

/-! ## One more name -/

/-- The text of names without slashes at its end is that of the names without empty ones at their
end. -/
theorem rdropWhile_slashed {names : List (List Char)}
    (whole : ∀ name ∈ names, ∀ character ∈ name, isSlash true character = false) :
    (slashed names).rdropWhile (· == '/') = slashed (names.rdropWhile List.isEmpty) := by
  induction names using List.reverseRecOn with
  | nil => rfl
  | append_singleton names name ih =>
      have front := ih fun other member => whole other (List.mem_append_left _ member)
      have text : slashed (names ++ [name]) = slashed names ++ '/' :: name := by
        simp [slashed]
      cases name using List.reverseRecOn with
      | nil => rw [text, List.rdropWhile_concat_pos _ _ _ rfl, front,
          List.rdropWhile_concat_pos _ _ _ rfl]
      | append_singleton letters last _ =>
          have slash := whole (letters ++ [last]) (by simp) last (by simp)
          have kept : ¬ (last == '/') = true := by
            rintro same
            rw [beq_iff_eq.mp same] at slash
            exact absurd slash (by decide)
          have split : slashed names ++ '/' :: (letters ++ [last]) =
              (slashed names ++ '/' :: letters) ++ [last] := by simp
          rw [text, split, List.rdropWhile_concat_neg (· == '/') _ _ kept,
            List.rdropWhile_concat_neg _ _ _ (by simp), text, split]

/-- A text with one more step: behind a slash, of which there is only one. -/
def stepBehind (step text : String) : String :=
  String.ofList (text.toList.rdropWhile (· == '/')) ++ "/" ++ step

theorem toList_stepBehind (step text : String) :
    (stepBehind step text).toList = text.toList.rdropWhile (· == '/') ++ '/' :: step.toList := by
  simp [stepBehind]

/-- A step is seen in the text that it is put behind. -/
theorem stepBehind_ne {step : String} {letter : Char} (member : letter ∈ step.toList)
    (other : letter ≠ '/') (text : String) : stepBehind step text ≠ text := by
  intro same
  rw [← String.toList_inj, toList_stepBehind] at same
  have slashes := List.rdropWhile_append_rtakeWhile (p := (· == '/')) (l := text.toList)
  have tail : text.toList.rtakeWhile (· == '/') = '/' :: step.toList :=
    List.append_cancel_left (slashes.trans same.symm)
  have behind : letter ∈ text.toList.rtakeWhile (· == '/') := by
    rw [tail]
    exact List.mem_cons_of_mem _ member
  have slash := List.mem_rtakeWhile_imp behind
  exact other (by simpa using slash)

/-- What stands in front of another character than a slash is kept. -/
theorem rdropWhile_append_cons {mark : Char} (kept : mark ≠ '/') (front text : List Char) :
    (front ++ mark :: text).rdropWhile (· == '/') =
      front ++ mark :: text.rdropWhile (· == '/') := by
  induction text using List.reverseRecOn with
  | nil => exact List.rdropWhile_concat_neg _ _ _ (by simpa using kept)
  | append_singleton text last ih =>
      have split : front ++ mark :: (text ++ [last]) = (front ++ mark :: text) ++ [last] := by simp
      by_cases slash : last = '/'
      · rw [split, slash, List.rdropWhile_concat_pos _ _ _ rfl, ih,
          List.rdropWhile_concat_pos _ _ _ rfl]
      · have stays : ¬ (last == '/') = true := by simpa using slash
        rw [split, List.rdropWhile_concat_neg (· == '/') _ _ stays,
          List.rdropWhile_concat_neg (· == '/') _ _ stays, split]

/-- A path with one more name behind its last name that is not empty. -/
def Path.below (step : String) : Path → Path
  | .segments names => .segments (names.rdropWhile String.isEmpty ++ [step])
  | .plain text => .plain (stepBehind step text)

theorem rdropWhile_map_toList (names : List String) :
    (names.map String.toList).rdropWhile List.isEmpty =
      (names.rdropWhile String.isEmpty).map String.toList := by
  have same : List.isEmpty ∘ String.toList = String.isEmpty := by
    funext name
    rw [Bool.eq_iff_iff]
    simp
  rw [List.rdropWhile, List.rdropWhile, ← List.map_reverse, List.dropWhile_map, same,
    List.map_reverse]

/-- The text of a path with one more name. -/
theorem toText_below {names : List String} (settled : SettledNames names) (step : String) :
    ((Path.segments names).below step).toText = stepBehind step (Path.segments names).toText := by
  have whole : ∀ name ∈ names.map String.toList, ∀ character ∈ name,
      isSlash true character = false :=
    List.forall_mem_map.mpr fun name member => (settled.settled name member).whole
  rw [← String.toList_inj, Path.below, stepBehind, toList_segments, toList_segments,
    rdropWhile_slashed whole, rdropWhile_map_toList]
  simp [slashed]

/-- One more settled name. -/
theorem SettledNames.below {names : List String} (settled : SettledNames names) {step : String}
    (another : SettledName step.toList) :
    SettledNames (names.rdropWhile String.isEmpty ++ [step]) := by
  refine ⟨List.append_ne_nil_of_right_ne_nil _ (List.cons_ne_nil _ _), ?_⟩
  intro name member
  rcases List.mem_append.mp member with front | last
  · exact settled.settled name ((List.rdropWhile_prefix _ _).mem front)
  · obtain rfl := List.mem_singleton.mp last
    exact another

/-! ## One more step -/

/-- An address with one more step at the end of its text. -/
def stepped (step : String) (url : Url) : Url :=
  match url.fragment, url.query with
  | some fragment, _ => { url with fragment := some (stepBehind step fragment) }
  | none, some query => { url with query := some (stepBehind step query) }
  | none, none => { url with path := url.path.below step }

theorem stepped_of_fragment {url : Url} {fragment : String} (given : url.fragment = some fragment)
    (step : String) :
    url.stepped step = { url with fragment := some (stepBehind step fragment) } := by
  rw [stepped, given]

theorem stepped_of_query {url : Url} {query : String} (last : url.fragment = none)
    (given : url.query = some query) (step : String) :
    url.stepped step = { url with query := some (stepBehind step query) } := by
  rw [stepped, last, given]

theorem stepped_of_path {url : Url} (last : url.fragment = none) (bare : url.query = none)
    (step : String) : url.stepped step = { url with path := url.path.below step } := by
  rw [stepped, last, bare]

theorem frontText_stepped_of_fragment {url : Url} {fragment : String}
    (given : url.fragment = some fragment) (step : String) :
    (url.stepped step).frontText = url.frontText := by
  rw [stepped_of_fragment given]
  rfl

theorem frontText_stepped_of_query {url : Url} {query : String} (last : url.fragment = none)
    (given : url.query = some query) (step : String) :
    (url.stepped step).frontText = url.frontText := by
  rw [stepped_of_query last given]
  rfl

/-- A step that is a settled name and needs no encoding in a query. -/
structure IsStep (step : String) : Prop where
  name : SettledName step.toList
  query : ∀ character ∈ step.toList, inSpecialQuery character = false

/-- The path stands at the end of the text in front of query and fragment, behind another character
than a slash. -/
theorem Written.frontText_below {url : Url} (written : url.Written) (step : String) :
    frontText { url with path := url.path.below step } = stepBehind step url.frontText := by
  obtain ⟨authority, given, addressed⟩ := written.authority
  obtain ⟨names, named, settled⟩ := written.path
  have addressable := addressed.addressable
  obtain ⟨letters, last, parts⟩ := (List.eq_nil_or_concat authority.letters).resolve_left
    addressable.filled
  have kept : last ≠ '/' := by
    rintro rfl
    have allowed := addressable.clear '/' (by simp [parts])
    exact absurd allowed (by decide)
  have front (path : Path) : (frontText { url with path := path }).toList =
      (url.scheme.toList ++ ':' :: '/' :: '/' :: letters) ++ last :: path.toText.toList := by
    have same : ({ url with path := path } : Url).authority = some authority := given
    rw [toList_frontText same, parts]
    simp
  have own : url.frontText = frontText { url with path := url.path } := rfl
  rw [own, ← String.toList_inj, toList_stepBehind, front, front, rdropWhile_append_cons kept, named,
    toText_below settled, toList_stepBehind]
  simp

/-- The text of an address with one more step. -/
theorem Written.toText_stepped {url : Url} (written : url.Written) (step : String) :
    (url.stepped step).toText = stepBehind step url.toText := by
  rw [← String.toList_inj, toList_stepBehind, toList_toText url]
  cases fragment : url.fragment with
  | some text =>
      rw [toList_toText, frontText_stepped_of_fragment fragment, stepped_of_fragment fragment,
        Option.map_some, Option.map_some, marked, marked, rdropWhile_append_cons (by decide),
        toList_stepBehind]
      simp
  | none =>
      cases query : url.query with
      | some text =>
          rw [toList_toText, frontText_stepped_of_query fragment query,
            stepped_of_query fragment query]
          simp only [fragment, Option.map_some, Option.map_none, marked, List.append_nil]
          rw [rdropWhile_append_cons (by decide), toList_stepBehind]
          simp
      | none =>
          rw [stepped_of_path fragment query, toList_toText, written.frontText_below]
          simp only [fragment, query, Option.map_none, marked, List.append_nil]
          exact toList_stepBehind step url.frontText

theorem mem_stepBehind {step text : String} {character : Char}
    (member : character ∈ (stepBehind step text).toList) :
    character ∈ text.toList ∨ character = '/' ∨ character ∈ step.toList := by
  rw [toList_stepBehind] at member
  rcases List.mem_append.mp member with front | last
  · exact .inl ((List.rdropWhile_prefix _ _).mem front)
  · exact .inr (List.mem_cons.mp last)

/-- A part with one more step needs no more encoding. -/
theorem clear_stepBehind {encoded : Char → Bool} (slash : encoded '/' = false) {step text : String}
    (another : ∀ character ∈ step.toList, encoded character = false)
    (clear : ∀ character ∈ text.toList, encoded character = false) :
    ∀ character ∈ (stepBehind step text).toList, encoded character = false := by
  intro character member
  rcases mem_stepBehind member with front | rfl | last
  · exact clear character front
  · exact slash
  · exact another character last

/-- An address with one more step has its parts in their written form. -/
theorem Written.stepped {url : Url} (written : url.Written) {step : String}
    (another : IsStep step) :
    (url.stepped step).Written := by
  have inFragment_step : ∀ character ∈ step.toList, inFragment character = false :=
    fun character member => inFragment_of_inPath (another.name.clear character member)
  cases fragment : url.fragment with
  | some text =>
      rw [stepped_of_fragment fragment]
      refine ⟨written.scheme, written.authority, written.path, written.query, ?_⟩
      rintro _ ⟨⟩
      exact clear_stepBehind (by decide) inFragment_step (written.fragment text fragment)
  | none =>
      cases query : url.query with
      | some text =>
          rw [stepped_of_query fragment query]
          refine ⟨written.scheme, written.authority, written.path, ?_, written.fragment⟩
          rintro _ ⟨⟩
          exact clear_stepBehind (by decide) another.query (written.query text query)
      | none =>
          obtain ⟨names, named, settled⟩ := written.path
          rw [stepped_of_path fragment query, named]
          exact ⟨written.scheme, written.authority, ⟨_, rfl, settled.below another.name⟩,
            written.query, written.fragment⟩

/-- The authority of an address with one more step is read anew like that of the address. -/
theorem reread_stepped (step : String) (url : Url) :
    (url.stepped step).reread = url.reread.map (stepped step) := by
  obtain ⟨scheme, authority, path, query, fragment⟩ := url
  cases authority with
  | none => cases fragment <;> cases query <;> rfl
  | some authority =>
      cases again : authority? scheme authority.letters false with
      | none => cases fragment <;> cases query <;> simp [stepped, reread, again]
      | some other => cases fragment <;> cases query <;> simp [stepped, reread, again]

/-- **The text with one more step** is read as the address with that step. -/
theorem ofText?_stepped {url : Url} (written : url.Written) {step : String}
    (another : IsStep step) :
    ofText? (stepBehind step url.toText) = (ofText? url.toText).map (stepped step) := by
  rw [← written.toText_stepped, ofText?_toText (written.stepped another), ofText?_toText written,
    reread_stepped]

end ResponsesBridge.Url
