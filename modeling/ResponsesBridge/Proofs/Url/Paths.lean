import ResponsesBridge.Proofs.Url.Encoding

/-!
# Paths

The path of an address of the web consists of settled names: nothing in them has to be encoded, no
slash stands in them, and they are no dots. The reader makes settled names of any text behind an
authority, and at least one (`settled_pathBehind`); what is written for settled names is read as
them (`pathBehind_toText`).
-/

set_option autoImplicit false

namespace ResponsesBridge.Url

/-! ## Names -/

/-- A name of a path in its written form. -/
structure SettledName (name : List Char) : Prop where
  clear : ∀ character ∈ name, inPath character = false
  whole : ∀ character ∈ name, isSlash true character = false
  undotted : isDots name = false

theorem SettledName.nil : SettledName [] := ⟨nofun, nofun, rfl⟩

/-- A segment without slashes that is no dots is settled by encoding it. -/
theorem settledName_percentEncode {segment : List Char}
    (whole : ∀ character ∈ segment, isSlash true character = false)
    (undotted : isDots segment = false) : SettledName (percentEncode inPath segment) where
  clear := percentEncode_clear sparesEscapes_inPath segment
  whole := by
    have escapes : SparesEscapes (isSlash true) := by decide
    intro character member
    rcases mem_percentEncode member with escape | ⟨origin, -⟩
    · exact escapes character escape
    · exact whole character origin
  undotted := by
    rw [Bool.eq_false_iff] at undotted ⊢
    exact fun dots => undotted (isDots_of_percentEncode dots)

/-! ## Resolving -/

theorem isDots_eq_false_iff {segment : List Char} :
    isDots segment = false ↔ isDoubleDot segment = false ∧ isSingleDot segment = false := by
  rw [isDots, Bool.or_eq_false_iff, and_comm]

/-- A name without dots is put on the resolved ones. -/
theorem resolveSegments_undotted {segment : List Char} (undotted : isDots segment = false)
    (resolved segments : List (List Char)) :
    resolveSegments false resolved (segment :: segments) =
      resolveSegments false (percentEncode inPath segment :: resolved) segments := by
  obtain ⟨double, single⟩ := isDots_eq_false_iff.mp undotted
  simp [resolveSegments, double, single]

/-- Dots take nothing but names from the resolved ones, and leave an empty name at the end. -/
theorem resolveSegments_dots {segment : List Char} (dots : isDots segment)
    (resolved segments : List (List Char)) :
    ∃ rest, (∀ name ∈ rest, name ∈ resolved) ∧
      resolveSegments false resolved (segment :: segments) =
        resolveSegments false (if segments.isEmpty then [] :: rest else rest) segments := by
  by_cases double : isDoubleDot segment
  · refine ⟨above false resolved, ?_, ?_⟩
    · intro name member
      match resolved with
      | [] => exact member
      | [_] => exact absurd member List.not_mem_nil
      | _ :: _ :: _ => exact List.mem_cons_of_mem _ member
    · simp [resolveSegments, double]
  · have single : isSingleDot segment := by
      simpa [isDots, double] using dots
    exact ⟨resolved, fun _ => id, by simp [resolveSegments, double, single]⟩

/-- Settled names are resolved already. -/
theorem resolveSegments_of_settled {names : List (List Char)}
    (settled : ∀ name ∈ names, SettledName name) (resolved : List (List Char)) :
    resolveSegments false resolved names = resolved.reverse ++ names := by
  induction names generalizing resolved with
  | nil => simp [resolveSegments]
  | cons name names ih =>
      have here := settled name List.mem_cons_self
      have later := ih fun other member => settled other (List.mem_cons_of_mem _ member)
      rw [resolveSegments_undotted here.undotted, percentEncode_of_clear here.clear, later]
      simp

/-- **One segment** leaves settled names resolved, and the last one leaves a name. -/
theorem resolveSegments_step {segment : List Char}
    (whole : ∀ character ∈ segment, isSlash true character = false)
    {resolved : List (List Char)} (settled : ∀ name ∈ resolved, SettledName name)
    (segments : List (List Char)) :
    ∃ rest, (∀ name ∈ rest, SettledName name) ∧ (segments = [] → rest ≠ []) ∧
      resolveSegments false resolved (segment :: segments) =
        resolveSegments false rest segments := by
  cases dots : isDots segment with
  | false =>
      refine ⟨_, ?_, fun _ => List.cons_ne_nil _ _, resolveSegments_undotted dots resolved segments⟩
      exact List.forall_mem_cons.mpr ⟨settledName_percentEncode whole dots, settled⟩
  | true =>
      obtain ⟨rest, taken, resolves⟩ := resolveSegments_dots dots resolved segments
      have kept : ∀ name ∈ rest, SettledName name := by
        intro name member
        exact settled name (taken name member)
      cases segments with
      | nil =>
          refine ⟨_, ?_, fun _ => List.cons_ne_nil _ _, resolves⟩
          exact List.forall_mem_cons.mpr ⟨.nil, kept⟩
      | cons next others => exact ⟨rest, kept, nofun, resolves⟩

/-- **All segments** are resolved to settled names, of which there is at least one. -/
theorem settled_resolveSegments {segments : List (List Char)} (filled : segments ≠ [])
    (whole : ∀ segment ∈ segments, ∀ character ∈ segment, isSlash true character = false)
    {resolved : List (List Char)} (settled : ∀ name ∈ resolved, SettledName name) :
    resolveSegments false resolved segments ≠ [] ∧
      ∀ name ∈ resolveSegments false resolved segments, SettledName name := by
  induction segments generalizing resolved with
  | nil => exact absurd rfl filled
  | cons segment segments ih =>
      rw [List.forall_mem_cons] at whole
      obtain ⟨rest, kept, last, resolves⟩ := resolveSegments_step whole.1 settled segments
      rw [resolves]
      cases segments with
      | nil => simpa [resolveSegments] using ⟨last rfl, kept⟩
      | cons next others => exact ih (List.cons_ne_nil _ _) whole.2 kept

/-! ## Texts of paths -/

/-- Names with a slash in front of each. -/
def slashed (names : List (List Char)) : List Char := names.flatMap fun name => '/' :: name

theorem toList_segments (names : List String) :
    (Path.segments names).toText.toList = slashed (names.map String.toList) := by
  simp [Path.toText, String.toList_join, slashed, List.flatMap_map]

theorem splitAt_slashed {name : List Char} {names : List (List Char)}
    (whole : ∀ part ∈ name :: names, ∀ character ∈ part, isSlash true character = false) :
    Text.splitAt (isSlash true) (name ++ slashed names) = name :: names := by
  induction names generalizing name with
  | nil =>
      rw [slashed, List.flatMap_nil, List.append_nil]
      exact Text.splitAt_of_clear (whole name List.mem_cons_self)
  | cons next names ih =>
      have later := ih fun part member => whole part (List.mem_cons_of_mem _ member)
      have text : slashed (next :: names) = '/' :: (next ++ slashed names) := rfl
      rw [text, Text.splitAt_append_cons (whole name List.mem_cons_self) rfl, later]

/-- The schemes of the web. -/
def IsWeb (scheme : String) : Prop := scheme = "http" ∨ scheme = "https"

theorem IsWeb.special {scheme : String} (web : IsWeb scheme) : isSpecial scheme = true := by
  rcases web with rfl | rfl <;> rfl

theorem IsWeb.not_file {scheme : String} (web : IsWeb scheme) : scheme ≠ "file" := by
  rcases web with rfl | rfl <;> decide

theorem segmentsOf_web {scheme : String} (web : IsWeb scheme) (text : List Char) :
    segmentsOf scheme text =
      (resolveSegments false [] (Text.splitAt (isSlash true) text)).map String.ofList := by
  have file : (scheme == "file") = false := by simpa using web.not_file
  rw [segmentsOf, web.special, file]

/-- The names of the path of an address. -/
structure SettledNames (names : List String) : Prop where
  filled : names ≠ []
  settled : ∀ name ∈ names, SettledName name.toList

theorem settled_segmentsOf {scheme : String} (web : IsWeb scheme) (text : List Char) :
    SettledNames (segmentsOf scheme text) := by
  have none : ∀ name ∈ ([] : List (List Char)), SettledName name := by simp
  obtain ⟨filled, settled⟩ := settled_resolveSegments (Text.splitAt_ne_nil (isSlash true) text)
    (fun _ part => Text.clear_splitAt part) none
  rw [segmentsOf_web web]
  refine ⟨by simpa using filled, ?_⟩
  intro name member
  obtain ⟨letters, here, rfl⟩ := List.mem_map.mp member
  rw [String.toList_ofList]
  exact settled letters here

/-- **The path behind an authority** has settled names. -/
theorem settled_pathBehind {scheme : String} (web : IsWeb scheme) (text : List Char) :
    ∃ names, pathBehind scheme text = .segments names ∧ SettledNames names := by
  cases text with
  | nil =>
      refine ⟨[""], by simp [pathBehind, web.special], List.cons_ne_nil _ _, ?_⟩
      intro name member
      obtain rfl := List.mem_singleton.mp member
      exact .nil
  | cons first rest => exact ⟨_, rfl, settled_segmentsOf web _⟩

/-- **The text of settled names is read as these.** -/
theorem pathBehind_toText {scheme : String} (web : IsWeb scheme) {names : List String}
    (settled : SettledNames names) :
    pathBehind scheme (Path.segments names).toText.toList = .segments names := by
  obtain ⟨first, rest, rfl⟩ := List.exists_cons_of_ne_nil settled.filled
  have names : ∀ name ∈ (first :: rest).map String.toList, SettledName name :=
    List.forall_mem_map.mpr settled.settled
  have text : (Path.segments (first :: rest)).toText.toList =
      '/' :: (first.toList ++ slashed (rest.map String.toList)) := toList_segments _
  have slash : isSlash (isSpecial scheme) '/' = true := rfl
  have parts : Text.splitAt (isSlash true) (first.toList ++ slashed (rest.map String.toList)) =
      (first :: rest).map String.toList := splitAt_slashed fun name member =>
    (names name member).whole
  rw [text, pathBehind, slash, if_pos rfl, segmentsOf_web web, parts,
    resolveSegments_of_settled names]
  simp

end ResponsesBridge.Url
