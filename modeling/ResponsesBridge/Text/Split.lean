/-!
# Splitting texts

A text is cut at its separators. The parts hold no separator, and there is one more of them than
there are separators, so a text without separators is its only part.
-/

set_option autoImplicit false

namespace ResponsesBridge.Text

/-- The parts of a text between separators. -/
def splitAt (separator : Char → Bool) : List Char → List (List Char)
  | [] => [[]]
  | character :: text =>
    match splitAt separator text with
    | [] => []
    | part :: parts =>
      if separator character then [] :: part :: parts else (character :: part) :: parts

/-- There is one more part than there are separators. -/
theorem length_splitAt (separator : Char → Bool) (text : List Char) :
    (splitAt separator text).length = text.countP separator + 1 := by
  induction text with
  | nil => rfl
  | cons character text ih =>
      simp only [splitAt, List.countP_cons]
      split
      · rename_i none
        simp [none] at ih
      · rename_i some
        rw [some, List.length_cons] at ih
        split <;> simp_all

theorem splitAt_ne_nil (separator : Char → Bool) (text : List Char) :
    splitAt separator text ≠ [] := by
  have parts := length_splitAt separator text
  intro none
  rw [none] at parts
  exact Nat.succ_ne_zero _ parts.symm

/-- A text without separators is its only part. -/
theorem splitAt_of_clear {separator : Char → Bool} {text : List Char}
    (clear : ∀ character ∈ text, separator character = false) :
    splitAt separator text = [text] := by
  induction text with
  | nil => rfl
  | cons character text ih =>
      have here := clear character List.mem_cons_self
      have later := ih fun other member => clear other (List.mem_cons_of_mem _ member)
      simp [splitAt, later, here]

/-- A part ends at its separator. -/
theorem splitAt_append_cons {separator : Char → Bool} {part : List Char} {mark : Char}
    (clear : ∀ character ∈ part, separator character = false) (separates : separator mark)
    (text : List Char) :
    splitAt separator (part ++ mark :: text) = part :: splitAt separator text := by
  induction part with
  | nil =>
      cases parts : splitAt separator text with
      | nil => exact absurd parts (splitAt_ne_nil separator text)
      | cons next parts => simp [splitAt, parts, separates]
  | cons character part ih =>
      have here := clear character List.mem_cons_self
      have later := ih fun other member => clear other (List.mem_cons_of_mem _ member)
      simp [splitAt, later, here]

/-- The parts hold no separator. -/
theorem clear_splitAt {separator : Char → Bool} {text part : List Char}
    (member : part ∈ splitAt separator text) :
    ∀ character ∈ part, separator character = false := by
  induction text generalizing part with
  | nil =>
      obtain rfl := List.mem_singleton.mp member
      exact nofun
  | cons character text ih =>
      cases parts : splitAt separator text with
      | nil => exact absurd parts (splitAt_ne_nil separator text)
      | cons next others =>
          rw [parts] at ih
          have clear := ih List.mem_cons_self
          simp only [splitAt, parts] at member
          split at member
          · rcases List.mem_cons.mp member with rfl | old
            · exact nofun
            · exact ih old
          · rename_i whole
            rcases List.mem_cons.mp member with rfl | old
            · intro other here
              rcases List.mem_cons.mp here with rfl | later
              · simpa using whole
              · exact clear other later
            · exact ih (List.mem_cons_of_mem _ old)

end ResponsesBridge.Text
