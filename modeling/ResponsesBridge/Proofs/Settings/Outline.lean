import ResponsesBridge.Settings.Placeholder

/-!
# What a variable contributes to a text

The outline of a text, for an environment and a variable, is the expanded text with the places left
open where the value of the variable is put. It does not depend on that value (`outline_congr`), and
expansion puts the value, or the default that stands there, into the places (`toOption_expand`).
-/

set_option autoImplicit false

namespace ResponsesBridge.Settings

/-- A character of an outline, or an open place with the default for it. -/
inductive Mark
  | character (value : Char)
  | gap (fallback : Option String)
deriving DecidableEq, Repr

/-- Characters as marks. -/
def written (text : List Char) : List Mark := text.map .character

/-- An outline with its places filled. -/
def fill (value : Option String) : List Mark → Option (List Char)
  | [] => some []
  | .character character :: marks => (fill value marks).map (character :: ·)
  | .gap fallback :: marks =>
    (value <|> fallback).bind fun text => (fill value marks).map (text.toList ++ ·)

theorem fill_append (value : Option String) (marks more : List Mark) :
    fill value (marks ++ more) =
      (fill value marks).bind fun text => (fill value more).map (text ++ ·) := by
  induction marks with
  | nil => exact Option.map_id'.symm
  | cons mark marks ih =>
      cases mark with
      | character character =>
          simp only [List.cons_append, fill, ih]
          cases fill value marks with
          | none => rfl
          | some text => cases fill value more <;> rfl
      | gap fallback =>
          simp only [List.cons_append, fill, ih]
          cases value <|> fallback with
          | none => rfl
          | some put =>
              cases fill value marks with
              | none => rfl
              | some text => cases fill value more <;> simp

theorem fill_written (value : Option String) (text : List Char) :
    fill value (written text) = some text := by
  induction text with
  | nil => rfl
  | cons character text ih =>
      have later : fill value (written (character :: text)) =
          (fill value (written text)).map (character :: ·) := rfl
      rw [later, ih, Option.map_some]

/-! ## Outlines -/

section Outlines

variable (environment : Environment) (name : String)

/-- The marks of a placeholder: a place if it names the variable, what is put there otherwise. -/
def outlinePlaceholder (placeholder : Placeholder) : Option (List Mark) :=
  (environmentName? placeholder.key).bind fun other =>
    if other = name then some [.gap placeholder.fallback]
    else (environment other <|> placeholder.fallback).map fun text => written text.toList

/-- The outline of pieces. -/
def outlinePieces : List Piece → Option (List Mark)
  | [] => some []
  | .character value :: pieces => (outlinePieces pieces).map (.character value :: ·)
  | .placeholder placeholder :: pieces =>
    (outlinePlaceholder environment name placeholder).bind fun marks =>
      (outlinePieces pieces).map (marks ++ ·)

/-- The outline of a line. -/
def outlineLine (line : List Char) : Option (List Mark) :=
  if isComment line then some (written line) else outlinePieces environment name (pieces line)

/-- The outline of lines. -/
def outlineLines : List (List Char) → Option (List Mark)
  | [] => some []
  | line :: later =>
    (outlineLine environment name line).bind fun marks => (outlineLines later).map (marks ++ ·)

/-- The outline of a text. -/
def outline (text : String) : Option (List Mark) :=
  outlineLines environment name (lines text.toList)

end Outlines

/-! ## Expansion fills the outline -/

section Expansion

variable (environment : Environment) (name : String)

theorem toOption_resolve (line : Nat) (placeholder : Placeholder) :
    (resolve environment line placeholder).toOption =
      (environmentName? placeholder.key).bind fun other =>
        environment other <|> placeholder.fallback := by
  rw [resolve]
  cases environmentName? placeholder.key with
  | none => rfl
  | some other =>
      simp only [Option.bind_some]
      cases environment other with
      | some value => rfl
      | none => cases placeholder.fallback <;> rfl

theorem fill_outlinePlaceholder (line : Nat) (placeholder : Placeholder) :
    (outlinePlaceholder environment name placeholder).bind (fill (environment name)) =
      (resolve environment line placeholder).toOption.map String.toList := by
  rw [toOption_resolve, outlinePlaceholder]
  cases environmentName? placeholder.key with
  | none => rfl
  | some other =>
      simp only [Option.bind_some]
      split
      case isTrue same =>
        subst same
        simp only [Option.bind_some, fill]
        cases environment other <|> placeholder.fallback with
        | none => rfl
        | some text => exact congrArg some (List.append_nil _)
      case isFalse =>
        cases environment other <|> placeholder.fallback with
        | none => rfl
        | some text => exact fill_written _ _

theorem fill_outlinePieces (line : Nat) (pieces : List Piece) :
    (outlinePieces environment name pieces).bind (fill (environment name)) =
      (expandPieces environment line pieces).toOption := by
  induction pieces with
  | nil => rfl
  | cons piece pieces ih =>
      cases piece with
      | character value =>
          have expanded : (expandPieces environment line (.character value :: pieces)).toOption =
              (expandPieces environment line pieces).toOption.map (value :: ·) := by
            rw [expandPieces]
            cases expandPieces environment line pieces <;> rfl
          rw [expanded, ← ih, outlinePieces]
          cases outlinePieces environment name pieces <;> rfl
      | placeholder placeholder =>
          have expanded :
              (expandPieces environment line (.placeholder placeholder :: pieces)).toOption =
              ((resolve environment line placeholder).toOption.map String.toList).bind fun text =>
                (expandPieces environment line pieces).toOption.map (text ++ ·) := by
            rw [expandPieces]
            cases resolve environment line placeholder with
            | error => rfl
            | ok value => cases expandPieces environment line pieces <;> rfl
          rw [expanded, ← ih, ← fill_outlinePlaceholder environment name, outlinePieces]
          cases outlinePlaceholder environment name placeholder with
          | none => rfl
          | some marks =>
              cases outlinePieces environment name pieces with
              | none =>
                  simp
              | some more => exact fill_append _ marks more

theorem fill_outlineLine (number : Nat) (line : List Char) :
    (outlineLine environment name line).bind (fill (environment name)) =
      (expandLine environment number line).toOption := by
  rw [outlineLine, expandLine]
  split
  case isTrue => exact fill_written _ line
  case isFalse => exact fill_outlinePieces environment name number _

theorem fill_outlineLines (number : Nat) (lines : List (List Char)) :
    (outlineLines environment name lines).bind (fill (environment name)) =
      (expandLines environment number lines).toOption := by
  induction lines generalizing number with
  | nil => rfl
  | cons line later ih =>
      have expanded : (expandLines environment number (line :: later)).toOption =
          (expandLine environment number line).toOption.bind fun text =>
            (expandLines environment (number + 1) later).toOption.map (text ++ ·) := by
        rw [expandLines]
        cases expandLine environment number line with
        | error => rfl
        | ok value => cases expandLines environment (number + 1) later <;> rfl
      rw [expanded, ← ih, ← fill_outlineLine environment name, outlineLines]
      cases outlineLine environment name line with
      | none => rfl
      | some marks =>
          cases outlineLines environment name later with
          | none => simp
          | some more => exact fill_append _ marks more

/-- **Expansion fills the outline of a text with the value of the variable.** -/
theorem toOption_expand (text : String) :
    (expand environment text).toOption =
      ((outline environment name text).bind (fill (environment name))).map String.ofList := by
  rw [outline, fill_outlineLines environment name 1, expand]
  cases expandLines environment 1 (lines text.toList) <;> rfl

end Expansion

/-! ## The value of the variable does not show in the outline -/

section Congr

variable {first second : Environment} {name : String}
  (alike : ∀ other, other ≠ name → first other = second other)

include alike

theorem outlinePlaceholder_congr (placeholder : Placeholder) :
    outlinePlaceholder first name placeholder =
      outlinePlaceholder second name placeholder := by
  rw [outlinePlaceholder, outlinePlaceholder]
  congr 1
  funext other
  split
  case isTrue => rfl
  case isFalse apart => rw [alike other apart]

theorem outlinePieces_congr (pieces : List Piece) :
    outlinePieces first name pieces = outlinePieces second name pieces := by
  induction pieces with
  | nil => rfl
  | cons piece pieces ih =>
      cases piece with
      | character value => rw [outlinePieces, outlinePieces, ih]
      | placeholder placeholder =>
          rw [outlinePieces, outlinePieces, ih, outlinePlaceholder_congr alike]

theorem outlineLines_congr (lines : List (List Char)) :
    outlineLines first name lines = outlineLines second name lines := by
  induction lines with
  | nil => rfl
  | cons line later ih =>
      rw [outlineLines, outlineLines, ih, outlineLine, outlineLine, outlinePieces_congr alike]

/-- Environments that differ in the variable only have the same outlines. -/
theorem outline_congr (text : String) :
    outline first name text = outline second name text :=
  outlineLines_congr alike _

end Congr
end ResponsesBridge.Settings
