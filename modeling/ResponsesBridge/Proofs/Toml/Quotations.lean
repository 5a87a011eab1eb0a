import ResponsesBridge.Toml.Quotation

/-!
# How far a quotation reaches

The four readers of quotations go through a text step by step: each step adds a piece to the content
and moves on by some characters, or ends the quotation (`Step`, `Scanner`). What is needed about
quotations follows from what single steps do.

The facts are about a double quote somewhere in the text. A reader that stops in front of it does
not depend on what stands behind it (`quotation?_steady`). A reader that goes past it, and has begun
before it, has it in the content or has ended there, so that the content comes from before it
(`quotation?_passes`).
-/

set_option autoImplicit false

namespace ResponsesBridge.Toml

/-! ## Scanners -/

/-- What a reader does at the beginning of a text: it adds a piece to the content and moves on by so
many characters, and possibly ends there. -/
structure Step where
  piece : List Char
  width : Nat
  isLast : Bool

/-- A reader that goes step by step. -/
structure Scanner (read : List Char → Option (List Char × List Char))
    (step : List Char → Option Step) : Prop where
  unfold : ∀ text, read text = (step text).bind fun taken =>
    if taken.isLast then some (taken.piece, text.drop taken.width)
    else (read (text.drop taken.width)).map fun found => (taken.piece ++ found.1, found.2)
  progress : ∀ text taken, step text = some taken →
    0 < taken.width ∧ taken.width ≤ text.length ∧ taken.piece.length ≤ taken.width
  /-- A step that stops before the double quote does not depend on what stands behind it; one that
  goes on may look at the quote itself. -/
  steady : ∀ before behind other taken, step (before ++ '"' :: behind) = some taken →
    taken.width ≤ before.length → (taken.isLast = false → taken.width < before.length) →
    step (before ++ '"' :: other) = some taken
  /-- A step past the double quote takes it into the content, or ends there. -/
  passes : ∀ before behind taken, step (before ++ '"' :: behind) = some taken →
    before.length < taken.width → '"' ∈ taken.piece ∨ taken.isLast = true ∧ taken.piece = []

namespace Scanner

variable {read : List Char → Option (List Char × List Char)} {step : List Char → Option Step}

/-- What is read in the steps of a text: the last step, or one more step and the rest. -/
theorem cases (scanner : Scanner read step) {text content rest : List Char}
    (found : read text = some (content, rest)) :
    ∃ taken, step text = some taken ∧
      (taken.isLast = true ∧ content = taken.piece ∧ rest = text.drop taken.width ∨
        taken.isLast = false ∧ ∃ later, read (text.drop taken.width) = some (later, rest) ∧
          content = taken.piece ++ later) := by
  rw [scanner.unfold] at found
  obtain ⟨taken, stepped, ends⟩ := Option.bind_eq_some_iff.mp found
  refine ⟨taken, stepped, ?_⟩
  cases isLast : taken.isLast with
  | true =>
      rw [isLast, if_pos rfl, Option.some_inj, Prod.mk.injEq] at ends
      exact .inl ⟨rfl, ends.1.symm, ends.2.symm⟩
  | false =>
      rw [isLast, if_neg Bool.false_ne_true] at ends
      obtain ⟨⟨later, _⟩, goesOn, same⟩ := Option.map_eq_some_iff.mp ends
      rw [Prod.mk.injEq] at same
      obtain ⟨rfl, rfl⟩ := same
      exact .inr ⟨rfl, later, goesOn, rfl⟩

/-- The rest ends the text, and the content is no longer than what stands in front of it. -/
theorem shortens (scanner : Scanner read step) {text content rest : List Char}
    (found : read text = some (content, rest)) :
    rest <:+ text ∧ content.length + rest.length ≤ text.length ∧ rest.length < text.length := by
  induction length : text.length using Nat.strongRecOn generalizing text content with
  | _ _ ih =>
      subst length
      obtain ⟨taken, stepped, ⟨-, rfl, rfl⟩ | ⟨-, later, goesOn, rfl⟩⟩ := scanner.cases found
      · have progress := scanner.progress text taken stepped
        refine ⟨List.drop_suffix _ _, ?_, ?_⟩ <;> rw [List.length_drop] <;> omega
      · have progress := scanner.progress text taken stepped
        have shorter : (text.drop taken.width).length < text.length := by
          rw [List.length_drop]
          omega
        obtain ⟨ends, content, less⟩ := ih _ shorter goesOn rfl
        rw [List.length_drop] at content less
        refine ⟨ends.trans (List.drop_suffix _ _), ?_, ?_⟩
        · rw [List.length_append]
          omega
        · omega

/-- What is read in front of a double quote does not depend on what stands behind it. -/
theorem reads_steady (scanner : Scanner read step) {before behind left content : List Char}
    (found : read (before ++ '"' :: behind) = some (content, left ++ '"' :: behind))
    (other : List Char) : read (before ++ '"' :: other) = some (content, left ++ '"' :: other) := by
  induction length : before.length using Nat.strongRecOn generalizing before content with
  | _ _ ih =>
      subst length
      obtain ⟨taken, stepped, ⟨isLast, rfl, stopped⟩ | ⟨goes, later, goesOn, rfl⟩⟩ :=
        scanner.cases found
      · have progress := scanner.progress _ taken stepped
        have lengths := congrArg List.length stopped
        simp only [List.length_append, List.length_cons, List.length_drop] at lengths progress
        have within : taken.width ≤ before.length := by omega
        rw [List.drop_append_of_le_length within, List.append_cancel_right_eq] at stopped
        rw [scanner.unfold, scanner.steady _ _ other _ stepped within (by simp [isLast]),
          Option.bind_some, if_pos isLast, List.drop_append_of_le_length within, ← stopped]
      · have progress := scanner.progress _ taken stepped
        have ends := (scanner.shortens goesOn).2.2
        simp only [List.length_append, List.length_cons, List.length_drop] at ends progress
        have within : taken.width < before.length := by omega
        rw [List.drop_append_of_le_length (Nat.le_of_lt within)] at goesOn
        have shorter : (before.drop taken.width).length < before.length := by
          rw [List.length_drop]
          omega
        have same := ih _ shorter goesOn rfl
        have goesAlike :=
          scanner.steady _ _ other _ stepped (Nat.le_of_lt within) fun _ => within
        rw [scanner.unfold, goesAlike, Option.bind_some, if_neg (by simp [goes]),
          List.drop_append_of_le_length (Nat.le_of_lt within), same]
        rfl

/-- The content holds the double quote that was passed, or comes from before it. -/
theorem reads_passes (scanner : Scanner read step) {before behind content rest : List Char}
    (found : read (before ++ '"' :: behind) = some (content, rest)) :
    '"' ∈ content ∨ content.length ≤ before.length := by
  induction length : before.length using Nat.strongRecOn generalizing before content with
  | _ _ ih =>
      subst length
      obtain ⟨taken, stepped, ends⟩ := scanner.cases found
      obtain ⟨-, -, piece⟩ := scanner.progress _ taken stepped
      by_cases within : taken.width ≤ before.length
      · rcases ends with ⟨-, rfl, -⟩ | ⟨-, later, goesOn, rfl⟩
        · exact .inr (Nat.le_trans piece within)
        · rw [List.drop_append_of_le_length within] at goesOn
          have width := (scanner.progress _ taken stepped).1
          have shorter : (before.drop taken.width).length < before.length := by
            rw [List.length_drop]
            omega
          rcases ih _ shorter goesOn rfl with quoted | short
          · exact .inl (List.mem_append_right _ quoted)
          · rw [List.length_drop] at short
            rw [List.length_append]
            omega
      · rcases scanner.passes _ _ _ stepped (Nat.lt_of_not_le within) with quoted | ⟨isLast, none⟩
        · rcases ends with ⟨-, rfl, -⟩ | ⟨-, later, -, rfl⟩
          · exact .inl quoted
          · exact .inl (List.mem_append_left _ quoted)
        · rcases ends with ⟨-, rfl, -⟩ | ⟨goes, -⟩
          · simp [none]
          · cases goes.symm.trans isLast

end Scanner

/-! ## Escapes -/

theorem codePoint?_of_quote {digits : List Char} (quoted : '"' ∈ digits) :
    codePoint? digits = none := by
  have fails (value : Nat) : digits.foldlM (fun value digit => do
      return value * 16 + (← Text.hexValue? digit)) value = none := by
    induction digits generalizing value with
    | nil => cases quoted
    | cons digit digits ih =>
        rw [List.foldlM_cons]
        rcases List.mem_cons.mp quoted with rfl | later
        · rfl
        · cases Text.hexValue? digit with
          | none => rfl
          | some found => exact ih later _
  rw [codePoint?, fails]
  rfl

/-- An escape lies in front of a double quote and does not depend on what stands behind it, or is
an escape of that quote. -/
theorem escape?_quote {before behind : List Char} {character : Char} {width : Nat}
    (found : escape? (before ++ '"' :: behind) = some (character, width)) :
    0 < width ∧ (width ≤ before.length ∧
        (∀ other, escape? (before ++ '"' :: other) = some (character, width)) ∨
      before = [] ∧ character = '"' ∧ width = 1) := by
  cases before with
  | nil =>
      cases found
      exact ⟨Nat.one_pos, .inr ⟨rfl, rfl, rfl⟩⟩
  | cons letter before =>
      simp only [List.cons_append, escape?] at found ⊢
      cases numbered : escapeWidth? letter with
      | none =>
          rw [numbered] at found
          obtain ⟨meant, escaped, same⟩ := Option.bind_eq_some_iff.mp found
          cases same
          simp [escaped]
      | some digits =>
          simp only [numbered] at found ⊢
          split at found
          case isFalse => cases found
          case isTrue long =>
            obtain ⟨meant, point, same⟩ := Option.bind_eq_some_iff.mp found
            cases same
            by_cases within : digits ≤ before.length
            · refine ⟨Nat.succ_pos _, .inl ⟨Nat.succ_le_succ within, fun other => ?_⟩⟩
              rw [List.take_append_of_le_length within] at long point ⊢
              rw [if_pos long, point]
              rfl
            · have quoted : '"' ∈ (before ++ '"' :: behind).take digits := by
                rw [List.take_append]
                obtain ⟨more, positive⟩ := Nat.exists_eq_add_of_lt (Nat.lt_of_not_le within)
                have taken : digits - before.length = more + 1 := by omega
                simp [taken]
              rw [codePoint?_of_quote quoted] at point
              cases point

theorem escape?_progress {text : List Char} {character : Char} {width : Nat}
    (found : escape? text = some (character, width)) : width ≤ text.length := by
  cases text with
  | nil => cases found
  | cons letter text =>
      simp only [escape?] at found
      split at found
      case h_1 digits _ =>
        split at found
        case isFalse => cases found
        case isTrue long =>
          obtain ⟨meant, -, same⟩ := Option.bind_eq_some_iff.mp found
          cases same
          rw [List.length_take] at long
          rw [List.length_cons]
          omega
      case h_2 =>
        obtain ⟨meant, -, same⟩ := Option.bind_eq_some_iff.mp found
        cases same
        simp

/-! ## One line -/

/-- A step that takes one character. -/
def plainStep (character : Char) : Option Step :=
  if isPlain character then some ⟨[character], 1, false⟩ else none

/-- A step behind a backslash. -/
def escapeStep (text : List Char) : Option Step :=
  (escape? text).map fun found => ⟨[found.1], found.2 + 1, false⟩

/-- A step between double quotes. -/
def basicStep : List Char → Option Step
  | [] => none
  | '"' :: _ => some ⟨[], 1, true⟩
  | '\\' :: text => escapeStep text
  | character :: _ => plainStep character

/-- A step between single quotes. -/
def literalStep : List Char → Option Step
  | [] => none
  | '\'' :: _ => some ⟨[], 1, true⟩
  | character :: _ => plainStep character

theorem plainStep_eq_some {character : Char} {taken : Step}
    (stepped : plainStep character = some taken) : taken = ⟨[character], 1, false⟩ := by
  rw [plainStep] at stepped
  split at stepped
  case isTrue => exact (Option.some_inj.mp stepped).symm
  case isFalse => cases stepped

theorem escapeStep_progress {text : List Char} {taken : Step}
    (stepped : escapeStep text = some taken) :
    0 < taken.width ∧ taken.width ≤ ('\\' :: text).length ∧ taken.piece.length ≤ taken.width := by
  obtain ⟨⟨character, width⟩, found, rfl⟩ := Option.map_eq_some_iff.mp stepped
  have within := escape?_progress found
  refine ⟨Nat.succ_pos _, Nat.succ_le_succ within, ?_⟩
  simp

theorem escapeStep_quote {before behind : List Char} {taken : Step}
    (stepped : escapeStep (before ++ '"' :: behind) = some taken) :
    taken.width ≤ before.length + 1 ∧
        (∀ other, escapeStep (before ++ '"' :: other) = some taken) ∨
      '"' ∈ taken.piece ∧ before = [] ∧ taken.width = 2 := by
  obtain ⟨⟨character, width⟩, found, rfl⟩ := Option.map_eq_some_iff.mp stepped
  obtain ⟨-, ⟨within, same⟩ | ⟨rfl, rfl, rfl⟩⟩ := escape?_quote found
  · refine .inl ⟨Nat.succ_le_succ within, ?_⟩
    intro other
    rw [escapeStep, same other]
    rfl
  · exact .inr ⟨.head _, rfl, rfl⟩

/-- One thing in front of those that are read behind it. -/
theorem grown_eq {α : Type} (first : α) (later : Option (List α × List Char)) :
    (do
      let (others, rest) ← later
      return (first :: others, rest)) =
      later.map fun found => ([first] ++ found.1, found.2) := by
  cases later <;> rfl

theorem basic?_skip (skipped : Nat) (text : List Char) :
    basic? skipped text = basic? 0 (text.drop skipped) := by
  induction skipped generalizing text with
  | zero => rfl
  | succ skipped ih =>
      cases text with
      | nil => rfl
      | cons character text => exact ih text

theorem basicStep_cons {character : Char} (notQuote : character ≠ '"')
    (notEscape : character ≠ '\\') (text : List Char) :
    basicStep (character :: text) = plainStep character :=
  basicStep.eq_4 _ _ notQuote notEscape

theorem scanner_basic : Scanner (basic? 0) basicStep where
  unfold := by
    intro text
    fun_cases basicStep text with
    | case1 => rfl
    | case2 behind => rfl
    | case3 behind =>
        rw [basic?, escapeStep]
        cases escape? behind with
        | none => rfl
        | some found => exact (grown_eq found.1 _).trans (by rw [basic?_skip]; rfl)
    | case4 character behind notQuote notEscape =>
        rw [basic?.eq_5 _ _ notQuote notEscape, plainStep, grown_eq]
        split <;> rfl
  progress := by
    intro text taken stepped
    fun_cases basicStep text with
    | case1 => cases stepped
    | case2 behind =>
        cases stepped
        simp
    | case3 behind => exact escapeStep_progress stepped
    | case4 character behind notQuote notEscape =>
        rw [basicStep_cons notQuote notEscape] at stepped
        simp [plainStep_eq_some stepped]
  steady := by
    intro before behind other taken stepped within goes
    cases before with
    | nil => exact stepped
    | cons character before =>
        by_cases isQuote : character = '"'
        · subst isQuote
          exact stepped
        · by_cases isEscape : character = '\\'
          · subst isEscape
            rcases escapeStep_quote stepped with ⟨-, same⟩ | ⟨-, rfl, width⟩
            · exact same other
            · simp [width] at within
          · rw [List.cons_append, basicStep_cons isQuote isEscape] at stepped ⊢
            exact stepped
  passes := by
    intro before behind taken stepped beyond
    cases before with
    | nil =>
        cases stepped
        exact .inr ⟨rfl, rfl⟩
    | cons character before =>
        by_cases isQuote : character = '"'
        · subst isQuote
          cases stepped
          simp at beyond
        · by_cases isEscape : character = '\\'
          · subst isEscape
            rcases escapeStep_quote stepped with ⟨within, -⟩ | ⟨quoted, -, -⟩
            · exact absurd beyond (Nat.not_lt.mpr within)
            · exact .inl quoted
          · rw [List.cons_append, basicStep_cons isQuote isEscape] at stepped
            simp [plainStep_eq_some stepped] at beyond

theorem literalStep_cons {character : Char} (notQuote : character ≠ '\'') (text : List Char) :
    literalStep (character :: text) = plainStep character :=
  literalStep.eq_3 _ _ notQuote

theorem scanner_literal : Scanner literal? literalStep where
  unfold := by
    intro text
    fun_cases literalStep text with
    | case1 => rfl
    | case2 behind => rfl
    | case3 character behind notQuote =>
        rw [literal?.eq_3 _ _ notQuote, plainStep, grown_eq]
        split <;> rfl
  progress := by
    intro text taken stepped
    fun_cases literalStep text with
    | case1 => cases stepped
    | case2 behind =>
        cases stepped
        simp
    | case3 character behind notQuote =>
        rw [literalStep_cons notQuote] at stepped
        simp [plainStep_eq_some stepped]
  steady := by
    intro before behind other taken stepped within goes
    cases before with
    | nil => exact stepped
    | cons character before =>
        by_cases isQuote : character = '\''
        · subst isQuote
          exact stepped
        · rw [List.cons_append, literalStep_cons isQuote] at stepped ⊢
          exact stepped
  passes := by
    intro before behind taken stepped beyond
    cases before with
    | nil =>
        cases stepped
        exact .inl (.head _)
    | cons character before =>
        by_cases isQuote : character = '\''
        · subst isQuote
          cases stepped
          simp at beyond
        · rw [List.cons_append, literalStep_cons isQuote] at stepped
          simp [plainStep_eq_some stepped] at beyond

/-! ## Several lines -/

/-- The number of quotes in front of the closing three. -/
def extraQuotes (quote : Char) (text : List Char) : Nat :=
  min 2 ((text.takeWhile (· == quote)).length - 3)

/-- A step inside three quotes of a kind, where no escape begins. -/
def enclosedStep (quote : Char) (text : List Char) : Option Step :=
  if closes quote text then
    some ⟨List.replicate (extraQuotes quote text) quote, 3 + extraQuotes quote text, true⟩
  else if isMultiPlain text then some ⟨text.take 1, 1, false⟩
  else none

/-- A step between three double quotes. -/
def multiBasicStep : List Char → Option Step
  | '\\' :: text =>
    match swallowed? text with
    | some width => some ⟨[], width + 1, false⟩
    | none => escapeStep text
  | text => enclosedStep '"' text

/-- A double quote is no part of a line break. -/
theorem noBreak_quote {character : Char} {text : List Char}
    (notBreak : ∀ later, character = '\r' → text = '\n' :: later → False) (behind : List Char) :
    ∀ later, character = '\r' → text ++ '"' :: behind = '\n' :: later → False := by
  intro later isReturn same
  cases text with
  | nil => cases same
  | cons feed text =>
      cases same
      exact notBreak text isReturn rfl

theorem layoutLength_quote (before behind : List Char) :
    layoutLength (before ++ '"' :: behind) = layoutLength before := by
  fun_induction layoutLength before with
  | case1 text ih => exact congrArg (· + 1) ih
  | case2 text ih => exact congrArg (· + 2) ih
  | case3 character text notFeed notBreak blank ih =>
      rw [List.cons_append, layoutLength.eq_3 _ _ notFeed (noBreak_quote notBreak behind),
        if_pos blank, ih]
  | case4 character text notFeed notBreak solid =>
      rw [List.cons_append, layoutLength.eq_3 _ _ notFeed (noBreak_quote notBreak behind),
        if_neg solid]
  | case5 => rfl

theorem layoutLength_le (text : List Char) : layoutLength text ≤ text.length := by
  fun_induction layoutLength text <;> simp_all

theorem swallowed?_quote (before behind : List Char) :
    swallowed? (before ++ '"' :: behind) = swallowed? before := by
  rw [swallowed?, swallowed?, List.dropWhile_append, layoutLength_quote]
  cases before.dropWhile isLineBlank with
  | nil => rfl
  | cons first later =>
      cases later with
      | nil => simp
      | cons second later => rfl

theorem swallowed?_le {text : List Char} {width : Nat} (swallowed : swallowed? text = some width) :
    width ≤ text.length := by
  simp only [swallowed?] at swallowed
  split at swallowed
  case isTrue =>
    cases swallowed
    exact layoutLength_le text
  case isFalse => cases swallowed

/-- Of what stands behind a character only a line feed matters. -/
theorem isMultiPlain_congr {text other : List Char}
    (same : text.head? = some '\n' ↔ other.head? = some '\n') (character : Char) :
    isMultiPlain (character :: text) = isMultiPlain (character :: other) := by
  by_cases isFeed : character = '\n'
  · subst isFeed
    rfl
  · by_cases isBreak : character = '\r' ∧ text.head? = some '\n'
    · obtain ⟨rfl, feed⟩ := isBreak
      obtain ⟨_, rfl⟩ := List.head?_eq_some_iff.mp feed
      obtain ⟨_, rfl⟩ := List.head?_eq_some_iff.mp (same.mp feed)
      rfl
    · have single {text : List Char} (apart : ¬(character = '\r' ∧ text.head? = some '\n')) :
          isMultiPlain (character :: text) = isPlain character :=
        isMultiPlain.eq_3 _ _ isFeed fun _ isReturn feed => apart ⟨isReturn, feed ▸ rfl⟩
      rw [single isBreak, single fun isToo => isBreak ⟨isToo.1, same.mpr isToo.2⟩]

theorem isMultiPlain_quote (character : Char) (before behind : List Char) :
    isMultiPlain (character :: (before ++ '"' :: behind)) = isMultiPlain (character :: before) := by
  apply isMultiPlain_congr
  cases before with
  | nil => simp
  | cons next before => rfl

theorem closes_iff {quote : Char} {text : List Char} :
    closes quote text = true ↔ ∃ behind, text = quote :: quote :: quote :: behind := by
  match text with
  | [] | [_] | [_, _] => simp [closes]
  | first :: second :: third :: text => simp [closes]

/-- How far a quotation that ends reaches. -/
theorem closing_le {quote : Char} {text : List Char} (closed : closes quote text = true) :
    3 + extraQuotes quote text ≤ (text.takeWhile (· == quote)).length := by
  obtain ⟨behind, rfl⟩ := closes_iff.mp closed
  simp only [extraQuotes, List.takeWhile_cons_of_pos, beq_self_eq_true, List.length_cons]
  omega

theorem extraQuotes_quote {quote : Char} {before behind : List Char}
    (within : 3 + extraQuotes quote (before ++ '"' :: behind) ≤ before.length)
    (other : List Char) :
    extraQuotes quote (before ++ '"' :: other) = extraQuotes quote (before ++ '"' :: behind) := by
  rw [extraQuotes, extraQuotes, List.takeWhile_append, List.takeWhile_append] at *
  split
  case isFalse => rfl
  case isTrue all =>
    rw [if_pos all] at within
    by_cases isQuote : quote = '"'
    · subst isQuote
      simp at within ⊢
      omega
    · have apart : ('"' == quote) = false := by simpa using Ne.symm isQuote
      simp [apart]

theorem closes_quote {quote : Char} {before : List Char} (two : 2 ≤ before.length)
    (behind other : List Char) :
    closes quote (before ++ '"' :: other) = closes quote (before ++ '"' :: behind) := by
  match before with
  | [] | [_] => simp at two
  | [_, _] => rfl
  | _ :: _ :: _ :: _ => rfl

theorem enclosedStep_progress {quote : Char} {text : List Char} {taken : Step}
    (stepped : enclosedStep quote text = some taken) :
    0 < taken.width ∧ taken.width ≤ text.length ∧ taken.piece.length ≤ taken.width := by
  rw [enclosedStep] at stepped
  split at stepped
  case isTrue closed =>
    cases stepped
    have reach := closing_le closed
    have run := (List.takeWhile_sublist (l := text) (· == quote)).length_le
    simp
    omega
  case isFalse =>
    split at stepped
    case isTrue plain =>
      cases stepped
      cases text with
      | nil => cases plain
      | cons character text => simp
    case isFalse => cases stepped

theorem enclosedStep_steady {quote : Char} {before behind : List Char} {taken : Step}
    (stepped : enclosedStep quote (before ++ '"' :: behind) = some taken)
    (within : taken.width ≤ before.length)
    (goes : taken.isLast = false → taken.width < before.length) (other : List Char) :
    enclosedStep quote (before ++ '"' :: other) = some taken := by
  rw [enclosedStep] at stepped ⊢
  split at stepped
  case isTrue closed =>
    cases stepped
    have two : 2 ≤ before.length := by
      simp only at within
      omega
    rw [closes_quote two behind, if_pos closed, extraQuotes_quote within]
  case isFalse isOpen =>
    split at stepped
    case isTrue plain =>
      cases stepped
      have two : 2 ≤ before.length := goes rfl
      rw [closes_quote two behind, if_neg isOpen]
      cases before with
      | nil => simp at two
      | cons character before =>
          rw [List.cons_append, isMultiPlain_quote] at plain ⊢
          rw [if_pos plain]
          rfl
    case isFalse => cases stepped

theorem enclosedStep_passes {quote : Char} {before behind : List Char} {taken : Step}
    (stepped : enclosedStep quote (before ++ '"' :: behind) = some taken)
    (beyond : before.length < taken.width) :
    '"' ∈ taken.piece ∨ taken.isLast = true ∧ taken.piece = [] := by
  rw [enclosedStep] at stepped
  split at stepped
  case isTrue closed =>
    cases stepped
    by_cases isQuote : quote = '"'
    · subst isQuote
      cases extraQuotes '"' (before ++ '"' :: behind) with
      | zero => exact .inr ⟨rfl, rfl⟩
      | succ extra => exact .inl (.head _)
    · have reach := closing_le closed
      have apart : ('"' == quote) = false := by simpa using Ne.symm isQuote
      have run := (List.takeWhile_sublist (l := before) (· == quote)).length_le
      rw [List.takeWhile_append, List.takeWhile_cons_of_neg (by simp [apart]),
        List.append_nil] at reach
      simp only at beyond
      split at reach <;> omega
  case isFalse =>
    split at stepped
    case isTrue plain =>
      cases stepped
      cases before with
      | nil => exact .inl (.head _)
      | cons character before => simp at beyond
    case isFalse => cases stepped

theorem multiBasic?_skip (skipped : Nat) (text : List Char) :
    multiBasic? skipped text = multiBasic? 0 (text.drop skipped) := by
  induction skipped generalizing text with
  | zero => rfl
  | succ skipped ih =>
      cases text with
      | nil => rfl
      | cons character text => exact ih text

theorem multiBasicStep_of_ne {text : List Char} (notEscape : text.head? ≠ some '\\') :
    multiBasicStep text = enclosedStep '"' text :=
  multiBasicStep.eq_2 _ fun _ same => notEscape (same ▸ rfl)

/-- What is read with a step inside three quotes. -/
theorem enclosedStep_bind {quote : Char} {character : Char} {text : List Char}
    (later : Option (List Char × List Char))
    (read : List Char → Option (List Char × List Char)) (same : read text = later) :
    (if closes quote (character :: text) then some (closing quote (character :: text))
      else if isMultiPlain (character :: text) then do
        let (content, rest) ← later
        return (character :: content, rest)
      else none) =
      (enclosedStep quote (character :: text)).bind fun taken =>
        if taken.isLast then some (taken.piece, (character :: text).drop taken.width)
        else (read ((character :: text).drop taken.width)).map fun found =>
          (taken.piece ++ found.1, found.2) := by
  subst same
  rw [enclosedStep, grown_eq]
  split
  case isTrue => rfl
  case isFalse => split <;> rfl

theorem scanner_multiBasic : Scanner (multiBasic? 0) multiBasicStep where
  unfold := by
    intro text
    fun_cases multiBasicStep text with
    | case1 behind width swallowed =>
        rw [multiBasic?, swallowed]
        exact (multiBasic?_skip width behind).trans Option.map_id_apply.symm
    | case2 behind kept =>
        rw [multiBasic?, kept, escapeStep]
        cases escape? behind with
        | none => rfl
        | some found => exact (grown_eq found.1 _).trans (by rw [multiBasic?_skip]; rfl)
    | case3 _ notEscape =>
        cases text with
        | nil => rfl
        | cons character text =>
            rw [multiBasic?.eq_4 _ _ fun same => notEscape text (same ▸ rfl)]
            exact enclosedStep_bind _ _ rfl
  progress := by
    intro text taken stepped
    fun_cases multiBasicStep text with
    | case1 behind width swallowed =>
        rw [multiBasicStep, swallowed] at stepped
        cases stepped
        exact ⟨Nat.succ_pos _, Nat.succ_le_succ (swallowed?_le swallowed), Nat.zero_le _⟩
    | case2 behind kept =>
        rw [multiBasicStep, kept] at stepped
        exact escapeStep_progress stepped
    | case3 _ notEscape =>
        rw [multiBasicStep.eq_2 _ notEscape] at stepped
        exact enclosedStep_progress stepped
  steady := by
    intro before behind other taken stepped within goes
    cases before with
    | nil =>
        have begins : enclosedStep '"' ([] ++ '"' :: behind) = some taken := stepped
        exact enclosedStep_steady begins within goes other
    | cons character before =>
        by_cases isEscape : character = '\\'
        · subst isEscape
          rw [List.cons_append, multiBasicStep, swallowed?_quote] at stepped ⊢
          split at stepped
          case h_1 => exact stepped
          case h_2 =>
            rcases escapeStep_quote stepped with ⟨-, same⟩ | ⟨-, rfl, width⟩
            · exact same other
            · simp [width] at within
        · rw [multiBasicStep_of_ne (by simpa using isEscape)] at stepped ⊢
          exact enclosedStep_steady stepped within goes other
  passes := by
    intro before behind taken stepped beyond
    cases before with
    | nil =>
        have begins : enclosedStep '"' ([] ++ '"' :: behind) = some taken := stepped
        exact enclosedStep_passes begins beyond
    | cons character before =>
        by_cases isEscape : character = '\\'
        · subst isEscape
          rw [List.cons_append, multiBasicStep, swallowed?_quote] at stepped
          split at stepped
          case h_1 width swallowed =>
            cases stepped
            exact absurd (swallowed?_le swallowed) (Nat.not_le.mpr (Nat.lt_of_succ_lt_succ beyond))
          case h_2 =>
            rcases escapeStep_quote stepped with ⟨within, -⟩ | ⟨quoted, -, -⟩
            · exact absurd beyond (Nat.not_lt.mpr within)
            · exact .inl quoted
        · rw [multiBasicStep_of_ne (by simpa using isEscape)] at stepped
          exact enclosedStep_passes stepped beyond

theorem scanner_multiLiteral : Scanner multiLiteral? (enclosedStep '\'') where
  unfold := by
    intro text
    cases text with
    | nil => rfl
    | cons character text => exact enclosedStep_bind _ _ rfl
  progress _ _ stepped := enclosedStep_progress stepped
  steady _ _ other _ stepped within goes := enclosedStep_steady stepped within goes other
  passes _ _ _ stepped beyond := enclosedStep_passes stepped beyond

/-! ## Quotations -/

theorem withoutBreak_suffix (text : List Char) : withoutBreak text <:+ text := by
  fun_cases withoutBreak text with
  | case1 text => exact List.suffix_cons _ _
  | case2 text => exact (List.suffix_cons _ _).trans (List.suffix_cons _ _)
  | case3 text => exact List.suffix_rfl

theorem withoutBreak_quote (before behind : List Char) :
    withoutBreak (before ++ '"' :: behind) = withoutBreak before ++ '"' :: behind := by
  fun_cases withoutBreak before with
  | case1 | case2 => rfl
  | case3 _ notFeed notBreak =>
      refine withoutBreak.eq_3 _ ?_ ?_
      · intro text same
        cases before with
        | nil => cases same
        | cons feed before =>
            cases same
            exact notFeed before rfl
      · intro text same
        match before with
        | [] => cases same
        | [_] => cases same
        | _ :: _ :: before =>
            cases same
            exact notBreak before rfl

/-- The rest ends the text, and the content is no longer than what stands in front of it. -/
theorem quotation?_shortens {text content rest : List Char}
    (found : quotation? text = some (content, rest)) :
    rest <:+ text ∧ content.length + rest.length ≤ text.length ∧ rest.length < text.length := by
  have inside {read : List Char → Option (List Char × List Char)}
      {step : List Char → Option Step} (scanner : Scanner read step) {inner : List Char}
      (ends : inner <:+ text) (read : read inner = some (content, rest)) :
      rest <:+ text ∧ content.length + rest.length ≤ text.length ∧ rest.length < text.length := by
    obtain ⟨suffix, content, less⟩ := scanner.shortens read
    have length := ends.length_le
    exact ⟨suffix.trans ends, Nat.le_trans content length, Nat.lt_of_lt_of_le less length⟩
  have behindThree (first second third : Char) (text : List Char) :
      withoutBreak text <:+ first :: second :: third :: text :=
    (withoutBreak_suffix text).trans (List.drop_suffix 3 (first :: second :: third :: text))
  fun_cases quotation? text with
  | case1 inner => exact inside scanner_multiBasic (behindThree _ _ _ inner) found
  | case2 inner => exact inside scanner_multiLiteral (behindThree _ _ _ inner) found
  | case3 inner single =>
      rw [quotation?.eq_3 _ single] at found
      exact inside scanner_basic (List.suffix_cons _ _) found
  | case4 inner single =>
      rw [quotation?.eq_4 _ single] at found
      exact inside scanner_literal (List.suffix_cons _ _) found
  | case5 _ notThree notThreeToo notQuote notQuoteToo =>
      rw [quotation?.eq_5 _ notThree notThreeToo notQuote notQuoteToo] at found
      cases found

/-- A quotation that begins before a double quote, which is not part of how it begins. -/
theorem quotation?_opens {before behind content rest : List Char} (begun : before ≠ [])
    (apart : before.getLast? ≠ some '"')
    (found : quotation? (before ++ '"' :: behind) = some (content, rest)) :
    ∃ read step inner, Scanner read step ∧ inner.length < before.length ∧
      ∀ other, quotation? (before ++ '"' :: other) = read (inner ++ '"' :: other) := by
  have broken (inner : List Char) : (withoutBreak inner).length < inner.length + 3 :=
    Nat.lt_of_le_of_lt (withoutBreak_suffix inner).length_le (by omega)
  fun_cases quotation? before with
  | case1 inner =>
      refine ⟨multiBasic? 0, _, withoutBreak inner, scanner_multiBasic, broken inner, ?_⟩
      intro other
      rw [← withoutBreak_quote]
      rfl
  | case2 inner =>
      refine ⟨multiLiteral?, _, withoutBreak inner, scanner_multiLiteral, broken inner, ?_⟩
      intro other
      rw [← withoutBreak_quote]
      rfl
  | case3 inner single =>
      refine ⟨basic? 0, _, inner, scanner_basic, Nat.lt_succ_self _, ?_⟩
      intro other
      refine quotation?.eq_3 _ ?_
      intro text same
      match inner with
      | [] => exact apart rfl
      | [_] =>
          cases same
          exact apart rfl
      | _ :: _ :: inner =>
          cases same
          exact single inner rfl
  | case4 inner single =>
      refine ⟨literal?, _, inner, scanner_literal, Nat.lt_succ_self _, ?_⟩
      intro other
      refine quotation?.eq_4 _ ?_
      intro text same
      match inner with
      | [] | [_] => cases same
      | _ :: _ :: inner =>
          cases same
          exact single inner rfl
  | case5 _ _ _ notQuote notQuoteToo =>
      cases before with
      | nil => exact absurd rfl begun
      | cons first before =>
          have double : first ≠ '"' := fun same => notQuote before (same ▸ rfl)
          have single : first ≠ '\'' := fun same => notQuoteToo before (same ▸ rfl)
          rw [List.cons_append, quotation?.eq_5] at found
          · cases found
          · exact fun _ same => double (List.cons.inj same).1
          · exact fun _ same => single (List.cons.inj same).1
          · exact fun _ same => double (List.cons.inj same).1
          · exact fun _ same => single (List.cons.inj same).1

section Quote

variable {before behind left content rest : List Char}

/-- A quotation that ends before a double quote does not depend on what stands behind it. -/
theorem quotation?_steady (apart : before.getLast? ≠ some '"')
    (found : quotation? (before ++ '"' :: behind) = some (content, left ++ '"' :: behind))
    (other : List Char) :
    quotation? (before ++ '"' :: other) = some (content, left ++ '"' :: other) := by
  have begun : before ≠ [] := by
    rintro rfl
    have less := (quotation?_shortens found).2.2
    simp at less
    omega
  obtain ⟨read, step, inner, scanner, -, same⟩ := quotation?_opens begun apart found
  rw [same] at found ⊢
  exact scanner.reads_steady found other

/-- A quotation that begins before a double quote holds it, or is no longer than what stands in
front of the quote. -/
theorem quotation?_passes (begun : before ≠ []) (apart : before.getLast? ≠ some '"')
    (found : quotation? (before ++ '"' :: behind) = some (content, rest)) :
    '"' ∈ content ∨ content.length ≤ before.length := by
  obtain ⟨read, step, inner, scanner, shorter, same⟩ := quotation?_opens begun apart found
  rw [same] at found
  rcases scanner.reads_passes found with quoted | short
  · exact .inl quoted
  · exact .inr (Nat.le_trans short (Nat.le_of_lt shorter))

/-- A quotation of one line is any quotation that does not begin with three quotes. -/
theorem lineQuotation?_eq (text : List Char) :
    lineQuotation? text =
      if closes '"' text ∨ closes '\'' text then none else quotation? text := by
  fun_cases lineQuotation? text with
  | case1 text => rw [if_pos (.inl (closes_iff.mpr ⟨text, rfl⟩))]
  | case2 text => rw [if_pos (.inr (closes_iff.mpr ⟨text, rfl⟩))]
  | case3 text single =>
      rw [quotation?.eq_3 _ single, if_neg]
      rintro (closed | closed) <;> obtain ⟨behind, same⟩ := closes_iff.mp closed <;> cases same
      exact single behind rfl
  | case4 text single =>
      rw [quotation?.eq_4 _ single, if_neg]
      rintro (closed | closed) <;> obtain ⟨behind, same⟩ := closes_iff.mp closed <;> cases same
      exact single behind rfl
  | case5 _ notThree notThreeToo notQuote notQuoteToo =>
      rw [quotation?.eq_5 _ notThree notThreeToo notQuote notQuoteToo, ite_self]

theorem lineQuotation?_shortens (found : lineQuotation? before = some (content, rest)) :
    rest <:+ before ∧ rest.length < before.length := by
  rw [lineQuotation?_eq] at found
  split at found
  case isTrue => cases found
  case isFalse =>
    obtain ⟨suffix, -, less⟩ := quotation?_shortens found
    exact ⟨suffix, less⟩

/-- The same for a quotation of one line. -/
theorem lineQuotation?_steady (apart : before.getLast? ≠ some '"')
    (found : lineQuotation? (before ++ '"' :: behind) = some (content, left ++ '"' :: behind))
    (other : List Char) :
    lineQuotation? (before ++ '"' :: other) = some (content, left ++ '"' :: other) := by
  have opening (quote : Char) (begun : before ≠ []) : closes quote (before ++ '"' :: other) =
      closes quote (before ++ '"' :: behind) := by
    match before with
    | [] => exact absurd rfl begun
    | [first] =>
        have never (text : List Char) : closes quote (first :: '"' :: text) = false := by
          refine Bool.eq_false_iff.mpr ?_
          intro closed
          obtain ⟨_, same⟩ := closes_iff.mp closed
          cases same
          exact apart rfl
        exact (never other).trans (never behind).symm
    | _ :: _ :: before => exact closes_quote (by simp) behind other
  rw [lineQuotation?_eq] at found ⊢
  split at found
  case isTrue => cases found
  case isFalse isLine =>
    have begun : before ≠ [] := by
      rintro rfl
      have less := (quotation?_shortens found).2.2
      simp at less
      omega
    rw [opening _ begun, opening _ begun, if_neg isLine]
    exact quotation?_steady apart found other

end Quote
end ResponsesBridge.Toml
