import ResponsesBridge.Proofs.Toml.Readers

/-!
# Readers that stop before a quote

A reader that stops in front of a double quote does not depend on what stands behind the quote
(`Steady`). The readers that documents are read with have this property, and the ways of putting
readers together keep it.
-/

set_option autoImplicit false

namespace ResponsesBridge.Toml

open Reader

variable {α β : Type}

/-- A reader leaves an end of the text; and if it stops before a double quote, then it does not
depend on what stands behind the quote. The text in front of the quote must not end with another
one. -/
structure Steady (reader : Reader α) : Prop where
  shortens : ∀ {text value rest}, reader text = some (value, rest) → rest <:+ text
  steady : ∀ {before behind left value}, before.getLast? ≠ some '"' →
    reader (before ++ '"' :: behind) = some (value, left ++ '"' :: behind) →
    ∀ other, reader (before ++ '"' :: other) = some (value, left ++ '"' :: other)

/-- What lies between two ends of a text ends in the shorter one. -/
theorem split_of_suffix {before behind middle left : List Char} (ends : middle <:+ before ++ behind)
    (more : left ++ behind <:+ middle) : ∃ kept, kept <:+ before ∧ middle = kept ++ behind := by
  obtain ⟨taken, whole⟩ := ends
  obtain ⟨next, rfl⟩ := more
  rw [← List.append_assoc, ← List.append_assoc, List.append_cancel_right_eq] at whole
  exact ⟨next ++ left, ⟨taken, by rw [← List.append_assoc, whole]⟩, (List.append_assoc _ _ _).symm⟩

theorem getLast?_ne_of_suffix {kept before : List Char} {character : Char} (ends : kept <:+ before)
    (apart : before.getLast? ≠ some character) : kept.getLast? ≠ some character := by
  obtain ⟨taken, rfl⟩ := ends
  intro same
  rw [List.getLast?_append, same] at apart
  exact apart rfl

/-- A dropped beginning ends before the quote at the latest. -/
theorem dropWhile_quote {test : Char → Bool} (stops : test '"' = false)
    (before behind : List Char) :
    (before ++ '"' :: behind).dropWhile test = before.dropWhile test ++ '"' :: behind := by
  rw [List.dropWhile_append]
  split
  case isTrue empty =>
    rw [List.isEmpty_iff.mp empty, List.dropWhile_cons_of_neg (by simp [stops])]
    rfl
  case isFalse => rfl

theorem takeWhile_quote {test : Char → Bool} (stops : test '"' = false)
    (before behind : List Char) :
    (before ++ '"' :: behind).takeWhile test = before.takeWhile test := by
  rw [List.takeWhile_append, List.takeWhile_cons_of_neg (by simp [stops]), List.append_nil]
  split
  case isTrue all => exact ((List.takeWhile_prefix test).eq_of_length all).symm
  case isFalse => rfl

namespace Steady

theorem yield (value : α) : Steady (yield value) where
  shortens := by
    rintro text _ _ ⟨⟩
    exact List.suffix_rfl
  steady := by
    intro before behind left _ _ found other
    simp only [Reader.yield, Option.some_inj, Prod.mk.injEq, List.append_cancel_right_eq] at found ⊢
    exact found

theorem fail : Steady (fail : Reader α) where
  shortens := nofun
  steady := nofun

theorem seq {first : Reader α} {second : Reader β} (one : Steady first) (two : Steady second) :
    Steady (seq first second) where
  shortens := by
    intro text value rest found
    obtain ⟨⟨_, middle⟩, read, goesOn⟩ := Option.bind_eq_some_iff.mp found
    obtain ⟨⟨_, _⟩, next, same⟩ := Option.map_eq_some_iff.mp goesOn
    cases same
    exact (two.shortens next).trans (one.shortens read)
  steady := by
    intro before behind left value apart found other
    obtain ⟨⟨_, middle⟩, read, goesOn⟩ := Option.bind_eq_some_iff.mp found
    obtain ⟨⟨_, _⟩, next, same⟩ := Option.map_eq_some_iff.mp goesOn
    cases same
    obtain ⟨kept, ends, rfl⟩ := split_of_suffix (one.shortens read) (two.shortens next)
    rw [Reader.seq, one.steady apart read other, Option.bind_some,
      two.steady (getLast?_ne_of_suffix ends apart) next other, Option.map_some]

theorem select {reader : Reader α} (steady : Steady reader) (make : α → Option β) :
    Steady (select make reader) where
  shortens := by
    intro text value rest found
    obtain ⟨⟨_, _⟩, read, made⟩ := Option.bind_eq_some_iff.mp found
    obtain ⟨_, _, same⟩ := Option.map_eq_some_iff.mp made
    cases same
    exact steady.shortens read
  steady := by
    intro before behind left value apart found other
    obtain ⟨⟨_, _⟩, read, made⟩ := Option.bind_eq_some_iff.mp found
    obtain ⟨_, is, same⟩ := Option.map_eq_some_iff.mp made
    cases same
    rw [Reader.select, steady.steady apart read other, Option.bind_some, is, Option.map_some]

theorem andThen {first : Reader Unit} {second : Reader β} (one : Steady first)
    (two : Steady second) : Steady (first.andThen second) :=
  (one.seq two).select _

theorem ifHead {test : Option Char → Bool} {yes no : Reader α} (one : Steady yes)
    (two : Steady no) : Steady (ifHead test yes no) where
  shortens := by
    intro text value rest found
    rw [Reader.ifHead] at found
    split at found
    case isTrue => exact one.shortens found
    case isFalse => exact two.shortens found
  steady := by
    intro before behind left value apart found other
    have same : (before ++ '"' :: other).head? = (before ++ '"' :: behind).head? := by
      cases before <;> rfl
    rw [Reader.ifHead] at found ⊢
    rw [same]
    split at found
    case isTrue holds =>
      rw [if_pos holds]
      exact one.steady apart found other
    case isFalse fails =>
      rw [if_neg fails]
      exact two.steady apart found other

theorem mark {expected : Char} (apart : expected ≠ '"') : Steady (mark expected) where
  shortens := by
    intro text value rest found
    cases text with
    | nil => cases found
    | cons character text =>
        rw [Reader.mark] at found
        split at found
        case isTrue =>
          cases found
          exact List.suffix_cons _ _
        case isFalse => cases found
  steady := by
    intro before behind left value _ found other
    cases before with
    | nil =>
        rw [List.nil_append, Reader.mark, if_neg apart.symm] at found
        cases found
    | cons character before =>
        rw [List.cons_append, Reader.mark] at found ⊢
        split at found
        case isTrue same =>
          simp only [Option.some_inj, Prod.mk.injEq, List.append_cancel_right_eq] at found
          rw [if_pos same, found.2]
        case isFalse => cases found

theorem blanks : Steady blanks where
  shortens := by
    rintro text _ _ ⟨⟩
    exact List.dropWhile_suffix _
  steady := by
    intro before behind left _ _ found other
    simp only [Reader.blanks, skipBlanks, dropWhile_quote (by decide : isLineBlank '"' = false),
      Option.some_inj, Prod.mk.injEq, List.append_cancel_right_eq] at found ⊢
    exact found

theorem skipLayout?_suffix {inside : Bool} {text rest : List Char}
    (found : skipLayout? inside text = some rest) : rest <:+ text := by
  fun_induction skipLayout? inside text with
  | case1 =>
      cases found
      exact List.suffix_rfl
  | case2 _ text ih => exact (ih found).trans (List.suffix_cons _ _)
  | case3 _ text ih =>
      exact (ih found).trans ((List.suffix_cons _ _).trans (List.suffix_cons _ _))
  | case4 character text _ _ _ ih => exact (ih found).trans (List.suffix_cons _ _)
  | case5 => cases found
  | case6 text ih => exact (ih found).trans (List.suffix_cons _ _)
  | case7 character text _ _ _ _ ih => exact (ih found).trans (List.suffix_cons _ _)
  | case8 =>
      cases found
      exact List.suffix_rfl

theorem skipLayout?_steady {inside : Bool} {before behind left : List Char}
    (found : skipLayout? inside (before ++ '"' :: behind) = some (left ++ '"' :: behind))
    (other : List Char) :
    skipLayout? inside (before ++ '"' :: other) = some (left ++ '"' :: other) := by
  fun_induction skipLayout? inside before with
  | case1 inside =>
      cases inside with
      | true =>
          have read : skipLayout? true behind = some (left ++ '"' :: behind) := found
          have shorter := (skipLayout?_suffix read).length_le
          simp at shorter
          omega
      | false =>
          have same : '"' :: behind = left ++ '"' :: behind := Option.some_inj.mp found
          have none : left = [] := by simpa using same
          rw [none]
          rfl
  | case2 _ text ih => exact ih found
  | case3 _ text ih => exact ih found
  | case4 character text notFeed notBreak plain ih =>
      rw [List.cons_append, skipLayout?.eq_4 _ _ notFeed (noBreak_quote notBreak _),
        if_pos plain] at found ⊢
      exact ih found
  | case5 character text notFeed notBreak refused =>
      rw [List.cons_append, skipLayout?.eq_4 _ _ notFeed (noBreak_quote notBreak _),
        if_neg refused] at found
      cases found
  | case6 text ih => exact ih found
  | case7 character text notFeed notBreak notHash blank ih =>
      rw [List.cons_append, skipLayout?.eq_6 _ _ notFeed (noBreak_quote notBreak _) notHash,
        if_pos blank] at found ⊢
      exact ih found
  | case8 character text notFeed notBreak notHash solid =>
      rw [List.cons_append, skipLayout?.eq_6 _ _ notFeed (noBreak_quote notBreak _) notHash,
        if_neg solid, Option.some_inj, ← List.cons_append, List.append_cancel_right_eq] at found ⊢
      exact found

theorem layout : Steady layout where
  shortens := by
    intro text value rest found
    obtain ⟨_, skipped, same⟩ := Option.map_eq_some_iff.mp found
    cases same
    exact skipLayout?_suffix skipped
  steady := by
    intro before behind left value _ found other
    obtain ⟨_, skipped, same⟩ := Option.map_eq_some_iff.mp found
    cases same
    rw [Reader.layout, skipLayout?_steady skipped other]
    rfl

theorem comment : Steady comment where
  shortens := by
    rintro text _ _ ⟨⟩
    exact List.dropWhile_suffix _
  steady := by
    intro before behind left _ _ found other
    simp only [Reader.comment, List.dropWhile_append, Option.some_inj, Prod.mk.injEq,
      true_and] at found ⊢
    split at found
    case isTrue =>
      have shorter := (List.dropWhile_suffix (l := behind) isPlain).length_le
      have length := congrArg List.length found
      rw [List.dropWhile_cons_of_pos (by decide), List.length_append, List.length_cons] at length
      omega
    case isFalse more =>
      rw [if_neg more]
      rw [List.append_cancel_right_eq] at found
      rw [found]

theorem lineBreak : Steady lineBreak where
  shortens := by
    intro text value rest found
    fun_cases Reader.lineBreak text with
    | case1 =>
        cases found
        exact List.suffix_rfl
    | case2 text =>
        cases found
        exact List.suffix_cons _ _
    | case3 text =>
        cases found
        exact (List.suffix_cons _ _).trans (List.suffix_cons _ _)
    | case4 _ notEmpty notFeed notBreak =>
        rw [Reader.lineBreak.eq_4 _ notEmpty notFeed notBreak] at found
        cases found
  steady := by
    intro before behind left value _ found other
    fun_cases Reader.lineBreak before with
    | case1 => cases found
    | case2 before | case3 before =>
        simp only [List.cons_append, Reader.lineBreak, Option.some_inj, Prod.mk.injEq,
          List.append_cancel_right_eq] at found ⊢
        exact found
    | case4 _ notEmpty notFeed notBreak =>
        cases before with
        | nil => exact (notEmpty rfl).elim
        | cons first before =>
            rw [List.cons_append, Reader.lineBreak.eq_4] at found
            · cases found
            · nofun
            · exact fun _ same => notFeed before (by rw [(List.cons.inj same).1])
            · intro _ same
              obtain ⟨rfl, later⟩ := List.cons.inj same
              exact noBreak_quote (fun _ _ feed => notBreak _ (by rw [feed])) behind _ rfl later

theorem lineEnd : Steady lineEnd := by
  rw [lineEnd_eq]
  exact blanks.andThen ((comment.ifHead (yield ())).andThen lineBreak)

theorem name : Steady name? where
  shortens := by
    intro text value rest found
    simp only [name?] at found
    split at found
    case isTrue =>
      obtain ⟨⟨_, _⟩, quoted, same⟩ := Option.bind_eq_some_iff.mp found
      cases same
      exact (lineQuotation?_shortens quoted).1
    case isFalse =>
      cases found
      exact List.dropWhile_suffix _
  steady := by
    intro before behind left value apart found other
    simp only [name?, takeWhile_quote (by decide : isNameChar '"' = false),
      dropWhile_quote (by decide : isNameChar '"' = false)] at found ⊢
    split at found
    case isTrue empty =>
      obtain ⟨⟨_, _⟩, quoted, same⟩ := Option.bind_eq_some_iff.mp found
      cases same
      rw [if_pos empty, lineQuotation?_steady apart quoted other]
      rfl
    case isFalse named =>
      simp only [Option.some_inj, Prod.mk.injEq, List.append_cancel_right_eq] at found
      rw [if_neg named, found.1, found.2]

theorem quoted : Steady quoted where
  shortens := by
    intro text value rest found
    obtain ⟨⟨_, _⟩, quoted, same⟩ := Option.map_eq_some_iff.mp found
    cases same
    exact (quotation?_shortens quoted).1
  steady := by
    intro before behind left value apart found other
    obtain ⟨⟨_, _⟩, quoted, same⟩ := Option.map_eq_some_iff.mp found
    cases same
    rw [Reader.quoted, quotation?_steady apart quoted other]
    rfl

/-- What may stand behind a date: the time, with a space in front of it. -/
theorem scalarRest?_eq (text : List Char) :
    scalarRest? text =
      if isDate (text.takeWhile isScalarChar) then
        if (text.dropWhile isScalarChar).head? = some ' ' ∧
            isPlacedTime (((text.dropWhile isScalarChar).drop 1).takeWhile isScalarChar) then
          some (((text.dropWhile isScalarChar).drop 1).dropWhile isScalarChar)
        else some (text.dropWhile isScalarChar)
      else if isScalar (text.takeWhile isScalarChar) then some (text.dropWhile isScalarChar)
      else none := by
  simp only [scalarRest?]
  split
  case isTrue =>
    split
    case h_1 following spaced => simp [spaced]
    case h_2 notSpaced =>
      rw [if_neg]
      rintro ⟨spaced, -⟩
      obtain ⟨following, same⟩ := List.head?_eq_some_iff.mp spaced
      exact notSpaced following same
  case isFalse => rfl

/-- A scalar ends before the quote at the latest. -/
theorem scalarRest?_quote (before behind : List Char) :
    scalarRest? (before ++ '"' :: behind) = (scalarRest? before).map (· ++ '"' :: behind) := by
  have stops : isScalarChar '"' = false := by decide
  simp only [scalarRest?_eq, takeWhile_quote stops, dropWhile_quote stops]
  cases before.dropWhile isScalarChar with
  | nil =>
      simp only [List.nil_append, List.head?_cons, List.head?_nil, Option.some_inj, reduceCtorEq,
        (by decide : ('"' : Char) ≠ ' '), false_and, if_false]
      split
      case isTrue => rfl
      case isFalse => split <;> rfl
  | cons first later =>
      simp only [List.cons_append, List.head?_cons, List.drop_succ_cons, List.drop_zero,
        takeWhile_quote stops, dropWhile_quote stops]
      split
      case isTrue => split <;> rfl
      case isFalse => split <;> rfl

theorem scalar : Steady scalar where
  shortens := by
    intro text value rest found
    obtain ⟨_, skipped, same⟩ := Option.map_eq_some_iff.mp found
    cases same
    have rest : text.dropWhile isScalarChar <:+ text := List.dropWhile_suffix _
    rw [scalarRest?_eq] at skipped
    split at skipped
    · split at skipped
      · cases skipped
        exact ((List.dropWhile_suffix _).trans (List.drop_suffix _ _)).trans rest
      · cases skipped
        exact rest
    · split at skipped
      · cases skipped
        exact rest
      · cases skipped
  steady := by
    intro before behind left value _ found other
    obtain ⟨_, skipped, same⟩ := Option.map_eq_some_iff.mp found
    cases same
    rw [scalarRest?_quote] at skipped
    obtain ⟨rest, ends, same⟩ := Option.map_eq_some_iff.mp skipped
    rw [List.append_cancel_right_eq] at same
    rw [Reader.scalar, scalarRest?_quote, ends, same]
    rfl

theorem field {value : Reader Entry} (key : Steady key?) (steady : Steady value) :
    Steady (field value) :=
  key.seq (blanks.andThen ((mark (by decide)).andThen (blanks.andThen steady)))

theorem moreItems {close : Char} (apart : close ≠ '"') {more : Reader (List α)}
    (others : Steady more) : Steady (moreItems close more) :=
  ((mark (by decide)).andThen others).ifHead ((mark apart).andThen (yield []))

theorem listing {close : Char} (apart : close ≠ '"') {item : Reader α} {more : Reader (List α)}
    (one : Steady item) (others : Steady more) : Steady (listing close item more) := by
  refine layout.andThen (ifHead ?_ ?_)
  · exact (mark apart).andThen (yield [])
  · exact (one.seq (layout.andThen (moreItems apart others))).select _

end Steady
end ResponsesBridge.Toml
