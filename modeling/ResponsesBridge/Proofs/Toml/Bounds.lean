import ResponsesBridge.Proofs.Toml.Steadiness

/-!
# The bounds of the readers do not matter

The recursion of the readers is bounded by numbers. On texts of a length, a reader with a bound that
suffices for the length reads whatever is read with any other bound (`Within`), so that from some
bound on all read the same (`Settles`). What holds with every bound, therefore, holds of the readers
without one: they are steady (`Steady.settled`).
-/

set_option autoImplicit false

namespace ResponsesBridge.Toml

open Reader

variable {α β : Type}

/-! ## Readers that take something -/

/-- A reader takes at least one character. -/
def Strict (reader : Reader α) : Prop :=
  ∀ text value rest, reader text = some (value, rest) → rest.length < text.length

namespace Strict

theorem mark (expected : Char) : Strict (mark expected) := by
  intro text value rest found
  cases text with
  | nil => cases found
  | cons character text =>
      rw [Reader.mark] at found
      split at found
      case isTrue =>
        cases found
        exact Nat.lt_succ_self _
      case isFalse => cases found

theorem seq {first : Reader α} {second : Reader β} (strict : Strict first)
    (steady : Steady second) : Strict (seq first second) := by
  intro text value rest found
  obtain ⟨⟨_, middle⟩, read, goesOn⟩ := Option.bind_eq_some_iff.mp found
  obtain ⟨⟨_, _⟩, next, same⟩ := Option.map_eq_some_iff.mp goesOn
  cases same
  exact Nat.lt_of_le_of_lt (steady.shortens next).length_le (strict _ _ _ read)

theorem select {reader : Reader α} (strict : Strict reader) (make : α → Option β) :
    Strict (select make reader) := by
  intro text value rest found
  obtain ⟨⟨_, _⟩, read, made⟩ := Option.bind_eq_some_iff.mp found
  obtain ⟨_, _, same⟩ := Option.map_eq_some_iff.mp made
  cases same
  exact strict _ _ _ read

theorem andThen {first : Reader Unit} {second : Reader β} (strict : Strict first)
    (steady : Steady second) : Strict (first.andThen second) :=
  (strict.seq steady).select _

theorem ifHead {test : Option Char → Bool} {yes no : Reader α} (one : Strict yes)
    (two : Strict no) : Strict (ifHead test yes no) := by
  intro text value rest found
  rw [Reader.ifHead] at found
  split at found
  case isTrue => exact one _ _ _ found
  case isFalse => exact two _ _ _ found

theorem name : Strict name? := by
  intro text value rest found
  simp only [name?] at found
  split at found
  case isTrue =>
    obtain ⟨⟨_, _⟩, quoted, same⟩ := Option.bind_eq_some_iff.mp found
    cases same
    exact (lineQuotation?_shortens quoted).2
  case isFalse named =>
    cases found
    have whole := congrArg List.length
      (List.takeWhile_append_dropWhile (p := isNameChar) (l := text))
    have taken : 0 < (text.takeWhile isNameChar).length := by
      simpa [List.length_pos_iff] using named
    rw [List.length_append] at whole
    omega

end Strict

/-! ## Bounds that suffice -/

/-- On texts of at most this length, whatever the first reader reads, the second one reads too. -/
def Within (length : Nat) (first second : Reader α) : Prop :=
  ∀ text found, text.length ≤ length → first text = some found → second text = some found

namespace Within

variable {length : Nat}

theorem refl (length : Nat) (reader : Reader α) : Within length reader reader :=
  fun _ _ _ found => found

theorem seq {first first' : Reader α} {second second' : Reader β} (one : Within length first first')
    (steady : Steady first) (two : Within length second second') :
    Within length (seq first second) (seq first' second') := by
  intro text found short read
  obtain ⟨⟨_, middle⟩, begins, goesOn⟩ := Option.bind_eq_some_iff.mp read
  obtain ⟨_, next, same⟩ := Option.map_eq_some_iff.mp goesOn
  have shorter := (steady.shortens begins).length_le
  rw [Reader.seq, one _ _ short begins, Option.bind_some,
    two _ _ (Nat.le_trans shorter short) next, Option.map_some, same]

/-- Behind a reader that takes something the texts are shorter. -/
theorem seq_of_strict {first first' : Reader α} {second second' : Reader β}
    (one : Within length first first') (strict : Strict first)
    (two : ∀ less, less < length → Within less second second') :
    Within length (Reader.seq first second) (Reader.seq first' second') := by
  intro text found short read
  obtain ⟨⟨_, middle⟩, begins, goesOn⟩ := Option.bind_eq_some_iff.mp read
  obtain ⟨_, next, same⟩ := Option.map_eq_some_iff.mp goesOn
  have shorter := Nat.lt_of_lt_of_le (strict _ _ _ begins) short
  rw [Reader.seq, one _ _ short begins, Option.bind_some,
    two _ shorter _ _ (Nat.le_refl _) next, Option.map_some, same]

theorem select {reader reader' : Reader α} (within : Within length reader reader')
    (make : α → Option β) : Within length (select make reader) (select make reader') := by
  intro text found short read
  obtain ⟨_, begins, made⟩ := Option.bind_eq_some_iff.mp read
  rw [Reader.select, within _ _ short begins, Option.bind_some, made]

theorem andThen (first : Reader Unit) (steady : Steady first) {second second' : Reader β}
    (within : Within length second second') :
    Within length (first.andThen second) (first.andThen second') :=
  ((refl length first).seq steady within).select _

theorem mark_andThen (expected : Char) {second second' : Reader β}
    (within : ∀ less, less < length → Within less second second') :
    Within length ((mark expected).andThen second) ((mark expected).andThen second') :=
  ((refl length _).seq_of_strict (.mark expected) within).select _

theorem ifHead {yes yes' no no' : Reader α} (test : Option Char → Bool)
    (one : Within length yes yes') (two : Within length no no') :
    Within length (ifHead test yes no) (ifHead test yes' no') := by
  intro text found short read
  rw [Reader.ifHead] at read ⊢
  split at read
  case isTrue holds => rw [if_pos holds, one _ _ short read]
  case isFalse fails => rw [if_neg fails, two _ _ short read]

theorem field {value value' : Reader Entry} (key : Steady key?)
    (within : Within length value value') : Within length (field value) (field value') :=
  (refl length key?).seq key (andThen blanks .blanks (mark_andThen '=' fun _ less =>
    andThen blanks .blanks fun text found short read =>
      within text found (Nat.le_trans short (Nat.le_of_lt less)) read))

theorem listing {close : Char} {item item' : Reader α} {more more' : Reader (List α)}
    (steady : Steady item) (one : Within length item item')
    (others : ∀ less, less < length → Within less more more') :
    Within length (listing close item more) (listing close item' more') := by
  have behind : Within length (moreItems close more) (moreItems close more') :=
    (mark_andThen ',' others).ifHead _ (refl length _)
  refine andThen layout .layout ((refl length _).ifHead _ ?_)
  exact (one.seq steady (andThen layout .layout behind)).select _

end Within

/-- From some bound on, the bounded readers read what the reader reads. -/
def Settles (family : Nat → Reader α) (reader : Reader α) : Prop :=
  ∀ text, ∃ enough, ∀ bound, enough ≤ bound → family bound text = reader text

theorem settles_of_within {family : Nat → Reader α} (cost : Nat → Nat)
    (within : ∀ length bound bound', min bound (cost length) ≤ bound' →
      Within length (family bound) (family bound')) :
    Settles family fun text => family (cost text.length) text := by
  intro text
  refine ⟨cost text.length, ?_⟩
  intro bound enough
  refine Option.ext fun found => ?_
  constructor
  · exact within text.length _ _ (Nat.min_le_right _ _) text found (Nat.le_refl _)
  · exact within text.length _ _ (by omega) text found (Nat.le_refl _)

/-- Two texts are read with one bound that suffices for both. -/
theorem Steady.settled {family : Nat → Reader α} {reader : Reader α}
    (settles : Settles family reader) (steady : ∀ bound, Steady (family bound)) :
    Steady reader where
  shortens := by
    intro text value rest found
    obtain ⟨enough, same⟩ := settles text
    rw [← same enough (Nat.le_refl _)] at found
    exact (steady enough).shortens found
  steady := by
    intro before behind left value apart found other
    obtain ⟨enough, same⟩ := settles (before ++ '"' :: behind)
    obtain ⟨enough', same'⟩ := settles (before ++ '"' :: other)
    rw [← same _ (Nat.le_max_left enough enough')] at found
    rw [← same' _ (Nat.le_max_right enough enough')]
    exact (steady _).steady apart found other

/-! ## Keys -/

theorem strict_keyWithin? (bound : Nat) (steady : Steady (keyWithin? bound)) :
    Strict (keyWithin? (bound + 1)) := by
  rw [keyWithin?_succ]
  refine (Strict.name.seq (Steady.blanks.andThen (Steady.ifHead ?_ (.yield _)))).select _
  exact ((Steady.mark (by decide)).andThen (Steady.blanks.andThen steady)).select _

theorem steady_keyWithin? (bound : Nat) : Steady (keyWithin? bound) := by
  induction bound with
  | zero => exact .fail
  | succ bound ih =>
      rw [keyWithin?_succ]
      refine (Steady.name.seq (Steady.blanks.andThen (Steady.ifHead ?_ (.yield _)))).select _
      exact ((Steady.mark (by decide)).andThen (Steady.blanks.andThen ih)).select _

theorem within_keyWithin? {length bound bound' : Nat} (suffices' : min bound length ≤ bound') :
    Within length (keyWithin? bound) (keyWithin? bound') := by
  induction bound generalizing length bound' with
  | zero => exact nofun
  | succ bound ih =>
      cases bound' with
      | zero =>
          -- the text is empty, and there is no key in it
          intro text found short read
          have empty : text = [] := List.eq_nil_of_length_eq_zero (by omega)
          rw [empty] at read
          cases read
      | succ bound' =>
          rw [keyWithin?_succ, keyWithin?_succ]
          refine ((Within.refl _ _).seq_of_strict .name ?_).select _
          intro less lessThan
          refine .andThen _ .blanks (.ifHead _ (.select (.mark_andThen '.' ?_) _) (.refl _ _))
          intro lesser lesserThan
          exact .andThen _ .blanks (ih (by omega))

theorem settles_key? : Settles keyWithin? key? :=
  settles_of_within id fun _ _ _ => within_keyWithin?

theorem steady_key? : Steady key? :=
  .settled settles_key? steady_keyWithin?

theorem strict_key? : Strict key? := by
  intro text value rest found
  obtain ⟨enough, same⟩ := settles_key? text
  rw [← same (enough + 1) (Nat.le_succ _)] at found
  exact strict_keyWithin? enough (steady_keyWithin? enough) text value rest found

/-! ## Values -/

theorem steady_valueWithin? (bound : Nat) :
    Steady (valueWithin? bound) ∧ Steady (itemsWithin? bound) ∧ Steady (entriesWithin? bound) := by
  induction bound with
  | zero => exact ⟨.fail, .fail, .fail⟩
  | succ bound ih =>
      obtain ⟨value, items, entries⟩ := ih
      rw [valueWithin?_succ, itemsWithin?_succ, entriesWithin?_succ]
      refine ⟨?_, .listing (by decide) value items,
        .listing (by decide) (.field steady_key? value) entries⟩
      refine .ifHead ?_ (.ifHead ?_ (.ifHead .quoted .scalar))
      · exact ((Steady.mark (by decide)).andThen items).select _
      · exact ((Steady.mark (by decide)).andThen entries).select _

theorem within_valueWithin? (bound : Nat) : ∀ length bound',
    (min bound (2 * length + 2) ≤ bound' →
      Within length (valueWithin? bound) (valueWithin? bound')) ∧
    (min bound (2 * length + 3) ≤ bound' →
      Within length (itemsWithin? bound) (itemsWithin? bound')) ∧
    (min bound (2 * length + 3) ≤ bound' →
      Within length (entriesWithin? bound) (entriesWithin? bound')) := by
  induction bound with
  | zero =>
      intro length bound'
      exact ⟨nofun, nofun, nofun⟩
  | succ bound ih =>
      intro length bound'
      obtain ⟨value, items, entries⟩ := steady_valueWithin? bound
      cases bound' with
      | zero => refine ⟨?_, ?_, ?_⟩ <;> omega
      | succ bound' =>
          simp only [valueWithin?_succ, itemsWithin?_succ, entriesWithin?_succ]
          refine ⟨?_, ?_, ?_⟩
          · intro enough
            refine .ifHead _ (.select (.mark_andThen _ ?_) _)
              (.ifHead _ (.select (.mark_andThen _ ?_) _) (.refl _ _))
            · intro less lessThan
              exact (ih less bound').2.1 (by omega)
            · intro less lessThan
              exact (ih less bound').2.2 (by omega)
          · intro enough
            refine .listing value ((ih length bound').1 (by omega)) ?_
            intro less lessThan
            exact (ih less bound').2.1 (by omega)
          · intro enough
            refine .listing (.field steady_key? value)
              (.field steady_key? ((ih length bound').1 (by omega))) ?_
            intro less lessThan
            exact (ih less bound').2.2 (by omega)

theorem settles_value? : Settles valueWithin? value? :=
  settles_of_within (fun length => 2 * length + 2) fun length bound bound' =>
    (within_valueWithin? bound length bound').1

theorem steady_value? : Steady value? :=
  .settled settles_value? fun bound => (steady_valueWithin? bound).1

/-! ## Statements -/

theorem steady_header : Steady (blanks.andThen (seq key? (blanks.andThen
    ((mark ']').andThen lineEnd)))) :=
  .andThen .blanks (.seq steady_key? (.andThen .blanks (.andThen (.mark (by decide)) .lineEnd)))

theorem strict_statement? : Strict statement? := by
  rw [statement?_eq]
  refine .ifHead ?_ ?_
  · exact .select (.andThen (.mark '[') (.ifHead .fail steady_header)) _
  · exact .select (.seq (.seq strict_key? (.andThen .blanks (.andThen (.mark (by decide))
      (.andThen .blanks steady_value?)))) .lineEnd) _

theorem within_statements {length bound bound' : Nat} (enough : min bound (length + 1) ≤ bound') :
    Within length (statements bound) (statements bound') := by
  induction bound generalizing length bound' with
  | zero => exact nofun
  | succ bound ih =>
      cases bound' with
      | zero => omega
      | succ bound' =>
          rw [statements_succ, statements_succ]
          refine .andThen _ .layout (.ifHead _ (.refl _ _) (.select (.seq_of_strict (.refl _ _)
            strict_statement? ?_) _))
          intro less lessThan
          exact ih (by omega)

/-- The statements of a text. -/
def allStatements : Reader (List Statement) := fun text => statements (text.length + 1) text

theorem settles_allStatements : Settles statements allStatements :=
  settles_of_within (· + 1) fun _ _ _ => within_statements

end ResponsesBridge.Toml
