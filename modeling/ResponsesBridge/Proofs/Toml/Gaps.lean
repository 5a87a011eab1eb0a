import ResponsesBridge.Proofs.Toml.Bounds
import ResponsesBridge.Proofs.Toml.Texts

/-!
# Documents with another quotation

A quotation in a document is exchanged for another one that ends at the same place (`Gap`). If the
content of the first one is read nowhere else, then the document is read as before, with the content
of the second one in the place of that text; and if the second one cannot be read, then neither can
the document.

This is a property of readers that is kept by the ways of putting them together (`Follows`), so that
it holds of the reader of documents (`Gap.follows_document`). Behind the quotation both documents
are the same; a reader that stops in front of it is steady; the reader of quotations itself is the
one that meets it.
-/

set_option autoImplicit false

namespace ResponsesBridge.Toml

open Reader

variable {α β : Type} [HoldsTexts α] [HoldsTexts β]

/-- A place in a text where a quotation, `'"' :: one`, is exchanged for another one, `'"' :: two`.
The first one has the content `sample`, the second one has `outcome` if it can be read; behind both
stands `after`. -/
structure Gap where
  before : List Char
  one : List Char
  two : List Char
  after : List Char
  sample : List Char
  outcome : Option (List Char)
  apart : before.getLast? ≠ some '"'
  reads : quotation? ('"' :: one) = some (sample, after)
  rereads : quotation? ('"' :: two) = outcome.map (·, after)
  /-- No other quotation of the text has the content. -/
  alone : ∀ text rest, text <:+ before ++ '"' :: one →
    quotation? text = some (sample, rest) → text = '"' :: one

namespace Gap

/-- The text that is exchanged. -/
def token (gap : Gap) : String := String.ofList gap.sample

variable (gap : Gap)

theorem after_shorter : gap.after.length < ('"' :: gap.one).length :=
  (quotation?_shortens gap.reads).2.2

end Gap

/-- A reader with the texts it reads follows an exchange of quotations: the texts come from
quotations, the exchanged text is met once at most, and if it is met, then the exchange shows in
what is read and nowhere else. -/
structure Follows (gap : Gap) (reader : Reader α) : Prop extends Steady reader where
  quotes : ∀ {text value rest}, reader text = some (value, rest) → ∀ held ∈ texts value,
    ∃ quoted content left, quoted <:+ text ∧ quotation? quoted = some (content, left) ∧
      rest <:+ left ∧ held = String.ofList content
  once : ∀ {text value rest}, text <:+ gap.before ++ '"' :: gap.one →
    reader text = some (value, rest) → (texts value).count gap.token ≤ 1
  follows : ∀ {text value rest}, text <:+ gap.before →
    reader (text ++ '"' :: gap.one) = some (value, rest) → gap.token ∈ texts value →
    reader (text ++ '"' :: gap.two) =
      gap.outcome.map fun content =>
        (retext (exchange gap.token (String.ofList content)) value, rest)

namespace Follows

variable {gap : Gap}

/-- A reader that meets the exchanged text goes past the quotation. -/
theorem meets {reader : Reader α} (follows : Follows gap reader) {text rest : List Char} {value : α}
    (ends : text <:+ gap.before ++ '"' :: gap.one) (found : reader text = some (value, rest))
    (met : gap.token ∈ texts value) : '"' :: gap.one <:+ text ∧ rest <:+ gap.after := by
  obtain ⟨quoted, content, left, within, read, behind, same⟩ := follows.quotes found _ met
  have isSample : content = gap.sample := (String.ofList_injective same).symm
  subst isSample
  have here : quoted = '"' :: gap.one := gap.alone quoted left (within.trans ends) read
  subst here
  have isAfter : gap.after = left := by simpa [gap.reads] using read
  exact ⟨within, isAfter ▸ behind⟩

/-- Only one of two readers, one behind the other, meets the exchanged text. -/
theorem meets_not {first : Reader α} {second : Reader β} (one : Follows gap first)
    (two : Follows gap second) {text middle rest : List Char} {value : α} {next : β}
    (ends : text <:+ gap.before ++ '"' :: gap.one) (read : first text = some (value, middle))
    (goesOn : second middle = some (next, rest)) (met : gap.token ∈ texts value) :
    gap.token ∉ texts next := by
  intro again
  have here := (one.meets ends read met).2.length_le
  have there := (two.meets ((one.shortens read).trans ends) goesOn again).1.length_le
  have shorter := gap.after_shorter
  omega

/-- A reader of data without texts. -/
theorem silent {reader : Reader α} (steady : Steady reader)
    (none : ∀ {text value rest}, reader text = some (value, rest) → texts value = []) :
    Follows gap reader where
  toSteady := steady
  quotes := by
    intro text value rest found held member
    rw [none found] at member
    cases member
  once := by
    intro text value rest _ found
    rw [none found]
    exact Nat.zero_le _
  follows := by
    intro text value rest _ found met
    rw [none found] at met
    cases met

theorem seq {first : Reader α} {second : Reader β} (one : Follows gap first)
    (two : Follows gap second) : Follows gap (seq first second) where
  toSteady := one.toSteady.seq two.toSteady
  quotes := by
    intro text value rest found held member
    obtain ⟨⟨_, middle⟩, read, goesOn⟩ := Option.bind_eq_some_iff.mp found
    obtain ⟨⟨_, _⟩, next, same⟩ := Option.map_eq_some_iff.mp goesOn
    cases same
    rcases List.mem_append.mp member with early | late
    · obtain ⟨quoted, content, left, within, inQuotes, behind, is⟩ := one.quotes read _ early
      exact ⟨quoted, content, left, within, inQuotes, (two.shortens next).trans behind, is⟩
    · obtain ⟨quoted, content, left, within, inQuotes, behind, is⟩ := two.quotes next _ late
      exact ⟨quoted, content, left, within.trans (one.shortens read), inQuotes, behind, is⟩
  once := by
    intro text value rest ends found
    obtain ⟨⟨begun, middle⟩, read, goesOn⟩ := Option.bind_eq_some_iff.mp found
    obtain ⟨_, next, same⟩ := Option.map_eq_some_iff.mp goesOn
    cases same
    have early := one.once ends read
    have late := two.once ((one.shortens read).trans ends) next
    rw [texts_pair, List.count_append]
    by_cases met : gap.token ∈ texts begun
    · rw [List.count_eq_zero.mpr (one.meets_not two ends read next met)]
      exact early
    · rw [List.count_eq_zero.mpr met, Nat.zero_add]
      exact late
  follows := by
    intro text value rest ends found met
    obtain ⟨⟨begun, middle⟩, read, goesOn⟩ := Option.bind_eq_some_iff.mp found
    obtain ⟨⟨ended, _⟩, next, same⟩ := Option.map_eq_some_iff.mp goesOn
    cases same
    have whole : text ++ '"' :: gap.one <:+ gap.before ++ '"' :: gap.one :=
      List.suffix_append_self_iff.mpr ends
    by_cases early : gap.token ∈ texts begun
    · -- the first reader meets the quotation, and the second one reads the same text
      have absent := one.meets_not two whole read next early
      rw [Reader.seq, one.follows ends read early]
      cases gap.outcome with
      | none => rfl
      | some content =>
          simp only [Option.map_some, Option.bind_some, next, retext_pair,
            retext_exchange_of_absent _ absent]
    · -- the first reader stops in front of the quotation
      have late : gap.token ∈ texts ended := (List.mem_append.mp met).resolve_left early
      have here : [] ++ '"' :: gap.one <:+ middle :=
        (two.meets ((one.shortens read).trans whole) next late).1
      obtain ⟨kept, keeps, rfl⟩ := split_of_suffix (one.shortens read) here
      have steady := one.steady (getLast?_ne_of_suffix ends gap.apart) read gap.two
      rw [Reader.seq, steady, Option.bind_some, two.follows (keeps.trans ends) next late]
      cases gap.outcome with
      | none => rfl
      | some content =>
          simp only [Option.map_some, retext_pair, retext_exchange_of_absent _ early]

/-- What is made of a value has its texts, also if they are changed. -/
theorem select {reader : Reader α} (follows : Follows gap reader) {make : α → Option β}
    (keeps : ∀ value made, make value = some made → (texts made).Perm (texts value))
    (commutes : ∀ change value, make (retext change value) = (make value).map (retext change)) :
    Follows gap (select make reader) where
  toSteady := follows.toSteady.select make
  quotes := by
    intro text value rest found held member
    obtain ⟨⟨_, _⟩, read, made⟩ := Option.bind_eq_some_iff.mp found
    obtain ⟨_, is, same⟩ := Option.map_eq_some_iff.mp made
    cases same
    exact follows.quotes read held ((keeps _ _ is).mem_iff.mp member)
  once := by
    intro text value rest ends found
    obtain ⟨⟨_, _⟩, read, made⟩ := Option.bind_eq_some_iff.mp found
    obtain ⟨_, is, same⟩ := Option.map_eq_some_iff.mp made
    cases same
    rw [(keeps _ _ is).count_eq]
    exact follows.once ends read
  follows := by
    intro text value rest ends found met
    obtain ⟨⟨_, _⟩, read, made⟩ := Option.bind_eq_some_iff.mp found
    obtain ⟨_, is, same⟩ := Option.map_eq_some_iff.mp made
    cases same
    rw [Reader.select, follows.follows ends read ((keeps _ _ is).mem_iff.mp met)]
    cases gap.outcome with
    | none => rfl
    | some content => simp only [Option.map_some, Option.bind_some, commutes, is]

theorem andThen {first : Reader Unit} {second : Reader β} (steady : Steady first)
    (two : Follows gap second) : Follows gap (first.andThen second) := by
  have one : Follows gap first := silent steady fun _ => rfl
  refine (one.seq two).select ?_ ?_
  · rintro ⟨_, value⟩ _ ⟨⟩
    exact .refl _
  · exact fun _ _ => rfl

theorem ifHead {test : Option Char → Bool} {yes no : Reader α} (one : Follows gap yes)
    (two : Follows gap no) : Follows gap (ifHead test yes no) where
  toSteady := one.toSteady.ifHead two.toSteady
  quotes := by
    intro text value rest found
    rw [Reader.ifHead] at found
    split at found
    case isTrue => exact one.quotes found
    case isFalse => exact two.quotes found
  once := by
    intro text value rest ends found
    rw [Reader.ifHead] at found
    split at found
    case isTrue => exact one.once ends found
    case isFalse => exact two.once ends found
  follows := by
    intro text value rest ends found met
    have same : (text ++ '"' :: gap.two).head? = (text ++ '"' :: gap.one).head? := by
      cases text <;> rfl
    rw [Reader.ifHead] at found ⊢
    rw [same]
    split at found
    case isTrue holds =>
      rw [if_pos holds]
      exact one.follows ends found met
    case isFalse fails =>
      rw [if_neg fails]
      exact two.follows ends found met

/-- The reader of quotations meets the quotation itself. -/
theorem quoted : Follows gap quoted where
  toSteady := .quoted
  quotes := by
    intro text value rest found held member
    obtain ⟨⟨content, left⟩, read, same⟩ := Option.map_eq_some_iff.mp found
    cases same
    exact ⟨text, content, left, List.suffix_rfl, read, List.suffix_rfl,
      List.mem_singleton.mp member⟩
  once := by
    intro text value rest _ found
    obtain ⟨⟨content, left⟩, read, same⟩ := Option.map_eq_some_iff.mp found
    cases same
    exact List.count_le_length
  follows := by
    intro text value rest ends found met
    obtain ⟨⟨content, left⟩, read, same⟩ := Option.map_eq_some_iff.mp found
    cases same
    have isSample : content = gap.sample :=
      (String.ofList_injective (List.mem_singleton.mp met)).symm
    subst isSample
    have here := gap.alone _ _ (List.suffix_append_self_iff.mpr ends) read
    have empty : text = [] := by simpa using here
    subst empty
    have isAfter : gap.after = left := by simpa [gap.reads] using read
    subst isAfter
    rw [List.nil_append, Reader.quoted, gap.rereads]
    cases gap.outcome with
    | none => rfl
    | some content =>
        have changed := exchange_token gap.token (String.ofList content)
        exact congrArg (fun text => some (Entry.text text, gap.after)) changed.symm

/-- Both texts are read with one bound that suffices for them. -/
theorem settled {family : Nat → Reader α} {reader : Reader α} (settles : Settles family reader)
    (follows : ∀ bound, Follows gap (family bound)) : Follows gap reader where
  toSteady := .settled settles fun bound => (follows bound).toSteady
  quotes := by
    intro text value rest found
    obtain ⟨enough, same⟩ := settles text
    rw [← same enough (Nat.le_refl _)] at found
    exact (follows enough).quotes found
  once := by
    intro text value rest ends found
    obtain ⟨enough, same⟩ := settles text
    rw [← same enough (Nat.le_refl _)] at found
    exact (follows enough).once ends found
  follows := by
    intro text value rest ends found met
    obtain ⟨enough, same⟩ := settles (text ++ '"' :: gap.one)
    obtain ⟨enough', same'⟩ := settles (text ++ '"' :: gap.two)
    rw [← same _ (Nat.le_max_left enough enough')] at found
    rw [← same' _ (Nat.le_max_right enough enough')]
    exact (follows _).follows ends found met

/-! The readers of documents. -/

theorem finished : Follows gap (Reader.yield ([] : List α)) := by
  refine silent (.yield _) ?_
  rintro _ _ _ ⟨⟩
  rfl

theorem moreItems {close : Char} (apart : close ≠ '"') {more : Reader (List α)}
    (others : Follows gap more) : Follows gap (moreItems close more) :=
  .ifHead (.andThen (.mark (by decide)) others) (.andThen (.mark apart) finished)

theorem listing {close : Char} (apart : close ≠ '"') {item : Reader α} {more : Reader (List α)}
    (one : Follows gap item) (others : Follows gap more) :
    Follows gap (listing close item more) := by
  refine .andThen .layout (.ifHead (.andThen (.mark apart) finished) ?_)
  refine (one.seq (.andThen .layout (moreItems apart others))).select ?_ ?_
  · rintro ⟨value, values⟩ _ ⟨⟩
    exact .refl _
  · exact fun _ _ => rfl

theorem field {value : Reader Entry} (follows : Follows gap value) : Follows gap (field value) :=
  (silent steady_key? fun _ => rfl).seq
    (.andThen .blanks (.andThen (.mark (by decide)) (.andThen .blanks follows)))

theorem scalar : Follows gap scalar := by
  refine silent .scalar ?_
  intro text value rest found
  obtain ⟨_, _, same⟩ := Option.map_eq_some_iff.mp found
  cases same
  rfl

theorem valueWithin (bound : Nat) : Follows gap (valueWithin? bound) ∧
    Follows gap (itemsWithin? bound) ∧ Follows gap (entriesWithin? bound) := by
  induction bound with
  | zero => exact ⟨silent .fail nofun, silent .fail nofun, silent .fail nofun⟩
  | succ bound ih =>
      obtain ⟨value, items, entries⟩ := ih
      rw [valueWithin?_succ, itemsWithin?_succ, entriesWithin?_succ]
      refine ⟨.ifHead ?array (.ifHead ?table (.ifHead .quoted .scalar)),
        .listing (by decide) value items, .listing (by decide) value.field entries⟩
      case array =>
        refine (Follows.andThen (.mark (by decide)) items).select ?_ ?_
        · rintro items _ ⟨⟩
          exact .of_eq (texts_array items)
        · exact fun change items => congrArg some (retext_array change items).symm
      case table =>
        refine (Follows.andThen (.mark (by decide)) entries).select ?_ ?_
        · intro entries made is
          obtain ⟨members, assigned, same⟩ := Option.map_eq_some_iff.mp is
          cases same
          rw [texts_table]
          exact perm_texts_assignAll? assigned
        · intro change entries
          have assigned := assignAll?_retext change entries []
          rw [retext_nil] at assigned
          rw [assigned]
          cases assignAll? entries [] with
          | none => rfl
          | some members => exact congrArg some (retext_table change .braces members).symm

theorem value : Follows gap value? :=
  .settled settles_value? fun bound => (valueWithin bound).1

theorem statement : Follows gap statement? := by
  rw [statement?_eq]
  refine .ifHead ?header ?entry
  case header =>
    refine silent ?_ ?_
    · exact .select (.andThen (.mark (by decide)) (.ifHead .fail steady_header)) _
    · intro text value rest found
      obtain ⟨_, _, made⟩ := Option.bind_eq_some_iff.mp found
      obtain ⟨_, is, same⟩ := Option.map_eq_some_iff.mp made
      cases same
      cases is
      rfl
  case entry =>
    refine (value.field.seq (silent .lineEnd fun _ => rfl)).select ?_ ?_
    · rintro ⟨⟨key, entry⟩, _⟩ _ ⟨⟩
      exact .of_eq (List.append_nil _).symm
    · exact fun _ _ => rfl

theorem statementsWithin (bound : Nat) : Follows gap (statements bound) := by
  induction bound with
  | zero => exact silent .fail nofun
  | succ bound ih =>
      rw [statements_succ]
      refine .andThen .layout (finished.ifHead ((statement.seq ih).select ?_ ?_))
      · rintro ⟨value, values⟩ _ ⟨⟩
        exact .refl _
      · exact fun _ _ => rfl

end Follows

/-! ## Documents -/

/-- The table of a text without a byte order mark. -/
def wholeTable : Reader Table := select tableOf? allStatements

theorem document?_eq (text : String) :
    document? text = (wholeTable (withoutMark text.toList)).map Prod.fst := by
  rw [document?, wholeTable, select, allStatements, statements]
  cases statementsWithin? ((withoutMark text.toList).length + 1) (withoutMark text.toList) with
  | none => rfl
  | some found =>
      simp only [Option.map_some, Option.bind_some, Option.map_map]
      exact Option.map_id'.symm

namespace Gap

variable (gap : Gap)

theorem follows_wholeTable : Follows gap wholeTable :=
  (Follows.settled settles_allStatements Follows.statementsWithin).select
    (fun _ _ => perm_texts_tableOf?) tableOf?_retext

/-- A byte order mark stands in front of the quotation. -/
theorem withoutMark_eq : ∃ kept, kept <:+ gap.before ∧
    ∀ behind, withoutMark (gap.before ++ '"' :: behind) = kept ++ '"' :: behind := by
  cases begins : gap.before with
  | nil => exact ⟨[], List.suffix_rfl, fun _ => rfl⟩
  | cons first before =>
      by_cases mark : first = '\uFEFF'
      · subst mark
        exact ⟨before, List.suffix_cons _ _, fun _ => rfl⟩
      · refine ⟨first :: before, List.suffix_rfl, ?_⟩
        intro behind
        refine withoutMark.eq_2 _ ?_
        exact fun _ same => mark (List.cons.inj same).1

/-- The document with the sample. -/
def firstDocument : String := String.ofList (gap.before ++ '"' :: gap.one)

/-- The document with the other quotation. -/
def secondDocument : String := String.ofList (gap.before ++ '"' :: gap.two)

/-- **The exchange of quotations shows in the text that is exchanged and nowhere else.** -/
theorem follows_document {table : Table} (read : document? gap.firstDocument = some table)
    (met : gap.token ∈ texts table) :
    document? gap.secondDocument =
      gap.outcome.map fun content => retext (exchange gap.token (String.ofList content)) table := by
  obtain ⟨kept, keeps, same⟩ := gap.withoutMark_eq
  rw [document?_eq, firstDocument, String.toList_ofList, same] at read
  obtain ⟨⟨_, rest⟩, found, rfl⟩ := Option.map_eq_some_iff.mp read
  rw [document?_eq, secondDocument, String.toList_ofList, same,
    gap.follows_wholeTable.follows keeps found met, Option.map_map]
  rfl

/-- The exchanged text stands at most once in the document. -/
theorem once_document {table : Table} (read : document? gap.firstDocument = some table) :
    (texts table).count gap.token ≤ 1 := by
  obtain ⟨kept, keeps, same⟩ := gap.withoutMark_eq
  rw [document?_eq, firstDocument, String.toList_ofList, same] at read
  obtain ⟨⟨_, rest⟩, found, rfl⟩ := Option.map_eq_some_iff.mp read
  exact gap.follows_wholeTable.once (List.suffix_append_self_iff.mpr keeps) found

end Gap
end ResponsesBridge.Toml
