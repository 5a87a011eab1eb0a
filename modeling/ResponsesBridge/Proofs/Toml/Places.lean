import ResponsesBridge.Proofs.Toml.Gaps

/-!
# Places for quotations

A place for a quotation in double quotes is what stands in front of the quotation and behind it, and
how many quotes enclose it (`Place`). A content may end the quotation early when it is put there, or
keep it open; one that does neither keeps the place (`Place.Keeps`).

A content of many equal letters (`Place.sample`) is read in its place and nowhere else, since every
other quotation of the text is too short for it. So the documents with any two contents that keep
the place can be compared with the document that has the sample there (`Place.gap`).
-/

set_option autoImplicit false

namespace ResponsesBridge.Toml

/-- A place for a quotation between double quotes, or between three of them on either side. -/
structure Place where
  before : List Char
  isLong : Bool
  after : List Char
  before_apart : before.getLast? ≠ some '"'
  after_apart : after.head? ≠ some '"'

namespace Place

variable (place : Place)

/-- The quotes on either side. -/
def quotes : List Char := if place.isLong then ['"', '"', '"'] else ['"']

/-- The text from the opening quotes on. -/
def quotation (content : List Char) : List Char :=
  place.quotes ++ content ++ place.quotes ++ place.after

/-- The text with a content in the place. -/
def document (content : List Char) : String :=
  String.ofList (place.before ++ place.quotation content)

/-- Between the quotes, a content does not end the quotation, and does not keep it from ending. -/
def Keeps (content : List Char) : Prop :=
  ∀ found rest, quotation? (place.quotation content) = some (found, rest) → rest = place.after

instance (content : List Char) : Decidable (place.Keeps content) :=
  decidable_of_iff (∀ found ∈ quotation? (place.quotation content), found.2 = place.after)
    ⟨fun keeps _ _ read => keeps _ read, fun keeps _ read => keeps _ _ read⟩

/-- More letters than there are characters around them. -/
def letters : List Char := List.replicate (place.before.length + place.after.length + 5) 'x'

/-- A content that no other quotation of the text has. Between three quotes a line break makes it
unreadable to those who begin at the third one. -/
def sample : List Char := place.letters ++ if place.isLong then ['\n'] else []

/-- The sample as a text of documents. -/
def token : String := String.ofList place.sample

theorem quotation_eq (content : List Char) :
    place.quotation content = '"' :: (place.quotation content).tail := by
  rw [quotation, quotes]
  cases place.isLong <;> rfl

/-! ## The sample in its place -/

theorem basic?_letters (length : Nat) (behind : List Char) :
    basic? 0 (List.replicate length 'x' ++ behind) =
      (basic? 0 behind).map fun found => (List.replicate length 'x' ++ found.1, found.2) := by
  induction length with
  | zero => exact (Option.map_id' (x := basic? 0 behind)).symm
  | succ length ih =>
      rw [List.replicate_succ, List.cons_append, basic?.eq_5 _ _ (by decide) (by decide),
        if_pos (by decide), ih]
      cases basic? 0 behind <;> rfl

theorem multiBasic?_letters (length : Nat) (behind : List Char) :
    multiBasic? 0 (List.replicate length 'x' ++ behind) =
      (multiBasic? 0 behind).map fun found => (List.replicate length 'x' ++ found.1, found.2) := by
  induction length with
  | zero => exact (Option.map_id' (x := multiBasic? 0 behind)).symm
  | succ length ih =>
      rw [List.replicate_succ, List.cons_append, multiBasic?.eq_4 _ _ (by decide),
        if_neg (by simp [closes]), if_pos (by rfl), ih]
      cases multiBasic? 0 behind <;> rfl

theorem multiBasic?_closed {after : List Char} (apart : after.head? ≠ some '"') :
    multiBasic? 0 ('\n' :: '"' :: '"' :: '"' :: after) = some (['\n'], after) := by
  have run : after.takeWhile (· == '"') = [] := by
    cases after with
    | nil => rfl
    | cons first after => exact List.takeWhile_cons_of_neg (by simpa using apart)
  have closed : multiBasic? 0 ('"' :: '"' :: '"' :: after) = some ([], after) := by
    simp [multiBasic?, closes, closing, run]
  rw [multiBasic?.eq_4 _ _ (by decide), if_neg (by simp [closes]), closed]
  rfl

theorem quotation_sample_short (short : place.isLong = false) :
    place.quotation place.sample = '"' :: (place.letters ++ '"' :: place.after) := by
  simp [quotation, quotes, sample, short]

theorem quotation_sample_long (long : place.isLong = true) :
    place.quotation place.sample =
      '"' :: '"' :: '"' :: (place.letters ++ '\n' :: '"' :: '"' :: '"' :: place.after) := by
  simp [quotation, quotes, sample, long]

/-- A quotation of one line with the letters. -/
theorem quotation?_letters (behind : List Char) :
    quotation? ('"' :: (place.letters ++ behind)) =
      (basic? 0 behind).map fun found => (place.letters ++ found.1, found.2) :=
  basic?_letters (place.before.length + place.after.length + 5) behind

/-- The sample is read in its place. -/
theorem reads_sample :
    quotation? (place.quotation place.sample) = some (place.sample, place.after) := by
  cases length : place.isLong with
  | false =>
      rw [place.quotation_sample_short length, quotation?_letters, sample, length]
      rfl
  | true =>
      have begins (behind : List Char) :
          quotation? ('"' :: '"' :: '"' :: (place.letters ++ behind)) =
            multiBasic? 0 (place.letters ++ behind) := rfl
      rw [place.quotation_sample_long length, begins, letters, multiBasic?_letters,
        multiBasic?_closed place.after_apart, sample, length]
      rfl

/-- A quotation that begins among the letters, or behind them, is short. -/
theorem short_of_suffix {letters behind text content rest : List Char}
    (plain : ∀ letter ∈ letters, letter ≠ '"' ∧ letter ≠ '\'') (ends : text <:+ letters ++ behind)
    (read : quotation? text = some (content, rest)) : content.length ≤ behind.length := by
  induction letters with
  | nil =>
      have long := (quotation?_shortens read).2.1
      have within := ends.length_le
      rw [List.nil_append] at within
      omega
  | cons letter letters ih =>
      obtain ⟨⟨notDouble, notSingle⟩, later⟩ := List.forall_mem_cons.mp plain
      rcases List.suffix_cons_iff.mp ends with rfl | ends
      · rw [quotation?.eq_5] at read
        · cases read
        · exact fun _ same => notDouble (List.cons.inj same).1
        · exact fun _ same => notSingle (List.cons.inj same).1
        · exact fun _ same => notDouble (List.cons.inj same).1
        · exact fun _ same => notSingle (List.cons.inj same).1
      · exact ih later ends

theorem quote_not_mem_sample : '"' ∉ place.sample := by
  rw [sample, letters, List.mem_append, List.mem_replicate]
  cases place.isLong <;> simp

theorem length_sample : place.before.length + place.after.length + 5 ≤ place.sample.length := by
  rw [sample, letters, List.length_append, List.length_replicate]
  exact Nat.le_add_right _ _

theorem letters_plain : ∀ letter ∈ place.letters, letter ≠ '"' ∧ letter ≠ '\'' := by
  intro letter member
  rw [List.eq_of_mem_replicate member]
  decide

/-- Within the quotation, nothing else is read as the sample. -/
theorem alone_within {text rest : List Char} (ends : text <:+ place.quotation place.sample)
    (read : quotation? text = some (place.sample, rest)) :
    text = place.quotation place.sample := by
  have long := place.length_sample
  cases length : place.isLong with
  | false =>
      rw [place.quotation_sample_short length] at ends ⊢
      rcases List.suffix_cons_iff.mp ends with same | ends
      · exact same
      · have short := short_of_suffix place.letters_plain ends read
        rw [List.length_cons] at short
        omega
  | true =>
      rw [place.quotation_sample_long length] at ends ⊢
      rcases List.suffix_cons_iff.mp ends with same | ends
      · exact same
      rcases List.suffix_cons_iff.mp ends with rfl | ends
      · -- two quotes are the empty quotation
        have empty : [] = place.sample := congrArg Prod.fst (Option.some_inj.mp read)
        rw [← empty, List.length_nil] at long
        omega
      rcases List.suffix_cons_iff.mp ends with rfl | ends
      · rw [quotation?_letters] at read
        cases read
      · have short := short_of_suffix place.letters_plain ends read
        simp only [List.length_cons] at short
        omega

/-- No other quotation of the text is read as the sample. -/
theorem alone_sample {text rest : List Char}
    (ends : text <:+ place.before ++ place.quotation place.sample)
    (read : quotation? text = some (place.sample, rest)) :
    text = place.quotation place.sample := by
  have whole : place.quotation place.sample <:+ place.before ++ place.quotation place.sample :=
    List.suffix_append _ _
  rcases List.suffix_or_suffix_of_suffix ends whole with within | beyond
  · exact place.alone_within within read
  · have beyond : [] ++ place.quotation place.sample <:+ text := beyond
    obtain ⟨kept, keeps, rfl⟩ := split_of_suffix ends beyond
    cases kept with
    | nil => rfl
    | cons first kept =>
        -- a quotation that begins before the place cannot hold the sample
        rw [quotation_eq] at read
        have apart := getLast?_ne_of_suffix keeps place.before_apart
        have shorter := keeps.length_le
        have long := place.length_sample
        rcases quotation?_passes (List.cons_ne_nil _ _) apart read with quoted | short
        · exact absurd quoted place.quote_not_mem_sample
        · omega

/-- A content that keeps the place is put where the sample is. -/
def gap (content : List Char) (keeps : place.Keeps content) : Gap where
  before := place.before
  one := (place.quotation place.sample).tail
  two := (place.quotation content).tail
  after := place.after
  sample := place.sample
  outcome := (quotation? (place.quotation content)).map Prod.fst
  apart := place.before_apart
  reads := by
    rw [← quotation_eq]
    exact place.reads_sample
  rereads := by
    rw [← quotation_eq]
    cases read : quotation? (place.quotation content) with
    | none => rfl
    | some found => rw [← keeps found.1 found.2 read]; rfl
  alone := by
    rw [← quotation_eq]
    exact fun _ _ => place.alone_sample

theorem document_eq (content : List Char) :
    place.document content =
      String.ofList (place.before ++ '"' :: (place.quotation content).tail) := by
  rw [document, quotation_eq]
  rfl

/-- A content that is read as it stands keeps the place. -/
theorem keeps_of_reads {content : List Char}
    (reads : quotation? (place.quotation content) = some (content, place.after)) :
    place.Keeps content := by
  intro found rest again
  rw [reads] at again
  cases again
  rfl

/-- The sample is in the document only once. -/
theorem count_token_le {table : Table}
    (read : document? (place.document place.sample) = some table) :
    (texts table).count place.token ≤ 1 := by
  rw [document_eq] at read
  exact (place.gap place.sample (place.keeps_of_reads place.reads_sample)).once_document read

/-- **A document with a content that keeps the place is that of the sample with another text.** -/
theorem document?_exchange {content : List Char} (keeps : place.Keeps content) {table : Table}
    (read : document? (place.document place.sample) = some table)
    (met : place.token ∈ texts table) :
    document? (place.document content) =
      (quotation? (place.quotation content)).map fun found =>
        retext (exchange place.token (String.ofList found.1)) table := by
  rw [document_eq] at read ⊢
  have exchanged := (place.gap content keeps).follows_document read met
  exact exchanged.trans (Option.map_map _ _ _)

end Place
end ResponsesBridge.Toml
