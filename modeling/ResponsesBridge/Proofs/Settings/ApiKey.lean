import ResponsesBridge.Failure
import ResponsesBridge.Proofs.Settings.Outline
import ResponsesBridge.Proofs.Settings.Records
import ResponsesBridge.Proofs.Toml.Places

/-!
# A variable in the API key

Placeholders are expanded before the document is read, so what the value of a variable does to the
configuration depends on the text around its placeholders. Here they stand inside the double-quoted
API key (`OnlyInApiKey`). A value that ends the quotation there can go on with settings of its own
(`value_sets_organization`). A value that leaves the quotation where it is changes the API key and
nothing else (`settings_besides_key`).

The configurations are compared with that of the document that has a sample in the place of the key:
they differ from it in the key only (`ofText?_exchange`).
-/

set_option autoImplicit false

namespace ResponsesBridge.Settings

open Toml (Place quotation? document?)

/-! ## The slot of the API key -/

/-- The API key of a connection. -/
def Connection.keySlot : Slot Connection where
  content connection := connection.apiKey
  put key connection := { connection with apiKey := some key }

/-- The API key of a configuration. -/
def Configuration.keySlot : Slot Configuration where
  content configuration := configuration.connection.apiKey
  put key configuration :=
    { configuration with connection := Connection.keySlot.put key configuration.connection }

/-- The API key is a text of the connection, and the other settings leave it alone. -/
theorem exposes_connection (token other : String) :
    Exposes token other Connection.keySlot (record? Connection.settings {}) := by
  refine exposes_record? ?_ nofun
  have apiKey {set : String → Connection → Connection}
      (content : ∀ key draft, (set key draft).apiKey = some key)
      (put : ∀ key draft, set other draft = Connection.keySlot.put other (set key draft)) :
      Fills token other Connection.keySlot (.of "api_key" false text? set) :=
    fills_of_exposes exposes_text? content put
  simp only [Connection.settings, List.forall_mem_cons]
  refine ⟨.inr ?_, .inl (apiKey (fun _ _ => rfl) fun _ _ => rfl), .inr ?_, .inr ?_, .inr ?_,
    .inr ?_, nofun⟩
  all_goals exact leaves_of (fun _ _ => rfl) fun _ _ => rfl

/-- The same for the connection in the configuration. -/
theorem exposes_configuration (token other : String) :
    Exposes token other Configuration.keySlot (record? Configuration.settings {}) := by
  refine exposes_record? ?_ nofun
  simp only [Configuration.settings, List.forall_mem_cons]
  refine ⟨.inl ?connection, .inr ?logging, nofun⟩
  case connection =>
    exact fills_of_exposes (exposes_connection token other) (fun _ _ => rfl) fun _ _ => rfl
  case logging => exact leaves_of (fun _ _ => rfl) fun _ _ => rfl

/-! ## The place of the API key -/

/-- The place is that of the API key: a content that is read as it stands there is the API key of
the configuration. -/
def HoldsApiKey (place : Place) : Prop :=
  ∀ content, quotation? (place.quotation content) = some (content, place.after) →
    ∃ configuration, Configuration.ofText? (place.document content) = some configuration ∧
      configuration.connection.apiKey = some (String.ofList content)

/-- **What is read with a content that keeps the place is the configuration with that API key.** -/
theorem ofText?_exchange {place : Place} {content : List Char} (keeps : place.Keeps content)
    {configuration : Configuration}
    (read : Configuration.ofText? (place.document place.sample) = some configuration)
    (shown : configuration.connection.apiKey = some place.token) :
    Configuration.ofText? (place.document content) =
      (quotation? (place.quotation content)).map fun found =>
        Configuration.keySlot.put (String.ofList found.1) configuration := by
  obtain ⟨table, found, stored⟩ := Option.bind_eq_some_iff.mp read
  have exposed (other : String) := exposes_configuration place.token other
    (.table .braces table) configuration stored shown
  simp only [Toml.texts_table, Toml.retext_table] at exposed
  have exchanged := place.document?_exchange keeps found (exposed "").1
  refine (congrArg (Option.bind · _) exchanged).trans ?_
  cases quotation? (place.quotation content) with
  | none => rfl
  | some quoted => exact (exposed (String.ofList quoted.1)).2 (place.count_token_le found)

/-- It suffices to look at the sample. -/
theorem holdsApiKey_iff (place : Place) :
    HoldsApiKey place ↔
      (Configuration.ofText? (place.document place.sample)).map (·.connection.apiKey) =
        some (some place.token) := by
  constructor
  · intro holds
    obtain ⟨configuration, read, shown⟩ := holds place.sample place.reads_sample
    rw [read, Option.map_some, shown]
    rfl
  · intro sampled content read
    obtain ⟨configuration, found, shown⟩ := Option.map_eq_some_iff.mp sampled
    refine ⟨Configuration.keySlot.put (String.ofList content) configuration, ?_, rfl⟩
    rw [ofText?_exchange (place.keeps_of_reads read) found shown, read]
    rfl

instance (place : Place) : Decidable (HoldsApiKey place) :=
  decidable_of_iff _ (holdsApiKey_iff place).symm

/-! ## A variable inside the API key -/

/-- The outline of a text with open places in the quotation only. -/
def marksAround (place : Place) (inside : List Mark) : List Mark :=
  written place.before ++
    (written place.quotes ++ inside ++ written place.quotes ++ written place.after)

/-- A value leaves the quotation where it is: put between the quotes, it neither ends the quotation
nor keeps it from ending. -/
def Accepts (place : Place) (inside : List Mark) (value : Option String) : Prop :=
  ∀ content, fill value inside = some content → place.Keeps content

instance (place : Place) (inside : List Mark) (value : Option String) :
    Decidable (Accepts place inside value) :=
  decidable_of_iff (∀ content ∈ fill value inside, place.Keeps content) Iff.rfl

/-- Every placeholder for the variable stands inside the double-quoted API key, where these values
leave the quotation as it is. -/
inductive OnlyInApiKey (environment : Environment) (name text : String)
    (values : List (Option String)) : Prop
  | nowhere {plain : List Char} (outlined : outline environment name text = some (written plain))
  | inside {place : Place} {inside : List Mark}
      (outlined : outline environment name text = some (marksAround place inside))
      (holds : HoldsApiKey place) (accepts : ∀ value ∈ values, Accepts place inside value)

/-- Two configurations agree on all settings but the API key. -/
structure SameBesidesKey (one two : Configuration) : Prop where
  model : one.connection.model = two.connection.model
  baseUrl : one.connection.baseUrl = two.connection.baseUrl
  timeout : one.connection.timeout = two.connection.timeout
  organization : one.connection.organization = two.connection.organization
  project : one.connection.project = two.connection.project
  logging : one.logging = two.logging

theorem fill_marksAround (place : Place) (inside : List Mark) (value : Option String) :
    fill value (marksAround place inside) =
      (fill value inside).map fun content => place.before ++ place.quotation content := by
  simp only [marksAround, fill_append, fill_written, Place.quotation, Option.bind_some,
    Option.map_some]
  cases fill value inside <;> rfl

/-- A configuration that is parsed is that of the expanded text. -/
theorem exists_expanded_of_parse {environment : Environment} {text : String}
    {configuration : Configuration}
    (parsed : Configuration.parse environment text = .ok configuration) :
    ∃ expanded, expand environment text = .ok expanded ∧
      Configuration.ofText? expanded = some configuration := by
  obtain ⟨expanded, expands, later⟩ := bind_eq_ok_iff.mp parsed
  refine ⟨expanded, ?_, ?_⟩
  · cases found : expand environment text with
    | error => rw [found] at expands; cases expands
    | ok => rw [found] at expands; cases expands; rfl
  · split at later
    case h_1 => cases later
    case h_2 found read =>
      obtain ⟨_, -, same⟩ := bind_eq_ok_iff.mp later
      cases same
      exact read

/-- A configuration that is parsed is that of the filled outline. -/
theorem exists_filled_of_parse {environment : Environment} {name text : String}
    {configuration : Configuration} {marks : List Mark}
    (outlined : outline environment name text = some marks)
    (parsed : Configuration.parse environment text = .ok configuration) :
    ∃ filled, fill (environment name) marks = some filled ∧
      Configuration.ofText? (String.ofList filled) = some configuration := by
  obtain ⟨expanded, expands, read⟩ := exists_expanded_of_parse parsed
  have expansion := toOption_expand environment name text
  rw [outlined, Option.bind_some, expands] at expansion
  obtain ⟨filled, is, rfl⟩ := Option.map_eq_some_iff.mp expansion.symm
  exact ⟨filled, is, read⟩

/-- A configuration that is parsed with an accepted value is that of the sample with another key. -/
theorem exists_key_of_parse {environment : Environment} {name text : String}
    {configuration sample : Configuration} {place : Place} {inside : List Mark}
    (sampled : Configuration.ofText? (place.document place.sample) = some sample)
    (shown : sample.connection.apiKey = some place.token)
    (accepted : Accepts place inside (environment name))
    (outlined : outline environment name text = some (marksAround place inside))
    (parsed : Configuration.parse environment text = .ok configuration) :
    ∃ key, Configuration.keySlot.put key sample = configuration := by
  obtain ⟨filled, is, read⟩ := exists_filled_of_parse outlined parsed
  rw [fill_marksAround] at is
  obtain ⟨content, fills, rfl⟩ := Option.map_eq_some_iff.mp is
  have exchanged := ofText?_exchange (accepted content fills) sampled shown
  obtain ⟨found, -, same⟩ := Option.map_eq_some_iff.mp (exchanged.symm.trans read)
  exact ⟨_, same⟩

/-- **A variable inside the API key changes the API key only.** Two environments differ in one
variable, whose placeholders stand inside the double-quoted API key, and neither value of it ends
the quotation or keeps it from ending: then the configurations agree on all other settings. -/
theorem settings_besides_key {first second : Environment} {name text : String}
    {one two : Configuration} (alike : ∀ other, other ≠ name → first other = second other)
    (placed : OnlyInApiKey first name text [first name, second name])
    (parsed : Configuration.parse first text = .ok one)
    (parsed' : Configuration.parse second text = .ok two) : SameBesidesKey one two := by
  cases placed with
  | nowhere outlined =>
      -- both environments expand the text alike
      have outlined' := (outline_congr alike text).symm.trans outlined
      obtain ⟨filled, is, read⟩ := exists_filled_of_parse outlined parsed
      obtain ⟨filled', is', read'⟩ := exists_filled_of_parse outlined' parsed'
      rw [fill_written] at is is'
      cases is
      cases is'
      cases read.symm.trans read'
      exact ⟨rfl, rfl, rfl, rfl, rfl, rfl⟩
  | @inside place inside outlined holds accepts =>
      have outlined' := (outline_congr alike text).symm.trans outlined
      obtain ⟨accepted, others⟩ := List.forall_mem_cons.mp accepts
      obtain ⟨accepted', -⟩ := List.forall_mem_cons.mp others
      obtain ⟨sample, sampled, shown⟩ := holds place.sample place.reads_sample
      obtain ⟨key, rfl⟩ := exists_key_of_parse sampled shown accepted outlined parsed
      obtain ⟨key', rfl⟩ := exists_key_of_parse sampled shown accepted' outlined' parsed'
      exact ⟨rfl, rfl, rfl, rfl, rfl, rfl⟩

section KeyInVariable

/-- A text with a variable as its API key. -/
def keyText : String := "[openai]\nmodel = \"m\"\napi_key = \"\x7b\x7b env.K \x7d\x7d\"\n"

/-- The place of the API key in the text. -/
def keyPlace : Place where
  before := "[openai]\nmodel = \"m\"\napi_key = ".toList
  isLong := false
  after := ['\n']
  before_apart := by decide
  after_apart := by decide

/-- An environment with a value for this variable only. -/
def keyEnvironment (value : String) : Environment := fun name =>
  if name = "K" then some value else none

theorem keyEnvironment_alike (one two : String) {other : String} (apart : other ≠ "K") :
    keyEnvironment one other = keyEnvironment two other :=
  (if_neg apart).trans (if_neg apart).symm

theorem outline_keyText (value : String) :
    outline (keyEnvironment value) "K" keyText = some (marksAround keyPlace [.gap none]) := by
  have alike {other : String} (apart : other ≠ "K") := keyEnvironment_alike value "" apart
  rw [outline_congr (fun _ => alike)]
  decide +kernel

/-- The value may be hostile: the escape is read as a tab, and the sign for comments begins none. -/
theorem settings_besides_key_hostile :
    ∃ one two, Configuration.parse (keyEnvironment "sk-1") keyText = .ok one ∧
      Configuration.parse (keyEnvironment "a\\t# [telemetry]") keyText = .ok two ∧
      SameBesidesKey one two := by
  have plain : Configuration.parse (keyEnvironment "sk-1") keyText =
      .ok { connection := { model := "m", apiKey := some "sk-1" } } := by
    decide +kernel
  have hostile : Configuration.parse (keyEnvironment "a\\t# [telemetry]") keyText =
      .ok { connection := { model := "m", apiKey := some "a\t# [telemetry]" } } := by
    decide +kernel
  refine ⟨_, _, plain, hostile, ?_⟩
  refine settings_besides_key (fun _ => keyEnvironment_alike _ _) ?_ plain hostile
  exact .inside (outline_keyText _) (by decide +kernel) (by decide +kernel)

/-- **A value can set other settings.** One that ends the quotation of the API key, and begins
another one at its own end, has put a setting of its own between them. -/
theorem value_sets_organization :
    ¬ ∀ (first second : Environment) (name text : String) (one two : Configuration),
      (∀ other, other ≠ name → first other = second other) →
      OnlyInApiKey first name text [] →
      Configuration.parse first text = .ok one → Configuration.parse second text = .ok two →
      SameBesidesKey one two := by
  intro claim
  have plain : Configuration.parse (keyEnvironment "sk-1") keyText =
      .ok { connection := { model := "m", apiKey := some "sk-1" } } := by
    decide +kernel
  have hostile : Configuration.parse (keyEnvironment "a\"\norganization = \"evil") keyText =
      .ok { connection := { model := "m", apiKey := some "a", organization := some "evil" } } := by
    decide +kernel
  have placed : OnlyInApiKey (keyEnvironment "sk-1") "K" keyText [] :=
    .inside (outline_keyText _) (by decide +kernel) nofun
  have same := claim _ _ "K" keyText _ _ (fun _ => keyEnvironment_alike _ _) placed plain hostile
  cases same.organization

end KeyInVariable
end ResponsesBridge.Settings
