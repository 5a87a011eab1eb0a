import ResponsesBridge.Failure
import Mathlib.Data.List.Forall2
import Mathlib.Tactic.Tauto

/-!
# Things in a row

Many results are gathered from things in a row: the parts of a response from its items, the text of
a line from its pieces. Each thing makes something or offends, what they make is appended in order
(`RowMakes`), and the first one that offends tells what is wrong (`FirstOffends`). If rules tell what
becomes of each thing, they tell what becomes of the row (`Judged.gather`).
-/

set_option autoImplicit false

namespace ResponsesBridge

variable {Thing Offence Output Value : Type}

/-! ## Offences -/

/-- No thing in a row offends. -/
def NoneOffends (offends : Thing → Offence → Prop) (things : List Thing) : Prop :=
  ∀ thing ∈ things, ∀ offence, ¬ offends thing offence

/-- An offence is that of the first thing in a row that offends. -/
def FirstOffends (offends : Thing → Offence → Prop) (things : List Thing) (offence : Offence) :
    Prop :=
  ∃ before thing after, things = before ++ thing :: after ∧ NoneOffends offends before ∧
    offends thing offence

section

variable {offends : Thing → Offence → Prop} {thing : Thing} {things front back : List Thing}
  {offence : Offence}

theorem noneOffends_nil : NoneOffends offends [] :=
  List.forall_mem_nil _

theorem noneOffends_cons_iff :
    NoneOffends offends (thing :: things) ↔
      (∀ offence, ¬ offends thing offence) ∧ NoneOffends offends things :=
  List.forall_mem_cons

theorem noneOffends_append_iff :
    NoneOffends offends (front ++ back) ↔ NoneOffends offends front ∧ NoneOffends offends back :=
  List.forall_mem_append

theorem not_firstOffends_nil : ¬ FirstOffends offends [] offence := by
  rintro ⟨before, thing, after, same, -⟩
  exact absurd same.symm (List.append_ne_nil_of_right_ne_nil _ (List.cons_ne_nil _ _))

theorem firstOffends_cons_iff :
    FirstOffends offends (thing :: things) offence ↔
      offends thing offence ∨
        (∀ other, ¬ offends thing other) ∧ FirstOffends offends things offence := by
  constructor
  · rintro ⟨before, offender, after, same, fine, offended⟩
    cases before with
    | nil =>
        obtain ⟨rfl, rfl⟩ := List.cons.inj same
        exact .inl offended
    | cons earlier before =>
        obtain ⟨rfl, rfl⟩ := List.cons.inj same
        obtain ⟨fine, fineBehind⟩ := noneOffends_cons_iff.mp fine
        exact .inr ⟨fine, before, offender, after, rfl, fineBehind, offended⟩
  · rintro (offended | ⟨fine, before, offender, after, rfl, fineBehind, offended⟩)
    · exact ⟨[], thing, things, rfl, noneOffends_nil, offended⟩
    · exact ⟨thing :: before, offender, after, rfl, noneOffends_cons_iff.mpr ⟨fine, fineBehind⟩,
        offended⟩

/-- **Two rows** are gone through one after the other. -/
theorem firstOffends_append_iff :
    FirstOffends offends (front ++ back) offence ↔
      FirstOffends offends front offence ∨
        NoneOffends offends front ∧ FirstOffends offends back offence := by
  induction front with
  | nil => simp [noneOffends_nil, not_firstOffends_nil]
  | cons thing front ih =>
      rw [List.cons_append, firstOffends_cons_iff, firstOffends_cons_iff, ih, noneOffends_cons_iff]
      tauto

/-- A first thing offends exactly if some thing does. -/
theorem exists_firstOffends_iff :
    (∃ offence, FirstOffends offends things offence) ↔
      ∃ thing ∈ things, ∃ offence, offends thing offence := by
  induction things with
  | nil => simp [not_firstOffends_nil]
  | cons thing things ih =>
      simp only [firstOffends_cons_iff, exists_or, exists_and_left, List.exists_mem_cons_iff, ih]
      constructor
      · rintro (here | ⟨-, later⟩)
        · exact .inl here
        · exact .inr later
      · rintro (here | later)
        · exact .inl here
        · by_cases here : ∃ offence, offends thing offence
          · exact .inl here
          · exact .inr ⟨not_exists.mp here, later⟩

/-- **The place of the first thing that offends**, where its number counts for the offence but not
for whether there is one. -/
theorem firstOffends_zipIdx_iff {offends : Thing × Nat → Offence → Prop} {Fine : Thing → Prop}
    (fine : ∀ thing number, (∀ offence, ¬ offends (thing, number) offence) ↔ Fine thing)
    (number : Nat) :
    FirstOffends offends (things.zipIdx number) offence ↔
      ∃ place thing, things[place]? = some thing ∧ (∀ earlier ∈ things.take place, Fine earlier) ∧
        offends (thing, number + place) offence := by
  induction things generalizing number with
  | nil =>
      simp only [List.zipIdx_nil, List.getElem?_nil, reduceCtorEq, false_and, exists_false, iff_false]
      exact not_firstOffends_nil
  | cons thing things ih =>
      rw [List.zipIdx_cons, firstOffends_cons_iff, fine, ih]
      constructor
      · rintro (here | ⟨first, place, offender, there, others, offended⟩)
        · exact ⟨0, thing, rfl, List.forall_mem_nil _, here⟩
        · refine ⟨place + 1, offender, there, List.forall_mem_cons.mpr ⟨first, others⟩, ?_⟩
          rwa [Nat.add_assoc, Nat.add_comm 1] at offended
      · rintro ⟨place, offender, there, others, offended⟩
        cases place with
        | zero =>
            obtain rfl : thing = offender := Option.some.inj there
            exact .inl offended
        | succ place =>
            obtain ⟨first, others⟩ := List.forall_mem_cons.mp others
            refine .inr ⟨first, place, offender, there, others, ?_⟩
            rwa [Nat.add_assoc, Nat.add_comm 1]

/-- If a first thing offends, it is not so that none does. -/
theorem FirstOffends.not_none (first : FirstOffends offends things offence) :
    ¬ NoneOffends offends things := by
  obtain ⟨before, thing, after, rfl, -, offended⟩ := first
  intro fine
  exact (noneOffends_cons_iff.mp (noneOffends_append_iff.mp fine).2).1 offence offended

end

/-! ## What is made -/

/-- Things in a row make what each of them makes, one after the other. -/
def RowMakes (makes : Thing → List Output → Prop) (things : List Thing) (outputs : List Output) :
    Prop :=
  ∃ ofEach, List.Forall₂ makes things ofEach ∧ outputs = ofEach.flatten

section

variable {makes : Thing → List Output → Prop} {thing : Thing} {things : List Thing}
  {outputs : List Output}

theorem rowMakes_nil_iff : RowMakes makes [] outputs ↔ outputs = [] := by
  simp only [RowMakes, List.forall₂_nil_left_iff, exists_eq_left, List.flatten_nil]

theorem rowMakes_cons_iff :
    RowMakes makes (thing :: things) outputs ↔
      ∃ first later, makes thing first ∧ RowMakes makes things later ∧
        outputs = first ++ later := by
  constructor
  · rintro ⟨_, made, rfl⟩
    cases made with
    | @cons _ first _ ofEach here rest =>
        exact ⟨first, ofEach.flatten, here, ⟨ofEach, rest, rfl⟩, rfl⟩
  · rintro ⟨first, _, here, ⟨ofEach, rest, rfl⟩, rfl⟩
    exact ⟨first :: ofEach, .cons here rest, rfl⟩

/-- Things that make one output each. -/
theorem rowMakes_one_iff {makes : Thing → Output → Prop} :
    RowMakes (fun thing made => ∃ output, makes thing output ∧ made = [output]) things outputs ↔
      List.Forall₂ makes things outputs := by
  induction things generalizing outputs with
  | nil => rw [rowMakes_nil_iff, List.forall₂_nil_left_iff]
  | cons thing things ih =>
      rw [rowMakes_cons_iff, List.forall₂_cons_left_iff]
      constructor
      · rintro ⟨_, later, ⟨output, made, rfl⟩, rest, rfl⟩
        exact ⟨output, later, made, ih.mp rest, rfl⟩
      · rintro ⟨output, later, made, rest, rfl⟩
        exact ⟨[output], later, ⟨output, made, rfl⟩, ih.mpr rest, rfl⟩

/-- Numbers beside the things do not matter for what is made. -/
theorem rowMakes_zipIdx_iff (number : Nat) :
    RowMakes (fun numbered => makes numbered.1) (things.zipIdx number) outputs ↔
      RowMakes makes things outputs := by
  have numbered : ∀ ofEach, List.Forall₂ makes things ofEach ↔
      List.Forall₂ (fun numbered => makes numbered.1) (things.zipIdx number) ofEach := by
    intro ofEach
    have fromNumbered := @List.forall₂_map_left_iff _ _ _ makes Prod.fst (things.zipIdx number) ofEach
    rwa [List.zipIdx_map_fst] at fromNumbered
  simp only [RowMakes, numbered]

end

/-! ## Outcomes by rules -/

/-- The outputs of things in a row, one after the other, up to the first failure. -/
def gather (one : Thing → Except Offence (List Output)) :
    List Thing → Except Offence (List Output)
  | [] => .ok []
  | thing :: things => do
    let first ← one thing
    let later ← gather one things
    return first ++ later

/-- An outcome is the value that the rules make, and the failure with which they offend. -/
structure Judged (outcome : Except Offence Value) (makes : Value → Prop)
    (offends : Offence → Prop) : Prop where
  ok (value : Value) : outcome = .ok value ↔ makes value
  error (offence : Offence) : outcome = .error offence ↔ offends offence

namespace Judged

/-- An outcome that succeeds: the rules make one value only, and do not offend. -/
theorem of_ok {value : Value} {makes : Value → Prop} {offends : Offence → Prop}
    (made : ∀ other, makes other ↔ other = value) (fine : ∀ offence, ¬ offends offence) :
    Judged (.ok value) makes offends := by
  constructor
  · intro other
    rw [made, Except.ok.injEq, eq_comm]
  · intro offence
    exact iff_of_false nofun (fine offence)

/-- An outcome that fails. -/
theorem of_error {offence : Offence} {makes : Value → Prop} {offends : Offence → Prop}
    (nothing : ∀ value, ¬ makes value) (offended : ∀ other, offends other ↔ other = offence) :
    Judged (.error offence) makes offends := by
  constructor
  · intro value
    exact iff_of_false nofun (nothing value)
  · intro other
    rw [offended, Except.error.injEq, eq_comm]

/-- Where the rules do not offend, they make something. -/
theorem exists_made {outcome : Except Offence Value} {makes : Value → Prop}
    {offends : Offence → Prop} (judged : Judged outcome makes offends)
    (fine : ∀ offence, ¬ offends offence) : ∃ value, outcome = .ok value ∧ makes value := by
  cases result : outcome with
  | ok value => exact ⟨value, rfl, (judged.ok value).mp result⟩
  | error offence => exact absurd ((judged.error offence).mp result) (fine offence)

/-- A value that is changed is made out of the one that the rules make. A failure stays as it is. -/
theorem map {Changed : Type} {outcome : Except Offence Value} {makes : Value → Prop}
    {offends : Offence → Prop} (judged : Judged outcome makes offends)
    (change : Value → Changed) :
    Judged (outcome.map change) (fun changed => ∃ value, makes value ∧ changed = change value)
      offends := by
  constructor
  · intro changed
    simp only [← judged.ok]
    cases outcome <;> simp [Except.map, eq_comm]
  · intro offence
    rw [← judged.error]
    cases outcome <;> simp [Except.map]

/-- **A row is judged by the rules for one thing.** -/
theorem gather {one : Thing → Except Offence (List Output)}
    {makes : Thing → List Output → Prop} {offends : Thing → Offence → Prop}
    (each : ∀ thing, Judged (one thing) (makes thing) (offends thing)) (things : List Thing) :
    Judged (gather one things) (RowMakes makes things) (FirstOffends offends things) := by
  induction things with
  | nil => exact .of_ok (fun _ => rowMakes_nil_iff) fun _ => not_firstOffends_nil
  | cons thing things ih =>
      constructor
      · intro outputs
        rw [rowMakes_cons_iff, ResponsesBridge.gather]
        simp only [bind_eq_ok_iff, pure, Except.pure, Except.ok.injEq, (each thing).ok, ih.ok]
        constructor
        · rintro ⟨first, here, later, rest, rfl⟩
          exact ⟨first, later, here, rest, rfl⟩
        · rintro ⟨first, later, here, rest, rfl⟩
          exact ⟨first, here, later, rest, rfl⟩
      · intro offence
        rw [ResponsesBridge.gather]
        simp only [firstOffends_cons_iff, ← (each thing).error, ← ih.error]
        cases one thing with
        | error refused => simp [Bind.bind, Except.bind]
        | ok first =>
            cases ResponsesBridge.gather one things with
            | error refused => simp [Bind.bind, Except.bind]
            | ok later => simp [Bind.bind, Except.bind, pure, Except.pure]

end Judged

end ResponsesBridge
