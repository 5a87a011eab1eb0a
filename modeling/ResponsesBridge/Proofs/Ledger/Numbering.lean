import ResponsesBridge.CallLedger
import Mathlib.Order.Interval.Finset.Nat

/-!
# Numbers of made ids

Different numbers make different ids (`numberedId_injective`), so a list of waiting calls takes at
most as many numbers as it is long, and the search for a free number ends at one. The id that is
made next is therefore never waiting (`numberedId_nextNumber_not_mem`), and its number is the least
one of which this is true (`isLeast_nextNumber`).
-/

set_option autoImplicit false

namespace ResponsesBridge.CallLedger

/-- Different numbers make different ids. -/
theorem numberedId_injective : Function.Injective numberedId := by
  intro first second same
  have digits : Nat.repr first = Nat.repr second := by
    simpa [numberedId] using same
  have read := congrArg (fun text => Nat.ofDigitChars 10 text.toList 0) digits
  simpa using read

/-- The search passes over taken numbers only. -/
theorem mem_of_lt_firstFree {taken : List String} {attempts number passed : Nat}
    (fromFirst : number ≤ passed) (beforeFound : passed < firstFree taken attempts number) :
    numberedId passed ∈ taken := by
  induction attempts generalizing number with
  | zero =>
      simp only [firstFree] at beforeFound
      omega
  | succ attempts ih =>
      simp only [firstFree] at beforeFound
      split at beforeFound
      · rename_i isTaken
        rcases Nat.eq_or_lt_of_le fromFirst with rfl | later
        · simpa using isTaken
        · exact ih later beforeFound
      · omega

/-- The search ends at a free number, or behind all the numbers that it may pass over. -/
theorem firstFree_not_mem_or_eq (taken : List String) (attempts number : Nat) :
    numberedId (firstFree taken attempts number) ∉ taken ∨
      firstFree taken attempts number = number + attempts := by
  induction attempts generalizing number with
  | zero => exact .inr rfl
  | succ attempts ih =>
      simp only [firstFree]
      split
      · rcases ih (number + 1) with free | behind
        · exact .inl free
        · exact .inr (by omega)
      · rename_i isFree
        exact .inl (by simpa using isFree)

/-- Ids of more numbers than there are taken ids cannot all be taken. -/
theorem exists_not_mem_of_length_lt {taken : List String} {count : Nat}
    (more : taken.length < count) (number : Nat) :
    ∃ passed, number ≤ passed ∧ passed < number + count ∧ numberedId passed ∉ taken := by
  by_contra allTaken
  push Not at allTaken
  have maps : Set.MapsTo numberedId (Finset.Ico number (number + count)) taken.toFinset := by
    intro passed member
    have bounds := Finset.mem_Ico.mp member
    exact List.mem_toFinset.mpr (allTaken passed bounds.1 bounds.2)
  have fits := Finset.card_le_card_of_injOn numberedId maps numberedId_injective.injOn
  have short := List.toFinset_card_le taken
  simp only [Nat.card_Ico] at fits
  omega

/-- As many attempts as there are taken ids find a free number. -/
theorem numberedId_firstFree_not_mem (taken : List String) (number : Nat) :
    numberedId (firstFree taken taken.length number) ∉ taken := by
  rcases firstFree_not_mem_or_eq taken taken.length number with free | behind
  · exact free
  · intro isTaken
    -- All numbers up to the one behind the last attempt would be taken: one too many.
    obtain ⟨passed, fromFirst, bound, isFree⟩ :=
      exists_not_mem_of_length_lt (Nat.lt_succ_self taken.length) number
    rcases Nat.lt_or_ge passed (firstFree taken taken.length number) with before | notBefore
    · exact isFree (mem_of_lt_firstFree fromFirst before)
    · have same : passed = firstFree taken taken.length number := by omega
      exact isFree (same ▸ isTaken)

/-- **The id that is made next is not waiting.** -/
theorem numberedId_nextNumber_not_mem (ledger : CallLedger) :
    numberedId ledger.nextNumber ∉ ledger.waiting :=
  numberedId_firstFree_not_mem ledger.waiting (ledger.lastNumber + 1)

/-- The number of the next made id is the least free one behind the last number. -/
theorem isLeast_nextNumber (ledger : CallLedger) :
    IsLeast {number | ledger.lastNumber < number ∧ numberedId number ∉ ledger.waiting}
      ledger.nextNumber := by
  refine ⟨⟨lastNumber_lt_nextNumber ledger, numberedId_nextNumber_not_mem ledger⟩, ?_⟩
  rintro number ⟨above, free⟩
  by_contra before
  exact free (mem_of_lt_firstFree above (Nat.lt_of_not_le before))

/-- At most as many numbers are passed over as there are waiting calls. -/
theorem nextNumber_le (ledger : CallLedger) :
    ledger.nextNumber ≤ ledger.lastNumber + ledger.waiting.length + 1 := by
  obtain ⟨number, above, bound, free⟩ :=
    exists_not_mem_of_length_lt (Nat.lt_succ_self ledger.waiting.length) (ledger.lastNumber + 1)
  have least := (isLeast_nextNumber ledger).2 ⟨above, free⟩
  omega

end ResponsesBridge.CallLedger
