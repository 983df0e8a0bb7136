import Rovs.NamedUuid
import Rovs.TopologyCalls

/-!
# What a failed commit leaves in the map of UUIDs

The map of UUIDs is documented as populated after a successful commit.  `processResult` fills
it in the same loop that looks for errors, so the inserts in front of the first error are
recorded although the server has rolled them back.

`leavesNoTrace_iff` says for which results nothing is left; it also counts what had been
recorded before.
-/

namespace Rovs.Ovsdb.Transaction

open Json

variable {fmt : UuidFormat}

/-- The result carries an error that is not null. -/
def CarriesError (opResult : Value) : Prop :=
  ∃ error, opResult.get "error" = some error ∧ error ≠ .null

theorem hasError_iff (opResult : Value) : hasError opResult = true ↔ CarriesError opResult := by
  rw [hasError, CarriesError]
  cases hget : opResult.get "error" with
  | none => simp
  | some error => cases error <;> simp [Value.isNull]

/-- The results in front of the first error. -/
def beforeError (results : List Value) : List Value :=
  results.takeWhile fun opResult => !hasError opResult

theorem beforeError_cons_of_error {opResult : Value} (h : hasError opResult = true)
    (rest : List Value) : beforeError (opResult :: rest) = [] := by
  simp [beforeError, h]

theorem beforeError_cons {opResult : Value} (h : ¬ hasError opResult = true)
    (rest : List Value) : beforeError (opResult :: rest) = opResult :: beforeError rest := by
  simp [beforeError, h]

/-! ### What the loop records -/

theorem recordUuid_rowName (fmt : UuidFormat) (txn : Transaction) (i : Nat) (opResult : Value) :
    (txn.recordUuid fmt i opResult).getUuid (rowName i) =
      (insertedUuid fmt opResult).or (txn.getUuid (rowName i)) := by
  rw [recordUuid]
  cases insertedUuid fmt opResult with
  | none => rfl
  | some u => exact AList.lookup_insert txn.uuidMap

theorem recordUuid_other (fmt : UuidFormat) (txn : Transaction) {i : Nat} (opResult : Value)
    {name : String} (hname : name ≠ rowName i) :
    (txn.recordUuid fmt i opResult).getUuid name = txn.getUuid name := by
  rw [recordUuid]
  cases insertedUuid fmt opResult with
  | none => rfl
  | some u => exact AList.lookup_insert_ne hname

/-- The results from number `n` on leave every other name as it is. -/
theorem processResults_other (fmt : UuidFormat) (results : List Value) (txn : Transaction)
    {n : Nat} {name : String} (hname : ∀ k, n ≤ k → name ≠ rowName k) :
    (txn.processResults fmt n results).1.getUuid name = txn.getUuid name := by
  induction results generalizing txn n with
  | nil => rfl
  | cons opResult rest ih =>
    rw [processResults]
    by_cases herror : hasError opResult = true
    · rw [if_pos herror]
      rfl
    · rw [if_neg herror, ih _ fun k hk => hname k (by omega)]
      exact recordUuid_other fmt txn opResult (hname n (Nat.le_refl n))

/-- The name of a position is mapped to the UUID that stands there, if the loop gets so
    far. -/
theorem processResults_rowName (fmt : UuidFormat) (results : List Value) (txn : Transaction)
    (n i : Nat) :
    (txn.processResults fmt n results).1.getUuid (rowName (n + i)) =
      ((beforeError results)[i]?.bind (insertedUuid fmt)).or (txn.getUuid (rowName (n + i))) := by
  induction results generalizing txn n i with
  | nil => rfl
  | cons opResult rest ih =>
    rw [processResults]
    by_cases herror : hasError opResult = true
    · rw [if_pos herror, beforeError_cons_of_error herror]
      rfl
    · rw [if_neg herror, beforeError_cons herror]
      cases i with
      | zero =>
        have hlater : ∀ k, n + 1 ≤ k → rowName n ≠ rowName k := by
          intro k hk heq
          have := rowName_inj heq
          omega
        simp only [Nat.add_zero]
        rw [processResults_other fmt rest _ hlater]
        exact recordUuid_rowName fmt txn n opResult
      | succ i =>
        have hnext : n + (i + 1) = n + 1 + i := by omega
        have hne : rowName (n + 1 + i) ≠ rowName n := by
          intro heq
          have := rowName_inj heq
          omega
        rw [hnext, ih, recordUuid_other fmt txn opResult hne]
        rfl

/-- The map holds what it held before under every name exactly if it held what the results
    in front of the first error record. -/
theorem processResults_unchanged_iff (fmt : UuidFormat) (results : List Value)
    (txn : Transaction) :
    (∀ name, (txn.processResults fmt 0 results).1.getUuid name = txn.getUuid name) ↔
      ∀ i opResult u, (beforeError results)[i]? = some opResult →
        CarriesUuid fmt opResult u → txn.getUuid (rowName i) = some u := by
  constructor
  case mp =>
    intro hsame i opResult u hi hu
    have hrow := processResults_rowName fmt results txn 0 i
    rw [hsame, Nat.zero_add, hi, Option.bind_some, insertedUuid_eq_some.mpr hu,
      Option.some_or] at hrow
    exact hrow
  case mpr =>
    intro hrecorded name
    by_cases hname : ∃ i, name = rowName i
    · obtain ⟨i, rfl⟩ := hname
      have hrow := processResults_rowName fmt results txn 0 i
      rw [Nat.zero_add] at hrow
      rw [hrow]
      cases hi : (beforeError results)[i]?.bind (insertedUuid fmt) with
      | none => rw [Option.none_or]
      | some u =>
        obtain ⟨opResult, hget, hu⟩ := Option.bind_eq_some_iff.mp hi
        rw [Option.some_or]
        exact (hrecorded i opResult u hget (insertedUuid_eq_some.mp hu)).symm
    · exact processResults_other fmt results txn fun k _ heq => hname ⟨k, heq⟩

theorem processResults_status (fmt : UuidFormat) (results : List Value) (txn : Transaction)
    (n : Nat) (hfailed : (txn.processResults fmt n results).2 = false) :
    (txn.processResults fmt n results).1.status = .error := by
  induction results generalizing txn n with
  | nil => cases hfailed
  | cons opResult rest ih =>
    rw [processResults] at hfailed ⊢
    by_cases herror : hasError opResult = true
    · rw [if_pos herror]
    · rw [if_neg herror] at hfailed ⊢
      exact ih _ _ hfailed

/-! ### Failed commits -/

/-- A call that reports a failure leaves the map as it was and the status at `error`; one
    that reports a success has seen a list of results without an error. -/
structure LeavesNoTrace (fmt : UuidFormat) (txn : Transaction) (result : Value) : Prop where
  unchanged : (txn.processResult fmt result).2 = false →
    ∀ name, (txn.processResult fmt result).1.getUuid name = txn.getUuid name
  status_eq : (txn.processResult fmt result).2 = false →
    (txn.processResult fmt result).1.status = .error
  noError : (txn.processResult fmt result).2 = true →
    ∃ results, result = .array results ∧ ∀ opResult ∈ results, ¬ CarriesError opResult

/-- If a list of results has an error, then what the results in front of it record is in
    the map already. -/
def RecordedBefore (fmt : UuidFormat) (txn : Transaction) (result : Value) : Prop :=
  ∀ results, result = .array results → (∃ opResult ∈ results, CarriesError opResult) →
    ∀ i opResult u, (beforeError results)[i]? = some opResult → CarriesUuid fmt opResult u →
      txn.getUuid (rowName i) = some u

theorem processResult_status (txn : Transaction) (result : Value)
    (hfailed : (txn.processResult fmt result).2 = false) :
    (txn.processResult fmt result).1.status = .error := by
  rw [processResult] at hfailed ⊢
  cases harray : result.asArray with
  | none => rfl
  | some results =>
    rw [harray] at hfailed
    exact processResults_status fmt results txn 0 hfailed

theorem processResult_noError (txn : Transaction) (result : Value)
    (hdone : (txn.processResult fmt result).2 = true) :
    ∃ results, result = .array results ∧ ∀ opResult ∈ results, ¬ CarriesError opResult := by
  have haccepts : ¬ Rejects result := by
    rw [← processResult_eq_false fmt txn result, hdone]
    decide
  rw [Rejects] at haccepts
  cases harray : result.asArray with
  | none =>
    rw [harray] at haccepts
    exact absurd trivial haccepts
  | some results =>
    rw [harray] at haccepts
    refine ⟨results, Value.asArray_eq_some.mp harray, ?_⟩
    intro opResult hmem herror
    exact haccepts ⟨opResult, hmem, (hasError_iff opResult).mpr herror⟩

/-- **A commit that fails leaves no trace exactly when everything in front of the first error is
    already recorded.**  A result that is not a list, or has no error in it, is of this kind;
    otherwise the UUIDs in front of the error are written to the map before the error is met. -/
theorem leavesNoTrace_iff (fmt : UuidFormat) (txn : Transaction) (result : Value) :
    LeavesNoTrace fmt txn result ↔ RecordedBefore fmt txn result := by
  constructor
  case mp =>
    rintro ⟨hunchanged, -, -⟩ results rfl ⟨bad, hmem, herror⟩
    have hfailed : (txn.processResult fmt (.array results)).2 = false :=
      (processResult_eq_false fmt txn _).mpr ⟨bad, hmem, (hasError_iff bad).mpr herror⟩
    exact (processResults_unchanged_iff fmt results txn).mp (hunchanged hfailed)
  case mpr =>
    intro hrecorded
    refine ⟨?_, processResult_status txn result, processResult_noError txn result⟩
    intro hfailed
    have hrejects := (processResult_eq_false fmt txn result).mp hfailed
    rw [Rejects] at hrejects
    rw [processResult]
    cases harray : result.asArray with
    | none =>
      intro name
      rfl
    | some results =>
      rw [harray] at hrejects
      obtain ⟨bad, hmem, herror⟩ := hrejects
      exact (processResults_unchanged_iff fmt results txn).mpr (hrecorded results
        (Value.asArray_eq_some.mp harray) ⟨bad, hmem, (hasError_iff bad).mp herror⟩)

/-- Two inserts. -/
def twoInserts : Transaction :=
  built hyphenated "Open_vSwitch" [.insert "Bridge" (.object []), .insert "Port" (.object [])]

/-- The second insert breaks a constraint. -/
def secondInsertFails : List Value :=
  [.object [("uuid", uuidJson hyphenated 7)], .object [("error", .string "constraint violation")]]

/-- The rolled-back first insert can be looked up under its name. -/
theorem secondInsertFails_leavesTrace :
    ¬ LeavesNoTrace hyphenated twoInserts (.array secondInsertFails) := by
  intro h
  have hfailed : (twoInserts.processResult hyphenated (.array secondInsertFails)).2 = false := rfl
  have hcarries : CarriesUuid hyphenated (.object [("uuid", uuidJson hyphenated 7)]) 7 :=
    ⟨_, rfl, hyphenated.parse_display 7⟩
  have hrow := processResults_rowName hyphenated secondInsertFails twoInserts 0 0
  have hbefore : beforeError secondInsertFails = [.object [("uuid", uuidJson hyphenated 7)]] := rfl
  rw [hbefore, List.getElem?_cons_zero, Option.bind_some, insertedUuid_eq_some.mpr hcarries] at hrow
  have hlookup := (h.unchanged hfailed (rowName 0)).symm.trans hrow
  cases hlookup

end Rovs.Ovsdb.Transaction
