import Rovs.Transaction
import Mathlib.Data.List.Count

/-!
# Named UUIDs

The name of an insert counts the inserts before it, while `processResult` maps a result
under the name of its position among all operations.  The two agree exactly when every
insert stands before every other operation and the counter has not wrapped around.

`namesResolved_iff` is the main result, over every sequence of calls that build a
transaction.
-/

namespace Rovs.Ovsdb.Transaction

open Json

/-! ### What a method keeps -/

section Keeps

variable {σ α β : Type} {P : σ → Prop}

/-- The program leads from states with `P` to states with `P`. -/
def Keeps (P : σ → Prop) (program : StateM σ α) : Prop :=
  ∀ s, P s → P (program.run s).2

theorem keeps_pure (a : α) : Keeps P (pure a) := fun _ h => h

theorem Keeps.bind {program : StateM σ α} {next : α → StateM σ β} (hprogram : Keeps P program)
    (hnext : ∀ a, Keeps P (next a)) : Keeps P (program >>= next) := by
  intro s hs
  exact hnext _ _ (hprogram s hs)

theorem Keeps.discard {program : StateM σ α} (h : Keeps P program) :
    Keeps P (Functor.discard program) := h

theorem keeps_forM {program : α → StateM σ Unit} (h : ∀ a, Keeps P (program a)) (as : List α) :
    Keeps P (as.forM program) := by
  induction as with
  | nil => exact keeps_pure ()
  | cons a as ih => exact (h a).bind fun _ => ih

end Keeps

/-! ### The names of a built transaction -/

def isInsert (operation : Value) : Bool :=
  (operation.get "op").bind Value.asStr == some "insert"

/-- The temporary name of an operation. -/
def uuidName (operation : Value) : Option String :=
  (operation.get "uuid-name").bind Value.asStr

/-- How many of the first `i` operations are inserts. -/
def insertsBefore (operations : List Value) (i : Nat) : Nat :=
  (operations.take i).countP isInsert

/-- The name of every insert is the number of inserts before it, up to the wrap of the
    counter. -/
structure Numbered (txn : Transaction) : Prop where
  uuidMap_eq : txn.uuidMap = ∅
  counter_eq : txn.uuidCounter.toNat = txn.operations.countP isInsert % 2 ^ 32
  uuidName_eq : ∀ i operation, txn.operations[i]? = some operation → isInsert operation = true →
    uuidName operation = some (rowName (insertsBefore txn.operations i % 2 ^ 32))

theorem numbered_new (dbName : String) : Numbered (new dbName) := by
  refine ⟨rfl, rfl, ?_⟩
  intro i operation h
  cases h

theorem Numbered.append {txn : Transaction} (h : Numbered txn) {operation : Value} {counter : U32}
    (hcounter : counter.toNat =
      (txn.operations.countP isInsert + [operation].countP isInsert) % 2 ^ 32)
    (hname : isInsert operation = true →
      uuidName operation = some (rowName txn.uuidCounter.toNat)) :
    Numbered { txn with
      operations := txn.operations ++ [operation]
      uuidCounter := counter } := by
  refine ⟨h.uuidMap_eq, ?_, ?_⟩
  · rw [List.countP_append]
    exact hcounter
  · intro i op hop hinsert
    rcases Nat.lt_or_ge i txn.operations.length with hi | hi
    · rw [List.getElem?_append_left hi] at hop
      rw [insertsBefore, List.take_append_of_le_length (Nat.le_of_lt hi)]
      exact h.uuidName_eq i op hop hinsert
    · obtain ⟨hlen, -⟩ := List.getElem?_eq_some_iff.mp hop
      rw [List.length_append, List.length_singleton] at hlen
      obtain rfl : i = txn.operations.length := by omega
      rw [List.getElem?_concat_length] at hop
      cases hop
      rw [insertsBefore, List.take_left, ← h.counter_eq]
      exact hname hinsert

theorem keeps_push {operation : Value} (hother : isInsert operation = false) :
    Keeps Numbered (push operation) := by
  intro txn h
  refine h.append ?_ ?_
  · rw [List.countP_singleton, hother, h.counter_eq]
    rfl
  · intro hinsert
    rw [hother] at hinsert
    cases hinsert

/-- `insert` returns the name of the operation that it appends. -/
theorem insert_run (table : String) (row : Value) (txn : Transaction) :
    ∃ operation, isInsert operation = true ∧
      uuidName operation = some (rowName txn.uuidCounter.toNat) ∧
      (insert table row).run txn = (.named (rowName txn.uuidCounter.toNat),
        { txn with
          operations := txn.operations ++ [operation]
          uuidCounter := txn.uuidCounter + 1 }) :=
  ⟨_, rfl, rfl, rfl⟩

theorem keeps_insert (table : String) (row : Value) : Keeps Numbered (insert table row) := by
  intro txn h
  obtain ⟨operation, hinsert, hname, hrun⟩ := insert_run table row txn
  rw [hrun]
  refine h.append ?_ fun _ => hname
  rw [List.countP_singleton, if_pos hinsert, BitVec.toNat_add, h.counter_eq]
  exact Nat.mod_add_mod _ _ _

/-- A property that every single step of a method keeps. -/
structure KeptBySteps (P : Transaction → Prop) : Prop where
  push : ∀ operation, isInsert operation = false → Keeps P (push operation)
  insert : ∀ table row, Keeps P (insert table row)
  setStatus : ∀ status, Keeps P (setStatus status)

theorem keptBySteps_numbered : KeptBySteps Numbered where
  push := fun _ => keeps_push
  insert := keeps_insert
  setStatus := fun _ _ h => ⟨h.uuidMap_eq, h.counter_eq, h.uuidName_eq⟩

section Methods

variable (fmt : UuidFormat) {P : Transaction → Prop} (hP : KeptBySteps P)

include hP

theorem keeps_insertPort (name ifaceType : String) (ifaceExtra portExtra : List (String × Value)) :
    Keeps P (insertPort fmt name ifaceType ifaceExtra portExtra) := by
  apply (hP.insert _ _).bind
  intro ifaceRef
  apply (hP.insert _ _).bind
  intro portRef
  exact keeps_pure _

theorem keeps_attachPort (bridgeName portName ifaceType : String)
    (ifaceExtra portExtra : List (String × Value)) :
    Keeps P (attachPort fmt bridgeName portName ifaceType ifaceExtra portExtra) := by
  apply (keeps_insertPort fmt hP _ _ _ _).bind
  rintro ⟨portRef, ifaceRef⟩
  apply (hP.push _ rfl).bind
  intro _
  exact keeps_pure _

theorem keeps_insertPatchPorts (bridge1 bridge2 : String) (port1Name port2Name : Option String)
    (portExtra : List (String × Value)) :
    Keeps P (insertPatchPorts fmt bridge1 bridge2 port1Name port2Name portExtra) := by
  apply (keeps_attachPort fmt hP _ _ _ _ _).bind
  rintro ⟨port1Ref, iface1Ref⟩
  apply (keeps_attachPort fmt hP _ _ _ _ _).bind
  rintro ⟨port2Ref, iface2Ref⟩
  exact keeps_pure _

theorem keeps_createBridge (name : String) : Keeps P (createBridge fmt name) := by
  apply (keeps_insertPort fmt hP _ _ _ _).bind
  rintro ⟨portRef, ifaceRef⟩
  apply (hP.insert _ _).bind
  intro bridgeRef
  apply (hP.push _ rfl).bind
  intro _
  exact keeps_pure _

theorem keeps_setController (bridgeName target : String) :
    Keeps P (setController fmt bridgeName target) := by
  apply (hP.insert _ _).bind
  intro controllerRef
  apply (hP.push _ rfl).bind
  intro _
  exact keeps_pure _

theorem keeps_delete (table : String) (uuid : Uuid) : Keeps P (delete fmt table uuid) :=
  hP.push _ rfl

theorem keeps_deleteByName (table name : String) : Keeps P (deleteByName table name) :=
  hP.push _ rfl

theorem keeps_deleteBridgeUuid (bridgeUuid : Uuid) (portUuids ifaceUuids : List Uuid) :
    Keeps P (deleteBridgeUuid fmt bridgeUuid portUuids ifaceUuids) := by
  apply (hP.push _ rfl).bind
  intro _
  apply (keeps_forM (keeps_delete fmt hP _) ifaceUuids).bind
  intro _
  apply (keeps_forM (keeps_delete fmt hP _) portUuids).bind
  intro _
  exact keeps_delete fmt hP _ _

/-- What the single steps keep, every method keeps. -/
theorem KeptBySteps.call (method : Method) : Keeps P (method.call fmt) := by
  cases method with
  | insert table row => exact (hP.insert table row).discard
  | insertRaw table row => exact (hP.insert table _).discard
  | update | updateByName | mutate | mutateByName | mutateWhere | deleteWhere | wait | comment =>
    exact hP.push _ rfl
  | delete table uuid => exact keeps_delete fmt hP table uuid
  | deleteByName table name => exact keeps_deleteByName hP table name
  | setSuccess | setError | setTryAgain | abort => exact hP.setStatus _
  | createBridge name => exact (keeps_createBridge fmt hP name).discard
  | deleteBridgeUuid bridgeUuid portUuids ifaceUuids =>
    exact keeps_deleteBridgeUuid fmt hP bridgeUuid portUuids ifaceUuids
  | deleteBridge name =>
    exact (keeps_deleteByName hP _ name).bind fun _ =>
      (keeps_deleteByName hP _ name).bind fun _ => keeps_deleteByName hP _ name
  | addPort | addInternalPort | addSystemPort | addVlanPort =>
    exact (keeps_attachPort fmt hP _ _ _ _ _).discard
  | addPatchPorts | addTrunkPatchPorts =>
    exact (keeps_insertPatchPorts fmt hP _ _ _ _ _).discard
  | deletePortUuid bridgeUuid portUuid ifaceUuid =>
    exact (hP.push _ rfl).bind fun _ =>
      (keeps_delete fmt hP _ ifaceUuid).bind fun _ => keeps_delete fmt hP _ portUuid
  | deletePort bridgeName portName =>
    exact (keeps_deleteByName hP _ portName).bind fun _ => keeps_deleteByName hP _ portName
  | setController bridgeName target => exact (keeps_setController fmt hP bridgeName target).discard

end Methods

theorem numbered_built (fmt : UuidFormat) (dbName : String) (methods : List Method) :
    Numbered (built fmt dbName methods) :=
  keeps_forM (keptBySteps_numbered.call fmt) methods _ (numbered_new dbName)

/-! ### The names that a reply maps -/

theorem rowName_inj {m n : Nat} (h : rowName m = rowName n) : m = n := by
  have hdigits : Nat.toDigits 10 m = Nat.toDigits 10 n := by
    have hlist := congrArg String.toList h
    simpa [rowName, Nat.repr] using hlist
  have hvalue := congrArg (fun digits => Nat.ofDigitChars 10 digits 0) hdigits
  simpa using hvalue

section Reply

variable {fmt : UuidFormat}

/-- The result carries `["uuid", u]`. -/
def CarriesUuid (fmt : UuidFormat) (opResult : Value) (u : Uuid) : Prop :=
  ∃ s, opResult.get "uuid" = some (.array [.string "uuid", .string s]) ∧ fmt.parse s = some u

theorem insertedUuid_eq_some {opResult : Value} {u : Uuid} :
    insertedUuid fmt opResult = some u ↔ CarriesUuid fmt opResult u := by
  constructor
  · intro h
    obtain ⟨uuidObj, hget, hobj⟩ := Option.bind_eq_some_iff.mp h
    obtain ⟨elements, harray, hpair⟩ := Option.bind_eq_some_iff.mp hobj
    rw [Value.asArray_eq_some] at harray
    split at hpair
    · rename_i tag uuid
      split at hpair
      · rename_i htag
        obtain ⟨s, hs, hparse⟩ := Option.bind_eq_some_iff.mp hpair
        rw [Value.asStr_eq_some] at htag hs
        subst harray htag hs
        exact ⟨s, hget, hparse⟩
      · cases hpair
    · cases hpair
  · rintro ⟨s, hget, hparse⟩
    rw [insertedUuid, hget]
    exact hparse

theorem recordUuid_getUuid (fmt : UuidFormat) (txn : Transaction) (i : Nat) (opResult : Value)
    (hfresh : txn.getUuid (rowName i) = none) (name : String) (u : Uuid) :
    (txn.recordUuid fmt i opResult).getUuid name = some u ↔
      txn.getUuid name = some u ∨ name = rowName i ∧ CarriesUuid fmt opResult u := by
  rw [← insertedUuid_eq_some, recordUuid]
  cases hu : insertedUuid fmt opResult with
  | none => simp
  | some u' =>
    by_cases hname : name = rowName i
    · subst hname
      simp [getUuid, AList.lookup_insert] at hfresh ⊢
      simp [hfresh]
    · simp [getUuid, AList.lookup_insert_ne hname, hname]

/-- The results from number `n` on map the names of their own positions. -/
theorem processResults_getUuid (fmt : UuidFormat) {results : List Value}
    (hok : ∀ r ∈ results, hasError r = false)
    {txn : Transaction} {n : Nat} (hfresh : ∀ k, n ≤ k → txn.getUuid (rowName k) = none)
    (name : String) (u : Uuid) :
    (txn.processResults fmt n results).1.getUuid name = some u ↔
      txn.getUuid name = some u ∨
        ∃ i r, results[i]? = some r ∧ name = rowName (n + i) ∧ CarriesUuid fmt r u := by
  induction results generalizing txn n with
  | nil => simp [processResults, getUuid]
  | cons r results ih =>
    have hstep := recordUuid_getUuid fmt txn n r (hfresh n (Nat.le_refl n))
    have hfresh' : ∀ k, n + 1 ≤ k → (txn.recordUuid fmt n r).getUuid (rowName k) = none := by
      intro k hk
      rw [Option.eq_none_iff_forall_ne_some]
      intro u' hu'
      rcases (hstep _ _).mp hu' with hold | ⟨hname, -⟩
      · rw [hfresh k (by omega)] at hold
        cases hold
      · have := rowName_inj hname
        omega
    rw [processResults, if_neg (by rw [hok r List.mem_cons_self]; decide),
      ih (fun r hr => hok r (List.mem_cons_of_mem _ hr)) hfresh', hstep, or_assoc]
    apply or_congr Iff.rfl
    constructor
    · rintro (⟨hname, hu⟩ | ⟨i, r', hr', hname, hu⟩)
      · exact ⟨0, r, rfl, hname, hu⟩
      · exact ⟨i + 1, r', hr', by rw [hname]; congr 1; omega, hu⟩
    · rintro ⟨i, r', hr', hname, hu⟩
      cases i with
      | zero =>
        cases hr'
        exact .inl ⟨hname, hu⟩
      | succ i => exact .inr ⟨i, r', hr', by rw [hname]; congr 1; omega, hu⟩

/-- A reply with one result for each operation, none an error, in which exactly the results
    of the inserts carry a UUID. -/
structure Answers (fmt : UuidFormat) (txn : Transaction) (results : List Value) : Prop where
  length_eq : results.length = txn.operations.length
  noError : ∀ r ∈ results, hasError r = false
  carries_iff : ∀ (i : Nat) operation r,
    txn.operations[i]? = some operation → results[i]? = some r →
    ((∃ u, CarriesUuid fmt r u) ↔ isInsert operation = true)

/-- The name of every insert is mapped to the UUID at its position, and no other name is
    mapped. -/
structure NamesResolved (fmt : UuidFormat) (txn : Transaction) (results : List Value) : Prop where
  resolved : ∀ (i : Nat) operation name, txn.operations[i]? = some operation →
    isInsert operation = true → uuidName operation = some name →
    ∃ r u, results[i]? = some r ∧ CarriesUuid fmt r u ∧
      (txn.processResult fmt (.array results)).1.getUuid name = some u
  noOther : ∀ name u, (txn.processResult fmt (.array results)).1.getUuid name = some u →
    ∃ operation ∈ txn.operations, isInsert operation = true ∧ uuidName operation = some name

/-- A successful reply maps the names of the positions of its UUIDs. -/
theorem Answers.getUuid_iff {txn : Transaction} {results : List Value}
    (h : Answers fmt txn results) (hempty : txn.uuidMap = ∅) (name : String) (u : Uuid) :
    (txn.processResult fmt (.array results)).1.getUuid name = some u ↔
      ∃ i r, results[i]? = some r ∧ name = rowName i ∧ CarriesUuid fmt r u := by
  have hnone : ∀ name, txn.getUuid name = none := by
    intro name
    rw [getUuid, hempty]
    rfl
  have hmapped :=
    processResults_getUuid fmt h.noError (fun k (_ : 0 ≤ k) => hnone (rowName k)) name u
  simp only [hnone, Nat.zero_add, reduceCtorEq, false_or] at hmapped
  exact hmapped

theorem Answers.result_of_insert {txn : Transaction} {results : List Value}
    (h : Answers fmt txn results) {i : Nat} {operation : Value}
    (hop : txn.operations[i]? = some operation) (hinsert : isInsert operation = true) :
    ∃ r u, results[i]? = some r ∧ CarriesUuid fmt r u := by
  obtain ⟨hi, -⟩ := List.getElem?_eq_some_iff.mp hop
  obtain ⟨r, hr⟩ : ∃ r, results[i]? = some r :=
    ⟨_, List.getElem?_eq_getElem (h.length_eq ▸ hi)⟩
  obtain ⟨u, hu⟩ := (h.carries_iff i operation r hop hr).mpr hinsert
  exact ⟨r, u, hr, hu⟩

/-- A result that carries a UUID belongs to an insert. -/
theorem Answers.insert_of_carries {txn : Transaction} {results : List Value}
    (h : Answers fmt txn results) {i : Nat} {r : Value} {u : Uuid}
    (hr : results[i]? = some r) (hu : CarriesUuid fmt r u) :
    ∃ operation, txn.operations[i]? = some operation ∧ isInsert operation = true := by
  obtain ⟨hi, -⟩ := List.getElem?_eq_some_iff.mp hr
  obtain ⟨operation, hop⟩ : ∃ operation, txn.operations[i]? = some operation :=
    ⟨_, List.getElem?_eq_getElem (h.length_eq ▸ hi)⟩
  exact ⟨operation, hop, (h.carries_iff i operation r hop hr).mp ⟨u, hu⟩⟩

end Reply

/-! ### When names are resolved -/

/-- Every insert stands before every other operation. -/
def InsertsFirst (operations : List Value) : Prop :=
  operations.Pairwise fun a b => isInsert b = true → isInsert a = true

instance (operations : List Value) : Decidable (InsertsFirst operations) :=
  inferInstanceAs (Decidable (List.Pairwise _ operations))

theorem InsertsFirst.insertsBefore_eq {operations : List Value} (h : InsertsFirst operations)
    {i : Nat} {operation : Value} (hop : operations[i]? = some operation)
    (hinsert : isInsert operation = true) : insertsBefore operations i = i := by
  obtain ⟨hi, rfl⟩ := List.getElem?_eq_some_iff.mp hop
  have hall : ∀ a ∈ operations.take i, isInsert a = true := by
    intro a ha
    obtain ⟨j, hj, rfl⟩ := List.mem_take_iff_getElem.mp ha
    exact List.pairwise_iff_getElem.mp h j i (by omega) hi (by omega) hinsert
  rw [insertsBefore, List.countP_eq_length.mpr hall, List.length_take]
  omega

theorem insertsBefore_lt {operations : List Value} {i : Nat} {operation : Value}
    (hop : operations[i]? = some operation) (hinsert : isInsert operation = true) :
    insertsBefore operations i < operations.countP isInsert := by
  obtain ⟨hi, rfl⟩ := List.getElem?_eq_some_iff.mp hop
  have hle := (List.take_sublist (i + 1) operations).countP_le (p := isInsert)
  rw [List.take_succ_eq_append_getElem hi, List.countP_append, List.countP_singleton,
    if_pos hinsert] at hle
  exact hle

/-- Inserts that all stand at the first `n` positions are counted there. -/
theorem countP_take_of_lt {operations : List Value} {n : Nat}
    (h : ∀ (i : Nat) operation,
      operations[i]? = some operation → isInsert operation = true → i < n) :
    (operations.take n).countP isInsert = operations.countP isInsert := by
  have hrest : (operations.drop n).countP isInsert = 0 := by
    rw [List.countP_eq_zero]
    intro operation hmem hinsert
    obtain ⟨i, hi⟩ := List.mem_iff_getElem?.mp hmem
    rw [List.getElem?_drop] at hi
    have hlt := h (n + i) operation hi hinsert
    omega
  have hsplit := congrArg (List.countP isInsert) (List.take_append_drop n operations)
  rw [List.countP_append, hrest] at hsplit
  exact hsplit

/-- As many positions as inserts, so all of them are inserts. -/
theorem insertsFirst_of_lt {operations : List Value}
    (h : ∀ (i : Nat) operation, operations[i]? = some operation → isInsert operation = true →
      i < operations.countP isInsert) : InsertsFirst operations := by
  have hcount := countP_take_of_lt h
  have hle := List.countP_le_length (p := isInsert)
    (l := operations.take (operations.countP isInsert))
  have hlen := List.length_take_le (operations.countP isInsert) operations
  have hall := List.countP_eq_length.mp (Nat.le_antisymm hle (by omega))
  refine List.pairwise_iff_getElem.mpr fun i j hi hj hij hinsert => ?_
  have hj' := h j _ (List.getElem?_eq_getElem hj) hinsert
  exact hall _ (List.mem_take_iff_getElem.mpr ⟨i, by omega, rfl⟩)

/-- **Named UUIDs are resolved exactly when every insert stands before every other operation and the
    counter has not wrapped around.**  The commit names the UUIDs by the places of their results,
    while the transaction names its inserts by counting them. -/
theorem namesResolved_iff (fmt : UuidFormat) (dbName : String) (methods : List Method)
    (results : List Value) (h : Answers fmt (built fmt dbName methods) results) :
    NamesResolved fmt (built fmt dbName methods) results ↔
      InsertsFirst (built fmt dbName methods).operations ∧
        (built fmt dbName methods).operations.countP isInsert ≤ 2 ^ 32 := by
  have hnumbered := numbered_built fmt dbName methods
  generalize built fmt dbName methods = txn at h hnumbered ⊢
  have hmapped := h.getUuid_iff hnumbered.uuidMap_eq
  constructor
  · intro hresolved
    -- The name of an insert's position is mapped, so it is the name of an insert.
    have hlt : ∀ (i : Nat) operation,
        txn.operations[i]? = some operation → isInsert operation = true →
        i < 2 ^ 32 ∧ i < txn.operations.countP isInsert := by
      intro i operation hop hinsert
      obtain ⟨r, u, hr, hu⟩ := h.result_of_insert hop hinsert
      obtain ⟨other, hmem, hother, hname⟩ :=
        hresolved.noOther (rowName i) u ((hmapped _ _).mpr ⟨i, r, hr, rfl, hu⟩)
      obtain ⟨j, hj⟩ := List.mem_iff_getElem?.mp hmem
      rw [hnumbered.uuidName_eq j other hj hother] at hname
      have hi := rowName_inj (Option.some.inj hname)
      have hmod := Nat.mod_le (insertsBefore txn.operations j) (2 ^ 32)
      have hbefore := insertsBefore_lt hj hother
      have hpow := Nat.mod_lt (insertsBefore txn.operations j) (Nat.two_pow_pos 32)
      omega
    refine ⟨insertsFirst_of_lt fun i op hop hin => (hlt i op hop hin).2, ?_⟩
    rw [← countP_take_of_lt fun i op hop hin => (hlt i op hop hin).1]
    exact Nat.le_trans List.countP_le_length (List.length_take_le _ _)
  · rintro ⟨hfirst, hcount⟩
    have hname : ∀ (i : Nat) operation, txn.operations[i]? = some operation →
        isInsert operation = true → uuidName operation = some (rowName i) := by
      intro i operation hop hinsert
      have hbefore := hfirst.insertsBefore_eq hop hinsert
      have hlt := insertsBefore_lt hop hinsert
      rw [hnumbered.uuidName_eq i operation hop hinsert, hbefore, Nat.mod_eq_of_lt (by omega)]
    refine ⟨?_, ?_⟩
    · intro i operation name hop hinsert hown
      rw [hname i operation hop hinsert] at hown
      cases hown
      obtain ⟨r, u, hr, hu⟩ := h.result_of_insert hop hinsert
      exact ⟨r, u, hr, hu, (hmapped _ _).mpr ⟨i, r, hr, rfl, hu⟩⟩
    · intro name u hget
      obtain ⟨i, r, hr, rfl, hu⟩ := (hmapped name u).mp hget
      obtain ⟨operation, hop, hinsert⟩ := h.insert_of_carries hr hu
      exact ⟨operation, List.mem_of_getElem? hop, hinsert, hname i operation hop hinsert⟩

/-! ### Bridges and ports -/

/-- A reply that accepts every operation, with the UUIDs of the new rows by position. -/
def serverReply (fmt : UuidFormat) (newRow : Nat → Uuid) (operations : List Value) : List Value :=
  operations.mapIdx fun i operation =>
    if isInsert operation then .object [("uuid", uuidJson fmt (newRow i))]
    else .object [("count", .number (.int 1))]

theorem serverReply_getElem? {fmt : UuidFormat} {newRow : Nat → Uuid} {operations : List Value}
    {i : Nat} {operation : Value} (h : operations[i]? = some operation) :
    (serverReply fmt newRow operations)[i]? = some
      (if isInsert operation then .object [("uuid", uuidJson fmt (newRow i))]
        else .object [("count", .number (.int 1))]) := by
  rw [serverReply, List.getElem?_mapIdx, h, Option.map_some]

theorem answers_serverReply (fmt : UuidFormat) (newRow : Nat → Uuid) (txn : Transaction) :
    Answers fmt txn (serverReply fmt newRow txn.operations) := by
  refine ⟨List.length_mapIdx, ?_, ?_⟩
  · intro r hr
    obtain ⟨i, hi, rfl⟩ := List.mem_mapIdx.mp hr
    split <;> rfl
  · intro i operation r hop hr
    rw [serverReply_getElem? hop] at hr
    cases hr
    by_cases hinsert : isInsert operation = true
    · rw [if_pos hinsert]
      exact iff_of_true ⟨newRow i, _, rfl, fmt.parse_display _⟩ hinsert
    · rw [if_neg hinsert]
      refine iff_of_false ?_ hinsert
      rintro ⟨u, s, hget, -⟩
      cases hget

theorem namesResolved_iff_createBridge :
    NamesResolved hyphenated (built hyphenated "Open_vSwitch" [.createBridge "br0"])
      (serverReply hyphenated (BitVec.ofNat 128)
        (built hyphenated "Open_vSwitch" [.createBridge "br0"]).operations) :=
  (namesResolved_iff hyphenated "Open_vSwitch" [.createBridge "br0"] _
    (answers_serverReply hyphenated _ _)).mpr ⟨by decide, by decide⟩

/-- A new bridge with a port. -/
def bridgeWithPort : Transaction :=
  built hyphenated "Open_vSwitch" [.createBridge "br0", .addPort "br0" "eth0" "internal"]

/-- The interface of the port is `row3`, but its UUID is mapped as `row4`. -/
theorem bridgeWithPort_unresolved :
    Answers hyphenated bridgeWithPort
        (serverReply hyphenated (BitVec.ofNat 128) bridgeWithPort.operations) ∧
      ¬ NamesResolved hyphenated bridgeWithPort
        (serverReply hyphenated (BitVec.ofNat 128) bridgeWithPort.operations) := by
  have hanswers := answers_serverReply hyphenated (BitVec.ofNat 128) bridgeWithPort
  refine ⟨hanswers, ?_⟩
  intro hresolved
  obtain ⟨r, u, -, -, hget⟩ := hresolved.resolved 4 _ (rowName 3) rfl (by decide) rfl
  obtain ⟨i, r', hr', hname, hu⟩ := (hanswers.getUuid_iff rfl _ _).mp hget
  obtain rfl := rowName_inj hname
  obtain ⟨operation, hop, hinsert⟩ := hanswers.insert_of_carries hr' hu
  have hmutate : (bridgeWithPort.operations[3]?).map isInsert = some false := by decide
  rw [hop, Option.map_some, hinsert] at hmutate
  cases hmutate

end Rovs.Ovsdb.Transaction
