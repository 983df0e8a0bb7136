import Mathlib.Tactic.IntervalCases
import Rovs.ReferentialIntegrity
import Rovs.Texts

/-!
# Default names of patch ports (`rovs-ovsdb/src/transaction.rs`)

Without names of their own, the two ends of a patch between two bridges are called
`patch-a-to-b` and `patch-b-to-a`.  Two pairs of bridges share a name exactly if that name can be
split in two ways at the text between the bridges, so the names are distinct unless one bridge's
name contains that text or ends in the middle of it.

`patchNames_nodup_iff` is the main result.
-/

namespace Rovs.Ovsdb.Transaction

open Json

/-! ### The names -/

/-- The default name of the end at the first bridge. -/
def patchName (pair : String × String) : String := "patch-" ++ pair.1 ++ "-to-" ++ pair.2

theorem patchNames_default (bridge1 bridge2 : String) :
    patchNames bridge1 bridge2 none none =
      (patchName (bridge1, bridge2), patchName (bridge2, bridge1)) := rfl

/-- The second pair goes on where the first one ends: its first name has the text between the
    bridges behind it, whole or up to the last character. -/
def Confusable (p q : String × String) : Prop :=
  (∃ x, q.1 = p.1 ++ "-to-" ++ x ∧ p.2 = x ++ "-to-" ++ q.2) ∨
    q.1 = p.1 ++ "-to" ∧ p.2 = "to-" ++ q.2

/-- The text between the bridges overlaps itself in its first and last character only. -/
theorem to_border {t u v : List Char} (hsep : "-to-".toList = t ++ u)
    (hsep' : "-to-".toList = u ++ v) :
    t = [] ∨ (t = "-to-".toList ∧ v = "-to-".toList) ∨ (t = "-to".toList ∧ v = "to-".toList) := by
  have ht : t = "-to-".toList.take t.length := by rw [hsep, List.take_left]
  have hu : u = "-to-".toList.drop t.length := by rw [hsep, List.drop_left]
  have hv : v = "-to-".toList.drop u.length := by rw [hsep', List.drop_left]
  have hstart : u <+: "-to-".toList := ⟨v, hsep'.symm⟩
  have hlen : t.length ≤ 4 := by
    have hlength := congrArg List.length hsep
    rw [List.length_append] at hlength
    have hfour : "-to-".toList.length = 4 := rfl
    omega
  rw [ht, hv]
  rw [hu] at hstart ⊢
  generalize t.length = n at hstart hlen ⊢
  interval_cases n
  · exact .inl rfl
  · exact absurd hstart (by decide)
  · exact absurd hstart (by decide)
  · exact .inr (.inr ⟨rfl, rfl⟩)
  · exact .inr (.inl ⟨rfl, rfl⟩)

theorem toList_patchName (p : String × String) :
    (patchName p).toList =
      "patch-".toList ++ (p.1.toList ++ ("-to-".toList ++ p.2.toList)) := by
  simp only [patchName, String.toList_append, List.append_assoc]

/-- What the second half of a name has to be for the first half to end further on. -/
theorem sep_shift_iff {t b d : List Char} (ht : t ≠ []) :
    "-to-".toList ++ b = t ++ ("-to-".toList ++ d) ↔
      (∃ x, t = "-to-".toList ++ x ∧ b = x ++ ("-to-".toList ++ d)) ∨
        t = "-to".toList ∧ b = "to-".toList ++ d := by
  rw [Texts.sep_append_eq_iff]
  constructor
  case mp =>
    rintro (h | ⟨u, v, hsep, hsep', hb⟩)
    · exact .inl h
    · rcases to_border hsep hsep' with h | ⟨rfl, rfl⟩ | ⟨rfl, rfl⟩
      · exact absurd h ht
      · exact .inl ⟨[], (List.append_nil _).symm, hb⟩
      · exact .inr ⟨rfl, hb⟩
  case mpr =>
    rintro (h | ⟨rfl, hb⟩)
    · exact .inl h
    · exact .inr ⟨"-".toList, "to-".toList, rfl, rfl, hb⟩

/-- The name of the second pair splits where the first one's does, or further on. -/
theorem split_iff (p q : String × String) :
    (∃ t, q.1.toList = p.1.toList ++ t ∧
        "-to-".toList ++ p.2.toList = t ++ ("-to-".toList ++ q.2.toList)) ↔
      p = q ∨ Confusable p q := by
  constructor
  case mp =>
    rintro ⟨t, hfirst, hsecond⟩
    by_cases ht : t = []
    case pos =>
      subst ht
      rw [List.append_nil] at hfirst
      have hrest := List.append_cancel_left hsecond
      exact .inl (Prod.ext (String.toList_inj.mp hfirst.symm) (String.toList_inj.mp hrest))
    case neg =>
      right
      rcases (sep_shift_iff ht).mp hsecond with ⟨x, rfl, hp⟩ | ⟨rfl, hp⟩
      · left
        refine ⟨String.ofList x, String.toList_inj.mp ?_, String.toList_inj.mp ?_⟩
        · simp only [String.toList_append, String.toList_ofList, hfirst, List.append_assoc]
        · simp only [String.toList_append, String.toList_ofList, hp, List.append_assoc]
      · right
        refine ⟨String.toList_inj.mp ?_, String.toList_inj.mp ?_⟩
        · rw [String.toList_append, hfirst]
        · rw [String.toList_append, hp]
  case mpr =>
    rintro (rfl | ⟨x, hfirst, hsecond⟩ | ⟨hfirst, hsecond⟩)
    · exact ⟨[], (List.append_nil _).symm, rfl⟩
    · refine ⟨"-to-".toList ++ x.toList, ?_, ?_⟩
      · simp only [hfirst, String.toList_append, List.append_assoc]
      · simp only [hsecond, String.toList_append, List.append_assoc]
    · refine ⟨"-to".toList, ?_, ?_⟩
      · simp only [hfirst, String.toList_append]
      · simp only [hsecond, String.toList_append]
        rfl

/-- Two pairs have the same name exactly if they are the same or one goes on where the other
    ends. -/
theorem patchName_eq_iff (p q : String × String) :
    patchName p = patchName q ↔ p = q ∨ Confusable p q ∨ Confusable q p := by
  rw [← String.toList_inj, toList_patchName, toList_patchName, List.append_cancel_left_eq,
    Texts.append_sep_eq_iff, split_iff, split_iff, eq_comm (a := q), ← or_or_distrib_left]

theorem not_confusable_self (p : String × String) : ¬ Confusable p p := by
  rintro (⟨x, hfirst, -⟩ | ⟨hfirst, -⟩)
  · have hlength := congrArg String.length hfirst
    simp only [String.length_append] at hlength
    have hfour : "-to-".length = 4 := rfl
    omega
  · have hlength := congrArg String.length hfirst
    rw [String.length_append] at hlength
    have hthree : "-to".length = 3 := rfl
    omega

/-- The names of different pairs are different if none of them has another one going on where it
    ends. -/
theorem nodup_patchNames_iff {pairs : List (String × String)} (hpairs : pairs.Nodup) :
    (pairs.map patchName).Nodup ↔ ∀ p ∈ pairs, ∀ q ∈ pairs, ¬ Confusable p q := by
  rw [List.nodup_map_iff_inj_on hpairs]
  constructor
  case mp =>
    intro hinj p hp q hq hconfusable
    have heq := hinj p hp q hq ((patchName_eq_iff p q).mpr (.inr (.inl hconfusable)))
    subst heq
    exact not_confusable_self p hconfusable
  case mpr =>
    intro hnone p hp q hq hname
    rcases (patchName_eq_iff p q).mp hname with heq | h | h
    · exact heq
    · exact absurd h (hnone p hp q hq)
    · exact absurd h (hnone q hq p hp)

/-- A bridge whose name does not contain the start of the text between the bridges is not one
    that another pair goes on in. -/
theorem not_confusable_of_plain {p q : String × String} (h : ¬ "-to".toList <:+: q.1.toList) :
    ¬ Confusable p q := by
  rintro (⟨x, hfirst, -⟩ | ⟨hfirst, -⟩)
  · apply h
    refine ⟨p.1.toList, "-".toList ++ x.toList, ?_⟩
    rw [hfirst, String.toList_append, String.toList_append]
    simp
  · apply h
    refine ⟨p.1.toList, [], ?_⟩
    rw [hfirst, String.toList_append, List.append_nil]

/-- So pairs whose first bridges have no such name have different names. -/
theorem patchName_injOn_plain {p q : String × String} (hp : ¬ "-to".toList <:+: p.1.toList)
    (hq : ¬ "-to".toList <:+: q.1.toList) (h : patchName p = patchName q) : p = q := by
  rcases (patchName_eq_iff p q).mp h with heq | hconfusable | hconfusable
  · exact heq
  · exact absurd hconfusable (not_confusable_of_plain hq)
  · exact absurd hconfusable (not_confusable_of_plain hp)

/-! ### The transactions -/

/-- The bridges that a call connects by patch ports with their default names. -/
def Method.wired : Method → Option (String × String)
  | .addPatchPorts bridge1 bridge2 none none
  | .addTrunkPatchPorts bridge1 bridge2 _ none none => some (bridge1, bridge2)
  | _ => none

/-- The pairs of bridges that the calls connect, each pair in both orders. -/
def wiredEnds (methods : List Method) : List (String × String) :=
  (methods.filterMap Method.wired).flatMap eachOther

/-- Every two bridges are different, and no two are connected twice. -/
structure DistinctPairs (pairs : List (String × String)) : Prop where
  ne : ∀ pair ∈ pairs, pair.1 ≠ pair.2
  unordered : pairs.Pairwise fun p q => p ≠ q ∧ p ≠ q.swap

/-- Distinct pairs are distinct in both orders. -/
theorem DistinctPairs.nodup {pairs : List (String × String)} (h : DistinctPairs pairs) :
    (pairs.flatMap eachOther).Nodup := by
  rw [List.Nodup, List.pairwise_flatMap]
  constructor
  · intro pair hpair
    have hends : pair ≠ (pair.2, pair.1) := fun heq => h.ne pair hpair (congrArg Prod.fst heq)
    exact List.pairwise_pair.mpr hends
  · apply h.unordered.imp
    rintro ⟨a, b⟩ ⟨c, d⟩ ⟨hpq, hswap⟩ x hx y hy rfl
    simp only [eachOther, List.mem_cons, List.not_mem_nil, or_false] at hx hy
    rcases hx with rfl | rfl
    · exact hy.elim hpq hswap
    · rcases hy with heq | heq
      · cases heq
        exact hswap rfl
      · cases heq
        exact hpq rfl

section Transactions

variable (fmt : UuidFormat)

/-- The interfaces and the ports of the ends of some pairs of bridges. -/
def endRows (ends : List (String × String)) : List (Option String × Option String) :=
  ends.flatMap fun pair => portRows (patchName pair)

theorem endRows_append (ends ends' : List (String × String)) :
    endRows (ends ++ ends') = endRows ends ++ endRows ends' :=
  List.flatMap_append

theorem adds_wired {method : Method} {pair : String × String} (h : method.wired = some pair) :
    Adds (method.call fmt) (endRows (eachOther pair)) := by
  have hends : ∀ portExtra, Adds (insertPatchPorts fmt pair.1 pair.2 none none portExtra)
      (endRows (eachOther pair)) := by
    intro portExtra
    have hrows := adds_insertPatchPorts fmt pair.1 pair.2 none none portExtra
    rwa [patchNames_default] at hrows
  unfold Method.wired at h
  split at h
  · cases h
    exact (hends _).discard
  · cases h
    exact (hends _).discard
  · cases h

/-- A method may insert rows and takes none away. -/
theorem keptBySteps_inserted (rows : List (Option String × Option String)) :
    KeptBySteps fun txn => rows.Sublist (insertedRows txn.operations) := by
  have hgrows : ∀ {txn : Transaction}, rows.Sublist (insertedRows txn.operations) →
      ∀ operation, rows.Sublist (insertedRows (txn.operations ++ [operation])) := by
    intro txn h operation
    rw [insertedRows_append]
    exact h.trans (List.sublist_append_left _ _)
  exact ⟨fun operation _ _ h => hgrows h operation, fun _ _ _ h => hgrows h _, fun _ _ h => h⟩

/-- Among the rows that the calls insert are those of the ends that they connect. -/
theorem endRows_sublist (methods : List Method) {rows : List (Option String × Option String)}
    {txn : Transaction} (h : rows.Sublist (insertedRows txn.operations)) :
    (rows ++ endRows (wiredEnds methods)).Sublist
      (insertedRows ((methods.forM (Method.call fmt)).run txn).2.operations) := by
  induction methods generalizing rows txn with
  | nil =>
    rw [wiredEnds, List.filterMap_nil, List.flatMap_nil, endRows, List.flatMap_nil,
      List.append_nil]
    exact h
  | cons method methods ih =>
    change (rows ++ endRows (wiredEnds (method :: methods))).Sublist (insertedRows
      ((methods.forM (Method.call fmt)).run ((method.call fmt).run txn).2).2.operations)
    cases hwired : method.wired with
    | none =>
      rw [wiredEnds, List.filterMap_cons_none hwired]
      exact ih ((keptBySteps_inserted rows).call fmt method txn h)
    | some pair =>
      rw [wiredEnds, List.filterMap_cons_some hwired, List.flatMap_cons, endRows_append,
        ← List.append_assoc]
      apply ih
      rw [adds_wired fmt hwired]
      exact h.append_right _

/-- Calls that do nothing but connect bridges insert nothing else. -/
theorem adds_wires {methods : List Method} (h : ∀ m ∈ methods, m.wired.isSome = true) :
    Adds (methods.forM (Method.call fmt)) (endRows (wiredEnds methods)) := by
  induction methods with
  | nil => exact adds_pure ()
  | cons method methods ih =>
    obtain ⟨pair, hwired⟩ := Option.isSome_iff_exists.mp (h method List.mem_cons_self)
    rw [wiredEnds, List.filterMap_cons_some hwired, List.flatMap_cons, endRows_append]
    exact (adds_wired fmt hwired).bind fun _ => ih fun m hm => h m (List.mem_cons_of_mem _ hm)

/-- The names of the rows of a table. -/
def namesIn (table : String) (rows : List (Option String × Option String)) :
    List (Option String) :=
  (rows.filter fun row => row.1 == some table).map Prod.snd

theorem namesIn_endRows {table : String} (htable : table ∈ ["Interface", "Port"])
    (ends : List (String × String)) :
    namesIn table (endRows ends) = (ends.map patchName).map some := by
  have hport : ∀ name, namesIn table (portRows name) = [some name] := by
    simp only [List.mem_cons, List.not_mem_nil, or_false] at htable
    intro name
    rcases htable with rfl | rfl
    · rfl
    · rfl
  induction ends with
  | nil => rfl
  | cons pair ends ih =>
    rw [endRows, List.flatMap_cons, namesIn, List.filter_append, List.map_append]
    rw [namesIn, endRows] at ih
    rw [ih, ← namesIn, hport]
    rfl

/-- **The default names of the ends that a transaction connects are those of the interfaces and
    of the ports that it inserts for them, and they are distinct exactly if no pair of bridges
    goes on where another one ends; pairs whose first names do not contain `-to` never do.** -/
theorem patchNames_nodup_iff (dbName : String) (methods : List Method)
    (h : DistinctPairs (methods.filterMap Method.wired)) :
    (∀ table ∈ ["Interface", "Port"],
      (((wiredEnds methods).map patchName).map some).Sublist
          (insertedNames table (built fmt dbName methods).operations) ∧
        ((∀ m ∈ methods, m.wired.isSome = true) →
          insertedNames table (built fmt dbName methods).operations =
            ((wiredEnds methods).map patchName).map some)) ∧
      (((wiredEnds methods).map patchName).Nodup ↔
        ∀ p ∈ wiredEnds methods, ∀ q ∈ wiredEnds methods, ¬ Confusable p q) ∧
      (∀ p q, patchName p = patchName q ↔ p = q ∨ Confusable p q ∨ Confusable q p) ∧
      ∀ p q : String × String, ¬ "-to".toList <:+: p.1.toList → ¬ "-to".toList <:+: q.1.toList →
        patchName p = patchName q → p = q := by
  refine ⟨?_, nodup_patchNames_iff h.nodup, patchName_eq_iff, fun _ _ => patchName_injOn_plain⟩
  intro table htable
  rw [← namesIn_endRows htable]
  constructor
  · have hrows : [].Sublist (insertedRows (new dbName).operations) := List.nil_sublist _
    have hends := endRows_sublist fmt methods hrows
    rw [List.nil_append] at hends
    exact (hends.filter _).map _
  · intro hwires
    exact congrArg (namesIn table) (adds_wires fmt hwires (new dbName))

/-- A bridge in the middle of two others. -/
def siteWires : List Method :=
  [.createBridge "br-int", .addPatchPorts "br-int" "br-ext" none none,
    .addTrunkPatchPorts "br-int" "br-vlan" [100, 200] none none]

theorem patchNames_nodup_site :
    [some "patch-br-int-to-br-ext", some "patch-br-ext-to-br-int", some "patch-br-int-to-br-vlan",
        some "patch-br-vlan-to-br-int"].Sublist
      (insertedNames "Port" (built hyphenated "Open_vSwitch" siteWires).operations) ∧
      ((wiredEnds siteWires).map patchName).Nodup := by
  have hpairs : DistinctPairs (siteWires.filterMap Method.wired) := ⟨by decide, by decide⟩
  have hplain : ∀ p ∈ wiredEnds siteWires, ¬ "-to".toList <:+: p.1.toList := by
    decide +kernel
  have hnames := patchNames_nodup_iff hyphenated "Open_vSwitch" siteWires hpairs
  constructor
  · exact (hnames.1 "Port" (by decide)).1
  · exact hnames.2.1.mpr fun _ _ q hq => not_confusable_of_plain (hplain q hq)

/-- Two wires whose first ends have one name. -/
def collidingWires : List Method :=
  [.addPatchPorts "lan" "dmz-to-wan" none none, .addPatchPorts "lan-to-dmz" "wan" none none]

theorem not_patchNames_distinct :
    DistinctPairs (collidingWires.filterMap Method.wired) ∧
      patchName ("lan", "dmz-to-wan") = patchName ("lan-to-dmz", "wan") ∧
      ∀ table ∈ ["Interface", "Port"],
        ¬ (insertedNames table
          (built hyphenated "Open_vSwitch" collidingWires).operations).Nodup := by
  refine ⟨⟨by decide, by decide⟩, by decide, ?_⟩
  decide +kernel

end Transactions

end Rovs.Ovsdb.Transaction
