import Mathlib.Data.List.AList

/-!
# Maps and folds over their members

A hash map is a list of members with distinct keys.  A loop over members with
distinct keys, in whatever order they come, changes what belongs to one key at most
once: at the member with that key.
-/

namespace Rovs

abbrev HashMap (K V : Type) := AList fun _ : K => V

section Members

variable {K V σ γ : Type}

/-- The keys of a list of members are distinct. -/
def DistinctKeys (members : List (K × V)) : Prop := (members.map Prod.fst).Nodup

theorem distinctKeys_singleton (member : K × V) : DistinctKeys [member] :=
  List.nodup_singleton member.1

theorem DistinctKeys.tail {member : K × V} {members : List (K × V)}
    (h : DistinctKeys (member :: members)) : DistinctKeys members :=
  (List.nodup_cons.mp h).2

theorem DistinctKeys.head_ne {k : K} {v : V} {members : List (K × V)}
    (h : DistinctKeys ((k, v) :: members)) {member : K × V} (hmem : member ∈ members) :
    member.1 ≠ k := by
  intro heq
  have hk : k ∈ members.map Prod.fst := List.mem_map.mpr ⟨member, hmem, heq⟩
  exact (List.nodup_cons.mp h).1 hk

theorem foldl_untouched (get : σ → γ) {f : σ → K × V → σ} {members : List (K × V)}
    (hother : ∀ s, ∀ member ∈ members, get (f s member) = get s) (s : σ) :
    get (members.foldl f s) = get s := by
  induction members generalizing s with
  | nil => rfl
  | cons member members ih =>
    rw [List.foldl_cons, ih fun s m hm => hother s m (List.mem_cons_of_mem _ hm)]
    exact hother s member List.mem_cons_self

variable [DecidableEq K]

theorem mem_of_lookup {k : K} {v : V} {members : List (K × V)}
    (h : members.lookup k = some v) : (k, v) ∈ members := by
  induction members with
  | nil => cases h
  | cons member members ih =>
    obtain ⟨k', v'⟩ := member
    by_cases hk : k = k'
    · subst hk
      rw [List.lookup_cons_self] at h
      cases h
      exact List.mem_cons_self
    · rw [List.lookup_cons, beq_eq_false_iff_ne.mpr hk] at h
      exact List.mem_cons_of_mem _ (ih h)

theorem DistinctKeys.lookup_of_mem {k : K} {v : V} {members : List (K × V)}
    (h : DistinctKeys members) (hmem : (k, v) ∈ members) : members.lookup k = some v := by
  induction members with
  | nil => cases hmem
  | cons member members ih =>
    obtain ⟨k', v'⟩ := member
    rcases List.mem_cons.mp hmem with heq | htail
    · cases heq
      exact List.lookup_cons_self
    · rw [List.lookup_cons, beq_eq_false_iff_ne.mpr (h.head_ne htail)]
      exact ih h.tail htail

/-- The part of the state that belongs to `k` is updated once if `k` has a member, and
    stays as it is if not. -/
theorem foldl_lookup (get : σ → γ) (upd : V → γ → γ) {f : σ → K × V → σ} {k : K}
    {members : List (K × V)} (hdistinct : DistinctKeys members)
    (hsame : ∀ s v, (k, v) ∈ members → get (f s (k, v)) = upd v (get s))
    (hother : ∀ s, ∀ member ∈ members, member.1 ≠ k → get (f s member) = get s) (s : σ) :
    get (members.foldl f s) = (members.lookup k).elim (get s) fun v => upd v (get s) := by
  induction members generalizing s with
  | nil => rfl
  | cons member members ih =>
    obtain ⟨k', v'⟩ := member
    rw [List.foldl_cons]
    by_cases hk : k = k'
    · subst hk
      rw [List.lookup_cons_self, foldl_untouched get fun s m hm =>
        hother s m (List.mem_cons_of_mem _ hm) (hdistinct.head_ne hm)]
      exact hsame s v' List.mem_cons_self
    · rw [ih hdistinct.tail (fun s v hv => hsame s v (List.mem_cons_of_mem _ hv))
        (fun s m hm => hother s m (List.mem_cons_of_mem _ hm)), List.lookup_cons,
        beq_eq_false_iff_ne.mpr hk, hother s (k', v') List.mem_cons_self (Ne.symm hk)]

end Members

namespace HashMap

variable {K V : Type}

/-- The members, in the order in which an iteration meets them. -/
def toList (m : HashMap K V) : List (K × V) := m.entries.map fun member => (member.1, member.2)

theorem toList_distinct (m : HashMap K V) : DistinctKeys m.toList := by
  have hkeys : m.toList.map Prod.fst = m.keys := by
    rw [toList, List.map_map]
    rfl
  rw [DistinctKeys, hkeys]
  exact m.keys_nodup

variable [DecidableEq K]

def extend (m : HashMap K V) (members : List (K × V)) : HashMap K V :=
  members.foldl (fun m member => m.insert member.1 member.2) m

/-- The map of a list of members; a later member replaces one with the same key. -/
def ofList (members : List (K × V)) : HashMap K V := extend ∅ members

theorem mem_toList {m : HashMap K V} {k : K} {v : V} :
    (k, v) ∈ m.toList ↔ m.lookup k = some v := by
  rw [toList, List.mem_map, ← Option.mem_def, AList.mem_lookup_iff]
  constructor
  · rintro ⟨⟨k', v'⟩, hmem, heq⟩
    cases heq
    exact hmem
  · intro hmem
    exact ⟨⟨k, v⟩, hmem, rfl⟩

theorem lookup_toList (m : HashMap K V) (k : K) : m.toList.lookup k = m.lookup k := by
  apply Option.ext
  intro v
  constructor
  · intro h
    exact mem_toList.mp (mem_of_lookup h)
  · intro h
    exact m.toList_distinct.lookup_of_mem (mem_toList.mpr h)

/-- Extending a map shadows what it had, if the new keys are different from each other. -/
theorem lookup_extend {members : List (K × V)} (h : DistinctKeys members) (m : HashMap K V)
    (k : K) : (m.extend members).lookup k = (members.lookup k).or (m.lookup k) := by
  have hsame : ∀ (s : HashMap K V) v, (k, v) ∈ members →
      (s.insert k v).lookup k = some v := fun s v _ => AList.lookup_insert s
  have hother : ∀ (s : HashMap K V), ∀ member ∈ members, member.1 ≠ k →
      (s.insert member.1 member.2).lookup k = s.lookup k :=
    fun s member _ hne => AList.lookup_insert_ne (Ne.symm hne)
  rw [extend, foldl_lookup (fun m : HashMap K V => m.lookup k) (fun v _ => some v) h hsame hother]
  cases members.lookup k <;> rfl

theorem lookup_ofList {members : List (K × V)} (h : DistinctKeys members) (k : K) :
    (ofList members).lookup k = members.lookup k := by
  rw [ofList, lookup_extend h, AList.lookup_empty, Option.or_none]

end HashMap

end Rovs
