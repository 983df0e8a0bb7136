import Mathlib.Data.List.Induction
import Mathlib.Data.Prod.Basic
import Rovs.Maps

/-!
# Maps that are inverse to each other

One map from keys to values and one from values to keys are inverse when a key is mapped to a
value exactly if the value is mapped to the key.  Erasing a pair from both keeps them inverse;
inserting a pair into both does so exactly if neither half had another partner.
-/

namespace Rovs

section LastMember

variable {α : Type}

theorem exists_last {p : α → Prop} {members : List α} (h : ∃ member ∈ members, p member) :
    ∃ before member after, members = before ++ member :: after ∧ p member ∧
      ∀ later ∈ after, ¬ p later := by
  induction members with
  | nil =>
    obtain ⟨member, hmem, -⟩ := h
    cases hmem
  | cons first rest ih =>
    by_cases hrest : ∃ member ∈ rest, p member
    · obtain ⟨before, member, after, hsplit, hp, hlater⟩ := ih hrest
      exact ⟨first :: before, member, after, by rw [hsplit, List.cons_append], hp, hlater⟩
    · obtain ⟨member, hmem, hp⟩ := h
      rcases List.mem_cons.mp hmem with heq | htail
      · subst heq
        exact ⟨[], member, rest, rfl, hp, fun later hlater hpl => hrest ⟨later, hlater, hpl⟩⟩
      · exact absurd ⟨member, htail, hp⟩ hrest

/-- Where a list that ends in a member is split, the member is the one of the split or the end of
    what stands behind it. -/
theorem split_append_singleton {members before after : List α} {last member : α}
    (h : members ++ [last] = before ++ member :: after) :
    (after = [] ∧ members = before ∧ last = member) ∨
      ∃ front, after = front ++ [last] ∧ members = before ++ member :: front := by
  rcases List.eq_nil_or_concat after with hnil | ⟨front, final, hfinal⟩
  · rw [hnil] at h
    have hends := List.append_inj' h rfl
    exact .inl ⟨hnil, hends.1, List.singleton_inj.mp hends.2⟩
  · rw [hfinal, List.concat_eq_append, ← List.cons_append, ← List.append_assoc] at h
    have hends := List.append_inj' h rfl
    refine .inr ⟨front, ?_, hends.1⟩
    rw [hfinal, List.concat_eq_append, hends.2]

end LastMember

variable {K V : Type}

/-- Every pair is the last one of its first half exactly if it is the last one of its second
    half. -/
def Settled (pairs : List (K × V)) : Prop :=
  ∀ before k v after, pairs = before ++ (k, v) :: after →
    ((∀ pair ∈ after, pair.1 ≠ k) ↔ ∀ pair ∈ after, pair.2 ≠ v)

theorem Settled.swap {pairs : List (K × V)} (h : Settled pairs) :
    Settled (pairs.map Prod.swap) := by
  intro before v k after hsplit
  have hback : pairs = before.map Prod.swap ++ (k, v) :: after.map Prod.swap := by
    have hmap := congrArg (List.map Prod.swap) hsplit
    simpa using hmap
  have hsettled := h _ k v _ hback
  rw [List.forall_mem_map, List.forall_mem_map] at hsettled
  exact hsettled.symm

variable [DecidableEq K]

/-- The last member with a key decides what the map of a list has under it. -/
theorem HashMap.lookup_ofList_iff {members : List (K × V)} {k : K} {v : V} :
    (ofList members).lookup k = some v ↔
      ∃ before after, members = before ++ (k, v) :: after ∧
        ∀ member ∈ after, member.1 ≠ k := by
  induction members using List.reverseRecOn with
  | nil => simp [ofList, extend]
  | append_singleton members last ih =>
    obtain ⟨k', v'⟩ := last
    have hlast : ofList (members ++ [(k', v')]) = (ofList members).insert k' v' := by
      rw [ofList, extend, List.foldl_append]
      rfl
    rw [hlast]
    by_cases hk : k = k'
    · subst hk
      rw [AList.lookup_insert]
      constructor
      · intro h
        cases h
        exact ⟨members, [], rfl, fun _ hmem => absurd hmem List.not_mem_nil⟩
      · rintro ⟨before, after, hsplit, hnot⟩
        rcases split_append_singleton hsplit with ⟨-, -, heq⟩ | ⟨front, rfl, -⟩
        · cases heq
          rfl
        · exact absurd rfl (hnot (k, v') (by simp))
    · rw [AList.lookup_insert_ne hk, ih]
      constructor
      · rintro ⟨before, after, rfl, hnot⟩
        refine ⟨before, after ++ [(k', v')], by simp, ?_⟩
        intro member hmem
        rcases List.mem_append.mp hmem with hold | hnew
        · exact hnot member hold
        · cases List.mem_singleton.mp hnew
          exact Ne.symm hk
      · rintro ⟨before, after, hsplit, hnot⟩
        rcases split_append_singleton hsplit with ⟨-, -, heq⟩ | ⟨front, rfl, hmembers⟩
        · cases heq
          exact absurd rfl hk
        · refine ⟨before, front, hmembers, ?_⟩
          intro member hmem
          exact hnot member (List.mem_append_left _ hmem)

variable [DecidableEq V]

/-- A key is mapped to a value exactly if the value is mapped to the key. -/
def Inverse (there : HashMap K V) (back : HashMap V K) : Prop :=
  ∀ k v, there.lookup k = some v ↔ back.lookup v = some k

namespace Inverse

variable {there : HashMap K V} {back : HashMap V K}

theorem symm (h : Inverse there back) : Inverse back there := fun v k => (h k v).symm

theorem empty : Inverse (∅ : HashMap K V) (∅ : HashMap V K) := by
  intro k v
  simp

theorem erase (h : Inverse there back) {k : K} {v : V} (hk : there.lookup k = some v) :
    Inverse (there.erase k) (back.erase v) := by
  intro k' v'
  by_cases hkey : k' = k
  · subst hkey
    rw [AList.lookup_erase]
    refine iff_of_false (by simp) ?_
    intro hback
    by_cases hval : v' = v
    · subst hval
      rw [AList.lookup_erase] at hback
      cases hback
    · rw [AList.lookup_erase_ne hval, ← h k' v', hk] at hback
      cases hback
      exact hval rfl
  · rw [AList.lookup_erase_ne hkey, h k' v']
    by_cases hval : v' = v
    · subst hval
      rw [AList.lookup_erase, (h k v').mp hk]
      refine iff_of_false ?_ (by simp)
      intro heq
      cases heq
      exact hkey rfl
    · rw [AList.lookup_erase_ne hval]

/-- Where an insert leaves the maps inverse, the key had no other value. -/
theorem eq_of_insert (h : Inverse there back) {k : K} {v v' : V}
    (hnew : Inverse (there.insert k v) (back.insert v k)) (hk : there.lookup k = some v') :
    v' = v := by
  by_contra hne
  have hback : (back.insert v k).lookup v' = some k := by
    rw [AList.lookup_insert_ne hne]
    exact (h k v').mp hk
  have hthere := (hnew k v').mpr hback
  rw [AList.lookup_insert] at hthere
  cases hthere
  exact hne rfl

/-- After an insert, what was mapped to or from another partner is what breaks the law. -/
theorem insert_iff (h : Inverse there back) (k : K) (v : V) :
    Inverse (there.insert k v) (back.insert v k) ↔
      (∀ v', there.lookup k = some v' → v' = v) ∧ ∀ k', back.lookup v = some k' → k' = k := by
  constructor
  case mp =>
    intro hnew
    exact ⟨fun _ hk => h.eq_of_insert hnew hk, fun _ hv => h.symm.eq_of_insert hnew.symm hv⟩
  case mpr =>
    rintro ⟨hkey, hval⟩ k' v'
    by_cases hk : k' = k
    · subst hk
      rw [AList.lookup_insert]
      by_cases hv : v' = v
      · subst hv
        rw [AList.lookup_insert]
        exact iff_of_true rfl rfl
      · rw [AList.lookup_insert_ne hv, ← h k' v']
        refine iff_of_false ?_ fun hold => hv (hkey v' hold)
        intro heq
        cases heq
        exact hv rfl
    · rw [AList.lookup_insert_ne hk]
      by_cases hv : v' = v
      · subst hv
        rw [AList.lookup_insert, h k' v']
        refine iff_of_false (fun hold => hk (hval k' hold)) ?_
        intro heq
        cases heq
        exact hk rfl
      · rw [AList.lookup_insert_ne hv]
        exact h k' v'

/-- Inverse maps have the same members, with the halves exchanged. -/
theorem length_eq (h : Inverse there back) : there.keys.length = back.keys.length := by
  have hnodup : ∀ {A B : Type} (m : HashMap A B), m.toList.Nodup :=
    fun m => List.Nodup.of_map _ m.toList_distinct
  have hperm : (there.toList.map Prod.swap).Perm back.toList := by
    apply (List.perm_ext_iff_of_nodup ((hnodup there).map Prod.swap_injective)
      (hnodup back)).mpr
    rintro ⟨v, k⟩
    rw [HashMap.mem_toList, ← h k v, ← HashMap.mem_toList, List.mem_map]
    constructor
    · rintro ⟨⟨k', v'⟩, hmem, heq⟩
      cases heq
      exact hmem
    · intro hmem
      exact ⟨(k, v), hmem, rfl⟩
  simpa [HashMap.toList, AList.keys, List.keys] using hperm.length_eq

end Inverse

theorem lookup_ofList_swap {pairs : List (K × V)} (h : Settled pairs) {k : K} {v : V}
    (hk : (HashMap.ofList pairs).lookup k = some v) :
    (HashMap.ofList (pairs.map Prod.swap)).lookup v = some k := by
  obtain ⟨before, after, hsplit, hlast⟩ := HashMap.lookup_ofList_iff.mp hk
  have hlast' := (h before k v after hsplit).mp hlast
  apply HashMap.lookup_ofList_iff.mpr
  refine ⟨before.map Prod.swap, after.map Prod.swap, by rw [hsplit]; simp, ?_⟩
  intro pair hmem
  obtain ⟨pair', hmem', rfl⟩ := List.mem_map.mp hmem
  exact hlast' pair' hmem'

theorem last_of_inverse {pairs : List (K × V)}
    (h : Inverse (HashMap.ofList pairs) (HashMap.ofList (pairs.map Prod.swap)))
    {before : List (K × V)} {k : K} {v : V} {after : List (K × V)}
    (hsplit : pairs = before ++ (k, v) :: after) (hlast : ∀ pair ∈ after, pair.1 ≠ k) :
    ∀ pair ∈ after, pair.2 ≠ v := by
  have hthere := HashMap.lookup_ofList_iff.mpr ⟨before, after, hsplit, hlast⟩
  have hback := (h k v).mp hthere
  intro pair hmem heq
  -- The last pair that takes the second half over has another first half.
  obtain ⟨front, ⟨k', v'⟩, rest, rfl, rfl, hrest⟩ :=
    exists_last (p := fun pair : K × V => pair.2 = v) ⟨pair, hmem, heq⟩
  have hother : (HashMap.ofList (pairs.map Prod.swap)).lookup v' = some k' := by
    apply HashMap.lookup_ofList_iff.mpr
    refine ⟨(before ++ (k, v') :: front).map Prod.swap, rest.map Prod.swap, ?_, ?_⟩
    · rw [hsplit]
      simp
    · intro pair' hmem'
      obtain ⟨pair'', hmem'', rfl⟩ := List.mem_map.mp hmem'
      exact hrest pair'' hmem''
  rw [hback] at hother
  cases hother
  exact hlast (k, v') (by simp) rfl

/-- The two maps of a list of pairs. -/
theorem inverse_ofList_iff (pairs : List (K × V)) :
    Inverse (HashMap.ofList pairs) (HashMap.ofList (pairs.map Prod.swap)) ↔ Settled pairs := by
  constructor
  case mp =>
    intro h before k v after hsplit
    constructor
    · exact last_of_inverse h hsplit
    · intro hlast pair hmem
      have hswap : pairs.map Prod.swap =
          before.map Prod.swap ++ (v, k) :: after.map Prod.swap := by
        rw [hsplit]
        simp
      have hsymm : Inverse (HashMap.ofList (pairs.map Prod.swap))
          (HashMap.ofList ((pairs.map Prod.swap).map Prod.swap)) := by
        rw [List.map_map, Prod.swap_swap_eq, List.map_id]
        exact h.symm
      have hlast' : ∀ pair ∈ after.map Prod.swap, pair.1 ≠ v := by
        intro pair' hmem'
        obtain ⟨pair'', hmem'', rfl⟩ := List.mem_map.mp hmem'
        exact hlast pair'' hmem''
      exact last_of_inverse hsymm hswap hlast' pair.swap (List.mem_map_of_mem hmem)
  case mpr =>
    intro h k v
    constructor
    · exact lookup_ofList_swap h
    · intro hv
      have hback := lookup_ofList_swap h.swap hv
      rw [List.map_map, Prod.swap_swap_eq, List.map_id] at hback
      exact hback

end Rovs
