import Rovs.RuleTable

/-!
# Tables of rules that are edited

Rules are put into a table under their keys, changed and dropped.  The rules of some keys may be
hidden.  What is seen of a table that is edited is the table that is seen, edited: hidden rules
make no difference to the rest, and are gone when all that is hidden is dropped.

Nothing here depends on what rules and keys are.  `visible` is what is seen, `Edit.apply` an
edit, and the lemmas say when the two commute.
-/

namespace Rovs

/-- A rule is put in place of the one with its key, some rules are changed, or dropped. -/
inductive Edit (R : Type) where
  | put (r : R)
  | change (p : R → Bool) (f : R → R)
  | drop (p : R → Bool)

namespace Edit

variable {R K : Type} [DecidableEq K] (key : R → K)

def apply (rules : List R) : Edit R → List R
  | put r => install key rules r
  | change p f => rules.map fun r => if p r then f r else r
  | drop p => rules.filter fun r => !p r

def applyAll (rules : List R) (edits : List (Edit R)) : List R := edits.foldl (apply key) rules

/-- The rules that are not hidden. -/
def visible (hidden : R → Bool) (rules : List R) : List R := rules.filter fun r => !hidden r

/-- A hidden rule is put. -/
def putsHidden (hidden : R → Bool) : Edit R → Bool
  | put r => hidden r
  | _ => false

/-- Whether a rule is hidden depends on its key. -/
def ByKey (hidden : R → Bool) : Prop := ∀ r r', key r = key r' → hidden r = hidden r'

/-- Changed rules keep their keys. -/
def KeepsKeys : Edit R → Prop
  | change _ f => ∀ r, key (f r) = key r
  | _ => True

/-- The rules that have none of the keys. -/
def beside (keys : List K) (rules : List R) : List R := rules.filter fun r => key r ∉ keys

variable {key} {hidden : R → Bool} {rules : List R} {e : Edit R}

theorem visible_hidden (hkey : ByKey key hidden) (h : e.putsHidden hidden = true) :
    visible hidden (apply key rules e) = visible hidden rules := by
  cases e with
  | put r =>
    have hr : hidden r = true := h
    rw [apply, install, visible, visible, List.filter_append, List.filter_filter]
    have hlast : [r].filter (fun r => !hidden r) = [] := by simp [hr]
    rw [hlast, List.append_nil]
    apply List.filter_congr
    intro x _
    by_cases hx : key x = key r
    · rw [hkey x r hx, hr]
      rfl
    · simp [hx]
  | _ => cases h

/-- What is seen of the edited table is what is seen of the table, edited. -/
theorem visible_apply (hkey : ByKey key hidden) (hkeeps : e.KeepsKeys key)
    (h : e.putsHidden hidden = false) :
    visible hidden (apply key rules e) = apply key (visible hidden rules) e := by
  cases e with
  | put r =>
    have hr : hidden r = false := h
    rw [apply, install, visible, List.filter_append, apply, install, visible, List.filter_filter,
      List.filter_filter]
    congr 1
    · apply List.filter_congr
      intro x _
      exact Bool.and_comm ..
    · simp [hr]
  | change p f =>
    have hsame : ∀ r, hidden (if p r then f r else r) = hidden r := by
      intro r
      split
      · exact hkey _ _ (hkeeps r)
      · rfl
    rw [apply, visible, List.filter_map, apply, visible]
    congr 1
    apply List.filter_congr
    intro x _
    rw [Function.comp_apply, hsame]
  | drop p =>
    rw [apply, visible, List.filter_filter, apply, visible, List.filter_filter]
    apply List.filter_congr
    intro x _
    exact Bool.and_comm ..

/-- **Hidden rules make no difference to what is seen**, whatever edits come before, between and
    behind. -/
theorem visible_applyAll {edits : List (Edit R)} (hkey : ByKey key hidden)
    (hkeeps : ∀ e ∈ edits, e.KeepsKeys key) :
    visible hidden (applyAll key rules edits) =
      applyAll key (visible hidden rules) (edits.filter fun e => !e.putsHidden hidden) := by
  induction edits generalizing rules with
  | nil => rfl
  | cons e edits ih =>
    rcases List.forall_mem_cons.mp hkeeps with ⟨he, hkeeps⟩
    rw [applyAll, List.foldl_cons, ← applyAll, ih hkeeps]
    cases hput : e.putsHidden hidden with
    | true => rw [visible_hidden hkey hput, List.filter_cons_of_neg (by simp [hput])]
    | false =>
      rw [visible_apply hkey he hput, List.filter_cons_of_pos (by simp [hput]), applyAll, applyAll,
        List.foldl_cons]

theorem applyAll_append (rules : List R) (edits edits' : List (Edit R)) :
    applyAll key rules (edits ++ edits') = applyAll key (applyAll key rules edits) edits' :=
  List.foldl_append

/-- Dropping what is hidden, kind by kind. -/
theorem applyAll_drops (key : R → K) (ps : List (R → Bool)) (rules : List R) :
    applyAll key rules (ps.map drop) = rules.filter fun r => !ps.any fun p => p r := by
  induction ps generalizing rules with
  | nil => simp [applyAll]
  | cons p ps ih =>
    rw [List.map_cons, applyAll, List.foldl_cons, ← applyAll, ih, apply, List.filter_filter]
    apply List.filter_congr
    intro r _
    rw [List.any_cons, Bool.not_or, Bool.and_comm]

/-! ### What edits keep -/

/-- An edit puts and changes rules to such with a property. -/
def Keeps (P : R → Prop) : Edit R → Prop
  | put r => P r
  | change _ f => ∀ r, P r → P (f r)
  | drop _ => True

theorem Keeps.apply {P : R → Prop} (he : e.Keeps P) (h : ∀ r ∈ rules, P r) :
    ∀ r ∈ apply key rules e, P r := by
  cases e with
  | put new =>
    intro r hr
    rcases mem_install.mp hr with ⟨hmem, -⟩ | rfl
    · exact h r hmem
    · exact he
  | change p f =>
    intro r hr
    rcases List.mem_map.mp hr with ⟨x, hx, rfl⟩
    by_cases hp : p x = true
    case pos => rw [if_pos hp]; exact he x (h x hx)
    case neg => rw [if_neg hp]; exact h x hx
  | drop p => exact fun r hr => h r (List.mem_of_mem_filter hr)

/-- Rules have different keys. -/
theorem nodup_apply (hkeeps : e.KeepsKeys key) (h : (rules.map key).Nodup) :
    ((apply key rules e).map key).Nodup := by
  cases e with
  | put new =>
    rw [apply, install, List.map_append, List.map_singleton, List.nodup_append]
    refine ⟨h.sublist (List.filter_sublist.map key), List.nodup_singleton _, ?_⟩
    intro k hk k' hk' heq
    rcases List.mem_map.mp hk with ⟨r, hr, rfl⟩
    exact of_decide_eq_true (List.mem_filter.mp hr).2 (heq.trans (List.mem_singleton.mp hk'))
  | change p f =>
    have hsame : ∀ r, key (if p r then f r else r) = key r := by
      intro r
      split
      · exact hkeeps r
      · rfl
    rw [apply, List.map_map]
    rwa [show (key ∘ fun r => if p r then f r else r) = key from funext hsame]
  | drop p => exact h.sublist (List.filter_sublist.map key)

theorem beside_congr {keys keys' : List K} (h : keys.Perm keys') (rules : List R) :
    beside key keys rules = beside key keys' rules := by
  apply List.filter_congr
  intro r _
  exact decide_eq_decide.mpr (not_congr h.mem_iff)

/-- Rules with different keys that are put are there, beside those with other keys. -/
theorem applyAll_puts {news : List R} (h : (news.map key).Nodup) (rules : List R) :
    applyAll key rules (news.map put) = beside key (news.map key) rules ++ news := by
  induction news generalizing rules with
  | nil => simp [applyAll, beside]
  | cons new news ih =>
    rw [List.map_cons, List.nodup_cons] at h
    have hnew : [new].filter (fun r => key r ∉ news.map key) = [new] := by
      rw [List.filter_singleton, decide_eq_true h.1]
      rfl
    rw [List.map_cons, applyAll, List.foldl_cons, ← applyAll, ih h.2, apply, install, beside,
      List.filter_append, List.filter_filter, hnew, List.append_assoc, List.singleton_append]
    congr 1
    apply List.filter_congr
    intro r _
    simp only [List.map_cons, List.mem_cons, not_or, Bool.decide_and, ne_eq]
    exact Bool.and_comm ..

/-- Rules are dropped key by key. -/
theorem applyAll_dropKeys (keys : List K) (rules : List R) :
    applyAll key rules (keys.map fun k => .drop fun r => decide (key r = k)) =
      beside key keys rules := by
  have hdrops : (keys.map fun k => drop fun r => decide (key r = k)) =
      (keys.map fun k r => decide (key r = k)).map drop := by
    rw [List.map_map]
    rfl
  rw [hdrops, applyAll_drops, beside]
  apply List.filter_congr
  intro r _
  rw [List.any_map, decide_not]
  congr 1
  rw [Bool.eq_iff_iff, List.any_eq_true, decide_eq_true_iff]
  simp

end Edit

end Rovs
