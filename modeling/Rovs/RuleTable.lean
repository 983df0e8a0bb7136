import Mathlib.Data.List.Basic
import Mathlib.Data.Set.Finite.Lemmas

/-!
# Tables of prioritised rules

A rule belongs to a table, has a priority and accepts some of the things that are looked up.
A lookup selects a rule that accepts and that no other accepting rule of the table exceeds in
priority; between rules of the same priority the choice is open.  Rules are installed one by
one under a key, and a rule replaces the one that has its key.
-/

namespace Rovs

/-- How rules are looked up. -/
structure Lookup (R T P : Type) where
  table : R → T
  priority : R → Nat
  Accepts : R → P → Prop

namespace Lookup

variable {R T P : Type}

/-- The rule is one that a lookup of `p` in the table may select. -/
structure Selects (l : Lookup R T P) (rules : List R) (t : T) (p : P) (r : R) : Prop where
  mem : r ∈ rules
  table_eq : l.table r = t
  accepts : l.Accepts r p
  highest : ∀ r' ∈ rules, l.table r' = t → l.Accepts r' p → l.priority r' ≤ l.priority r

variable {l : Lookup R T P} {rules : List R} {t : T} {p : P} {r : R}

/-- A lookup that some rule accepts selects a rule. -/
theorem exists_selects (hmem : r ∈ rules) (htable : l.table r = t) (haccepts : l.Accepts r p) :
    ∃ r', l.Selects rules t p r' := by
  have hfinite : {r' | r' ∈ rules ∧ l.table r' = t ∧ l.Accepts r' p}.Finite :=
    (List.finite_toSet rules).subset fun r' h => h.1
  rcases Set.exists_max_image _ l.priority hfinite ⟨r, hmem, htable, haccepts⟩ with
    ⟨best, ⟨hbest, htable', haccepts'⟩, hmax⟩
  exact ⟨best, hbest, htable', haccepts', fun r' hr' ht ha => hmax r' ⟨hr', ht, ha⟩⟩

/-- A rule is not selected beside an accepting rule of higher priority. -/
theorem Selects.not_above (hsel : l.Selects rules t p r) {r' : R} (hmem : r' ∈ rules)
    (htable : l.table r' = t) (hlt : l.priority r < l.priority r') : ¬ l.Accepts r' p :=
  fun haccepts => Nat.not_le.mpr hlt (hsel.highest r' hmem htable haccepts)

end Lookup

/-! ### Installing rules -/

section Install

variable {R K : Type} [DecidableEq K] (key : R → K)

/-- Add a rule; it replaces the one with its key. -/
def install (rules : List R) (r : R) : List R := rules.filter (key · ≠ key r) ++ [r]

/-- The rules that are there after some have been installed in order. -/
def installed (rs : List R) : List R := rs.foldl (install key) []

variable {key} {rules rs : List R} {r x : R}

theorem mem_install : x ∈ install key rules r ↔ x ∈ rules ∧ key x ≠ key r ∨ x = r := by
  simp [install]

theorem mem_foldl_install (h : x ∈ rs.foldl (install key) rules) : x ∈ rules ∨ x ∈ rs := by
  induction rs generalizing rules with
  | nil => exact .inl h
  | cons r rs ih =>
    rcases ih h with hmem | hmem
    · rcases mem_install.mp hmem with ⟨hold, -⟩ | rfl
      · exact .inl hold
      · exact .inr (List.mem_cons_self ..)
    · exact .inr (List.mem_cons_of_mem _ hmem)

theorem mem_of_mem_installed (h : x ∈ installed key rs) : x ∈ rs := by
  rcases mem_foldl_install h with hnil | hmem
  · exact absurd hnil List.not_mem_nil
  · exact hmem

theorem exists_mem_install (key : R → K) (h : x ∈ rules ∨ x = r) :
    ∃ y ∈ install key rules r, key y = key x := by
  by_cases hkey : key x = key r
  · exact ⟨r, mem_install.mpr (.inr rfl), hkey.symm⟩
  · rcases h with hold | rfl
    · exact ⟨x, mem_install.mpr (.inl ⟨hold, hkey⟩), rfl⟩
    · exact absurd rfl hkey

theorem exists_mem_foldl_install (h : x ∈ rules ∨ x ∈ rs) :
    ∃ y ∈ rs.foldl (install key) rules, key y = key x := by
  induction rs generalizing rules x with
  | nil =>
    rcases h with hold | hnil
    · exact ⟨x, hold, rfl⟩
    · exact absurd hnil List.not_mem_nil
  | cons r rs ih =>
    rcases h with hold | hnew
    · have hkept : ∃ y ∈ install key rules r, key y = key x := exists_mem_install key (.inl hold)
      rcases hkept with ⟨y, hy, hkey⟩
      rcases ih (x := y) (.inl hy) with ⟨z, hz, hkey'⟩
      exact ⟨z, hz, hkey'.trans hkey⟩
    · rcases List.mem_cons.mp hnew with rfl | hrest
      · have hadded : ∃ y ∈ install key rules x, key y = key x := exists_mem_install key (.inr rfl)
        rcases hadded with ⟨y, hy, hkey⟩
        rcases ih (x := y) (.inl hy) with ⟨z, hz, hkey'⟩
        exact ⟨z, hz, hkey'.trans hkey⟩
      · exact ih (.inr hrest)

/-- Of the rules with one key the last is there. -/
theorem exists_mem_installed (key : R → K) (h : x ∈ rs) : ∃ y ∈ installed key rs, key y = key x :=
  exists_mem_foldl_install (.inr h)

end Install

end Rovs
