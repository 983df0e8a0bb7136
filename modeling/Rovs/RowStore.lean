import Mathlib.Data.Set.Insert
import Mathlib.Logic.Function.Basic

/-!
# Stores of rows that refer to each other

Rows stand in tables under keys, and a row refers to rows.  A store is intact when every
reference is to a row that is there.  Some tables keep their rows; the rows of the others are kept
as long as a kept row refers to them, and are collected otherwise.

Nothing here depends on what tables, keys and rows are: which references a row has and which
tables keep their rows is a `RefScheme`.  The main results are

* `RefScheme.Intact.collect`: collecting an intact store leaves a sound one,
* `RefScheme.Sound.eq_of_within`: no sound store stays intact when some of its collectable rows are
  taken away and nothing else is changed,
* `RefScheme.Intact.without_iff`: which rows can be taken out of an intact store.
-/

namespace Rovs

/-- The rows of the tables by their keys. -/
abbrev Store (T K R : Type) := T → K → Option R

namespace Store

variable {T K R : Type}

/-- The store has every row of the other as it is there. -/
def Within (s s' : Store T K R) : Prop := ∀ t k r, s t k = some r → s' t k = some r

/-- A new row, in place of what is under its key. -/
def insert [DecidableEq T] [DecidableEq K] (s : Store T K R) (table : T) (key : K) (row : R) :
    Store T K R :=
  fun t k => if t = table ∧ k = key then some row else s t k

open Classical in
/-- Some rows of a table changed. -/
noncomputable def change (s : Store T K R) (table : T) (matching : K → R → Prop) (f : R → R) :
    Store T K R :=
  fun t k => (s t k).map fun r => if t = table ∧ matching k r then f r else r

open Classical in
/-- A table without some of its rows. -/
noncomputable def remove (s : Store T K R) (table : T) (matching : K → R → Prop) : Store T K R :=
  fun t k => (s t k).bind fun r => if t = table ∧ matching k r then none else some r

open Classical in
/-- The store without certain rows, given by their tables and keys. -/
noncomputable def without (s : Store T K R) (gone : Set (T × K)) : Store T K R :=
  fun t k => if (t, k) ∈ gone then none else s t k

variable {s s' s'' : Store T K R} {t table : T} {k key : K} {r row : R}
  {matching : K → R → Prop} {f : R → R}

theorem Within.refl (s : Store T K R) : s.Within s := fun _ _ _ h => h

theorem Within.trans (h : s.Within s') (h' : s'.Within s'') : s.Within s'' :=
  fun t k r hrow => h' t k r (h t k r hrow)

section Insert

variable [DecidableEq T] [DecidableEq K]

theorem insert_eq_some : s.insert table key row t k = some r ↔
    (t = table ∧ k = key) ∧ row = r ∨ ¬ (t = table ∧ k = key) ∧ s t k = some r := by
  by_cases hkey : t = table ∧ k = key
  case pos => simp [insert, hkey]
  case neg => simp [insert, hkey]

/-- A row under a new key leaves the others. -/
theorem within_insert (h : s table key = none) : s.Within (s.insert table key row) := by
  intro t k r hrow
  refine insert_eq_some.mpr (.inr ⟨?_, hrow⟩)
  rintro ⟨rfl, rfl⟩
  rw [h] at hrow
  cases hrow

end Insert

theorem change_eq_some : s.change table matching f t k = some r ↔
    ∃ r', s t k = some r' ∧
      ((t = table ∧ matching k r') ∧ r = f r' ∨ ¬ (t = table ∧ matching k r') ∧ r = r') := by
  rw [change, Option.map_eq_some_iff]
  constructor
  case mp =>
    rintro ⟨r', hrow, rfl⟩
    refine ⟨r', hrow, ?_⟩
    by_cases hmatch : t = table ∧ matching k r'
    · exact .inl ⟨hmatch, if_pos hmatch⟩
    · exact .inr ⟨hmatch, if_neg hmatch⟩
  case mpr =>
    rintro ⟨r', hrow, ⟨hmatch, rfl⟩ | ⟨hmatch, rfl⟩⟩
    · exact ⟨r', hrow, if_pos hmatch⟩
    · exact ⟨r, hrow, if_neg hmatch⟩

theorem change_other (h : t ≠ table) : s.change table matching f t k = s t k := by
  have hnot : ∀ r, ¬ (t = table ∧ matching k r) := fun r heq => h heq.1
  simp only [change, if_neg (hnot _), Option.map_id']

theorem remove_eq_some : s.remove table matching t k = some r ↔
    s t k = some r ∧ ¬ (t = table ∧ matching k r) := by
  rw [remove, Option.bind_eq_some_iff]
  constructor
  case mp =>
    rintro ⟨r', hrow, hif⟩
    by_cases hmatch : t = table ∧ matching k r'
    case pos =>
      rw [if_pos hmatch] at hif
      cases hif
    case neg =>
      rw [if_neg hmatch] at hif
      cases hif
      exact ⟨hrow, hmatch⟩
  case mpr => exact fun h => ⟨r, h.1, if_neg h.2⟩

theorem remove_within (s : Store T K R) (table : T) (matching : K → R → Prop) :
    (s.remove table matching).Within s :=
  fun _ _ _ h => (remove_eq_some.mp h).1

/-- A removal that matches nothing. -/
theorem remove_eq_self (h : ∀ k r, s table k = some r → ¬ matching k r) :
    s.remove table matching = s := by
  funext t k
  apply Option.ext
  intro r
  rw [remove_eq_some]
  constructor
  case mp => exact And.left
  case mpr =>
    intro hrow
    refine ⟨hrow, ?_⟩
    rintro ⟨rfl, hmatch⟩
    exact h k r hrow hmatch

theorem without_eq_some {gone : Set (T × K)} :
    s.without gone t k = some r ↔ s t k = some r ∧ (t, k) ∉ gone := by
  by_cases hgone : (t, k) ∈ gone
  case pos => simp [without, hgone]
  case neg => simp [without, hgone]

theorem without_within (s : Store T K R) (gone : Set (T × K)) : (s.without gone).Within s :=
  fun _ _ _ h => (without_eq_some.mp h).1

theorem without_without (s : Store T K R) (gone gone' : Set (T × K)) :
    (s.without gone).without gone' = s.without (gone ∪ gone') := by
  funext t k
  apply Option.ext
  intro r
  rw [without_eq_some, without_eq_some, without_eq_some, Set.mem_union, not_or, and_assoc]

@[simp] theorem without_empty (s : Store T K R) : s.without ∅ = s := by
  funext t k
  simp [without]

/-- Removing by the key. -/
theorem remove_key (s : Store T K R) (table : T) (key : K) :
    s.remove table (fun k _ => k = key) = s.without {(table, key)} := by
  funext t k
  apply Option.ext
  intro r
  rw [remove_eq_some, without_eq_some, Set.mem_singleton_iff, Prod.mk.injEq]

end Store

/-! ### References -/

/-- Which rows a row refers to, and which tables keep their rows. -/
structure RefScheme (T K R : Type) where
  refs : T → R → Set (T × K)
  keeps : T → Prop

namespace RefScheme

variable {T K R : Type} (l : RefScheme T K R)

/-- Every reference is to a row that is there. -/
def Intact (s : Store T K R) : Prop :=
  ∀ t k r, s t k = some r → ∀ ref ∈ l.refs t r, ∃ r', s ref.1 ref.2 = some r'

/-- The row is kept: its table keeps it, or a kept row refers to it. -/
inductive Live (s : Store T K R) : T → K → Prop where
  | kept {t : T} {k : K} (keeps : l.keeps t) : Live s t k
  | referred {t t' : T} {k k' : K} {r : R} (live : Live s t k) (row : s t k = some r)
      (ref : (t', k') ∈ l.refs t r) : Live s t' k'

open Classical in
/-- The store without the rows that are not kept. -/
noncomputable def collect (s : Store T K R) : Store T K R :=
  fun t k => if l.Live s t k then s t k else none

/-- An intact store in which nothing is to be collected. -/
structure Sound (s : Store T K R) : Prop where
  intact : l.Intact s
  live : ∀ t k r, s t k = some r → l.Live s t k

variable {l} {s s' : Store T K R} {t : T} {k : K} {r : R}

theorem Intact.insert [DecidableEq T] [DecidableEq K] (h : l.Intact s) (hnew : s t k = none)
    (hrefs : ∀ ref ∈ l.refs t r, ∃ r', s ref.1 ref.2 = some r') : l.Intact (s.insert t k r) := by
  intro t' k' r' hrow ref href
  have hthere : ∃ r'', s ref.1 ref.2 = some r'' := by
    rcases Store.insert_eq_some.mp hrow with ⟨⟨rfl, rfl⟩, rfl⟩ | ⟨-, hrow⟩
    · exact hrefs ref href
    · exact h t' k' r' hrow ref href
  rcases hthere with ⟨r'', hrow''⟩
  exact ⟨r'', Store.within_insert hnew _ _ _ hrow''⟩

/-- Changed rows that refer to what they referred to and to rows that are there. -/
theorem Intact.change {matching : K → R → Prop} {f : R → R} (h : l.Intact s)
    (hrefs : ∀ k r, s t k = some r → matching k r → ∀ ref ∈ l.refs t (f r),
      ref ∈ l.refs t r ∨ ∃ r', s ref.1 ref.2 = some r') : l.Intact (s.change t matching f) := by
  intro t' k' r' hrow ref href
  have hthere : ∃ r'', s ref.1 ref.2 = some r'' := by
    rcases Store.change_eq_some.mp hrow with ⟨r'', hrow'', ⟨⟨rfl, hmatch⟩, rfl⟩ | ⟨-, rfl⟩⟩
    · rcases hrefs k' r'' hrow'' hmatch ref href with hold | hnew
      · exact h t' k' r'' hrow'' ref hold
      · exact hnew
    · exact h t' k' r' hrow'' ref href
  rcases hthere with ⟨r'', hrow''⟩
  by_cases hmatch : ref.1 = t ∧ matching ref.2 r''
  · exact ⟨f r'', Store.change_eq_some.mpr ⟨r'', hrow'', .inl ⟨hmatch, rfl⟩⟩⟩
  · exact ⟨r'', Store.change_eq_some.mpr ⟨r'', hrow'', .inr ⟨hmatch, rfl⟩⟩⟩

/-- **Rows can be taken out of an intact store exactly if no row that stays refers to them.** -/
theorem Intact.without_iff (h : l.Intact s) (gone : Set (T × K)) :
    l.Intact (s.without gone) ↔
      ∀ t k r, s t k = some r → (t, k) ∉ gone → ∀ ref ∈ l.refs t r, ref ∉ gone := by
  constructor
  case mp =>
    intro hintact t k r hrow hstays ref href
    rcases hintact t k r (Store.without_eq_some.mpr ⟨hrow, hstays⟩) ref href with ⟨r', hrow'⟩
    exact (Store.without_eq_some.mp hrow').2
  case mpr =>
    intro hrefs t k r hrow ref href
    rcases Store.without_eq_some.mp hrow with ⟨hrow, hstays⟩
    rcases h t k r hrow ref href with ⟨r', hrow'⟩
    exact ⟨r', Store.without_eq_some.mpr ⟨hrow', hrefs t k r hrow hstays ref href⟩⟩

theorem collect_eq_some : l.collect s t k = some r ↔ l.Live s t k ∧ s t k = some r := by
  rw [collect]
  split
  case isTrue hlive => exact ⟨fun hrow => ⟨hlive, hrow⟩, And.right⟩
  case isFalse hdead => exact ⟨fun hnone => (by cases hnone), fun h => absurd h.1 hdead⟩

/-- What is kept is kept by rows that are themselves kept. -/
theorem live_collect (h : l.Live s t k) : l.Live (l.collect s) t k := by
  induction h with
  | kept hkeeps => exact .kept hkeeps
  | referred hlive hrow href ih => exact .referred ih (collect_eq_some.mpr ⟨hlive, hrow⟩) href

/-- **Collecting an intact store makes it sound.** -/
theorem Intact.collect (h : l.Intact s) : l.Sound (l.collect s) where
  intact t k r hrow ref href := by
    rcases collect_eq_some.mp hrow with ⟨hlive, hrow'⟩
    rcases h t k r hrow' ref href with ⟨r', hrow''⟩
    exact ⟨r', collect_eq_some.mpr ⟨.referred hlive hrow' href, hrow''⟩⟩
  live t k r hrow := live_collect (collect_eq_some.mp hrow).1

/-- There is nothing to collect where every row is kept. -/
theorem collect_eq_self (h : ∀ t k r, s t k = some r → l.Live s t k) : l.collect s = s := by
  funext t k
  apply Option.ext
  intro r
  rw [collect_eq_some]
  constructor
  case mp => exact And.right
  case mpr => exact fun hrow => ⟨h t k r hrow, hrow⟩

/-- **Removing rows alone does not leave an intact store**: while the tables that keep their rows
    keep them, a row that something kept it is missed. -/
theorem Sound.eq_of_within (h : l.Sound s) (hwithin : s'.Within s)
    (hkept : ∀ t k r, l.keeps t → s t k = some r → s' t k = some r) (hintact : l.Intact s') :
    s' = s := by
  have hlive : ∀ t k, l.Live s t k → ∀ r, s t k = some r → s' t k = some r := by
    intro t k hlive
    induction hlive with
    | kept hkeeps => exact fun r hrow => hkept _ _ r hkeeps hrow
    | referred _ hrow href ih =>
      intro r' hrow'
      rcases hintact _ _ _ (ih _ hrow) _ href with ⟨r'', hthere⟩
      have hsame := (hwithin _ _ _ hthere).symm.trans hrow'
      rw [hthere, hsame]
  funext t k
  apply Option.ext
  intro r
  exact ⟨hwithin t k r, fun hrow => hlive t k (h.live t k r hrow) r hrow⟩

end RefScheme

end Rovs
