import Mathlib.Data.List.Nodup

/-!
# Logs that define and use names

An entry of a log may define a name of a sort, and it uses names at places that ask for a sort.
A log is closed when its names are distinct, every use comes after its definition, and every name
is used once by the entries that have to use names of its sort.  A log in which every entry uses
just what the entry before it defines, a chain, is closed as soon as its names are distinct.
-/

namespace Rovs

/-- What the entries of a log define and use. -/
structure Naming (E S N : Type) where
  defines : E → Option (S × N)
  uses : E → List (S × N)
  /-- The entries that have to use the names of a sort. -/
  user : S → E → Bool

namespace Naming

variable {E S N : Type} (l : Naming E S N)

def defined (es : List E) : List (S × N) := es.filterMap l.defines

/-- What the users of a sort use. -/
def usedFor (s : S) (es : List E) : List (S × N) := (es.filter (l.user s)).flatMap l.uses

structure Closed [DecidableEq S] [DecidableEq N] (es : List E) : Prop where
  distinct : ((l.defined es).map Prod.snd).Nodup
  resolved : ∀ i e, es[i]? = some e → ∀ u ∈ l.uses e, u ∈ l.defined (es.take i)
  usedOnce : ∀ d ∈ l.defined es, (l.usedFor d.1 es).count d = 1

@[simp] theorem defined_append (es es' : List E) :
    l.defined (es ++ es') = l.defined es ++ l.defined es' := List.filterMap_append

theorem defined_cons (e : E) (es : List E) :
    l.defined (e :: es) = (l.defines e).toList ++ l.defined es := by
  unfold defined
  cases h : l.defines e with
  | none => rw [List.filterMap_cons_none h, Option.toList_none, List.nil_append]
  | some d => rw [List.filterMap_cons_some h, Option.toList_some, List.singleton_append]

theorem usedFor_cons (s : S) (e : E) (es : List E) :
    l.usedFor s (e :: es) = (if l.user s e then l.uses e else []) ++ l.usedFor s es := by
  unfold usedFor
  by_cases h : l.user s e = true
  · rw [List.filter_cons_of_pos h, List.flatMap_cons, if_pos h]
  · rw [List.filter_cons_of_neg h, if_neg h, List.nil_append]

/-- Every entry uses what the one before it defines and nothing else; `pending` is what the first
    one uses. -/
inductive Chain : Option (S × N) → List E → Prop
  | nil : Chain none []
  | cons {pending : Option (S × N)} {e : E} {es : List E} (huses : l.uses e = pending.toList)
      (huser : ∀ d ∈ pending, l.user d.1 e = true) (hrest : Chain (l.defines e) es) :
      Chain pending (e :: es)

section Chain

variable {l} {pending : Option (S × N)} {es es' : List E}

theorem Chain.append (h : l.Chain pending es) (h' : l.Chain none es') :
    l.Chain pending (es ++ es') := by
  induction h with
  | nil => exact h'
  | cons huses huser _ ih => exact .cons huses huser ih

/-- What is used is defined before, or was pending. -/
theorem Chain.resolved (h : l.Chain pending es) {i : Nat} {e : E} (he : es[i]? = some e)
    {u : S × N} (hu : u ∈ l.uses e) : u ∈ pending.toList ++ l.defined (es.take i) := by
  induction h generalizing i with
  | nil => simp at he
  | @cons pending e' es huses huser hrest ih =>
    cases i with
    | zero =>
      rw [List.getElem?_cons_zero, Option.some.injEq] at he
      rw [he] at huses
      rw [← huses]
      exact List.mem_append_left _ hu
    | succ i =>
      rw [List.getElem?_cons_succ] at he
      rw [List.take_succ_cons, defined_cons]
      exact List.mem_append_right _ (ih he)

/-- What is used at all was pending or is defined. -/
theorem Chain.mem_defined (h : l.Chain pending es) {s : S} {u : S × N}
    (hu : u ∈ l.usedFor s es) : u ∈ pending.toList ++ l.defined es := by
  rcases List.mem_flatMap.mp hu with ⟨e, he, hu⟩
  rcases List.mem_iff_getElem?.mp (List.mem_of_mem_filter he) with ⟨i, hi⟩
  rcases List.mem_append.mp (h.resolved hi hu) with hpending | hdefined
  · exact List.mem_append_left _ hpending
  · rw [← List.take_append_drop i es, defined_append]
    exact List.mem_append_right _ (List.mem_append_left _ hdefined)

variable [DecidableEq S] [DecidableEq N]

theorem Chain.usedOnce (h : l.Chain pending es)
    (hdistinct : ((pending.toList ++ l.defined es).map Prod.snd).Nodup) :
    ∀ d ∈ pending.toList ++ l.defined es, (l.usedFor d.1 es).count d = 1 := by
  induction h with
  | nil => simp [defined]
  | @cons pending e es huses huser hrest ih =>
    rw [defined_cons] at hdistinct ⊢
    have hparts := List.nodup_append.mp (List.map_append ▸ hdistinct)
    rcases hparts with ⟨-, hrestDistinct, hapart⟩
    intro d hd
    rw [usedFor_cons, List.count_append]
    rcases List.mem_append.mp hd with hpending | hdefined
    · -- the entry uses it, and no later one does
      have hsome : pending = some d := Option.mem_toList.mp hpending
      have hlater : d ∉ l.usedFor d.1 es := fun hmem =>
        hapart _ (List.mem_map_of_mem hpending) _ (List.mem_map_of_mem (hrest.mem_defined hmem)) rfl
      rw [if_pos (huser d hsome), huses, hsome, List.count_eq_zero.mpr hlater]
      simp
    · have hnot : d ∉ pending.toList := fun hmem =>
        hapart _ (List.mem_map_of_mem hmem) _ (List.mem_map_of_mem hdefined) rfl
      have hfirst : (if l.user d.1 e then l.uses e else []).count d = 0 := by
        rw [huses, List.count_eq_zero]
        split
        · exact hnot
        · exact List.not_mem_nil
      rw [hfirst, ih hrestDistinct d hdefined]

/-- **A chain with distinct names is closed.** -/
theorem Chain.closed (h : l.Chain none es) (hdistinct : ((l.defined es).map Prod.snd).Nodup) :
    l.Closed es where
  distinct := hdistinct
  resolved _ _ he _ hu := h.resolved he hu
  usedOnce := h.usedOnce hdistinct

end Chain

end Naming

end Rovs
