import Mathlib.Data.List.Basic

/-!
# Servers that answer in order

A server handles its requests one after the other and gives at most one answer to
each.  The answers to a history of requests stand in the order of the requests, each
with the number of the request it belongs to.  So the place of an answer among all
answers tells how many requests before its own were answered.
-/

namespace Rovs

section InOrder

variable {α β : Type} {reply : α → Option β}

/-- The answers to requests that are numbered from `n` on. -/
def answersFrom (reply : α → Option β) : Nat → List α → List (Nat × β)
  | _, [] => []
  | n, a :: as => ((reply a).map (n, ·)).toList ++ answersFrom reply (n + 1) as

/-- The answers to a history of requests, with the numbers of the requests. -/
def answers (reply : α → Option β) (history : List α) : List (Nat × β) :=
  answersFrom reply 0 history

theorem answersFrom_append (n : Nat) (as bs : List α) :
    answersFrom reply n (as ++ bs) =
      answersFrom reply n as ++ answersFrom reply (n + as.length) bs := by
  induction as generalizing n with
  | nil => rfl
  | cons a as ih =>
    rw [List.cons_append, answersFrom, answersFrom, ih, List.append_assoc, List.length_cons]
    congr 3
    omega

theorem answers_concat (history : List α) (a : α) :
    answers reply (history ++ [a]) =
      answers reply history ++ ((reply a).map (history.length, ·)).toList := by
  rw [answers, answersFrom_append, Nat.zero_add, answersFrom, answersFrom, List.append_nil]
  rfl

theorem mem_answersFrom {n i : Nat} {as : List α} {b : β} (h : (i, b) ∈ answersFrom reply n as) :
    n ≤ i ∧ ∃ a, as[i - n]? = some a ∧ reply a = some b := by
  induction as generalizing n with
  | nil => cases h
  | cons a as ih =>
    rcases List.mem_append.mp h with hhere | hthere
    · obtain ⟨b', hb', heq⟩ := Option.map_eq_some_iff.mp (Option.mem_toList.mp hhere)
      cases heq
      refine ⟨Nat.le_refl i, a, ?_, hb'⟩
      rw [Nat.sub_self, List.getElem?_cons_zero]
    · obtain ⟨hle, a', ha', hb'⟩ := ih hthere
      refine ⟨by omega, a', ?_, hb'⟩
      rw [show i - n = i - (n + 1) + 1 by omega, List.getElem?_cons_succ]
      exact ha'

theorem mem_answers {i : Nat} {history : List α} {b : β} (h : (i, b) ∈ answers reply history) :
    ∃ a, history[i]? = some a ∧ reply a = some b := (mem_answersFrom h).2

theorem lt_of_mem_answers {i : Nat} {history : List α} {b : β}
    (h : (i, b) ∈ answers reply history) : i < history.length := by
  obtain ⟨a, ha, -⟩ := mem_answers h
  exact (List.getElem?_eq_some_iff.mp ha).1

theorem answersFrom_length (n : Nat) (as : List α) :
    (answersFrom reply n as).length = as.countP fun a => (reply a).isSome := by
  induction as generalizing n with
  | nil => rfl
  | cons a as ih =>
    rw [answersFrom, List.length_append, ih, List.countP_cons]
    rw [Nat.add_comm]
    cases reply a <;> rfl

theorem answers_length (history : List α) :
    (answers reply history).length = history.countP fun a => (reply a).isSome :=
  answersFrom_length 0 history

/-- The answer at place `j` belongs to one of the first `n` requests exactly when these
    have more than `j` answers. -/
theorem answer_lt_iff {history : List α} {i j : Nat} {b : β}
    (h : (answers reply history)[j]? = some (i, b)) (n : Nat) :
    i < n ↔ j < (answers reply (history.take n)).length := by
  have hi := lt_of_mem_answers (List.mem_of_getElem? h)
  have hsplit : answers reply history = answers reply (history.take n) ++
      answersFrom reply (history.take n).length (history.drop n) := by
    rw [answers, answers, ← Nat.zero_add (history.take n).length, ← answersFrom_append,
      List.take_append_drop]
  rw [hsplit] at h
  constructor
  · intro hlt
    by_contra hj
    rw [List.getElem?_append_right (Nat.not_lt.mp hj)] at h
    have hle := (mem_answersFrom (List.mem_of_getElem? h)).1
    rw [List.length_take] at hle
    omega
  · intro hj
    rw [List.getElem?_append_left hj] at h
    have hlt := lt_of_mem_answers (List.mem_of_getElem? h)
    rw [List.length_take] at hlt
    omega

/-- A server that answers every request gives answer `j` to request `j`. -/
theorem answers_total {history : List α} (htotal : ∀ a ∈ history, (reply a).isSome = true)
    {i j : Nat} {b : β} (h : (answers reply history)[j]? = some (i, b)) : i = j := by
  have hlen : ∀ n ≤ history.length, (answers reply (history.take n)).length = n := by
    intro n hn
    have hall : ∀ a ∈ history.take n, (reply a).isSome = true :=
      fun a ha => htotal a (List.mem_of_mem_take ha)
    rw [answers_length, List.countP_eq_length.mpr hall, List.length_take, Nat.min_eq_left hn]
  have hi := lt_of_mem_answers (List.mem_of_getElem? h)
  have hle := (answer_lt_iff h i).not.mp (Nat.lt_irrefl i)
  have hlt := (answer_lt_iff h (i + 1)).mp (Nat.lt_succ_self i)
  rw [hlen i (Nat.le_of_lt hi)] at hle
  rw [hlen (i + 1) hi] at hlt
  omega

/-- Among all requests, those handled and those in the queue, the handled ones have the places
    of the history. -/
theorem getElem?_handled {γ : Type} {request : α → γ} {history : List α} (queue : List γ)
    {i : Nat} {a : α} (h : history[i]? = some a) :
    (history.map request ++ queue)[i]? = some (request a) := by
  have hlt := (List.getElem?_eq_some_iff.mp h).1
  rw [List.getElem?_append_left (by rwa [List.length_map]), List.getElem?_map, h]
  rfl

/-- Where what was taken and what is under way are all that was sent, the messages taken have the
    places of what was sent. -/
theorem getElem?_taken {γ δ ε : Type} {taken : List γ} {message : γ → δ} {underWay : List δ}
    {all : List ε} {send : ε → δ} (h : taken.map message ++ underWay = all.map send) {j : Nat}
    {c : γ} (hc : taken[j]? = some c) : ∃ e, all[j]? = some e ∧ send e = message c := by
  have hplace : (taken.map message ++ underWay)[j]? = some (message c) :=
    getElem?_handled underWay hc
  rw [h, List.getElem?_map] at hplace
  exact Option.map_eq_some_iff.mp hplace

end InOrder

end Rovs
