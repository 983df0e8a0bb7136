import Mathlib.Logic.Relation

/-!
# Outcomes of fallible code and of its loops

A function that returns `Result` in the source can end in four ways: it returns
a value, it returns an error, it panics (an index or a slice out of bounds), or
it never comes back.  `Outcome` keeps the four apart, so that "returns `Ok` or
`Err` on every input" is a statement about the embedded function and not an
assumption of the embedding.

A `while` loop is a body run on a state until it leaves the loop.  `loop` runs
it with fuel and answers `hang` when the fuel is gone; with a measure that every
pass decreases there is always enough of it.  `Accepts` says on which inputs a
checked computation has a result, and that it ends in an error on the others.
-/

namespace Rovs

/-- How a call ends: a value, an error, a panic, or not at all. -/
inductive Outcome (E α : Type) where
  | ok (value : α)
  | err (error : E)
  | panic
  | hang
deriving DecidableEq, Repr

namespace Outcome

variable {E α β σ : Type}

protected def bind (x : Outcome E α) (f : α → Outcome E β) : Outcome E β :=
  match x with
  | .ok a => f a
  | .err e => .err e
  | .panic => .panic
  | .hang => .hang

instance : Monad (Outcome E) where
  pure := .ok
  bind := Outcome.bind

@[simp] theorem pure_eq (a : α) : (pure a : Outcome E α) = .ok a := rfl

@[simp] theorem ok_bind (a : α) (f : α → Outcome E β) : (Outcome.ok a >>= f) = f a := rfl

@[simp] theorem err_bind (e : E) (f : α → Outcome E β) :
    ((Outcome.err e : Outcome E α) >>= f) = .err e := rfl

@[simp] theorem panic_bind (f : α → Outcome E β) :
    ((Outcome.panic : Outcome E α) >>= f) = .panic := rfl

@[simp] theorem hang_bind (f : α → Outcome E β) :
    ((Outcome.hang : Outcome E α) >>= f) = .hang := rfl

/-- What a sequence of steps returns comes from what the first one returns. -/
theorem bind_eq_ok {x : Outcome E α} {f : α → Outcome E β} {b : β} :
    (x >>= f) = .ok b ↔ ∃ a, x = .ok a ∧ f a = .ok b := by
  cases x <;> simp

/-! ### Returning -/

/-- The call came back with a value or with an error. -/
def Returns : Outcome E α → Prop
  | .ok _ => True
  | .err _ => True
  | .panic => False
  | .hang => False

instance : DecidablePred (@Returns E α) := fun x => by
  cases x <;> simp only [Returns] <;> infer_instance

@[simp] theorem returns_ok (a : α) : (Outcome.ok a : Outcome E α).Returns := trivial

@[simp] theorem returns_err (e : E) : (Outcome.err e : Outcome E α).Returns := trivial

@[simp] theorem not_returns_panic : ¬ (Outcome.panic : Outcome E α).Returns := id

@[simp] theorem not_returns_hang : ¬ (Outcome.hang : Outcome E α).Returns := id

theorem returns_iff {x : Outcome E α} :
    x.Returns ↔ (∃ a, x = .ok a) ∨ ∃ e, x = .err e := by
  cases x <;> simp

@[simp] theorem returns_bind {x : Outcome E α} {f : α → Outcome E β} :
    (x >>= f).Returns ↔ x.Returns ∧ ∀ a, x = .ok a → (f a).Returns := by
  cases x <;> simp

/-! ### Checked computations -/

/-- The computation has a value where `P` holds and ends in an error where it does
    not; it never panics. -/
def Accepts (x : Outcome E α) (P : Prop) : Prop :=
  (P ∧ ∃ a, x = .ok a) ∨ (¬ P ∧ ∃ e, x = .err e)

namespace Accepts

variable {x : Outcome E α} {f : α → Outcome E β} {P Q : Prop}

theorem ok (a : α) : Accepts (.ok a : Outcome E α) True := .inl ⟨trivial, a, rfl⟩

theorem err (e : E) : Accepts (.err e : Outcome E α) False := .inr ⟨id, e, rfl⟩

theorem congr (h : Accepts x P) (hPQ : P ↔ Q) : Accepts x Q := propext hPQ ▸ h

theorem returns (h : Accepts x P) : x.Returns := by
  rcases h with ⟨-, a, rfl⟩ | ⟨-, e, rfl⟩ <;> trivial

theorem eq_ok (h : Accepts x P) (hP : P) : ∃ a, x = .ok a := by
  rcases h with ⟨-, ha⟩ | ⟨hn, -⟩
  · exact ha
  · exact absurd hP hn

theorem eq_err (h : Accepts x P) (hP : ¬ P) : ∃ e, x = .err e := by
  rcases h with ⟨hp, -⟩ | ⟨-, he⟩
  · exact absurd hp hP
  · exact he

/-- Two steps accept what the first accepts and, on its result, the second. -/
theorem bind (hx : Accepts x P) (hf : ∀ a, x = .ok a → Accepts (f a) Q) :
    Accepts (x >>= f) (P ∧ Q) := by
  rcases hx with ⟨hP, a, rfl⟩ | ⟨hP, e, rfl⟩
  · exact (hf a rfl).congr ⟨fun hQ => ⟨hP, hQ⟩, fun h => h.2⟩
  · exact (err e).congr ⟨False.elim, fun h => hP h.1⟩

theorem ite {c : Prop} [Decidable c] {y : Outcome E α} (hx : c → Accepts x P)
    (hy : ¬ c → Accepts y Q) : Accepts (if c then x else y) (if c then P else Q) := by
  by_cases h : c
  · simpa only [if_pos h] using hx h
  · simpa only [if_neg h] using hy h

end Accepts

/-! ### Loops -/

/-- What one pass through a loop body decides. -/
inductive Pass (σ β : Type) where
  | again (state : σ)
  | leave (result : β)
deriving DecidableEq, Repr

/-- Run a loop body from a state, at most `fuel` times. -/
def loop (body : σ → Outcome E (Pass σ β)) : Nat → σ → Outcome E β
  | 0, _ => .hang
  | fuel + 1, s =>
      match body s with
      | .ok (.again s') => loop body fuel s'
      | .ok (.leave b) => .ok b
      | .err e => .err e
      | .panic => .panic
      | .hang => .hang

/-- Every pass that goes round again makes the state smaller. -/
def Decreases (body : σ → Outcome E (Pass σ β)) (measure : σ → Nat) : Prop :=
  ∀ s s', body s = .ok (.again s') → measure s' < measure s

section Loop

variable {body : σ → Outcome E (Pass σ β)} {measure : σ → Nat}

theorem loop_again {s s' : σ} (h : body s = .ok (.again s')) (fuel : Nat) :
    loop body (fuel + 1) s = loop body fuel s' := by
  simp only [loop, h]

theorem loop_leave {s : σ} {b : β} (h : body s = .ok (.leave b)) (fuel : Nat) :
    loop body (fuel + 1) s = .ok b := by
  simp only [loop, h]

/-- Fuel above the measure of the state is enough: more of it changes nothing. -/
theorem loop_fuel (hdec : Decreases body measure) {m n : Nat} {s : σ}
    (hm : measure s < m) (hn : measure s < n) : loop body m s = loop body n s := by
  induction m generalizing n s with
  | zero => exact absurd hm (Nat.not_lt_zero _)
  | succ m ih =>
    obtain ⟨k, rfl⟩ : ∃ k, n = k + 1 := ⟨n - 1, by omega⟩
    rcases hb : body s with p | e | _ | _
    · cases p with
      | again s' =>
        have hlt := hdec s s' hb
        rw [loop_again hb, loop_again hb]
        exact ih (by omega) (by omega)
      | leave b => rw [loop_leave hb, loop_leave hb]
    all_goals simp only [loop, hb]

/-- The fuel that the code has no bound for is the measure: one pass takes at least one off. -/
theorem loop_step (hdec : Decreases body measure) {s s' : σ} (h : body s = .ok (.again s')) :
    loop body (measure s + 1) s = loop body (measure s' + 1) s' := by
  rw [loop_again h]
  exact loop_fuel hdec (hdec s s' h) (Nat.lt_succ_self _)

/-- A loop whose passes all succeed and whose measure decreases has a result. -/
theorem loop_total (hdec : Decreases body measure) (hok : ∀ s, ∃ p, body s = .ok p) {fuel : Nat}
    {s : σ} (hfuel : measure s < fuel) : ∃ b, loop body fuel s = .ok b := by
  induction fuel generalizing s with
  | zero => exact absurd hfuel (Nat.not_lt_zero _)
  | succ fuel ih =>
    obtain ⟨p, hp⟩ := hok s
    cases p with
    | again s' =>
      have hlt := hdec s s' hp
      rw [loop_again hp]
      exact ih (by omega)
    | leave b => exact ⟨b, loop_leave hp fuel⟩

/-- A loop whose passes all return and whose measure decreases returns. -/
theorem loop_returns (hdec : Decreases body measure) (hret : ∀ s, (body s).Returns) {fuel : Nat}
    {s : σ} (hfuel : measure s < fuel) : (loop body fuel s).Returns := by
  induction fuel generalizing s with
  | zero => exact absurd hfuel (Nat.not_lt_zero _)
  | succ fuel ih =>
    rcases returns_iff.mp (hret s) with ⟨p, hp⟩ | ⟨e, he⟩
    · cases p with
      | again s' =>
        have hlt := hdec s s' hp
        rw [loop_again hp]
        exact ih (by omega)
      | leave b =>
        rw [loop_leave hp]
        exact trivial
    · simp only [loop, he]
      exact trivial

/-- The invariant rule: what holds at the start and after every further pass
    holds when the loop is left. -/
theorem loop_invariant (inv : σ → Prop) (post : β → Prop)
    (hstep : ∀ s s', inv s → body s = .ok (.again s') → inv s')
    (hleave : ∀ s b, inv s → body s = .ok (.leave b) → post b)
    {fuel : Nat} {s : σ} {b : β} (hs : inv s) (h : loop body fuel s = .ok b) : post b := by
  induction fuel generalizing s with
  | zero => cases h
  | succ fuel ih =>
    rcases hb : body s with p | e | _ | _
    · cases p with
      | again s' =>
        rw [loop_again hb] at h
        exact ih (hstep s s' hs hb) h
      | leave b' =>
        rw [loop_leave hb] at h
        cases h
        exact hleave s _ hs hb
    all_goals simp only [loop, hb] at h; cases h

end Loop

end Outcome

end Rovs
