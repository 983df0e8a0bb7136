import Rovs.Outcome

/-!
# Programs over a state

A method reads and changes a state and ends like a call: with a value, with an error, with a
panic, or not at all.  Where it ends without a value the state stays as it was then.  A loop
carries its local variables from pass to pass and runs as long as a measure of the state
allows; `loop_eq` says that with a measure that every further pass decreases this is the loop
of the source.  `Triple` is the rule of pre- and postconditions: one condition for the states
in which a value is returned and one for the states in which a program stops without a value.
-/

namespace Rovs

open Outcome

def Program (σ E α : Type) : Type := σ → Outcome E α × σ

/-- How a computation ends that fails, for a caller with another kind of value. -/
def Outcome.failed {E α β : Type} : Outcome E α → Outcome E β
  | .ok _ => .hang
  | .err e => .err e
  | .panic => .panic
  | .hang => .hang

@[simp] theorem Outcome.failed_ne_ok {E α β : Type} (x : Outcome E α) (b : β) :
    x.failed ≠ .ok b := by
  cases x <;> nofun

@[simp] theorem Outcome.failed_failed {E α β γ : Type} (x : Outcome E α) :
    ((x.failed : Outcome E β).failed : Outcome E γ) = x.failed := by
  cases x <;> rfl

namespace Program

variable {σ τ E F α β ι : Type}

protected def bind (p : Program σ E α) (f : α → Program σ E β) : Program σ E β := fun s =>
  match p s with
  | (.ok a, s') => f a s'
  | (.err e, s') => (.err e, s')
  | (.panic, s') => (.panic, s')
  | (.hang, s') => (.hang, s')

instance : Monad (Program σ E) where
  pure a s := (.ok a, s)
  bind := Program.bind

/-- A value of the state, or a failure; the state stays. -/
def read (f : σ → Outcome E α) : Program σ E α := fun s => (f s, s)

def modify (f : σ → σ) : Program σ E Unit := fun s => (.ok (), f s)

/-- A computation that neither reads nor changes the state. -/
def lift (x : Outcome E α) : Program σ E α := fun s => (x, s)

/-- A program over a part of the state; its errors are converted. -/
def focus (part : σ → τ) (replace : τ → σ → σ) (convert : E → F) (p : Program τ E α) :
    Program σ F α := fun s =>
  match p (part s) with
  | (.ok a, t) => (.ok a, replace t s)
  | (.err e, t) => (.err (convert e), replace t s)
  | (.panic, t) => (.panic, replace t s)
  | (.hang, t) => (.hang, replace t s)

/-- What follows a pass of a loop. -/
def next (again : ι → Program σ E β) : Pass ι β → Program σ E β
  | .again i => again i
  | .leave b => pure b

/-- Run a loop body from local variables, at most `fuel` times. -/
def loopFuel (body : ι → Program σ E (Pass ι β)) : Nat → ι → Program σ E β
  | 0, _ => fun s => (.hang, s)
  | fuel + 1, i => body i >>= next (loopFuel body fuel)

/-- Run a loop body as long as the measure of the state allows. -/
def loop (measure : σ → Nat) (body : ι → Program σ E (Pass ι β)) (i : ι) : Program σ E β :=
  fun s => loopFuel body (measure s + 1) i s

/-! ### Running -/

@[simp] theorem pure_run (a : α) (s : σ) : (pure a : Program σ E α) s = (.ok a, s) := rfl

@[simp] theorem read_run (f : σ → Outcome E α) (s : σ) : read f s = (f s, s) := rfl

@[simp] theorem modify_run (f : σ → σ) (s : σ) : (modify f : Program σ E Unit) s = (.ok (), f s) :=
  rfl

section Bind

variable {p : Program σ E α} {f : α → Program σ E β} {s s' : σ}

theorem bind_run : (p >>= f) s = Program.bind p f s := rfl

theorem bind_ok {a : α} (h : p s = (.ok a, s')) : (p >>= f) s = f a s' := by
  rw [bind_run, Program.bind, h]

theorem bind_err {e : E} (h : p s = (.err e, s')) : (p >>= f) s = (.err e, s') := by
  rw [bind_run, Program.bind, h]

@[simp] theorem read_bind {g : σ → α} :
    (read (fun s => .ok (g s)) >>= f : Program σ E β) s = f (g s) s := rfl

@[simp] theorem lift_ok_bind {a : α} : (lift (.ok a) >>= f) s = f a s := rfl

@[simp] theorem lift_err_bind {e : E} : (lift (.err e) >>= f) s = (.err e, s) := rfl

@[simp] theorem lift_panic_bind : (lift .panic >>= f) s = (.panic, s) := rfl

@[simp] theorem modify_bind {g : σ → σ} {f : Unit → Program σ E β} :
    (modify g >>= f) s = f () (g s) := rfl

theorem bind_failed {x : Outcome E α} (h : p s = (x, s')) (hx : ∀ a, x ≠ .ok a) :
    (p >>= f) s = (x.failed, s') := by
  rw [bind_run, Program.bind, h]
  cases x with
  | ok a => exact absurd rfl (hx a)
  | _ => rfl

/-- What is computed from a value leaves the state as it is. -/
theorem bind_lift_snd {g : α → Outcome E β} : ((p >>= fun a => lift (g a)) s).2 = (p s).2 := by
  rw [bind_run, Program.bind]
  rcases p s with ⟨a | e | _ | _, s'⟩ <;> rfl

/-- A value of two programs one after the other comes from a value of the first. -/
theorem bind_eq_ok {b : β} (h : (p >>= f) s = (.ok b, s')) :
    ∃ a s₁, p s = (.ok a, s₁) ∧ f a s₁ = (.ok b, s') := by
  rcases hp : p s with ⟨a | e | _ | _, s₁⟩
  all_goals rw [bind_run, Program.bind, hp] at h
  · exact ⟨a, s₁, rfl, h⟩
  all_goals cases h

end Bind

section Focus

variable {part : σ → τ} {replace : τ → σ → σ} {convert : E → F} {p : Program τ E α} {s : σ} {t : τ}

theorem focus_ok {a : α} (h : p (part s) = (.ok a, t)) :
    focus part replace convert p s = (.ok a, replace t s) := by
  rw [focus, h]

theorem focus_err {e : E} (h : p (part s) = (.err e, t)) :
    focus part replace convert p s = (.err (convert e), replace t s) := by
  rw [focus, h]

theorem focus_eq_ok {a : α} {s' : σ} (h : focus part replace convert p s = (.ok a, s')) :
    ∃ t, p (part s) = (.ok a, t) ∧ s' = replace t s := by
  rcases hp : p (part s) with ⟨a' | e | _ | _, t⟩
  all_goals rw [focus, hp] at h
  · cases h
    exact ⟨t, rfl, rfl⟩
  all_goals cases h

end Focus

/-! ### Loops -/

section Loop

variable {measure : σ → Nat} {body : ι → Program σ E (Pass ι β)}

/-- Every pass that goes round again makes the measure smaller. -/
def Decreases (measure : σ → Nat) (body : ι → Program σ E (Pass ι β)) : Prop :=
  ∀ i i' s s', body i s = (.ok (.again i'), s') → measure s' < measure s

theorem loopFuel_again {i i' : ι} {s s' : σ} (h : body i s = (.ok (.again i'), s')) (fuel : Nat) :
    loopFuel body (fuel + 1) i s = loopFuel body fuel i' s' := bind_ok h

theorem loopFuel_leave {i : ι} {b : β} {s s' : σ} (h : body i s = (.ok (.leave b), s'))
    (fuel : Nat) : loopFuel body (fuel + 1) i s = (.ok b, s') := bind_ok h

/-- Fuel above the measure of the state is enough: more of it changes nothing. -/
theorem loopFuel_fuel (hdec : Decreases measure body) {m n : Nat} {i : ι} {s : σ}
    (hm : measure s < m) (hn : measure s < n) : loopFuel body m i s = loopFuel body n i s := by
  induction m generalizing n i s with
  | zero => exact absurd hm (Nat.not_lt_zero _)
  | succ m ih =>
    obtain ⟨k, rfl⟩ : ∃ k, n = k + 1 := ⟨n - 1, by omega⟩
    rcases hb : body i s with ⟨p | e | _ | _, s'⟩
    · cases p with
      | again i' =>
        have hlt := hdec i i' s s' hb
        rw [loopFuel_again hb, loopFuel_again hb]
        exact ih (by omega) (by omega)
      | leave b => rw [loopFuel_leave hb, loopFuel_leave hb]
    all_goals simp only [loopFuel, bind_run, Program.bind, hb]

theorem loop_again (hdec : Decreases measure body) {i i' : ι} {s s' : σ}
    (h : body i s = (.ok (.again i'), s')) : loop measure body i s = loop measure body i' s' := by
  rw [loop, loopFuel_again h]
  exact loopFuel_fuel hdec (hdec i i' s s' h) (Nat.lt_succ_self _)

theorem loop_leave {i : ι} {b : β} {s s' : σ} (h : body i s = (.ok (.leave b), s')) :
    loop measure body i s = (.ok b, s') := loopFuel_leave h _

theorem loop_failed {i : ι} {x : Outcome E (Pass ι β)} {s s' : σ} (h : body i s = (x, s'))
    (hx : ∀ pass, x ≠ .ok pass) : loop measure body i s = (x.failed, s') := bind_failed h hx

/-- The loop of the source: one pass, and then the loop again unless the pass leaves it. -/
theorem loop_eq (hdec : Decreases measure body) (i : ι) (s : σ) :
    loop measure body i s = (body i >>= next (loop measure body)) s := by
  rcases hb : body i s with ⟨p | e | _ | _, s'⟩
  · cases p with
    | again i' =>
      rw [loop_again hdec hb, bind_ok hb]
      rfl
    | leave b =>
      rw [loop_leave hb, bind_ok hb]
      rfl
  all_goals simp only [loop, loopFuel, bind_run, Program.bind, hb]

theorem loop_eq_ok (hdec : Decreases measure body) {i : ι} {b : β} {s s' : σ}
    (h : loop measure body i s = (.ok b, s')) :
    ∃ pass s₁, body i s = (.ok pass, s₁) ∧ next (loop measure body) pass s₁ = (.ok b, s') := by
  rw [loop_eq hdec] at h
  exact bind_eq_ok h

end Loop

/-! ### Programs that do not depend on a part of the state -/

/-- To change the state before the program is to change it behind the program. -/
def Commutes (g : σ → σ) (p : Program σ E α) : Prop := ∀ s, p (g s) = ((p s).1, g (p s).2)

namespace Commutes

variable {g : σ → σ} {p : Program σ E α} {f : α → Program σ E β}

theorem pure (a : α) : Commutes g (pure a : Program σ E α) := fun _ => rfl

theorem lift (x : Outcome E α) : Commutes g (lift x) := fun _ => rfl

theorem read {h : σ → Outcome E α} (hg : ∀ s, h (g s) = h s) : Commutes g (read h) := by
  intro s
  rw [read_run, read_run, hg]

theorem modify {h : σ → σ} (hg : ∀ s, h (g s) = g (h s)) :
    Commutes g (modify h : Program σ E Unit) := by
  intro s
  rw [modify_run, modify_run, hg]

theorem bind (hp : Commutes g p) (hf : ∀ a, Commutes g (f a)) : Commutes g (p >>= f) := by
  intro s
  rw [bind_run, bind_run, Program.bind, Program.bind, hp s]
  rcases p s with ⟨a | e | _ | _, s'⟩
  · exact hf a s'
  all_goals rfl

theorem loop {measure : σ → Nat} {body : ι → Program σ E (Pass ι β)}
    (hmeasure : ∀ s, measure (g s) = measure s) (hbody : ∀ i, Commutes g (body i)) (i : ι) :
    Commutes g (Program.loop measure body i) := by
  have hfuel : ∀ fuel i, Commutes g (loopFuel body fuel i) := by
    intro fuel
    induction fuel with
    | zero => exact fun _ _ => rfl
    | succ fuel ih =>
      intro i
      apply (hbody i).bind
      intro pass
      cases pass with
      | again i' => exact ih i'
      | leave b => exact pure b
  intro s
  rw [Program.loop, Program.loop, hmeasure]
  exact hfuel _ i s

end Commutes

/-! ### Pre- and postconditions -/

/-- The state in which a program ends meets `Q` if it ends with a value, and `R` if not. -/
def Ends (Q : α → σ → Prop) (R : σ → Prop) : Outcome E α × σ → Prop
  | (.ok a, s) => Q a s
  | (.err _, s) => R s
  | (.panic, s) => R s
  | (.hang, s) => R s

/-- The condition before the next pass, or the condition behind the loop. -/
def PassEnds (P : ι → σ → Prop) (Q : β → σ → Prop) : Pass ι β → σ → Prop
  | .again i => P i
  | .leave b => Q b

/-- From a state with `P` the program ends in a state with `Q` or stops in one with `R`. -/
def Triple (P : σ → Prop) (p : Program σ E α) (Q : α → σ → Prop) (R : σ → Prop) : Prop :=
  ∀ s, P s → Ends Q R (p s)

/-- The program preserves a condition, however it ends. -/
def Keeps (P : σ → Prop) (p : Program σ E α) : Prop := Triple P p (fun _ => P) P

theorem Ends.mono {Q Q' : α → σ → Prop} {R R' : σ → Prop} {last : Outcome E α × σ}
    (h : Ends Q R last) (hQ : ∀ a s, Q a s → Q' a s) (hR : ∀ s, R s → R' s) :
    Ends Q' R' last := by
  rcases last with ⟨a | e | _ | _, s⟩
  · exact hQ a s h
  all_goals exact hR s h

theorem Ends.bind {p : Program σ E α} {f : α → Program σ E β} {Q : α → σ → Prop}
    {Q' : β → σ → Prop} {R : σ → Prop} {s : σ} (hp : Ends Q R (p s))
    (hf : ∀ a s', Q a s' → Ends Q' R (f a s')) : Ends Q' R ((p >>= f) s) := by
  rw [bind_run, Program.bind]
  rcases hrun : p s with ⟨a | e | _ | _, s'⟩
  all_goals rw [hrun] at hp
  · exact hf a s' hp
  all_goals exact hp

theorem Ends.focus {part : σ → τ} {replace : τ → σ → σ} {convert : E → F} {p : Program τ E α}
    {Q : α → τ → Prop} {R : τ → Prop} {s : σ} (hp : Ends Q R (p (part s))) :
    Ends (fun a s' => ∃ t, Q a t ∧ s' = replace t s) (fun s' => ∃ t, R t ∧ s' = replace t s)
      (Program.focus part replace convert p s) := by
  rw [Program.focus]
  rcases hrun : p (part s) with ⟨a | e | _ | _, t⟩
  all_goals
    rw [hrun] at hp
    exact ⟨t, hp, rfl⟩

theorem Keeps.holds {P : σ → Prop} {p : Program σ E α} (h : Keeps P p) {s : σ} (hs : P s) :
    P (p s).2 := by
  have hend := h s hs
  rcases hp : p s with ⟨a | e | _ | _, s'⟩
  all_goals
    rw [hp] at hend
    exact hend

namespace Triple

variable {P : σ → Prop} {p : Program σ E α} {f : α → Program σ E β} {Q : α → σ → Prop}
  {Q' : β → σ → Prop} {R : σ → Prop}

theorem mono {Q' : α → σ → Prop} {R' : σ → Prop} (h : Triple P p Q R)
    (hQ : ∀ a s, Q a s → Q' a s) (hR : ∀ s, R s → R' s) : Triple P p Q' R' :=
  fun s hs => (h s hs).mono hQ hR

theorem true : Triple P p (fun _ _ => True) (fun _ => True) := by
  intro s _
  rcases hrun : p s with ⟨a | e | _ | _, s'⟩ <;> trivial

theorem pure (a : α) (h : ∀ s, P s → Q a s) : Triple P (pure a : Program σ E α) Q R := h

theorem modify {Q : Unit → σ → Prop} {f : σ → σ} (h : ∀ s, P s → Q () (f s)) :
    Triple P (modify f : Program σ E Unit) Q R := h

theorem bind (hp : Triple P p Q R) (hf : ∀ a, Triple (Q a) (f a) Q' R) :
    Triple P (p >>= f) Q' R := fun s hs => (hp s hs).bind hf

theorem ite {c : Prop} [Decidable c] {q : Program σ E α} (hp : c → Triple P p Q R)
    (hq : ¬ c → Triple P q Q R) : Triple P (if c then p else q) Q R := by
  by_cases h : c
  · rw [if_pos h]
    exact hp h
  · rw [if_neg h]
    exact hq h

/-- The invariant rule: `P i` holds before every pass with local variables `i`. -/
theorem loop {measure : σ → Nat} {body : ι → Program σ E (Pass ι β)} {P : ι → σ → Prop}
    (hbody : ∀ i, Triple (P i) (body i) (PassEnds P Q') R) (hstop : ∀ i s, P i s → R s)
    (i : ι) : Triple (P i) (loop measure body i) Q' R := by
  intro s hs
  rw [Program.loop]
  generalize measure s + 1 = fuel
  induction fuel generalizing i s with
  | zero => exact hstop i s hs
  | succ fuel ih =>
    have hend := hbody i s hs
    rw [loopFuel, bind_run, Program.bind]
    rcases hrun : body i s with ⟨pass | e | _ | _, s'⟩
    all_goals rw [hrun] at hend
    · cases pass with
      | again i' => exact ih i' s' hend
      | leave b => exact hend
    all_goals exact hend

end Triple

namespace Keeps

variable {P : σ → Prop} {p : Program σ E α} {f : α → Program σ E β}

theorem of_holds (h : ∀ s, P s → P (p s).2) : Keeps P p := by
  intro s hs
  have hend := h s hs
  rcases hp : p s with ⟨a | e | _ | _, s'⟩
  all_goals
    rw [hp] at hend
    exact hend

theorem pure (a : α) : Keeps P (pure a : Program σ E α) := fun _ hs => hs

theorem read (f : σ → Outcome E α) : Keeps P (read f) := by
  intro s hs
  rw [read_run]
  cases f s <;> exact hs

theorem modify {f : σ → σ} (h : ∀ s, P s → P (f s)) : Keeps P (modify f : Program σ E Unit) := h

theorem bind (hp : Keeps P p) (hf : ∀ a, Keeps P (f a)) : Keeps P (p >>= f) :=
  Triple.bind hp hf

theorem ite {c : Prop} [Decidable c] {q : Program σ E α} (hp : Keeps P p) (hq : Keeps P q) :
    Keeps P (if c then p else q) :=
  Triple.ite (fun _ => hp) fun _ => hq

theorem loop {measure : σ → Nat} {body : ι → Program σ E (Pass ι β)}
    (hbody : ∀ i, Keeps P (body i)) (i : ι) : Keeps P (Program.loop measure body i) := by
  refine Triple.loop (P := fun _ => P) ?_ (fun _ _ hs => hs) i
  intro i s hs
  refine (hbody i s hs).mono ?_ (fun _ h => h)
  intro pass s h
  cases pass <;> exact h

/-- A program over a part of the state preserves what its own steps preserve. -/
theorem focus {part : σ → τ} {replace : τ → σ → σ} {convert : E → F} {p : Program τ E α}
    {P' : τ → Prop} (hp : Keeps P' p) (hpart : ∀ s, P s → P' (part s))
    (hreplace : ∀ s t, P s → P' t → P (replace t s)) :
    Keeps P (Program.focus part replace convert p) := by
  intro s hs
  refine (hp (part s) (hpart s hs)).focus.mono ?_ ?_
  · intro a s' h
    rcases h with ⟨t, ht, rfl⟩
    exact hreplace s t hs ht
  · intro s' h
    rcases h with ⟨t, ht, rfl⟩
    exact hreplace s t hs ht

end Keeps

end Program

end Rovs
