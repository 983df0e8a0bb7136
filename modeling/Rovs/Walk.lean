import Rovs.Bytes

/-!
# Walks over length-prefixed data

Many formats are a row of elements each of which gives its own length.  A decoder
of such a format is a loop that reads the element at the head of the unread bytes
and moves on by its length.  `Walk` is the sequence of suffixes such a loop comes
to, given which elements it takes (`good`) and how far it moves (`step`); a loop
is `WalkedBy` these when it also says which elements make it panic (`bad`).  Such a
loop returns exactly when its walk comes to no bad element.

`readFrames` cuts a buffer into elements with a type word and a length word.
-/

namespace Rovs

/-- The suffixes that a walk from `data` comes to. -/
inductive Walk (step : Bytes → Nat) (good : Bytes → Prop) : Bytes → Bytes → Prop where
  | here (data : Bytes) : Walk step good data data
  | there {data rest : Bytes} (hgood : good data)
      (hrest : Walk step good (data.drop (step data)) rest) : Walk step good data rest

namespace Outcome

variable {E α β : Type}

/-- A loop over unread bytes that moves on by `step` over the good elements, is done
    where `done` holds, panics at the bad elements and refuses all others. -/
structure WalkedBy (pass : α × Bytes → Outcome E (Pass (α × Bytes) β)) (step : Bytes → Nat)
    (good done bad : Bytes → Prop) : Prop where
  again : ∀ {data : Bytes}, good data → ∀ acc,
    ∃ acc', pass (acc, data) = .ok (.again (acc', data.drop (step data)))
  progress : ∀ {data : Bytes}, good data → 0 < step data ∧ 0 < data.length
  leaves : ∀ {data : Bytes}, done data → ∀ acc, ∃ b, pass (acc, data) = .ok (.leave b)
  fails : ∀ {data : Bytes}, bad data → ∀ acc, pass (acc, data) = .panic
  refuses : ∀ {data : Bytes}, ¬ good data → ¬ done data → ¬ bad data → ∀ acc,
    ∃ e, pass (acc, data) = .err e

namespace WalkedBy

variable {pass : α × Bytes → Outcome E (Pass (α × Bytes) β)} {step : Bytes → Nat}
  {good done bad : Bytes → Prop}

theorem again_inv (h : WalkedBy pass step good done bad) {acc : α} {data : Bytes}
    {s' : α × Bytes} (hpass : pass (acc, data) = .ok (.again s')) :
    good data ∧ s'.2 = data.drop (step data) := by
  by_cases hgood : good data
  · obtain ⟨acc', hagain⟩ := h.again hgood acc
    rw [hagain] at hpass
    cases hpass
    exact ⟨hgood, rfl⟩
  · exfalso
    by_cases hbad : bad data
    · rw [h.fails hbad] at hpass
      cases hpass
    · by_cases hdone : done data
      · obtain ⟨b, hb⟩ := h.leaves hdone acc
        rw [hb] at hpass
        cases hpass
      · obtain ⟨e, he⟩ := h.refuses hgood hdone hbad acc
        rw [he] at hpass
        cases hpass

theorem decreases (h : WalkedBy pass step good done bad) :
    Decreases pass (fun s => s.2.length) := by
  rintro ⟨acc, data⟩ s' hpass
  obtain ⟨hgood, hdata⟩ := h.again_inv hpass
  obtain ⟨hstep, hpos⟩ := h.progress hgood
  simp only [hdata, List.length_drop]
  omega

theorem loop_panics (h : WalkedBy pass step good done bad) {data rest : Bytes}
    (hwalk : Walk step good data rest) (hbad : bad rest) {fuel : Nat} {acc : α}
    (hfuel : data.length < fuel) : loop pass fuel (acc, data) = .panic := by
  induction hwalk generalizing fuel acc with
  | here data =>
    obtain ⟨fuel, rfl⟩ : ∃ n, fuel = n + 1 := ⟨fuel - 1, by omega⟩
    simp only [loop, h.fails hbad]
  | there hgood _ ih =>
    obtain ⟨fuel, rfl⟩ : ∃ n, fuel = n + 1 := ⟨fuel - 1, by omega⟩
    obtain ⟨acc', hagain⟩ := h.again hgood acc
    have hlt := h.decreases _ _ hagain
    rw [loop_again hagain]
    exact ih hbad (Nat.lt_of_lt_of_le hlt (Nat.le_of_lt_succ hfuel))

/-- Without bad elements on its walk the loop has a result if the walk ends where it
    is done, and an error otherwise. -/
theorem loop_accepts (h : WalkedBy pass step good done bad) {fuel : Nat} (acc : α) {data : Bytes}
    (hfuel : data.length < fuel) (hno : ∀ rest, Walk step good data rest → ¬ bad rest) :
    Accepts (loop pass fuel (acc, data))
      (∀ rest, Walk step good data rest → good rest ∨ done rest) := by
  induction fuel generalizing acc data with
  | zero => exact absurd hfuel (Nat.not_lt_zero _)
  | succ fuel ih =>
    by_cases hgood : good data
    · obtain ⟨acc', hagain⟩ := h.again hgood acc
      have hlt := h.decreases _ _ hagain
      rw [loop_again hagain]
      refine (ih acc' (Nat.lt_of_lt_of_le hlt (Nat.le_of_lt_succ hfuel))
        fun rest hrest => hno rest (.there hgood hrest)).congr ⟨?_, ?_⟩
      · intro hall rest hrest
        cases hrest with
        | here => exact .inl hgood
        | there _ hrest => exact hall rest hrest
      · exact fun hall rest hrest => hall rest (.there hgood hrest)
    · by_cases hdone : done data
      · obtain ⟨b, hb⟩ := h.leaves hdone acc
        rw [loop_leave hb]
        refine (Accepts.ok b).congr ⟨fun _ rest hrest => ?_, fun _ => trivial⟩
        cases hrest with
        | here => exact .inr hdone
        | there hg _ => exact absurd hg hgood
      · obtain ⟨e, he⟩ := h.refuses hgood hdone (hno data (.here data)) acc
        have herr : loop pass (fuel + 1) (acc, data) = .err e := by simp only [loop, he]
        rw [herr]
        exact (Accepts.err e).congr ⟨False.elim, fun hall =>
          (hall data (.here data)).elim hgood hdone⟩

/-- **A walking loop returns exactly when its walk comes to no bad element.** -/
theorem loop_returns_iff (h : WalkedBy pass step good done bad) {fuel : Nat} {acc : α}
    {data : Bytes} (hfuel : data.length < fuel) : (loop pass fuel (acc, data)).Returns ↔
      ∀ rest, Walk step good data rest → ¬ bad rest := by
  constructor
  · intro hret rest hwalk hbad
    rw [h.loop_panics hwalk hbad hfuel] at hret
    exact hret
  · exact fun hno => (h.loop_accepts acc hfuel hno).returns

end WalkedBy

/-! ### Rows of written elements -/

section Written

variable {τ : Type} {write : τ → Bytes} {read : τ → β}
  {pass : List β × Bytes → Outcome E (Pass (List β × Bytes) (List β))}

/-- A loop that reads each written element back, and is left at the end of the data, reads a
    row of them. -/
theorem loop_flatMap {ts : List τ} (hpos : ∀ t ∈ ts, 0 < (write t).length)
    (hpass : ∀ t ∈ ts, ∀ rest acc,
      pass (acc, write t ++ rest) = .ok (.again (acc ++ [read t], rest)))
    (hdone : ∀ acc, pass (acc, []) = .ok (.leave acc)) {fuel : Nat}
    (hfuel : (ts.flatMap write).length < fuel) (acc : List β) :
    loop pass fuel (acc, ts.flatMap write) = .ok (acc ++ ts.map read) := by
  induction ts generalizing acc fuel with
  | nil =>
    obtain ⟨fuel, rfl⟩ : ∃ k, fuel = k + 1 := ⟨fuel - 1, by omega⟩
    rw [List.map_nil, List.append_nil]
    exact loop_leave (hdone acc) fuel
  | cons t ts ih =>
    have ht := hpos t (List.mem_cons_self ..)
    rw [List.flatMap_cons, List.length_append] at hfuel
    obtain ⟨fuel, rfl⟩ : ∃ k, fuel = k + 1 := ⟨fuel - 1, by omega⟩
    rw [List.flatMap_cons, loop_again (hpass t (List.mem_cons_self ..) _ acc),
      ih (fun u hu => hpos u (List.mem_cons_of_mem _ hu))
        (fun u hu => hpass u (List.mem_cons_of_mem _ hu)) (by omega),
      List.map_cons, List.append_assoc]
    rfl

end Written

end Outcome

/-! ### Frames -/

/-- The length word of an element with a type word and a length word. -/
def frameLength (data : Bytes) : Nat := (wordAt 16 data 2).toNat

theorem frameLength_append {data : Bytes} (h : 4 ≤ data.length) (more : Bytes) :
    frameLength (data ++ more) = frameLength data := by
  rw [frameLength, wordAt_append_left h, frameLength]

/-- Exactly one element. -/
structure IsFrame (frame : Bytes) : Prop where
  header : 4 ≤ frame.length
  length_eq : frameLength frame = frame.length

/-- The elements of a buffer, or nothing when it is not a row of whole elements. -/
def readFramesFrom : Nat → Bytes → Option (List Bytes)
  | 0, _ => none
  | fuel + 1, data =>
      if data = [] then some []
      else if 4 ≤ frameLength data ∧ frameLength data ≤ data.length then
        (readFramesFrom fuel (data.drop (frameLength data))).map (data.take (frameLength data) :: ·)
      else none

def readFrames (data : Bytes) : Option (List Bytes) := readFramesFrom (data.length + 1) data

theorem readFramesFrom_flatten {frames : List Bytes} (h : ∀ f ∈ frames, IsFrame f) {fuel : Nat}
    (hfuel : frames.flatten.length < fuel) :
    readFramesFrom fuel frames.flatten = some frames := by
  induction frames generalizing fuel with
  | nil =>
    obtain ⟨fuel, rfl⟩ : ∃ n, fuel = n + 1 := ⟨fuel - 1, by omega⟩
    rfl
  | cons f frames ih =>
    obtain ⟨fuel, rfl⟩ : ∃ n, fuel = n + 1 := ⟨fuel - 1, by omega⟩
    have hf := h f (List.mem_cons_self ..)
    have h4 := hf.header
    have hlen : frameLength (f ++ frames.flatten) = f.length := by
      rw [frameLength_append h4, hf.length_eq]
    rw [List.flatten_cons, List.length_append] at hfuel
    have hne : f ++ frames.flatten ≠ [] := by
      intro hnil
      rw [(List.append_eq_nil_iff.mp hnil).1] at h4
      exact absurd h4 (by decide)
    have hfits : 4 ≤ f.length ∧ f.length ≤ (f ++ frames.flatten).length :=
      ⟨h4, by rw [List.length_append]; omega⟩
    rw [List.flatten_cons, readFramesFrom, if_neg hne, hlen, if_pos hfits, List.drop_left,
      List.take_left, ih (fun g hg => h g (List.mem_cons_of_mem _ hg)) (by omega)]
    rfl

/-- **A row of elements is cut into exactly these elements.** -/
theorem readFrames_flatten {frames : List Bytes} (h : ∀ f ∈ frames, IsFrame f) :
    readFrames frames.flatten = some frames := readFramesFrom_flatten h (Nat.lt_succ_self _)

end Rovs
