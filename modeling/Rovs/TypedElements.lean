import Rovs.Walk

/-!
# Typed elements

An element of a format starts with a type word and a length word.  `TypeWords` says that
a reader of type words takes exactly the words of the known types.  `decodeFramed` is the
common decoder of an element: it must be there as a whole, its type must be known, and the
body is decoded by the type.
-/

namespace Rovs

open Outcome

/-- The reader takes the word of each type and refuses every other word. -/
structure TypeWords {E T : Type} (toWord : T → U16) (ofWord : U16 → Outcome E T) : Prop where
  read : ∀ t, ofWord (toWord t) = .ok t
  known_or_err : ∀ v, (∃ t, ofWord v = .ok t ∧ v = toWord t) ∨ ∃ e, ofWord v = .err e

/-- An element of a known type that is there as a whole. -/
def decodeFramed {E T α : Type} (truncated : E) (ofWord : U16 → Outcome E T)
    (body : Bytes → Nat → T → Outcome E α) (data : Bytes) : Outcome E (α × Nat) :=
  if data.length < frameLength data then .err truncated
  else do
    let t ← ofWord (wordAt 16 data 0)
    let a ← body data (frameLength data) t
    pure (a, frameLength data)

section TypedElements

variable {E T α : Type} {toWord : T → U16} {ofWord : U16 → Outcome E T} {truncated : E}
  {body : Bytes → Nat → T → Outcome E α} {data : Bytes}

namespace TypeWords

theorem injective (h : TypeWords toWord ofWord) {s t : T} (hst : toWord s = toWord t) : s = t := by
  have hs := h.read s
  rw [hst, h.read t] at hs
  cases hs
  rfl

theorem decodeFramed_of_type (h : TypeWords toWord ofWord)
    (hfits : frameLength data ≤ data.length) {t : T} (ht : wordAt 16 data 0 = toWord t) :
    decodeFramed truncated ofWord body data =
      (body data (frameLength data) t >>= fun a => pure (a, frameLength data)) := by
  rw [decodeFramed, if_neg (Nat.not_lt.mpr hfits), ht, h.read, ok_bind]

/-- An element is accepted when it is whole, of a known type, and with a body that its
    type accepts. -/
theorem decodeFramed_accepts (h : TypeWords toWord ofWord) {P : T → Prop}
    (hbody : frameLength data ≤ data.length → ∀ t, wordAt 16 data 0 = toWord t →
      Accepts (body data (frameLength data) t) (P t)) :
    Accepts (decodeFramed truncated ofWord body data)
      (frameLength data ≤ data.length ∧ ∃ t, wordAt 16 data 0 = toWord t ∧ P t) := by
  by_cases hfits : frameLength data ≤ data.length
  · rcases h.known_or_err (wordAt 16 data 0) with ⟨t, -, ht⟩ | ⟨e, he⟩
    · rw [h.decodeFramed_of_type hfits ht]
      refine ((hbody hfits t ht).bind fun a _ => .ok _).congr ⟨?_, ?_⟩
      · rintro ⟨hP, -⟩
        exact ⟨hfits, t, ht, hP⟩
      · rintro ⟨-, t', ht', hP⟩
        rw [h.injective (ht.symm.trans ht')]
        exact ⟨hP, trivial⟩
    · rw [decodeFramed, if_neg (Nat.not_lt.mpr hfits), he, err_bind]
      refine (Accepts.err e).congr ⟨False.elim, ?_⟩
      rintro ⟨-, t, ht, -⟩
      rw [ht, h.read] at he
      cases he
  · rw [decodeFramed, if_pos (Nat.not_le.mp hfits)]
    refine (Accepts.err truncated).congr ⟨False.elim, ?_⟩
    rintro ⟨hfits', -⟩
    exact hfits hfits'

end TypeWords

theorem decodeFramed_consumed {a : α} {n : Nat}
    (h : decodeFramed truncated ofWord body data = .ok (a, n)) : n = frameLength data := by
  rw [decodeFramed] at h
  split at h
  · cases h
  · obtain ⟨t, -, ht⟩ := bind_eq_ok.mp h
    obtain ⟨a', -, ha⟩ := bind_eq_ok.mp ht
    cases ha
    rfl

end TypedElements

end Rovs
