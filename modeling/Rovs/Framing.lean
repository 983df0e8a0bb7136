import Mathlib.Data.List.Basic

/-!
# Frames in a stream of chunks

A reader takes frames from a stream that comes in chunks.  What it has read and not yet
used stands in a buffer; when the buffer holds no whole frame, the reader appends the
next chunk and looks again.  If a frame that was found stays where it is when more comes
behind it, then what the reader finds depends only on the bytes that are still unread,
and not on where the stream was cut into chunks.
-/

namespace Rovs

/-- A buffer in front of the chunks that the next reads return. -/
structure Reader (β : Type) where
  buf : List β
  chunks : List (List β)

namespace Reader

variable {β γ : Type}

/-- Everything that has not been used yet. -/
def unread (r : Reader β) : List β := r.buf ++ r.chunks.flatten

/-- No read returns an empty chunk before the end of the stream. -/
def Flowing (r : Reader β) : Prop := ∀ chunk ∈ r.chunks, chunk ≠ []

instance [DecidableEq β] (r : Reader β) : Decidable r.Flowing :=
  inferInstanceAs (Decidable (∀ chunk ∈ r.chunks, chunk ≠ []))

/-- What is found in a buffer is found there too when more comes behind it. -/
def Stable (find : List β → Option γ) : Prop :=
  ∀ buf more x, find buf = some x → find (buf ++ more) = some x

/-- Reads until something is found in the buffer or the stream is at its end, which an
    empty chunk reports. -/
def fill (find : List β → Option γ) (buf : List β) : List (List β) → Option γ × Reader β
  | [] => (find buf, ⟨buf, []⟩)
  | chunk :: chunks =>
    match find buf with
    | some x => (some x, ⟨buf, chunk :: chunks⟩)
    | none =>
      if chunk.isEmpty then (none, ⟨buf, chunks⟩)
      else fill find (buf ++ chunk) chunks

section Fill

variable {find : List β → Option γ}

/-- **What a reader finds is what is found in everything unread; nothing is lost, and
    the find stands whole in the buffer.** -/
theorem fill_spec (hstable : Stable find) {buf : List β} {chunks : List (List β)}
    (hflow : Flowing ⟨buf, chunks⟩) :
    (fill find buf chunks).1 = find (buf ++ chunks.flatten) ∧
      (fill find buf chunks).2.unread = buf ++ chunks.flatten ∧
      (fill find buf chunks).2.Flowing ∧
      find (fill find buf chunks).2.buf = (fill find buf chunks).1 := by
  induction chunks generalizing buf with
  | nil =>
    refine ⟨?_, rfl, hflow, rfl⟩
    rw [List.flatten_nil, List.append_nil]
    rfl
  | cons chunk chunks ih =>
    cases hfind : find buf with
    | some x =>
      have hall := hstable buf (chunk :: chunks).flatten x hfind
      simp only [fill, hfind, hall]
      exact ⟨trivial, rfl, hflow, trivial⟩
    | none =>
      have hchunk : chunk.isEmpty = false := by
        rw [List.isEmpty_eq_false_iff]
        exact hflow chunk List.mem_cons_self
      have hrest : Flowing ⟨buf ++ chunk, chunks⟩ :=
        fun c hc => hflow c (List.mem_cons_of_mem _ hc)
      have hfill : fill find buf (chunk :: chunks) = fill find (buf ++ chunk) chunks := by
        simp [fill, hfind, hchunk]
      rw [hfill, List.flatten_cons, ← List.append_assoc]
      exact ih hrest

end Fill

end Reader

end Rovs
