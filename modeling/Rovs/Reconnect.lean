import Rovs.Bytes
import Rovs.Runs

/-!
# The reconnection state machine (`rovs-transport/src/reconnect.rs`)

The machine keeps the time to wait before the next attempt.  A failure doubles it, but not
beyond the maximum; a connection sets it back to one second.  Only the doubling looks at the
maximum: `connected` and `set_max_backoff` write one of the two without comparing it with the
other, and the doubling itself panics when the seconds do not fit.

`staysBounded_iff` says which runs stay below the maximum, without a panic.
-/

namespace Rovs.Transport

/-! ### Durations -/

/-- `std::time::Duration`: seconds and less than a second of nanoseconds. -/
structure Duration where
  secs : U64
  nanos : U32
  nanos_lt : nanos.toNat < 1000000000
deriving DecidableEq, Repr

namespace Duration

theorem zero_nanos_lt : (0 : U32).toNat < 1000000000 := by decide

def fromSecs (secs : U64) : Duration := ⟨secs, 0, zero_nanos_lt⟩

/-- `Duration::as_nanos`. -/
def asNanos (d : Duration) : Nat := d.secs.toNat * 1000000000 + d.nanos.toNat

/-- The derived order: seconds first, then nanoseconds. -/
instance : LE Duration := ⟨fun a b => a.secs < b.secs ∨ a.secs = b.secs ∧ a.nanos ≤ b.nanos⟩

theorem le_def (a b : Duration) :
    a ≤ b ↔ a.secs < b.secs ∨ a.secs = b.secs ∧ a.nanos ≤ b.nanos := Iff.rfl

theorem le_iff (a b : Duration) :
    a ≤ b ↔ a.secs.toNat < b.secs.toNat ∨
      a.secs.toNat = b.secs.toNat ∧ a.nanos.toNat ≤ b.nanos.toNat := by
  rw [le_def, BitVec.lt_def, BitVec.le_def, BitVec.toNat_eq]

instance : DecidableRel (fun a b : Duration => a ≤ b) :=
  fun a b => decidable_of_iff _ (le_def a b).symm

theorem le_refl (a : Duration) : a ≤ a := .inr ⟨rfl, BitVec.le_refl _⟩

theorem le_trans {a b c : Duration} (hab : a ≤ b) (hbc : b ≤ c) : a ≤ c := by
  simp only [le_iff] at *
  omega

/-- `Ord::min`: the second one only when it is smaller. -/
def min (a b : Duration) : Duration := if a ≤ b then a else b

theorem min_le_right (a b : Duration) : min a b ≤ b := by
  unfold min
  split
  case isTrue h => exact h
  case isFalse => exact le_refl b

theorem le_min {a b c : Duration} (hb : a ≤ b) (hc : a ≤ c) : a ≤ min b c := by
  unfold min
  split
  case isTrue => exact hb
  case isFalse => exact hc

theorem carried_nanos_lt (n : Nat) :
    (BitVec.ofNat 32 (n % 1000000000)).toNat < 1000000000 := by
  rw [BitVec.toNat_ofNat]
  omega

/-- `Duration::checked_mul`: the nanoseconds carry into the seconds. -/
def checkedMul (d : Duration) (rhs : U32) : Option Duration :=
  let totalNanos := d.nanos.toNat * rhs.toNat
  let secs := d.secs.toNat * rhs.toNat + totalNanos / 1000000000
  if secs < 2 ^ 64 then
    some ⟨BitVec.ofNat 64 secs, BitVec.ofNat 32 (totalNanos % 1000000000),
      carried_nanos_lt totalNanos⟩
  else none

theorem checkedMul_two_eq (d : Duration) :
    d.checkedMul 2 =
      if d.secs.toNat * 2 + d.nanos.toNat * 2 / 1000000000 < 2 ^ 64 then
        some ⟨BitVec.ofNat 64 (d.secs.toNat * 2 + d.nanos.toNat * 2 / 1000000000),
          BitVec.ofNat 32 (d.nanos.toNat * 2 % 1000000000), carried_nanos_lt _⟩
      else none := rfl

/-- Doubling fits exactly while the seconds stay below half of their range. -/
theorem checkedMul_two_isSome (d : Duration) :
    (d.checkedMul 2).isSome ↔ d.secs.toNat < 2 ^ 63 := by
  have hnanos := d.nanos_lt
  rw [checkedMul_two_eq]
  split
  case isTrue h =>
    simp only [Option.isSome_some, true_iff]
    omega
  case isFalse h =>
    simp only [Option.isSome_none, Bool.false_eq_true, false_iff]
    omega

theorem le_checkedMul_two {d d' : Duration} (h : d.checkedMul 2 = some d') : d ≤ d' := by
  rw [checkedMul_two_eq] at h
  split at h
  case isTrue hfits =>
    cases h
    simp only [le_iff, BitVec.toNat_ofNat]
    omega
  case isFalse => cases h

end Duration

/-! ### The machine -/

/-- `std::time::Instant`, as nanoseconds of the monotonic clock. -/
abbrev Instant := Nat

inductive State where
  | void
  | backoff
  | connecting
  | active
  | idle
  | reconnecting
deriving DecidableEq, Repr

structure Reconnect where
  state : State
  backoff : Duration
  maxBackoff : Duration
  lastActivity : Option Instant
  lastConnected : Option Instant
deriving DecidableEq, Repr

namespace Reconnect

def new : Reconnect where
  state := .void
  backoff := Duration.fromSecs 1
  maxBackoff := Duration.fromSecs 8
  lastActivity := none
  lastConnected := none

def setMaxBackoff (s : Reconnect) (max : Duration) : Reconnect := { s with maxBackoff := max }

def connecting (s : Reconnect) : Reconnect := { s with state := .connecting }

/-- `connected`; the clock is read twice. -/
def connected (s : Reconnect) (now now' : Instant) : Reconnect :=
  { s with
    state := .active
    lastConnected := some now
    lastActivity := some now'
    backoff := Duration.fromSecs 1 }

def disconnected (s : Reconnect) (now : Instant) : Reconnect :=
  { s with state := .backoff, lastActivity := some now }

def activity (s : Reconnect) (now : Instant) : Reconnect :=
  let s := { s with lastActivity := some now }
  if s.state = .idle then { s with state := .active } else s

/-- `should_connect`, when the clock says `now`. -/
def shouldConnect (s : Reconnect) (now : Instant) : Bool :=
  match s.state with
  | .void => true
  | .backoff =>
    match s.lastActivity with
    | some last => decide (s.backoff.asNanos ≤ now - last)
    | none => true
  | _ => false

def isConnected (s : Reconnect) : Bool := s.state = .active || s.state = .idle

def currentBackoff (s : Reconnect) : Duration := s.backoff

/-- `increase_backoff`; without a result where `Duration * 2` panics. -/
def increaseBackoff (s : Reconnect) : Option Reconnect := do
  let doubled ← s.backoff.checkedMul 2
  pure { s with backoff := doubled.min s.maxBackoff }

/-- The calls that change the machine. -/
inductive Call where
  | setMaxBackoff (max : Duration)
  | connecting
  | connected (now now' : Instant)
  | disconnected (now : Instant)
  | activity (now : Instant)
  | increaseBackoff
deriving DecidableEq, Repr

def step (s : Reconnect) : Call → Option Reconnect
  | .setMaxBackoff max => some (s.setMaxBackoff max)
  | .connecting => some s.connecting
  | .connected now now' => some (s.connected now now')
  | .disconnected now => some (s.disconnected now)
  | .activity now => some (s.activity now)
  | .increaseBackoff => s.increaseBackoff

/-- The state after some calls; `none` when one of them panics. -/
def run (s : Reconnect) (calls : List Call) : Option Reconnect := calls.foldlM step s

@[simp] theorem run_nil (s : Reconnect) : s.run [] = some s := rfl

theorem run_cons (s : Reconnect) (call : Call) (calls : List Call) :
    s.run (call :: calls) = (s.step call).bind fun s' => s'.run calls := rfl

theorem run_append (s : Reconnect) (before after : List Call) :
    s.run (before ++ after) = (s.run before).bind fun s' => s'.run after := by
  rw [run, List.foldlM_append]
  rfl

theorem run_singleton (s : Reconnect) (call : Call) : s.run [call] = s.step call := by
  rw [run_cons]
  cases s.step call with
  | none => rfl
  | some s' => rfl

/-! ### The states of a run -/

/-- Two of the states are never entered, and a machine that waits knows since when. -/
structure Visited (s : Reconnect) : Prop where
  ne_idle : s.state ≠ .idle
  ne_reconnecting : s.state ≠ .reconnecting
  lastActivity : s.state = .backoff → s.lastActivity.isSome

theorem increaseBackoff_eq_some {s s' : Reconnect} :
    s.increaseBackoff = some s' ↔
      ∃ d, s.backoff.checkedMul 2 = some d ∧ s' = { s with backoff := d.min s.maxBackoff } := by
  simp only [increaseBackoff, Option.bind_eq_bind, Option.bind_eq_some_iff, Option.pure_def,
    Option.some.injEq, @eq_comm _ s']

theorem Visited.step {s s' : Reconnect} (call : Call) (hs : s.Visited)
    (h : s.step call = some s') : s'.Visited := by
  cases call with
  | setMaxBackoff max =>
    cases h
    exact ⟨hs.ne_idle, hs.ne_reconnecting, hs.lastActivity⟩
  | connecting =>
    cases h
    exact ⟨State.noConfusion, State.noConfusion, State.noConfusion⟩
  | connected now now' =>
    cases h
    exact ⟨State.noConfusion, State.noConfusion, State.noConfusion⟩
  | disconnected now =>
    cases h
    exact ⟨State.noConfusion, State.noConfusion, fun _ => rfl⟩
  | activity now =>
    cases h
    rw [activity, if_neg hs.ne_idle]
    exact ⟨hs.ne_idle, hs.ne_reconnecting, fun _ => rfl⟩
  | increaseBackoff =>
    obtain ⟨d, -, rfl⟩ := increaseBackoff_eq_some.mp h
    exact ⟨hs.ne_idle, hs.ne_reconnecting, hs.lastActivity⟩

theorem visited_of_reaches {s : Reconnect} (hs : Reaches Reconnect.step new s) : s.Visited := by
  apply hs.invariant
  case hstart => exact ⟨State.noConfusion, State.noConfusion, State.noConfusion⟩
  case hstep =>
    intro s s' call hvisited h
    exact hvisited.step call h

/-- A machine that waits asks for a connection once its backoff has passed, and in no reachable
    state without a time to count from. -/
theorem shouldConnect_iff {s : Reconnect} (hs : Reaches Reconnect.step new s)
    (hstate : s.state = .backoff) (now : Instant) :
    s.shouldConnect now ↔ ∃ last, s.lastActivity = some last ∧ s.backoff.asNanos ≤ now - last := by
  obtain ⟨last, hlast⟩ := Option.isSome_iff_exists.mp ((visited_of_reaches hs).lastActivity hstate)
  simp [shouldConnect, hstate, hlast]

/-! ### What a call keeps -/

/-- The bound that `increase_backoff` keeps. -/
def Bounded (s : Reconnect) : Prop := s.currentBackoff ≤ s.maxBackoff

/-- The calls that do not leave the bound: a maximum not below the backoff, a connection under
    a maximum of at least one second, a backoff that can be doubled. -/
def Sound (s : Reconnect) : Call → Prop
  | .setMaxBackoff max => s.backoff ≤ max
  | .connected _ _ => Duration.fromSecs 1 ≤ s.maxBackoff
  | .increaseBackoff => s.backoff.secs.toNat < 2 ^ 63
  | _ => True

/-- The call is not `connected`. -/
def Call.isFailure : Call → Bool
  | .connected _ _ => false
  | _ => true

@[simp] theorem activity_backoff (s : Reconnect) (now : Instant) :
    (s.activity now).backoff = s.backoff := by
  unfold activity
  simp only
  split <;> rfl

@[simp] theorem activity_maxBackoff (s : Reconnect) (now : Instant) :
    (s.activity now).maxBackoff = s.maxBackoff := by
  unfold activity
  simp only
  split <;> rfl

/-- In a bounded state a call returns and keeps the bound exactly if it is sound. -/
theorem sound_iff {s : Reconnect} (hs : s.Bounded) (call : Call) :
    s.Sound call ↔ ∃ s', s.step call = some s' ∧ s'.Bounded := by
  cases call with
  | setMaxBackoff max => simp [step, Sound, Bounded, setMaxBackoff, currentBackoff]
  | connecting => simpa [step, Sound, Bounded, connecting, currentBackoff] using hs
  | connected now now' => simp [step, Sound, Bounded, connected, currentBackoff]
  | disconnected now => simpa [step, Sound, Bounded, disconnected, currentBackoff] using hs
  | activity now => simpa [step, Sound, Bounded, currentBackoff] using hs
  | increaseBackoff =>
    simp only [Sound, ← Duration.checkedMul_two_isSome, step, increaseBackoff_eq_some,
      Option.isSome_iff_exists]
    constructor
    case mp =>
      rintro ⟨d, hd⟩
      exact ⟨_, ⟨d, hd, rfl⟩, Duration.min_le_right d s.maxBackoff⟩
    case mpr =>
      rintro ⟨s', ⟨d, hd, -⟩, -⟩
      exact ⟨d, hd⟩

/-- No call but `connected` makes the backoff of a bounded state smaller. -/
theorem backoff_le_step {s s' : Reconnect} {call : Call} (hs : s.Bounded)
    (hcall : call.isFailure) (h : s.step call = some s') :
    s.currentBackoff ≤ s'.currentBackoff := by
  cases call with
  | connected now now' => cases hcall
  | increaseBackoff =>
    obtain ⟨d, hd, rfl⟩ := increaseBackoff_eq_some.mp h
    exact Duration.le_min (Duration.le_checkedMul_two hd) hs
  | activity now =>
    cases h
    simp only [currentBackoff, activity_backoff]
    exact Duration.le_refl _
  | setMaxBackoff max =>
    cases h
    exact Duration.le_refl _
  | connecting =>
    cases h
    exact Duration.le_refl _
  | disconnected now =>
    cases h
    exact Duration.le_refl _

/-! ### What a run keeps -/

/-- Every call of the run is sound in the state that it finds. -/
def SoundRun (calls : List Call) : Prop :=
  ∀ before call after s, calls = before ++ call :: after → new.run before = some s → s.Sound call

/-- The run does not panic, every state of it is bounded, and between two states of it with no
    connection between them the backoff does not decrease. -/
structure StaysBounded (calls : List Call) : Prop where
  noOverflow : (new.run calls).isSome
  bounded : ∀ before after s, calls = before ++ after → new.run before = some s → s.Bounded
  monotone : ∀ before failures after s s', calls = before ++ failures ++ after →
    (∀ call ∈ failures, call.isFailure) → new.run before = some s → s.run failures = some s' →
    s.currentBackoff ≤ s'.currentBackoff

theorem new_bounded : new.Bounded := by
  unfold Bounded
  decide

/-- A sound run reaches a bounded state after each of its calls. -/
theorem SoundRun.reaches {calls : List Call} (h : SoundRun calls) (before after : List Call)
    (hcalls : calls = before ++ after) : ∃ s, new.run before = some s ∧ s.Bounded := by
  induction before using List.reverseRecOn generalizing after with
  | nil => exact ⟨new, rfl, new_bounded⟩
  | append_singleton before call ih =>
    rw [List.append_assoc] at hcalls
    obtain ⟨s, hs, hbounded⟩ := ih _ hcalls
    obtain ⟨s', hs', hbounded'⟩ := (sound_iff hbounded call).mp (h _ _ _ s hcalls hs)
    refine ⟨s', ?_, hbounded'⟩
    rw [run_append, hs, Option.bind_some, run_singleton]
    exact hs'

theorem SoundRun.monotone {calls : List Call} (h : SoundRun calls)
    (before failures after : List Call) {s s' : Reconnect}
    (hcalls : calls = before ++ failures ++ after) (hfailures : ∀ call ∈ failures, call.isFailure)
    (hs : new.run before = some s) (hs' : s.run failures = some s') :
    s.currentBackoff ≤ s'.currentBackoff := by
  induction failures generalizing before s with
  | nil =>
    cases hs'
    exact Duration.le_refl _
  | cons call failures ih =>
    have hsplit : calls = before ++ (call :: failures ++ after) := by
      rw [hcalls, List.append_assoc]
    obtain ⟨_, hs₀, hbounded⟩ := h.reaches _ _ hsplit
    cases hs.symm.trans hs₀
    obtain ⟨s₁, hstep, hrest⟩ := Option.bind_eq_some_iff.mp hs'
    have hfirst := backoff_le_step hbounded (hfailures call List.mem_cons_self) hstep
    have hreach : new.run (before ++ [call]) = some s₁ := by
      rw [run_append, hs, Option.bind_some, run_singleton]
      exact hstep
    have hlater := ih (before ++ [call]) (by rw [hcalls]; simp)
      (fun c hc => hfailures c (List.mem_cons_of_mem _ hc)) hreach hrest
    exact Duration.le_trans hfirst hlater

/-- **A run stays bounded exactly if each of its calls is sound.**  A call is unsound if it lowers
    the maximum below the backoff that has been reached, or if doubling the backoff leaves the range
    of a duration. -/
theorem staysBounded_iff (calls : List Call) : StaysBounded calls ↔ SoundRun calls := by
  constructor
  case mp =>
    intro h before call after s hcalls hs
    have hnext : calls = before ++ [call] ++ after := by rw [hcalls]; simp
    have hrun := h.noOverflow
    rw [hnext, run_append, run_append, hs, Option.bind_some, run_singleton] at hrun
    cases hstep : s.step call with
    | none =>
      rw [hstep] at hrun
      cases hrun
    | some s' =>
      apply (sound_iff (h.bounded before _ s hcalls hs) call).mpr
      refine ⟨s', hstep, h.bounded (before ++ [call]) after s' hnext ?_⟩
      rw [run_append, hs, Option.bind_some, run_singleton]
      exact hstep
  case mpr =>
    intro h
    constructor
    case noOverflow =>
      obtain ⟨s, hs, -⟩ := h.reaches calls [] (by simp)
      rw [hs]
      rfl
    case bounded =>
      intro before after s hcalls hs
      obtain ⟨_, hs', hbounded⟩ := h.reaches before after hcalls
      cases hs.symm.trans hs'
      exact hbounded
    case monotone =>
      intro before failures after s s' hcalls hfailures hs hs'
      exact h.monotone before failures after hcalls hfailures hs hs'

/-- Four seconds of backoff stay when the maximum is lowered to two. -/
theorem not_staysBounded_lowered : ¬ ∀ calls, StaysBounded calls := by
  intro h
  have hbounded := (h [.increaseBackoff, .increaseBackoff, .setMaxBackoff (.fromSecs 2)]).bounded
    [.increaseBackoff, .increaseBackoff, .setMaxBackoff (.fromSecs 2)] []
    { new with backoff := .fromSecs 4, maxBackoff := .fromSecs 2 } rfl (by decide)
  revert hbounded
  unfold Bounded
  decide

end Reconnect

end Rovs.Transport
