import Rovs.Bytes

/-!
# OpenFlow errors (`rovs-openflow/src/error.rs`)

The errors that decoding and the connection loops return, and the parser of the
switch's own error messages.  `Result` is the outcome of a function whose source
returns `crate::Result`.  A sum of machine integers is an outcome too: it panics
in a build with overflow checks.
-/

namespace Rovs.OpenFlow

inductive OfErrorType where
  | helloFailed
  | badRequest
  | badAction
  | badInstruction
  | badMatch
  | flowModFailed
  | groupModFailed
  | portModFailed
  | tableModFailed
  | meterModFailed
  | tableFeaturesFailed
  | unknown (v : U16)
deriving DecidableEq, Repr

def OfErrorType.ofU16 (v : U16) : OfErrorType :=
  match v.toNat with
  | 0 => .helloFailed
  | 1 => .badRequest
  | 2 => .badAction
  | 3 => .badInstruction
  | 4 => .badMatch
  | 5 => .flowModFailed
  | 6 => .groupModFailed
  | 7 => .portModFailed
  | 8 => .tableModFailed
  | 12 => .meterModFailed
  | 13 => .tableFeaturesFailed
  | _ => .unknown v

structure OfError where
  errorType : OfErrorType
  code : U16
  data : Bytes
deriving DecidableEq, Repr

inductive Error where
  | unsupportedVersion (v : U8)
  | parse (what : String)
  | invalidMessage (what : String)
  | ofError (e : OfError)
deriving DecidableEq, Repr

abbrev Result (α : Type) := Outcome Error α

/-- `Err(crate::Error::Parse(..))`. -/
def parseError {α : Type} (what : String) : Result α := .err (.parse what)

@[simp] theorem parseError_returns {α : Type} (what : String) :
    (parseError what : Result α).Returns := trivial

@[simp] theorem parseError_bind {α β : Type} (what : String) (f : α → Result β) :
    (parseError what >>= f) = parseError what := rfl

@[simp] theorem parseError_ne_ok {α : Type} (what : String) (a : α) :
    parseError what ≠ .ok a := nofun

def OfError.parse (body : Bytes) : Result OfError :=
  if body.length < 4 then parseError "error message too short"
  else do
    let errorType ← beAt 16 body 0
    let code ← beAt 16 body 2
    -- `body.get(4..).unwrap_or(&[])`
    pure ⟨OfErrorType.ofU16 errorType, code, body.drop 4⟩

theorem OfError.parse_returns (body : Bytes) : (OfError.parse body).Returns := by
  unfold OfError.parse
  split
  · trivial
  · next h =>
    have hlen : 4 ≤ body.length := by omega
    simp only [Outcome.returns_bind, beAt_returns, Outcome.pure_eq, Outcome.returns_ok]
    exact ⟨by omega, fun _ _ => ⟨by omega, fun _ _ => trivial⟩⟩

/-- `{:#x}`: a number in hexadecimal with its prefix. -/
def hex (n : Nat) : String := "0x" ++ String.ofList (Nat.toDigits 16 n)

/-! ### Sums of a build -/

/-- `a + b` in a build with or without overflow checks. -/
def addIn {w : Nat} (checks : Bool) (a b : BitVec w) : Result (BitVec w) :=
  if checks ∧ 2 ^ w ≤ a.toNat + b.toNat then .panic else pure (a + b)

theorem addIn_ok {w : Nat} {a b : BitVec w} (h : a.toNat + b.toNat < 2 ^ w) (checks : Bool) :
    addIn checks a b = .ok (a + b) :=
  if_neg fun hover => Nat.not_le.mpr h hover.2

theorem addIn_checked {w : Nat} {a b c : BitVec w} (h : addIn true a b = .ok c) :
    a.toNat + b.toNat < 2 ^ w := by
  by_contra hover
  have hpanic : addIn true a b = .panic := if_pos ⟨rfl, Nat.not_lt.mp hover⟩
  rw [hpanic] at h
  cases h

end Rovs.OpenFlow
