import Mathlib

/-! The parts of `cosmwasm_std` the contracts compute with: 128-bit amounts whose
arithmetic aborts instead of wrapping, and rates with 18 fixed decimal places. A Rust
panic aborts the whole call, so it is an error of the call here. -/
namespace LidoCosmos

/-- `cosmwasm_std::Uint128`. -/
structure Uint128 where
  val : Nat
  isLt : val < 2 ^ 128
deriving DecidableEq, Repr

/-- A failed call: a `StdError`, or a panic, which aborts the call the same way. -/
inductive StdError where
  | genericErr (msg : String)
  | overflow (operand1 operand2 : Uint128)
  | panic (msg : String)
deriving DecidableEq, Repr

section Except
variable {ε α β : Type}

@[simp] theorem ok_bind (a : α) (f : α → Except ε β) : (Except.ok a >>= f) = f a := rfl

@[simp] theorem error_bind (e : ε) (f : α → Except ε β) :
    (Except.error e >>= f) = Except.error e := rfl

@[simp] theorem pure_eq_ok (a : α) : (pure a : Except ε α) = Except.ok a := rfl

theorem bind_eq_ok {x : Except ε α} {f : α → Except ε β} {b : β} :
    x >>= f = .ok b ↔ ∃ a, x = .ok a ∧ f a = .ok b := by
  cases x <;> simp

end Except

namespace Uint128

@[ext] theorem ext {a b : Uint128} (h : a.val = b.val) : a = b := by
  cases a; cases b; cases h; rfl

def zero : Uint128 := ⟨0, by decide⟩

@[simp] theorem zero_val : zero.val = 0 := rfl

def isZero (a : Uint128) : Bool := a.val == 0

@[simp] theorem isZero_eq_true {a : Uint128} : a.isZero = true ↔ a.val = 0 := by
  simp [isZero]

/-- `Uint128 + Uint128`, which panics on overflow. -/
def add (a b : Uint128) : Except StdError Uint128 :=
  if h : a.val + b.val < 2 ^ 128 then .ok ⟨a.val + b.val, h⟩
  else .error (.panic "attempt to add with overflow")

/-- `Uint128::checked_sub`. -/
def checkedSub (a b : Uint128) : Except StdError Uint128 :=
  if h : b.val ≤ a.val then .ok ⟨a.val - b.val, by have := a.isLt; omega⟩
  else .error (.overflow a b)

/-- `Uint128::multiply_ratio`: `a * numerator / denominator` rounded down, computed
without intermediate overflow; only a result past 128 bits panics. -/
def multiplyRatio (a : Uint128) (numerator denominator : Nat) : Except StdError Uint128 :=
  if denominator = 0 then .error (.panic "Denominator must not be zero")
  else if h : a.val * numerator / denominator < 2 ^ 128 then .ok ⟨_, h⟩
  else .error (.panic "multiplication overflow")

theorem add_eq_ok {a b c : Uint128} : a.add b = .ok c ↔ c.val = a.val + b.val := by
  unfold add
  constructor
  · intro h
    split at h
    · cases h; rfl
    · cases h
  · intro h
    rw [dif_pos (h ▸ c.isLt)]
    exact congrArg Except.ok (ext h.symm)

theorem add_eq_error {a b : Uint128} (h : 2 ^ 128 ≤ a.val + b.val) :
    a.add b = .error (.panic "attempt to add with overflow") := by
  rw [add, dif_neg (Nat.not_lt.mpr h)]

theorem checkedSub_eq_ok {a b c : Uint128} :
    a.checkedSub b = .ok c ↔ b.val ≤ a.val ∧ c.val = a.val - b.val := by
  unfold checkedSub
  constructor
  · intro h
    split at h
    · cases h; exact ⟨by assumption, rfl⟩
    · cases h
  · rintro ⟨hle, h⟩
    rw [dif_pos hle]
    exact congrArg Except.ok (ext h.symm)

theorem checkedSub_eq_error {a b : Uint128} (h : a.val < b.val) :
    a.checkedSub b = .error (.overflow a b) := by
  rw [checkedSub, dif_neg (Nat.not_le.mpr h)]

theorem multiplyRatio_eq_ok {a c : Uint128} {n d : Nat} :
    a.multiplyRatio n d = .ok c ↔ 0 < d ∧ c.val = a.val * n / d := by
  unfold multiplyRatio
  constructor
  · intro h
    split at h
    · cases h
    · split at h
      · cases h; exact ⟨by omega, rfl⟩
      · cases h
  · rintro ⟨hd, h⟩
    rw [if_neg (by omega), dif_pos (h ▸ c.isLt)]
    exact congrArg Except.ok (ext h.symm)

/-- `Ord for Uint128`, through `std::cmp::min`. -/
instance : Min Uint128 := ⟨fun a b => if a.val ≤ b.val then a else b⟩

@[simp] theorem min_val (a b : Uint128) : (min a b).val = min a.val b.val := by
  show (if a.val ≤ b.val then a else b).val = _
  split <;> omega

theorem min_eq_left {a b : Uint128} (h : a.val ≤ b.val) : min a b = a := ext (by simp; omega)

theorem min_eq_right {a b : Uint128} (h : b.val ≤ a.val) : min a b = b := ext (by simp; omega)

def toString (a : Uint128) : String := String.mk (Nat.toDigits 10 a.val)

end Uint128

/-- `cosmwasm_std::Decimal`: the rate `atomics / 10^18`. -/
structure Decimal where
  atomics : Uint128
deriving DecidableEq, Repr

namespace Decimal

@[ext] theorem ext {a b : Decimal} (h : a.atomics = b.atomics) : a = b := by
  cases a; cases h; rfl

/-- `DECIMAL_FRACTIONAL`. -/
def fractional : Nat := 10 ^ 18

def one : Decimal := ⟨⟨fractional, by decide⟩⟩

@[simp] theorem one_atomics : one.atomics.val = 10 ^ 18 := rfl

instance : LE Decimal := ⟨fun a b => a.atomics.val ≤ b.atomics.val⟩

instance : DecidableRel (α := Decimal) (· ≤ ·) := fun a b =>
  inferInstanceAs (Decidable (a.atomics.val ≤ b.atomics.val))

theorem le_def {a b : Decimal} : a ≤ b ↔ a.atomics.val ≤ b.atomics.val := Iff.rfl

/-- `Decimal::from_ratio`: `numerator / denominator` rounded down to 18 places. -/
def fromRatio (numerator denominator : Uint128) : Except StdError Decimal :=
  numerator.multiplyRatio fractional denominator.val >>= fun atomics => .ok ⟨atomics⟩

theorem fromRatio_eq_ok {a b : Uint128} {r : Decimal} :
    fromRatio a b = .ok r ↔ 0 < b.val ∧ r.atomics.val = a.val * 10 ^ 18 / b.val := by
  cases r
  simp [fromRatio, bind_eq_ok, Uint128.multiplyRatio_eq_ok, fractional]

/-- `Display for Decimal`: the whole part, then the fraction without trailing zeros. -/
def toString (d : Decimal) : String :=
  let whole := d.atomics.val / fractional
  let frac := d.atomics.val % fractional
  if frac = 0 then String.mk (Nat.toDigits 10 whole)
  else
    let digits := Nat.toDigits 10 frac
    let padded := List.replicate (18 - digits.length) '0' ++ digits
    String.mk (Nat.toDigits 10 whole ++ '.' :: (padded.reverse.dropWhile (· = '0')).reverse)

example : toString ⟨⟨9 * 10 ^ 17, by decide⟩⟩ = "0.9" := by decide

end Decimal

/-- `Uint128 * Decimal`, rounded down. The library returns zero early when either side is
zero, which `multiply_ratio` would also give. -/
def Uint128.mulDecimal (a : Uint128) (d : Decimal) : Except StdError Uint128 :=
  a.multiplyRatio d.atomics.val Decimal.fractional

theorem Uint128.mulDecimal_eq_ok {a c : Uint128} {d : Decimal} :
    a.mulDecimal d = .ok c ↔ c.val = a.val * d.atomics.val / 10 ^ 18 := by
  simp [mulDecimal, multiplyRatio_eq_ok, Decimal.fractional]

end LidoCosmos
