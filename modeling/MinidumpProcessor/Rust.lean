import Mathlib.Data.BitVec

/-!
Rust's machine integers and what a Rust call can do. An integer type is its bits
(`u64` and `i64` are both `BitVec 64`; the casts between them are the identity on
bits), and a call either returns, returns an `Err` that `?` passes on, or panics.
Subtraction on unsigned integers panics when it would go below zero, as it does in
every build with overflow checks (debug builds, `cargo test`, the fuzzers).
-/

namespace MinidumpProcessor

abbrev U8 := BitVec 8
abbrev U16 := BitVec 16
abbrev U32 := BitVec 32
abbrev U64 := BitVec 64
abbrev I32 := BitVec 32
abbrev I64 := BitVec 64

/-- Why a Rust call panicked. -/
inductive Panic where
  /-- `panic!` or a failed `assert_eq!`, with its message. -/
  | explicit (message : String)
  /-- `-` on an unsigned integer whose exact result is negative. -/
  | subtractOverflow
  /-- A slice range that starts past the slice's end. -/
  | sliceIndex
deriving DecidableEq, Repr

/-- What a Rust call does: returns a value, returns an `Err` (which `?` propagates),
    or panics (which unwinds through every caller). -/
inductive Outcome (ε α : Type) where
  | ok (value : α)
  | err (error : ε)
  | panic (cause : Panic)
deriving DecidableEq, Repr

namespace Outcome
variable {ε α β : Type}

def bind : Outcome ε α → (α → Outcome ε β) → Outcome ε β
  | ok a, f => f a
  | err e, _ => err e
  | panic p, _ => panic p

instance : Monad (Outcome ε) where
  pure := ok
  bind := bind

@[simp] theorem pure_eq (a : α) : (pure a : Outcome ε α) = ok a := rfl
@[simp] theorem ok_bind (a : α) (f : α → Outcome ε β) : (ok a >>= f) = f a := rfl
@[simp] theorem err_bind (e : ε) (f : α → Outcome ε β) : (err e >>= f) = err e := rfl
@[simp] theorem panic_bind (p : Panic) (f : α → Outcome ε β) : (panic p >>= f) = panic p := rfl

theorem bind_eq_ok {x : Outcome ε α} {f : α → Outcome ε β} {b : β} :
    (x >>= f) = ok b ↔ ∃ a, x = ok a ∧ f a = ok b := by
  cases x <;> simp

/-- A panic after `?` is the first call's, or one of the rest once the first returned. -/
theorem bind_eq_panic {x : Outcome ε α} {f : α → Outcome ε β} {p : Panic} :
    (x >>= f) = panic p ↔ x = panic p ∨ ∃ a, x = ok a ∧ f a = panic p := by
  cases x <;> simp

/-- An `Err` after `?` is the first call's, or one of the rest once the first returned. -/
theorem bind_eq_err {x : Outcome ε α} {f : α → Outcome ε β} {e : ε} :
    (x >>= f) = err e ↔ x = err e ∨ ∃ a, x = ok a ∧ f a = err e := by
  cases x <;> simp

/-- `result.map_err(log).ok()`: an `Err` becomes `None`, while a panic still unwinds. -/
def toOption : Outcome ε α → Outcome ε (Option α)
  | ok a => ok (some a)
  | err _ => ok none
  | panic p => panic p

@[simp] theorem toOption_ok (a : α) : (ok a : Outcome ε α).toOption = ok (some a) := rfl
@[simp] theorem toOption_err (e : ε) : (err e : Outcome ε α).toOption = ok none := rfl
@[simp] theorem toOption_panic (p : Panic) : (panic p : Outcome ε α).toOption = panic p := rfl

@[simp] theorem toOption_ne_err {x : Outcome ε α} {e : ε} : x.toOption ≠ err e := by
  cases x <;> simp

theorem toOption_eq_ok_some {x : Outcome ε α} {a : α} : x.toOption = ok (some a) ↔ x = ok a := by
  cases x <;> simp

@[simp] theorem toOption_eq_panic {x : Outcome ε α} {p : Panic} : x.toOption = panic p ↔ x = panic p := by
  cases x <;> simp

theorem toOption_returns {x : Outcome ε α} (returns : ∀ p, x ≠ panic p) : ∃ o, x.toOption = ok o := by
  cases x with
  | ok a => exact ⟨_, rfl⟩
  | err e => exact ⟨_, rfl⟩
  | panic p => exact absurd rfl (returns p)

end Outcome

/-- `a - b` on an unsigned Rust integer. -/
def sub_or_panic {ε : Type} {n : Nat} (a b : BitVec n) : Outcome ε (BitVec n) :=
  if b ≤ a then .ok (a - b) else .panic .subtractOverflow

/-- `a + b` on an unsigned Rust integer, which panics (with the standard library's
    message) when the exact sum leaves the type. -/
def add_or_panic {ε : Type} {n : Nat} (a b : BitVec n) : Outcome ε (BitVec n) :=
  if a.toNat + b.toNat < 2 ^ n then .ok (a + b) else .panic (.explicit "attempt to add with overflow")

/-- `option.unwrap()`. -/
def unwrap {ε α : Type} : Option α → Outcome ε α
  | some a => .ok a
  | none => .panic (.explicit "called `Option::unwrap()` on a `None` value")

/-- `&slice[start..]`, which panics when `start` is past the slice's end. -/
def slice_from {ε α : Type} (slice : List α) (start : Nat) : Outcome ε (List α) :=
  if start ≤ slice.length then .ok (slice.drop start) else .panic .sliceIndex

/-- `&slice[start..end]`, which panics when `start` is past `end` or `end` past the
    slice's end. `&slice[..end]` is `&slice[0..end]`, and `&slice[first..=last]` is
    `&slice[first..last + 1]`: its own panic, for `last = usize::MAX`, cannot arise for
    an index of the slice. -/
def slice_range {ε α : Type} (slice : List α) (start stop : Nat) : Outcome ε (List α) :=
  if start ≤ stop ∧ stop ≤ slice.length then .ok ((slice.take stop).drop start) else .panic .sliceIndex

/-- `a.overflowing_add(b)`: the wrapped sum, and whether the exact sum left the type. -/
def overflowing_add {n : Nat} (a b : BitVec n) : BitVec n × Bool :=
  (a + b, decide (2 ^ n ≤ a.toNat + b.toNat))

theorem sub_or_panic_ok {ε : Type} {n : Nat} {a b : BitVec n} (le : b ≤ a) :
    (sub_or_panic a b : Outcome ε _) = .ok (a - b) := if_pos le

theorem sub_or_panic_lt {ε : Type} {n : Nat} {a b : BitVec n} (lt : a < b) :
    (sub_or_panic a b : Outcome ε _) = .panic .subtractOverflow :=
  if_neg (BitVec.not_le.mpr lt)

/-- The slice between the ends of `pre` and of `mid` is `mid`. -/
theorem slice_range_append {ε α : Type} (pre mid post : List α) :
    (slice_range (pre ++ mid ++ post) pre.length (pre.length + mid.length) : Outcome ε _) = .ok mid := by
  rw [slice_range, if_pos (by simp only [List.length_append]; omega), List.take_left' (List.length_append _ _)]
  exact congrArg _ (List.drop_left _ _)

theorem slice_from_append {ε α : Type} (pre post : List α) :
    (slice_from (pre ++ post) pre.length : Outcome ε _) = .ok post := by
  simp [slice_from]

end MinidumpProcessor
