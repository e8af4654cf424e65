import Mathlib.Data.Rat.Floor
import Mathlib.Algebra.Order.Field.Rat

/-!
# Exact model of floating-point values

A value is a rational, one of the two infinities, or NaN.  Arithmetic is exact on the
rationals and follows the IEEE rules elsewhere: NaN is absorbing, opposite infinities
cancel to NaN, and so does zero times an infinity.  Every comparison with NaN is false.
Rounding and the sign of zero are not modelled.
-/

namespace K2soHead

/-- A floating-point value without rounding. -/
inductive ExtRat where
  | fin (q : ℚ)
  | inf (negative : Bool)
  | nan
  deriving DecidableEq

namespace ExtRat

instance : Coe ℚ ExtRat := ⟨fin⟩

def neg : ExtRat → ExtRat
  | fin q => fin (-q)
  | inf s => inf (!s)
  | nan => nan

def add : ExtRat → ExtRat → ExtRat
  | nan, _ => nan
  | _, nan => nan
  | inf s, inf t => if s = t then inf s else nan
  | inf s, fin _ => inf s
  | fin _, inf t => inf t
  | fin p, fin q => fin (p + q)

/-- Product of an infinity of sign `s` with a rational. -/
def infMul (s : Bool) (q : ℚ) : ExtRat :=
  if q = 0 then nan else inf (xor s (decide (q < 0)))

def mul : ExtRat → ExtRat → ExtRat
  | nan, _ => nan
  | _, nan => nan
  | inf s, inf t => inf (xor s t)
  | inf s, fin q => infMul s q
  | fin p, inf t => infMul t p
  | fin p, fin q => fin (p * q)

/-- The IEEE `<`, false as soon as one side is NaN. -/
def lt : ExtRat → ExtRat → Bool
  | nan, _ => false
  | _, nan => false
  | inf s, inf t => s && !t
  | inf s, fin _ => s
  | fin _, inf t => !t
  | fin p, fin q => decide (p < q)

instance : Neg ExtRat := ⟨neg⟩
instance : Add ExtRat := ⟨add⟩
instance : Sub ExtRat := ⟨fun x y => x + -y⟩
instance : Mul ExtRat := ⟨mul⟩

/-- Conversion to an unsigned 16-bit integer: truncation toward zero, undefined outside
the range of the target type. -/
def toUInt16? : ExtRat → Option UInt16
  | fin q =>
      let n := q.num.tdiv q.den
      if 0 ≤ n ∧ n < 65536 then some (UInt16.ofNat n.toNat) else none
  | _ => none

end ExtRat

end K2soHead
