/-
Finite double precision numbers in exact arithmetic.

A finite number of the binary64 format is a sign and a rank.  The ranks count the magnitudes
upwards from zero: rank 0 is zero, rank 1 the least positive number, and the rank after that of a
number belongs to the next larger one.  The rank is also what the format stores below its sign
bit.  Every finite number is a whole multiple of the least positive one, 2⁻¹⁰⁷⁴; `units` says
which, and every operation here is an operation on such whole numbers, rounded once at its end.
-/
namespace NetDraft

/-- The rank of the number after the largest finite one. -/
def Binary64.rankLimit : Nat := 2047 * Nat.pow 2 52

/-- A finite number of the binary64 format. -/
structure Binary64 where
  /-- Whether the sign is minus; zero has both signs. -/
  negative : Bool
  /-- How many smaller magnitudes there are. -/
  rank : Nat
  /-- Infinity and the values beyond it are no finite numbers. -/
  rank_lt : rank < Binary64.rankLimit
deriving DecidableEq

namespace Binary64

/-- The magnitude of a rank, counted in the least positive number. -/
def unitsOfRank (r : Nat) : Nat :=
  let fraction := r % Nat.pow 2 52
  match r / Nat.pow 2 52 with
  | 0 => fraction
  | e + 1 => (Nat.pow 2 52 + fraction) * Nat.pow 2 e

/-- The magnitude of a number, counted in the least positive one. -/
def units (x : Binary64) : Nat := unitsOfRank x.rank

/-- How many of the least positive number make one. -/
def unit : Nat := Nat.pow 2 1074

/-! ### Rounding

A quotient is rounded by cutting it at the last bit that the format keeps at its size, and taking
the nearer neighbour, the even one if both are equally near.  The cut is at bit `k` of the
quotient counted in units: none below 2⁵³ units, where the format keeps every unit, and one more
for each doubling above.  A result that rounds up across a power of two lands on the right rank by
itself, because ranks run on across it.
-/

/-- The whole number nearest to `num / den`, the even one of two. -/
def nearestWhole (num den : Nat) : Nat :=
  let q := num / den
  let r := num % den
  if 2 * r < den then q
  else if den < 2 * r then q + 1
  else q + q % 2

/-- The rank of the magnitude nearest to `num / den`, the even one of two.

Magnitudes beyond the largest finite one get ranks of `rankLimit` and more. -/
def nearestRank (num den : Nat) : Nat :=
  let k := (num * unit / den).log2 - 52
  k * Nat.pow 2 52 + nearestWhole (num * unit) (den * Nat.pow 2 k)

/-- The number nearest to `num / den` with the given sign, unless it is infinite. -/
def ofRatio? (negative : Bool) (num den : Nat) : Option Binary64 :=
  let r := nearestRank num den
  if h : r < rankLimit then some ⟨negative, r, h⟩ else none

/-- Zero with the given sign. -/
def zero (negative : Bool) : Binary64 := ⟨negative, 0, by decide⟩

/-- Whether the number is zero, of either sign. -/
def isZero (x : Binary64) : Bool := x.rank == 0

/-- The number with its sign turned. -/
def neg (x : Binary64) : Binary64 := { x with negative := !x.negative }

/-- The rounded product, unless it is infinite. -/
def mul? (x y : Binary64) : Option Binary64 :=
  ofRatio? (x.negative != y.negative) (x.units * y.units) (unit * unit)

/-- The rounded quotient by a number that is not zero, unless it is infinite. -/
def div? (x y : Binary64) : Option Binary64 :=
  ofRatio? (x.negative != y.negative) x.units y.units

/-- The number nearest to a power of ten, unless it is infinite. -/
def powerOfTen? (k : Nat) : Option Binary64 := ofRatio? false (Nat.pow 10 k) 1

/-- Whether two numbers are equal in value: the zeros of both signs are. -/
def sameValue (x y : Binary64) : Bool :=
  x.rank == y.rank && (x.negative == y.negative || x.rank == 0)

end Binary64

/-- A number of the binary64 format, finite or not. -/
inductive Extended64 where
  | finite (x : Binary64)
  | infinite (negative : Bool)
  | notANumber
deriving DecidableEq

/-- The number nearest to `num / den` with the given sign. -/
def Extended64.ofRatio (negative : Bool) (num den : Nat) : Extended64 :=
  (Binary64.ofRatio? negative num den).elim (.infinite negative) .finite

end NetDraft
