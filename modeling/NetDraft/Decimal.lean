/-
Decimal numerals and the binary64 numbers nearest to them.

`Decimal.nearest` is correctly rounded for numerals of every length and exponent.  Numerals far
outside the range of the format are settled by their size alone, so that no power of ten with an
absurd exponent is ever built.
-/
import NetDraft.Binary64

namespace NetDraft

/-- The decimal number `digits · 10 ^ exponent`. -/
structure Decimal where
  digits : Nat
  exponent : Int
deriving DecidableEq, Repr

namespace Decimal

/-- The number as a numerator and a denominator that is not zero. -/
def ratio (d : Decimal) : Nat × Nat :=
  if 0 ≤ d.exponent then (d.digits * Nat.pow 10 d.exponent.toNat, 1)
  else (d.digits, Nat.pow 10 (-d.exponent).toNat)

/-- The rank of the magnitude nearest to the number. -/
def rank (d : Decimal) : Nat := Binary64.nearestRank d.ratio.1 d.ratio.2

/-- How many decimal places the number has in front of its point, if positive, or how many zeros
behind it, if negative. -/
def magnitude (d : Decimal) : Int := (Nat.toDigits 10 d.digits).length + d.exponent

/-- The binary64 number nearest to the decimal number with the given sign. -/
def nearest (negative : Bool) (d : Decimal) : Extended64 :=
  if d.digits = 0 ∨ d.magnitude < -400 then .finite (.zero negative)
  else if 400 < d.magnitude then .infinite negative
  else .ofRatio negative d.ratio.1 d.ratio.2

/-! ### Reading numerals -/

/-- A minus or plus sign in front of a text, and the text behind it. -/
def splitSign : List Char → Bool × List Char
  | '-' :: rest => (true, rest)
  | '+' :: rest => (false, rest)
  | rest => (false, rest)

/-- The exponent part `e`, sign and digits that ends a numeral, or nothing at all. -/
def exponentOf? : List Char → Option Int
  | [] => some 0
  | c :: rest =>
    if c = 'e' ∨ c = 'E' then
      let (negative, digits) := splitSign rest
      if digits ≠ [] ∧ digits.all Char.isDigit then
        let n : Int := Nat.ofDigitChars 10 digits 0
        some (if negative then -n else n)
      else none
    else none

/-- Reads an unsigned numeral: digits with at most one point among or around them, then an
optional exponent. -/
def ofChars? (cs : List Char) : Option Decimal := do
  let whole := cs.takeWhile Char.isDigit
  let afterWhole := cs.dropWhile Char.isDigit
  let (fraction, rest) := match afterWhole with
    | '.' :: behind => (behind.takeWhile Char.isDigit, behind.dropWhile Char.isDigit)
    | _ => ([], afterWhole)
  if whole = [] ∧ fraction = [] then none
  let exponent ← exponentOf? rest
  return ⟨Nat.ofDigitChars 10 (whole ++ fraction) 0, exponent - fraction.length⟩

end Decimal

/-- Reads a binary64 number: a decimal numeral, or a word for infinity or for no number at all in
letters of either case. -/
def Extended64.ofText? (text : String) : Option Extended64 :=
  let (negative, cs) := Decimal.splitSign text.toList
  match String.ofList (cs.map Char.toLower) with
  | "inf" | "infinity" => some (.infinite negative)
  | "nan" => some .notANumber
  | _ => (Decimal.ofChars? cs).map (Decimal.nearest negative)

end NetDraft
