/-
The shortest decimal numeral that reads back.

For one digit, two digits and so on the two numerals of that length around the number are tried;
the first length at which one of them rounds to the number wins, and of two that do the nearer
one.  Seventeen digits always suffice; should they not, the exact value is written out, which
reads back for a plain reason.
-/
import NetDraft.Decimal

namespace NetDraft

namespace Binary64

/-- Which way a number goes that lies half way between two numerals that both read back. -/
inductive Tie where
  | even
  | up
deriving DecidableEq, Repr

/-- Whether the lower of two neighbouring numerals is chosen, the number lying `r / den` of the
way from the lower one, with last digits `c`, to the upper one. -/
def Tie.keepsLower (tie : Tie) (c r den : Nat) : Bool :=
  2 * r < den || (2 * r == den && tie == .even && c % 2 == 0)

/-- The whole number of steps of `10 ^ g` in a magnitude, with the rest and its denominator. -/
def steps (u : Nat) (g : Int) : Nat × Nat × Nat :=
  let (num, den) :=
    if 0 ≤ g then (u, unit * Nat.pow 10 g.toNat) else (u * Nat.pow 10 (-g).toNat, unit)
  (num / den, num % den, den)

/-- The one of two numerals that reads back as the magnitude of rank `r`; if both do, the nearer
one. -/
def readingBack? (r : Nat) (lower upper : Decimal) (lowerIsNearer : Bool) : Option Decimal :=
  if lower.rank = r then
    if upper.rank = r ∧ lowerIsNearer = false then some upper else some lower
  else if upper.rank = r then some upper
  else none

/-- The numeral in steps of `10 ^ g` next to the magnitude of rank `r` that reads back, if one of
its two neighbours does. -/
def neighbour? (tie : Tie) (r : Nat) (g : Int) : Option Decimal :=
  let found := steps (unitsOfRank r) g
  readingBack? r ⟨found.1, g⟩ ⟨found.1 + 1, g⟩ (tie.keepsLower found.1 found.2.1 found.2.2)

/-- The exponent of the leading decimal digit of a magnitude that is not zero. -/
def leadingExponent (u : Nat) : Int :=
  (Nat.toDigits 10 (u * Nat.pow 10 324 / unit)).length - 325

/-- The exact value of a magnitude. -/
def exact (u : Nat) : Decimal := ⟨u * Nat.pow 5 1074, -1074⟩

/-- The first hit among numerals of the lengths from `n` upwards, `tries` of them. -/
def shortestFrom (tie : Tie) (r : Nat) (leading : Int) (n : Nat) : Nat → Decimal
  | 0 => exact (unitsOfRank r)
  | tries + 1 =>
    (neighbour? tie r (leading - n + 1)).getD (shortestFrom tie r leading (n + 1) tries)

/-- The shortest numeral that reads back as the magnitude of rank `r`, which is not zero. -/
def shortest (tie : Tie) (r : Nat) : Decimal :=
  shortestFrom tie r (leadingExponent (unitsOfRank r)) 1 17

/-! ### Layout -/

/-- How a number is laid out as text. -/
structure Layout where
  /-- The exponents of the leading digit for which no exponent is written. -/
  isPlain : Int → Bool
  /-- The rule for numbers half way between two numerals. -/
  tie : Tie

/-- The significant digits of a numeral, without zeros at the end. -/
def significant (d : Decimal) : List Char :=
  ((Nat.toDigits 10 d.digits).reverse.dropWhile (· == '0')).reverse

/-- Digits with the point behind the place of the leading exponent, and at least one on each side
of it. -/
def plainText (digits : List Char) (leading : Int) : List Char :=
  if leading < 0 then
    '0' :: '.' :: (List.replicate (-leading - 1).toNat '0' ++ digits)
  else
    let places := leading.toNat + 1
    if digits.length ≤ places then
      digits ++ List.replicate (places - digits.length) '0' ++ ['.', '0']
    else digits.take places ++ '.' :: digits.drop places

/-- Digits with the point behind the first one and the exponent written with its sign. -/
def scientificText (digits : List Char) (leading : Int) : List Char :=
  let mantissa := match digits with
    | first :: second :: rest => first :: '.' :: second :: rest
    | few => few
  let sign := if leading < 0 then '-' else '+'
  mantissa ++ 'e' :: sign :: Nat.toDigits 10 leading.natAbs

/-- The magnitude of rank `r` in the fewest digits that read back. -/
def magnitudeText (layout : Layout) (r : Nat) : List Char :=
  if r = 0 then ['0', '.', '0']
  else
    let d := shortest layout.tie r
    let leading := d.magnitude - 1
    if layout.isPlain leading then plainText (significant d) leading
    else scientificText (significant d) leading

/-- The number as text. -/
def text (layout : Layout) (x : Binary64) : String :=
  String.ofList ((if x.negative then ['-'] else []) ++ magnitudeText layout x.rank)

end Binary64

/-- The number as text, with words for those that are not finite. -/
def Extended64.text (layout : Binary64.Layout) : Extended64 → String
  | .finite x => x.text layout
  | .infinite true => "-inf"
  | .infinite false => "inf"
  | .notANumber => "NaN"

end NetDraft
