/-
The numbers of the wire formats.

A number is an integer in the range of 64 bits, signed or unsigned, or a finite binary64 number.
Which of the two it is belongs to its value: the integer 1 and the float 1.0 are different
numbers, are written differently and stay different however often they are written and read.
-/
import NetDraft.Binary64.Shortest
import NetDraft.Text.Join

namespace NetDraft

/-- A number as read from or written to the wire. -/
inductive Number where
  | integer (value : Int) (in_range : -0x8000000000000000 ≤ value ∧ value < 0x10000000000000000)
  | float (value : Binary64)
deriving DecidableEq

namespace Number

/-- The integer as a number, if it has 64 bits at most. -/
def ofInt? (i : Int) : Option Number :=
  if h : -0x8000000000000000 ≤ i ∧ i < 0x10000000000000000 then some (.integer i h) else none

/-- A natural number as a number; those that need more than 64 bits give the largest one. -/
def ofNat (n : Nat) : Number :=
  .integer (min n 0xffffffffffffffff : Nat) ⟨by omega, by omega⟩

/-- Equality by value: integers and floats are never equal, and both zeros of the floats are. -/
def sameValue : Number → Number → Bool
  | .integer a _, .integer b _ => a == b
  | .float a, .float b => a.sameValue b
  | _, _ => false

/-- Floats have a point and no exponent while their leading digit is at most fifteen places in
front of the point or five behind it. -/
def layout : Binary64.Layout := ⟨fun leading => -5 ≤ leading && leading ≤ 15, .even⟩

/-- The text of a number: plain digits for an integer, and for a float the fewest digits that
read back, always with a point or an exponent. -/
def text : Number → String
  | .integer i _ => String.ofList (Text.signedDigits i)
  | .float x => x.text layout

end Number

end NetDraft
