/-
Reading numbers.

A numeral without point and exponent that fits 64 bits is an integer; zero with a minus sign is
not one.  All other numerals are floats, and they are not rounded correctly: the digits are
gathered into a significand of 64 bits as long as it has room, and the significand is then
multiplied or divided by a power of ten, each step rounded on its own.
-/
import NetDraft.Json.Fault

namespace NetDraft.Json

/-- The largest significand. -/
def significandLimit : Nat := 0xffffffffffffffff

/-- Gathers digits behind a significand until one finds no room; returns how many were left. -/
def gather (significand : Nat) : List Char → Nat × Nat
  | [] => (significand, 0)
  | c :: rest =>
    let next := significand * 10 + (c.toNat - '0'.toNat)
    if significandLimit < next then (significand, (c :: rest).length) else gather next rest

/-- The largest exponent that can be written. -/
def exponentLimit : Nat := 0x7fffffff

/-- Reads the digits of an exponent behind those that made `n`.  One too large for 32 bits is
returned as the rest behind the digit that made it so. -/
def gatherExponent (n : Nat) : List Char → Except (List Char) (Nat × List Char)
  | [] => .ok (n, [])
  | c :: rest =>
    if c.isDigit then
      let next := n * 10 + (c.toNat - '0'.toNat)
      if exponentLimit < next then .error rest else gatherExponent next rest
    else .ok (n, c :: rest)

/-- A sum kept between the limits of an exponent. -/
def clampExponent (e : Int) : Int := max (-0x80000000) (min e exponentLimit)

/-- Scales a number by a power of ten; `none` if it gets too large.

Powers beyond the largest one of the format are divided out step by step; after two such steps
nothing is left of any significand, so that three are enough. -/
def scale (x : Binary64) (e : Int) : (steps : Nat) → Option Binary64
  | 0 => some x
  | steps + 1 =>
    if e.natAbs ≤ 308 then do
      let power ← Binary64.powerOfTen? e.natAbs
      if 0 ≤ e then x.mul? power else x.div? power
    else if x.isZero then some x
    else if 0 ≤ e then none
    else do
      let power ← Binary64.powerOfTen? 308
      let smaller ← x.div? power
      scale smaller (e + 308) steps

/-- The float of a sign, a significand and an exponent, if it is finite. -/
def floatOf? (negative : Bool) (significand : Nat) (e : Int) : Option Number := do
  let x ← Binary64.ofRatio? false significand 1
  let x ← scale x e 3
  return .float (if negative then x.neg else x)

/-- The float of a sign, a significand and an exponent, in front of what is left. -/
def floatOutcome (negative : Bool) (significand : Nat) (e : Int) (rest : List Char) :
    Except Fault (Number × List Char) :=
  match floatOf? negative significand e with
  | some n => .ok (n, rest)
  | none => faultAt .numberOutOfRange rest

/-- A sign in front of an exponent. -/
def exponentSign : List Char → Bool × List Char
  | '+' :: rest => (false, rest)
  | '-' :: rest => (true, rest)
  | rest => (false, rest)

/-- Reads an exponent behind its letter and makes the float. -/
def readExponent (negative : Bool) (significand : Nat) (e : Int) (cs : List Char) :
    Except Fault (Number × List Char) :=
  let (down, digits) := exponentSign cs
  match digits with
  | [] => faultAt .endInValue []
  | c :: _ =>
    if c.isDigit then
      match gatherExponent 0 digits with
      | .ok (n, rest) =>
        floatOutcome negative significand (clampExponent (if down then e - n else e + n)) rest
      | .error rest =>
        if significand ≠ 0 ∧ !down then faultAt .numberOutOfRange rest
        else .ok (.float (.zero negative), rest.dropWhile Char.isDigit)
    else faultIn .invalidNumber digits

/-- Reads an exponent, if there is one, and makes the float. -/
def readScaled (negative : Bool) (significand : Nat) (e : Int) :
    List Char → Except Fault (Number × List Char)
  | 'e' :: rest => readExponent negative significand e rest
  | 'E' :: rest => readExponent negative significand e rest
  | rest => floatOutcome negative significand e rest

/-- Reads a fraction behind its point and makes the float; `e` digits of the whole part found no
room in the significand. -/
def readFraction (negative : Bool) (significand e : Nat) (cs : List Char) :
    Except Fault (Number × List Char) :=
  let digits := cs.takeWhile Char.isDigit
  let rest := cs.dropWhile Char.isDigit
  if digits.isEmpty then faultIn (if rest.isEmpty then .endInValue else .invalidNumber) rest
  else
    let (significand, left) := gather significand digits
    readScaled negative significand (e - (digits.length - left : Nat)) rest

/-- The number of a numeral without point and exponent. -/
def integerOf (negative : Bool) (significand : Nat) (rest : List Char) :
    Except Fault (Number × List Char) :=
  if negative then
    if significand = 0 then .ok (.float (.zero true), rest)
    else
      match Number.ofInt? (-significand) with
      | some n => .ok (n, rest)
      | none => floatOutcome true significand 0 rest
  else
    match Number.ofInt? significand with
    | some n => .ok (n, rest)
    | none => floatOutcome false significand 0 rest

/-- Reads what follows the whole part of a numeral. -/
def readBehindWhole (negative : Bool) (significand left : Nat) :
    List Char → Except Fault (Number × List Char)
  | '.' :: rest => readFraction negative significand left rest
  | 'e' :: rest => readExponent negative significand left rest
  | 'E' :: rest => readExponent negative significand left rest
  | rest =>
    if left = 0 then integerOf negative significand rest
    else floatOutcome negative significand left rest

/-- Reads a number behind its minus sign, if it has one. -/
def readNumber (negative : Bool) : List Char → Except Fault (Number × List Char)
  | [] => faultAt .endInValue []
  | '0' :: rest =>
    match rest with
    | c :: _ => if c.isDigit then faultIn .invalidNumber rest else readBehindWhole negative 0 0 rest
    | [] => readBehindWhole negative 0 0 rest
  | c :: rest =>
    if c.isDigit then
      let digits := (c :: rest).takeWhile Char.isDigit
      let (significand, left) := gather 0 digits
      readBehindWhole negative significand left ((c :: rest).dropWhile Char.isDigit)
    else faultIn .invalidNumber (c :: rest)

/-! ### Skipping -/

/-- Skips an exponent behind its letter. -/
def skipExponent (cs : List Char) : Except Fault (List Char) :=
  let digits := (exponentSign cs).2
  match digits with
  | [] => faultAt .invalidNumber []
  | c :: _ =>
    if c.isDigit then .ok (digits.dropWhile Char.isDigit) else faultIn .invalidNumber digits

/-- Skips an exponent, if there is one. -/
def skipScaled : List Char → Except Fault (List Char)
  | 'e' :: rest => skipExponent rest
  | 'E' :: rest => skipExponent rest
  | rest => .ok rest

/-- Skips what follows the whole part of a numeral. -/
def skipBehindWhole : List Char → Except Fault (List Char)
  | '.' :: rest =>
    if (rest.takeWhile Char.isDigit).isEmpty then faultIn .invalidNumber rest
    else skipScaled (rest.dropWhile Char.isDigit)
  | rest => skipScaled rest

/-- Skips a number behind its minus sign, if it has one. -/
def skipNumber : List Char → Except Fault (List Char)
  | [] => faultAt .invalidNumber []
  | '0' :: rest =>
    match rest with
    | c :: _ => if c.isDigit then faultIn .invalidNumber rest else skipBehindWhole rest
    | [] => skipBehindWhole rest
  | c :: rest =>
    if c.isDigit then skipBehindWhole (rest.dropWhile Char.isDigit)
    else faultIn .invalidNumber (c :: rest)

end NetDraft.Json
