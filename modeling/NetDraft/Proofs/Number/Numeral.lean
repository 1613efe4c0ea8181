/-
Numerals by their parts.

A JSON numeral without its sign is a whole part, then perhaps a point and a fraction, then perhaps
an exponent.  `Numeral` holds these parts together with the proof that they make a numeral, so
that what is true of all numerals is said once: the reader of decimals finds the parts again, the
grammar of JSON accepts them, and none of their characters can end an argument of a statement.
-/
import Mathlib.Data.List.TakeWhile
import NetDraft.Decimal
import NetDraft.Json.NumberText
import NetDraft.Proofs.Text.Cutting

namespace NetDraft

/-- An unsigned numeral. -/
structure Numeral where
  /-- The digits in front of the point. -/
  whole : List Char
  /-- The digits behind the point; there is no point if there are none. -/
  fraction : List Char
  /-- The exponent, if one is written: whether it is negative, and its magnitude. -/
  exponent : Option (Bool × Nat)
  whole_isDigit : ∀ c ∈ whole, c.isDigit = true
  fraction_isDigit : ∀ c ∈ fraction, c.isDigit = true
  whole_ne_nil : whole ≠ []
  /-- A zero in front stands alone. -/
  whole_proper : whole = ['0'] ∨ whole.head? ≠ some '0'

namespace Numeral

open Text (Ends takeWhile_run dropWhile_run)

/-- The exponent as it is written. -/
def exponentChars : Option (Bool × Nat) → List Char
  | none => []
  | some (negative, k) => 'e' :: (if negative then '-' else '+') :: Nat.toDigits 10 k

/-- The exponent as it is read. -/
def exponentValue : Option (Bool × Nat) → Int
  | none => 0
  | some (negative, k) => if negative then -k else k

/-- What stands behind the whole part. -/
def behindWhole (n : Numeral) : List Char :=
  match n.fraction with
  | [] => exponentChars n.exponent
  | digits => '.' :: (digits ++ exponentChars n.exponent)

/-- The text of the numeral. -/
def chars (n : Numeral) : List Char := n.whole ++ n.behindWhole

/-- The decimal number of the numeral. -/
def value (n : Numeral) : Decimal :=
  ⟨Nat.ofDigitChars 10 (n.whole ++ n.fraction) 0, exponentValue n.exponent - n.fraction.length⟩

/-- Whether the numeral has a point or an exponent. -/
def isMarked (n : Numeral) : Bool := !n.fraction.isEmpty || n.exponent.isSome

/-- An integer is its sign and its magnitude. -/
theorem signed_natAbs (i : Int) : (if decide (i < 0) then -(i.natAbs : Int) else i.natAbs) = i := by
  by_cases hneg : i < 0
  · rw [if_pos (decide_eq_true hneg)]
    omega
  · rw [if_neg (by simpa using hneg)]
    omega

theorem exponentValue_natAbs (i : Int) :
    exponentValue (some (decide (i < 0), i.natAbs)) = i := signed_natAbs i

/-! ### Where digits end -/

theorem ends_exponentChars (e : Option (Bool × Nat)) : Ends Char.isDigit (exponentChars e) := by
  cases e with
  | none => simp [Ends, exponentChars]
  | some e => simp [Ends, exponentChars]

theorem ends_behindWhole (n : Numeral) : Ends Char.isDigit n.behindWhole := by
  unfold behindWhole
  split
  · exact ends_exponentChars n.exponent
  · simp [Ends]

theorem isDigit_of_mem_toDigits {k : Nat} : ∀ c ∈ Nat.toDigits 10 k, c.isDigit = true :=
  fun _ h => Nat.isDigit_of_mem_toDigits (by decide) (by decide) h

theorem notMem_digits {c : Char} (h : c.isDigit = false) (k : Nat) : c ∉ Text.digits k := by
  intro hc
  have hdigit := isDigit_of_mem_toDigits c hc
  rw [h] at hdigit
  cases hdigit

/-! ### Reading the parts -/

theorem exponentOf?_exponentChars (e : Option (Bool × Nat)) :
    Decimal.exponentOf? (exponentChars e) = some (exponentValue e) := by
  rcases e with _ | ⟨negative, k⟩
  · rfl
  · have hdigits : Nat.toDigits 10 k ≠ [] ∧ (Nat.toDigits 10 k).all Char.isDigit :=
      ⟨Nat.toDigits_ne_nil, List.all_eq_true.mpr isDigit_of_mem_toDigits⟩
    cases negative <;>
      simp [exponentChars, exponentValue, Decimal.exponentOf?, Decimal.splitSign, hdigits]

/-- **The reader of decimals finds the parts again.** -/
theorem ofChars?_chars (n : Numeral) : Decimal.ofChars? n.chars = some n.value := by
  have hwhole : n.chars.takeWhile Char.isDigit = n.whole :=
    takeWhile_run n.whole_isDigit n.ends_behindWhole
  have hbehind : n.chars.dropWhile Char.isDigit = n.behindWhole :=
    dropWhile_run n.whole_isDigit n.ends_behindWhole
  have hexponent := exponentOf?_exponentChars n.exponent
  have hends := ends_exponentChars n.exponent
  unfold Decimal.ofChars?
  rw [hwhole, hbehind]
  unfold behindWhole value
  cases hfraction : n.fraction with
  | nil =>
      cases he : n.exponent with
      | none => simp [exponentChars, exponentValue, Decimal.exponentOf?, n.whole_ne_nil]
      | some e =>
          rw [he] at hexponent
          simp only [exponentChars] at hexponent ⊢
          simp [hexponent, n.whole_ne_nil]
  | cons c rest =>
      have hdigits : ∀ d ∈ c :: rest, d.isDigit = true := hfraction ▸ n.fraction_isDigit
      have htake := takeWhile_run hdigits hends
      have hdrop := dropWhile_run hdigits hends
      rw [List.cons_append] at htake hdrop
      simp [htake, hdrop, hexponent, n.whole_ne_nil]

/-! ### The grammar of JSON -/

theorem skipScaled_exponentChars (e : Option (Bool × Nat)) :
    Json.skipScaled (exponentChars e) = .ok [] := by
  rcases e with _ | ⟨negative, k⟩
  · rfl
  · cases hdigits : Nat.toDigits 10 k with
    | nil => exact absurd hdigits Nat.toDigits_ne_nil
    | cons c rest =>
        have hall : ∀ d ∈ c :: rest, d.isDigit = true := hdigits ▸ isDigit_of_mem_toDigits
        have hdrop : (c :: rest).dropWhile Char.isDigit = [] :=
          List.dropWhile_eq_nil_iff.mpr hall
        cases negative <;>
          simp [exponentChars, hdigits, Json.skipScaled, Json.skipExponent, Json.exponentSign,
            hdrop, hall c (by simp)]

theorem skipBehindWhole_behindWhole (n : Numeral) :
    Json.skipBehindWhole n.behindWhole = .ok [] := by
  have hscaled := skipScaled_exponentChars n.exponent
  unfold behindWhole
  cases hfraction : n.fraction with
  | nil =>
      rcases he : n.exponent with _ | ⟨negative, k⟩
      · rfl
      · rw [he] at hscaled
        simpa [exponentChars, Json.skipBehindWhole] using hscaled
  | cons c rest =>
      have hdigits : ∀ d ∈ c :: rest, d.isDigit = true := hfraction ▸ n.fraction_isDigit
      have hends := ends_exponentChars n.exponent
      have htake := takeWhile_run hdigits hends
      have hdrop := dropWhile_run hdigits hends
      rw [List.cons_append] at htake hdrop
      simp [Json.skipBehindWhole, htake, hdrop, hscaled]

/-- **Every numeral is one of JSON.** -/
theorem skipNumber_chars (n : Numeral) : Json.skipNumber n.chars = .ok [] := by
  have hbehind := n.skipBehindWhole_behindWhole
  rcases n.whole_proper with hzero | hhead
  · have hends := n.ends_behindWhole
    rw [chars, hzero, List.singleton_append]
    cases hrest : n.behindWhole with
    | nil => simpa [Json.skipNumber, hrest] using hbehind
    | cons c rest =>
        have hc : c.isDigit = false := hends c (by rw [hrest]; rfl)
        simpa [Json.skipNumber, hc, hrest] using hbehind
  · unfold chars
    cases hwhole : n.whole with
    | nil => exact absurd hwhole n.whole_ne_nil
    | cons c rest =>
        have hdigits : ∀ d ∈ c :: rest, d.isDigit = true := hwhole ▸ n.whole_isDigit
        have hc : c ≠ '0' := by simpa [hwhole] using hhead
        have hdrop : (rest ++ n.behindWhole).dropWhile Char.isDigit = n.behindWhole :=
          dropWhile_run (fun d hd => hdigits d (by simp [hd])) n.ends_behindWhole
        simp [Json.skipNumber, hdigits c (by simp), hdrop, hbehind]

/-! ### The characters -/

theorem mem_exponentChars {e : Option (Bool × Nat)} {c : Char} (h : c ∈ exponentChars e) :
    c.isDigit = true ∨ c ∈ ['e', '-', '+'] := by
  rcases e with _ | ⟨negative, k⟩
  · simp [exponentChars] at h
  · rw [exponentChars, List.mem_cons, List.mem_cons] at h
    rcases h with rfl | rfl | h
    · simp
    · cases negative <;> simp
    · exact Or.inl (isDigit_of_mem_toDigits c h)

theorem mem_chars {n : Numeral} {c : Char} (h : c ∈ n.chars) :
    c.isDigit = true ∨ c ∈ ['.', 'e', '-', '+'] := by
  have hexponent : ∀ c ∈ exponentChars n.exponent, c.isDigit = true ∨ c ∈ ['.', 'e', '-', '+'] :=
    fun c hc => (mem_exponentChars hc).imp_right (List.mem_cons_of_mem _)
  rcases List.mem_append.mp h with hwhole | hbehind
  · exact Or.inl (n.whole_isDigit c hwhole)
  · unfold behindWhole at hbehind
    split at hbehind
    · exact hexponent c hbehind
    · rcases List.mem_cons.mp hbehind with rfl | hbehind
      · simp
      · rcases List.mem_append.mp hbehind with hfraction | hbehind
        · exact Or.inl (n.fraction_isDigit c hfraction)
        · exact hexponent c hbehind

/-- A numeral is nothing but digits exactly if it has neither point nor exponent. -/
theorem all_isDigit_chars (n : Numeral) : n.chars.all Char.isDigit = !n.isMarked := by
  have hwhole : n.whole.all Char.isDigit = true := List.all_eq_true.mpr n.whole_isDigit
  unfold chars behindWhole isMarked
  cases n.fraction with
  | nil => rcases n.exponent with _ | e <;> simp [exponentChars, hwhole]
  | cons c rest => simp

end Numeral

end NetDraft
