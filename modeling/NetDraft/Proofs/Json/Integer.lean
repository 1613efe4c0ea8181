/-
Integers are read back from their texts.

The reader of numbers gathers digits as long as they fit 64 bits, and then looks for a point or an
exponent.  The digits of an integer of the wire all fit, and behind them there is neither as long
as no numeral goes on there.
-/
import NetDraft.Json.Reader
import NetDraft.Proofs.Number.Printed

namespace NetDraft.Json

open Text (Ends digits signedDigits)

/-- Whether a numeral can go on with a character. -/
def continuesNumeral (c : Char) : Bool := c.isDigit || c == '.' || c == 'e' || c == 'E'

/-! ### Digits -/

/-- Digits are gathered to their number, if there is room for all of them. -/
theorem gather_eq (ds : List Char) : ∀ n, Nat.ofDigitChars 10 ds n ≤ significandLimit →
    gather n ds = (Nat.ofDigitChars 10 ds n, 0) := by
  induction ds with
  | nil =>
      intro n _
      rw [Nat.ofDigitChars_nil]
      rfl
  | cons c ds ih =>
      intro n hroom
      rw [Nat.ofDigitChars_cons, Nat.mul_comm 10] at hroom
      have hnext : n * 10 + (c.toNat - '0'.toNat) ≤ significandLimit := by
        refine Nat.le_trans ?_ hroom
        rw [Nat.ofDigitChars_eq_ofDigitChars_zero]
        exact Nat.le_add_right_of_le (Nat.le_mul_of_pos_left _ (Nat.pow_pos (by decide)))
      rw [gather, if_neg (by omega), ih _ hroom, Nat.ofDigitChars_cons, Nat.mul_comm 10]

/-- Where no numeral goes on, one without point and exponent ends. -/
theorem readBehindWhole_end {negative : Bool} {n : Nat} {rest : List Char}
    (hrest : Ends continuesNumeral rest) :
    readBehindWhole negative n 0 rest = integerOf negative n rest := by
  unfold readBehindWhole
  split
  · exact absurd (hrest '.' rfl) (by decide)
  · exact absurd (hrest 'e' rfl) (by decide)
  · exact absurd (hrest 'E' rfl) (by decide)
  · rw [if_pos rfl]

/-- The digits of a number are read as an integer. -/
theorem readNumber_digits {negative : Bool} {n : Nat} {rest : List Char}
    (hn : n ≤ significandLimit) (hrest : Ends continuesNumeral rest) :
    readNumber negative (digits n ++ rest) = integerOf negative n rest := by
  have hends : Ends Char.isDigit rest := by
    intro c hc
    have := hrest c hc
    simp only [continuesNumeral, Bool.or_eq_false_iff] at this
    exact this.1.1.1
  by_cases hzero : n = 0
  · subst hzero
    show readNumber negative ('0' :: rest) = _
    rw [← readBehindWhole_end hrest]
    cases rest with
    | nil => rfl
    | cons c rest =>
        have hc : c.isDigit = false := hends c rfl
        simp [readNumber, hc]
  · have hall : ∀ c ∈ digits n, c.isDigit = true := Numeral.isDigit_of_mem_toDigits
    have htake : (digits n ++ rest).takeWhile Char.isDigit = digits n :=
      Text.takeWhile_run hall hends
    have hdrop : (digits n ++ rest).dropWhile Char.isDigit = rest := Text.dropWhile_run hall hends
    have hvalue : Nat.ofDigitChars 10 (digits n) 0 = n := Nat.ofDigitChars_ten_toDigits
    have hgather : gather 0 (digits n) = (n, 0) := by
      rw [gather_eq _ _ (by rw [hvalue]; exact hn), hvalue]
    cases hdigits : digits n with
    | nil => exact absurd hdigits Nat.toDigits_ne_nil
    | cons c ds =>
        have hhead : c ≠ '0' := by
          have := head?_toDigits_ne hzero
          rw [show Nat.toDigits 10 n = c :: ds from hdigits] at this
          simpa using this
        have hc : c.isDigit = true := hall c (by simp [hdigits])
        rw [hdigits] at htake hdrop hgather
        rw [List.cons_append] at htake hdrop ⊢
        unfold readNumber
        split
        · next heq => cases heq
        · next heq => exact absurd (List.cons.inj heq).1 hhead
        · next heq =>
            obtain ⟨rfl, rfl⟩ := List.cons.inj heq
            rw [if_pos hc, htake, hdrop]
            dsimp only
            rw [hgather]
            exact readBehindWhole_end hrest

/-! ### Values -/

theorem isBlank_of_isDigit {c : Char} (hc : c.isDigit = true) : isBlank c = false := by
  simp only [isBlank, Bool.or_eq_false_iff, beq_eq_false_iff_ne]
  refine ⟨⟨⟨?_, ?_⟩, ?_⟩, ?_⟩ <;>
  · rintro rfl
    exact absurd hc (by decide)

/-- A digit is the first character of a number. -/
theorem readValue_digit {c : Char} (hc : c.isDigit = true) (depth : Nat) (rest : List Char) :
    readValue depth (c :: rest)
      = (readNumber false (c :: rest)).map fun found => (.number found.1, found.2) := by
  have hskip : skipBlanks (c :: rest) = c :: rest := by simp [skipBlanks, isBlank_of_isDigit hc]
  rw [readValue.eq_def, hskip]
  split
  all_goals try (next heq => exact absurd ((List.cons.inj heq).1 ▸ hc) (by decide))
  · next heq => cases heq
  · next heq =>
      obtain ⟨rfl, rfl⟩ := List.cons.inj heq
      rw [if_pos hc]
      cases readNumber false (c :: rest) <;> rfl

theorem readValue_minus (depth : Nat) (rest : List Char) :
    readValue depth ('-' :: rest)
      = (readNumber true rest).map fun found => (.number found.1, found.2) := by
  have hunfold : readValue depth ('-' :: rest)
      = (readNumber true rest >>= fun found => .ok (.number found.1, found.2)) := by
    cases depth <;> rfl
  rw [hunfold]
  cases readNumber true rest <;> rfl

/-- **An integer is read back.** -/
theorem readValue_integer {i : Int} (hi : -0x8000000000000000 ≤ i ∧ i < 0x10000000000000000)
    (depth : Nat) {rest : List Char} (hrest : Ends continuesNumeral rest) :
    readValue depth (signedDigits i ++ rest) = .ok (.number (.integer i hi), rest) := by
  have hroom : i.natAbs ≤ significandLimit := by
    unfold significandLimit
    omega
  by_cases hneg : i < 0
  · have hread : readNumber true (digits i.natAbs ++ rest) = .ok (.integer i hi, rest) := by
      have hvalue : -(i.natAbs : Int) = i := by omega
      rw [readNumber_digits hroom hrest, integerOf, if_pos rfl, if_neg (by omega), hvalue,
        Number.ofInt?, dif_pos hi]
    rw [signedDigits, if_pos hneg, List.cons_append, readValue_minus, hread]
    rfl
  · have hread : readNumber false (digits i.natAbs ++ rest) = .ok (.integer i hi, rest) := by
      have hvalue : (i.natAbs : Int) = i := by omega
      rw [readNumber_digits hroom hrest, integerOf, if_neg (by simp), hvalue, Number.ofInt?,
        dif_pos hi]
    rw [signedDigits, if_neg hneg]
    cases hdigits : digits i.natAbs with
    | nil => exact absurd hdigits Nat.toDigits_ne_nil
    | cons c ds =>
        have hc : c.isDigit = true :=
          Numeral.isDigit_of_mem_toDigits c (hdigits ▸ List.mem_cons_self)
        rw [hdigits] at hread
        rw [List.cons_append] at hread ⊢
        rw [readValue_digit hc, hread]
        rfl

end NetDraft.Json
