/-
What the reader makes of a float that was written.

The reader gathers the digits of a numeral into a significand, counts the places behind the point
off the exponent and scales.  What it makes of a numeral depends on nothing behind the numeral, as
long as no numeral goes on there, so that the number which is read back from a text is a function
of the number that was written: `Number.reread?`.  Where the digits find room it is the float of
the decimal number that the numeral stands for, rounded as the reader rounds.
-/
import NetDraft.Proofs.Json.Integer
import NetDraft.Proofs.Number.Reading

namespace NetDraft

open Text (Ends takeWhile_run dropWhile_run)

/-! ### Numerals as they are gathered -/

/-- An exponent with the one that is written. -/
def Numeral.scaled (e : Int) : Option (Bool × Nat) → Int
  | none => e
  | some written => Json.clampExponent (e + exponentValue (some written))

/-- The significand and the exponent to which a numeral is gathered. -/
def Numeral.gathered (n : Numeral) : Nat × Int :=
  let whole := Json.gather 0 n.whole
  let all := Json.gather whole.1 n.fraction
  (all.1, scaled (whole.2 - (n.fraction.length - all.2 : Nat)) n.exponent)

/-- With room for all digits a numeral is gathered to the decimal number for which it stands. -/
theorem Numeral.gathered_eq (n : Numeral) (hroom : n.value.digits ≤ Json.significandLimit)
    (hsmall : n.value.exponent.natAbs ≤ Json.exponentLimit) :
    n.gathered = (n.value.digits, n.value.exponent) := by
  have hdigits : n.value.digits
      = Nat.ofDigitChars 10 n.fraction (Nat.ofDigitChars 10 n.whole 0) := Nat.ofDigitChars_append 0
  have hwhole : Nat.ofDigitChars 10 n.whole 0 ≤ Json.significandLimit := by
    refine Nat.le_trans ?_ (hdigits ▸ hroom)
    rw [Nat.ofDigitChars_eq_ofDigitChars_zero (l := n.fraction)]
    exact Nat.le_add_right_of_le (Nat.le_mul_of_pos_left _ (Nat.pow_pos (by decide)))
  have hexponent : scaled (-(n.fraction.length : Int)) n.exponent = n.value.exponent := by
    have hvalue : n.value.exponent = exponentValue n.exponent - n.fraction.length := rfl
    cases hwritten : n.exponent with
    | none =>
        rw [hvalue, hwritten]
        exact (Int.zero_sub _).symm
    | some x =>
        rw [hwritten] at hvalue
        have hlimit : Json.exponentLimit = 0x7fffffff := rfl
        show Json.clampExponent (-(n.fraction.length : Int) + exponentValue (some x)) = _
        unfold Json.clampExponent
        omega
  unfold gathered
  rw [Json.gather_eq _ _ hwhole]
  dsimp only
  rw [Json.gather_eq _ _ (hdigits ▸ hroom), ← hdigits, ← hexponent]
  simp

namespace Json

variable {negative : Bool} {rest : List Char}

theorem ends_isDigit (hrest : Ends continuesNumeral rest) : Ends Char.isDigit rest := by
  intro c hc
  have hnot := hrest c hc
  simp only [continuesNumeral, Bool.or_eq_false_iff] at hnot
  exact hnot.1.1.1

/-! ### Exponents -/

theorem gatherExponent_eq (hrest : Ends Char.isDigit rest) (ds : List Char)
    (hds : ∀ c ∈ ds, c.isDigit = true) : ∀ n, Nat.ofDigitChars 10 ds n ≤ exponentLimit →
      gatherExponent n (ds ++ rest) = .ok (Nat.ofDigitChars 10 ds n, rest) := by
  induction ds with
  | nil =>
      intro n _
      rw [Nat.ofDigitChars_nil, List.nil_append]
      cases rest with
      | nil => rfl
      | cons c rest =>
          rw [gatherExponent, if_neg (by simp [hrest c rfl])]
  | cons c ds ih =>
      intro n hroom
      rw [Nat.ofDigitChars_cons, Nat.mul_comm 10] at hroom
      have hnext : n * 10 + (c.toNat - '0'.toNat) ≤ exponentLimit := by
        refine Nat.le_trans ?_ hroom
        rw [Nat.ofDigitChars_eq_ofDigitChars_zero]
        exact Nat.le_add_right_of_le (Nat.le_mul_of_pos_left _ (Nat.pow_pos (by decide)))
      rw [List.cons_append, gatherExponent, if_pos (hds c List.mem_cons_self)]
      dsimp only
      rw [if_neg (by omega), ih (fun d hd => hds d (List.mem_cons_of_mem _ hd)) _ hroom,
        Nat.ofDigitChars_cons, Nat.mul_comm 10]

/-- The digits of an exponent are read behind its sign. -/
theorem readExponent_toDigits (significand : Nat) (e : Int) (down : Bool) {k : Nat}
    (hsmall : k ≤ exponentLimit) (hrest : Ends continuesNumeral rest) :
    readExponent negative significand e
        ((if down then '-' else '+') :: (Nat.toDigits 10 k ++ rest))
      = floatOutcome negative significand (clampExponent (if down then e - k else e + k)) rest := by
  have hk : Nat.ofDigitChars 10 (Nat.toDigits 10 k) 0 = k := Nat.ofDigitChars_ten_toDigits
  have hread : gatherExponent 0 (Nat.toDigits 10 k ++ rest) = .ok (k, rest) := by
    have hroom : Nat.ofDigitChars 10 (Nat.toDigits 10 k) 0 ≤ exponentLimit := by rwa [hk]
    rw [gatherExponent_eq (ends_isDigit hrest) _ Numeral.isDigit_of_mem_toDigits 0 hroom, hk]
  have hsign : exponentSign ((if down then '-' else '+') :: (Nat.toDigits 10 k ++ rest))
      = (down, Nat.toDigits 10 k ++ rest) := by cases down <;> rfl
  unfold readExponent
  rw [hsign]
  cases hdigits : Nat.toDigits 10 k with
  | nil => exact absurd hdigits Nat.toDigits_ne_nil
  | cons c ds =>
      have hc : c.isDigit = true :=
        Numeral.isDigit_of_mem_toDigits c (hdigits ▸ List.mem_cons_self)
      rw [hdigits, List.cons_append] at hread
      rw [List.cons_append]
      dsimp only
      rw [if_pos hc, hread]

/-- A written exponent is read, and then the float is made. -/
theorem readScaled_exponentChars (significand : Nat) (e : Int) {written : Option (Bool × Nat)}
    (hsmall : ∀ x, written = some x → x.2 ≤ exponentLimit)
    (hrest : Ends continuesNumeral rest) :
    readScaled negative significand e (Numeral.exponentChars written ++ rest)
      = floatOutcome negative significand (Numeral.scaled e written) rest := by
  cases written with
  | none =>
      rw [Numeral.exponentChars, List.nil_append]
      unfold readScaled
      split
      · exact absurd (hrest 'e' rfl) (by decide)
      · exact absurd (hrest 'E' rfl) (by decide)
      · rfl
  | some x =>
      obtain ⟨down, k⟩ := x
      have hsum : (if down then e - k else e + k : Int)
          = e + Numeral.exponentValue (some (down, k)) := by
        cases down
        · rfl
        · exact Int.sub_eq_add_neg
      rw [Numeral.scaled, ← hsum]
      exact readExponent_toDigits significand e down (hsmall _ rfl) hrest

/-! ### Numerals -/

/-- What stands behind the whole part is read, and the float is made. -/
theorem readBehindWhole_behindWhole (n : Numeral) (hmarked : n.isMarked = true)
    (hsmall : ∀ x, n.exponent = some x → x.2 ≤ exponentLimit)
    (hrest : Ends continuesNumeral rest) (significand left : Nat) :
    readBehindWhole negative significand left (n.behindWhole ++ rest)
      = floatOutcome negative (gather significand n.fraction).1
          (Numeral.scaled (left - (n.fraction.length - (gather significand n.fraction).2 : Nat))
            n.exponent) rest := by
  unfold Numeral.behindWhole
  cases hfraction : n.fraction with
  | nil =>
      cases hexponent : n.exponent with
      | none => simp [Numeral.isMarked, hfraction, hexponent] at hmarked
      | some x =>
          have hread : readScaled negative significand left
              (Numeral.exponentChars (some x) ++ rest)
                = floatOutcome negative significand (Numeral.scaled left (some x)) rest :=
            readScaled_exponentChars significand left (hexponent ▸ hsmall) hrest
          have hzero : ((left : Int) - (([] : List Char).length - (gather significand []).2 : Nat))
              = left := Int.sub_zero _
          rw [hzero]
          exact hread
  | cons c ds =>
      have hdigits : ∀ d ∈ c :: ds, d.isDigit = true := hfraction ▸ n.fraction_isDigit
      have hends : Ends Char.isDigit (Numeral.exponentChars n.exponent ++ rest) :=
        (Numeral.ends_exponentChars n.exponent).append (ends_isDigit hrest)
      have htake := takeWhile_run hdigits hends
      have hdrop := dropWhile_run hdigits hends
      show readFraction negative significand left
        ((c :: ds) ++ Numeral.exponentChars n.exponent ++ rest) = _
      rw [List.append_assoc]
      unfold readFraction
      rw [htake, hdrop]
      exact readScaled_exponentChars _ _ hsmall hrest

/-- A zero in front is the whole part. -/
theorem readNumber_zero (hrest : Ends Char.isDigit rest) :
    readNumber negative ('0' :: rest) = readBehindWhole negative 0 0 rest := by
  cases rest with
  | nil => rfl
  | cons c rest => simp [readNumber, hrest c rfl]

/-- Without a zero in front the whole part is the run of digits. -/
theorem readNumber_run {ds : List Char} (hds : ∀ c ∈ ds, c.isDigit = true) (hne : ds ≠ [])
    (hhead : ds.head? ≠ some '0') (hrest : Ends Char.isDigit rest) : readNumber negative (ds ++ rest)
      = readBehindWhole negative (gather 0 ds).1 (gather 0 ds).2 rest := by
  have htake := takeWhile_run hds hrest
  have hdrop := dropWhile_run hds hrest
  cases ds with
  | nil => exact absurd rfl hne
  | cons c ds =>
      have hc : c.isDigit = true := hds c List.mem_cons_self
      have hzero : c ≠ '0' := by simpa using hhead
      rw [List.cons_append] at htake hdrop ⊢
      unfold readNumber
      split
      · next heq => cases heq
      · next heq => exact absurd (List.cons.inj heq).1 hzero
      · next heq =>
          obtain ⟨rfl, rfl⟩ := List.cons.inj heq
          rw [if_pos hc, htake, hdrop]

/-- **What is read of a numeral does not depend on what is behind it.** -/
theorem readNumber_chars (n : Numeral) (hmarked : n.isMarked = true)
    (hsmall : ∀ x, n.exponent = some x → x.2 ≤ exponentLimit)
    (hrest : Ends continuesNumeral rest) : readNumber negative (n.chars ++ rest)
      = floatOutcome negative n.gathered.1 n.gathered.2 rest := by
  have hends : Ends Char.isDigit (n.behindWhole ++ rest) :=
    n.ends_behindWhole.append (ends_isDigit hrest)
  have hbehind : readNumber negative (n.whole ++ (n.behindWhole ++ rest))
      = readBehindWhole negative (gather 0 n.whole).1 (gather 0 n.whole).2
          (n.behindWhole ++ rest) := by
    rcases n.whole_proper with hzero | hhead
    · rw [hzero]
      exact readNumber_zero hends
    · exact readNumber_run n.whole_isDigit n.whole_ne_nil hhead hends
  rw [Numeral.chars, List.append_assoc, hbehind]
  exact readBehindWhole_behindWhole n hmarked hsmall hrest _ _

/-- What a reader of values returns for a number that was found, or for one that is too large. -/
def numberOutcome (found : Option Number) (rest : List Char) : Except Fault (Json × List Char) :=
  match found with
  | some n => .ok (.number n, rest)
  | none => faultAt .numberOutOfRange rest

-- Said of the function as a whole, so that no float is computed where it is unfolded.
theorem floatOutcome_eq : floatOutcome = fun negative significand e rest =>
    match floatOf? negative significand e with
    | some n => .ok (n, rest)
    | none => faultAt .numberOutOfRange rest := by
  delta floatOutcome
  rfl

theorem map_floatOutcome (significand : Nat) (e : Int) :
    (floatOutcome negative significand e rest).map (fun found => (Json.number found.1, found.2))
      = numberOutcome (floatOf? negative significand e) rest := by
  rw [floatOutcome_eq]
  dsimp only
  generalize floatOf? negative significand e = found
  cases found with
  | none => rfl
  | some n => rfl

end Json

/-! ### Numbers -/

namespace Number

/-- The number that is read back from the text of a number, if the reader accepts it. -/
def reread? (n : Number) : Option Number :=
  match Json.readValue 0 n.text.toList with
  | .ok (.number m, []) => some m
  | _ => none

/-- The text of a float is a sign and a numeral, and what is read back is the float of what the
numeral is gathered to. -/
theorem readValue_float (x : Binary64) : ∃ n : Numeral,
    Decimal.ofChars? (Binary64.magnitudeText layout x.rank) = some n.value ∧
      n.value.rank = x.rank ∧
      ∀ depth rest, Ends Json.continuesNumeral rest →
        Json.readValue depth ((float x).text.toList ++ rest)
          = Json.numberOutcome (Json.floatOf? x.negative n.gathered.1 n.gathered.2) rest := by
  obtain ⟨n, htext, hmarked, hrank, hsmall⟩ :=
    Binary64.isNumeral_magnitudeText layout x.rank_lt
  have hexponent : ∀ e, n.exponent = some e → e.2 ≤ Json.exponentLimit := fun e he =>
    Nat.le_trans (hsmall e he) (by decide)
  refine ⟨n, htext ▸ n.ofChars?_chars, hrank, fun depth rest hrest => ?_⟩
  have hread : Json.readNumber x.negative (n.chars ++ rest)
      = Json.floatOutcome x.negative n.gathered.1 n.gathered.2 rest :=
    Json.readNumber_chars n hmarked hexponent hrest
  have hchars : (float x).text.toList = signChars x.negative ++ n.chars := by
    simp [text, Binary64.text, signChars, htext]
  rw [hchars, ← Json.map_floatOutcome, ← hread]
  cases x.negative with
  | true => exact Json.readValue_minus depth _
  | false =>
      cases hwhole : n.whole with
      | nil => exact absurd hwhole n.whole_ne_nil
      | cons c ds =>
          have hc : c.isDigit = true := n.whole_isDigit c (hwhole ▸ List.mem_cons_self)
          rw [Numeral.chars, hwhole]
          exact Json.readValue_digit hc depth _

/-- What is read of a text, whatever is behind it, is read of the text alone. -/
theorem reread?_eq {n : Number} {found : Option Number}
    (h : Json.readValue 0 n.text.toList = Json.numberOutcome found []) : n.reread? = found := by
  unfold reread?
  rw [h]
  cases found <;> rfl

theorem reread?_integer {i : Int} (hi : -0x8000000000000000 ≤ i ∧ i < 0x10000000000000000) :
    (integer i hi).reread? = some (integer i hi) := by
  refine reread?_eq ?_
  have hread : Json.readValue 0 (Text.signedDigits i ++ []) = .ok (.number (integer i hi), []) :=
    Json.readValue_integer hi 0 fun c hc => nomatch hc
  rw [List.append_nil] at hread
  rw [text, String.toList_ofList, hread]
  rfl

theorem reread?_float {x : Binary64} {found : Option Number}
    (h : ∀ rest, Ends Json.continuesNumeral rest →
      Json.readValue 0 ((float x).text.toList ++ rest) = Json.numberOutcome found rest) :
    (float x).reread? = found := by
  have hread := h [] fun c hc => nomatch hc
  rw [List.append_nil] at hread
  exact reread?_eq hread

/-- **What is read of a number does not depend on what is behind it.** -/
theorem readValue_text (n : Number) (depth : Nat) {rest : List Char}
    (hrest : Ends Json.continuesNumeral rest) :
    Json.readValue depth (n.text.toList ++ rest) = Json.numberOutcome n.reread? rest := by
  cases n with
  | integer i hi =>
      rw [reread?_integer, text, String.toList_ofList, Json.readValue_integer hi depth hrest]
      rfl
  | float x =>
      obtain ⟨n, -, -, hread⟩ := readValue_float x
      rw [reread?_float (hread 0), hread depth rest hrest]

end Number

end NetDraft
