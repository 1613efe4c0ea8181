/-
Every number of the wire can be read from its text.

The reader here rounds correctly, which the reader of JSON texts does not.  It takes nothing but
digits for an integer and every other numeral for a float, so that what is read has the
representation of what was written: an integer stays an integer, a float a float, and zero keeps
its sign.
-/
import NetDraft.Proofs.Number.Printed

namespace NetDraft

/-- The finite number, if it is one. -/
def Extended64.finite? : Extended64 → Option Binary64
  | .finite x => some x
  | _ => none

namespace Number

/-- Whether a text is a numeral of JSON without a sign. -/
def isJsonNumeral (cs : List Char) : Bool :=
  match Json.skipNumber cs with
  | .ok [] => true
  | _ => false

/-- The number of a sign and a numeral. -/
def ofNumeral? (negative : Bool) (cs : List Char) : Option Number :=
  if isJsonNumeral cs = false then none
  else if cs.all Char.isDigit then
    ofInt? (if negative then -(Nat.ofDigitChars 10 cs 0 : Int) else Nat.ofDigitChars 10 cs 0)
  else
    (Decimal.ofChars? cs).bind fun d => (Decimal.nearest negative d).finite?.map .float

/-- Reads a JSON number that takes up the whole text. -/
def ofChars? : List Char → Option Number
  | '-' :: magnitude => ofNumeral? true magnitude
  | magnitude => ofNumeral? false magnitude

/-! ### The text of a number is a sign and a numeral -/

/-- A minus sign, if wanted. -/
def signChars (negative : Bool) : List Char := if negative then ['-'] else []

/-- A float is written as a marked numeral, and rounding the numeral gives the float. -/
theorem float_is_signed_numeral (x : Binary64) : ∃ n : Numeral,
    (float x).text.toList = signChars x.negative ++ n.chars ∧ n.isMarked = true ∧
      Decimal.nearest x.negative n.value = .finite x := by
  obtain ⟨n, htext, hmarked, hrank, -⟩ := Binary64.isNumeral_magnitudeText layout x.rank_lt
  have hlt : n.value.rank < Binary64.rankLimit := hrank ▸ x.rank_lt
  refine ⟨n, by simp [text, Binary64.text, signChars, htext], hmarked, ?_⟩
  rw [Decimal.nearest_eq_finite _ hlt, Extended64.finite.injEq]
  cases x
  simp only [Binary64.mk.injEq, true_and]
  exact hrank

/-- An integer is written as a numeral that is not marked. -/
theorem integer_is_signed_numeral {i : Int}
    (hi : -0x8000000000000000 ≤ i ∧ i < 0x10000000000000000) :
    (integer i hi).text.toList = signChars (decide (i < 0)) ++ (Numeral.ofNat i.natAbs).chars := by
  rw [Numeral.chars_ofNat]
  by_cases hneg : i < 0 <;> simp [text, Text.signedDigits, signChars, hneg]

theorem text_is_signed_numeral (x : Number) : ∃ negative, ∃ n : Numeral,
    x.text.toList = signChars negative ++ n.chars ∧ ofNumeral? negative n.chars = some x := by
  cases x with
  | integer i hi =>
      refine ⟨_, _, integer_is_signed_numeral hi, ?_⟩
      have hdigits := (Numeral.ofNat i.natAbs).all_isDigit_chars
      have hnumeral := (Numeral.ofNat i.natAbs).skipNumber_chars
      rw [ofNumeral?, isJsonNumeral, hnumeral, if_neg (by simp), if_pos (by rw [hdigits]; rfl),
        Numeral.chars_ofNat, Text.digits, Nat.ofDigitChars_ten_toDigits, Numeral.signed_natAbs,
        ofInt?, dif_pos hi]
  | float x =>
      obtain ⟨n, htext, hmarked, hread⟩ := float_is_signed_numeral x
      refine ⟨x.negative, n, htext, ?_⟩
      rw [ofNumeral?, isJsonNumeral, n.skipNumber_chars, if_neg (by simp),
        if_neg (by rw [n.all_isDigit_chars, hmarked]; simp), n.ofChars?_chars,
        Option.bind_some, hread, Extended64.finite?, Option.map_some]

/-- **A number is read back from its text.** -/
theorem ofChars?_text (x : Number) : ofChars? x.text.toList = some x := by
  obtain ⟨negative, n, htext, hread⟩ := x.text_is_signed_numeral
  rw [htext, ← hread]
  cases negative with
  | true => rfl
  | false =>
      -- A numeral begins with a digit, so that no minus sign is found in front of it.
      have hhead : n.chars.head? ≠ some '-' := by
        rw [Numeral.chars, List.head?_append_of_ne_nil _ n.whole_ne_nil]
        intro hminus
        exact absurd (n.whole_isDigit '-' (List.mem_of_mem_head? hminus)) (by decide)
      have hchars : signChars false ++ n.chars = n.chars := List.nil_append _
      rw [hchars]
      unfold ofChars?
      split
      next heq => simp [heq] at hhead
      next => rfl

theorem mem_text {x : Number} {c : Char} (h : c ∈ x.text.toList) :
    c.isDigit = true ∨ c ∈ ['.', 'e', '-', '+'] := by
  obtain ⟨negative, n, htext, -⟩ := x.text_is_signed_numeral
  rw [htext] at h
  rcases List.mem_append.mp h with hsign | hnumeral
  · cases negative with
    | true =>
        rw [List.mem_singleton.mp hsign]
        exact Or.inr (by simp)
    | false => simp [signChars] at hsign
  · exact Numeral.mem_chars hnumeral

end Number

end NetDraft
