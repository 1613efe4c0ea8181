/-
What the numbers of JSON stand for as plain scalars.

Both languages write integers and floats alike as far as JSON writes them: an integer has no point
and no exponent, a float has one of them, and a zero in front stands alone, so that no number is
taken for a text.  The reader of plain scalars rounds correctly, which the reader of JSON texts
does not, so here every float comes back as it was.
-/
import NetDraft.Proofs.Number.Reading
import NetDraft.Shape.OfNode

namespace NetDraft

open Number (signChars)

/-! ### Digits -/

namespace Yaml

theorem isDigit_iff {c : Char} : c.isDigit = true ↔ '0' ≤ c ∧ c ≤ '9' := by
  simp [Char.isDigit, Char.le_def, UInt32.le_iff_toNat_le]

theorem digitIn?_ten (c : Char) :
    digitIn? 10 c = if c.isDigit then some (c.toNat - '0'.toNat) else none := by
  unfold digitIn? hexValue?
  by_cases hc : '0' ≤ c ∧ c ≤ '9'
  · have hsmall : c.toNat ≤ '9'.toNat := Char.le_def.mp hc.2
    have hlt : c.toNat - '0'.toNat < 10 := Nat.lt_of_le_of_lt (Nat.sub_le_sub_right hsmall _) (by decide)
    rw [if_pos hc, if_pos (isDigit_iff.mpr hc)]
    exact if_pos hlt
  · rw [if_neg hc, if_neg (mt isDigit_iff.mp hc)]
    -- The letters are digits of larger bases.
    split
    · next n hn =>
        split at hn
        · rw [← Option.some.inj hn, if_neg (by omega)]
        · split at hn
          · rw [← Option.some.inj hn, if_neg (by omega)]
          · cases hn
    · rfl

theorem foldlM_digitIn?_ten {cs : List Char} (hcs : ∀ c ∈ cs, c.isDigit = true) :
    ∀ value, cs.foldlM (fun value c => (digitIn? 10 c).map (value * 10 + ·)) value
      = some (Nat.ofDigitChars 10 cs value) := by
  induction cs with
  | nil => exact fun _ => rfl
  | cons c cs ih =>
      intro value
      rw [List.forall_mem_cons] at hcs
      rw [List.foldlM_cons, digitIn?_ten, if_pos hcs.1, Nat.ofDigitChars_cons, Nat.mul_comm 10]
      exact ih hcs.2 _

theorem digitsIn?_ten {cs : List Char} (hcs : cs.all Char.isDigit = true) (hne : cs ≠ []) :
    digitsIn? 10 cs = some (Nat.ofDigitChars 10 cs 0) := by
  rw [digitsIn?, if_neg (by simpa using hne), foldlM_digitIn?_ten (List.all_eq_true.mp hcs)]

theorem foldlM_digitIn?_ten_eq_none {cs : List Char} (hcs : cs.all Char.isDigit = false) :
    ∀ value, cs.foldlM (fun value c => (digitIn? 10 c).map (value * 10 + ·)) value = none := by
  induction cs with
  | nil => cases hcs
  | cons c cs ih =>
      intro value
      rw [List.foldlM_cons, digitIn?_ten]
      by_cases hc : c.isDigit = true
      · rw [if_pos hc]
        exact ih (by simpa [hc] using hcs) _
      · rw [if_neg hc]
        rfl

/-- A text that does not consist of digits only is no number in digits. -/
theorem digitsIn?_ten_eq_none {cs : List Char} (hcs : cs.all Char.isDigit = false) :
    digitsIn? 10 cs = none := by
  unfold digitsIn?
  split
  · rfl
  · exact foldlM_digitIn?_ten_eq_none hcs 0

end Yaml

/-! ### Signs -/

namespace Numeral

variable (n : Numeral)

/-- A numeral begins with a digit. -/
theorem exists_head : ∃ c rest, n.chars = c :: rest ∧ c.isDigit = true := by
  cases hwhole : n.whole with
  | nil => exact absurd hwhole n.whole_ne_nil
  | cons c rest =>
      have hc : c.isDigit = true := n.whole_isDigit c (by simp [hwhole])
      exact ⟨c, _, by rw [chars, hwhole, List.cons_append], hc⟩

/-- No sign stands in front of it. -/
theorem chars_ne_cons {sign : Char} (hsign : sign.isDigit = false) (rest : List Char) :
    n.chars ≠ sign :: rest := by
  intro heq
  obtain ⟨c, more, hchars, hc⟩ := n.exists_head
  obtain ⟨rfl, -⟩ := List.cons.inj (hchars.symm.trans heq)
  rw [hsign] at hc
  cases hc

theorem splitSign_signed (negative : Bool) :
    Decimal.splitSign (signChars negative ++ n.chars) = (negative, n.chars) := by
  cases negative with
  | true => rfl
  | false =>
      show Decimal.splitSign n.chars = _
      unfold Decimal.splitSign
      split
      · next heq => exact absurd heq (n.chars_ne_cons rfl _)
      · next heq => exact absurd heq (n.chars_ne_cons rfl _)
      · rfl

/-- No digits stand behind a zero in front. -/
theorem hasIdleZero_signed (negative : Bool) :
    Yaml.hasIdleZero (signChars negative ++ n.chars) = false := by
  rw [Yaml.hasIdleZero, splitSign_signed]
  split
  · next rest heq =>
      rcases n.whole_proper with hzero | hhead
      · have hrest : rest = n.behindWhole := by
          rw [chars, hzero] at heq
          exact (List.cons.inj heq).2.symm
        cases hbehind : n.behindWhole with
        | nil => simp [hrest, hbehind]
        | cons c more =>
            have hc : c.isDigit = false := n.ends_behindWhole c (by simp [hbehind])
            simp [hrest, hbehind, hc]
      · have hchars : n.chars.head? = n.whole.head? := List.head?_append_of_ne_nil _ n.whole_ne_nil
        exact absurd (hchars ▸ congrArg List.head? heq) hhead
  · rfl

/-- No letter behind a zero names another base. -/
theorem basedNatural?_chars : Yaml.basedNatural? n.chars = none := by
  have hletter : ∀ c ∈ ['x', 'o', 'b'], c ∉ n.chars := by
    intro c hc hmem
    have hall : ∀ c ∈ ['x', 'o', 'b'], ¬(c.isDigit = true ∨ c ∈ ['.', 'e', '-', '+']) := by
      simp [Char.isDigit]
    exact hall c hc (mem_chars hmem)
  unfold Yaml.basedNatural?
  split
  · next heq => exact absurd (by simp [heq]) (hletter 'x' (by decide))
  · next heq => exact absurd (by simp [heq]) (hletter 'o' (by decide))
  · next heq => exact absurd (by simp [heq]) (hletter 'b' (by decide))
  · rfl

/-! ### Integers -/

/-- The number of the digits, if the numeral has nothing else. -/
def digits? : Option Nat := if n.isMarked then none else some (Nat.ofDigitChars 10 n.chars 0)

theorem digits?_ofNat (k : Nat) : (ofNat k).digits? = some k := by
  have hplain : (ofNat k).isMarked = false := rfl
  rw [digits?, if_neg (by simp [hplain]), chars_ofNat, Text.digits, Nat.ofDigitChars_ten_toDigits]

theorem digitsIn?_chars : Yaml.digitsIn? 10 n.chars = n.digits? := by
  have hne : n.chars ≠ [] := by
    obtain ⟨c, rest, hchars, -⟩ := n.exists_head
    simp [hchars]
  unfold digits?
  by_cases hmarked : n.isMarked = true
  · rw [if_pos hmarked, Yaml.digitsIn?_ten_eq_none (by simp [n.all_isDigit_chars, hmarked])]
  · rw [if_neg hmarked, Yaml.digitsIn?_ten (by simp [n.all_isDigit_chars, hmarked]) hne]

theorem natural?_signed (bound : Nat) (negative : Bool) :
    Yaml.natural? bound (signChars negative ++ n.chars)
      = if negative then none else n.digits?.filter (· < bound) := by
  cases negative with
  | true =>
      have hidle : Yaml.hasIdleZero ('-' :: n.chars) = false := n.hasIdleZero_signed true
      have hnone : Yaml.digitsIn? 10 ('-' :: n.chars) = none :=
        Yaml.digitsIn?_ten_eq_none (by rw [List.all_cons]; rfl)
      have hbased : Yaml.basedNatural? ('-' :: n.chars) = none := rfl
      show Yaml.natural? bound ('-' :: n.chars) = none
      unfold Yaml.natural?
      rw [hidle]
      simp [hnone, hbased]
  | false =>
      show Yaml.natural? bound n.chars = n.digits?.filter (· < bound)
      have hidle : Yaml.hasIdleZero n.chars = false := n.hasIdleZero_signed false
      unfold Yaml.natural?
      rw [hidle]
      split
      · next heq => exact absurd heq (n.chars_ne_cons rfl _)
      · dsimp only
        rw [n.basedNatural?_chars, n.digitsIn?_chars]
        rfl

theorem negative?_signed (bound : Nat) (negative : Bool) :
    Yaml.negative? bound (signChars negative ++ n.chars)
      = if negative then (n.digits?.filter (· ≤ bound)).map fun k => -(k : Int) else none := by
  cases negative with
  | true =>
      have hidle : Yaml.hasIdleZero ('-' :: n.chars) = false := n.hasIdleZero_signed true
      show Yaml.negative? bound ('-' :: n.chars) = _
      rw [Yaml.negative?, n.basedNatural?_chars, n.digitsIn?_chars, hidle]
      rfl
  | false =>
      show Yaml.negative? bound n.chars = _
      unfold Yaml.negative?
      split
      · next heq => exact absurd heq (n.chars_ne_cons rfl _)
      · rfl

/-- A numeral with a point or an exponent is no integer. -/
theorem integer?_marked (negative : Bool) (h : n.isMarked = true) :
    Yaml.integer? (signChars negative ++ n.chars) = none := by
  have hnone : n.digits? = none := if_pos h
  simp [Yaml.integer?, natural?_signed, negative?_signed, hnone]

/-! ### Floats and words -/

theorem toLower_of_isDigit {c : Char} (hc : c.isDigit = true) : c.toLower = c := by
  have hsmall : c.val ≤ '9'.val := Char.le_def.mp (Yaml.isDigit_iff.mp hc).2
  refine dif_neg fun hletter => ?_
  exact absurd (UInt32.le_trans hletter.1 hsmall) (by decide)

section

variable {n : Numeral} {negative : Bool} {s : String}

/-- A signed numeral is none of the words that do not begin like one. -/
theorem signed_notMem (hs : s.toList = signChars negative ++ n.chars) {words : List String}
    (hwords : ∀ word ∈ words,
      (Decimal.splitSign word.toList).2.head?.any Char.isDigit = false) : s ∉ words := by
  intro hmem
  have hword := hwords s hmem
  obtain ⟨c, rest, hchars, hc⟩ := n.exists_head
  rw [hs, n.splitSign_signed, hchars] at hword
  simp [hc] at hword

theorem ofText?_signed (hs : s.toList = signChars negative ++ n.chars) :
    Extended64.ofText? s = some (Decimal.nearest negative n.value) := by
  have hword : ∀ word : String, word.toList.head?.any Char.isDigit = false →
      String.ofList (n.chars.map Char.toLower) ≠ word := by
    rintro word hword rfl
    obtain ⟨c, rest, hchars, hc⟩ := n.exists_head
    rw [String.toList_ofList, hchars] at hword
    simp [toLower_of_isDigit hc, hc] at hword
  rw [Extended64.ofText?, hs, n.splitSign_signed]
  dsimp only
  split
  · next heq => exact absurd heq (hword _ rfl)
  · next heq => exact absurd heq (hword _ rfl)
  · next heq => exact absurd heq (hword _ rfl)
  · rw [n.ofChars?_chars, Option.map_some]

theorem float?_signed (hs : s.toList = signChars negative ++ n.chars) {x : Binary64}
    (hread : Decimal.nearest negative n.value = .finite x) : Yaml.float? s = some (.finite x) := by
  have hplus : ∀ rest, s.toList ≠ '+' :: rest := by
    intro rest
    rw [hs]
    cases negative with
    | true => exact fun heq => absurd (List.cons.inj heq).1 (by decide)
    | false => exact n.chars_ne_cons rfl rest
  have hwords : s ∉ [".inf", ".Inf", ".INF", "-.inf", "-.Inf", "-.INF", ".nan", ".NaN", ".NAN"] :=
    signed_notMem hs (by decide)
  unfold Yaml.float?
  split
  · next heq => exact absurd heq (hplus _)
  · simp only [List.mem_cons, List.not_mem_nil, or_false, not_or] at hwords
    simp [hwords, ofText?_signed hs, hread]

/-- A signed numeral is neither empty nor a word. -/
theorem plainMeaning_signed (hs : s.toList = signChars negative ++ n.chars) : Yaml.plainMeaning s
    = match Yaml.integer? s.toList with
      | some m => m
      | none =>
        match Yaml.float? s with
        | some x => .float x
        | none => .text s := by
  have hwords : s ∉ ["", "null", "Null", "NULL", "~", "true", "True", "TRUE", "false", "False",
      "FALSE"] := signed_notMem hs (by decide)
  have hidle : Yaml.hasIdleZero s.toList = false := hs ▸ n.hasIdleZero_signed negative
  simp only [List.mem_cons, List.not_mem_nil, or_false, not_or] at hwords
  cases hinteger : Yaml.integer? s.toList with
  | some m => simp [Yaml.plainMeaning, Yaml.isNullWord, Yaml.flagOf?, hwords, hinteger]
  | none =>
      cases hfloat : Yaml.float? s <;>
        simp [Yaml.plainMeaning, Yaml.isNullWord, Yaml.flagOf?, hwords, hidle, hinteger, hfloat]

end

end Numeral

/-! ### Numbers -/

namespace Number

/-- The text of an integer stands for the integer. -/
theorem integer?_text {i : Int} (hi : -0x8000000000000000 ≤ i ∧ i < 0x10000000000000000) :
    Yaml.integer? (integer i hi).text.toList = some (.integer i) := by
  have hbounds : Nat.pow 2 64 = 0x10000000000000000 ∧ Nat.pow 2 63 = 0x8000000000000000 := by decide
  rw [integer_is_signed_numeral, Yaml.integer?, Numeral.natural?_signed, Numeral.negative?_signed,
    Numeral.digits?_ofNat, hbounds.1, hbounds.2]
  by_cases hneg : i < 0
  · obtain ⟨n, rfl⟩ : ∃ n : Nat, i = -n := ⟨i.natAbs, by omega⟩
    have hpos : 0 < n := by omega
    have hsmall : n ≤ 0x8000000000000000 := by omega
    simp [hpos, hsmall, Option.filter]
  · obtain ⟨n, rfl⟩ : ∃ n : Nat, i = n := ⟨i.natAbs, by omega⟩
    have hsmall : n < 0x10000000000000000 := by omega
    simp [hsmall, Option.filter]

theorem natural?_text {n : Nat} (hn : n < 0x10000000000000000) :
    Yaml.natural? (Nat.pow 2 64) (ofNat n).text.toList = some n := by
  have hbound : Nat.pow 2 64 = 0x10000000000000000 := by decide
  have hmin : min n 0xffffffffffffffff = n := by omega
  rw [ofNat, integer_is_signed_numeral, Numeral.natural?_signed, Numeral.digits?_ofNat, hbound,
    if_neg (by simp)]
  simp [hmin, hn, Option.filter]

/-- No number is a word for nothing. -/
theorem not_isNullWord_text (x : Number) : (x.text.isEmpty || Yaml.isNullWord x.text) = false := by
  obtain ⟨negative, n, htext, -⟩ := x.text_is_signed_numeral
  have hwords : x.text ∉ ["", "null", "Null", "NULL", "~"] :=
    Numeral.signed_notMem htext (by decide)
  simp only [List.mem_cons, List.not_mem_nil, or_false, not_or] at hwords
  simp [Yaml.isNullWord, hwords]

/-- **A number is what its text stands for.** -/
theorem plainMeaning_text (x : Number) : (Yaml.plainMeaning x.text).number = .ok x := by
  cases x with
  | integer i hi =>
      rw [Numeral.plainMeaning_signed (integer_is_signed_numeral hi), integer?_text]
      show Yaml.Meaning.number (.integer i) = _
      rw [Yaml.Meaning.number, ofInt?, dif_pos hi]
  | float x =>
      obtain ⟨n, htext, hmarked, hread⟩ := float_is_signed_numeral x
      rw [Numeral.plainMeaning_signed htext, htext, n.integer?_marked _ hmarked,
        Numeral.float?_signed htext hread]
      rfl

end Number

end NetDraft
