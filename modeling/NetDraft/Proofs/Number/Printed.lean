/-
Printed numbers are numerals that read back.

The shortest digits of a magnitude are laid out with zeros, a point or an exponent around them.
Whatever the layout, the result is a numeral of JSON, and zeros apart it stands for the decimal
number that the search has found; so it has the rank of the magnitude.
-/
import Mathlib.Data.List.Basic
import NetDraft.Proofs.Binary64.Shortest
import NetDraft.Proofs.Number.Numeral

namespace NetDraft

open Numeral (isDigit_of_mem_toDigits)

/-! ### Digits of natural numbers -/

/-- The first digit is a zero only for zero. -/
theorem head?_toDigits_ne {n : Nat} (hn : n ≠ 0) : (Nat.toDigits 10 n).head? ≠ some '0' := by
  induction n using Nat.strongRecOn with
  | ind n ih =>
      by_cases hsmall : n < 10
      · have hdigit : ∀ k < 10, k ≠ 0 → Nat.digitChar k ≠ '0' := by decide
        rw [Nat.toDigits_of_lt_base hsmall]
        simpa using hdigit n hsmall hn
      · have hsplit : Nat.toDigits 10 n = Nat.toDigits 10 (n / 10) ++ Nat.toDigits 10 (n % 10) := by
          rw [Nat.toDigits_append_toDigits (by decide) (by omega) (by omega), Nat.div_add_mod]
        rw [hsplit, List.head?_append_of_ne_nil _ Nat.toDigits_ne_nil]
        exact ih (n / 10) (by omega) (by omega)

/-- The digits of a natural number as a numeral. -/
def Numeral.ofNat (n : Nat) : Numeral where
  whole := Nat.toDigits 10 n
  fraction := []
  exponent := none
  whole_isDigit := isDigit_of_mem_toDigits
  fraction_isDigit := by simp
  whole_ne_nil := Nat.toDigits_ne_nil
  whole_proper := by
    by_cases hn : n = 0
    · subst hn
      exact Or.inl (Nat.toDigits_zero 10)
    · exact Or.inr (head?_toDigits_ne hn)

theorem Numeral.chars_ofNat (n : Nat) : (Numeral.ofNat n).chars = Text.digits n :=
  List.append_nil _

namespace Binary64

/-! ### Layouts -/

/-- A text is a numeral of a float with the given rank, and its exponent is of that size. -/
def IsNumeral (text : List Char) (rank : Nat) : Prop :=
  ∃ n : Numeral, n.chars = text ∧ n.isMarked = true ∧ n.value.rank = rank ∧
    ∀ e, n.exponent = some e → e.2 ≤ 401

/-- Digits with a leading one: there is no zero in front. -/
structure Leading (ds : List Char) : Prop where
  isDigit : ∀ c ∈ ds, c.isDigit = true
  ne_nil : ds ≠ []
  head_ne : ds.head? ≠ some '0'

/-- The decimal number of digits whose leading one has the given place. -/
def placed (ds : List Char) (leading : Int) : Decimal :=
  ⟨Nat.ofDigitChars 10 ds 0, leading + 1 - ds.length⟩

theorem isDigit_of_mem_zeros {k : Nat} : ∀ c ∈ List.replicate k '0', c.isDigit = true := by
  intro c hc
  rw [(List.mem_replicate.mp hc).2]
  rfl

theorem isDigit_of_mem_append {xs ys : List Char} (hxs : ∀ c ∈ xs, c.isDigit = true)
    (hys : ∀ c ∈ ys, c.isDigit = true) : ∀ c ∈ xs ++ ys, c.isDigit = true :=
  fun c hc => (List.mem_append.mp hc).elim (hxs c) (hys c)

/-- A numeral with a point and no exponent. -/
theorem isNumeral_point (whole fraction : List Char) {rank : Nat}
    (hwhole : ∀ c ∈ whole, c.isDigit = true) (hfraction : ∀ c ∈ fraction, c.isDigit = true)
    (hne : whole ≠ []) (hproper : whole = ['0'] ∨ whole.head? ≠ some '0') (hpoint : fraction ≠ [])
    (hrank : (⟨Nat.ofDigitChars 10 (whole ++ fraction) 0, -(fraction.length : Int)⟩ :
      Decimal).rank = rank) : IsNumeral (whole ++ '.' :: fraction) rank := by
  refine ⟨⟨whole, fraction, none, hwhole, hfraction, hne, hproper⟩, ?_, ?_, ?_, ?_⟩
  · cases fraction with
    | nil => exact absurd rfl hpoint
    | cons c rest => simp [Numeral.chars, Numeral.behindWhole, Numeral.exponentChars]
  · simp [Numeral.isMarked, hpoint]
  · rw [← hrank, Numeral.value, Numeral.exponentValue, Int.zero_sub]
  · simp

variable {ds : List Char}

/-- All digits are behind the point, with zeros between them and the point. -/
theorem isNumeral_below (h : Leading ds) {leading : Int} (hneg : leading < 0) :
    IsNumeral ('0' :: '.' :: (List.replicate (-leading - 1).toNat '0' ++ ds))
      (placed ds leading).rank := by
  refine isNumeral_point ['0'] _ (by simp)
    (isDigit_of_mem_append isDigit_of_mem_zeros h.isDigit) (by simp) (Or.inl rfl)
    (by simp [h.ne_nil]) ?_
  have hvalue : Nat.ofDigitChars 10 (['0'] ++ (List.replicate (-leading - 1).toNat '0' ++ ds)) 0
      = Nat.ofDigitChars 10 ds 0 := by
    rw [← List.append_assoc, List.singleton_append, ← List.replicate_succ,
      Nat.ofDigitChars_append, Nat.ofDigitChars_replicate_zero, Nat.mul_zero]
  have hexponent : -((List.replicate (-leading - 1).toNat '0' ++ ds).length : Int)
      = leading + 1 - ds.length := by
    rw [List.length_append, List.length_replicate]
    omega
  rw [hvalue, hexponent, placed]

/-- All digits are in front of the point, with zeros between them and the point. -/
theorem isNumeral_above (h : Leading ds) {leading : Int} (hneg : ¬leading < 0)
    (hlong : ds.length ≤ leading.toNat + 1) :
    IsNumeral (ds ++ List.replicate (leading.toNat + 1 - ds.length) '0' ++ ['.', '0'])
      (placed ds leading).rank := by
  have hhead : (ds ++ List.replicate (leading.toNat + 1 - ds.length) '0').head? ≠ some '0' := by
    rw [List.head?_append_of_ne_nil _ h.ne_nil]
    exact h.head_ne
  refine isNumeral_point _ ['0']
    (isDigit_of_mem_append h.isDigit isDigit_of_mem_zeros) (by simp) (by simp [h.ne_nil])
    (Or.inr hhead) (by simp) ?_
  have hvalue : Nat.ofDigitChars 10
      (ds ++ List.replicate (leading.toNat + 1 - ds.length) '0' ++ ['0']) 0
      = Nat.ofDigitChars 10 ds 0 * 10 ^ (leading.toNat + 1 - ds.length + 1) := by
    rw [List.append_assoc, ← List.replicate_succ', Nat.ofDigitChars_append,
      Nat.ofDigitChars_replicate_zero, Nat.mul_comm]
  have hexponent : -(['0'].length : Int) + (leading.toNat + 1 - ds.length + 1 : Nat)
      = leading + 1 - ds.length := by
    rw [List.length_singleton]
    omega
  rw [hvalue, Decimal.rank_mul_ten_pow, hexponent, placed]

/-- The point is among the digits. -/
theorem isNumeral_among (h : Leading ds) {leading : Int} (hneg : ¬leading < 0)
    (hlong : ¬ds.length ≤ leading.toNat + 1) :
    IsNumeral (ds.take (leading.toNat + 1) ++ '.' :: ds.drop (leading.toNat + 1))
      (placed ds leading).rank := by
  have hhead : (ds.take (leading.toNat + 1)).head? ≠ some '0' := by
    rw [List.head?_take, if_neg (by omega)]
    exact h.head_ne
  refine isNumeral_point _ _ (fun c hc => h.isDigit c (List.mem_of_mem_take hc))
    (fun c hc => h.isDigit c (List.mem_of_mem_drop hc)) (by simp [h.ne_nil]) (Or.inr hhead)
    (by simpa using hlong) ?_
  have hexponent : -((ds.drop (leading.toNat + 1)).length : Int) = leading + 1 - ds.length := by
    rw [List.length_drop]
    omega
  rw [List.take_append_drop, hexponent, placed]

theorem isNumeral_plainText (h : Leading ds) (leading : Int) :
    IsNumeral (plainText ds leading) (placed ds leading).rank := by
  unfold plainText
  by_cases hneg : leading < 0
  · rw [if_pos hneg]
    exact isNumeral_below h hneg
  · rw [if_neg hneg]
    by_cases hlong : ds.length ≤ leading.toNat + 1
    · rw [if_pos hlong]
      exact isNumeral_above h hneg hlong
    · rw [if_neg hlong]
      exact isNumeral_among h hneg hlong

theorem isNumeral_scientificText (h : Leading ds) {leading : Int} (hsize : leading.natAbs ≤ 401) :
    IsNumeral (scientificText ds leading) (placed ds leading).rank := by
  obtain ⟨hdigits, hne, hhead⟩ := h
  cases ds with
  | nil => exact absurd rfl hne
  | cons first rest =>
      refine ⟨⟨[first], rest, some (decide (leading < 0), leading.natAbs),
        fun c hc => hdigits c (List.mem_singleton.mp hc ▸ List.mem_cons_self),
        fun c hc => hdigits c (List.mem_cons_of_mem _ hc), by simp, Or.inr hhead⟩,
        ?_, by simp [Numeral.isMarked], ?_, fun e he => Option.some.inj he ▸ hsize⟩
      · cases rest <;>
          simp [scientificText, Numeral.chars, Numeral.behindWhole, Numeral.exponentChars]
      · have hexponent : Numeral.exponentValue (some (decide (leading < 0), leading.natAbs))
              - (rest.length : Int) = leading + 1 - ((first :: rest).length : Int) := by
          rw [Numeral.exponentValue_natAbs, List.length_cons]
          omega
        rw [Numeral.value, hexponent, placed, List.singleton_append]

/-! ### Magnitudes -/

/-- The significant digits have a leading one, and behind them there were only zeros. -/
theorem leading_significant {d : Decimal} (hd : d.digits ≠ 0) :
    Leading (significant d) ∧
      ∃ k, Nat.toDigits 10 d.digits = significant d ++ List.replicate k '0' := by
  have hhead := head?_toDigits_ne hd
  have hsplit : Nat.toDigits 10 d.digits = significant d ++
      List.replicate ((Nat.toDigits 10 d.digits).reverse.takeWhile (· == '0')).length '0' := by
    have hzeros : (Nat.toDigits 10 d.digits).reverse.takeWhile (· == '0') = List.replicate
        ((Nat.toDigits 10 d.digits).reverse.takeWhile (· == '0')).length '0' :=
      List.eq_replicate_of_mem fun c hc => by simpa using List.mem_takeWhile_imp hc
    rw [← List.reverse_replicate, ← hzeros, significant, ← List.reverse_append,
      List.takeWhile_append_dropWhile, List.reverse_reverse]
  have hne : significant d ≠ [] := by
    intro hnil
    rw [hnil, List.nil_append] at hsplit
    have hpos := Nat.toDigits_ne_nil (n := d.digits) (b := 10)
    cases hlen : ((Nat.toDigits 10 d.digits).reverse.takeWhile (· == '0')).length with
    | zero => rw [hlen] at hsplit; exact hpos hsplit
    | succ k => rw [hlen] at hsplit; exact hhead (by rw [hsplit]; rfl)
  have hdigits := isDigit_of_mem_toDigits (k := d.digits)
  refine ⟨⟨fun c hc => ?_, hne, ?_⟩, _, hsplit⟩
  · rw [hsplit] at hdigits
    exact hdigits c (List.mem_append_left _ hc)
  · rwa [hsplit, List.head?_append_of_ne_nil _ hne] at hhead

/-- The significant digits in their place have the rank of the number. -/
theorem rank_placed_significant {d : Decimal} (hd : d.digits ≠ 0) :
    (placed (significant d) (d.magnitude - 1)).rank = d.rank := by
  obtain ⟨-, k, hsplit⟩ := leading_significant hd
  have hvalue : d.digits = Nat.ofDigitChars 10 (significant d) 0 * 10 ^ k := by
    rw [← Nat.ofDigitChars_ten_toDigits (n := d.digits), hsplit, Nat.ofDigitChars_append,
      Nat.ofDigitChars_replicate_zero, Nat.mul_comm]
  have hexponent : d.magnitude - 1 + 1 - (significant d).length = d.exponent + k := by
    rw [Decimal.magnitude, hsplit, List.length_append, List.length_replicate]
    omega
  rw [placed, hexponent, ← Decimal.rank_mul_ten_pow, ← hvalue]

/-- **What is printed for a magnitude is a numeral of its rank.** -/
theorem isNumeral_magnitudeText (layout : Layout) {r : Nat} (hr : r < rankLimit) :
    IsNumeral (magnitudeText layout r) r := by
  unfold magnitudeText
  by_cases hzero : r = 0
  · rw [if_pos hzero, hzero]
    exact isNumeral_point ['0'] ['0'] (by simp) (by simp) (by simp) (Or.inl rfl) (by simp)
      (Decimal.rank_eq_zero (Or.inl rfl))
  · rw [if_neg hzero]
    have hrank := rank_shortest layout.tie r
    dsimp only
    generalize shortest layout.tie r = d at hrank ⊢
    have hd : d.digits ≠ 0 := fun h =>
      hzero (hrank.symm.trans (Decimal.rank_eq_zero (Or.inl h)))
    have hleading := (leading_significant hd).1
    have hsmall : ¬d.magnitude < -400 := fun h =>
      hzero (hrank.symm.trans (Decimal.rank_eq_zero (Or.inr h)))
    have hlarge : ¬400 < d.magnitude := fun h =>
      Nat.not_lt.mpr (Decimal.rankLimit_le_rank hd h) (hrank ▸ hr)
    rw [← hrank, ← rank_placed_significant hd]
    split
    · exact isNumeral_plainText hleading _
    · exact isNumeral_scientificText hleading (by omega)

end Binary64

end NetDraft
