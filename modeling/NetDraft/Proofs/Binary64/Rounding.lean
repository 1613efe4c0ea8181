/-
Rounding to the nearest double is a function of the quotient.

A quotient is rounded to the nearest whole number of steps, the even one of two.
`nearestRank` takes a numerator and a denominator, and the rank it gives depends only on their
quotient: a common factor does not matter.  A quotient that is the magnitude of a rank gives that
rank back, and quotients far outside the range of the format give rank zero or one that is too
large, which is what `Decimal.nearest` relies on when it looks at nothing but the size of a
numeral.
-/
import Mathlib.Algebra.Group.Nat.Defs
import NetDraft.Decimal

namespace NetDraft

namespace Binary64

/-! ### Powers

The definitions call `Nat.pow` by its name.  The laws of powers are about the sign for it.
-/

theorem pow_eq (b k : Nat) : Nat.pow b k = b ^ k := rfl

theorem unit_eq : unit = 2 ^ 1074 := pow_eq 2 1074

theorem rankLimit_eq : rankLimit = 2047 * 2 ^ 52 := rfl

theorem nearestRank_eq (num den : Nat) : nearestRank num den =
    ((num * unit / den).log2 - 52) * 2 ^ 52
      + nearestWhole (num * unit) (den * 2 ^ ((num * unit / den).log2 - 52)) := rfl

/-! ### The nearest whole number -/

/-- Rounding is off by no more than one half, and lands on an even number where it is off by one
half. -/
theorem nearestWhole_nearest {den : Nat} (hden : 0 < den) (num : Nat) :
    2 * num ≤ 2 * (den * nearestWhole num den) + den ∧
      2 * (den * nearestWhole num den) ≤ 2 * num + den ∧
      (2 * num = 2 * (den * nearestWhole num den) + den ∨
        2 * (den * nearestWhole num den) = 2 * num + den → nearestWhole num den % 2 = 0) := by
  have hnum := Nat.div_add_mod num den
  have hrest := Nat.mod_lt num hden
  unfold nearestWhole
  dsimp only
  generalize num / den = q at *
  generalize num % den = r at *
  split
  next hlow => omega
  next hlow =>
    split
    next hhigh => rw [Nat.mul_add]; omega
    next hhigh =>
      -- Half way between two whole numbers, one of which is even.
      rcases Nat.mod_two_eq_zero_or_one q with heven | hodd
      · rw [heven, Nat.add_zero]; omega
      · rw [hodd, Nat.mul_add]; omega

/-! ### A common factor -/

theorem nearestWhole_mul_left {a : Nat} (ha : 0 < a) (num den : Nat) :
    nearestWhole (a * num) (a * den) = nearestWhole num den := by
  have hlow : 2 * (a * (num % den)) < a * den ↔ 2 * (num % den) < den := by
    rw [Nat.mul_left_comm, Nat.mul_lt_mul_left ha]
  have hhigh : a * den < 2 * (a * (num % den)) ↔ den < 2 * (num % den) := by
    rw [Nat.mul_left_comm, Nat.mul_lt_mul_left ha]
  simp only [nearestWhole, Nat.mul_div_mul_left _ _ ha, Nat.mul_mod_mul_left, hlow, hhigh]

theorem nearestRank_mul_left {a : Nat} (ha : 0 < a) (num den : Nat) :
    nearestRank (a * num) (a * den) = nearestRank num den := by
  simp only [nearestRank_eq, Nat.mul_assoc a, Nat.mul_div_mul_left _ _ ha,
    nearestWhole_mul_left ha]

/-! ### Magnitudes -/

/-- A whole number is nearest to itself. -/
theorem nearestWhole_mul_right {den : Nat} (hden : 0 < den) (w : Nat) :
    nearestWhole (w * den) den = w := by
  simp only [nearestWhole, Nat.mul_mod_left, Nat.mul_div_left _ hden]
  rw [if_pos (by omega)]

/-- Below 2⁵³ units every unit has a rank of its own. -/
theorem unitsOfRank_of_lt {r : Nat} (h : r < 2 ^ 52) : unitsOfRank r = r := by
  simp only [unitsOfRank, pow_eq]
  rw [Nat.div_eq_of_lt h, Nat.mod_eq_of_lt h]

/-- Above that, a rank is an exponent and a fraction of 52 bits. -/
theorem unitsOfRank_of_div {r e : Nat} (h : r / 2 ^ 52 = e + 1) :
    unitsOfRank r = (2 ^ 52 + r % 2 ^ 52) * 2 ^ e := by
  simp only [unitsOfRank, pow_eq]
  split
  · next hzero => exact absurd (hzero.symm.trans h) (Nat.zero_ne_add_one e)
  · next hsucc => rw [Nat.succ.inj (hsucc.symm.trans h)]

/-- The units of an exponent and a fraction need that many bits above the fraction. -/
theorem log2_mul_two_pow (e : Nat) {fraction : Nat} (h : fraction < 2 ^ 52) :
    ((2 ^ 52 + fraction) * 2 ^ e).log2 = 52 + e := by
  have hpos : 0 < 2 ^ e := Nat.two_pow_pos e
  refine (Nat.log2_eq_iff (Nat.mul_ne_zero (by omega) (Nat.ne_of_gt hpos))).mpr ⟨?_, ?_⟩
  · rw [Nat.pow_add]
    exact Nat.mul_le_mul_right _ (by omega)
  · rw [Nat.add_right_comm, Nat.pow_add]
    exact Nat.mul_lt_mul_of_pos_right (by omega) hpos

/-- **The magnitude of a rank has that rank**, whatever denominator it is written with. -/
theorem nearestRank_of_units {r num den : Nat} (hden : 0 < den)
    (h : num * unit = unitsOfRank r * den) : nearestRank num den = r := by
  rw [nearestRank_eq, h, Nat.mul_div_left _ hden]
  rcases Nat.lt_or_ge r (2 ^ 52) with hlt | hge
  · have hlog : r.log2 - 52 = 0 := by
      rcases Nat.eq_zero_or_pos r with rfl | hpos
      · decide
      · have := (Nat.log2_lt (Nat.ne_of_gt hpos)).mpr hlt
        omega
    rw [unitsOfRank_of_lt hlt, hlog, Nat.pow_zero, Nat.mul_one, nearestWhole_mul_right hden,
      Nat.zero_mul, Nat.zero_add]
  · obtain ⟨e, he⟩ := Nat.exists_eq_succ_of_ne_zero
      (Nat.ne_of_gt (Nat.div_pos hge (Nat.two_pow_pos 52)))
    have hfraction : r % 2 ^ 52 < 2 ^ 52 := Nat.mod_lt _ (Nat.two_pow_pos 52)
    have hsplit := Nat.div_add_mod r (2 ^ 52)
    rw [he, Nat.succ_eq_add_one, Nat.mul_add, Nat.mul_one, Nat.add_assoc] at hsplit
    rw [unitsOfRank_of_div he, log2_mul_two_pow e hfraction, Nat.add_sub_cancel_left,
      Nat.mul_assoc, Nat.mul_comm (2 ^ e) den,
      nearestWhole_mul_right (Nat.mul_pos hden (Nat.two_pow_pos e)), Nat.mul_comm e, hsplit]

/-! ### Far outside the range -/

/-- A quotient below half a unit has rank zero. -/
theorem nearestRank_eq_zero {num den : Nat} (h : 2 * (num * unit) < den) :
    nearestRank num den = 0 := by
  have hsmall : num * unit < den := by omega
  have hlog : (num * unit / den).log2 - 52 = 0 := by
    rw [Nat.div_eq_of_lt hsmall]
    decide
  rw [nearestRank_eq]
  unfold nearestWhole
  dsimp only
  rw [hlog, Nat.pow_zero, Nat.mul_one, Nat.div_eq_of_lt hsmall, Nat.mod_eq_of_lt hsmall, if_pos h,
    Nat.zero_mul, Nat.add_zero]

/-- Rounding goes down by less than one. -/
theorem div_le_nearestWhole (num den : Nat) : num / den ≤ nearestWhole num den := by
  unfold nearestWhole
  dsimp only
  split
  · exact Nat.le_refl _
  · split <;> omega

/-- A quotient of 2²⁰⁹⁸ units or more has a rank that is too large. -/
theorem rankLimit_le_nearestRank {num den : Nat} (hden : 0 < den)
    (h : 2 ^ 2098 * den ≤ num * unit) : rankLimit ≤ nearestRank num den := by
  have hq : 2 ^ 2098 ≤ num * unit / den := (Nat.le_div_iff_mul_le hden).mpr h
  have hne : num * unit / den ≠ 0 := Nat.ne_of_gt (Nat.lt_of_lt_of_le (Nat.two_pow_pos _) hq)
  have hlog : 2098 ≤ (num * unit / den).log2 := (Nat.le_log2 hne).mpr hq
  obtain ⟨k, hk⟩ : ∃ k, (num * unit / den).log2 = k + 52 :=
    ⟨_, (Nat.sub_add_cancel (by omega)).symm⟩
  have hself : 2 ^ (k + 52) ≤ num * unit / den := hk ▸ Nat.log2_self_le hne
  -- The cut leaves the leading bit and 52 more.
  have hcut : 2 ^ 52 ≤ nearestWhole (num * unit) (den * 2 ^ k) := by
    refine Nat.le_trans ?_ (div_le_nearestWhole _ _)
    rw [← Nat.div_div_eq_div_mul, Nat.le_div_iff_mul_le (Nat.two_pow_pos k), ← Nat.pow_add,
      Nat.add_comm]
    exact hself
  have hexponent : 2046 * 2 ^ 52 ≤ k * 2 ^ 52 := Nat.mul_le_mul_right _ (by omega)
  rw [nearestRank_eq, rankLimit_eq, hk, Nat.add_sub_cancel, Nat.succ_mul 2046]
  exact Nat.add_le_add hexponent hcut

end Binary64

end NetDraft
