/-
Where the reader of floats rounds only once.

The reader rounds its significand, then the power of ten, and then their product or quotient.  A
whole number below 2⁵³ times a power of two is a magnitude of the format, so that the first two
steps change nothing for a significand below 2⁵³ and a power up to 10²², which is 5²² · 2²².  Then
the last step is the correct rounding of the decimal number itself.
-/
import NetDraft.Json.NumberText
import NetDraft.Proofs.Binary64.Shortest

namespace NetDraft

namespace Binary64

/-! ### Whole numbers -/

/-- A whole number below 2⁵³ times a power of two is the magnitude of a rank. -/
theorem exists_rank {m : Nat} (hm : m < 2 ^ 53) (c : Nat) :
    ∃ r, unitsOfRank r = m * 2 ^ c ∧ r < (c + 2) * 2 ^ 52 := by
  rcases Nat.lt_or_ge (m * 2 ^ c) (2 ^ 52) with hsmall | hlarge
  · exact ⟨_, unitsOfRank_of_lt hsmall, by omega⟩
  · have hne : m ≠ 0 := by
      rintro rfl
      rw [Nat.zero_mul] at hlarge
      exact absurd hlarge (by decide)
    have hlow : 2 ^ m.log2 ≤ m := Nat.log2_self_le hne
    have hhigh : m < 2 ^ (m.log2 + 1) := Nat.lt_log2_self
    have hlog : m.log2 ≤ 52 := by
      have := (Nat.log2_lt hne).mpr hm
      omega
    have hsum : 52 ≤ m.log2 + c := by
      have hlt : 2 ^ 52 < 2 ^ (m.log2 + 1 + c) := by
        rw [Nat.pow_add]
        exact Nat.lt_of_le_of_lt hlarge (Nat.mul_lt_mul_of_pos_right hhigh (Nat.two_pow_pos c))
      have := (Nat.pow_lt_pow_iff_right (by decide)).mp hlt
      omega
    -- The leading bit is moved to its place, and the exponent says by how much.
    obtain ⟨e, he⟩ : ∃ e, m.log2 + c = 52 + e := ⟨m.log2 + c - 52, by omega⟩
    obtain ⟨j, hj⟩ : ∃ j, 52 = m.log2 + j := ⟨52 - m.log2, by omega⟩
    have hfloor : 2 ^ 52 ≤ m * 2 ^ j := by
      rw [hj, Nat.pow_add]
      exact Nat.mul_le_mul_right _ hlow
    have hceil : m * 2 ^ j < 2 ^ 53 := by
      have hpow : 2 ^ 53 = 2 ^ (m.log2 + 1) * 2 ^ j := by
        rw [← Nat.pow_add]
        congr 1
        omega
      rw [hpow]
      exact Nat.mul_lt_mul_of_pos_right hhigh (Nat.two_pow_pos j)
    obtain ⟨fraction, hfraction⟩ := Nat.exists_eq_add_of_le hfloor
    have hlt : fraction < 2 ^ 52 := by omega
    refine ⟨(e + 1) * 2 ^ 52 + fraction, ?_, by omega⟩
    have hdiv : ((e + 1) * 2 ^ 52 + fraction) / 2 ^ 52 = e + 1 := by omega
    have hmod : ((e + 1) * 2 ^ 52 + fraction) % 2 ^ 52 = fraction := by omega
    rw [unitsOfRank_of_div hdiv, hmod, ← hfraction, Nat.mul_assoc, ← Nat.pow_add]
    congr 2
    omega

theorem ofRatio?_eq_some {negative : Bool} {num den r : Nat} (h : nearestRank num den = r)
    (hr : r < rankLimit) : ofRatio? negative num den = some ⟨negative, r, hr⟩ := by
  subst h
  unfold ofRatio?
  exact dif_pos hr

private theorem exists_whole_of_unit {m k j : Nat} (hunit : unit = 2 ^ j) (hm : m < 2 ^ 53)
    (hk : k + j + 2 ≤ 2047) : ∃ x : Binary64,
      ofRatio? false (m * 2 ^ k) 1 = some x ∧ x.negative = false ∧ x.units = m * 2 ^ k * unit := by
  obtain ⟨r, hunits, hlt⟩ := exists_rank hm (k + j)
  have hr : r < rankLimit := Nat.lt_of_lt_of_le hlt (Nat.mul_le_mul_right _ hk)
  have hvalue : unitsOfRank r = m * 2 ^ k * unit := by
    rw [hunits, hunit, Nat.pow_add, Nat.mul_assoc]
  have hnearest : nearestRank (m * 2 ^ k) 1 = r :=
    nearestRank_of_units Nat.one_pos (by rw [hvalue, Nat.mul_one])
  exact ⟨⟨false, r, hr⟩, ofRatio?_eq_some hnearest hr, rfl, hvalue⟩

/-- A whole number that is small but for its factors of two is a number of the format. -/
theorem exists_whole {m k : Nat} (hm : m < 2 ^ 53) (hk : k ≤ 900) : ∃ x : Binary64,
    ofRatio? false (m * 2 ^ k) 1 = some x ∧ x.negative = false ∧ x.units = m * 2 ^ k * unit :=
  exists_whole_of_unit unit_eq hm (by omega)

private theorem pos_of_eq_two_pow {n k : Nat} (h : n = 2 ^ k) : 0 < n := h ▸ Nat.two_pow_pos k

theorem unit_pos : 0 < unit := pos_of_eq_two_pow unit_eq

end Binary64

namespace Json

open Binary64 (nearestRank unit unit_pos ofRatio?_eq_some)

/-- A power of ten up to 10²² is a number of the format. -/
theorem exists_powerOfTen {k : Nat} (hk : k ≤ 22) : ∃ p : Binary64,
    Binary64.powerOfTen? k = some p ∧ p.negative = false ∧ p.units = 10 ^ k * unit := by
  have hfive : 5 ^ k < 2 ^ 53 :=
    Nat.lt_of_le_of_lt (Nat.pow_le_pow_right (by decide) hk) (by decide)
  have hten : 10 ^ k = 5 ^ k * 2 ^ k := by rw [← Nat.mul_pow]
  obtain ⟨p, hp, hsign, hunits⟩ := Binary64.exists_whole hfive (k := k) (by omega)
  rw [← hten] at hp hunits
  exact ⟨p, hp, hsign, hunits⟩

/-- **A decimal number with a small significand and a small exponent is read correctly.** -/
theorem floatOf?_eq_some {x : Binary64} {d : Decimal} (hrank : d.rank = x.rank)
    (hdigits : d.digits < 2 ^ 53) (hexponent : d.exponent.natAbs ≤ 22) :
    floatOf? x.negative d.digits d.exponent = some (.float x) := by
  obtain ⟨w, hw, hwsign, hwunits⟩ := Binary64.exists_whole hdigits (k := 0) (by omega)
  obtain ⟨p, hp, hpsign, hpunits⟩ := exists_powerOfTen hexponent
  rw [Nat.pow_zero, Nat.mul_one] at hw hwunits
  have hscale : scale w d.exponent 3 = some ⟨false, x.rank, x.rank_lt⟩ := by
    have hpos : 0 < 10 ^ d.exponent.natAbs := Nat.pow_pos (by decide)
    have hstep : scale w d.exponent 3 = if 0 ≤ d.exponent then w.mul? p else w.div? p := by
      rw [scale, if_pos (by omega), hp, Option.bind_eq_bind, Option.bind_some]
    rw [hstep]
    by_cases hup : 0 ≤ d.exponent
    · rw [if_pos hup]
      unfold Binary64.mul?
      rw [hwsign, hpsign]
      refine ofRatio?_eq_some ?_ x.rank_lt
      rw [← hrank, hwunits, hpunits, Decimal.rank, Decimal.ratio_eq, if_pos hup]
      have hexp : d.exponent.natAbs = d.exponent.toNat := by omega
      rw [hexp, Nat.mul_mul_mul_comm, Nat.mul_comm _ (unit * unit)]
      calc nearestRank (unit * unit * (d.digits * 10 ^ d.exponent.toNat)) (unit * unit)
          = nearestRank (unit * unit * (d.digits * 10 ^ d.exponent.toNat)) (unit * unit * 1) := by
            rw [Nat.mul_one]
        _ = nearestRank (d.digits * 10 ^ d.exponent.toNat) 1 :=
            Binary64.nearestRank_mul_left (Nat.mul_pos unit_pos unit_pos) _ _
    · rw [if_neg hup]
      unfold Binary64.div?
      rw [hwsign, hpsign]
      refine ofRatio?_eq_some ?_ x.rank_lt
      have hexp : d.exponent.natAbs = (-d.exponent).toNat := by omega
      rw [← hrank, hwunits, hpunits, Decimal.rank, Decimal.ratio_eq, if_neg hup, hexp,
        Nat.mul_comm d.digits, Nat.mul_comm (10 ^ _), Binary64.nearestRank_mul_left unit_pos]
  unfold floatOf?
  rw [hw, Option.bind_eq_bind, Option.bind_some, hscale, Option.bind_some]
  obtain ⟨negative, rank, hlt⟩ := x
  cases negative <;> rfl

end Json

end NetDraft
