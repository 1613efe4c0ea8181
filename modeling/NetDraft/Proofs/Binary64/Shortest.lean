/-
The shortest numeral reads back.

A decimal numeral stands for a quotient, and its rank does not change when zeros are written at
its end.  So the rank of what is printed for a number can be compared with the rank of the number
without a word about how the digits are laid out.  The search for the fewest digits only ever
stops at a numeral that was seen to read back, or else at the exact value, which reads back
because it is the magnitude itself.
-/
import NetDraft.Binary64.Shortest
import NetDraft.Proofs.Binary64.Rounding

namespace NetDraft

namespace Decimal

open Binary64 (unit nearestRank rankLimit)

theorem ratio_eq (d : Decimal) : d.ratio =
    if 0 ≤ d.exponent then (d.digits * 10 ^ d.exponent.toNat, 1)
    else (d.digits, 10 ^ (-d.exponent).toNat) := rfl

/-- Zeros at the end of the digits belong to the exponent. -/
theorem rank_mul_ten_pow (digits k : Nat) (e : Int) :
    (⟨digits * 10 ^ k, e⟩ : Decimal).rank = (⟨digits, e + k⟩ : Decimal).rank := by
  unfold rank
  rw [ratio_eq, ratio_eq]
  dsimp only
  by_cases he : 0 ≤ e
  · have hexp : (e + k).toNat = k + e.toNat := by omega
    rw [if_pos he, if_pos (by omega), hexp, Nat.pow_add, Nat.mul_assoc]
  · by_cases hek : 0 ≤ e + k
    · have hexp : k = (-e).toNat + (e + k).toNat := by omega
      have hpos : 0 < 10 ^ (-e).toNat := Nat.pow_pos (by decide)
      rw [if_neg he, if_pos hek]
      calc nearestRank (digits * 10 ^ k) (10 ^ (-e).toNat)
          = nearestRank (10 ^ (-e).toNat * (digits * 10 ^ (e + k).toNat))
              (10 ^ (-e).toNat * 1) := by
            rw [Nat.mul_one, Nat.mul_left_comm, ← Nat.pow_add, ← hexp]
        _ = nearestRank (digits * 10 ^ (e + k).toNat) 1 := Binary64.nearestRank_mul_left hpos _ _
    · have hexp : (-e).toNat = k + (-(e + k)).toNat := by omega
      have hpos : 0 < 10 ^ k := Nat.pow_pos (by decide)
      rw [if_neg he, if_neg hek, hexp, Nat.pow_add, Nat.mul_comm digits,
        Binary64.nearestRank_mul_left hpos]

/-! ### Numerals settled by their size -/

theorem lt_ten_pow_length (n : Nat) : n < 10 ^ (Nat.toDigits 10 n).length :=
  (Nat.length_toDigits_le_iff (by decide) Nat.length_toDigits_pos).mp (Nat.le_refl _)

theorem ten_pow_length_le {n : Nat} (hn : n ≠ 0) : 10 ^ ((Nat.toDigits 10 n).length - 1) ≤ n := by
  rcases Nat.lt_or_ge n (10 ^ ((Nat.toDigits 10 n).length - 1)) with hlt | hge
  · exfalso
    rcases Nat.eq_zero_or_pos ((Nat.toDigits 10 n).length - 1) with hzero | hpos
    · rw [hzero, Nat.pow_zero] at hlt
      omega
    · have hle := (Nat.length_toDigits_le_iff (by decide) hpos).mpr hlt
      omega
  · exact hge

private theorem two_pow_le_ten_pow {m n : Nat} (h : m ≤ 3 * n) : 2 ^ m ≤ 10 ^ n :=
  calc 2 ^ m ≤ 2 ^ (3 * n) := Nat.pow_le_pow_right (by decide) h
    _ = (2 ^ 3) ^ n := Nat.pow_mul ..
    _ ≤ 10 ^ n := Nat.pow_le_pow_left (by decide) n

private theorem two_mul_unit_le {k n : Nat} (hunit : unit = 2 ^ k) (h : k + 1 ≤ 3 * n) :
    2 * unit ≤ 10 ^ n := by
  rw [hunit, ← Nat.pow_succ']
  exact two_pow_le_ten_pow h

/-- With `n` zeros behind the point, where ten to the `n` is more than two units, nothing is left
of any digits. -/
theorem rank_eq_zero_of_magnitude {d : Decimal} {n : Nat} (hn : 2 * unit ≤ 10 ^ n)
    (h : d.magnitude < -n) : d.rank = 0 := by
  refine Binary64.nearestRank_eq_zero ?_
  have hlen : d.magnitude = (Nat.toDigits 10 d.digits).length + d.exponent := rfl
  have hden : 10 ^ ((Nat.toDigits 10 d.digits).length + n) ≤ 10 ^ (-d.exponent).toNat :=
    Nat.pow_le_pow_right (by decide) (by omega)
  rw [ratio_eq]
  rw [if_neg (by omega)]
  dsimp only
  calc 2 * (d.digits * unit) = d.digits * (2 * unit) := Nat.mul_left_comm _ _ _
    _ < 10 ^ (Nat.toDigits 10 d.digits).length * 10 ^ n :=
        Nat.mul_lt_mul_of_lt_of_le (lt_ten_pow_length _) hn (Nat.pow_pos (by decide))
    _ ≤ 10 ^ (-d.exponent).toNat := by rw [← Nat.pow_add]; exact hden

/-- A numeral with four hundred zeros behind its point has rank zero. -/
theorem rank_eq_zero {d : Decimal} (h : d.digits = 0 ∨ d.magnitude < -400) : d.rank = 0 := by
  rcases h with hzero | hsmall
  · refine Binary64.nearestRank_eq_zero ?_
    rw [ratio_eq, hzero]
    split
    · show 2 * (0 * 10 ^ _ * Binary64.unit) < 1
      rw [Nat.zero_mul, Nat.zero_mul]
      decide
    · show 2 * (0 * Binary64.unit) < 10 ^ _
      rw [Nat.zero_mul]
      exact Nat.pow_pos (by decide)
  · exact rank_eq_zero_of_magnitude (two_mul_unit_le Binary64.unit_eq (by decide)) hsmall

/-- A numeral of a size beyond ten to the `n` is at least that large. -/
theorem ten_pow_mul_le_ratio {d : Decimal} {n : Nat} (hd : d.digits ≠ 0) (h : n < d.magnitude) :
    0 < d.ratio.2 ∧ 10 ^ n * d.ratio.2 ≤ d.ratio.1 := by
  have hlen : d.magnitude = (Nat.toDigits 10 d.digits).length + d.exponent := rfl
  have hdigits := ten_pow_length_le hd
  rw [ratio_eq]
  by_cases he : 0 ≤ d.exponent
  · rw [if_pos he]
    refine ⟨Nat.one_pos, ?_⟩
    calc 10 ^ n * 1 ≤ 10 ^ ((Nat.toDigits 10 d.digits).length - 1 + d.exponent.toNat) := by
          rw [Nat.mul_one]
          exact Nat.pow_le_pow_right (by decide) (by omega)
      _ = 10 ^ ((Nat.toDigits 10 d.digits).length - 1) * 10 ^ d.exponent.toNat := Nat.pow_add ..
      _ ≤ d.digits * 10 ^ d.exponent.toNat := Nat.mul_le_mul_right _ hdigits
  · rw [if_neg he]
    refine ⟨Nat.pow_pos (by decide), ?_⟩
    rw [← Nat.pow_add]
    exact Nat.le_trans (Nat.pow_le_pow_right (by decide) (by omega)) hdigits

/-- A numeral with more than four hundred digits before its point has a rank that is too large. -/
theorem rankLimit_le_rank {d : Decimal} (hd : d.digits ≠ 0) (h : 400 < d.magnitude) :
    rankLimit ≤ d.rank := by
  obtain ⟨hpos, hratio⟩ := ten_pow_mul_le_ratio (n := 400) hd h
  have hpow := two_pow_le_ten_pow (m := 1024) (n := 400) (by decide)
  have hlarge := Nat.le_trans (Nat.mul_le_mul_right d.ratio.2 hpow) hratio
  refine Binary64.rankLimit_le_nearestRank hpos ?_
  calc 2 ^ 2098 * d.ratio.2 = 2 ^ 1024 * d.ratio.2 * unit := by
        rw [Binary64.unit_eq, Nat.mul_right_comm (2 ^ 1024) d.ratio.2, ← Nat.pow_add]
    _ ≤ d.ratio.1 * unit := Nat.mul_le_mul_right _ hlarge

/-- **A numeral is read as the number of its rank**, if there is one. -/
theorem nearest_eq_finite (negative : Bool) {d : Decimal} (h : d.rank < rankLimit) :
    nearest negative d = .finite ⟨negative, d.rank, h⟩ := by
  unfold nearest
  by_cases hsmall : d.digits = 0 ∨ d.magnitude < -400
  · rw [if_pos hsmall, Binary64.zero, Extended64.finite.injEq, Binary64.mk.injEq]
    exact ⟨rfl, (rank_eq_zero hsmall).symm⟩
  · have hdigits : d.digits ≠ 0 := fun hzero => hsmall (Or.inl hzero)
    have hsome : Binary64.ofRatio? negative d.ratio.1 d.ratio.2 = some ⟨negative, d.rank, h⟩ := by
      unfold Binary64.ofRatio?
      exact dif_pos h
    rw [if_neg hsmall, if_neg fun hlarge => Nat.not_lt.mpr (rankLimit_le_rank hdigits hlarge) h]
    unfold Extended64.ofRatio
    rw [hsome, Option.elim_some]

theorem ratio_neg (digits : Nat) {k : Nat} (hk : 0 < k) :
    (⟨digits, -(k : Int)⟩ : Decimal).ratio = (digits, 10 ^ k) := by
  rw [ratio_eq]
  rw [if_neg (by dsimp only; omega)]
  simp

end Decimal

namespace Binary64

/-! ### The search for the fewest digits -/

/-- A magnitude in units of 2⁻ᵏ is written out in full with `k` digits behind the point. -/
theorem rank_ratio_two_pow {k : Nat} (hk : 0 < k) (hunit : unit = 2 ^ k) (r : Nat) :
    (⟨unitsOfRank r * 5 ^ k, -(k : Int)⟩ : Decimal).rank = r := by
  rw [Decimal.rank, Decimal.ratio_neg _ hk]
  refine nearestRank_of_units (Nat.pow_pos (by decide)) ?_
  rw [hunit, Nat.mul_assoc, ← Nat.mul_pow]

/-- The exact value of a rank reads back. -/
theorem rank_exact (r : Nat) : (exact (unitsOfRank r)).rank = r := by
  rw [exact, pow_eq]
  exact rank_ratio_two_pow (by decide) unit_eq r

/-- A neighbour is only taken if it reads back. -/
theorem rank_of_readingBack? {r : Nat} {lower upper d : Decimal} {lowerIsNearer : Bool}
    (h : readingBack? r lower upper lowerIsNearer = some d) : d.rank = r := by
  unfold readingBack? at h
  by_cases hlower : lower.rank = r
  · rw [if_pos hlower] at h
    split at h
    next hupper =>
      rw [← Option.some.inj h]
      exact hupper.1
    next =>
      rw [← Option.some.inj h]
      exact hlower
  · rw [if_neg hlower] at h
    split at h
    next hupper =>
      rw [← Option.some.inj h]
      exact hupper
    next => simp at h

theorem rank_of_neighbour? {tie : Tie} {r : Nat} {g : Int} {d : Decimal}
    (h : neighbour? tie r g = some d) : d.rank = r := by
  unfold neighbour? at h
  exact rank_of_readingBack? h

theorem rank_shortestFrom (tie : Tie) (r : Nat) (leading : Int) :
    ∀ tries n, (shortestFrom tie r leading n tries).rank = r := by
  intro tries
  induction tries with
  | zero =>
      intro n
      unfold shortestFrom
      exact rank_exact r
  | succ tries ih =>
      intro n
      unfold shortestFrom
      cases hfound : neighbour? tie r (leading - n + 1) with
      | some d =>
          rw [Option.getD_some]
          exact rank_of_neighbour? hfound
      | none =>
          rw [Option.getD_none]
          exact ih (n + 1)

/-- **The shortest numeral of a rank reads back.** -/
theorem rank_shortest (tie : Tie) (r : Nat) : (shortest tie r).rank = r := by
  unfold shortest
  exact rank_shortestFrom tie r _ 17 1

end Binary64

end NetDraft
