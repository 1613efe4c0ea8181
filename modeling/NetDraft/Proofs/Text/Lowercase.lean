/-
Lower case of the front of a text.

The capital sigma is the only character whose lower case form depends on what stands behind it, so
a text that is cut short keeps its lower case forms unless it ends, from then on, in a word with a
sigma as its last letter.  `lowercaseAfter_prefix_iff` says that this is the only way in which the
lower case form of a front fails to be a front of the lower case form.
-/
import Mathlib.Data.List.TakeWhile
import NetDraft.Text.Lowercase

namespace NetDraft.Text

/-! ### Cuts behind a sigma -/

/-- A text that follows `earlier`, which is given backwards, is cut within a word between `front`
and `rest`, and the last letter in front of the cut is a capital sigma, but not the first one of
its word.  Characters that do not interrupt a word may stand between the sigma and the cut. -/
def CutAtSigma (earlier front rest : List Char) : Prop :=
  ∃ before idle, front = before ++ 'Σ' :: idle ∧
    letterFollows (before.reverse ++ earlier) = true ∧
    (∀ c ∈ idle, inRanges caseIgnorableRanges c = true) ∧ letterFollows rest = true

theorem not_cutAtSigma_of_notMem {earlier front rest : List Char} (h : 'Σ' ∉ front) :
    ¬CutAtSigma earlier front rest := by
  rintro ⟨before, idle, rfl, -⟩
  exact h (by simp)

theorem cutAtSigma_cons {earlier front rest : List Char} {c : Char} :
    CutAtSigma earlier (c :: front) rest ↔
      (c = 'Σ' ∧ letterFollows earlier = true ∧
        (∀ d ∈ front, inRanges caseIgnorableRanges d = true) ∧ letterFollows rest = true) ∨
      CutAtSigma (c :: earlier) front rest := by
  constructor
  · rintro ⟨before, idle, hfront, hbefore, hidle, hrest⟩
    rcases List.cons_eq_append_iff.mp hfront with ⟨rfl, hcons⟩ | ⟨before, rfl, rfl⟩
    · obtain ⟨rfl, rfl⟩ := List.cons.inj hcons
      exact Or.inl ⟨rfl, hbefore, hidle, hrest⟩
    · rw [List.reverse_cons, List.append_assoc, List.singleton_append] at hbefore
      exact Or.inr ⟨before, idle, rfl, hbefore, hidle, hrest⟩
  · rintro (⟨rfl, hearlier, hfront, hrest⟩ | ⟨before, idle, rfl, hbefore, hidle, hrest⟩)
    · exact ⟨[], front, rfl, hearlier, hfront, hrest⟩
    · refine ⟨c :: before, idle, rfl, ?_, hidle, hrest⟩
      rwa [List.reverse_cons, List.append_assoc, List.singleton_append]

/-! ### Letters behind a cut -/

/-- Characters that do not interrupt a word are looked through. -/
theorem letterFollows_append_of_idle {cs : List Char}
    (h : ∀ c ∈ cs, inRanges caseIgnorableRanges c = true) (rest : List Char) :
    letterFollows (cs ++ rest) = letterFollows rest := by
  rw [letterFollows, List.dropWhile_append_of_pos h, ← letterFollows]

/-- Any other character settles whether a letter follows. -/
theorem letterFollows_append_of_not_idle {cs : List Char}
    (h : ¬∀ c ∈ cs, inRanges caseIgnorableRanges c = true) (rest : List Char) :
    letterFollows (cs ++ rest) = letterFollows cs := by
  have hne : cs.dropWhile (inRanges caseIgnorableRanges) ≠ [] := by
    rwa [Ne, List.dropWhile_eq_nil_iff]
  unfold letterFollows
  rw [List.dropWhile_append]
  cases hdrop : cs.dropWhile (inRanges caseIgnorableRanges) with
  | nil => exact absurd hdrop hne
  | cons c others => rfl

/-! ### Lower case forms -/

/-- The lower case form of a sigma between `earlier`, which is given backwards, and `later`. -/
def sigmaForm (earlier later : List Char) : Char :=
  if letterFollows earlier && !letterFollows later then 'ς' else 'σ'

theorem lowercaseAfter_sigma (earlier cs : List Char) : lowercaseAfter earlier ('Σ' :: cs)
    = sigmaForm earlier cs :: lowercaseAfter ('Σ' :: earlier) cs := by
  rw [lowercaseAfter, if_pos rfl, sigmaForm]
  split <;> rfl

theorem lowercaseAfter_cons_of_ne {c : Char} (hc : c ≠ 'Σ') (earlier cs : List Char) :
    lowercaseAfter earlier (c :: cs) = lowercaseChar c ++ lowercaseAfter (c :: earlier) cs := by
  rw [lowercaseAfter, if_neg hc]

/-- A sigma has another form in front of more text if the word ended with it and now goes on. -/
theorem sigmaForm_append_eq_iff {earlier front rest : List Char} :
    sigmaForm earlier front = sigmaForm earlier (front ++ rest) ↔
      ¬(letterFollows earlier = true ∧ (∀ c ∈ front, inRanges caseIgnorableRanges c = true) ∧
        letterFollows rest = true) := by
  unfold sigmaForm
  by_cases hidle : ∀ c ∈ front, inRanges caseIgnorableRanges c = true
  · have hnone : letterFollows front = false := by
      rw [← List.append_nil front, letterFollows_append_of_idle hidle]
      rfl
    rw [letterFollows_append_of_idle hidle, hnone]
    rw [and_iff_right hidle]
    cases letterFollows earlier <;> cases letterFollows rest <;> decide
  · rw [letterFollows_append_of_not_idle hidle]
    simp only [hidle, false_and, and_false, not_false_eq_true]

/-- What follows adds to the lower case form, whatever it does to the forms in front of it. -/
theorem length_lowercaseAfter_le (front rest : List Char) : ∀ earlier,
    (lowercaseAfter earlier front).length ≤ (lowercaseAfter earlier (front ++ rest)).length := by
  induction front with
  | nil => intro earlier; exact Nat.zero_le _
  | cons c front ih =>
      intro earlier
      have hfront := ih (c :: earlier)
      rw [List.cons_append]
      by_cases hc : c = 'Σ'
      · subst hc
        rw [lowercaseAfter_sigma, lowercaseAfter_sigma]
        exact Nat.succ_le_succ hfront
      · rw [lowercaseAfter_cons_of_ne hc, lowercaseAfter_cons_of_ne hc, List.length_append,
          List.length_append]
        exact Nat.add_le_add_left hfront _

/-- **The lower case form of a front is a front of the lower case form, unless the text is cut
behind a sigma.** -/
theorem lowercaseAfter_prefix_iff (front rest : List Char) : ∀ earlier,
    lowercaseAfter earlier front <+: lowercaseAfter earlier (front ++ rest) ↔
      ¬CutAtSigma earlier front rest := by
  induction front with
  | nil =>
      intro earlier
      exact ⟨fun _ => not_cutAtSigma_of_notMem List.not_mem_nil, fun _ => List.nil_prefix⟩
  | cons c front ih =>
      intro earlier
      rw [List.cons_append, cutAtSigma_cons, not_or, ← ih (c :: earlier)]
      by_cases hc : c = 'Σ'
      · subst hc
        rw [lowercaseAfter_sigma, lowercaseAfter_sigma, List.cons_prefix_cons,
          sigmaForm_append_eq_iff]
        simp only [true_and]
      · rw [lowercaseAfter_cons_of_ne hc, lowercaseAfter_cons_of_ne hc,
          List.prefix_append_right_inj]
        simp only [hc, false_and, not_false_eq_true, true_and]

/-- The sigma of a word cut short, within the word and at its end. -/
example : lowercase "ÄΑΣ" = "äας" ∧ lowercase "ÄΑΣ-ΑΣΑΣ İ" = "äας-ασας i\u0307" := by
  decide +kernel

end NetDraft.Text
