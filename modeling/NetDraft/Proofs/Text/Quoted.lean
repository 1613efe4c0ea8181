/-
What is written between quotes is read back.

Every character is written as itself or as an escape, and either way the reader takes exactly that
much of the text and gives the character.  So a string is read back whatever it holds, and the
reader stops behind the quote that closes it: no string can close its own quotes early.
-/
import NetDraft.Json.StringText
import NetDraft.Text.Quoted

namespace NetDraft.Json

open Text

/--
How a character can be written: behind a backslash by a letter that the reader knows, by four
digits if it is another control character, or as itself.
-/
theorem escapeChar_cases (c : Char) :
    (∃ letter, shortEscape? letter = some c ∧ 0x20 ≤ letter.toNat ∧
      escapeChar c = ['\\', letter]) ∨
    (c.toNat < 0x20 ∧
      escapeChar c = ['\\', 'u', '0', '0', hexDigit (c.toNat / 16), hexDigit c.toNat]) ∨
    (0x20 ≤ c.toNat ∧ c ≠ '"' ∧ c ≠ '\\' ∧ escapeChar c = [c]) := by
  by_cases hshort : c = '"' ∨ c = '\\' ∨ c = '\n' ∨ c = '\r' ∨ c = '\t' ∨ c = '\x08' ∨ c = '\x0c'
  · left
    rcases hshort with rfl | rfl | rfl | rfl | rfl | rfl | rfl
    · exact ⟨'"', by decide⟩
    · exact ⟨'\\', by decide⟩
    · exact ⟨'n', by decide⟩
    · exact ⟨'r', by decide⟩
    · exact ⟨'t', by decide⟩
    · exact ⟨'b', by decide⟩
    · exact ⟨'f', by decide⟩
  · right
    simp only [not_or] at hshort
    obtain ⟨hquote, hslash, hn, hr, ht, hb, hf⟩ := hshort
    by_cases hcontrol : c.toNat < 0x20
    · exact Or.inl ⟨hcontrol, by simp [escapeChar, hquote, hslash, hn, hr, ht, hb, hf, hcontrol]⟩
    · exact Or.inr ⟨by omega, hquote, hslash,
        by simp [escapeChar, hquote, hslash, hn, hr, ht, hb, hf, hcontrol]⟩

/-! ### Reading one character -/

private theorem hexValue?_hexDigit : ∀ n < 16, hexValue? (hexDigit n) = some n := by decide

/-- The four digits of an escape are the number of the character. -/
theorem readUnicodeEscape_control {c : Char} (hc : c.toNat < 0x20) (rest : List Char) :
    readUnicodeEscape ('0' :: '0' :: hexDigit (c.toNat / 16) :: hexDigit c.toNat :: rest)
      = .ok (c, rest) := by
  have hmod : hexDigit c.toNat = hexDigit (c.toNat % 16) := by simp [hexDigit]
  have hhigh : hexValue? (hexDigit (c.toNat / 16)) = some (c.toNat / 16) :=
    hexValue?_hexDigit _ (by omega)
  have hlow : hexValue? (hexDigit c.toNat) = some (c.toNat % 16) := by
    rw [hmod]
    exact hexValue?_hexDigit _ (by omega)
  have hzero : hexValue? '0' = some 0 := by decide
  have hsum : ((0 * 16 + 0) * 16 + c.toNat / 16) * 16 + c.toNat % 16 = c.toNat := by omega
  have hfour : hexFour? ('0' :: '0' :: hexDigit (c.toNat / 16) :: hexDigit c.toNat :: rest)
      = some (c.toNat, rest) := by
    simp only [hexFour?, hzero, hhigh, hlow, Option.bind_eq_bind, Option.bind_some]
    rw [hsum]
    rfl
  have htrailing : isTrailing c.toNat = false := by simp [isTrailing]; omega
  have hleading : isLeading c.toNat = false := by simp [isLeading]; omega
  simp only [readUnicodeEscape, readHexFour, hfour]
  show (if isTrailing c.toNat = true then _ else if isLeading c.toNat = true then _ else _) = _
  rw [if_neg (by simp [htrailing]), if_neg (by simp [hleading]), Char.ofNat_toNat]
  rfl

/-- A letter behind a backslash is read as what it stands for. -/
theorem readEscape_letter {letter c : Char} (h : shortEscape? letter = some c)
    (rest : List Char) : readEscape (letter :: rest) = .ok (c, rest) := by
  have hu : letter ≠ 'u' := by
    rintro rfl
    exact absurd h (by simp [shortEscape?])
  unfold readEscape
  split
  · next heq => simp at heq
  · next heq => exact absurd (List.cons.inj heq).1 hu
  · next heq =>
      obtain ⟨rfl, rfl⟩ := List.cons.inj heq
      rw [h]

/-- Reads on behind an escape. -/
theorem readStringChars_backslash {c : Char} {cs rest : List Char}
    (h : readEscape cs = .ok (c, rest)) (fuel : Nat) :
    readStringChars (fuel + 1) ('\\' :: cs)
      = (readStringChars fuel rest).map fun found => (c :: found.1, found.2) := by
  rw [readStringChars, if_neg (by decide), if_pos rfl, h]
  show (readStringChars fuel rest >>= fun found => Except.ok (c :: found.1, found.2)) = _
  cases readStringChars fuel rest <;> rfl

/-- The reader takes one written character, if its fuel lasts for another one. -/
theorem readStringChars_escapeChar (c : Char) (fuel : Nat) (rest : List Char) :
    readStringChars (fuel + 1) (escapeChar c ++ rest)
      = (readStringChars fuel rest).map fun found => (c :: found.1, found.2) := by
  rcases escapeChar_cases c with ⟨letter, hmeaning, -, hwritten⟩ | ⟨hcontrol, hwritten⟩ |
    ⟨hcontrol, hquote, hslash, hwritten⟩
  · rw [hwritten]
    exact readStringChars_backslash (readEscape_letter hmeaning rest) fuel
  · have hread : readEscape ('u' :: '0' :: '0' :: hexDigit (c.toNat / 16) :: hexDigit c.toNat
        :: rest) = .ok (c, rest) := readUnicodeEscape_control hcontrol rest
    rw [hwritten]
    exact readStringChars_backslash hread fuel
  · rw [hwritten, List.singleton_append, readStringChars, if_neg hquote, if_neg hslash,
      if_neg (by omega)]
    cases readStringChars fuel rest <;> rfl

/-! ### Whole strings -/

/-- The fuel has to last for every character and for the closing quote. -/
theorem readStringChars_escape (cs rest : List Char) :
    ∀ fuel, cs.length < fuel →
      readStringChars fuel (escape cs ++ '"' :: rest) = .ok (cs, rest) := by
  induction cs with
  | nil =>
      intro fuel hfuel
      obtain ⟨fuel, rfl⟩ := Nat.exists_eq_succ_of_ne_zero (Nat.ne_zero_of_lt hfuel)
      rfl
  | cons c cs ih =>
      intro fuel hfuel
      obtain ⟨fuel, rfl⟩ := Nat.exists_eq_succ_of_ne_zero (Nat.ne_zero_of_lt hfuel)
      rw [List.length_cons] at hfuel
      rw [escape, List.flatMap_cons, List.append_assoc, readStringChars_escapeChar, ← escape,
        ih fuel (by omega)]
      rfl

/-- No character is written as nothing. -/
theorem length_le_escape (cs : List Char) : cs.length ≤ (escape cs).length := by
  induction cs with
  | nil => exact Nat.le_refl _
  | cons c cs ih =>
      have hpos : 1 ≤ (escapeChar c).length := by
        rcases escapeChar_cases c with ⟨_, -, -, hwritten⟩ | ⟨-, hwritten⟩ | ⟨-, -, -, hwritten⟩ <;>
          rw [hwritten] <;> simp
      rw [escape, List.flatMap_cons, List.length_append, List.length_cons, ← escape]
      omega

/-- **A quoted string is read back, and the reader stops behind its closing quote.** -/
theorem readString_escape (s : String) (rest : List Char) :
    readString (escape s.toList ++ '"' :: rest) = .ok (s, rest) := by
  have hfuel : s.toList.length < (escape s.toList ++ '"' :: rest).length := by
    have := length_le_escape s.toList
    simp only [List.length_append, List.length_cons]
    omega
  rw [readString, readStringChars_escape s.toList rest _ hfuel]
  show Except.ok (String.ofList s.toList, rest) = _
  rw [String.ofList_toList]

/-! ### What a quoted string does not hold -/

private theorem le_toNat_hexDigit (n : Nat) : 0x20 ≤ (hexDigit n).toNat := by
  have hall : ∀ k < 16, 0x20 ≤ (Nat.digitChar k).toNat := by decide
  exact hall _ (Nat.mod_lt n (by decide))

/-- A quoted string holds no control character, and so no line break. -/
theorem le_toNat_of_mem_quotedChars {cs : List Char} {d : Char} (h : d ∈ quotedChars cs) :
    0x20 ≤ d.toNat := by
  simp only [quotedChars, escape, List.mem_cons, List.mem_append, List.mem_flatMap,
    List.not_mem_nil, or_false] at h
  rcases h with rfl | ⟨c, -, hd⟩ | rfl
  · decide
  · rcases escapeChar_cases c with ⟨letter, -, hletter, hwritten⟩ | ⟨-, hwritten⟩ |
      ⟨hcontrol, -, -, hwritten⟩
    · rw [hwritten, List.mem_cons, List.mem_singleton] at hd
      rcases hd with rfl | rfl
      · decide
      · exact hletter
    · rw [hwritten] at hd
      simp only [List.mem_cons, List.not_mem_nil, or_false] at hd
      rcases hd with rfl | rfl | rfl | rfl | rfl | rfl
      all_goals first | decide | exact le_toNat_hexDigit _
    · rw [hwritten, List.mem_singleton] at hd
      rw [hd]
      exact hcontrol
  · decide

end NetDraft.Json
