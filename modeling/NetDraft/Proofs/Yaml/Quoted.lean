/-
A string that JSON has quoted is a quoted scalar with the same text.

Between words there are only spaces, since every other blank and every line break that a string
holds is either escaped or excluded, and spaces on one line count as they are.  The escapes that
JSON uses mean the same in both languages.  What is excluded are the characters that one language
writes as themselves and the other one does not allow or takes for line breaks.
-/
import NetDraft.Proofs.Text.Cutting
import NetDraft.Proofs.Text.Quoted
import NetDraft.Yaml.FlowText

namespace NetDraft.Yaml

open Text (escapeChar escape hexDigit)

/-- A character that means the same between the quotes of both languages: one that is escaped, or
else one that is allowed and does not break a line. -/
def IsCommon (c : Char) : Prop := 0x20 ≤ c.toNat → isAllowed c = true ∧ isBreak c = false

instance (c : Char) : Decidable (IsCommon c) := inferInstanceAs (Decidable (_ → _))

/-! ### Cursors -/

namespace Cursor

variable {c : Cursor} {front rest : List Char}

theorem skip_zero (c : Cursor) : c.skip 0 = c := rfl

theorem skip_skip (c : Cursor) (m n : Nat) : (c.skip m).skip n = c.skip (m + n) := by
  simp [skip, Nat.add_assoc]

@[simp] theorem skip_line (c : Cursor) (n : Nat) : (c.skip n).mark.line = c.mark.line := rfl

@[simp] theorem skip_index (c : Cursor) (n : Nat) :
    (c.skip n).mark.index = c.mark.index + n := rfl

@[simp] theorem skip_column (c : Cursor) (n : Nat) :
    (c.skip n).mark.column = c.mark.column + n := rfl

theorem rest_skip (h : c.rest = front ++ rest) : (c.skip front.length).rest = rest := by
  rw [skip, h, List.drop_left]

/-- No line is broken where another character stands. -/
theorem takeBreak?_eq_none {d : Char} (hc : c.rest = d :: rest) (hd : isBreak d = false) :
    c.takeBreak? = none := by
  have hreturn : d ≠ '\r' := by
    rintro rfl
    exact absurd hd (by decide)
  unfold takeBreak?
  rw [hc]
  split
  next heq => exact absurd (List.cons.inj heq).1 hreturn
  next heq => rw [← (List.cons.inj heq).1, if_neg (by simp [hd])]
  next heq => cases heq

/-- No mark of a document stands within a line. -/
theorem atAnyDocumentMark_eq_false (h : 0 < c.mark.column) : c.atAnyDocumentMark = false := by
  have hcolumn : (c.mark.column == 0) = false := by
    rw [beq_eq_false_iff_ne]
    omega
  simp [atAnyDocumentMark, atDocumentMark, hcolumn]

end Cursor

/-! ### Escapes -/

/-- A letter behind a backslash means what it means in JSON. -/
theorem escape?_letter {letter d : Char} (h : Json.shortEscape? letter = some d)
    (rest : List Char) : isAllowed letter = true ∧ isBreak letter = false ∧
      escape? (letter :: rest) = some (d, 1) := by
  unfold Json.shortEscape? at h
  split at h <;> cases h
  all_goals exact ⟨by decide, by decide, rfl⟩

theorem hexNumber?_append {n : Nat} {ds : List Char} (h : ds.length = n) (rest : List Char) :
    hexNumber? n (ds ++ rest) = hexNumber? n ds := by
  subst h
  unfold hexNumber?
  rw [if_neg (by simp), if_neg (by simp), List.take_left, List.take_length]

/-- So do the four digits behind a letter. -/
theorem escape?_digits {d : Char} (hd : d.toNat < 0x20) (rest : List Char) :
    escape? ('u' :: '0' :: '0' :: hexDigit (d.toNat / 16) :: hexDigit d.toNat :: rest)
      = some (d, 5) := by
  have hall : ∀ n < 0x20, hexNumber? 4 ['0', '0', hexDigit (n / 16), hexDigit n] = some n := by
    decide
  have hbehind : hexNumber? 4 (['0', '0', hexDigit (d.toNat / 16), hexDigit d.toNat] ++ rest)
      = hexNumber? 4 ['0', '0', hexDigit (d.toNat / 16), hexDigit d.toNat] :=
    hexNumber?_append rfl rest
  have hnumber : hexNumber? 4 ('0' :: '0' :: hexDigit (d.toNat / 16) :: hexDigit d.toNat :: rest)
      = some d.toNat := hbehind.trans (hall d.toNat hd)
  have hunfold : ∀ cs, escape? ('u' :: cs)
      = (hexNumber? 4 cs).bind fun code =>
          if code.isValidChar then some (Char.ofNat code, 5) else none := fun _ => rfl
  have hvalid : d.toNat.isValidChar := d.valid
  rw [hunfold, hnumber, Option.bind_some, if_pos hvalid, Char.ofNat_toNat]

/-! ### Words -/

variable {c : Cursor} {rest : List Char}

/-- Reads on behind an escape. -/
theorem readQuotedWord?_backslash {letter d : Char} {n : Nat} (hletter : isBreak letter = false)
    (hescape : escape? (letter :: rest) = some (d, n)) (fuel : Nat)
    (hc : c.rest = '\\' :: letter :: rest) : readQuotedWord? false (fuel + 1) c
      = (readQuotedWord? false fuel (c.skip (n + 1))).map (.cons d) := by
  have hany : ¬(letter :: rest).head?.any isBreak = true := by simp [hletter]
  rw [readQuotedWord?, hc]
  dsimp only
  rw [if_neg (by decide), if_neg (by decide), if_neg (by decide), if_pos rfl, if_neg hany, hescape]
  rfl

/-- What a character of a word is written with does not end the word. -/
theorem exists_escapeChar {d : Char} (hd : IsCommon d) (hspace : d ≠ ' ') :
    ∃ e more, escapeChar d = e :: more ∧ isSpacing e = false := by
  rcases Json.escapeChar_cases d with ⟨letter, -, -, hwritten⟩ | ⟨-, hwritten⟩ |
    ⟨hcontrol, -, -, hwritten⟩
  · exact ⟨_, _, hwritten, by decide⟩
  · exact ⟨_, _, hwritten, by decide⟩
  · have htab : d ≠ '\t' := by
      rintro rfl
      exact absurd hcontrol (by decide)
    exact ⟨_, _, hwritten, by simp [isSpacing, isBlank, hspace, htab, (hd hcontrol).2]⟩

/-- A character of a word, as JSON writes it, is read. -/
theorem readQuotedWord?_escapeChar {d : Char} (hd : IsCommon d) (hspace : d ≠ ' ') (fuel : Nat)
    (hc : c.rest = escapeChar d ++ rest) : readQuotedWord? false (fuel + 1) c
      = (readQuotedWord? false fuel (c.skip (escapeChar d).length)).map (.cons d) := by
  obtain ⟨e, more, hfirst, hspacing⟩ := exists_escapeChar hd hspace
  rcases Json.escapeChar_cases d with ⟨letter, hmeaning, -, hwritten⟩ | ⟨hcontrol, hwritten⟩ |
    ⟨hcontrol, hquote, hslash, hwritten⟩
  · obtain ⟨-, hbreak, hescape⟩ := escape?_letter hmeaning rest
    rw [hwritten] at hc ⊢
    exact readQuotedWord?_backslash hbreak hescape fuel hc
  · rw [hwritten] at hc ⊢
    exact readQuotedWord?_backslash (by decide) (escape?_digits hcontrol rest) fuel hc
  · obtain ⟨rfl, rfl⟩ := List.cons.inj (hfirst.symm.trans hwritten)
    rw [hwritten] at hc ⊢
    rw [readQuotedWord?, hc]
    dsimp only [List.cons_append]
    rw [if_neg (by simp [hspacing]), if_neg (by decide), if_neg hquote, if_neg hslash]
    rfl

/-- A word is read up to a space or to the closing quote. -/
theorem readQuotedWord?_escape (hend : ∃ d tail, rest = d :: tail ∧ (d = ' ' ∨ d = '"'))
    (word : List Char) (hword : ∀ d ∈ word, IsCommon d ∧ d ≠ ' ') : ∀ fuel c,
      word.length < fuel → c.rest = escape word ++ rest →
        readQuotedWord? false fuel c = some ⟨word, c.skip (escape word).length, false⟩ := by
  induction word with
  | nil =>
      intro fuel c hfuel hc
      obtain ⟨fuel, rfl⟩ := Nat.exists_eq_succ_of_ne_zero (Nat.ne_zero_of_lt hfuel)
      obtain ⟨d, tail, rfl, rfl | rfl⟩ := hend
      · simp [readQuotedWord?, hc, escape, isSpacing, isBlank, Cursor.skip_zero]
      · simp [readQuotedWord?, hc, escape, isSpacing, isBlank, isBreak, Cursor.skip_zero]
  | cons d word ih =>
      intro fuel c hfuel hc
      obtain ⟨fuel, rfl⟩ := Nat.exists_eq_succ_of_ne_zero (Nat.ne_zero_of_lt hfuel)
      obtain ⟨hcommon, hspace⟩ := hword d List.mem_cons_self
      have hsplit : escape (d :: word) = escapeChar d ++ escape word := List.flatMap_cons
      rw [hsplit, List.append_assoc] at hc
      have hrest := ih (fun e he => hword e (List.mem_cons_of_mem _ he)) fuel
        (c.skip (escapeChar d).length) (by simpa using hfuel) (Cursor.rest_skip hc)
      rw [readQuotedWord?_escapeChar hcommon hspace fuel hc, hrest, hsplit, List.length_append,
        ← Cursor.skip_skip]
      rfl

/-! ### Spaces -/

theorem readGap?_spaces {d : Char} {tail : List Char} (hd : isSpacing d = false)
    (hrest : rest = d :: tail) (k : Nat) : ∀ (fuel : Nat) (before : List Char) (c : Cursor),
      k < fuel → c.rest = List.replicate k ' ' ++ rest →
        readGap? 0 fuel false ⟨before, []⟩ c
          = some (⟨before ++ List.replicate k ' ', []⟩, c.skip k) := by
  obtain ⟨hblank, hbreak⟩ : isBlank d = false ∧ isBreak d = false := by
    simpa [isSpacing] using hd
  induction k with
  | zero =>
      intro fuel before c hfuel hc
      obtain ⟨fuel, rfl⟩ := Nat.exists_eq_succ_of_ne_zero (Nat.ne_zero_of_lt hfuel)
      rw [List.replicate_zero, List.nil_append, hrest] at hc
      have hnone : c.takeBreak? = none := Cursor.takeBreak?_eq_none hc hbreak
      simp [readGap?, hc, hblank, hnone, Cursor.skip_zero]
  | succ k ih =>
      intro fuel before c hfuel hc
      obtain ⟨fuel, rfl⟩ := Nat.exists_eq_succ_of_ne_zero (Nat.ne_zero_of_lt hfuel)
      rw [List.replicate_succ, List.cons_append] at hc
      have hfront : c.rest = [' '] ++ (List.replicate k ' ' ++ rest) := hc
      have hskip : (c.skip 1).rest = List.replicate k ' ' ++ rest := Cursor.rest_skip hfront
      have hmore := ih fuel (before ++ [' ']) (c.skip 1) (by omega) hskip
      simp only [readGap?, hc]
      rw [if_pos (by decide), if_neg (by decide), hmore, Cursor.skip_skip, Nat.add_comm 1,
        List.append_assoc, List.singleton_append, List.replicate_succ]

/-- Spaces between words count as they are. -/
theorem gap?_spaces {k : Nat} (hend : ∃ d tail, rest = d :: tail ∧ isSpacing d = false)
    (hc : c.rest = List.replicate k ' ' ++ rest) :
    gap? 0 false c = some (⟨List.replicate k ' ', []⟩, c.skip k) := by
  obtain ⟨d, tail, hrest, hd⟩ := hend
  have htake : c.rest.takeWhile isSpacing = List.replicate k ' ' := by
    rw [hc]
    refine Text.takeWhile_run (fun e he => ?_) ?_
    · rw [(List.mem_replicate.mp he).2]
      rfl
    · intro e he
      rw [hrest] at he
      rw [← Option.some.inj he]
      exact hd
  rw [gap?, htake, List.length_replicate]
  exact readGap?_spaces hd hrest k (k + 1) [] c (Nat.lt_succ_self k) hc

/-! ### Scalars -/

/-- A text is a word, and behind it nothing, or spaces and a text that begins with a word. -/
theorem exists_word (cs : List Char) : ∃ word, (∀ d ∈ word, d ≠ ' ') ∧ (cs = word ∨
    ∃ k more, cs = word ++ (List.replicate (k + 1) ' ' ++ more) ∧ more.head? ≠ some ' ') := by
  induction cs with
  | nil => exact ⟨[], by simp, Or.inl rfl⟩
  | cons d cs ih =>
      obtain ⟨word, hword, hcs⟩ := ih
      by_cases hd : d = ' '
      · subst hd
        refine ⟨[], by simp, Or.inr ?_⟩
        cases word with
        | nil =>
            rcases hcs with rfl | ⟨k, more, rfl, hmore⟩
            · exact ⟨0, [], rfl, by simp⟩
            · exact ⟨k + 1, more, rfl, hmore⟩
        | cons e word =>
            have he : e ≠ ' ' := hword e List.mem_cons_self
            rcases hcs with rfl | ⟨k, more, rfl, -⟩
            · exact ⟨0, _, rfl, by simpa using he⟩
            · exact ⟨0, _, rfl, by simpa using he⟩
      · refine ⟨d :: word, by simpa [hd] using hword, ?_⟩
        rcases hcs with rfl | ⟨k, more, rfl, hmore⟩
        · exact Or.inl rfl
        · exact Or.inr ⟨k, more, rfl, hmore⟩

theorem escape_append (a b : List Char) : escape (a ++ b) = escape a ++ escape b :=
  List.flatMap_append

theorem escape_spaces (k : Nat) : escape (List.replicate k ' ') = List.replicate k ' ' := by
  induction k with
  | zero => rfl
  | succ k ih =>
      have hspace : escapeChar ' ' = [' '] := by decide
      rw [List.replicate_succ, escape, List.flatMap_cons, hspace, ← escape, ih]
      rfl

/-- The scalar is read word by word, a step of the fuel for each word. -/
theorem readQuoted?_escape : ∀ (fuel : Nat) (cs : List Char) (c : Cursor), cs.length < fuel →
    (∀ d ∈ cs, IsCommon d) → 0 < c.mark.column → c.rest = escape cs ++ '"' :: rest →
      readQuoted? false fuel c = some (cs, c.skip ((escape cs).length + 1)) := by
  intro fuel
  induction fuel with
  | zero => intro cs c hfuel; exact absurd hfuel (Nat.not_lt_zero _)
  | succ fuel ih =>
      intro cs c hfuel hcs hcolumn hc
      have hstart : ¬(c.atAnyDocumentMark = true ∨ c.rest = []) := by
        simp [Cursor.atAnyDocumentMark_eq_false hcolumn, hc]
      obtain ⟨word, hword, hwhole | ⟨k, more, rfl, hmore⟩⟩ := exists_word cs
      · -- The last word, with the closing quote behind it.
        subst hwhole
        have hread : readQuotedWord? false (fuel + 1) c
            = some ⟨cs, c.skip (escape cs).length, false⟩ :=
          readQuotedWord?_escape ⟨_, _, rfl, Or.inr rfl⟩ cs
            (fun d hd => ⟨hcs d hd, hword d hd⟩) (fuel + 1) c hfuel hc
        rw [readQuoted?, if_neg hstart, hread, Option.bind_eq_bind, Option.bind_some]
        dsimp only
        rw [if_pos (by rw [Cursor.rest_skip hc]; rfl), Cursor.skip_skip]
        rfl
      · -- A word, and spaces in front of the next one.
        rw [escape_append, escape_append, escape_spaces, List.append_assoc, List.append_assoc] at hc
        have hlength : more.length < fuel ∧ word.length < fuel + 1 := by
          simp only [List.length_append, List.length_replicate] at hfuel
          omega
        have hread := readQuotedWord?_escape ⟨_, _, rfl, Or.inl rfl⟩ word
          (fun d hd => ⟨hcs d (by simp [hd]), hword d hd⟩) (fuel + 1) c hlength.2 hc
        have hbehind := Cursor.rest_skip hc
        have hnext : ∃ d tail, escape more ++ '"' :: rest = d :: tail ∧ isSpacing d = false := by
          cases more with
          | nil => exact ⟨_, _, rfl, by decide⟩
          | cons d more =>
              have hd : d ≠ ' ' := by simpa using hmore
              obtain ⟨e, tail, hfirst, he⟩ := exists_escapeChar (hcs d (by simp)) hd
              exact ⟨e, _, by rw [escape, List.flatMap_cons, hfirst]; rfl, he⟩
        have hgap := gap?_spaces hnext hbehind
        have hrest : ((c.skip (escape word).length).skip (k + 1)).rest = escape more ++ '"' :: rest := by
          have := Cursor.rest_skip hbehind
          rwa [List.length_replicate] at this
        have hmoreRead := ih more _ hlength.1 (fun d hd => hcs d (by simp [hd]))
          (Nat.lt_of_lt_of_le hcolumn (by simp [Nat.add_assoc])) hrest
        rw [readQuoted?, if_neg hstart, hread, Option.bind_eq_bind, Option.bind_some]
        dsimp only
        rw [if_neg (by rw [hbehind]; simp [List.replicate_succ]), hgap]
        simp only [Option.bind_eq_bind, Option.bind_some, hmoreRead]
        simp [Gap.fold, escape_append, escape_spaces, Cursor.skip_skip, Nat.add_assoc]

/-- **A quoted string is a quoted scalar with the same text.** -/
theorem quoted?_quotedChars {cs : List Char} (hcs : ∀ d ∈ cs, IsCommon d)
    (hc : c.rest = Text.quotedChars cs ++ rest) :
    quoted? false c = some (cs, c.skip (Text.quotedChars cs).length) := by
  have hfront : c.rest = ['"'] ++ (escape cs ++ '"' :: rest) := by
    rw [hc]
    simp [Text.quotedChars]
  have hskip : (c.skip 1).rest = escape cs ++ '"' :: rest := Cursor.rest_skip hfront
  have hfuel : cs.length < c.rest.length + 1 := by
    have hlength := Json.length_le_escape cs
    rw [hc]
    simp only [Text.quotedChars, List.length_append, List.length_cons]
    omega
  rw [quoted?, readQuoted?_escape _ cs (c.skip 1) hfuel hcs (Nat.succ_pos _) hskip, Cursor.skip_skip]
  congr 3
  simp only [Text.quotedChars, List.length_append, List.length_cons, List.length_nil]
  omega

/-- A quoted string of common characters is allowed in a document. -/
theorem isAllowed_of_mem_quotedChars {cs : List Char} (hcs : ∀ d ∈ cs, IsCommon d) {c : Char}
    (h : c ∈ Text.quotedChars cs) : isAllowed c = true := by
  simp only [Text.quotedChars, escape, List.mem_cons, List.mem_append, List.mem_flatMap,
    List.not_mem_nil, or_false] at h
  rcases h with rfl | ⟨d, hd, hc⟩ | rfl
  · decide
  · rcases Json.escapeChar_cases d with ⟨letter, hmeaning, -, hwritten⟩ | ⟨-, hwritten⟩ |
      ⟨hcontrol, -, -, hwritten⟩
    · rw [hwritten, List.mem_cons, List.mem_singleton] at hc
      rcases hc with rfl | rfl
      · decide
      · exact (escape?_letter hmeaning []).1
    · have hdigit : ∀ n, isAllowed (hexDigit n) = true := by
        have hall : ∀ k < 16, isAllowed (Nat.digitChar k) = true := by decide
        exact fun n => hall _ (Nat.mod_lt n (by decide))
      rw [hwritten] at hc
      simp only [List.mem_cons, List.not_mem_nil, or_false] at hc
      rcases hc with rfl | rfl | rfl | rfl | rfl | rfl
      all_goals first | decide | exact hdigit _
    · rw [hwritten, List.mem_singleton] at hc
      exact hc ▸ (hcs d hd hcontrol).1
  · decide

end NetDraft.Yaml
