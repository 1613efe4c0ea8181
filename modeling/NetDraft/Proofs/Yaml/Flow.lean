/-
Steps of the lexer between brackets.

Between brackets no block begins, so where no block is open none is opened or closed, and no place
is one where nothing but a key can stand.  Candidates may then be given up at any time; the only
one that counts is that of a key whose colon follows at once, and it is kept if the key is short.
Each kind of token has its lemma: what the lexer takes from the front of the text, which tokens it
adds, and how many brackets are open behind it.
-/
import Mathlib.Data.List.InsertIdx
import NetDraft.Proofs.Yaml.Quoted
import NetDraft.Yaml.Tokens

namespace NetDraft.Yaml

/-! ### Plain words -/

/-- The characters of what JSON writes without quotes. -/
def isWordChar (c : Char) : Bool := c.isAlphanum || c == '.' || c == '-' || c == '+'

/-- Blanks, line breaks and the signs that mean something to the lexer, apart from the dash. -/
def signs : List Char :=
  [' ', '\t', '\n', '\r', '\x85', '\u2028', '\u2029', '\ufeff', ',', '[', ']', '\x7b', '\x7d', ':',
    '?', '#', '&', '*', '!', '|', '>', '\'', '"', '%', '@', '\x60']

/-- What JSON writes without quotes. -/
structure IsWord (word : List Char) : Prop where
  isWordChar : ∀ c ∈ word, isWordChar c = true
  ne_nil : word ≠ []
  ne_dash : word ≠ ['-']

theorem notMem_signs {c : Char} (h : isWordChar c = true) : c ∉ signs := by
  intro hmem
  have hall : signs.all (fun d => !isWordChar d) = true := by decide
  have hc := List.all_eq_true.mp hall c hmem
  simp [h] at hc

theorem isAllowed_of_isWordChar {c : Char} (h : isWordChar c = true) : isAllowed c = true := by
  have hrange : 0x20 ≤ c.toNat ∧ c.toNat ≤ 0x7e := by
    delta isWordChar Char.isAlphanum Char.isAlpha Char.isUpper Char.isLower Char.isDigit at h
    simp only [Bool.or_eq_true, Bool.and_eq_true, decide_eq_true_eq, beq_iff_eq, ge_iff_le,
      UInt32.le_iff_toNat_le] at h
    rcases h with ((((⟨hlow, hhigh⟩ | ⟨hlow, hhigh⟩) | ⟨hlow, hhigh⟩) | rfl) | rfl) | rfl
    · exact ⟨Nat.le_trans (by decide) hlow, Nat.le_trans hhigh (by decide)⟩
    · exact ⟨Nat.le_trans (by decide) hlow, Nat.le_trans hhigh (by decide)⟩
    · exact ⟨Nat.le_trans (by decide) hlow, Nat.le_trans hhigh (by decide)⟩
    · decide
    · decide
    · decide
  have hle : '\x20' ≤ c ∧ c ≤ '\x7e' := hrange
  simp [isAllowed, hle]

/-- What may stand behind a value between brackets. -/
def EndsValue (rest : List Char) : Prop := ∃ d tail, rest = d :: tail ∧ isFlowSign d = true

variable {word rest : List Char}

/-- A word is read up to the sign behind it. -/
theorem plainWord?_append (hword : ∀ c ∈ word, isWordChar c = true) (hrest : EndsValue rest) :
    plainWord? true (word ++ rest) = some word := by
  induction word with
  | nil =>
      obtain ⟨d, tail, rfl, hd⟩ := hrest
      have hall : ∀ d ∈ [',', '[', ']', '\x7b', '\x7d'], isSpacing d = false ∧ d ≠ ':' := by
        simp [isSpacing, isBlank, isBreak]
      obtain ⟨hspacing, hcolon⟩ := hall d (by simpa [isFlowSign, or_assoc] using hd)
      simp [plainWord?, hspacing, hcolon, hd]
  | cons c word ih =>
      rw [List.forall_mem_cons] at hword
      have hsigns := notMem_signs hword.1
      simp only [signs, List.mem_cons, List.not_mem_nil, or_false, not_or] at hsigns
      simp [plainWord?, ih hword.2, isSpacing, isBlank, isBreak, isFlowSign, hsigns]

theorem plain?_word {c : Cursor} (hword : IsWord word) (hrest : EndsValue rest)
    (hcolumn : 0 < c.mark.column) (hc : c.rest = word ++ rest) (indent : Nat) :
    plain? true indent c
      = some ⟨word, (c.skip word.length).mark, c.skip word.length, false⟩ := by
  have hread := plainWord?_append hword.isWordChar hrest
  have hbehind : (c.skip word.length).rest = rest := Cursor.rest_skip hc
  obtain ⟨d, more, hfirst⟩ := List.exists_cons_of_ne_nil hword.ne_nil
  have hcomment : d ≠ '#' := by
    rintro rfl
    exact absurd (hword.isWordChar '#' (by simp [hfirst])) (by decide)
  have hspacing : rest.head?.any isSpacing = false := by
    obtain ⟨e, tail, rfl, he⟩ := hrest
    have hall : ∀ e ∈ [',', '[', ']', '\x7b', '\x7d'], isSpacing e = false := by
      simp [isSpacing, isBlank, isBreak]
    exact hall e (by simpa [isFlowSign, or_assoc] using he)
  rw [plain?, readPlain?, if_neg (by simp [Cursor.atAnyDocumentMark_eq_false hcolumn, hc, hfirst,
    hcomment]), hc, hread, Option.bind_eq_bind, Option.bind_some]
  simp [hbehind, hspacing, hword.ne_nil, Gap.fold]

namespace Lexer

/-! ### Between tokens -/

/-- Whether a token begins with a character. -/
def BeginsToken (d : Char) : Prop := isSpacing d = false ∧ d ≠ '#' ∧ d ≠ '\ufeff'

/-- Where a token begins nothing is skipped. -/
theorem skipSpacing_eq {d : Char} (hd : BeginsToken d) {c : Cursor} (hc : c.rest = d :: rest)
    (keyAllowed inFlow : Bool) (fuel : Nat) :
    skipSpacing keyAllowed inFlow (fuel + 1) c = (keyAllowed, c) := by
  obtain ⟨hspacing, hcomment, hmark⟩ := hd
  obtain ⟨hblank, hbreak⟩ : isBlank d = false ∧ isBreak d = false := by
    simpa [isSpacing] using hspacing
  obtain ⟨hspace, htab⟩ : d ≠ ' ' ∧ d ≠ '\t' := by simpa [isBlank] using hblank
  have hskip : c.skipWhile (fun d => d == ' ' || ((inFlow || !keyAllowed) && d == '\t')) = c := by
    simp [Cursor.skipWhile, hc, hspace, htab, Cursor.skip_zero]
  have hstay : c.skipComment = c := by
    unfold Cursor.skipComment
    rw [hc]
    split
    · next heq => exact absurd (List.cons.inj heq).1 hcomment
    · rfl
  rw [skipSpacing, if_neg (by simp [hc, hmark])]
  simp only [hskip, hstay, Cursor.takeBreak?_eq_none hc hbreak]

/-- No block is open, and at no candidate nothing but a key could stand. -/
structure Flat (l : Lexer) : Prop where
  blocks_eq_nil : l.blocks = []
  isRequired_eq_false : ∀ k, some k ∈ l.candidate :: l.outer → k.isRequired = false

/-- Whether a candidate is on the line of a place and not too far in front of it. -/
def isRecent (mark : Mark) (k : Candidate) : Bool :=
  !decide (k.mark.line < mark.line ∨ k.mark.index + 1024 < mark.index)

/-- The lexer with another candidate. -/
def withCandidate (l : Lexer) (candidate : Option Candidate) : Lexer := { l with candidate }

/-- The lexer without the candidates that have become too old. -/
def refreshed (l : Lexer) : Lexer :=
  { l with
    candidate := l.candidate.filter (isRecent l.cursor.mark)
    outer := l.outer.map (Option.filter (isRecent l.cursor.mark)) }

theorem refresh?_eq {mark : Mark} {candidate : Option Candidate}
    (h : ∀ k, candidate = some k → k.isRequired = false) :
    refresh? mark candidate = some (candidate.filter (isRecent mark)) := by
  cases candidate with
  | none => rfl
  | some k =>
      by_cases hold : k.mark.line < mark.line ∨ k.mark.index + 1024 < mark.index
      · rw [refresh?, if_pos hold, if_neg (by simp [h k rfl])]
        exact congrArg some (Option.filter_some_neg (by simp [isRecent, hold])).symm
      · rw [refresh?, if_neg hold]
        exact congrArg some (Option.filter_some_pos (by simp [isRecent, hold])).symm

theorem mapM_refresh?_eq {mark : Mark} {outer : List (Option Candidate)}
    (h : ∀ k, some k ∈ outer → k.isRequired = false) :
    outer.mapM (refresh? mark) = some (outer.map (Option.filter (isRecent mark))) := by
  induction outer with
  | nil => rfl
  | cons candidate outer ih =>
      have hfirst : refresh? mark candidate = some (candidate.filter (isRecent mark)) :=
        refresh?_eq fun k hk => h k (hk ▸ List.mem_cons_self)
      rw [List.mapM_cons, hfirst, ih fun k hk => h k (List.mem_cons_of_mem _ hk)]
      rfl

namespace Flat

variable {l : Lexer}

theorem refreshAll?_eq (h : l.Flat) : l.refreshAll? = some l.refreshed := by
  have houter : l.outer.mapM (refresh? l.cursor.mark)
      = some (l.outer.map (Option.filter (isRecent l.cursor.mark))) :=
    mapM_refresh?_eq fun k hk => h.isRequired_eq_false k (List.mem_cons_of_mem _ hk)
  have hcandidate : refresh? l.cursor.mark l.candidate
      = some (l.candidate.filter (isRecent l.cursor.mark)) :=
    refresh?_eq fun k hk => h.isRequired_eq_false k (hk ▸ List.mem_cons_self)
  rw [refreshAll?, houter, hcandidate]
  rfl

theorem refreshed (h : l.Flat) : l.refreshed.Flat := by
  refine ⟨h.blocks_eq_nil, fun k hk => h.isRequired_eq_false k ?_⟩
  have hall : l.refreshed.candidate :: l.refreshed.outer
      = (l.candidate :: l.outer).map (Option.filter (isRecent l.cursor.mark)) := rfl
  rw [hall, List.mem_map] at hk
  obtain ⟨candidate, hmem, hkept⟩ := hk
  rwa [(Option.filter_eq_some_iff.mp hkept).1] at hmem

theorem closeBlocks_eq (h : l.Flat) (column : Int) : l.closeBlocks column = l := by
  cases l with
  | mk cursor tokens blocks keyAllowed candidate outer =>
      obtain rfl : blocks = [] := h.blocks_eq_nil
      simp [closeBlocks]

/-- One token is read. -/
theorem run?_succ (h : l.Flat) {d : Char} (hd : BeginsToken d) (hc : l.cursor.rest = d :: rest)
    (fuel : Nat) : run? (fuel + 1) l = (l.refreshed.token? d rest).bind (run? fuel) := by
  have hrest : l.refreshed.cursor.rest = d :: rest := hc
  rw [run?, skipSpacing_eq hd hc]
  dsimp only
  rw [h.refreshAll?_eq, Option.bind_eq_bind, Option.bind_some, h.refreshed.closeBlocks_eq, hc]

theorem dropCandidate?_eq (h : l.Flat) : dropCandidate? l.candidate = some () := by
  cases hcandidate : l.candidate with
  | none => rfl
  | some k =>
      have hk : k.isRequired = false := h.isRequired_eq_false k (hcandidate ▸ List.mem_cons_self)
      rw [dropCandidate?, if_neg (by simp [hk])]

theorem forget?_eq (h : l.Flat) :
    l.forget? = some (l.withCandidate none) ∧ (l.withCandidate none).Flat := by
  refine ⟨by rw [forget?, h.dropCandidate?_eq]; rfl, h.blocks_eq_nil, fun k hk => ?_⟩
  rcases List.mem_cons.mp hk with hnone | houter
  · cases hnone
  · exact h.isRequired_eq_false k (List.mem_cons_of_mem _ houter)

/-- Where no block is open, it is never required that a key begins. -/
theorem remember?_eq (h : l.Flat) :
    ∃ candidate, l.remember? = some (l.withCandidate candidate) ∧
      (l.withCandidate candidate).Flat ∧
      (l.keyAllowed = true → candidate = some ⟨l.cursor.mark, l.tokens.size, false⟩) := by
  have hindent : (l.indent == (l.cursor.mark.column : Int)) = false := by
    rw [indent, h.blocks_eq_nil, beq_eq_false_iff_ne]
    dsimp only
    omega
  by_cases hallowed : l.keyAllowed = true
  · refine ⟨some ⟨l.cursor.mark, l.tokens.size, false⟩, ?_, ⟨h.blocks_eq_nil, fun k hk => ?_⟩,
      fun _ => rfl⟩
    · rw [remember?, if_pos hallowed, h.dropCandidate?_eq, hindent, Bool.and_false]
      rfl
    · rcases List.mem_cons.mp hk with hcandidate | houter
      · rw [Option.some.inj hcandidate]
      · exact h.isRequired_eq_false k (List.mem_cons_of_mem _ houter)
  · exact ⟨l.candidate, if_neg hallowed, h, fun htrue => absurd htrue hallowed⟩

/-- The end of the text adds the token that marks it. -/
theorem endStream?_eq (h : l.Flat) : ∃ mark l', l.endStream? = some l' ∧
    l'.tokens = l.tokens.push ⟨.streamEnd, mark, mark⟩ := by
  have hend : ∀ cursor : Cursor, ({ l with cursor }.closeBlocks (-1)).forget?
      = some ({ l with cursor }.withCandidate none) := by
    intro cursor
    have hflat : { l with cursor }.Flat := ⟨h.blocks_eq_nil, h.isRequired_eq_false⟩
    rw [hflat.closeBlocks_eq, hflat.forget?_eq.1]
  rw [endStream?]
  dsimp only
  rw [hend]
  exact ⟨_, _, rfl, rfl⟩

theorem run?_nil (h : l.Flat) (hc : l.cursor.rest = []) (fuel : Nat) :
    ∃ mark, run? (fuel + 1) l = some (l.tokens.toList ++ [⟨.streamEnd, mark, mark⟩]) := by
  have hskip : skipSpacing l.keyAllowed l.inFlow (fuel + 1) l.cursor = (l.keyAllowed, l.cursor) := by
    simp [skipSpacing, Cursor.skipWhile, Cursor.skipComment, Cursor.takeBreak?, hc,
      Cursor.skip_zero]
  obtain ⟨mark, l', hend, htokens⟩ := h.refreshed.endStream?_eq
  refine ⟨mark, ?_⟩
  rw [run?, hskip]
  dsimp only
  rw [h.refreshAll?_eq, Option.bind_eq_bind, Option.bind_some, h.refreshed.closeBlocks_eq, hc]
  dsimp only
  rw [hend]
  show some l'.tokens.toList = _
  rw [htokens, Array.toList_push]
  rfl

end Flat

/-! ### Tokens -/

/-- The kinds of the tokens read so far. -/
def kinds (l : Lexer) : List TokenKind := l.tokens.toList.map Token.kind

/-- How many brackets are open. -/
def depth (l : Lexer) : Nat := l.outer.length

theorem inFlow_eq_true {l : Lexer} (h : 0 < l.depth) : l.inFlow = true := by
  have houter : l.outer ≠ [] := List.ne_nil_of_length_pos h
  simp [inFlow, houter]

@[simp] theorem depth_refreshed (l : Lexer) : l.refreshed.depth = l.depth := List.length_map _

@[simp] theorem kinds_emit (l : Lexer) (kind : TokenKind) (start stop : Mark) :
    (l.emit kind start stop).kinds = l.kinds ++ [kind] := by
  simp [Lexer.kinds, emit]

/-- The lexer takes the characters in front of it for tokens of the given kinds. -/
structure Takes (l : Lexer) (cs : List Char) (kinds : List TokenKind) (l' : Lexer) : Prop where
  run : ∃ n ≤ cs.length, ∀ fuel, run? (fuel + n) l = run? fuel l'
  cursor : l'.cursor = l.cursor.skip cs.length
  kinds : l'.kinds = l.kinds ++ kinds
  flat : l'.Flat

section

variable {l l' l'' : Lexer} {cs cs' : List Char} {ks ks' : List TokenKind}

theorem Takes.refl (h : l.Flat) : l.Takes [] [] l :=
  ⟨⟨0, Nat.le_refl _, fun _ => rfl⟩, (Cursor.skip_zero _).symm, (List.append_nil _).symm, h⟩

theorem Takes.trans (h : l.Takes cs ks l') (h' : l'.Takes cs' ks' l'') :
    l.Takes (cs ++ cs') (ks ++ ks') l'' := by
  obtain ⟨m, hm, hrun⟩ := h.run
  obtain ⟨n, hn, hrun'⟩ := h'.run
  refine ⟨⟨n + m, ?_, fun fuel => ?_⟩, ?_, ?_, h'.flat⟩
  · rw [List.length_append]
    omega
  · rw [← Nat.add_assoc, hrun, hrun']
  · rw [h'.cursor, h.cursor, Cursor.skip_skip, List.length_append]
  · rw [h'.kinds, h.kinds, List.append_assoc]

/-- What is left behind a text that was taken. -/
theorem Takes.rest_eq (h : l.Takes cs ks l') (hc : l.cursor.rest = cs ++ rest) :
    l'.cursor.rest = rest := by
  rw [h.cursor]
  exact Cursor.rest_skip hc

theorem Takes.column_eq (h : l.Takes cs ks l') :
    l'.cursor.mark.column = l.cursor.mark.column + cs.length := by
  rw [h.cursor, Cursor.skip_column]

/-- A step of the lexer takes what it moves the cursor over. -/
theorem Flat.takes (h : l.Flat) {d : Char} (hd : BeginsToken d) (hc : l.cursor.rest = d :: rest)
    (htoken : l.refreshed.token? d rest = some l') (hne : cs ≠ [])
    (hcursor : l'.cursor = l.cursor.skip cs.length) (hkinds : l'.kinds = l.kinds ++ ks)
    (hflat : l'.Flat) : l.Takes cs ks l' := by
  refine ⟨⟨1, List.length_pos_iff.mpr hne, fun fuel => ?_⟩, hcursor, hkinds, hflat⟩
  rw [h.run?_succ hd hc, htoken, Option.bind_some]

theorem atDocumentMark_eq_false {c : Cursor} {d sign : Char} (hc : c.rest = d :: rest)
    (hd : d ≠ sign) : c.atDocumentMark sign = false := by
  simp [Cursor.atDocumentMark, hc, Ne.symm hd]

/-- An opening bracket. -/
theorem Flat.takes_open (h : l.Flat) {sign : Char} {kind : TokenKind}
    (hsign : (sign, kind) ∈ [('[', .flowSequenceStart), ('\x7b', .flowMappingStart)])
    (hc : l.cursor.rest = sign :: rest) : ∃ l', l.Takes [sign] [kind] l' ∧
      l'.depth = l.depth + 1 ∧ l'.keyAllowed = true := by
  have hrest : l.refreshed.cursor.rest = sign :: rest := hc
  obtain ⟨hbegins, htoken⟩ : BeginsToken sign ∧
      l.refreshed.token? sign rest = l.refreshed.openFlow? kind := by
    simp only [List.mem_cons, Prod.mk.injEq, List.not_mem_nil, or_false] at hsign
    rcases hsign with ⟨rfl, rfl⟩ | ⟨rfl, rfl⟩ <;>
      refine ⟨⟨by decide, by decide, by decide⟩, ?_⟩ <;>
      simp [token?, atDocumentMark_eq_false hrest]
  obtain ⟨candidate, hremember, hflat, -⟩ := h.refreshed.remember?_eq
  rw [openFlow?, hremember] at htoken
  refine ⟨_, h.takes hbegins hc htoken (by simp) rfl (kinds_emit _ _ _ _)
    ⟨hflat.blocks_eq_nil, fun k hk => ?_⟩, congrArg (· + 1) l.depth_refreshed, rfl⟩
  rcases List.mem_cons.mp hk with hnone | houter
  · cases hnone
  · exact hflat.isRequired_eq_false k houter

/-- A closing bracket. -/
theorem Flat.takes_close (h : l.Flat) (hdepth : 0 < l.depth) {sign : Char} {kind : TokenKind}
    (hsign : (sign, kind) ∈ [(']', .flowSequenceEnd), ('\x7d', .flowMappingEnd)])
    (hc : l.cursor.rest = sign :: rest) : ∃ l', l.Takes [sign] [kind] l' ∧
      l'.depth + 1 = l.depth := by
  have hrest : l.refreshed.cursor.rest = sign :: rest := hc
  obtain ⟨hbegins, htoken⟩ : BeginsToken sign ∧
      l.refreshed.token? sign rest = l.refreshed.closeFlow? kind := by
    simp only [List.mem_cons, Prod.mk.injEq, List.not_mem_nil, or_false] at hsign
    rcases hsign with ⟨rfl, rfl⟩ | ⟨rfl, rfl⟩ <;>
      refine ⟨⟨by decide, by decide, by decide⟩, ?_⟩ <;>
      simp [token?, atDocumentMark_eq_false hrest]
  obtain ⟨candidate, outer, hsplit⟩ :
      ∃ candidate outer, (l.refreshed.withCandidate none).outer = candidate :: outer :=
    List.exists_cons_of_length_pos (Nat.lt_of_lt_of_eq hdepth l.depth_refreshed.symm)
  obtain ⟨hforget, hflat⟩ := h.refreshed.forget?_eq
  rw [closeFlow?, hforget, Option.bind_eq_bind, Option.bind_some] at htoken
  dsimp only at htoken
  rw [hsplit] at htoken
  refine ⟨_, h.takes hbegins hc htoken (by simp) rfl (kinds_emit _ _ _ _)
    ⟨hflat.blocks_eq_nil, fun k hk => ?_⟩, ?_⟩
  · refine hflat.isRequired_eq_false k (List.mem_cons_of_mem _ ?_)
    rw [hsplit]
    exact hk
  · rw [← l.depth_refreshed]
    exact (congrArg List.length hsplit).symm

/-- A comma. -/
theorem Flat.takes_comma (h : l.Flat) (hc : l.cursor.rest = ',' :: rest) :
    ∃ l', l.Takes [','] [.flowEntry] l' ∧ l'.depth = l.depth ∧
      l'.keyAllowed = true := by
  have hrest : l.refreshed.cursor.rest = ',' :: rest := hc
  have htoken : l.refreshed.token? ',' rest = l.refreshed.flowEntry? := by
    simp [token?, atDocumentMark_eq_false hrest]
  obtain ⟨hforget, hflat⟩ := h.refreshed.forget?_eq
  unfold flowEntry? at htoken
  rw [hforget] at htoken
  exact ⟨_, h.takes ⟨by decide, by decide, by decide⟩ hc htoken (by simp) rfl (kinds_emit _ _ _ _)
    ⟨hflat.blocks_eq_nil, hflat.isRequired_eq_false⟩, l.depth_refreshed, rfl⟩

/-- A word between brackets. -/
theorem Flat.takes_word (h : l.Flat) (hdepth : 0 < l.depth) (hcolumn : 0 < l.cursor.mark.column)
    {word : List Char} (hword : IsWord word) (hends : EndsValue rest)
    (hc : l.cursor.rest = word ++ rest) :
    ∃ l', l.Takes word [.scalar .plain word] l' ∧ l'.depth = l.depth := by
  obtain ⟨d, more, rfl⟩ := List.exists_cons_of_ne_nil hword.ne_nil
  have hd : NetDraft.Yaml.isWordChar d = true := hword.isWordChar d List.mem_cons_self
  have hsigns := notMem_signs hd
  simp only [signs, List.mem_cons, List.not_mem_nil, or_false, not_or] at hsigns
  have hbegins : BeginsToken d := ⟨by simp [isSpacing, isBlank, isBreak, hsigns], by simp [hsigns],
    by simp [hsigns]⟩
  -- Behind a dash there is more of the word.
  have hdash : d = '-' → endsWord (more ++ rest) = false ∧
      (more ++ rest).head?.any isBlank = false := by
    rintro rfl
    obtain ⟨e, tail, rfl⟩ := List.exists_cons_of_ne_nil fun hmore => hword.ne_dash (hmore ▸ rfl)
    have hsigns := notMem_signs (hword.isWordChar e (by simp))
    simp only [signs, List.mem_cons, List.not_mem_nil, or_false, not_or] at hsigns
    simp [endsWord, isSpacing, isBlank, isBreak, hsigns]
  have hmarks : l.refreshed.cursor.atAnyDocumentMark = false :=
    Cursor.atAnyDocumentMark_eq_false hcolumn
  have htoken : l.refreshed.token? d (more ++ rest) = l.refreshed.plain? := by
    rw [Cursor.atAnyDocumentMark, Bool.or_eq_false_iff] at hmarks
    by_cases hd : d = '-'
    · simp [token?, hmarks, hd, hdash hd, -List.head?_append]
    · simp [token?, hmarks, hd, isSpacing, isBlank, isBreak, isIndicator, isFlowSign, hsigns]
  obtain ⟨candidate, hremember, hflat, -⟩ := h.refreshed.remember?_eq
  have hflow : (l.refreshed.withCandidate candidate).inFlow = true :=
    inFlow_eq_true (Nat.lt_of_lt_of_eq hdepth l.depth_refreshed.symm)
  have hplain : ∀ indent, Yaml.plain? (l.refreshed.withCandidate candidate).inFlow indent
      (l.refreshed.withCandidate candidate).cursor = some ⟨d :: more,
        (l.cursor.skip (d :: more).length).mark, l.cursor.skip (d :: more).length, false⟩ :=
    fun indent => hflow ▸ plain?_word hword hends hcolumn hc indent
  rw [Lexer.plain?, hremember, Option.bind_eq_bind, Option.bind_some, hplain] at htoken
  exact ⟨_, h.takes hbegins hc htoken (by simp) rfl (kinds_emit _ _ _ _)
    ⟨hflat.blocks_eq_nil, hflat.isRequired_eq_false⟩, l.depth_refreshed⟩

/-- A quoted string; if a key is allowed, its place is remembered. -/
theorem Flat.takes_string (h : l.Flat) (hcs : ∀ d ∈ cs, IsCommon d)
    (hc : l.cursor.rest = Text.quotedChars cs ++ rest) :
    ∃ l', l.Takes (Text.quotedChars cs) [.scalar .doubleQuoted cs] l' ∧ l'.depth = l.depth ∧
      (l.keyAllowed = true → l'.candidate = some ⟨l.cursor.mark, l.tokens.size, false⟩) := by
  have hrest : l.refreshed.cursor.rest = '"' :: (Text.escape cs ++ ['"'] ++ rest) := hc
  have htoken : l.refreshed.token? '"' (Text.escape cs ++ ['"'] ++ rest)
      = l.refreshed.quoted? false := by
    simp [token?, atDocumentMark_eq_false hrest]
  obtain ⟨candidate, hremember, hflat, hcandidate⟩ := h.refreshed.remember?_eq
  have hquoted : Yaml.quoted? false (l.refreshed.withCandidate candidate).cursor
      = some (cs, l.cursor.skip (Text.quotedChars cs).length) := quoted?_quotedChars hcs hc
  rw [Lexer.quoted?, hremember, Option.bind_eq_bind, Option.bind_some, hquoted] at htoken
  exact ⟨_, h.takes ⟨by decide, by decide, by decide⟩ hc htoken (by simp [Text.quotedChars]) rfl
    (kinds_emit _ _ _ _) ⟨hflat.blocks_eq_nil, hflat.isRequired_eq_false⟩, l.depth_refreshed,
    hcandidate⟩

theorem insertIdx_length_append {α : Type} (a b : α) (before : List α) :
    (before ++ [b]).insertIdx before.length a = before ++ [a, b] := by
  induction before with
  | nil => rfl
  | cons c before ih =>
      rw [List.cons_append, List.length_cons, List.insertIdx_succ_cons, ih]
      rfl

theorem kinds_insertAt (l : Lexer) (position : Nat) (kind : TokenKind) (mark : Mark) :
    (l.insertAt position kind mark).kinds = l.kinds.insertIdx position kind := by
  have hinsert : ∀ (tokens : Array Token) (t : Token),
      (tokens.insertIdxIfInBounds position t).toList = tokens.toList.insertIdx position t := by
    rintro ⟨ts⟩ t
    rw [List.insertIdxIfInBounds_toArray]
  rw [Lexer.kinds, insertAt, hinsert, List.map_insertIdx]
  rfl

/-- The colon behind a key puts the token of the key in front of that of its text. -/
theorem Flat.value?_eq (h : l.Flat) (hdepth : 0 < l.depth) {k : Candidate}
    (hk : l.candidate = some k) {kind : TokenKind} {before : List TokenKind}
    (hkinds : l.kinds = before ++ [kind]) (hposition : k.position = before.length) :
    ∃ l', l.value? = some l' ∧ l'.cursor = l.cursor.skip 1 ∧
      l'.kinds = before ++ [.key, kind, .value] ∧ l'.Flat ∧ l'.depth = l.depth := by
  have hinserted : (l.insertAt k.position .key k.mark).kinds = before ++ [.key, kind] := by
    rw [kinds_insertAt, hkinds, hposition, insertIdx_length_append]
  have hopen : (l.insertAt k.position .key k.mark).openBlock k.mark.column k.position
      .blockMappingStart k.mark = l.insertAt k.position .key k.mark :=
    if_neg (by simp [inFlow_eq_true (l := l.insertAt k.position .key k.mark) hdepth])
  rw [value?, hk]
  dsimp only
  rw [hopen]
  refine ⟨_, rfl, rfl, ?_, ⟨h.blocks_eq_nil, fun k hk => ?_⟩, rfl⟩
  · refine (kinds_emit _ _ _ _).trans ?_
    show (l.insertAt k.position .key k.mark).kinds ++ [.value] = _
    rw [hinserted, List.append_assoc]
    rfl
  · rcases List.mem_cons.mp hk with hnone | houter
    · cases hnone
    · exact h.isRequired_eq_false k (List.mem_cons_of_mem _ houter)

/-- A key and its colon. -/
theorem Flat.takes_key (h : l.Flat) (hdepth : 0 < l.depth) (hallowed : l.keyAllowed = true)
    (hcs : ∀ d ∈ cs, IsCommon d) (hshort : (Text.quotedChars cs).length ≤ 1024)
    (hc : l.cursor.rest = Text.quotedChars cs ++ ':' :: rest) :
    ∃ l', l.Takes (Text.quotedChars cs ++ [':']) [.key, .scalar .doubleQuoted cs, .value] l' ∧
      l'.depth = l.depth := by
  obtain ⟨l₁, hstring, hsame, hcandidate⟩ := h.takes_string hcs hc
  have hrest : l₁.refreshed.cursor.rest = ':' :: rest := hstring.rest_eq hc
  have hdepth : 0 < l₁.refreshed.depth := by rwa [depth_refreshed, hsame]
  have htoken : l₁.refreshed.token? ':' rest = l₁.refreshed.value? := by
    simp [token?, atDocumentMark_eq_false hrest, inFlow_eq_true hdepth]
  -- The key is short enough for its place to be remembered still.
  have hkept : l₁.refreshed.candidate = some ⟨l.cursor.mark, l.tokens.size, false⟩ := by
    show l₁.candidate.filter (isRecent l₁.cursor.mark) = _
    rw [hcandidate hallowed]
    refine Option.filter_some_pos ?_
    rw [hstring.cursor, isRecent]
    simp [hshort]
  obtain ⟨l₂, hvalue, hcursor, hkinds, hflat, hsame'⟩ := hstring.flat.refreshed.value?_eq hdepth
    hkept hstring.kinds (by simp [Lexer.kinds])
  obtain ⟨n, hn, hrun⟩ := hstring.run
  refine ⟨l₂, ⟨⟨1 + n, ?_, fun fuel => ?_⟩, ?_, hkinds, hflat⟩, ?_⟩
  · rw [List.length_append, List.length_singleton]
    omega
  · rw [← Nat.add_assoc, hrun, hstring.flat.run?_succ ⟨by decide, by decide, by decide⟩ hrest,
      htoken, hvalue, Option.bind_some]
  · rw [hcursor, List.length_append, ← Cursor.skip_skip, ← hstring.cursor]
    rfl
  · rw [hsame', depth_refreshed, hsame]

end

end Lexer

end NetDraft.Yaml
