/-
The tokens of compact JSON texts.

Compact JSON is YAML between brackets, on one line and without blanks, and its tokens can be told
from the value.  The lexer gets along the text value by value: a scalar is one token, and a walk
along the items of an array or the members of an object goes by induction on them, as the walks of
the reader of JSON do.
-/
import NetDraft.Proofs.Json.ReadBack
import NetDraft.Proofs.Yaml.Flow
import NetDraft.Proofs.Yaml.Number

namespace NetDraft

open Text (quotedChars joined)
open Yaml (Lexer IsCommon IsWord EndsValue)

/-! ### The tokens of a value -/

namespace Json

open Yaml (TokenKind)

/-- The comma in front of all items but the first one. -/
def leadKinds (first : Bool) : List TokenKind := if first then [] else [.flowEntry]

mutual

/-- The kinds of the tokens of a value. -/
def kinds : Json → List TokenKind
  | .array items => .flowSequenceStart :: (itemKinds true items ++ [.flowSequenceEnd])
  | .object members => .flowMappingStart :: (memberKinds true members ++ [.flowMappingEnd])
  | .string s => [.scalar .doubleQuoted s.toList]
  | .null => [.scalar .plain (chars .null)]
  | .bool b => [.scalar .plain (chars (.bool b))]
  | .number n => [.scalar .plain n.text.toList]

/-- The kinds of the tokens of the items of an array. -/
def itemKinds (first : Bool) : List Json → List TokenKind
  | [] => []
  | item :: rest => leadKinds first ++ (item.kinds ++ itemKinds false rest)

/-- The kinds of the tokens of the members of an object. -/
def memberKinds (first : Bool) : List (String × Json) → List TokenKind
  | [] => []
  | (key, value) :: rest =>
    leadKinds first
      ++ (.key :: .scalar .doubleQuoted key.toList :: .value :: (value.kinds ++ memberKinds false rest))

end

/-- A key of common characters that is short enough to be found when its colon comes. -/
def IsKey (key : String) : Prop :=
  (∀ c ∈ key.toList, IsCommon c) ∧ (quotedChars key.toList).length ≤ 1024

instance (key : String) : Decidable (IsKey key) :=
  letI : Decidable (∀ c ∈ key.toList, IsCommon c) := List.decidableBAll _ _
  inferInstanceAs (Decidable (_ ∧ _))

/-- A value whose strings have only common characters. -/
inductive Shared : Json → Prop
  | null : Shared .null
  | bool (b : Bool) : Shared (.bool b)
  | number (n : Number) : Shared (.number n)
  | string (s : String) (h : ∀ c ∈ s.toList, IsCommon c) : Shared (.string s)
  | array {items : List Json} (h : ∀ j ∈ items, Shared j) : Shared (.array items)
  | object {members : List (String × Json)} (hkeys : ∀ m ∈ members, IsKey m.1)
      (hvalues : ∀ m ∈ members, Shared m.2) : Shared (.object members)

end Json

/-! ### Walks -/

namespace Yaml.Lexer

open Json (lead ahead leadKinds itemChars memberChars itemKinds memberKinds)

/-- The lexer stands between brackets, behind the first one of its line. -/
structure Inside (l : Lexer) : Prop extends Flat l where
  depth_pos : 0 < l.depth
  column_pos : 0 < l.cursor.mark.column

variable {l l' : Lexer} {rest : List Char}

theorem Takes.inside {cs : List Char} {ks : List TokenKind} (h : l.Takes cs ks l') (hl : l.Inside)
    (hdepth : l'.depth = l.depth) : l'.Inside :=
  ⟨h.flat, hdepth ▸ hl.depth_pos, by
    rw [h.column_eq]
    exact Nat.add_pos_left hl.column_pos _⟩

/-- What stands between brackets is taken. -/
def TakesValue (j : Json) : Prop :=
  ∀ (l : Lexer) (rest : List Char), l.Inside → EndsValue rest → l.cursor.rest = j.chars ++ rest →
    ∃ l', l.Takes j.chars j.kinds l' ∧ l'.depth = l.depth

/-- The comma in front of an item. -/
theorem Inside.takes_lead (h : l.Inside) (first : Bool) (hc : l.cursor.rest = lead first ++ rest) :
    ∃ l', l.Takes (lead first) (leadKinds first) l' ∧ l'.depth = l.depth ∧
      ((first = true → l.keyAllowed = true) → l'.keyAllowed = true) := by
  cases first with
  | true => exact ⟨l, .refl h.toFlat, rfl, fun hallowed => hallowed rfl⟩
  | false =>
      obtain ⟨l', htakes, hdepth, hallowed⟩ := h.toFlat.takes_comma hc
      exact ⟨l', htakes, hdepth, fun _ => hallowed⟩

theorem endsValue_ahead (texts : List (List Char)) {closing : Char}
    (hclosing : isFlowSign closing = true) : EndsValue (ahead false texts ++ closing :: rest) := by
  cases texts with
  | nil => exact ⟨closing, rest, rfl, hclosing⟩
  | cons text texts => exact ⟨',', _, rfl, rfl⟩

/-- A walk along the items of an array. -/
theorem takes_items {items : List Json} (hitems : ∀ j ∈ items, TakesValue j) :
    ∀ (first : Bool) (l : Lexer), l.Inside →
      l.cursor.rest = ahead first (itemChars items) ++ ']' :: rest →
        ∃ l', l.Takes (ahead first (itemChars items)) (itemKinds first items) l' ∧
          l'.depth = l.depth := by
  induction items with
  | nil => exact fun _ l hl _ => ⟨l, .refl hl.toFlat, rfl⟩
  | cons j items ih =>
      intro first l hl hc
      rw [itemChars, ahead, List.append_assoc, List.append_assoc] at hc
      obtain ⟨l₁, hlead, hdepth₁, -⟩ := hl.takes_lead first hc
      have hl₁ := hlead.inside hl hdepth₁
      have hc₁ := hlead.rest_eq hc
      obtain ⟨l₂, hvalue, hdepth₂⟩ := hitems j List.mem_cons_self l₁ _ hl₁
        (endsValue_ahead (itemChars items) rfl) hc₁
      obtain ⟨l₃, hmore, hdepth₃⟩ := ih (fun j hj => hitems j (List.mem_cons_of_mem _ hj)) false l₂
        (hvalue.inside hl₁ hdepth₂) (hvalue.rest_eq hc₁)
      exact ⟨l₃, hlead.trans (hvalue.trans hmore), by rw [hdepth₃, hdepth₂, hdepth₁]⟩

/-- A walk along the members of an object. -/
theorem takes_members {members : List (String × Json)}
    (hkeys : ∀ m ∈ members, Json.IsKey m.1)
    (hvalues : ∀ m ∈ members, TakesValue m.2) :
    ∀ (first : Bool) (l : Lexer), l.Inside → (first = true → l.keyAllowed = true) →
      l.cursor.rest = ahead first (memberChars members) ++ '\x7d' :: rest →
        ∃ l', l.Takes (ahead first (memberChars members)) (memberKinds first members) l' ∧
          l'.depth = l.depth := by
  induction members with
  | nil => exact fun _ l hl _ _ => ⟨l, .refl hl.toFlat, rfl⟩
  | cons m members ih =>
      obtain ⟨key, value⟩ := m
      intro first l hl hallowed hc
      rw [List.forall_mem_cons] at hkeys hvalues
      have htext : ahead first (memberChars ((key, value) :: members))
          = lead first ++ ((quotedChars key.toList ++ [':'])
            ++ (value.chars ++ ahead false (memberChars members))) := by
        simp [memberChars, ahead]
      have hkinds : memberKinds first ((key, value) :: members)
          = leadKinds first ++ ([.key, .scalar .doubleQuoted key.toList, .value]
            ++ (value.kinds ++ memberKinds false members)) := rfl
      rw [htext, List.append_assoc, List.append_assoc] at hc
      obtain ⟨l₁, hlead, hdepth₁, hallowed₁⟩ := hl.takes_lead first hc
      have hl₁ := hlead.inside hl hdepth₁
      have hc₁ := hlead.rest_eq hc
      obtain ⟨l₂, hkey, hdepth₂⟩ := hl₁.takes_key hl₁.depth_pos (hallowed₁ hallowed) hkeys.1.1
        hkeys.1.2 (hc₁.trans (List.append_assoc _ _ _))
      have hl₂ := hkey.inside hl₁ hdepth₂
      have hc₂ := (hkey.rest_eq hc₁).trans (List.append_assoc _ _ _)
      obtain ⟨l₃, hvalue, hdepth₃⟩ := hvalues.1 l₂ _ hl₂
        (endsValue_ahead (memberChars members) rfl) hc₂
      obtain ⟨l₄, hmore, hdepth₄⟩ := ih hkeys.2 hvalues.2 false l₃ (hvalue.inside hl₂ hdepth₃)
        (fun htrue => absurd htrue (by decide)) (hvalue.rest_eq hc₂)
      rw [htext, hkinds]
      exact ⟨l₄, hlead.trans (hkey.trans (hvalue.trans hmore)), by
        rw [hdepth₄, hdepth₃, hdepth₂, hdepth₁]⟩

/-! ### Whole values -/

/-- What stands between two brackets is taken with them. -/
theorem Flat.takes_brackets (h : l.Flat) {opening closing : Char} {start stop : TokenKind}
    (hopening : (opening, start) ∈ [('[', .flowSequenceStart), ('\x7b', .flowMappingStart)])
    (hclosing : (closing, stop) ∈ [(']', .flowSequenceEnd), ('\x7d', .flowMappingEnd)])
    {cs : List Char} {ks : List TokenKind}
    (hwalk : ∀ l : Lexer, l.Inside → l.keyAllowed = true → l.cursor.rest = cs ++ closing :: rest →
      ∃ l', l.Takes cs ks l' ∧ l'.depth = l.depth)
    (hc : l.cursor.rest = opening :: (cs ++ closing :: rest)) :
    ∃ l', l.Takes (opening :: (cs ++ [closing])) (start :: (ks ++ [stop])) l' ∧
      l'.depth = l.depth := by
  obtain ⟨l₁, hopen, hdepth₁, hallowed⟩ := h.takes_open hopening hc
  have hl₁ : l₁.Inside := ⟨hopen.flat, by omega, by rw [hopen.column_eq]; exact Nat.succ_pos _⟩
  have hc₁ : l₁.cursor.rest = cs ++ closing :: rest := hopen.rest_eq hc
  obtain ⟨l₂, hinside, hdepth₂⟩ := hwalk l₁ hl₁ hallowed hc₁
  have hl₂ := hinside.inside hl₁ hdepth₂
  obtain ⟨l₃, hclose, hdepth₃⟩ := hl₂.takes_close hl₂.depth_pos hclosing (hinside.rest_eq hc₁)
  exact ⟨l₃, hopen.trans (hinside.trans hclose), by omega⟩

theorem Flat.takes_array (h : l.Flat) {items : List Json} (hitems : ∀ j ∈ items, TakesValue j)
    (hc : l.cursor.rest = (Json.array items).chars ++ rest) :
    ∃ l', l.Takes (Json.array items).chars (Json.array items).kinds l' ∧ l'.depth = l.depth := by
  have htext : (Json.array items).chars = '[' :: (ahead true (itemChars items) ++ [']']) := by
    rw [Json.chars, Json.joined_eq_ahead]
  rw [htext, List.cons_append, List.append_assoc] at hc
  rw [htext]
  exact h.takes_brackets (by simp) (by simp)
    (fun l hl _ hc => takes_items hitems true l hl hc) hc

theorem Flat.takes_object (h : l.Flat) {members : List (String × Json)}
    (hkeys : ∀ m ∈ members, Json.IsKey m.1)
    (hvalues : ∀ m ∈ members, TakesValue m.2)
    (hc : l.cursor.rest = (Json.object members).chars ++ rest) :
    ∃ l', l.Takes (Json.object members).chars (Json.object members).kinds l' ∧
      l'.depth = l.depth := by
  have htext : (Json.object members).chars
      = '\x7b' :: (ahead true (memberChars members) ++ ['\x7d']) := by
    rw [Json.chars, Json.joined_eq_ahead]
  rw [htext, List.cons_append, List.append_assoc] at hc
  rw [htext]
  exact h.takes_brackets (by simp) (by simp)
    (fun l hl hallowed hc => takes_members hkeys hvalues true l hl (fun _ => hallowed) hc) hc

theorem takesValue_word {j : Json} (hword : IsWord j.chars)
    (hkinds : j.kinds = [.scalar .plain j.chars]) : TakesValue j := by
  intro l rest hl hends hc
  rw [hkinds]
  exact hl.takes_word hl.depth_pos hl.column_pos hword hends hc

theorem isWord_null : IsWord Json.null.chars :=
  ⟨List.all_eq_true.mp (by decide), by decide, by decide⟩

theorem isWord_bool (b : Bool) : IsWord (Json.bool b).chars := by
  cases b <;> exact ⟨List.all_eq_true.mp (by decide), by decide, by decide⟩

theorem isWord_number (n : Number) : IsWord n.text.toList := by
  obtain ⟨negative, numeral, htext, -⟩ := n.text_is_signed_numeral
  obtain ⟨c, more, hchars, hc⟩ := numeral.exists_head
  have hdash : c ≠ '-' := by
    rintro rfl
    exact absurd hc (by decide)
  refine ⟨fun d hd => ?_, ?_, ?_⟩
  · rcases Number.mem_text hd with hdigit | hother
    · simp [isWordChar, Char.isAlphanum, hdigit]
    · have hall : ['.', 'e', '-', '+'].all isWordChar = true := by decide
      exact List.all_eq_true.mp hall d hother
  · rw [htext, hchars]
    simp
  · rw [htext, hchars]
    cases negative <;> simp [Number.signChars, hdash]

/-- **The text of a value is taken for its tokens.** -/
theorem takesValue_of_shared {j : Json} (h : j.Shared) : TakesValue j := by
  induction h with
  | null => exact takesValue_word isWord_null rfl
  | bool b => exact takesValue_word (isWord_bool b) (by cases b <;> rfl)
  | number n => exact takesValue_word (isWord_number n) rfl
  | string s hs =>
      intro l rest hl _ hc
      obtain ⟨l', htakes, hdepth, -⟩ := hl.takes_string hs hc
      exact ⟨l', htakes, hdepth⟩
  | array _ ih => exact fun l rest hl _ hc => hl.takes_array ih hc
  | object hkeys _ ih => exact fun l rest hl _ hc => hl.takes_object hkeys ih hc

end Yaml.Lexer

/-! ### Texts -/

namespace Json

theorem itemChars_eq_map (items : List Json) : itemChars items = items.map chars := by
  induction items with
  | nil => rfl
  | cons item items ih => rw [itemChars, ih, List.map_cons]

theorem memberChars_eq_map (members : List (String × Json)) :
    memberChars members = members.map fun m => quotedChars m.1.toList ++ ':' :: m.2.chars := by
  induction members with
  | nil => rfl
  | cons m members ih => rw [memberChars, ih, List.map_cons]

theorem isAllowed_of_mem_joined {texts : List (List Char)} {c : Char}
    (h : ∀ text ∈ texts, c ∈ text → Yaml.isAllowed c = true) (hc : c ∈ joined [','] texts) :
    Yaml.isAllowed c = true := by
  rcases Text.mem_joined hc with hcomma | ⟨text, htext, hc⟩
  · rw [List.mem_singleton.mp hcomma]
    decide
  · exact h text htext hc

/-- All characters of the text are allowed in a document. -/
theorem Shared.isAllowed_of_mem {j : Json} (h : j.Shared) {c : Char} (hc : c ∈ j.chars) :
    Yaml.isAllowed c = true := by
  induction h with
  | null => exact Yaml.isAllowed_of_isWordChar (Lexer.isWord_null.isWordChar c hc)
  | bool b => exact Yaml.isAllowed_of_isWordChar ((Lexer.isWord_bool b).isWordChar c hc)
  | number n => exact Yaml.isAllowed_of_isWordChar ((Lexer.isWord_number n).isWordChar c hc)
  | string s hs => exact Yaml.isAllowed_of_mem_quotedChars hs hc
  | array _ ih =>
      simp only [chars, itemChars_eq_map, List.mem_cons, List.mem_append, List.not_mem_nil,
        or_false] at hc
      rcases hc with rfl | hjoined | rfl
      · decide
      · refine isAllowed_of_mem_joined (List.forall_mem_map.mpr fun j hj hc => ?_) hjoined
        exact ih j hj hc
      · decide
  | object hkeys _ ih =>
      simp only [chars, memberChars_eq_map, List.mem_cons, List.mem_append, List.not_mem_nil,
        or_false] at hc
      rcases hc with rfl | hjoined | rfl
      · decide
      · refine isAllowed_of_mem_joined (List.forall_mem_map.mpr fun m hm hc => ?_) hjoined
        rcases List.mem_append.mp hc with hkey | hvalue
        · exact Yaml.isAllowed_of_mem_quotedChars (hkeys m hm).1 hkey
        · rcases List.mem_cons.mp hvalue with rfl | hvalue
          · decide
          · exact ih m hm hvalue
      · decide

/-- **The text of an object has the tokens of the object, and one that marks its end.** -/
theorem Shared.tokens?_chars {members : List (String × Json)} (h : (Json.object members).Shared) :
    ∃ tokens, Yaml.tokens? (Json.object members).chars = some tokens ∧
      tokens.map Yaml.Token.kind = (Json.object members).kinds ++ [.streamEnd] := by
  have hallowed : (Json.object members).chars.all Yaml.isAllowed = true :=
    List.all_eq_true.mpr fun c hc => h.isAllowed_of_mem hc
  have hstart : (Lexer.start (Json.object members).chars).Flat := ⟨rfl, by simp [Lexer.start]⟩
  cases h with
  | object hkeys hvalues =>
      obtain ⟨l, htakes, -⟩ := hstart.takes_object hkeys
        (fun m hm => Lexer.takesValue_of_shared (hvalues m hm)) (List.append_nil _).symm
      obtain ⟨n, hn, hrun⟩ := htakes.run
      obtain ⟨fuel, hfuel⟩ : ∃ fuel, (Json.object members).chars.length + 1 = fuel + 1 + n :=
        ⟨(Json.object members).chars.length - n, by omega⟩
      obtain ⟨mark, hend⟩ := htakes.flat.run?_nil (htakes.rest_eq (List.append_nil _).symm) fuel
      refine ⟨l.tokens.toList ++ [⟨.streamEnd, mark, mark⟩], ?_, ?_⟩
      · rw [Yaml.tokens?, if_pos hallowed, hfuel, hrun, hend]
      · rw [List.map_append]
        exact congrArg (· ++ [Yaml.TokenKind.streamEnd]) htakes.kinds

/-! ### Texts that are not allowed -/

mutual

/-- The strings of a value, apart from its keys. -/
def strings : Json → List String
  | .array items => itemStrings items
  | .object members => memberStrings members
  | .string s => [s]
  | _ => []

/-- The strings of the items of an array. -/
def itemStrings : List Json → List String
  | [] => []
  | item :: rest => item.strings ++ itemStrings rest

/-- The strings of the members of an object. -/
def memberStrings : List (String × Json) → List String
  | [] => []
  | (_, value) :: rest => value.strings ++ memberStrings rest

end

theorem mem_itemStrings {items : List Json} {j : Json} (hj : j ∈ items) {s : String}
    (hs : s ∈ j.strings) : s ∈ itemStrings items := by
  induction items with
  | nil => cases hj
  | cons item items ih =>
      rcases List.mem_cons.mp hj with rfl | hj
      · exact List.mem_append_left _ hs
      · exact List.mem_append_right _ (ih hj)

theorem mem_memberStrings {members : List (String × Json)} {m : String × Json} (hm : m ∈ members)
    {s : String} (hs : s ∈ m.2.strings) : s ∈ memberStrings members := by
  induction members with
  | nil => cases hm
  | cons first members ih =>
      rcases List.mem_cons.mp hm with rfl | hm
      · exact List.mem_append_left _ hs
      · exact List.mem_append_right _ (ih hm)

theorem mem_joined_of_mem {texts : List (List Char)} {text : List Char} (h : text ∈ texts) {c : Char}
    (hc : c ∈ text) : c ∈ joined [','] texts := by
  induction texts with
  | nil => cases h
  | cons first rest ih =>
      cases rest with
      | nil => exact List.mem_singleton.mp h ▸ hc
      | cons second rest =>
          rw [joined, List.append_assoc]
          · rcases List.mem_cons.mp h with rfl | h
            · exact List.mem_append_left _ hc
            · exact List.mem_append_right _ (List.mem_append_right _ (ih h))
          · simp

mutual

/-- A character that is not escaped stands in the text of every value whose strings have it. -/
theorem mem_chars {c : Char} (hc : Text.escapeChar c = [c]) : ∀ (j : Json) {s : String},
    s ∈ j.strings → c ∈ s.toList → c ∈ j.chars
  | .null, _, hs, _ | .bool _, _, hs, _ | .number _, _, hs, _ => by cases hs
  | .string s, _, hs, hmem => by
      obtain rfl := List.mem_singleton.mp hs
      refine List.mem_cons_of_mem _ (List.mem_append_left _ ?_)
      exact List.mem_flatMap.mpr ⟨c, hmem, hc ▸ List.mem_cons_self⟩
  | .array items, s, hs, hmem => by
      obtain ⟨text, htext, hc⟩ := mem_itemChars hc items hs hmem
      exact List.mem_cons_of_mem _ (List.mem_append_left _ (mem_joined_of_mem htext hc))
  | .object members, s, hs, hmem => by
      obtain ⟨text, htext, hc⟩ := mem_memberChars hc members hs hmem
      exact List.mem_cons_of_mem _ (List.mem_append_left _ (mem_joined_of_mem htext hc))

theorem mem_itemChars {c : Char} (hc : Text.escapeChar c = [c]) : ∀ (items : List Json) {s : String},
    s ∈ itemStrings items → c ∈ s.toList → ∃ text ∈ itemChars items, c ∈ text
  | [], _, hs, _ => by cases hs
  | item :: rest, s, hs, hmem => by
      rcases List.mem_append.mp hs with hfirst | hrest
      · exact ⟨_, List.mem_cons_self, mem_chars hc _ hfirst hmem⟩
      · obtain ⟨text, htext, hc⟩ := mem_itemChars hc rest hrest hmem
        exact ⟨text, List.mem_cons_of_mem _ htext, hc⟩

theorem mem_memberChars {c : Char} (hc : Text.escapeChar c = [c]) :
    ∀ (members : List (String × Json)) {s : String}, s ∈ memberStrings members → c ∈ s.toList →
      ∃ text ∈ memberChars members, c ∈ text
  | [], _, hs, _ => by cases hs
  | (key, value) :: rest, s, hs, hmem => by
      rcases List.mem_append.mp hs with hfirst | hrest
      · exact ⟨_, List.mem_cons_self,
          List.mem_append_right _ (List.mem_cons_of_mem _ (mem_chars hc _ hfirst hmem))⟩
      · obtain ⟨text, htext, hc⟩ := mem_memberChars hc rest hrest hmem
        exact ⟨text, List.mem_cons_of_mem _ htext, hc⟩

end

/-- **A string with a character that is not allowed makes a text that has no tokens.** -/
theorem tokens?_eq_none {j : Json} {s : String} (hs : s ∈ j.strings) {c : Char}
    (hc : c ∈ s.toList) (hlarge : 0x20 ≤ c.toNat) (hallowed : Yaml.isAllowed c = false) :
    Yaml.tokens? j.chars = none := by
  have hwritten : Text.escapeChar c = [c] := by
    rcases escapeChar_cases c with ⟨letter, hmeaning, -, -⟩ | ⟨hcontrol, -⟩ | ⟨-, -, -, hwritten⟩
    · -- What a letter stands for is allowed or a control character.
      have hshort : Yaml.isAllowed c = true ∨ c.toNat < 0x20 := by
        unfold shortEscape? at hmeaning
        split at hmeaning <;> cases hmeaning <;> decide
      rcases hshort with htrue | hcontrol
      · rw [hallowed] at htrue
        cases htrue
      · omega
    · omega
    · exact hwritten
  have hall : ¬j.chars.all Yaml.isAllowed = true := by
    intro hall
    have htrue := List.all_eq_true.mp hall c (mem_chars hwritten j hs hc)
    rw [hallowed] at htrue
    cases htrue
  exact if_neg hall

end Json

end NetDraft
