/-
JSON values are read back from their compact texts.

The reader takes a value from the front of a text and leaves the rest, so what it reads depends on
the rest only in that a numeral must not go on there.  Each kind of value has its lemma about that;
for arrays and objects it is about one step of their walks, which then go by induction along the
items.  Floats are left out, since the reader does not round them as the writer does.
-/
import NetDraft.Proofs.Json.Integer
import NetDraft.Proofs.Number.Reading
import NetDraft.Proofs.Text.Quoted

namespace NetDraft.Json

open Text (Ends signedDigits joined quotedChars escape)

/-! ### Values as they are read back -/

mutual

/-- The value as it is read back: of members with the same key the last one stays, and members
stand in ascending order of their keys. -/
def asRead : Json → Json
  | .array items => .array (itemsAsRead items)
  | .object members => .object (membersAsRead [] members)
  | scalar => scalar

/-- `asRead` on every item. -/
def itemsAsRead : List Json → List Json
  | [] => []
  | item :: rest => item.asRead :: itemsAsRead rest

/-- The members that are kept, with those from before. -/
def membersAsRead (before : List (String × Json)) : List (String × Json) → List (String × Json)
  | [] => before
  | (key, value) :: rest => membersAsRead (insertEntry key value.asRead before) rest

end

/-- A value that a reader can read with so many brackets open, and that holds no float. -/
inductive Readable : Nat → Json → Prop
  | null (depth : Nat) : Readable depth .null
  | bool (depth : Nat) (b : Bool) : Readable depth (.bool b)
  | integer (depth : Nat) (i : Int) (hi : -0x8000000000000000 ≤ i ∧ i < 0x10000000000000000) :
      Readable depth (.number (.integer i hi))
  | string (depth : Nat) (s : String) : Readable depth (.string s)
  | array {depth : Nat} {items : List Json} (h : ∀ j ∈ items, Readable depth j) :
      Readable (depth + 1) (.array items)
  | object {depth : Nat} {members : List (String × Json)} (h : ∀ m ∈ members, Readable depth m.2) :
      Readable (depth + 1) (.object members)

/-- Adds an item to those that were read. -/
def readItem (depth : Nat) (items : List Json) (cs : List Char) :
    Except Fault (List Json × List Char) := do
  let (item, cs) ← readValue depth cs
  return (items ++ [item], cs)

/-- Adds a member to those that were read. -/
def readMember (depth : Nat) (key : String) (members : List (String × Json)) (cs : List Char) :
    Except Fault (List (String × Json) × List Char) := do
  let cs ← readColon cs
  let (value, cs) ← readValue depth cs
  return (insertEntry key value members, cs)

/-! ### What a walk finds -/

/-- A comma in front of all items but the first one. -/
def lead (first : Bool) : List Char := if first then [] else [',']

/-- Texts as a walk meets them. -/
def ahead (first : Bool) : List (List Char) → List Char
  | [] => []
  | text :: rest => lead first ++ (text ++ ahead false rest)

theorem joined_eq_ahead (texts : List (List Char)) : joined [','] texts = ahead true texts := by
  induction texts with
  | nil => rfl
  | cons text rest ih =>
      cases rest with
      | nil => exact (List.append_nil text).symm
      | cons second rest =>
          rw [joined, ih, List.append_assoc]
          · rfl
          · simp

/-- Behind an item there is a comma or the end, and no numeral goes on there. -/
theorem ends_ahead (texts : List (List Char)) {closing : Char}
    (hclosing : continuesNumeral closing = false) (rest : List Char) :
    Ends continuesNumeral (ahead false texts ++ closing :: rest) := by
  intro c hc
  cases texts with
  | nil =>
      rw [← Option.some.inj hc]
      exact hclosing
  | cons text texts =>
      rw [← Option.some.inj hc]
      rfl

/-- A value is written from a character on that neither is blank nor closes an array. -/
theorem chars_eq_cons (j : Json) : ∃ c cs, j.chars = c :: cs ∧ isBlank c = false ∧ c ≠ ']' := by
  cases j with
  | null => exact ⟨_, _, rfl, by decide⟩
  | bool b => cases b <;> exact ⟨_, _, rfl, by decide⟩
  | string s => exact ⟨_, _, rfl, by decide⟩
  | array items => exact ⟨_, _, rfl, by decide⟩
  | object members => exact ⟨_, _, rfl, by decide⟩
  | number n =>
      have hread := n.ofChars?_text
      cases htext : n.text.toList with
      | nil =>
          rw [htext] at hread
          cases hread
      | cons c cs =>
          have hmem : c ∈ n.text.toList := by simp [htext]
          have hc := Number.mem_text hmem
          refine ⟨c, cs, htext, ?_⟩
          rcases hc with hdigit | hother
          · refine ⟨isBlank_of_isDigit hdigit, ?_⟩
            rintro rfl
            exact absurd hdigit (by decide)
          · have hall : ∀ d ∈ ['.', 'e', '-', '+'], isBlank d = false ∧ d ≠ ']' := by simp [isBlank]
            exact hall c hother

/-! ### Arrays -/

theorem nextItem_lead (first : Bool) {c : Char} (hblank : isBlank c = false) (hc : c ≠ ']')
    (cs : List Char) : nextItem first (lead first ++ c :: cs) = .ok (true, c :: cs) := by
  have hskip : skipBlanks (c :: cs) = c :: cs := by simp [skipBlanks, hblank]
  cases first with
  | true =>
      show nextItem true (c :: cs) = _
      unfold nextItem
      rw [hskip]
      split
      · next heq => cases heq
      · next heq => exact absurd (List.cons.inj heq).1 hc
      · next heq =>
          obtain ⟨rfl, rfl⟩ := List.cons.inj heq
          rfl
  | false =>
      show nextItem false (',' :: c :: cs) = _
      have hcomma : skipBlanks (',' :: c :: cs) = ',' :: c :: cs := rfl
      unfold nextItem
      rw [hcomma]
      split
      · next heq => cases heq
      · next heq => exact absurd (List.cons.inj heq).1 (by decide)
      · next heq =>
          obtain ⟨rfl, rfl⟩ := List.cons.inj heq
          rw [if_neg (by decide), if_pos rfl, hskip]
          split
          · next heq => cases heq
          · next heq => exact absurd (List.cons.inj heq).1 hc
          · rfl

theorem length_le_itemChars (items : List Json) :
    ∀ first, items.length ≤ (ahead first (itemChars items)).length := by
  induction items with
  | nil => exact fun _ => Nat.le_refl _
  | cons j items ih =>
      intro first
      obtain ⟨c, cs, hchars, -⟩ := j.chars_eq_cons
      have hrest := ih false
      simp only [itemChars, ahead, hchars, List.length_append, List.length_cons]
      omega

/-- A walk goes along the items of an array. -/
theorem foldItems_ahead {depth : Nat} {items : List Json}
    (hitem : ∀ j ∈ items, ∀ rest, Ends continuesNumeral rest →
      readValue depth (j.chars ++ rest) = .ok (j.asRead, rest)) (rest : List Char) :
    ∀ fuel, items.length < fuel → ∀ first acc,
      foldItems (readItem depth) fuel first acc (ahead first (itemChars items) ++ ']' :: rest)
        = .ok (acc ++ itemsAsRead items, rest) := by
  induction items with
  | nil =>
      intro fuel hfuel first acc
      obtain ⟨fuel, rfl⟩ := Nat.exists_eq_succ_of_ne_zero (Nat.ne_zero_of_lt hfuel)
      rw [itemsAsRead, List.append_nil]
      cases first <;> rfl
  | cons j items ih =>
      intro fuel hfuel first acc
      obtain ⟨fuel, rfl⟩ := Nat.exists_eq_succ_of_ne_zero (Nat.ne_zero_of_lt hfuel)
      obtain ⟨c, cs, hchars, hblank, hc⟩ := j.chars_eq_cons
      have hread := hitem j List.mem_cons_self (ahead false (itemChars items) ++ ']' :: rest)
        (ends_ahead _ rfl rest)
      have hrest := ih (fun j hj => hitem j (List.mem_cons_of_mem _ hj)) fuel
        (by simpa using hfuel) false (acc ++ [j.asRead])
      have hnext := nextItem_lead first hblank hc
        (cs ++ (ahead false (itemChars items) ++ ']' :: rest))
      rw [hchars, List.cons_append] at hread
      have htext : ahead first (itemChars (j :: items)) ++ ']' :: rest
          = lead first ++ c :: (cs ++ (ahead false (itemChars items) ++ ']' :: rest)) := by
        simp [itemChars, ahead, hchars]
      have hitems : acc ++ itemsAsRead (j :: items) = acc ++ [j.asRead] ++ itemsAsRead items := by
        simp [itemsAsRead]
      rw [htext, hitems, foldItems, hnext]
      show (readItem depth acc _ >>= fun found =>
        foldItems (readItem depth) fuel false found.1 found.2) = _
      rw [readItem, hread]
      exact hrest

theorem readItems_chars {depth : Nat} {items : List Json}
    (hitem : ∀ j ∈ items, ∀ rest, Ends continuesNumeral rest →
      readValue depth (j.chars ++ rest) = .ok (j.asRead, rest)) (rest : List Char) :
    readItems (readItem depth) [] (joined [','] (itemChars items) ++ ']' :: rest)
      = .ok (itemsAsRead items, rest) := by
  have hfuel : items.length < (ahead true (itemChars items) ++ ']' :: rest).length + 1 := by
    have := length_le_itemChars items true
    rw [List.length_append]
    omega
  rw [joined_eq_ahead, readItems]
  exact foldItems_ahead hitem rest _ hfuel true []

/-! ### Objects -/

variable {σ : Type} {member : String → σ → List Char → Except Fault (σ × List Char)}

/-- The members are read one after the other, wherever they stand. -/
inductive Gathers (member : String → σ → List Char → Except Fault (σ × List Char)) :
    σ → List (String × Json) → σ → Prop
  | nil (acc : σ) : Gathers member acc [] acc
  | cons {acc acc' final : σ} {key : String} {value : Json} {members : List (String × Json)}
      (hmember : ∀ rest, Ends continuesNumeral rest →
        member key acc (':' :: (value.chars ++ rest)) = .ok (acc', rest))
      (hrest : Gathers member acc' members final) :
      Gathers member acc ((key, value) :: members) final

theorem nextKey_lead (first : Bool) (cs : List Char) :
    nextKey first (lead first ++ '"' :: cs) = .ok (true, cs) := by
  cases first <;> rfl

/-- A walk goes along the members of an object. -/
theorem Gathers.foldMembers {start final : σ} {members : List (String × Json)}
    (h : Gathers member start members final) (rest : List Char) :
    ∀ fuel, members.length < fuel → ∀ first,
      foldMembers member fuel first start (ahead first (memberChars members) ++ '\x7d' :: rest)
        = .ok (final, rest) := by
  induction h with
  | nil acc =>
      intro fuel hfuel first
      obtain ⟨fuel, rfl⟩ := Nat.exists_eq_succ_of_ne_zero (Nat.ne_zero_of_lt hfuel)
      cases first <;> rfl
  | @cons acc acc' final key value members hmember _ ih =>
      intro fuel hfuel first
      obtain ⟨fuel, rfl⟩ := Nat.exists_eq_succ_of_ne_zero (Nat.ne_zero_of_lt hfuel)
      have hread := hmember (ahead false (memberChars members) ++ '\x7d' :: rest)
        (ends_ahead _ rfl rest)
      have hrest := ih fuel (by simpa using hfuel) false
      have htext : ahead first (memberChars ((key, value) :: members)) ++ '\x7d' :: rest
          = lead first ++ '"' :: (escape key.toList ++ '"' :: (':' :: (value.chars
            ++ (ahead false (memberChars members) ++ '\x7d' :: rest)))) := by
        simp [memberChars, ahead, quotedChars]
      rw [htext, Json.foldMembers, nextKey_lead]
      show (readString _ >>= fun found => member found.1 acc found.2 >>= fun found =>
        Json.foldMembers member fuel false found.1 found.2) = _
      rw [readString_escape]
      show (member key acc _ >>= fun found => Json.foldMembers member fuel false found.1 found.2)
        = _
      rw [hread]
      exact hrest

theorem length_le_memberChars (members : List (String × Json)) :
    ∀ first, members.length ≤ (ahead first (memberChars members)).length := by
  induction members with
  | nil => exact fun _ => Nat.le_refl _
  | cons m members ih =>
      intro first
      have hrest := ih false
      simp only [memberChars, ahead, quotedChars, List.length_append, List.length_cons]
      omega

theorem Gathers.readMembers {start final : σ} {members : List (String × Json)}
    (h : Gathers member start members final) (rest : List Char) :
    Json.readMembers member start (joined [','] (memberChars members) ++ '\x7d' :: rest)
      = .ok (final, rest) := by
  have hfuel :
      members.length < (ahead true (memberChars members) ++ '\x7d' :: rest).length + 1 := by
    have := length_le_memberChars members true
    rw [List.length_append]
    omega
  rw [joined_eq_ahead, Json.readMembers]
  exact h.foldMembers rest _ hfuel true

theorem gathers_readMember {depth : Nat} {members : List (String × Json)}
    (hmember : ∀ m ∈ members, ∀ rest, Ends continuesNumeral rest →
      readValue depth (m.2.chars ++ rest) = .ok (m.2.asRead, rest)) :
    ∀ before, Gathers (readMember depth) before members (membersAsRead before members) := by
  induction members with
  | nil => exact fun before => .nil before
  | cons m members ih =>
      obtain ⟨key, value⟩ := m
      intro before
      have hrest := ih (fun m hm => hmember m (List.mem_cons_of_mem _ hm))
        (insertEntry key value.asRead before)
      refine .cons (fun rest hends => ?_) hrest
      have hvalue := hmember (key, value) List.mem_cons_self rest hends
      show (readValue depth (value.chars ++ rest) >>= fun found =>
        .ok (insertEntry key found.1 before, found.2)) = _
      rw [hvalue]
      rfl

/-! ### Whole values -/

theorem readValue_array (depth : Nat) (cs : List Char) :
    readValue (depth + 1) ('[' :: cs) = do
      let (items, rest) ← readItems (readItem depth) [] cs
      return (.array items, rest) := rfl

theorem readValue_object (depth : Nat) (cs : List Char) :
    readValue (depth + 1) ('\x7b' :: cs) = do
      let (members, rest) ← readMembers (readMember depth) [] cs
      return (.object members, rest) := rfl

theorem readValue_string (depth : Nat) (s : String) (rest : List Char) :
    readValue depth (quotedChars s.toList ++ rest) = .ok (.string s, rest) := by
  have hquoted : quotedChars s.toList ++ rest = '"' :: (escape s.toList ++ '"' :: rest) := by
    simp [quotedChars]
  have hunfold : readValue depth ('"' :: (escape s.toList ++ '"' :: rest))
      = (readString (escape s.toList ++ '"' :: rest) >>= fun found =>
          .ok (.string found.1, found.2)) := by
    cases depth <;> rfl
  rw [hquoted, hunfold, readString_escape]
  rfl

/-- **A value is read back, and the reader stops behind it.** -/
theorem Readable.readValue_chars {depth : Nat} {j : Json} (h : j.Readable depth) :
    ∀ rest, Ends continuesNumeral rest →
      readValue depth (j.chars ++ rest) = .ok (j.asRead, rest) := by
  induction h with
  | null depth =>
      intro rest _
      cases depth <;> rfl
  | bool depth b =>
      intro rest _
      cases b <;> cases depth <;> rfl
  | integer depth i hi =>
      intro rest hrest
      have htext : (Json.number (.integer i hi)).chars = signedDigits i := String.toList_ofList
      rw [htext]
      exact readValue_integer hi depth hrest
  | string depth s =>
      intro rest _
      exact readValue_string depth s rest
  | @array depth items _ ih =>
      intro rest _
      have htext : (Json.array items).chars ++ rest
          = '[' :: (joined [','] (itemChars items) ++ ']' :: rest) := by simp [chars]
      rw [htext, readValue_array, readItems_chars ih]
      rfl
  | @object depth members _ ih =>
      intro rest _
      have htext : (Json.object members).chars ++ rest
          = '\x7b' :: (joined [','] (memberChars members) ++ '\x7d' :: rest) := by simp [chars]
      rw [htext, readValue_object, (gathers_readMember ih []).readMembers]
      rfl

/-! ### The order of members -/

theorem perm_insertEntry {key : String} {value : Json} {entries : List (String × Json)}
    (h : key ∉ entries.map Prod.fst) :
    (insertEntry key value entries).Perm ((key, value) :: entries) := by
  induction entries with
  | nil => exact .refl _
  | cons entry entries ih =>
      obtain ⟨k, v⟩ := entry
      rw [List.map_cons, List.mem_cons, not_or] at h
      rw [insertEntry]
      split
      · exact .refl _
      · rw [if_neg h.1]
        exact ((ih h.2).cons (k, v)).trans (.swap _ _ _)

/-- If no key stands twice and the values are read back as they are, all members are kept. -/
theorem perm_membersAsRead {members : List (String × Json)}
    (hvalues : ∀ m ∈ members, m.2.asRead = m.2) :
    ∀ before, ((before ++ members).map Prod.fst).Nodup →
      (membersAsRead before members).Perm (before ++ members) := by
  induction members with
  | nil =>
      intro before _
      rw [List.append_nil]
      exact .refl _
  | cons m members ih =>
      obtain ⟨key, value⟩ := m
      intro before hnodup
      have hvalue : value.asRead = value := hvalues (key, value) List.mem_cons_self
      have hkey : key ∉ before.map Prod.fst := by
        rw [List.map_append, List.nodup_append] at hnodup
        intro hmem
        exact hnodup.2.2 key hmem key (by simp) rfl
      have hall : (insertEntry key value before ++ members).Perm
          (before ++ (key, value) :: members) :=
        ((perm_insertEntry hkey).append_right members).trans List.perm_middle.symm
      rw [membersAsRead, hvalue]
      exact (ih (fun m hm => hvalues m (List.mem_cons_of_mem _ hm)) _
        ((hall.map Prod.fst).nodup_iff.mpr hnodup)).trans hall

end NetDraft.Json
