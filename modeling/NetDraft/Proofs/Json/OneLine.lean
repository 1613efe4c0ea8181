/-
A compact JSON text is one line.

Between quotes every control character is escaped, and nothing else that a JSON text is made of is
one.  In UTF-8 a character that is no control character is written without the bytes of control
characters, since all bytes of a longer sequence are large: so the bytes of the text hold no line
break either, whatever strings the value has.
-/
import NetDraft.Json
import NetDraft.Proofs.Number.Reading
import NetDraft.Proofs.Text.Quoted

namespace NetDraft

/-! ### Characters -/

namespace Json

open Text (mem_joined)

theorem le_toNat_of_mem_text {n : Number} {c : Char} (h : c ∈ n.text.toList) : 0x20 ≤ c.toNat := by
  rcases Number.mem_text h with hdigit | hother
  · have hzero : '0'.toNat ≤ c.toNat := by
      simp only [Char.isDigit, Bool.and_eq_true, decide_eq_true_eq] at hdigit
      exact hdigit.1
    exact Nat.le_trans (by decide) hzero
  · have hall : ∀ d ∈ ['.', 'e', '-', '+'], 0x20 ≤ d.toNat := by simp
    exact hall c hother

mutual

theorem le_toNat_of_mem_chars : ∀ (j : Json) {c : Char}, c ∈ j.chars → 0x20 ≤ c.toNat
  | .null, c, h => by
      have hall : ∀ d ∈ "null".toList, 0x20 ≤ d.toNat := by simp
      exact hall c h
  | .bool true, c, h => by
      have hall : ∀ d ∈ "true".toList, 0x20 ≤ d.toNat := by simp
      exact hall c h
  | .bool false, c, h => by
      have hall : ∀ d ∈ "false".toList, 0x20 ≤ d.toNat := by simp
      exact hall c h
  | .number n, c, h => le_toNat_of_mem_text h
  | .string s, c, h => le_toNat_of_mem_quotedChars h
  | .array items, c, h => by
      simp only [chars, List.mem_cons, List.mem_append, List.not_mem_nil, or_false] at h
      rcases h with rfl | hjoined | rfl
      · decide
      · rcases mem_joined hjoined with hcomma | ⟨text, htext, hc⟩
        · rw [List.mem_singleton.mp hcomma]
          decide
        · exact le_toNat_of_mem_itemChars items htext hc
      · decide
  | .object members, c, h => by
      simp only [chars, List.mem_cons, List.mem_append, List.not_mem_nil, or_false] at h
      rcases h with rfl | hjoined | rfl
      · decide
      · rcases mem_joined hjoined with hcomma | ⟨text, htext, hc⟩
        · rw [List.mem_singleton.mp hcomma]
          decide
        · exact le_toNat_of_mem_memberChars members htext hc
      · decide

theorem le_toNat_of_mem_itemChars : ∀ (items : List Json) {text : List Char} {c : Char},
    text ∈ itemChars items → c ∈ text → 0x20 ≤ c.toNat
  | [], _, _, htext, _ => by cases htext
  | item :: rest, _, _, htext, hc => by
      rcases List.mem_cons.mp htext with rfl | hrest
      · exact le_toNat_of_mem_chars item hc
      · exact le_toNat_of_mem_itemChars rest hrest hc

theorem le_toNat_of_mem_memberChars : ∀ (members : List (String × Json)) {text : List Char}
    {c : Char}, text ∈ memberChars members → c ∈ text → 0x20 ≤ c.toNat
  | [], _, _, htext, _ => by cases htext
  | (key, value) :: rest, _, _, htext, hc => by
      rcases List.mem_cons.mp htext with rfl | hrest
      · rcases List.mem_append.mp hc with hkey | hvalue
        · exact le_toNat_of_mem_quotedChars hkey
        · rcases List.mem_cons.mp hvalue with rfl | hvalue
          · decide
          · exact le_toNat_of_mem_chars value hvalue
      · exact le_toNat_of_mem_memberChars rest hrest hc

end

end Json

/-! ### Bytes -/

namespace Text

/-- The bytes of a text in UTF-8. -/
def bytes (s : String) : List UInt8 := s.toUTF8.data.toList

theorem bytes_eq_flatMap (s : String) : bytes s = s.toList.flatMap String.utf8EncodeChar := by
  rw [bytes, String.toUTF8_eq_toByteArray, ← String.utf8Encode_toList, List.utf8Encode,
    List.toList_data_toByteArray]

@[simp] theorem bytes_empty : bytes "" = [] := rfl

@[simp] theorem bytes_append (s t : String) : bytes (s ++ t) = bytes s ++ bytes t := by
  simp [bytes_eq_flatMap]

/-- A character that is no control character is written without the bytes of control characters. -/
theorem le_toNat_of_mem_utf8EncodeChar {c : Char} (hc : 0x20 ≤ c.toNat) {b : UInt8}
    (h : b ∈ String.utf8EncodeChar c) : 0x20 ≤ b.toNat := by
  have hval : 0x20 ≤ c.val.toNat := hc
  have hbyte : ∀ n, 0x20 ≤ n → n < 0x100 → 0x20 ≤ (UInt8.ofNat n).toNat := by
    intro n hlow hhigh
    rw [UInt8.toNat_ofNat', Nat.mod_eq_of_lt hhigh]
    exact hlow
  simp only [String.utf8EncodeChar] at h
  split at h
  next hone =>
    rw [List.mem_singleton.mp h]
    exact hbyte _ hval (by omega)
  next =>
    -- Every byte of a longer sequence is one of the upper half.
    split at h
    · simp only [List.mem_cons, List.not_mem_nil, or_false] at h
      rcases h with rfl | rfl <;> exact hbyte _ (by omega) (by omega)
    split at h
    · simp only [List.mem_cons, List.not_mem_nil, or_false] at h
      rcases h with rfl | rfl | rfl <;> exact hbyte _ (by omega) (by omega)
    · simp only [List.mem_cons, List.not_mem_nil, or_false] at h
      rcases h with rfl | rfl | rfl | rfl <;> exact hbyte _ (by omega) (by omega)

end Text

/-- **The bytes of a compact JSON text are one line.** -/
theorem Json.lineBreak_notMem_bytes (j : Json) : 0x0a ∉ Text.bytes j.compact := by
  intro h
  rw [Text.bytes_eq_flatMap, compact, String.toList_ofList] at h
  obtain ⟨c, hc, hbyte⟩ := List.mem_flatMap.mp h
  have hlarge := Text.le_toNat_of_mem_utf8EncodeChar (j.le_toNat_of_mem_chars hc) hbyte
  exact absurd hlarge (by decide)

end NetDraft
