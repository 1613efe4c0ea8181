/-
A reader of scripts.

The reader knows only the form of a script: lines between line breaks, each of them the comment of
an empty script or one call whose arguments are JSON strings, JSON numbers or one of three words.
It reads back every statement that has arguments, whatever its texts hold: a quoted string is left
behind its own closing quote, and no other argument holds a character that could end it.
-/
import NetDraft.Proofs.Number.Reading
import NetDraft.Proofs.Text.Quoted
import NetDraft.Script

namespace NetDraft

/-! ### The reader -/

namespace Literal

/-- Whether a character can stand in an argument without quotes. -/
def isTokenChar (c : Char) : Bool := c != ',' && c != ')'

/-- Reads an argument without quotes. -/
def ofToken? (token : List Char) : Option Literal :=
  if token = "true".toList then some (.flag true)
  else if token = "false".toList then some (.flag false)
  else if token = "undefined".toList then some .undefined
  else (Number.ofChars? token).map .number

/-- Reads the argument with which a text begins, and returns the rest. -/
def read? : List Char → Option (Literal × List Char)
  | '"' :: cs => (Json.readString cs).toOption.map fun (s, rest) => (.text s, rest)
  | cs => (ofToken? (cs.takeWhile isTokenChar)).map fun l => (l, cs.dropWhile isTokenChar)

end Literal

namespace Statement

/-- Reads the arguments of a call, of which there are at most `fuel`, and its end. -/
def readArgs? : (fuel : Nat) → List Char → Option (List Literal)
  | 0, _ => none
  | fuel + 1, cs =>
    (Literal.read? cs).bind fun (l, rest) =>
      match rest with
      | [')', ';'] => some [l]
      | ',' :: ' ' :: rest => (readArgs? fuel rest).map (l :: ·)
      | _ => none

/-- Reads a call that takes up the whole text. -/
def read? (cs : List Char) : Option Statement :=
  match cs.dropWhile (· != '(') with
  | '(' :: rest =>
    (readArgs? rest.length rest).map fun args => ⟨String.ofList (cs.takeWhile (· != '(')), args⟩
  | _ => none

end Statement

namespace Script

/-- Reads a line: the comment of an empty script, or one call. -/
def readLine? (line : List Char) : Option (List Statement) :=
  if line = emptyLine.toList then some []
  else (Statement.read? line).map fun s => [s]

/-- Reads a script. -/
def read? (text : String) : Option (List Statement) :=
  ((Text.pieces '\n' text.toList).mapM readLine?).map List.flatten

end Script

/-! ### Arguments

Slots are written like all other numbers, and are read as such.
-/

namespace Literal

/-- The literal as which it is read. -/
def asRead : Literal → Literal
  | .word n => .number (.ofNat n.toNat)
  | l => l

@[simp]
theorem asRead_text (s : String) : (text s).asRead = text s := rfl

@[simp]
theorem asRead_number (n : Number) : (number n).asRead = number n := rfl

@[simp]
theorem asRead_word (n : UInt32) : (word n).asRead = number (.ofNat n.toNat) := rfl

@[simp]
theorem asRead_ofText? (o : Option String) : (ofText? o).asRead = o.elim .undefined .text := by
  cases o <;> rfl

@[simp]
theorem asRead_ofFlag? (o : Option Bool) : (ofFlag? o).asRead = o.elim .undefined .flag := by
  cases o <;> rfl

theorem text_ofNat (n : UInt32) : (Number.ofNat n.toNat).text.toList = Text.digits n.toNat := by
  have hn := n.toNat_lt
  have hmin : min n.toNat 0xffffffffffffffff = n.toNat := by omega
  rw [Number.ofNat, Number.text, String.toList_ofList, Text.signedDigits, if_neg (by omega),
    Int.natAbs_natCast, hmin]

theorem chars_word (n : UInt32) : (word n).chars = (Number.ofNat n.toNat).text.toList :=
  (text_ofNat n).symm

theorem not_mem_number_text {x : Number} {c : Char} (hdigit : c.isDigit = false)
    (hother : c ∉ ['.', 'e', '-', '+']) : c ∉ x.text.toList := by
  intro hc
  rcases Number.mem_text hc with h | h
  · rw [hdigit] at h
    exact Bool.false_ne_true h
  · exact hother h

theorem ofToken?_number (x : Number) : ofToken? x.text.toList = some (.number x) := by
  have hword : ∀ word : List Char, 'u' ∈ word ∨ 'l' ∈ word → x.text.toList ≠ word := by
    rintro word hmem rfl
    rcases hmem with hmem | hmem
    · exact not_mem_number_text (by decide) (by decide) hmem
    · exact not_mem_number_text (by decide) (by decide) hmem
  rw [ofToken?, if_neg (hword _ (by decide)), if_neg (hword _ (by decide)),
    if_neg (hword _ (by decide)), Number.ofChars?_text, Option.map_some]

theorem read?_quote (cs : List Char) : read? ('"' :: cs)
    = (Json.readString cs).toOption.map fun (s, rest) => (.text s, rest) := rfl

/-- An argument without quotes is read as far as its token goes. -/
theorem read?_token (token : List Char) {rest : List Char} {l : Literal}
    (hread : ofToken? token = some l)
    (htoken : ∀ c ∈ token, isTokenChar c = true ∧ c ≠ '"') (hrest : Text.Ends isTokenChar rest)
    (hquote : rest.head? ≠ some '"') : read? (token ++ rest) = some (l, rest) := by
  have htake := Text.takeWhile_run (fun c hc => (htoken c hc).1) hrest
  have hdrop := Text.dropWhile_run (fun c hc => (htoken c hc).1) hrest
  have hhead : (token ++ rest).head? ≠ some '"' := by
    cases token with
    | nil => exact hquote
    | cons c token => simpa using (htoken c (by simp)).2
  unfold read?
  split
  next heq => simp [heq] at hhead
  next => rw [htake, hdrop, hread, Option.map_some]

/-- **An argument is read back and the reader stops behind it**, whatever it holds. -/
theorem read?_chars (l : Literal) {rest : List Char} (hrest : Text.Ends isTokenChar rest)
    (hquote : rest.head? ≠ some '"') : read? (l.chars ++ rest) = some (l.asRead, rest) := by
  have hnumber : ∀ x : Number, read? (x.text.toList ++ rest) = some (.number x, rest) := by
    refine fun x => read?_token _ (ofToken?_number x) (fun c hc => ?_) hrest hquote
    have hother : c ≠ ',' ∧ c ≠ ')' ∧ c ≠ '"' := by
      refine ⟨?_, ?_, ?_⟩ <;>
      · rintro rfl
        exact not_mem_number_text (by decide) (by decide) hc
    simp [isTokenChar, hother]
  cases l with
  | text s =>
      have hquoted : Text.quotedChars s.toList ++ rest
          = '"' :: (Text.escape s.toList ++ '"' :: rest) := by simp [Text.quotedChars]
      show read? (Text.quotedChars s.toList ++ rest) = _
      rw [hquoted, read?_quote, Json.readString_escape]
      rfl
  | number x => exact hnumber x
  | word n =>
      rw [chars_word]
      exact hnumber (.ofNat n.toNat)
  | flag b =>
      cases b with
      | true => exact read?_token "true".toList (by decide) (by simp [isTokenChar]) hrest hquote
      | false => exact read?_token "false".toList (by decide) (by simp [isTokenChar]) hrest hquote
  | undefined =>
      exact read?_token "undefined".toList (by decide) (by simp [isTokenChar]) hrest hquote

/-- An argument holds no control character, and so no line break. -/
theorem le_toNat_of_mem_chars {l : Literal} {c : Char} (h : c ∈ l.chars) : 0x20 ≤ c.toNat := by
  have hnumber : ∀ x : Number, c ∈ x.text.toList → 0x20 ≤ c.toNat := by
    intro x hc
    rcases Number.mem_text hc with hdigit | hother
    · simp only [Char.isDigit, Bool.and_eq_true, decide_eq_true_eq] at hdigit
      have hle : '0'.toNat ≤ c.toNat := hdigit.1
      exact Nat.le_trans (by decide) hle
    · have hall : ∀ d ∈ ['.', 'e', '-', '+'], 0x20 ≤ d.toNat := by simp
      exact hall c hother
  have hword : ∀ word ∈ ["true", "false", "undefined"], ∀ d ∈ word.toList, 0x20 ≤ d.toNat := by
    simp
  cases l with
  | text s => exact Json.le_toNat_of_mem_quotedChars h
  | number x => exact hnumber x h
  | word n =>
      rw [chars_word] at h
      exact hnumber (.ofNat n.toNat) h
  | flag b => cases b <;> exact hword _ (by simp) c h
  | undefined => exact hword _ (by simp) c h

end Literal

/-! ### Statements -/

namespace Statement

/-- The statement as which it is read. -/
def asRead (s : Statement) : Statement := ⟨s.call, s.args.map Literal.asRead⟩

/-- The fuel has to last for every argument. -/
theorem readArgs?_joined {args : List Literal} (hne : args ≠ []) :
    ∀ fuel, args.length ≤ fuel →
      readArgs? fuel (Text.joined [',', ' '] (args.map Literal.chars) ++ [')', ';'])
        = some (args.map Literal.asRead) := by
  induction args with
  | nil => exact absurd rfl hne
  | cons l args ih =>
      intro fuel hfuel
      obtain ⟨fuel, rfl⟩ := Nat.exists_eq_succ_of_ne_zero (Nat.ne_zero_of_lt hfuel)
      cases args with
      | nil =>
          have hread : Literal.read? (l.chars ++ [')', ';']) = some (l.asRead, [')', ';']) :=
            l.read?_chars (by simp [Text.Ends, Literal.isTokenChar]) (by simp)
          rw [List.map_singleton, Text.joined, readArgs?, hread]
          rfl
      | cons second args =>
          have hrest := ih (by simp) fuel (by simpa using hfuel)
          have hread : ∀ rest, Literal.read? (l.chars ++ ',' :: ' ' :: rest)
              = some (l.asRead, ',' :: ' ' :: rest) := fun rest =>
            l.read?_chars (by simp [Text.Ends, Literal.isTokenChar]) (by simp)
          have hjoined : Text.joined [',', ' '] ((l :: second :: args).map Literal.chars)
              ++ [')', ';'] = l.chars ++ ',' :: ' ' ::
                (Text.joined [',', ' '] ((second :: args).map Literal.chars) ++ [')', ';']) := by
            simp [Text.joined]
          rw [hjoined, readArgs?, hread, Option.bind_some]
          show (readArgs? fuel _).map (l.asRead :: ·) = _
          rw [hrest]
          rfl

theorem length_le_joined (args : List Literal) :
    args.length ≤ (Text.joined [',', ' '] (args.map Literal.chars) ++ [')', ';']).length := by
  induction args with
  | nil => simp
  | cons l args ih =>
      cases args with
      | nil => simp
      | cons second args =>
          simp only [List.map_cons, Text.joined, List.length_append, List.length_cons,
            List.length_nil] at ih ⊢
          omega

/-- **A statement with arguments is read back.** -/
theorem read?_chars {s : Statement} (hcall : '(' ∉ s.call.toList) (hargs : s.args ≠ []) :
    read? s.chars = some s.asRead := by
  have hname : ∀ c ∈ s.call.toList, (c != '(') = true := by
    intro c hc
    simp only [bne_iff_ne, ne_eq]
    rintro rfl
    exact hcall hc
  have hends : ∀ rest, Text.Ends (· != '(') ('(' :: rest) := by simp [Text.Ends]
  unfold read? chars
  rw [Text.takeWhile_run hname (hends _), Text.dropWhile_run hname (hends _)]
  simp only
  rw [readArgs?_joined hargs _ (length_le_joined s.args), Option.map_some, String.ofList_toList,
    asRead]

end Statement

end NetDraft
