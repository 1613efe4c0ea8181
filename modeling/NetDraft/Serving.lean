/-
Serving requests from a stream of bytes.

Every line of the stream that is not blank is a request, and is answered by one line.
-/
import NetDraft.Session

namespace NetDraft

namespace Service

/-- The byte that ends a line. -/
def lineBreak : UInt8 := 0x0a

/-- Whether a byte is a blank: a space, a tab, a line feed, a form feed or a carriage return. -/
def isBlank (b : UInt8) : Bool := b == 0x20 || b == 0x09 || b == 0x0a || b == 0x0c || b == 0x0d

/-- Bytes without the blanks at both ends. -/
def trim (bytes : List UInt8) : List UInt8 :=
  ((bytes.dropWhile isBlank).reverse.dropWhile isBlank).reverse

theorem isBlank_iff {b : UInt8} :
    isBlank b = true ↔ b = 0x20 ∨ b = 0x09 ∨ b = 0x0a ∨ b = 0x0c ∨ b = 0x0d := by
  simp [isBlank, or_assoc]

section

variable (bytes : List UInt8)

theorem isBlank_of_mem_takeWhile {b : UInt8} (h : b ∈ bytes.takeWhile isBlank) :
    isBlank b = true :=
  List.all_eq_true.mp List.all_takeWhile b h

/-- Trimming takes nothing but blanks away. -/
theorem exists_trim : ∃ before after, bytes = before ++ trim bytes ++ after ∧
    ∀ b ∈ before ++ after, isBlank b = true := by
  have hfront := List.takeWhile_append_dropWhile (p := isBlank) (l := bytes)
  have hback := congrArg List.reverse
    (List.takeWhile_append_dropWhile (p := isBlank) (l := (bytes.dropWhile isBlank).reverse))
  rw [List.reverse_append, List.reverse_reverse] at hback
  refine ⟨bytes.takeWhile isBlank,
    ((bytes.dropWhile isBlank).reverse.takeWhile isBlank).reverse, ?_, fun b hb => ?_⟩
  · rw [trim, List.append_assoc, hback, hfront]
  · rcases List.mem_append.mp hb with hb | hb
    · exact isBlank_of_mem_takeWhile _ hb
    · exact isBlank_of_mem_takeWhile _ (List.mem_reverse.mp hb)

/-- Trimming leaves no blank in front. -/
theorem isBlank_of_head?_trim {b : UInt8} (h : (trim bytes).head? = some b) :
    isBlank b = false := by
  obtain ⟨after, hafter⟩ := List.dropWhile_suffix (l := (bytes.dropWhile isBlank).reverse) isBlank
  rw [trim, List.head?_reverse] at h
  have hfront : (bytes.dropWhile isBlank).head? = some b := by
    rw [← List.getLast?_reverse, ← hafter, List.getLast?_append, h, Option.some_or]
  have hfirst := List.head?_dropWhile_not isBlank bytes
  rw [hfront] at hfirst
  simpa using hfirst

/-- Trimming leaves no blank behind. -/
theorem isBlank_of_getLast?_trim {b : UInt8} (h : (trim bytes).getLast? = some b) :
    isBlank b = false := by
  rw [trim, List.getLast?_reverse] at h
  have hlast := List.head?_dropWhile_not isBlank (bytes.dropWhile isBlank).reverse
  rw [h] at hlast
  simpa using hlast

end

/-- The requests in a stream: its lines without blanks at their ends, except for those that are
nothing else. -/
def requests (stream : List UInt8) : List (List UInt8) :=
  ((Text.pieces lineBreak stream).map trim).filter fun line => !line.isEmpty

/-- Texts with a line break behind each. -/
def lines (texts : List String) : String := String.join (texts.map (· ++ "\n"))

/-- Answers the requests in a stream. -/
def serve (s : Service) (t : Topology) (stream : List UInt8) : Topology × String :=
  let (t, answers) := s.handleAll t ((requests stream).map fun line => ⟨line.toArray⟩)
  (t, lines (answers.map Answer.text))

/-- The bytes of a stream up to its last line break, and those behind it. -/
def cutLines (stream : List UInt8) : List UInt8 × List UInt8 :=
  let rest := (stream.reverse.takeWhile (· ≠ lineBreak)).reverse
  (stream.take (stream.length - rest.length), rest)

end Service

end NetDraft
