/-
A stream of requests is answered line by line.

The stream is cut at its line breaks, and each segment that is not blank is handled in the state
that the segments in front of it have left; `replies` says so by recursion on the segments.  Since
no answer holds a line break, the output cut at its line breaks is the list of the answers, and the
line of an answer is counted like the segment that asked for it.  A stream that comes in chunks is
answered as if it came at once, because only whole lines of it are handled.
-/
import NetDraft.Program
import NetDraft.Proofs.Json.OneLine
import NetDraft.Proofs.Session.Log
import NetDraft.Proofs.Text.Cutting

namespace NetDraft

open Text (bytes pieces)

/-! ### Answers -/

/-- No answer holds a line break, whatever its request held. -/
theorem Answer.lineBreak_notMem (a : Answer) : Service.lineBreak ∉ bytes a.text :=
  Json.lineBreak_notMem_bytes a.toJson.sortKeys

namespace Service

variable (s : Service) (t : Topology)

/-- The bytes of an answer on a line of its own. -/
def answerLine (a : Answer) : List UInt8 := bytes a.text ++ [lineBreak]

theorem bytes_lines (answers : List Answer) :
    bytes (lines (answers.map Answer.text)) = answers.flatMap answerLine := by
  have hbreak : "\n".toList.flatMap String.utf8EncodeChar = [lineBreak] := by rfl
  rw [Text.bytes_eq_flatMap, lines, String.toList_join]
  induction answers with
  | nil => rfl
  | cons a answers ih =>
      simp only [List.map_cons, List.flatMap_cons, List.flatMap_append, String.toList_append, ih,
        answerLine, Text.bytes_eq_flatMap, hbreak]

/-! ### Segments -/

/-- What is written for the segments of a stream: nothing for one that is blank, and for any other
the answer to it in the state that those in front of it have left, with a line break behind. -/
def replies : Topology → List (List UInt8) → List UInt8
  | _, [] => []
  | t, segment :: rest =>
    if trim segment = [] then replies t rest
    else
      let (t, a) := s.handle t ⟨(trim segment).toArray⟩
      bytes a.text ++ lineBreak :: replies t rest

/-- The lines that the segments of a stream ask to be handled. -/
def asked (segments : List (List UInt8)) : List ByteArray :=
  ((segments.map trim).filter fun line => !line.isEmpty).map fun line => ⟨line.toArray⟩

theorem asked_cons_of_blank {segment : List UInt8} (h : trim segment = [])
    (rest : List (List UInt8)) : asked (segment :: rest) = asked rest := by
  simp [asked, h]

theorem asked_cons {segment : List UInt8} (h : trim segment ≠ []) (rest : List (List UInt8)) :
    asked (segment :: rest) = ⟨(trim segment).toArray⟩ :: asked rest := by
  simp [asked, h]

theorem asked_append (a b : List (List UInt8)) : asked (a ++ b) = asked a ++ asked b := by
  simp [asked]

/-- **The replies are the answers to the lines that are asked, one behind the other.** -/
theorem replies_eq (segments : List (List UInt8)) : ∀ t,
    s.replies t segments = (s.handleAll t (asked segments)).2.flatMap answerLine := by
  induction segments with
  | nil => exact fun _ => rfl
  | cons segment rest ih =>
      intro t
      rw [replies]
      by_cases hblank : trim segment = []
      · rw [if_pos hblank, ih t, asked_cons_of_blank hblank]
      · rw [if_neg hblank, asked_cons hblank, handleAll]
        simp only [List.flatMap_cons, answerLine, List.append_assoc, List.singleton_append]
        rw [ih]

theorem serve_eq (stream : List UInt8) : s.serve t stream
    = ((s.handleAll t (asked (pieces lineBreak stream))).1,
        lines ((s.handleAll t (asked (pieces lineBreak stream))).2.map Answer.text)) := rfl

theorem bytes_serve (stream : List UInt8) :
    bytes (s.serve t stream).2 = s.replies t (pieces lineBreak stream) := by
  rw [serve_eq, bytes_lines, replies_eq]

/-- The output cut at its line breaks is the list of the answers, with nothing behind the last
line break. -/
theorem pieces_serve (stream : List UInt8) : pieces lineBreak (bytes (s.serve t stream).2)
    = (s.handleAll t (asked (pieces lineBreak stream))).2.map (fun a => bytes a.text) ++ [[]] := by
  rw [serve_eq, bytes_lines]
  generalize (s.handleAll t (asked (pieces lineBreak stream))).2 = answers
  have hlines : answers.flatMap answerLine
      = (answers.map fun a => bytes a.text).flatMap (· ++ [lineBreak]) ++ [] := by
    rw [List.flatMap_map, List.append_nil]
    rfl
  rw [hlines]
  refine Text.pieces_flatMap fun piece hpiece => ?_
  rcases List.mem_append.mp hpiece with hanswer | hlast
  · obtain ⟨a, -, rfl⟩ := List.mem_map.mp hanswer
    exact a.lineBreak_notMem
  · rw [List.mem_singleton.mp hlast]
    exact List.not_mem_nil

/-- The answer to a line is that in the state which the lines in front of it have left. -/
theorem handleAll_getElem? (lines : List ByteArray) : ∀ t k line, lines[k]? = some line →
    (s.handleAll t lines).2[k]?
      = some (s.handle (s.handleAll t (lines.take k)).1 line).2 := by
  induction lines with
  | nil => intro t k line h; cases h
  | cons first lines ih =>
      intro t k line h
      cases k with
      | zero =>
          rw [List.getElem?_cons_zero, Option.some.injEq] at h
          subst h
          rfl
      | succ k =>
          rw [List.getElem?_cons_succ] at h
          exact ih (s.handle t first).1 k line h

/-! ### Streams that come in chunks -/

/-- Whole lines may be handled in advance of what follows them. -/
theorem serve_append {segments : List (List UInt8)} (h : ∀ x ∈ segments, lineBreak ∉ x)
    {whole : List UInt8} (hwhole : whole = segments.flatMap (· ++ [lineBreak]))
    (rest : List UInt8) : s.serve t (whole ++ rest)
      = ((s.serve (s.serve t whole).1 rest).1,
          (s.serve t whole).2 ++ (s.serve (s.serve t whole).1 rest).2) := by
  obtain ⟨others, tail, hpieces, hrest, hnone⟩ := Text.exists_pieces lineBreak rest
  have hall : pieces lineBreak (whole ++ rest) = segments ++ pieces lineBreak rest := by
    rw [hpieces, hrest, hwhole, ← List.append_assoc, ← List.flatMap_append, ← List.append_assoc]
    refine Text.pieces_flatMap fun x hx => ?_
    rw [List.append_assoc] at hx
    exact (List.mem_append.mp hx).elim (h x) (hnone x)
  have hfront : pieces lineBreak whole = segments ++ [[]] := by
    rw [hwhole, ← List.append_nil (segments.flatMap _)]
    refine Text.pieces_flatMap fun x hx => (List.mem_append.mp hx).elim (h x) fun hlast => ?_
    rw [List.mem_singleton.mp hlast]
    exact List.not_mem_nil
  have hasked : asked (segments ++ [[]]) = asked segments := by
    rw [asked_append, asked_cons_of_blank rfl]
    exact List.append_nil _
  have hlines : ∀ a b : List String, lines (a ++ b) = lines a ++ lines b := fun a b =>
    String.toList_inj.mp (by simp [lines, String.toList_join])
  simp only [serve_eq, hall, hfront, hasked, asked_append, handleAll_append, List.map_append,
    hlines]

/-- What is cut off a stream are whole lines, and none is left. -/
theorem exists_cutLines (stream : List UInt8) : ∃ segments : List (List UInt8),
    (∀ x ∈ segments, lineBreak ∉ x) ∧
      (cutLines stream).1 = segments.flatMap (· ++ [lineBreak]) ∧
      stream = (cutLines stream).1 ++ (cutLines stream).2 := by
  obtain ⟨segments, tail, -, hstream, hnone⟩ := Text.exists_pieces lineBreak stream
  have htail : ∀ b ∈ tail.reverse, decide (b ≠ lineBreak) = true := by
    intro b hb
    rw [decide_eq_true_eq]
    rintro rfl
    exact hnone tail (by simp) (List.mem_reverse.mp hb)
  have hends : Text.Ends (fun b => decide (b ≠ lineBreak))
      (segments.flatMap (· ++ [lineBreak])).reverse := by
    intro b hb
    rcases List.eq_nil_or_concat segments with rfl | ⟨front, last, rfl⟩
    · cases hb
    · have hlast : lineBreak = b := by simpa using hb
      simp [← hlast]
  have hrest : (cutLines stream).2 = tail := by
    show (stream.reverse.takeWhile (· ≠ lineBreak)).reverse = tail
    rw [hstream, List.reverse_append, Text.takeWhile_run htail hends, List.reverse_reverse]
  have hwhole : (cutLines stream).1 = segments.flatMap (· ++ [lineBreak]) := by
    show stream.take (stream.length - (cutLines stream).2.length) = _
    rw [hrest, hstream, List.length_append, Nat.add_sub_cancel, List.take_left']
    rfl
  refine ⟨segments, fun x hx => hnone x (by simp [hx]), hwhole, ?_⟩
  rw [hwhole, hrest]
  exact hstream

/-- **A stream that comes in chunks is answered as if it came at once**: the whole lines of what
was received are handled, and what is left of it stands in front of what comes later. -/
theorem serve_cutLines (received later : List UInt8) : s.serve t (received ++ later)
    = ((s.serve (s.serve t (cutLines received).1).1 ((cutLines received).2 ++ later)).1,
        (s.serve t (cutLines received).1).2
          ++ (s.serve (s.serve t (cutLines received).1).1 ((cutLines received).2 ++ later)).2) := by
  obtain ⟨segments, hnone, hwhole, hreceived⟩ := exists_cutLines received
  have hsplit : received ++ later = (cutLines received).1 ++ ((cutLines received).2 ++ later) := by
    rw [← List.append_assoc, ← hreceived]
  rw [hsplit, s.serve_append t hnone hwhole]

/-- A line break at the end of a stream changes nothing. -/
theorem serve_concat_lineBreak (stream : List UInt8) :
    s.serve t (stream ++ [lineBreak]) = s.serve t stream := by
  obtain ⟨segments, tail, hpieces, hstream, hnone⟩ := Text.exists_pieces lineBreak stream
  have hended : pieces lineBreak (stream ++ [lineBreak]) = (segments ++ [tail]) ++ [[]] := by
    have hall : stream ++ [lineBreak]
        = (segments ++ [tail]).flatMap (· ++ [lineBreak]) ++ [] := by
      simp [hstream]
    rw [hall]
    refine Text.pieces_flatMap fun x hx => (List.mem_append.mp hx).elim (hnone x) fun hlast => ?_
    rw [List.mem_singleton.mp hlast]
    exact List.not_mem_nil
  have hasked : asked ((segments ++ [tail]) ++ [[]]) = asked (segments ++ [tail]) := by
    rw [asked_append _ [[]], asked_cons_of_blank rfl]
    exact List.append_nil _
  rw [serve_eq, serve_eq, hended, hpieces, hasked]

end Service

/-! ### The command -/

/--
**What is written for a stream of requests.**

The stream is cut at its line breaks, and from each segment the blanks around it are taken away, and
nothing but blanks.  What is written are the answers to the segments of which something is left,
each in the state that the segments in front of it have left and with a line break behind.  They
are answered by the catalog, the rules and the settings with which the program was started.  An
answer is written as a JSON text without blanks, its keys in ascending order.  No answer holds a
line break itself, so the lines that are written are as many as those segments, and each is the
answer to the one of its number.  A line break that is missing at the end makes no difference.
-/
theorem Setup.perform_serve (setup : Setup) (stream : List UInt8) :
    ∃ (segments : List (List UInt8)) (tail : List UInt8) (output : String),
      stream = segments.flatMap (· ++ [Service.lineBreak]) ++ tail ∧
      (∀ x ∈ segments ++ [tail], Service.lineBreak ∉ x) ∧
      (∀ x ∈ segments ++ [tail], ∃ before after, x = before ++ Service.trim x ++ after ∧
        (∀ b ∈ before ++ after, Service.isBlank b = true) ∧
        (∀ b, (Service.trim x).head? = some b → Service.isBlank b = false) ∧
        ∀ b, (Service.trim x).getLast? = some b → Service.isBlank b = false) ∧
      (∀ b, Service.isBlank b = true ↔
        b = 0x20 ∨ b = 0x09 ∨ b = 0x0a ∨ b = 0x0c ∨ b = 0x0d) ∧
      (∀ (m : Type → Type) [Monad m] [Files m],
        (setup.perform stream .serve : ExceptT Failure m Outcome) = pure (.done output) ∧
        (setup.perform (stream ++ [Service.lineBreak]) .serve : ExceptT Failure m Outcome)
          = pure (.done output)) ∧
      setup.service
        = ⟨setup.catalog.inventory, setup.project.rules, setup.project.scripts.validate⟩ ∧
      bytes output = setup.service.replies .empty (segments ++ [tail]) ∧
      (Answer.done.text = "\x7b\"ok\":true\x7d" ∧
        (∀ value, (Answer.result value).text
          = "\x7b\"ok\":true,\"result\":" ++ value.sortKeys.compact ++ "\x7d") ∧
        ∀ fault, (Answer.refused fault).text
          = "\x7b\"error\":" ++ Text.quoted fault.message ++ ",\"ok\":false\x7d") ∧
      (∀ t line, Service.lineBreak ∉ bytes (setup.service.handle t line).2.text) ∧
      (pieces Service.lineBreak (bytes output)).length
        = (Service.asked (segments ++ [tail])).length + 1 ∧
      ∀ k line, (Service.asked (segments ++ [tail]))[k]? = some line →
        (pieces Service.lineBreak (bytes output))[k]? = some (bytes (setup.service.handle
          (setup.service.handleAll .empty ((Service.asked (segments ++ [tail])).take k)).1
            line).2.text) := by
  obtain ⟨segments, tail, hpieces, hstream, hnone⟩ := Text.exists_pieces Service.lineBreak stream
  have hanswers := setup.service.pieces_serve .empty stream
  rw [hpieces] at hanswers
  refine ⟨segments, tail, (setup.service.serve .empty stream).2, hstream, hnone, fun x _ => ?_,
    fun _ => Service.isBlank_iff, ?_, rfl, ?_,
    ⟨Answer.text_done, Answer.text_result, Answer.text_refused⟩,
    fun t line => Answer.lineBreak_notMem _, ?_, ?_⟩
  · obtain ⟨before, after, hx, hblank⟩ := Service.exists_trim x
    exact ⟨before, after, hx, hblank, fun _ => Service.isBlank_of_head?_trim x,
      fun _ => Service.isBlank_of_getLast?_trim x⟩
  · intro m _ _
    refine ⟨rfl, ?_⟩
    show pure (Outcome.done (setup.service.serve .empty (stream ++ [Service.lineBreak])).2) = _
    rw [Service.serve_concat_lineBreak]
  · rw [Service.bytes_serve, hpieces]
  · rw [hanswers, List.length_append, List.length_map, Service.length_handleAll]
    rfl
  · intro k line hk
    have hanswer := setup.service.handleAll_getElem? _ .empty k line hk
    have hlt : k < (Service.asked (segments ++ [tail])).length :=
      (List.getElem?_eq_some_iff.mp hk).1
    rw [hanswers, List.getElem?_append_left (by simpa [Service.length_handleAll] using hlt),
      List.getElem?_map, hanswer]
    rfl

end NetDraft
