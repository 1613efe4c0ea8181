/-
What can be read off the words of a diagnostic.

Names and models stand in the words as they are, so what is behind the place of the entity can be
any text at all.  The place itself holds no text of a user: up to the first closing bracket there
is the name of a section with a position, and the section and the position can be told from it.
So diagnostics of two entities differ, and so do those of one entity, which quote the same texts
and have other words in front of them or behind.
-/
import NetDraft.Proofs.Number.Numeral
import NetDraft.Proofs.Text.Cutting
import NetDraft.Proofs.Validation.Doubts

namespace NetDraft

/-! ### Places in words -/

namespace Diagnostic

/-- Up to its first closing bracket, the text is the name of a section and a position in it. -/
structure Tells (text : String) (place : Section × Nat) : Prop where
  front_eq : text.toList.takeWhile (· ≠ ']')
    = (place.1.name ++ "[" ++ Text.decimal place.2).toList
  /-- There is a closing bracket. -/
  closed : ']' ∈ text.toList

theorem bracket_notMem_name (s : Section) : '[' ∉ s.name.toList ∧ ']' ∉ s.name.toList := by
  cases s <;> decide

theorem name_injective {s s' : Section} (h : s.name = s'.name) : s = s' := by
  cases s <;> cases s' <;> first | rfl | exact absurd h (by decide)

theorem toList_front (p : Section × Nat) : (p.1.name ++ "[" ++ Text.decimal p.2).toList
    = p.1.name.toList ++ '[' :: Text.digits p.2 := by
  simp [Text.decimal]

/-- The section and the position can be told from their text. -/
theorem Tells.unique {text : String} {p p' : Section × Nat} (h : Tells text p)
    (h' : Tells text p') : p = p' := by
  have hpieces : ∀ q : Section × Nat, Text.pieces '[' (q.1.name.toList ++ '[' :: Text.digits q.2)
      = [q.1.name.toList, Text.digits q.2] := by
    intro q
    rw [Text.pieces_append_cons (bracket_notMem_name q.1).1,
      Text.pieces_of_not_mem (Numeral.notMem_digits (by decide) q.2)]
  have hnumber : ∀ n : Nat, Nat.ofDigitChars 10 (Text.digits n) 0 = n := fun _ =>
    Nat.ofDigitChars_ten_toDigits
  have heq := hpieces p
  rw [← toList_front, ← h.front_eq, h'.front_eq, toList_front, hpieces p', List.cons.injEq,
    List.cons.injEq] at heq
  obtain ⟨hname, hdigits, -⟩ := heq
  refine Prod.ext (name_injective (String.toList_inj.mp hname)).symm ?_
  rw [← hnumber p.2, ← hdigits, hnumber]

/-- The words of a diagnostic tell the place of its entity, whatever texts they quote. -/
theorem tells_message (d : Diagnostic) : Tells d.message d.subject := by
  obtain ⟨rest, hrest⟩ := d.message_eq_place
  have htext : d.message.toList
      = (d.subject.1.name.toList ++ '[' :: Text.digits d.subject.2) ++ ']' :: rest.toList := by
    rw [hrest, place, String.toList_append, String.toList_append, toList_front]
    simp
  constructor
  · rw [htext, toList_front]
    refine Text.takeWhile_run ?_ ?_
    · intro c hc
      rw [decide_eq_true_eq]
      rintro rfl
      rcases List.mem_append.mp hc with hname | hrest
      · exact (bracket_notMem_name _).2 hname
      · exact Numeral.notMem_digits (by decide) _
          ((List.mem_cons.mp hrest).resolve_left (by decide))
    · intro c hc
      cases hc
      rfl
  · rw [htext]
    simp

/-- Diagnostics about different entities have different words. -/
theorem message_ne_of_subject_ne {d d' : Diagnostic} (h : d.subject ≠ d'.subject) :
    d.message ≠ d'.message := by
  intro heq
  have htells := d'.tells_message
  rw [← heq] at htells
  exact h (d.tells_message.unique htells)

/-! ### Words behind the place -/

/-- The words behind the place, up to a text in which two diagnostics of one entity may differ. -/
def opening : Diagnostic → String
  | duplicateName .. => ": duplicate device name "
  | unknownDeviceModel .. => " "
  | unknownFirstEnd .. => ": unknown device "
  | unknownSecondEnd .. => ": unknown device "
  | unknownCable .. => ": unknown link type "
  | duplicateLink .. => ": duplicates "
  | moduleWithoutDevice .. => ": unknown device "
  | unknownModuleModel _ device _ => " on " ++ quote device ++ ": unknown module model "
  | slotTaken _ _ device _ => " on " ++ quote device ++ ": slot "
  | hostWithoutDevice .. => ": unknown device "
  | dhcpAndStatic .. => " on "
  | routerWithoutDevice .. => ": unknown device "

theorem message_eq_opening (d : Diagnostic) :
    ∃ rest, d.message = place d.subject.1.name d.subject.2 ++ (d.opening ++ rest) := by
  cases d <;> simp only [message, opening, String.append_assoc] <;> exact ⟨_, rfl⟩

/-- Words that differ early differ, whatever is quoted behind. -/
theorem message_ne_of_opening {d d' : Diagnostic} (h : ¬d.opening.toList <+: d'.opening.toList)
    (h' : ¬d'.opening.toList <+: d.opening.toList) : d.message ≠ d'.message := by
  by_cases hsubject : d.subject = d'.subject
  · intro heq
    obtain ⟨rest, hrest⟩ := d.message_eq_opening
    obtain ⟨rest', hrest'⟩ := d'.message_eq_opening
    rw [hrest, hrest', hsubject, String.append_right_inj] at heq
    have hd := List.prefix_append d.opening.toList rest.toList
    have hd' := List.prefix_append d'.opening.toList rest'.toList
    rw [← String.toList_append] at hd hd'
    rw [heq] at hd
    exact (List.prefix_or_prefix_of_prefix hd hd').elim h h'
  · exact message_ne_of_subject_ne hsubject

/-- The two ends of a link are told apart behind the names of their devices. -/
theorem message_ends_ne (i j : Nat) (device device' : String) :
    (unknownFirstEnd i device).message ≠ (unknownSecondEnd j device').message := by
  intro heq
  have hlists := congrArg String.toList heq
  simp only [message, String.toList_append] at hlists
  exact absurd (List.append_inj' hlists (by decide)).2 (by decide)

/-! ### The order of diagnostics -/

/-- Places in the order in which diagnostics are reported. -/
def NoLater (p p' : Section × Nat) : Prop :=
  Section.reported.idxOf p.1 < Section.reported.idxOf p'.1 ∨ p.1 = p'.1 ∧ p.2 ≤ p'.2

/-- A diagnostic may stand somewhere in front of another one, which has other words. -/
def InFront (d d' : Diagnostic) : Prop := d.message ≠ d'.message ∧ NoLater d.subject d'.subject

end Diagnostic

namespace Topology

open Diagnostic (InFront NoLater Tells message_ne_of_opening)

/-! ### Diagnostics of one entity -/

theorem deviceDoubts_differ (before : List Device) (i : Nat) (d : Device) :
    (deviceDoubts before i d).Pairwise fun x y => x.message ≠ y.message := by
  unfold deviceDoubts
  cases before.any fun e => e.name = d.name with
  | false => exact List.pairwise_singleton _ _
  | true =>
      refine List.pairwise_pair.mpr (message_ne_of_opening ?_ ?_) <;> simp [Diagnostic.opening]

theorem linkDoubts_differ (before : List Link) (i : Nat) (l : Link) :
    (linkDoubts before i l).Pairwise fun x y => x.message ≠ y.message := by
  have hall : ∀ earlier, List.Pairwise (fun x y : Diagnostic => x.message ≠ y.message)
      ([.unknownFirstEnd i l.first.device, .unknownSecondEnd i l.second.device,
        .unknownCable i l.cable] ++ [.duplicateLink i earlier l]) := by
    intro earlier
    simp only [List.cons_append, List.nil_append, List.pairwise_cons, List.forall_mem_cons,
      List.not_mem_nil, false_imp_iff, implies_true, and_true, List.Pairwise.nil]
    refine ⟨⟨Diagnostic.message_ends_ne _ _ _ _, ?_, ?_⟩, ⟨?_, ?_⟩, ?_⟩ <;>
    · refine message_ne_of_opening ?_ ?_ <;> simp [Diagnostic.opening]
  unfold linkDoubts
  cases firstAt? Link.joins before l with
  | none => exact (hall 0).sublist (by simp)
  | some earlier => exact hall earlier

theorem moduleDoubts_differ (before : List Module) (i : Nat) (m : Module) :
    (moduleDoubts before i m).Pairwise fun x y => x.message ≠ y.message := by
  have hall : ∀ earlier, List.Pairwise (fun x y : Diagnostic => x.message ≠ y.message)
      ([.moduleWithoutDevice i m.device, .unknownModuleModel i m.device m.model]
        ++ [.slotTaken i earlier m.device m.slot]) := by
    intro earlier
    simp only [List.cons_append, List.nil_append, List.pairwise_cons, List.forall_mem_cons,
      List.not_mem_nil, false_imp_iff, implies_true, and_true, List.Pairwise.nil]
    refine ⟨⟨?_, ?_⟩, ?_⟩ <;>
    · refine message_ne_of_opening ?_ ?_ <;>
        simp [Diagnostic.opening, List.prefix_append_right_inj]
  unfold moduleDoubts
  cases firstAt? Module.place before m with
  | none => exact (hall 0).sublist (by simp)
  | some earlier => exact hall earlier

theorem hostDoubts_differ (i : Nat) (h : HostAddressing) :
    (hostDoubts i h).Pairwise fun x y => x.message ≠ y.message := by
  unfold hostDoubts
  cases h.dhcp == some true && h.hasStatic with
  | false => exact List.pairwise_singleton _ _
  | true =>
      refine List.pairwise_pair.mpr (message_ne_of_opening ?_ ?_) <;> simp [Diagnostic.opening]

theorem routerDoubts_differ (i : Nat) (r : RouterCommands) :
    (routerDoubts i r).Pairwise fun x y => x.message ≠ y.message :=
  List.pairwise_singleton _ _

/-! ### All diagnostics -/

/-- Diagnostics of entities of one section are in the order of their positions. -/
theorem inFront_flatMap {α : Type} {s : Section} {l : List α} {f : α × Nat → List Diagnostic}
    (hsubject : ∀ a, ∀ x ∈ f a, x.subject = (s, a.2))
    (hdiffer : ∀ a, (f a).Pairwise fun x y => x.message ≠ y.message) :
    (l.zipIdx.flatMap f).Pairwise InFront := by
  rw [List.pairwise_flatMap]
  constructor
  · intro a _
    refine (hdiffer a).imp_of_mem fun hx hy hne => ⟨hne, ?_⟩
    rw [hsubject a _ hx, hsubject a _ hy]
    exact Or.inr ⟨rfl, Nat.le_refl _⟩
  · have hascending : l.zipIdx.Pairwise fun a b => a.2 < b.2 := by
      rw [← List.pairwise_map, List.zipIdx_map_snd]
      exact List.pairwise_lt_range' 1
    refine hascending.imp fun {a b} hlt x hx y hy => ⟨?_, ?_⟩
    · refine Diagnostic.message_ne_of_subject_ne ?_
      rw [hsubject a x hx, hsubject b y hy]
      exact fun heq => Nat.ne_of_lt hlt (Prod.mk.inj heq).2
    · rw [hsubject a x hx, hsubject b y hy]
      exact Or.inr ⟨rfl, Nat.le_of_lt hlt⟩

theorem doubtsIn_inFront (t : Topology) (s : Section) : (t.doubtsIn s).Pairwise InFront := by
  cases s with
  | devices =>
      exact inFront_flatMap (fun _ _ => subject_of_mem_deviceDoubts)
        fun _ => deviceDoubts_differ _ _ _
  | modules =>
      exact inFront_flatMap (fun _ _ => subject_of_mem_moduleDoubts)
        fun _ => moduleDoubts_differ _ _ _
  | links =>
      exact inFront_flatMap (fun _ _ => subject_of_mem_linkDoubts) fun _ => linkDoubts_differ _ _ _
  | hosts =>
      exact inFront_flatMap (fun _ _ => subject_of_mem_hostDoubts) fun _ => hostDoubts_differ _ _
  | routers =>
      exact inFront_flatMap (fun _ _ => subject_of_mem_routerDoubts)
        fun _ => routerDoubts_differ _ _

/-- All doubts have different words, and they are in the order of their places. -/
theorem doubts_inFront (t : Topology) : t.doubts.Pairwise InFront := by
  rw [doubts, List.pairwise_flatMap]
  refine ⟨fun s _ => t.doubtsIn_inFront s, ?_⟩
  have hascending : Section.reported.Pairwise fun s s' =>
      Section.reported.idxOf s < Section.reported.idxOf s' := by decide
  refine hascending.imp fun {s s'} hlt x hx y hy => ⟨?_, Or.inl ?_⟩
  · refine Diagnostic.message_ne_of_subject_ne fun heq => ?_
    rw [← t.subject_of_mem_doubtsIn hx, heq, t.subject_of_mem_doubtsIn hy] at hlt
    exact Nat.lt_irrefl _ hlt
  · rwa [t.subject_of_mem_doubtsIn hx, t.subject_of_mem_doubtsIn hy]

/-- There is an entity at the place that a doubt is about. -/
theorem exists_entity_of_mem_doubts {t : Topology} {x : Diagnostic} (h : x ∈ t.doubts) :
    ∃ e, (t.entitiesIn x.subject.1)[x.subject.2]? = some e := by
  have hplace : ∀ {α : Type} {s : Section} {l : List α} {make : α → Entity} {a : α × Nat},
      t.entitiesIn s = l.map make → a ∈ l.zipIdx → x.subject = (s, a.2) →
      ∃ e, (t.entitiesIn x.subject.1)[x.subject.2]? = some e := by
    intro α s l make a hentities ha hsubject
    rw [hsubject, hentities, List.getElem?_map, List.mem_zipIdx_iff_getElem?.mp ha]
    exact ⟨_, rfl⟩
  obtain ⟨s, -, hx⟩ := List.mem_flatMap.mp h
  cases s with
  | devices =>
      obtain ⟨a, ha, hx⟩ := List.mem_flatMap.mp hx
      exact hplace rfl ha (subject_of_mem_deviceDoubts hx)
  | modules =>
      obtain ⟨a, ha, hx⟩ := List.mem_flatMap.mp hx
      exact hplace rfl ha (subject_of_mem_moduleDoubts hx)
  | links =>
      obtain ⟨a, ha, hx⟩ := List.mem_flatMap.mp hx
      exact hplace rfl ha (subject_of_mem_linkDoubts hx)
  | hosts =>
      obtain ⟨a, ha, hx⟩ := List.mem_flatMap.mp hx
      exact hplace rfl ha (subject_of_mem_hostDoubts hx)
  | routers =>
      obtain ⟨a, ha, hx⟩ := List.mem_flatMap.mp hx
      exact hplace rfl ha (subject_of_mem_routerDoubts hx)

/--
**Diagnostics have different words, and each tells the entity that it is about.**

Up to its first closing bracket, a diagnostic is the name of a section and the position of an
entity there, and nothing else can be read there.  The diagnostics are in the order of the sections
and, within a section, of the positions.
-/
theorem validate_attributable (t : Topology) (inv : Inventory) (rules : Rules) :
    (t.validate inv rules).Nodup ∧
      (∀ text ∈ t.validate inv rules, ∃! place, Tells text place) ∧
      (∀ text ∈ t.validate inv rules, ∀ place, Tells text place →
        ∃ e, (t.entitiesIn place.1)[place.2]? = some e) ∧
      (t.validate inv rules).Pairwise fun text text' => ∀ place place',
        Tells text place → Tells text' place' → NoLater place place' := by
  have hinFront : (t.problems inv rules).Pairwise InFront := by
    rw [problems_eq_filter]
    exact t.doubts_inFront.sublist List.filter_sublist
  unfold validate
  refine ⟨?_, ?_, ?_, ?_⟩
  · exact List.pairwise_map.mpr (hinFront.imp And.left)
  · intro text htext
    obtain ⟨x, -, rfl⟩ := List.mem_map.mp htext
    exact ⟨x.subject, x.tells_message, fun place hplace => hplace.unique x.tells_message⟩
  · intro text htext place hplace
    obtain ⟨x, hx, rfl⟩ := List.mem_map.mp htext
    rw [problems_eq_filter] at hx
    rw [hplace.unique x.tells_message]
    exact exists_entity_of_mem_doubts (List.mem_of_mem_filter hx)
  · refine List.pairwise_map.mpr (hinFront.imp fun {x y} h place place' hplace hplace' => ?_)
    rw [hplace.unique x.tells_message, hplace'.unique y.tells_message]
    exact h.2

end Topology

end NetDraft
