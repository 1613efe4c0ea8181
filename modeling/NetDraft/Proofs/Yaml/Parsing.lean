/-
The nodes of compact JSON texts.

The descent reads a node from the tokens of a value and leaves those behind it; nothing else in
its state changes, since no token of a value is an anchor or a tag.  Every token costs two steps of
the fuel at most, one for a node and one for its content, and that is what a document allows for.
-/
import NetDraft.Proofs.Yaml.Lexing
import NetDraft.Yaml.Document

namespace NetDraft

open Yaml (Token TokenKind Node Descent Parse)

/-! ### Nodes of a value -/

mutual

/-- The node shows the value, wherever it stands: texts are quoted, all other scalars plain. -/
def Json.Shows : Json → Node → Prop
  | .array items, n => ∃ mark nodes, n = .sequence mark none nodes ∧ Json.ItemsShow items nodes
  | .object members, n =>
    ∃ mark entries, n = .mapping mark none entries ∧ Json.MembersShow members entries
  | .string s, n => ∃ mark, n = .scalar mark none .doubleQuoted s
  | .null, n => ∃ mark, n = .scalar mark none .plain (Json.compact .null)
  | .bool b, n => ∃ mark, n = .scalar mark none .plain (Json.compact (.bool b))
  | .number x, n => ∃ mark, n = .scalar mark none .plain x.text

/-- The nodes show the items of an array. -/
def Json.ItemsShow : List Json → List Node → Prop
  | [], nodes => nodes = []
  | j :: items, nodes => ∃ n more, nodes = n :: more ∧ j.Shows n ∧ Json.ItemsShow items more

/-- The entries show the members of an object. -/
def Json.MembersShow : List (String × Json) → List (Node × Node) → Prop
  | [], entries => entries = []
  | (key, value) :: members, entries => ∃ mark n more,
    entries = (.scalar mark none .doubleQuoted key, n) :: more ∧ value.Shows n ∧
      Json.MembersShow members more

end

namespace Yaml

/-! ### Steps of a descent -/

/-- The descent with other tokens in front of it. -/
def Descent.at (d : Descent) (tokens : List Token) : Descent := { d with tokens }

namespace Parse

variable {α β : Type} {d d' : Descent} {t : Token} {ts rest : List Token}

/-- A part of a descent takes the tokens in front of it, whatever is behind them. -/
def Takes (p : Parse α) (ts : List Token) (a : α) : Prop :=
  ∀ (d : Descent) (rest : List Token), p (d.at (ts ++ rest)) = some (a, d.at rest)

theorem bind_eq {p : Parse α} {a : α} (h : p d = some (a, d')) (f : α → Parse β) :
    (p >>= f) d = f a d' := by
  show (p d).bind (fun found => f found.1 found.2) = _
  rw [h, Option.bind_some]

theorem peek_eq (d : Descent) (t : Token) (ts : List Token) :
    peek (d.at (t :: ts)) = some (t, d.at (t :: ts)) := rfl

theorem advance_eq (d : Descent) (t : Token) (ts : List Token) :
    advance (d.at (t :: ts)) = some ((), d.at ts) := rfl

/-- Whether a node without properties begins with a token of this kind. -/
def BeginsNode (kind : TokenKind) : Prop :=
  (∃ style text, kind = .scalar style text) ∨ kind = .flowSequenceStart ∨ kind = .flowMappingStart

theorem properties_eq (ht : BeginsNode t.kind) (d : Descent) (ts : List Token) :
    properties (d.at (t :: ts)) = some (⟨none, none, none⟩, d.at (t :: ts)) := by
  have hanchor : anchorName (d.at (t :: ts)) = some (none, d.at (t :: ts)) := by
    rw [anchorName, bind_eq (peek_eq d t ts)]
    rcases ht with ⟨style, text, ht⟩ | ht | ht <;> rw [ht] <;> rfl
  have htag : tagName (d.at (t :: ts)) = some (none, d.at (t :: ts)) := by
    rw [tagName, bind_eq (peek_eq d t ts)]
    rcases ht with ⟨style, text, ht⟩ | ht | ht <;> rw [ht] <;> rfl
  rw [properties, bind_eq (peek_eq d t ts), bind_eq hanchor, bind_eq htag]
  rfl

/-- Without properties the content stands at once. -/
theorem node_eq (ht : BeginsNode t.kind) (fuel : Nat) (context : Context) (d : Descent)
    (ts : List Token) : node (fuel + 1) context (d.at (t :: ts))
      = content fuel context t.start none false t.kind (d.at (t :: ts)) := by
  have hdeclare : Option.mapM declare none (d.at (t :: ts)) = some (none, d.at (t :: ts)) := rfl
  have hanchored : ∀ p : Parse Node, (p >>= anchored none) (d.at (t :: ts)) = p (d.at (t :: ts)) := by
    intro p
    show (p (d.at (t :: ts))).bind (fun found => some found) = _
    cases p (d.at (t :: ts)) <;> rfl
  have hproperties := properties_eq ht d ts
  rw [node, bind_eq (peek_eq d t ts)]
  rcases ht with ⟨style, text, ht⟩ | ht | ht <;> rw [ht] <;> dsimp only <;>
    rw [bind_eq hproperties, bind_eq hdeclare, bind_eq (peek_eq d t ts), hanchored, ht] <;> rfl

theorem nodeUnless_eq {ends : List TokenKind} (hends : t.kind ∉ ends) (fuel : Nat)
    (context : Context) (mark : Mark) (d : Descent) (ts : List Token) :
    nodeUnless (fuel + 1) context ends mark (d.at (t :: ts))
      = node fuel context (d.at (t :: ts)) := by
  rw [nodeUnless, bind_eq (peek_eq d t ts), if_neg (by simp [endsPart, hends])]

/-! ### Scalars and brackets -/

theorem takes_scalar {style : Style} {text : List Char} (ht : t.kind = .scalar style text)
    (fuel : Nat) (context : Context) :
    (node (fuel + 2) context).Takes [t] (.scalar t.start none style (String.ofList text)) := by
  intro d rest
  rw [List.singleton_append, node_eq (Or.inl ⟨style, text, ht⟩), ht, content]
  rfl

theorem takes_sequence {nodes : List Node} {fuel : Nat} (ht : t.kind = .flowSequenceStart)
    (hitems : (flowItems fuel true).Takes ts nodes) (context : Context) :
    (node (fuel + 2) context).Takes (t :: ts) (.sequence t.start none nodes) := by
  intro d rest
  rw [List.cons_append, node_eq (Or.inr (Or.inl ht)), ht, content]
  rw [bind_eq (advance_eq d t (ts ++ rest)), bind_eq (hitems d rest)]
  rfl

theorem takes_mapping {entries : List (Node × Node)} {fuel : Nat} (ht : t.kind = .flowMappingStart)
    (hentries : (flowEntries fuel true).Takes ts entries) (context : Context) :
    (node (fuel + 2) context).Takes (t :: ts) (.mapping t.start none entries) := by
  intro d rest
  rw [List.cons_append, node_eq (Or.inr (Or.inr ht)), ht, content]
  rw [bind_eq (advance_eq d t (ts ++ rest)), bind_eq (hentries d rest)]
  rfl

/-! ### Walks -/

section

variable {ending : TokenKind} {first : Bool} {lead : List Token}

theorem flowNext_end (ht : t.kind = ending) (first : Bool) (d : Descent) (ts : List Token) :
    flowNext ending first (d.at (t :: ts)) = some (t, d.at (t :: ts)) := by
  rw [flowNext, bind_eq (peek_eq d t ts), if_pos (Or.inr ht)]
  rfl

/-- The comma in front of an item is left behind. -/
theorem flowNext_lead (hending : ending ≠ .flowEntry)
    (hlead : lead.map Token.kind = Json.leadKinds first) (d : Descent) (t : Token)
    (ts : List Token) : flowNext ending first (d.at (lead ++ t :: ts)) = some (t, d.at (t :: ts)) := by
  cases first with
  | true =>
      obtain rfl : lead = [] := List.map_eq_nil_iff.mp hlead
      rw [List.nil_append, flowNext, bind_eq (peek_eq d t ts), if_pos (Or.inl rfl)]
      rfl
  | false =>
      obtain ⟨comma, more, rfl, hcomma, hmore⟩ := List.map_eq_cons_iff.mp hlead
      obtain rfl : more = [] := List.map_eq_nil_iff.mp hmore
      rw [List.singleton_append, flowNext, bind_eq (peek_eq d comma (t :: ts)),
        if_neg (by simp [hcomma, Ne.symm hending]), if_pos hcomma,
        bind_eq (advance_eq d comma (t :: ts)), peek_eq]

theorem takes_items_nil (ht : t.kind = .flowSequenceEnd) (fuel : Nat) (first : Bool) :
    (flowItems (fuel + 1) first).Takes [t] [] := by
  intro d rest
  rw [List.singleton_append, flowItems, bind_eq (flowNext_end ht first d rest), ht]
  rfl

theorem takes_items_cons (hlead : lead.map Token.kind = Json.leadKinds first)
    (ht : BeginsNode t.kind) {fuel : Nat} {n : Node} {nodes : List Node} {more : List Token}
    (hnode : (node fuel .flow).Takes (t :: ts) n) (hmore : (flowItems fuel false).Takes more nodes) :
    (flowItems (fuel + 1) first).Takes (lead ++ (t :: ts ++ more)) (n :: nodes) := by
  intro d rest
  have htokens : lead ++ (t :: ts ++ more) ++ rest = lead ++ t :: (ts ++ (more ++ rest)) := by simp
  have hending : TokenKind.flowSequenceEnd ≠ .flowEntry := by simp
  rw [htokens, flowItems, bind_eq (flowNext_lead hending hlead d t (ts ++ (more ++ rest)))]
  rcases ht with ⟨style, text, ht⟩ | ht | ht <;> rw [ht] <;>
    exact (bind_eq (hnode d (more ++ rest)) _).trans (bind_eq (hmore d rest) _)

theorem takes_entries_nil (ht : t.kind = .flowMappingEnd) (fuel : Nat) (first : Bool) :
    (flowEntries (fuel + 1) first).Takes [t] [] := by
  intro d rest
  rw [List.singleton_append, flowEntries, bind_eq (flowNext_end ht first d rest), ht]
  rfl

/-- The value of an entry is a node behind a colon. -/
theorem takes_flowValue {colon : Token} (hcolon : colon.kind = .value) (ht : BeginsNode t.kind)
    {fuel : Nat} {n : Node} (hnode : (node fuel .flow).Takes (t :: ts) n) :
    (flowValue (fuel + 2) .flowMappingEnd).Takes (colon :: t :: ts) n := by
  intro d rest
  have hends : t.kind ∉ [TokenKind.flowEntry, .flowMappingEnd] := by
    rcases ht with ⟨style, text, ht⟩ | ht | ht <;> simp [ht]
  rw [List.cons_append, List.cons_append, flowValue, bind_eq (peek_eq d colon _), hcolon]
  dsimp only
  rw [bind_eq (advance_eq d colon _), bind_eq (peek_eq d t _), nodeUnless_eq hends]
  exact hnode d rest

theorem takes_entries_cons (hlead : lead.map Token.kind = Json.leadKinds first)
    {mark k colon : Token} {text : List Char} (hmark : mark.kind = .key)
    (hk : k.kind = .scalar .doubleQuoted text) (hcolon : colon.kind = .value)
    (ht : BeginsNode t.kind) {fuel : Nat} {n : Node} {entries : List (Node × Node)}
    {more : List Token} (hnode : (node (fuel + 1) .flow).Takes (t :: ts) n)
    (hmore : (flowEntries (fuel + 3) false).Takes more entries) :
    (flowEntries (fuel + 4) first).Takes (lead ++ (mark :: k :: colon :: t :: ts ++ more))
      ((.scalar k.start none .doubleQuoted (String.ofList text), n) :: entries) := by
  intro d rest
  have htokens : lead ++ (mark :: k :: colon :: t :: ts ++ more) ++ rest
      = lead ++ mark :: k :: colon :: t :: (ts ++ (more ++ rest)) := by simp
  have hending : TokenKind.flowMappingEnd ≠ .flowEntry := by simp
  have hread : nodeUnless (fuel + 3) .flow [.value, .flowEntry, .flowMappingEnd] k.start
      (d.at (k :: colon :: t :: (ts ++ (more ++ rest)))) = some (.scalar k.start none .doubleQuoted
        (String.ofList text), d.at (colon :: t :: (ts ++ (more ++ rest)))) := by
    rw [nodeUnless_eq (by simp [hk])]
    exact takes_scalar hk fuel .flow d _
  rw [htokens, flowEntries, bind_eq (flowNext_lead hending hlead d mark _), hmark]
  dsimp only
  rw [bind_eq (advance_eq d mark _), bind_eq (peek_eq d k _), bind_eq hread]
  exact (bind_eq (takes_flowValue hcolon ht hnode d (more ++ rest)) _).trans
    (bind_eq (hmore d rest) _)

end

/-! ### Documents -/

theorem directives_eq (ht : BeginsNode t.kind) (fuel : Nat) (d : Descent) (ts : List Token) :
    directives (fuel + 1) false (d.at (t :: ts))
      = some ((), { d with handles := d.handles ++ standardHandles }.at (t :: ts)) := by
  rw [directives, bind_eq (peek_eq d t ts)]
  rcases ht with ⟨style, text, ht⟩ | ht | ht <;> rw [ht] <;> rfl

theorem documentEnds_eq (ht : t.kind = .streamEnd) (fuel : Nat) (d : Descent) (ts : List Token) :
    documentEnds (fuel + 1) (d.at (t :: ts)) = some ((), d.at (t :: ts)) := by
  rw [documentEnds, bind_eq (peek_eq d t ts), if_neg (by simp [ht])]
  rfl

/-- A document that begins with a mapping in brackets and has nothing behind it. -/
theorem document_eq {last : Token} {n : Node} (ht : t.kind = .flowMappingStart)
    (hlast : last.kind = .streamEnd)
    (hnode : (node (4 * (t :: (ts ++ [last])).length + 8) .block).Takes (t :: ts) n)
    (d : Descent) : document (d.at (t :: (ts ++ [last])))
      = some (some n, { d with handles := d.handles ++ standardHandles }.at [last]) := by
  obtain ⟨fuel, hfuel⟩ : ∃ fuel, 4 * (t :: (ts ++ [last])).length + 8 = fuel + 1 := ⟨_, rfl⟩
  have hget : (get : Parse Descent) (d.at (t :: (ts ++ [last])))
      = some (d.at (t :: (ts ++ [last])), d.at (t :: (ts ++ [last]))) := rfl
  have htokens : (d.at (t :: (ts ++ [last]))).tokens = t :: (ts ++ [last]) := rfl
  have hroot := hnode { d with handles := d.handles ++ standardHandles } [last]
  rw [hfuel, List.cons_append] at hroot
  rw [document, bind_eq hget, htokens, hfuel, bind_eq (peek_eq d t (ts ++ [last])), ht]
  dsimp only
  rw [bind_eq (directives_eq (Or.inr (Or.inr ht)) fuel d (ts ++ [last])), bind_eq hroot,
    bind_eq (documentEnds_eq hlast fuel _ [])]
  rfl

end Parse

end Yaml

/-! ### Whole values -/

namespace Json

open Yaml.Parse (BeginsNode)

theorem exists_kinds (j : Json) : ∃ kind more, j.kinds = kind :: more ∧ BeginsNode kind := by
  cases j with
  | array items => exact ⟨_, _, rfl, Or.inr (Or.inl rfl)⟩
  | object members => exact ⟨_, _, rfl, Or.inr (Or.inr rfl)⟩
  | _ => exact ⟨_, _, rfl, Or.inl ⟨_, _, rfl⟩⟩

/-- A scalar is read with two steps of the fuel. -/
theorem exists_node_of_scalar {j : Json} {style : Yaml.Style} {text : List Char}
    (hkinds : j.kinds = [.scalar style text])
    (hshows : ∀ mark, j.Shows (.scalar mark none style (String.ofList text))) {ts : List Token}
    (hts : ts.map Token.kind = j.kinds) {fuel : Nat} (hfuel : 2 * ts.length ≤ fuel)
    (context : Yaml.Parse.Context) :
    ∃ n, (Yaml.Parse.node fuel context).Takes ts n ∧ j.Shows n := by
  rw [hkinds] at hts
  obtain ⟨t, more, rfl, ht, hmore⟩ := List.map_eq_cons_iff.mp hts
  obtain rfl : more = [] := List.map_eq_nil_iff.mp hmore
  obtain ⟨fuel, rfl⟩ : ∃ less, fuel = less + 2 := ⟨fuel - 2, by simp at hfuel; omega⟩
  exact ⟨_, Yaml.Parse.takes_scalar ht fuel context, hshows _⟩

/-- Tokens between two brackets. -/
theorem exists_brackets {ts : List Token} {start stop : TokenKind} {kinds : List TokenKind}
    (h : ts.map Token.kind = start :: (kinds ++ [stop])) :
    ∃ t walk last, ts = t :: (walk ++ [last]) ∧ t.kind = start ∧ walk.map Token.kind = kinds ∧
      last.kind = stop := by
  obtain ⟨t, more, rfl, ht, hmore⟩ := List.map_eq_cons_iff.mp h
  obtain ⟨walk, ends, rfl, hwalk, hends⟩ := List.map_eq_append_iff.mp hmore
  obtain ⟨last, none, rfl, hlast, hnone⟩ := List.map_eq_cons_iff.mp hends
  obtain rfl : none = [] := List.map_eq_nil_iff.mp hnone
  exact ⟨t, walk, last, rfl, ht, hwalk, hlast⟩

mutual

/-- **The tokens of a value are read as a node that shows the value.** -/
theorem exists_node : ∀ (j : Json) {ts : List Token}, ts.map Token.kind = j.kinds →
    ∀ fuel, 2 * ts.length ≤ fuel → ∀ context,
      ∃ n, (Yaml.Parse.node fuel context).Takes ts n ∧ j.Shows n
  | .array items, ts, hts, fuel, hfuel, context => by
      obtain ⟨t, walk, stop, rfl, ht, hwalk, hend⟩ := exists_brackets hts
      obtain ⟨fuel, rfl⟩ : ∃ less, fuel = less + 2 := ⟨fuel - 2, by simp at hfuel; omega⟩
      obtain ⟨nodes, hitems, hshow⟩ := exists_items items true hwalk fuel
        (by simp at hfuel; omega) hend
      exact ⟨_, Yaml.Parse.takes_sequence ht hitems context, _, _, rfl, hshow⟩
  | .object members, ts, hts, fuel, hfuel, context => by
      obtain ⟨t, walk, stop, rfl, ht, hwalk, hend⟩ := exists_brackets hts
      obtain ⟨fuel, rfl⟩ : ∃ less, fuel = less + 2 := ⟨fuel - 2, by simp at hfuel; omega⟩
      obtain ⟨entries, hentries, hshow⟩ := exists_entries members true hwalk fuel
        (by simp at hfuel; omega) hend
      exact ⟨_, Yaml.Parse.takes_mapping ht hentries context, _, _, rfl, hshow⟩
  | .string s, ts, hts, fuel, hfuel, context =>
      exists_node_of_scalar (j := .string s) rfl (fun mark => ⟨mark, by rw [String.ofList_toList]⟩)
        hts hfuel context
  | .null, ts, hts, fuel, hfuel, context =>
      exists_node_of_scalar (j := .null) rfl (fun mark => ⟨mark, rfl⟩) hts hfuel context
  | .bool b, ts, hts, fuel, hfuel, context =>
      exists_node_of_scalar (j := .bool b) rfl (fun mark => ⟨mark, rfl⟩) hts hfuel context
  | .number n, ts, hts, fuel, hfuel, context =>
      exists_node_of_scalar (j := .number n) rfl (fun mark => ⟨mark, by rw [String.ofList_toList]⟩)
        hts hfuel context

theorem exists_items : ∀ (items : List Json) (first : Bool) {ts : List Token},
    ts.map Token.kind = itemKinds first items → ∀ fuel, 2 * ts.length + 1 ≤ fuel →
      ∀ {stop : Token}, stop.kind = .flowSequenceEnd →
        ∃ nodes, (Yaml.Parse.flowItems fuel first).Takes (ts ++ [stop]) nodes ∧
          ItemsShow items nodes
  | [], first, ts, hts, fuel, hfuel, stop, hstop => by
      obtain rfl : ts = [] := List.map_eq_nil_iff.mp hts
      obtain ⟨fuel, rfl⟩ : ∃ less, fuel = less + 1 := ⟨fuel - 1, by omega⟩
      exact ⟨[], Yaml.Parse.takes_items_nil hstop fuel first, rfl⟩
  | item :: items, first, ts, hts, fuel, hfuel, stop, hstop => by
      obtain ⟨lead, behind, rfl, hlead, hbehind⟩ := List.map_eq_append_iff.mp hts
      obtain ⟨value, more, rfl, hvalue, hmore⟩ := List.map_eq_append_iff.mp hbehind
      obtain ⟨kind, kinds, hkinds, hbegins⟩ := item.exists_kinds
      obtain ⟨t, tail, rfl, ht, -⟩ := List.map_eq_cons_iff.mp (hvalue.trans hkinds)
      simp only [List.length_append, List.length_cons] at hfuel
      obtain ⟨fuel, rfl⟩ : ∃ less, fuel = less + 1 := ⟨fuel - 1, by omega⟩
      obtain ⟨n, hnode, hshows⟩ := exists_node item hvalue fuel
        (by rw [List.length_cons]; omega) .flow
      obtain ⟨nodes, hnodes, hshow⟩ := exists_items items false hmore fuel (by omega) hstop
      refine ⟨n :: nodes, ?_, n, nodes, rfl, hshows, hshow⟩
      have htakes := Yaml.Parse.takes_items_cons hlead (ht ▸ hbegins) hnode hnodes
      rwa [List.append_assoc, List.append_assoc]

theorem exists_entries : ∀ (members : List (String × Json)) (first : Bool) {ts : List Token},
    ts.map Token.kind = memberKinds first members → ∀ fuel, 2 * ts.length + 1 ≤ fuel →
      ∀ {stop : Token}, stop.kind = .flowMappingEnd →
        ∃ entries, (Yaml.Parse.flowEntries fuel first).Takes (ts ++ [stop]) entries ∧
          MembersShow members entries
  | [], first, ts, hts, fuel, hfuel, stop, hstop => by
      obtain rfl : ts = [] := List.map_eq_nil_iff.mp hts
      obtain ⟨fuel, rfl⟩ : ∃ less, fuel = less + 1 := ⟨fuel - 1, by omega⟩
      exact ⟨[], Yaml.Parse.takes_entries_nil hstop fuel first, rfl⟩
  | (key, value) :: members, first, ts, hts, fuel, hfuel, stop, hstop => by
      obtain ⟨lead, behind, rfl, hlead, hbehind⟩ := List.map_eq_append_iff.mp hts
      obtain ⟨mark, behind, rfl, hmark, hbehind⟩ := List.map_eq_cons_iff.mp hbehind
      obtain ⟨k, behind, rfl, hk, hbehind⟩ := List.map_eq_cons_iff.mp hbehind
      obtain ⟨colon, behind, rfl, hcolon, hbehind⟩ := List.map_eq_cons_iff.mp hbehind
      obtain ⟨tokens, more, rfl, hvalue, hmore⟩ := List.map_eq_append_iff.mp hbehind
      obtain ⟨kind, kinds, hkinds, hbegins⟩ := value.exists_kinds
      obtain ⟨t, tail, rfl, ht, -⟩ := List.map_eq_cons_iff.mp (hvalue.trans hkinds)
      simp only [List.length_append, List.length_cons] at hfuel
      obtain ⟨fuel, rfl⟩ : ∃ less, fuel = less + 4 := ⟨fuel - 4, by omega⟩
      obtain ⟨n, hnode, hshows⟩ := exists_node value hvalue (fuel + 1)
        (by rw [List.length_cons]; omega) .flow
      obtain ⟨entries, hentries, hshow⟩ := exists_entries members false hmore (fuel + 3)
        (by omega) hstop
      refine ⟨_, ?_, k.start, n, entries, rfl, hshows, hshow⟩
      have htakes := Yaml.Parse.takes_entries_cons hlead hmark hk hcolon (ht ▸ hbegins) hnode hentries
      rw [String.ofList_toList] at htakes
      simpa using htakes

end

/-- **The text of an object is a document of one node, and it shows the object.** -/
theorem ofText?_compact {members : List (String × Json)} (h : (object members).Shared) :
    ∃ root stop, Yaml.Document.ofText? (object members).compact = some ⟨some root, stop, []⟩ ∧
      (object members).Shows root := by
  obtain ⟨tokens, hread, hkinds⟩ := h.tokens?_chars
  obtain ⟨ts, ends, rfl, hts, hends⟩ := List.map_eq_append_iff.mp hkinds
  obtain ⟨last, none, rfl, hlast, hnone⟩ := List.map_eq_cons_iff.mp hends
  obtain rfl : none = [] := List.map_eq_nil_iff.mp hnone
  obtain ⟨t, more, rfl, ht, -⟩ := List.map_eq_cons_iff.mp hts
  obtain ⟨root, hroot, hshows⟩ := exists_node (object members) hts
    (4 * (t :: (more ++ [last])).length + 8) (by simp; omega) .block
  refine ⟨root, last.start, ?_, hshows⟩
  have hdocument : Yaml.Parse.document.run ⟨t :: (more ++ [last]), [], [], 0, []⟩ = _ :=
    Yaml.Parse.document_eq ht hlast hroot ⟨[], [], [], 0, []⟩
  rw [Yaml.Document.ofText?, compact, String.toList_ofList, hread, Option.bind_eq_bind,
    Option.bind_some, List.cons_append, hdocument, Option.bind_eq_bind, Option.bind_some]
  exact if_pos hlast

end Json

end NetDraft
