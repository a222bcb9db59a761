import Pagewright.Proofs.Template.Blocks

/-!
# Pagewright.Proofs.Template.Strict

The two ways of parsing a template.  The strict one takes the templates whose tags are well nested, and
makes of them what the lenient one does.  Of the others it says at which tag it stops: the first closing
tag that closes nothing, or else the outermost block that is never closed, from which on the lenient one
takes everything for text.
-/

namespace Pagewright.Template

/-- Whether the innermost block that is open behind some pieces has a key. -/
def InnermostOpen (ps : List Piece) (key : List Char) : Prop :=
  ∃ front inverted source inner children,
    Content (some key) inner children ∧ ps = front ++ .tag (.openBlock key inverted) source :: inner

/-- Every closing tag closes the innermost open block. -/
def ClosesMatch (ps : List Piece) : Prop :=
  ∀ front key source later, ps = front ++ .tag (.closeBlock key) source :: later → InnermostOpen front key

/-- Every closing tag closes the innermost open block, and every block is closed. -/
def WellNested (ps : List Piece) : Prop :=
  ClosesMatch ps ∧ ∀ front key inverted source later,
    ps = front ++ .tag (.openBlock key inverted) source :: later → Closed key later

/-- The first closing tag that does not close the innermost open block: its key, and where it begins. -/
def FirstStray (ps : List Piece) (key : List Char) (offset : Nat) : Prop :=
  ∃ front source later, ps = front ++ .tag (.closeBlock key) source :: later ∧
    offset = (sources front).length ∧ ¬ InnermostOpen front key ∧ ClosesMatch front

/-- The block that is never closed and stands in no other: its key, and where it begins. -/
def OutermostUnclosed (ps : List Piece) (key : List Char) (offset : Nat) : Prop :=
  ∃ front inverted source later, ps = front ++ .tag (.openBlock key inverted) source :: later ∧
    offset = (sources front).length ∧ (∀ key', ¬ InnermostOpen front key') ∧ ¬ Closed key later

/-! ## the innermost open block -/

variable {ps : List Piece} {key : List Char} {offset : Nat}

/-- Whatever the parser reads from the start, it comes to a state: there is no block before it that could be
closed. -/
theorem reads_start (ps : List Piece) : Reads .start ps (State.start.pushAll ps) := by
  rcases reads_or_closed .start ps with reads | ⟨key, top, -⟩
  · exact reads
  · cases top

/-- The block that is innermost and open is the one on top of the stack. -/
theorem innermostOpen_iff : InnermostOpen ps key ↔ (State.start.pushAll ps).key? = some key := by
  constructor
  · rintro ⟨front, inverted, source, inner, children, content, rfl⟩
    rw [State.pushAll_append, State.pushAll_cons, State.pushLenient_openBlock, content.pushAll_eq rfl]
    rfl
  · intro top
    have reads := reads_start ps
    generalize State.start.pushAll ps = st at top reads
    cases reads with
    | content => cases top
    | openBlock inverted source front content =>
        rw [State.addAll_key?, State.enter_key?, Option.some.injEq] at top
        subst top
        exact ⟨_, inverted, source, _, _, content, rfl⟩

/-- The stack is empty exactly when no block is open. -/
theorem stack_eq_nil_iff : (State.start.pushAll ps).stack = [] ↔ ∀ key, ¬ InnermostOpen ps key := by
  simp only [innermostOpen_iff, State.key?, ← Option.eq_none_iff_forall_ne_some, Option.map_eq_none_iff,
    List.head?_eq_none_iff]

/-! ## closing tags -/

/-- What holds of all closing tags holds of those in front. -/
theorem ClosesMatch.of_append {qs : List Piece} (h : ClosesMatch (ps ++ qs)) : ClosesMatch ps := by
  rintro front key source later rfl
  exact h front key source (later ++ qs) (by simp)

/-- Either all closing tags match, or there is a first that does not. -/
theorem closesMatch_or_firstStray (ps : List Piece) :
    ClosesMatch ps ∨ ∃ key offset, FirstStray ps key offset := by
  induction ps using List.reverseRecOn with
  | nil => exact .inl (by simp [ClosesMatch])
  | append_singleton ps p ih =>
      rcases ih with ok | ⟨key, offset, front, source, later, rfl, rest⟩
      · by_cases own : ∀ key source, p = .tag (.closeBlock key) source → InnermostOpen ps key
        · refine .inl fun front key source later eq => ?_
          rcases List.eq_nil_or_concat' later with rfl | ⟨later, q, rfl⟩
          · obtain ⟨rfl, last⟩ := List.append_inj' eq rfl
            exact own key source (List.singleton_inj.1 last)
          · rw [← List.cons_append, ← List.append_assoc] at eq
            exact ok front key source later (List.append_inj' eq rfl).1
        · push Not at own
          obtain ⟨key, source, rfl, other⟩ := own
          exact .inr ⟨key, _, ps, source, [], rfl, rfl, other, ok⟩
      · exact .inr ⟨key, offset, front, source, later ++ [p], by simp, rest⟩

/-- A piece is refused only if it is a closing tag that is not the innermost block's own. -/
theorem push_eq_ok {st : State} {p : Piece}
    (own : ∀ key source, p = .tag (.closeBlock key) source → st.key? = some key) :
    st.push p = .ok (st.pushLenient p) := by
  match p with
  | .text _ | .tag (.insert _ _) _ | .tag (.openBlock _ _) _ => rfl
  | .tag (.closeBlock key) source =>
      have top := own key source rfl
      obtain ⟨offset, nodes, stack⟩ := st
      cases stack with
      | nil => cases top
      | cons b stack =>
          obtain rfl : b.key = key := Option.some.inj top
          simp [State.pushLenient, State.push]

/-- Pieces whose closing tags match are read to the end. -/
theorem foldlM_push_of_closesMatch (h : ClosesMatch ps) :
    ps.foldlM State.push .start = .ok (State.start.pushAll ps) := by
  induction ps using List.reverseRecOn with
  | nil => rfl
  | append_singleton ps p ih =>
      have own : ∀ key source, p = .tag (.closeBlock key) source →
          (State.start.pushAll ps).key? = some key := by
        rintro key source rfl
        exact innermostOpen_iff.1 (h ps key source [] rfl)
      rw [List.foldlM_append, ih h.of_append, State.pushAll_append]
      simp [Bind.bind, Except.bind, push_eq_ok own, pure, Except.pure]

/-- At the first closing tag that does not match, the strict parser stops with its key and offset. -/
theorem foldlM_push_of_firstStray (h : FirstStray ps key offset) :
    ps.foldlM State.push .start = .error (.unmatchedClose key offset) := by
  obtain ⟨front, source, later, rfl, rfl, other, ok⟩ := h
  rw [innermostOpen_iff] at other
  have start : (State.start.pushAll front).offset = (sources front).length := by
    simpa [State.start] using (reads_start front).offset_eq
  rw [List.foldlM_append, foldlM_push_of_closesMatch ok]
  simp [Bind.bind, Except.bind, State.push_closeBlock_of_ne other, start]

/-! ## blocks that stay open -/

/-- A block that is never closed stays on the stack. -/
theorem stack_ne_nil_of_not_closed {front later : List Piece} {inverted : Bool} {source : List Char}
    (h : ¬ Closed key later) : (State.start.pushAll
      (front ++ .tag (.openBlock key inverted) source :: later)).stack ≠ [] := by
  rw [State.pushAll_append, State.pushAll_cons, State.pushLenient_openBlock]
  rcases reads_or_closed ((State.start.pushAll front).enter key inverted source) later with
    reads | ⟨_, top, closed⟩
  · exact List.IsSuffix.ne_nil reads.suffix_stack (List.cons_ne_nil _ _)
  · obtain rfl := Option.some.inj top
    exact absurd closed h

/-- If the stack is not empty in the end, its last block is the outermost that is never closed. -/
theorem exists_outermostUnclosed (h : (State.start.pushAll ps).stack ≠ []) :
    ∃ key offset, OutermostUnclosed ps key offset := by
  have reads := reads_start ps
  generalize State.start.pushAll ps = st at h reads
  induction reads with
  | content => exact absurd rfl h
  | @openBlock ps inner st key _ inverted source front content ih =>
      by_cases outermost : st.stack = []
      · rw [← front.pushAll_eq, stack_eq_nil_iff] at outermost
        exact ⟨key, _, ps, inverted, source, inner, rfl, rfl, outermost, content.not_closed⟩
      · -- a block that was opened further outside stays open
        obtain ⟨key', offset, front', inverted', source', later, rfl, start, none, unclosed⟩ := ih outermost
        refine ⟨key', offset, front', inverted', source',
          later ++ .tag (.openBlock key inverted) source :: inner, by simp, start, none, ?_⟩
        have reads := (reads_or_closed (State.start.enter key' inverted' source') later).resolve_right <| by
          rintro ⟨_, top, closed⟩
          obtain rfl := Option.some.inj top
          exact unclosed closed
        exact (reads.openBlock inverted source content).not_closed rfl

/-- The tags are well nested exactly when all match and the stack is empty in the end. -/
theorem wellNested_iff : WellNested ps ↔ ClosesMatch ps ∧ (State.start.pushAll ps).stack = [] := by
  refine and_congr_right fun _ => ⟨fun all => ?_, ?_⟩
  · by_contra open_
    obtain ⟨key, _, front, inverted, source, later, eq, -, -, unclosed⟩ := exists_outermostUnclosed open_
    exact unclosed (all front key inverted source later eq)
  · rintro none front key inverted source later rfl
    by_contra unclosed
    exact stack_ne_nil_of_not_closed unclosed none

/-- The outermost block that is never closed is the last on the stack. -/
theorem OutermostUnclosed.outermost?_eq (h : OutermostUnclosed ps key offset) :
    ∃ front later inverted, ps = front ++ later ∧ offset = (sources front).length ∧
      (State.start.pushAll front).stack = [] ∧ (State.start.pushAll ps).outermost? =
        some ⟨key, inverted, offset, (State.start.pushAll front).nodes⟩ := by
  obtain ⟨front, inverted, source, later, rfl, rfl, none, unclosed⟩ := h
  have empty := stack_eq_nil_iff.2 none
  refine ⟨front, _, inverted, rfl, rfl, empty, ?_⟩
  rw [State.pushAll_append, State.pushAll_cons, State.pushLenient_openBlock]
  rcases reads_or_closed ((State.start.pushAll front).enter key inverted source) later with
    reads | ⟨_, top, closed⟩
  · obtain ⟨above, eq⟩ := reads.suffix_stack
    rw [State.enter_stack, empty] at eq
    have start : (State.start.pushAll front).offset = (sources front).length := by
      simpa [State.start] using (reads_start front).offset_eq
    rw [State.outermost?, ← eq, List.getLast?_append_of_ne_nil _ (List.cons_ne_nil _ _), start]
    rfl
  · obtain rfl := Option.some.inj top
    exact absurd closed unclosed

/-! ## the two parsers -/

/-- With an empty stack, the lenient parser gives the nodes that it has read. -/
theorem parse_eq_of_stack_eq_nil {t : List Char} (h : (State.start.pushAll (scan t)).stack = []) :
    parse t = (State.start.pushAll (scan t)).nodes.reverse := by
  have none : (State.start.pushAll (scan t)).outermost? = none := by rw [State.outermost?, h]; rfl
  simp only [State.pushAll] at none
  rw [parse, none]
  rfl

/-- From the outermost block that is never closed everything is text. -/
theorem parse_of_outermostUnclosed {t : List Char} (h : OutermostUnclosed (scan t) key offset) :
    parse t = parse (t.take offset) ++ [.text (t.drop offset)] := by
  obtain ⟨front, later, inverted, eq, rfl, empty, last⟩ := h.outermost?_eq
  have scans := scans_scan t
  rw [eq] at scans
  have whole : sources front ++ sources later = t := by rw [← sources_append, scans.sources_eq]
  have cut : t.take (sources front).length = sources front := by
    rw [← whole, List.take_append_of_le_length le_rfl, List.take_length]
  have again : scan (sources front) = front := scans_iff.1 scans.of_append
  have outside : parse (sources front) = (State.start.pushAll front).nodes.reverse := by
    rw [parse_eq_of_stack_eq_nil (by rwa [again]), again]
  rw [cut, outside, parse]
  simp only [State.pushAll] at last ⊢
  rw [last]

/-- The strict parser takes well nested tags, and agrees with the lenient one. -/
theorem parseStrict_of_wellNested {t : List Char} (h : WellNested (scan t)) :
    parseStrict t = .ok (parse t) := by
  obtain ⟨ok, empty⟩ := wellNested_iff.1 h
  rw [parseStrict, foldlM_push_of_closesMatch ok, parse_eq_of_stack_eq_nil empty]
  simp [Bind.bind, Except.bind, State.outermost?, empty, pure, Except.pure]

/-- The strict parser refuses the first closing tag that does not match. -/
theorem parseStrict_of_firstStray {t : List Char} (h : FirstStray (scan t) key offset) :
    parseStrict t = .error (.unmatchedClose key offset) := by
  rw [parseStrict, foldlM_push_of_firstStray h]
  rfl

/-- The strict parser refuses the outermost block that is never closed, once all closing tags match. -/
theorem parseStrict_of_outermostUnclosed {t : List Char} (ok : ClosesMatch (scan t))
    (h : OutermostUnclosed (scan t) key offset) : parseStrict t = .error (.unclosed key offset) := by
  obtain ⟨_, _, inverted, -, -, -, last⟩ := h.outermost?_eq
  rw [parseStrict, foldlM_push_of_closesMatch ok]
  simp [Bind.bind, Except.bind, last]

/-- The tags of a template are well nested, or there is a first one that closes nothing, or else a block
that is never closed. -/
theorem wellNested_or (ps : List Piece) : WellNested ps ∨ (∃ key offset, FirstStray ps key offset) ∨
    ClosesMatch ps ∧ ∃ key offset, OutermostUnclosed ps key offset := by
  rcases closesMatch_or_firstStray ps with ok | stray
  · by_cases empty : (State.start.pushAll ps).stack = []
    · exact .inl (wellNested_iff.2 ⟨ok, empty⟩)
    · exact .inr (.inr ⟨ok, exists_outermostUnclosed empty⟩)
  · exact .inr (.inl stray)

/-- The tags of a template are found from left to right.  The strict parser takes a template if its tags
are well nested, and then it agrees with the lenient one; else it stops at the first closing tag that
does not close the innermost open block or, if there is none, at the outermost block that is never closed.
From that block on the lenient parser takes the template for one text. -/
theorem parseStrict_and_parse (t : List Char) :
    (∀ ps, Scans t ps ↔ scan t = ps) ∧
    (∀ ns, parseStrict t = .ok ns ↔ WellNested (scan t) ∧ parse t = ns) ∧
    (∀ e, parseStrict t = .error e ↔
      (∃ key offset, FirstStray (scan t) key offset ∧ e = .unmatchedClose key offset) ∨
      ClosesMatch (scan t) ∧
        ∃ key offset, OutermostUnclosed (scan t) key offset ∧ e = .unclosed key offset) ∧
    (∀ key offset, OutermostUnclosed (scan t) key offset →
      parse t = parse (t.take offset) ++ [.text (t.drop offset)]) ∧
    ((∃ front key inverted source later, scan t = front ++ .tag (.openBlock key inverted) source :: later ∧
      ¬ Closed key later) → ∃ key offset, OutermostUnclosed (scan t) key offset) := by
  refine ⟨fun ps => scans_iff, fun ns => ⟨fun ok => ?_, ?_⟩, fun e => ⟨fun error => ?_, ?_⟩,
    fun key offset => parse_of_outermostUnclosed, ?_⟩
  -- the three cases exclude each other, as each makes the parser answer in its own way
  · rcases wellNested_or (scan t) with nested | ⟨key, offset, stray⟩ | ⟨matched, key, offset, unclosed⟩
    · rw [parseStrict_of_wellNested nested] at ok
      exact ⟨nested, Except.ok.inj ok⟩
    · rw [parseStrict_of_firstStray stray] at ok
      cases ok
    · rw [parseStrict_of_outermostUnclosed matched unclosed] at ok
      cases ok
  · rintro ⟨nested, rfl⟩
    exact parseStrict_of_wellNested nested
  · rcases wellNested_or (scan t) with nested | ⟨key, offset, stray⟩ | ⟨matched, key, offset, unclosed⟩
    · rw [parseStrict_of_wellNested nested] at error
      cases error
    · rw [parseStrict_of_firstStray stray] at error
      exact .inl ⟨key, offset, stray, (Except.error.inj error).symm⟩
    · rw [parseStrict_of_outermostUnclosed matched unclosed] at error
      exact .inr ⟨matched, key, offset, unclosed, (Except.error.inj error).symm⟩
  · rintro (⟨key, offset, stray, rfl⟩ | ⟨matched, key, offset, unclosed, rfl⟩)
    · exact parseStrict_of_firstStray stray
    · exact parseStrict_of_outermostUnclosed matched unclosed
  · rintro ⟨front, key, inverted, source, later, eq, unclosed⟩
    apply exists_outermostUnclosed
    rw [eq]
    exact stack_ne_nil_of_not_closed unclosed

/-- A block that stays open behind a text. -/
theorem parseStrict_and_parse_unclosed :
    parse "a\x7b\x7b#b\x7d\x7dc".toList = parse "a".toList ++ [.text "\x7b\x7b#b\x7d\x7dc".toList] := by
  obtain ⟨-, -, errors, text, -⟩ := parseStrict_and_parse "a\x7b\x7b#b\x7d\x7dc".toList
  have error : parseStrict "a\x7b\x7b#b\x7d\x7dc".toList = .error (.unclosed ['b'] 1) := rfl
  rcases (errors _).1 error with ⟨_, _, -, no⟩ | ⟨-, _, _, unclosed, eq⟩
  · cases no
  · cases eq
    exact text _ _ unclosed

/-- A template that is refused is not well nested. -/
theorem not_wellNested_of_error {t : List Char} {e : SyntaxError} (h : parseStrict t = .error e) :
    ¬ WellNested (scan t) := by
  intro nested
  rw [parseStrict_of_wellNested nested] at h
  cases h

/-- There is nothing to say about a template whose tags are well nested, and about no other. -/
theorem check_eq_nil_iff (t : List Char) : check t = [] ↔ WellNested (scan t) := by
  rcases wellNested_or (scan t) with nested | ⟨key, offset, stray⟩ | ⟨matched, key, offset, unclosed⟩
  · simp [check, parseStrict_of_wellNested nested, nested]
  · have error := parseStrict_of_firstStray stray
    simp [check, error, not_wellNested_of_error error]
  · have error := parseStrict_of_outermostUnclosed matched unclosed
    simp [check, error, not_wellNested_of_error error]

end Pagewright.Template
