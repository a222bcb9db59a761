import Mathlib.Data.List.Induction
import Pagewright.Proofs.Template.Pieces
import Pagewright.Template.Parse

/-!
# Pagewright.Proofs.Template.Blocks

The blocks of a template.  `Content` is the grammar of what may stand in a block: texts, inserted values,
closing tags that are not its own, and whole blocks.  A block ends in one place only (`Content.unique`).
The parser keeps the open blocks on a stack; `Reads` says what it has read when it is in a given state, and
every run keeps to it until the block in which it began is closed (`reads_or_closed`).
-/

namespace Pagewright.Template

/-! ## the grammar -/

/-- The content of a block of a key, or of a whole template, and its nodes.  A closing tag that is not the
block's own is text, and a block in it has content of its own, and a closing tag. -/
inductive Content : Option (List Char) → List Piece → List Node → Prop
  | nil {outer : Option (List Char)} : Content outer [] []
  | text {outer : Option (List Char)} {ps : List Piece} {ns : List Node} (s : List Char)
      (later : Content outer ps ns) : Content outer (.text s :: ps) (.text s :: ns)
  | insert {outer : Option (List Char)} {ps : List Piece} {ns : List Node} (key : List Char) (raw : Bool)
      (source : List Char) (later : Content outer ps ns) :
      Content outer (.tag (.insert key raw) source :: ps) (.insert key raw :: ns)
  | stray {outer : Option (List Char)} {ps : List Piece} {ns : List Node} {key : List Char}
      (source : List Char) (other : outer ≠ some key) (later : Content outer ps ns) :
      Content outer (.tag (.closeBlock key) source :: ps) (.text source :: ns)
  | block {outer : Option (List Char)} {inner ps : List Piece} {children ns : List Node} {key : List Char}
      (inverted : Bool) (source source' : List Char) (inside : Content (some key) inner children)
      (later : Content outer ps ns) :
      Content outer (.tag (.openBlock key inverted) source ::
        (inner ++ .tag (.closeBlock key) source' :: ps)) (.block key inverted children :: ns)

/-- Whether a block with these pieces behind its opening tag is closed. -/
def Closed (key : List Char) (later : List Piece) : Prop :=
  ∃ inner children source behind,
    Content (some key) inner children ∧ later = inner ++ .tag (.closeBlock key) source :: behind

/-- A block that is closed stays so with more pieces behind it. -/
theorem Closed.append {key : List Char} {ps : List Piece} (h : Closed key ps) (qs : List Piece) :
    Closed key (ps ++ qs) := by
  obtain ⟨inner, children, source, behind, content, rfl⟩ := h
  exact ⟨inner, children, source, behind ++ qs, content, by simp⟩

/-- Of two different entries of a list one is the first. -/
theorem either_first {α : Type} {a b : α} {front later front' later' : List α} (ne : a ≠ b)
    (eq : front ++ a :: later = front' ++ b :: later') :
    (∃ between, front' = front ++ a :: between ∧ later = between ++ b :: later') ∨
      ∃ between, front = front' ++ b :: between ∧ later' = between ++ a :: later := by
  rcases List.append_eq_append_iff.1 eq with ⟨between, rfl, rest⟩ | ⟨between, rfl, rest⟩
  · cases between with
    | nil => exact absurd (List.cons.inj rest).1 ne
    | cons c between =>
        obtain ⟨rfl, rfl⟩ := List.cons.inj rest
        exact .inl ⟨between, rfl, rfl⟩
  · cases between with
    | nil => exact absurd (List.cons.inj rest).1.symm ne
    | cons c between =>
        obtain ⟨rfl, rfl⟩ := List.cons.inj rest
        exact .inr ⟨between, rfl, rfl⟩

/-! ## unique closing -/

namespace Content

variable {outer : Option (List Char)} {key : List Char} {ps qs : List Piece} {ns ms : List Node}

/-- Contents in a row are one content. -/
theorem append (h : Content outer ps ns) (h' : Content outer qs ms) :
    Content outer (ps ++ qs) (ns ++ ms) := by
  induction h with
  | nil => exact h'
  | text s _ ih => exact .text s (ih h')
  | insert key raw source _ ih => exact .insert key raw source (ih h')
  | stray source other _ ih => exact .stray source other (ih h')
  | block inverted source source' inside _ _ ih =>
      rw [List.cons_append, List.append_assoc]
      exact .block inverted source source' inside (ih h')

/-- The content of a block ends in one place only. -/
theorem unique (h : Content (some key) ps ns) (h' : Content (some key) qs ms) {source source' : List Char}
    {later later' : List Piece} (eq : ps ++ .tag (.closeBlock key) source :: later =
      qs ++ .tag (.closeBlock key) source' :: later') : ps = qs := by
  generalize same : some key = outer at h
  -- on the first content: the second begins with the same piece, so it is of the same case
  induction h generalizing key qs ms source source' later later' with
  | nil =>
      cases h' with
      | nil => rfl
      | stray source other _ =>
          simp only [List.nil_append, List.cons_append, List.cons.injEq, Piece.tag.injEq,
            Tag.closeBlock.injEq] at eq
          exact absurd (congrArg some eq.1.1) other
      | _ => simp at eq
  | text s _ ih =>
      cases h' with
      | text s' h' =>
          simp only [List.cons_append, List.cons.injEq, Piece.text.injEq] at eq
          rw [eq.1, ih h' eq.2 same]
      | _ => simp at eq
  | insert k raw s _ ih =>
      cases h' with
      | insert k' raw' s' h' =>
          simp only [List.cons_append, List.cons.injEq] at eq
          rw [eq.1, ih h' eq.2 same]
      | _ => simp at eq
  | stray s other _ ih =>
      cases h' with
      | nil =>
          simp only [List.nil_append, List.cons_append, List.cons.injEq, Piece.tag.injEq,
            Tag.closeBlock.injEq] at eq
          exact absurd (same.symm.trans (congrArg some eq.1.1.symm)) other
      | stray s' other' h' =>
          simp only [List.cons_append, List.cons.injEq] at eq
          rw [eq.1, ih h' eq.2 same]
      | _ => simp at eq
  | block inverted s s' inside _ ihInside ih =>
      cases h' with
      | block inverted' t t' inside' h' =>
          simp only [List.cons_append, List.append_assoc, List.cons.injEq, Piece.tag.injEq,
            Tag.openBlock.injEq] at eq
          obtain ⟨⟨⟨rfl, rfl⟩, rfl⟩, eq⟩ := eq
          -- the insides of the two blocks end in one place, and so does what is behind them
          obtain rfl := ihInside inside' eq rfl
          simp only [List.append_cancel_left_eq, List.cons.injEq] at eq
          rw [eq.1, ih h' eq.2 same]
      | _ => simp at eq

/-- The content of a block does not close it. -/
theorem not_closed (h : Content (some key) ps ns) : ¬ Closed key ps := by
  rintro ⟨inner, children, source, behind, content, rfl⟩
  have whole : inner ++ .tag (.closeBlock key) source :: (behind ++ [.tag (.closeBlock key) source]) =
      (inner ++ .tag (.closeBlock key) source :: behind) ++ .tag (.closeBlock key) source :: [] := by simp
  have same := content.unique h whole
  simp at same

/-- The blocks in a content are closed. -/
theorem closed_of_mem (h : Content outer ps ns) {front later : List Piece} {inverted : Bool}
    {source : List Char} (eq : ps = front ++ .tag (.openBlock key inverted) source :: later) :
    Closed key later := by
  induction h generalizing front later with
  | nil => simp at eq
  | text | insert | stray =>
      rename_i ih
      cases front with
      | nil => simp at eq
      | cons p front => exact ih (List.cons.inj eq).2
  | @block outer inner ps children ns k inverted' s s' inside _ ihInside ih =>
      cases front with
      | nil =>
          simp only [List.nil_append, List.cons.injEq, Piece.tag.injEq, Tag.openBlock.injEq] at eq
          obtain ⟨⟨⟨rfl, -⟩, -⟩, rfl⟩ := eq
          exact ⟨inner, children, s', ps, inside, rfl⟩
      | cons p front =>
          rcases either_first (by simp) (List.cons.inj eq).2 with ⟨_, rfl, behind⟩ | ⟨_, within, rfl⟩
          · exact ih behind
          · exact (ihInside within).append _

end Content

/-! ## the states of the parser -/

namespace State

variable {st : State} {ps : List Piece} {ns : List Node}

/-- The key of the innermost open block. -/
def key? (st : State) : Option (List Char) := st.stack.head?.map OpenBlock.key

/-- The state behind a content and with its nodes. -/
def addAll (st : State) (ps : List Piece) (ns : List Node) : State :=
  ⟨st.offset + (sources ps).length, ns.reverse ++ st.nodes, st.stack⟩

/-- The state behind an opening tag. -/
def enter (st : State) (key : List Char) (inverted : Bool) (source : List Char) : State :=
  ⟨st.offset + source.length, [], ⟨key, inverted, st.offset, st.nodes⟩ :: st.stack⟩

/-- The state behind some pieces, for the lenient parser. -/
def pushAll (st : State) (ps : List Piece) : State := ps.foldl pushLenient st

@[simp] theorem addAll_stack : (st.addAll ps ns).stack = st.stack := rfl

/-- A content does not change which block is the innermost. -/
@[simp] theorem addAll_key? : (st.addAll ps ns).key? = st.key? := rfl

@[simp] theorem enter_stack (key : List Char) (inverted : Bool) (source : List Char) :
    (st.enter key inverted source).stack = ⟨key, inverted, st.offset, st.nodes⟩ :: st.stack := rfl

/-- An opening tag makes its block the innermost. -/
@[simp] theorem enter_key? (key : List Char) (inverted : Bool) (source : List Char) :
    (st.enter key inverted source).key? = some key := rfl

@[simp] theorem addAll_nil : st.addAll [] [] = st := rfl

/-- Two contents one after the other are added like one. -/
theorem addAll_addAll (qs : List Piece) (ms : List Node) :
    (st.addAll ps ns).addAll qs ms = st.addAll (ps ++ qs) (ns ++ ms) := by
  simp [addAll, Nat.add_assoc]

@[simp] theorem pushAll_nil : st.pushAll [] = st := rfl

@[simp] theorem pushAll_cons (p : Piece) : st.pushAll (p :: ps) = (st.pushLenient p).pushAll ps := rfl

/-- Pieces can be read in two goes. -/
@[simp] theorem pushAll_append (qs : List Piece) : st.pushAll (ps ++ qs) = (st.pushAll ps).pushAll qs :=
  List.foldl_append

/-- A text is a content of one piece. -/
theorem pushLenient_text (s : List Char) :
    st.pushLenient (.text s) = st.addAll [.text s] [.text s] := by
  simp [pushLenient, push, add, addAll, Piece.source]

/-- So is an insert. -/
theorem pushLenient_insert (key : List Char) (raw : Bool) (source : List Char) :
    st.pushLenient (.tag (.insert key raw) source) =
      st.addAll [.tag (.insert key raw) source] [.insert key raw] := by
  simp [pushLenient, push, add, addAll, Piece.source]

/-- An opening tag begins a block. -/
theorem pushLenient_openBlock (key : List Char) (inverted : Bool) (source : List Char) :
    st.pushLenient (.tag (.openBlock key inverted) source) = st.enter key inverted source := rfl

/-- A closing tag is refused unless the innermost open block has its key. -/
theorem push_closeBlock_of_ne {key : List Char} (other : st.key? ≠ some key) (source : List Char) :
    st.push (.tag (.closeBlock key) source) = .error (.unmatchedClose key st.offset) := by
  obtain ⟨offset, nodes, stack⟩ := st
  cases stack with
  | nil => rfl
  | cons b stack =>
      have ne : b.key ≠ key := fun eq => other (congrArg some eq)
      simp [push, ne]

/-- The lenient parser takes a closing tag of another block as text. -/
theorem pushLenient_closeBlock_of_ne {key : List Char} (other : st.key? ≠ some key)
    (source : List Char) : st.pushLenient (.tag (.closeBlock key) source) =
      st.addAll [.tag (.closeBlock key) source] [.text source] := by
  rw [pushLenient, push_closeBlock_of_ne other]
  simp [add, addAll, Piece.source]

/-- A closing tag of its own ends a block. -/
theorem pushLenient_closeBlock (key : List Char) (inverted : Bool) (source source' : List Char)
    (children : List Node) : ((st.enter key inverted source).addAll ps children).pushLenient
      (.tag (.closeBlock key) source') =
        st.addAll (.tag (.openBlock key inverted) source :: (ps ++ [.tag (.closeBlock key) source']))
          [.block key inverted children] := by
  simp [pushLenient, push, addAll, enter, Piece.source, Nat.add_assoc]

end State

/-- A content leaves the open blocks as they are. -/
theorem Content.pushAll_eq {outer : Option (List Char)} {ps : List Piece} {ns : List Node}
    (h : Content outer ps ns) {st : State} (top : st.key? = outer) :
    st.pushAll ps = st.addAll ps ns := by
  induction h generalizing st with
  | nil => rfl
  | text s _ ih =>
      rw [State.pushAll_cons, State.pushLenient_text, ih, State.addAll_addAll]
      · rfl
      · exact top
  | insert key raw source _ ih =>
      rw [State.pushAll_cons, State.pushLenient_insert, ih, State.addAll_addAll]
      · rfl
      · exact top
  | stray source other _ ih =>
      rw [State.pushAll_cons, State.pushLenient_closeBlock_of_ne (top ▸ other), ih, State.addAll_addAll]
      · rfl
      · exact top
  | block inverted source source' _ _ ihInside ih =>
      rw [State.pushAll_cons, State.pushLenient_openBlock, State.pushAll_append, ihInside rfl,
        State.pushAll_cons, State.pushLenient_closeBlock, ih, State.addAll_addAll]
      · simp
      · exact top

/-! ## what the parser has read -/

/-- What the parser has read on its way from one state to another: a content, and then for each block that
it has opened since the opening tag and a content. -/
inductive Reads (base : State) : List Piece → State → Prop
  | content {ps : List Piece} {ns : List Node} (content : Content base.key? ps ns) :
      Reads base ps (base.addAll ps ns)
  | openBlock {ps inner : List Piece} {st : State} {key : List Char} {children : List Node}
      (inverted : Bool) (source : List Char) (front : Reads base ps st)
      (content : Content (some key) inner children) :
      Reads base (ps ++ .tag (.openBlock key inverted) source :: inner)
        ((st.enter key inverted source).addAll inner children)

namespace Reads

variable {base st : State} {ps qs : List Piece} {ns : List Node}

/-- A content can be added to what was read last. -/
theorem append (h : Reads base ps st) (content : Content st.key? qs ns) :
    Reads base (ps ++ qs) (st.addAll qs ns) := by
  cases h with
  | content first =>
      rw [State.addAll_addAll]
      exact .content (first.append content)
  | openBlock inverted source front first =>
      rw [State.addAll_addAll, List.append_assoc, List.cons_append]
      exact .openBlock inverted source front (first.append content)

/-- No block is closed in which the parser began. -/
theorem suffix_stack (h : Reads base ps st) : base.stack <:+ st.stack := by
  induction h with
  | content => exact List.suffix_rfl
  | openBlock _ _ _ _ ih => exact ih.trans (List.suffix_cons _ _)

/-- The state that is read to is the one that the parser comes to. -/
theorem pushAll_eq (h : Reads base ps st) : base.pushAll ps = st := by
  induction h with
  | content content => exact content.pushAll_eq rfl
  | openBlock inverted source _ content ih =>
      rw [State.pushAll_append, ih, State.pushAll_cons, State.pushLenient_openBlock, content.pushAll_eq rfl]

/-- The offset counts all the characters that were read. -/
theorem offset_eq (h : Reads base ps st) : st.offset = base.offset + (sources ps).length := by
  induction h with
  | content => rfl
  | openBlock _ _ _ _ ih => simp [State.addAll, State.enter, ih, Piece.source, Nat.add_assoc]

/-- While the parser has only come this far, the block in which it began is not closed. -/
theorem not_closed (h : Reads base ps st) {key : List Char} (top : base.key? = some key) :
    ¬ Closed key ps := by
  induction h with
  | content content => exact Content.not_closed (top ▸ content)
  | openBlock inverted source _ content ih =>
      rintro ⟨inner, children, source', behind, within, eq⟩
      rcases either_first (by simp) eq with ⟨between, rfl, rest⟩ | ⟨between, eq, -⟩
      · -- the block that was opened last would be closed in front of the closing tag
        have closed := within.closed_of_mem rfl
        rw [rest] at content
        exact content.not_closed (closed.append _)
      · exact ih ⟨inner, children, source', between, within, eq⟩

/-- The parser with one more piece. -/
theorem push (h : Reads base ps st) (p : Piece) : Reads base (ps ++ [p]) (st.pushLenient p) ∨
    ∃ key, base.key? = some key ∧ Closed key (ps ++ [p]) := by
  match p with
  | .text s =>
      rw [State.pushLenient_text]
      exact .inl (h.append (.text s .nil))
  | .tag (.insert key raw) source =>
      rw [State.pushLenient_insert]
      exact .inl (h.append (.insert key raw source .nil))
  | .tag (.openBlock key inverted) source => exact .inl (.openBlock inverted source h .nil)
  | .tag (.closeBlock key) source =>
      by_cases own : st.key? = some key
      · cases h with
        | content content =>
            rw [State.addAll_key?] at own
            exact .inr ⟨key, own, _, _, source, [], own ▸ content, rfl⟩
        | openBlock inverted source' front content =>
            rw [State.addAll_key?, State.enter_key?, Option.some.injEq] at own
            subst own
            rw [State.pushLenient_closeBlock, List.append_assoc, List.cons_append]
            exact .inl (front.append (.block inverted source' source content .nil))
      · rw [State.pushLenient_closeBlock_of_ne own]
        exact .inl (h.append (.stray source own .nil))

end Reads

/-- The parser keeps to its blocks until the one is closed in which it began. -/
theorem reads_or_closed (base : State) (ps : List Piece) :
    Reads base ps (base.pushAll ps) ∨ ∃ key, base.key? = some key ∧ Closed key ps := by
  induction ps using List.reverseRecOn with
  | nil => exact .inl (.content .nil)
  | append_singleton ps p ih =>
      rw [State.pushAll_append]
      rcases ih with reads | ⟨key, top, closed⟩
      · exact reads.push p
      · exact .inr ⟨key, top, closed.append [p]⟩

end Pagewright.Template
