import Pagewright.Proofs.Template.Strict

/-!
# Pagewright.Proofs.Template.Reprint

Writing the nodes of a template back.  The printed nodes are the template again, but for the blanks in the
tags that became nodes (`exists_reprint`).  A template is cut into the same pieces in another writing, so
the second parse finds the same blocks, and what was text for the first one is text again.
-/

namespace Pagewright.Template

open Text

/-- The same piece, a tag perhaps in its shortest writing. -/
inductive Piece.Reprints : Piece → Piece → Prop
  | same (p : Piece) : Reprints p p
  | print (tag : Tag) (source : List Char) : Reprints (.tag tag source) (.tag tag tag.print)

/-- Whether a piece is no tag with blanks in its braces. -/
def Piece.IsTight : Piece → Prop
  | .text _ => True
  | .tag _ source => ∀ c ∈ source, isBlank c = false

instance : DecidablePred Piece.IsTight
  | .text _ => .isTrue trivial
  | .tag _ source => List.decidableBAll (isBlank · = false) source

variable {ps qs : List Piece} {ns : List Node}

/-- A tag in its shortest writing is the same tag in another writing. -/
theorem Piece.Reprints.respells {p q : Piece} (h : p.Reprints q)
    (written : ∀ tag source, p = .tag tag source → tag.IsWritten source) : p.Respells q := by
  cases h with
  | same p =>
      cases p with
      | text s => exact .text s
      | tag tag source => exact .tag source (written tag source rfl)
  | print tag source => exact .tag source (isWritten_print (written tag source rfl).isKey)

theorem forall₂_respells (h : List.Forall₂ Piece.Reprints ps qs)
    (written : ∀ tag source, .tag tag source ∈ ps → tag.IsWritten source) :
    List.Forall₂ Piece.Respells ps qs := by
  induction h with
  | nil => exact .nil
  | cons first _ ih =>
      refine .cons (first.respells ?_) (ih fun tag source mem => written tag source (.tail _ mem))
      rintro tag source rfl
      exact written tag source List.mem_cons_self

/-- Without blanks in the tags nothing changes. -/
theorem eq_of_forall₂_reprints (h : List.Forall₂ Piece.Reprints ps qs)
    (written : ∀ tag source, .tag tag source ∈ ps → tag.IsWritten source)
    (tight : ∀ p ∈ ps, p.IsTight) : ps = qs := by
  induction h with
  | nil => rfl
  | cons first _ ih =>
      rw [ih (fun tag source mem => written tag source (.tail _ mem)) fun p mem => tight p (.tail _ mem)]
      cases first with
      | same => rfl
      | print tag source =>
          rw [← (written tag source List.mem_cons_self).eq_print (tight _ List.mem_cons_self)]

theorem forall₂_reprints_refl (ps : List Piece) : List.Forall₂ Piece.Reprints ps ps :=
  List.forall₂_same.2 fun p _ => .same p

theorem printAll_append (ns ms : List Node) : printAll (ns ++ ms) = printAll ns ++ printAll ms := by
  induction ns with
  | nil => rfl
  | cons n ns ih => rw [List.cons_append, printAll, printAll, ih, List.append_assoc]

/-- The nodes of a content are printed as a content with the same nodes. -/
theorem Content.exists_reprint {outer : Option (List Char)} (h : Content outer ps ns) :
    ∃ qs, List.Forall₂ Piece.Reprints ps qs ∧ Content outer qs ns ∧ sources qs = printAll ns := by
  induction h with
  | nil => exact ⟨[], .nil, .nil, rfl⟩
  | text s _ ih =>
      obtain ⟨qs, same, content, printed⟩ := ih
      exact ⟨_, .cons (.same (.text s)) same, .text s content, by
        simp [printed, Piece.source, printAll, Node.print]⟩
  | insert key raw source _ ih =>
      obtain ⟨qs, same, content, printed⟩ := ih
      exact ⟨_, .cons (.print (.insert key raw) source) same, .insert key raw _ content, by
        simp [printed, Piece.source, printAll, Node.print]⟩
  | @stray _ _ _ key source other _ ih =>
      obtain ⟨qs, same, content, printed⟩ := ih
      exact ⟨_, .cons (.same (.tag (.closeBlock key) source)) same, .stray source other content, by
        simp [printed, Piece.source, printAll, Node.print]⟩
  | @block _ _ _ _ _ key inverted source source' _ _ ihInside ih =>
      obtain ⟨qs, same, content, printed⟩ := ih
      obtain ⟨inner, sameInner, contentInner, printedInner⟩ := ihInside
      have tail := List.Forall₂.cons (Piece.Reprints.print (.closeBlock key) source') same
      exact ⟨_, .cons (.print (.openBlock key inverted) source) (List.rel_append sameInner tail),
        .block inverted _ _ contentInner content, by
          simp [printed, printedInner, Piece.source, printAll, Node.print]⟩

/-! ## the nodes of a template -/

/-- Behind a whole content no block is open. -/
theorem stack_eq_nil_of_content (h : Content none ps ns) : (State.start.pushAll ps).stack = [] := by
  rw [h.pushAll_eq rfl]
  rfl

/-- So the parser gives the nodes of the content. -/
theorem parse_of_content {t : List Char} (h : Content none (scan t) ns) : parse t = ns := by
  rw [parse_eq_of_stack_eq_nil (stack_eq_nil_of_content h), h.pushAll_eq rfl]
  simp [State.addAll, State.start]

/-- Where no block stays open, the template is a content. -/
theorem exists_content (h : (State.start.pushAll ps).stack = []) : ∃ ns, Content none ps ns := by
  have reads := reads_start ps
  generalize State.start.pushAll ps = st at h reads
  cases reads with
  | content content => exact ⟨_, content⟩
  | openBlock => cases h

/-- A block that stays open is text behind the nodes in front of it. -/
theorem parse_of_content_append {t : List Char} {front later : List Piece} {key source : List Char}
    {inverted : Bool} (scans : Scans t (front ++ .tag (.openBlock key inverted) source :: later))
    (content : Content none front ns) (unclosed : ¬ Closed key later) :
    parse t = ns ++ [.text (sources (.tag (.openBlock key inverted) source :: later))] := by
  have outermost : OutermostUnclosed (scan t) key (sources front).length := by
    rw [scans_iff.1 scans]
    exact ⟨front, inverted, source, later, rfl, rfl, stack_eq_nil_iff.1 (stack_eq_nil_of_content content),
      unclosed⟩
  have again : scan (sources front) = front := scans_iff.1 scans.of_append
  rw [parse_of_outermostUnclosed outermost]
  simp only [← scans.sources_eq, sources_append, List.take_left, List.drop_left]
  rw [parse_of_content (by rwa [again])]

/-- The printed nodes of a template are the template with some tags in their shortest writing, and have
the same nodes. -/
theorem exists_reprint (t : List Char) : ∃ qs, List.Forall₂ Piece.Reprints (scan t) qs ∧
    printAll (parse t) = sources qs ∧ parse (sources qs) = parse t := by
  have scans := scans_scan t
  by_cases empty : (State.start.pushAll (scan t)).stack = []
  · obtain ⟨ns, content⟩ := exists_content empty
    obtain ⟨qs, same, content', printed⟩ := content.exists_reprint
    have again := scans_iff.1 (scans.respell (forall₂_respells same scans.isWritten))
    rw [parse_of_content content]
    exact ⟨qs, same, printed.symm, parse_of_content (by rwa [again])⟩
  -- only the nodes in front of the unclosed block are printed anew; the rest is one text
  · obtain ⟨key, _, front, inverted, source, later, eq, -, none, unclosed⟩ := exists_outermostUnclosed empty
    rw [eq] at scans ⊢
    obtain ⟨ns, content⟩ := exists_content (stack_eq_nil_iff.2 none)
    obtain ⟨qs, same, content', printed⟩ := content.exists_reprint
    have whole := List.rel_append same
      (forall₂_reprints_refl (.tag (.openBlock key inverted) source :: later))
    have again := scans.respell (forall₂_respells whole scans.isWritten)
    refine ⟨_, whole, ?_, ?_⟩
    · rw [parse_of_content_append scans content unclosed, printAll_append, sources_append, printed]
      simp [printAll, Node.print]
    · rw [parse_of_content_append again content' unclosed, parse_of_content_append scans content unclosed]

/-- A template without blanks has none in the braces of a tag. -/
theorem isTight_of_mem_scan {t : List Char} (h : t.any isBlank = false) :
    ∀ p ∈ scan t, p.IsTight := by
  intro p mem
  cases p with
  | text s => trivial
  | tag tag source =>
      intro c hc
      have inside : c ∈ sources (scan t) := List.mem_flatMap.2 ⟨.tag tag source, mem, hc⟩
      rw [(scans_scan t).sources_eq] at inside
      simpa using List.any_eq_false.1 h c inside

/-- Parsing loses nothing: the printed nodes of a template have the same nodes again, and they are the
template itself if no tag in it has blanks. -/
theorem parse_printAll_parse (t : List Char) : parse (printAll (parse t)) = parse t ∧
    ((∀ p ∈ scan t, p.IsTight) → printAll (parse t) = t) := by
  obtain ⟨qs, same, printed, again⟩ := exists_reprint t
  refine ⟨by rw [printed, again], fun tight => ?_⟩
  rw [printed, ← eq_of_forall₂_reprints same (scans_scan t).isWritten tight, (scans_scan t).sources_eq]

/-- Loose braces, a closing tag that closes nothing and a block that stays open. -/
theorem parse_printAll_parse_loose :
    printAll (parse "\x7b\x7b\x7ba\x7d\x7d\x7d\x7d\x7b\x7b/b\x7d\x7d\x7b\x7b#c\x7d\x7dd".toList) =
      "\x7b\x7b\x7ba\x7d\x7d\x7d\x7d\x7b\x7b/b\x7d\x7d\x7b\x7b#c\x7d\x7dd".toList :=
  (parse_printAll_parse _).2 (isTight_of_mem_scan (by decide))

end Pagewright.Template
