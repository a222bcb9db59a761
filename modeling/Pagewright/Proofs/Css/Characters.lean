import Pagewright.Proofs.Css.Cleaning
import Pagewright.Proofs.Css.Scoped
import Pagewright.Proofs.Text.Free

/-!
# Pagewright.Proofs.Css.Characters

The characters of author CSS.  Cleaned CSS has no angle bracket.  Confining CSS to a scope adds nothing to its
characters but those of the scope and of the seams between its rules, so what neither of these has does not
appear.
-/

namespace Pagewright.Css

open Text

/-! ## cleaned sheets -/

/-- No tag begins in cleaned CSS. -/
theorem not_mem_sanitize (settings : Settings) (raw : String) : '<' ∉ (sanitize settings raw).toList := by
  intro mem
  obtain ⟨before, behind, eq⟩ := List.append_of_mem mem
  have refused : [Step.word ['<']] ∈ dangers := List.mem_of_getElem? (i := 8) rfl
  have reads : ReadsAll [Step.word ['<']] ('<' :: behind) := ⟨behind, .word rfl, trivial⟩
  have dangerous := isDangerous_iff.2 ⟨_, refused, '<' :: behind, ⟨before, eq.symm⟩, reads⟩
  rw [isDangerous_sanitize] at dangerous
  cases dangerous

/-! ## confined sheets -/

/-- The characters that stand between the pieces of a confined sheet. -/
def seamText : String := " ,\x7b\x7d\n"

variable {p : Char → Bool} {scope : List Char}

theorem free_join {separator : List Char} {texts : List (List Char)} (hs : ∀ c ∈ separator, p c = false)
    (h : ∀ text ∈ texts, ∀ c ∈ text, p c = false) : ∀ c ∈ join separator texts, p c = false := by
  induction texts with
  | nil => exact List.forall_mem_nil _
  | cons text texts ih =>
      obtain ⟨first, rest⟩ := List.forall_mem_cons.1 h
      by_cases last : texts = []
      · subst last
        exact first
      · rw [join_cons last, List.forall_mem_append, List.forall_mem_append]
        exact ⟨⟨first, hs⟩, ih rest⟩

section

variable (seams : IsFree p seamText) (hs : ∀ c ∈ scope, p c = false)
include seams hs

theorem free_scopeRule {rule : List Char} (h : ∀ c ∈ rule, p c = false) :
    ∀ c ∈ scopeRule scope rule, p c = false := by
  rw [scopeRule, List.forall_mem_append]
  refine ⟨fun c hc => ?_, fun c hc => h c ((List.dropWhile_sublist _).subset hc)⟩
  rcases mem_scopeSelectors hc with hc | hc | hc
  · exact hs c hc
  · exact seams c (by simp only [seamText, List.mem_cons] at hc ⊢; grind)
  · exact h c ((splitBlock_isInfix rule).1.subset hc)

theorem free_bareRule {ps : List Part} (h : ∀ q ∈ ps, q.Holds fun text => ∀ c ∈ text, p c = false) :
    ∀ text ∈ bareRule scope ps, ∀ c ∈ text, p c = false := by
  have bare : ∀ text ∈ bareTexts ps, ∀ c ∈ text, p c = false := by
    intro text mem
    obtain ⟨kind, mem, -⟩ := exists_of_mem_bareTexts mem
    cases h _ mem with
    | item here => exact here
  have blank : ∀ c ∈ [' '], p c = false := by simpa using seams ' ' (by decide)
  unfold bareRule
  split
  · exact List.forall_mem_nil _
  · rw [List.forall_mem_singleton, List.forall_mem_append, List.forall_mem_append, List.forall_mem_cons,
      List.forall_mem_singleton]
    exact ⟨⟨hs, seams _ (by decide), free_join blank bare⟩, seams _ (by decide)⟩

theorem free_scopedParts {ps : List Part}
    (each : ∀ q ∈ ps, ∀ text ∈ q.inScope scope, ∀ c ∈ text, p c = false)
    (h : ∀ q ∈ ps, q.Holds fun text => ∀ c ∈ text, p c = false) :
    ∀ c ∈ join ['\n'] (scopedParts scope ps ++ bareRule scope ps), p c = false := by
  have inner : ∀ text ∈ scopedParts scope ps, ∀ c ∈ text, p c = false := by
    clear h
    induction ps with
    | nil => exact List.forall_mem_nil _
    | cons q ps ih =>
        rw [List.forall_mem_cons] at each
        rw [scopedParts, List.forall_mem_append]
        exact ⟨each.1, ih each.2⟩
  have line : ∀ c ∈ ['\n'], p c = false := by simpa using seams '\n' (by decide)
  exact free_join line (List.forall_mem_append.2 ⟨inner, free_bareRule seams hs h⟩)

theorem free_inScope {q : Part} (h : q.Holds fun text => ∀ c ∈ text, p c = false) :
    ∀ text ∈ q.inScope scope, ∀ c ∈ text, p c = false := by
  induction h with
  | @item kind text here =>
      cases kind with
      | unclosed => exact List.forall_mem_nil _
      | block =>
          rw [Part.inScope, List.forall_mem_singleton]
          split
          · exact free_scopeRule seams hs here
          · exact here
      | statement | trailing =>
          simp only [Part.inScope]
          split
          · exact List.forall_mem_nil _
          · exact List.forall_mem_singleton.2 here
  | @group header inner here inside ih =>
      rw [Part.inScope, List.forall_mem_singleton, List.forall_mem_append, List.forall_mem_append,
        List.forall_mem_cons, List.forall_mem_singleton]
      exact ⟨⟨here, seams _ (by decide), free_scopedParts seams hs ih inside⟩, seams _ (by decide)⟩

end

/-- Confined CSS is free of whatever its text, its scope and the seams are free of. -/
theorem isFree_scope {css selector : String} (seams : IsFree p seamText) (hs : IsFree p selector)
    (h : IsFree p css) : IsFree p (Css.scope css selector) := by
  have holds : ∀ q ∈ parts (trim css.toList), q.Holds fun text => ∀ c ∈ text, p c = false :=
    fun q mem => (holds_isInfix_of_mem_parts mem).mono fun text piece c hc =>
      h c ((trim_isInfix _).subset (piece.subset hc))
  exact isFree_ofList.2 (free_scopedParts seams hs (fun q mem => free_inScope seams hs (holds q mem)) holds)

end Pagewright.Css
