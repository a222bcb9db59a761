import Pagewright.Proofs.Css.Scoping
import Pagewright.Proofs.Css.Tree

/-!
# Pagewright.Proofs.Css.Scoped

The tree of a sheet that was put into a scope.  A scope does not move a reader of braces, so a rule with
its selectors in the scope is read as one item again (`isSound_scopeRule`), and the confined text of a
tidy tree, one with nothing but blocks and plain declarations, is that of `confineTree`, which is sound.
-/

namespace Pagewright.Css

open Text Nesting

variable {scope : List Char}

/-! ## scopes between braces -/

/-- A text without closing braces and semicolons is held, as no item can end in it. -/
theorem held_of_no_end {cs : List Char} (h : ∀ c ∈ cs, c ≠ '\x7d' ∧ c ≠ ';') (s : Nesting) :
    Held s cs := by
  induction cs generalizing s with
  | nil => trivial
  | cons c cs ih =>
      rw [List.forall_mem_cons] at h
      exact ⟨fun ends => ends.2.elim (fun e => h.1.1 e.1) fun e => h.1.2 e.1, ih h.2 _⟩

/-- Without braces the depth stays. -/
theorem depth_after_of_no_brace {cs : List Char} (h : ∀ c ∈ cs, c ≠ '\x7b' ∧ c ≠ '\x7d')
    (s : Nesting) : (after braces s cs).depth = s.depth := by
  induction cs generalizing s with
  | nil => rfl
  | cons c cs ih =>
      rw [List.forall_mem_cons] at h
      rw [after_cons, ih h.2]
      simp [Nesting.next, braces, h.1]

/-- The selector of a container ends no item. -/
theorem IsScope.held (h : IsScope scope) (s : Nesting) : Held s scope := by
  refine held_of_no_end (fun c hc => ?_) s
  have plain := (h.plain c hc).2
  simp only [List.mem_cons, not_or] at plain
  exact ⟨plain.2.2.2.1, plain.2.1⟩

/-- It does not move a reader of braces either, as it closes its quotes and has no braces. -/
theorem IsScope.after_braces (h : IsScope scope) {s : Nesting} (hs : IsQuote s.quote) :
    after braces s scope = s := by
  have noBrace : ∀ c ∈ scope, c ≠ '\x7b' ∧ c ≠ '\x7d' := by
    intro c hc
    have plain := (h.plain c hc).2
    simp only [List.mem_cons, not_or] at plain
    exact ⟨plain.2.2.1, plain.2.2.2.1⟩
  have depth := depth_after_of_no_brace noBrace s
  have quote : (after braces s scope).quote = s.quote := by
    rw [quote_after, ← quote_after brackets, h.neutral hs]
  calc after braces s scope
      = ⟨(after braces s scope).depth, (after braces s scope).quote⟩ := rfl
    _ = s := by rw [depth, quote]

/-- The scope in front of a selector does not move a reader of braces. -/
theorem held_scopeSelector (h : IsScope scope) {s : Nesting} (hs : IsQuote s.quote)
    {selector : List Char} (held : Held s selector) :
    Held s (scopeSelector scope selector) ∧
      after braces s (scopeSelector scope selector) = after braces s selector := by
  rw [scopeSelector]
  split
  · exact ⟨held, rfl⟩
  · have blank : ∀ c ∈ [' '], isBlank c = true := List.all_eq_true.1 (by decide)
    have gap : Held s (' ' :: selector) := (held_of_blanks hs blank).2 held
    rw [held_append, after_append, h.after_braces hs]
    refine ⟨⟨h.held s, gap⟩, ?_⟩
    rw [after_cons, next_of_isPlain hs (isPlain_braces_of_isBlank (by decide))]

theorem isPlain_braces_comma : braces.IsPlain ',' :=
  ⟨by decide, by decide, by decide, by decide⟩

/-- A plain character that is no semicolon can be passed. -/
theorem held_cons_of_isPlain {s : Nesting} (hs : IsQuote s.quote) {c : Char} (plain : braces.IsPlain c)
    (other : c ≠ ';') {cs : List Char} : Held s (c :: cs) ↔ Held s cs := by
  have stays : ¬ EndsItem s c := by
    rintro ⟨-, ⟨rfl, -⟩ | ⟨rfl, -⟩⟩
    · exact plain.2.1 (by decide)
    · exact other rfl
  rw [Held, next_of_isPlain hs plain, and_iff_right stays]

/-- A list put into the scope moves a reader of braces as it did before. -/
theorem held_rescoped (h : IsScope scope) {s : Nesting} (hs : IsQuote s.quote)
    {parts : List (List Char)} (held : Held s (rejoined parts)) :
    Held s (rescoped scope parts) ∧
      after braces s (rescoped scope parts) = after braces s (rejoined parts) := by
  induction parts generalizing s with
  | nil => exact ⟨trivial, rfl⟩
  | cons part parts ih =>
      have comma : s.next braces ',' = s := next_of_isPlain hs isPlain_braces_comma
      have blank : s.next braces ' ' = s := next_of_isPlain hs (isPlain_braces_of_isBlank (by decide))
      have front : rejoined (part :: parts) = ',' :: (part ++ rejoined parts) := rfl
      rw [front, held_cons_of_isPlain hs isPlain_braces_comma (by decide), held_append] at held
      obtain ⟨held', same⟩ := held_trim hs held.1
      have later := ih (isQuote_after hs part) held.2
      rw [front, after_cons, comma, after_append]
      by_cases empty : trim part = []
      · have still : after braces s part = s := by rw [← same, empty, after_nil]
        rw [rescoped_cons_of_eq_nil empty, still]
        rwa [still] at later
      · obtain ⟨held'', same'⟩ := held_scopeSelector h hs held'
        rw [rescoped_cons_of_ne_nil empty, held_cons_of_isPlain hs isPlain_braces_comma (by decide),
          held_cons_of_isPlain hs (isPlain_braces_of_isBlank (by decide)) (by decide), held_append,
          after_cons, comma, after_cons, blank, after_append, same', same]
        exact ⟨⟨held'', later.1⟩, later.2⟩

/-- What stands in front of a block is still held once it is in the scope, and leads to the same place. -/
theorem held_scopeSelectors (h : IsScope scope) {header : List Char} (held : Held outside header) :
    Held outside (scopeSelectors scope header) ∧
      after braces outside (scopeSelectors scope header) = after braces outside header := by
  have held' : Held outside (rejoined (selectorsFrom 0 header)) := by
    rw [rejoined_selectorsFrom, held_cons_of_isPlain (.inl rfl) isPlain_braces_comma (by decide)]
    exact held
  obtain ⟨held'', same⟩ := held_rescoped h (.inl rfl) held'
  rw [rejoined_selectorsFrom] at same
  rcases scopeSelectors_cases scope header with ⟨none, eq⟩ | eq
  · rw [none] at same
    rw [eq, h.after_braces (.inl rfl)]
    exact ⟨h.held outside, same⟩
  · rw [eq] at held'' same
    rw [held_cons_of_isPlain (.inl rfl) isPlain_braces_comma (by decide),
      held_cons_of_isPlain (.inl rfl) (isPlain_braces_of_isBlank (by decide)) (by decide)] at held''
    exact ⟨held'', same⟩

/-- Every selector in the scope begins with the scope: it is put there unless it stands there already. -/
theorem exists_scopeSelector (scope selector : List Char) :
    ∃ rest, scopeSelector scope selector = scope ++ rest := by
  rw [scopeSelector]
  split
  · next within =>
    unfold withinScope at within
    split at within
    · cases within
    · next found => exact ⟨_, after?_eq_some_iff.1 found⟩
    · next found => exact ⟨_, after?_eq_some_iff.1 found⟩
  · exact ⟨_, rfl⟩

/-- Every list in the scope begins with the scope. -/
theorem exists_scopeSelectors (scope header : List Char) :
    ∃ rest, scopeSelectors scope header = scope ++ rest := by
  rw [scopeSelectors]
  split
  · exact ⟨[], (List.append_nil scope).symm⟩
  · next some =>
    obtain ⟨selector, rest, eq⟩ := List.exists_cons_of_ne_nil some
    obtain ⟨tail, eq'⟩ := exists_scopeSelector scope selector
    obtain ⟨gap, eq''⟩ := exists_gap_join [',', ' '] (scopeSelector scope selector)
      (rest.map (scopeSelector scope))
    rw [eq, List.map_cons, eq'', eq', List.append_assoc]
    exact ⟨_, rfl⟩

/-- The characters of a scoped list are those of the scope and the list, a comma and a blank. -/
theorem mem_scopeSelectors {c : Char} {header : List Char} (h : c ∈ scopeSelectors scope header) :
    c ∈ scope ∨ c ∈ [',', ' '] ∨ c ∈ header := by
  rcases scopeSelectors_cases scope header with ⟨-, eq⟩ | eq
  · exact .inl (eq ▸ h)
  · have m : c ∈ rescoped scope (selectorsFrom 0 header) := by
      rw [eq]
      simp [h]
    obtain ⟨selector, hselector, m⟩ := List.mem_flatMap.1 m
    obtain ⟨part, hpart, rfl⟩ := List.mem_map.1 (List.mem_filter.1 hselector).1
    have inside (m : c ∈ trim part) : c ∈ [',', ' '] ∨ c ∈ header := by
      have whole : c ∈ rejoined (selectorsFrom 0 header) :=
        List.mem_flatMap.2 ⟨part, hpart, List.mem_cons_of_mem _ ((trim_isInfix part).subset m)⟩
      rw [rejoined_selectorsFrom, List.mem_cons] at whole
      exact whole.imp (fun e => by simp [e]) id
    rcases List.mem_append.1 m with m | m
    · exact .inr (.inl m)
    · rw [scopeSelector] at m
      split at m
      · exact .inr (inside m)
      · rcases List.mem_append.1 m with m | m
        · exact .inl m
        · rcases List.mem_cons.1 m with rfl | m
          · exact .inr (.inl (by simp))
          · exact .inr (inside m)

/-- So scoping brings no brace in front of the block. -/
theorem no_brace_scopeSelectors (h : IsScope scope) {header : List Char} (new : '\x7b' ∉ header) :
    '\x7b' ∉ scopeSelectors scope header := by
  intro m
  rcases mem_scopeSelectors m with m | m | m
  · exact (h.plain _ m).2 (by decide)
  · exact absurd m (by decide)
  · exact new m

/-! ## rules in the scope -/

/-- A rule is scoped up to its first brace. -/
theorem scopeRule_append {header : List Char} (new : '\x7b' ∉ header) (rest : List Char) :
    scopeRule scope (header ++ '\x7b' :: rest) = scopeSelectors scope header ++ '\x7b' :: rest := by
  have trimmed : scopeSelectors scope (trim header) = scopeSelectors scope header := by
    rw [scopeSelectors, scopeSelectors, selectors_trim new]
  have other : ∀ c ∈ header, (c != '\x7b') = true := by
    intro c hc
    rw [bne_iff_ne]
    rintro rfl
    exact new hc
  rw [scopeRule, splitBlock_append new, trimmed, List.dropWhile_append_of_pos other,
    List.dropWhile_cons_of_neg (by simp)]

/-- A rule with its selectors in the scope is read as one item again. -/
theorem isSound_scopeRule (h : IsScope scope) {text : List Char} (whole : Item.IsWhole ⟨.block, text⟩) :
    (Part.item .block (scopeRule scope text)).IsSound ∧ atRuleName (scopeRule scope text) = [] := by
  obtain ⟨header, body, eq, new, held, one⟩ := exists_brace_of_fits whole.fits
  simp only at eq
  subst eq
  rw [held_append] at held
  rw [after_append] at one
  obtain ⟨held', same⟩ := held_scopeSelectors h held.1
  obtain ⟨rest, begins⟩ := exists_scopeSelectors scope header
  obtain ⟨dots, dot⟩ := h.begins
  rw [scopeRule_append new]
  -- a rule in the scope begins with a dot, so it has no name and is no group
  have shape : scopeSelectors scope header ++ '\x7b' :: (body ++ ['\x7d']) =
      '.' :: (dots ++ rest ++ '\x7b' :: body ++ ['\x7d']) := by
    rw [begins, dot]
    simp
  have noName : atRuleName (scopeSelectors scope header ++ '\x7b' :: (body ++ ['\x7d'])) = [] := by
    rw [shape]
    rfl
  refine ⟨.item ⟨?_, ?_, ?_, ?_⟩ ?_ ?_, noName⟩
  · refine ⟨scopeSelectors scope header ++ '\x7b' :: body, by simp, ?_, ?_⟩
    · rw [held_append, same]
      exact ⟨held', held.2⟩
    · rw [after_append, same, one]
  · simp only
    rw [shape]
    exact trim_eq_self_of_ends (by decide) (by decide)
  · simp
  · intro e
    cases e
  · rw [Item.isGroup, noName]
    rfl
  · intro e
    cases e

/-! ## the scoped tree -/

/-- The rule for the container itself. -/
def barePart (scope : List Char) (ps : List Part) : List Part :=
  match bareTexts ps with
  | [] => []
  | texts => [.item .block (scope ++ '\x7b' :: join [' '] texts ++ ['\x7d'])]

mutual

/-- What a part becomes inside the scope. -/
def Part.confine (scope : List Char) : Part → List Part
  | .group header inner => [.group header (confineParts scope inner ++ barePart scope inner)]
  | .item kind text =>
    match kind with
    | .unclosed => []
    | .block => [.item .block (if (atRuleName text).isEmpty then scopeRule scope text else text)]
    | _ => if (Part.item kind text).isBare then [] else [.item kind text]

/-- What parts become inside the scope, without the rule for the container itself. -/
def confineParts (scope : List Char) : List Part → List Part
  | [] => []
  | p :: ps => p.confine scope ++ confineParts scope ps

end

/-- What the parts of a sheet become inside the scope. -/
def confineTree (scope : List Char) (ps : List Part) : List Part :=
  confineParts scope ps ++ barePart scope ps

/-- The rule for the container is printed as the sheet has it. -/
theorem printParts_barePart (scope : List Char) (ps : List Part) :
    printParts (barePart scope ps) = bareRule scope ps := by
  rw [barePart, bareRule]
  cases bareTexts ps <;> rfl

mutual

/-- So is what becomes of one part, by induction on the part. -/
theorem Part.printParts_confine (scope : List Char) (p : Part) :
    printParts (p.confine scope) = p.inScope scope := by
  match p with
  | .group header inner =>
      rw [Part.confine, Part.inScope, printParts, Part.print, printParts_append, printParts_confineParts,
        printParts_barePart, printParts]
  | .item kind text =>
      cases kind with
      | unclosed => rfl
      | block => rfl
      | statement | trailing =>
          simp only [Part.confine, Part.inScope]
          split <;> rfl

/-- So is a row of them. -/
theorem printParts_confineParts (scope : List Char) (ps : List Part) :
    printParts (confineParts scope ps) = scopedParts scope ps := by
  match ps with
  | [] => rfl
  | p :: ps =>
      rw [confineParts, scopedParts, printParts_append, p.printParts_confine scope,
        printParts_confineParts scope ps]

end

/-- The confined text is that of the scoped tree. -/
theorem scopeChars_eq (scope css : List Char) :
    scopeChars scope css = join ['\n'] (printParts (confineTree scope (parts (trim css)))) := by
  rw [confineTree, printParts_append, printParts_confineParts, printParts_barePart]
  rfl

/-! ## tidy trees -/

/-- A part without unclosed items and without at-rules that are no blocks. -/
inductive Part.IsTidy : Part → Prop
  | item {kind : ItemKind} {text : List Char} (complete : kind ≠ .unclosed)
      (plain : kind ≠ .block → text.head? ≠ some '@') : IsTidy (.item kind text)
  | group {header : List Char} {inner : List Part} (tidy : ∀ p ∈ inner, p.IsTidy) :
      IsTidy (.group header inner)

/-- The bare texts are those of complete items. -/
theorem exists_of_mem_bareTexts {text : List Char} {ps : List Part} (h : text ∈ bareTexts ps) :
    ∃ kind, Part.item kind text ∈ ps ∧ kind ≠ .unclosed := by
  induction ps with
  | nil => cases h
  | cons p ps ih =>
      have later (h : text ∈ bareTexts ps) : ∃ kind, Part.item kind text ∈ p :: ps ∧ kind ≠ .unclosed := by
        obtain ⟨kind, mem, complete⟩ := ih h
        exact ⟨kind, List.mem_cons_of_mem p mem, complete⟩
      cases p with
      | group header inner => exact later h
      | item kind own =>
          rw [bareTexts] at h
          split at h
          · next bare =>
            rcases List.mem_cons.1 h with rfl | h
            · refine ⟨kind, List.mem_cons_self, ?_⟩
              rintro rfl
              cases bare
            · exact later h
          · exact later h

/-- The rule for the container is read as one item. -/
theorem isSound_barePart (h : IsScope scope) {ps : List Part} (sound : ∀ p ∈ ps, p.IsSound) :
    ∀ q ∈ barePart scope ps, q.IsSound ∧ q.IsClosed := by
  intro q hq
  rw [barePart] at hq
  split at hq
  · cases hq
  · rw [List.mem_singleton] at hq
    subst hq
    -- each bare text leaves the block open as it was, so the last brace closes the rule
    have texts : ∀ text ∈ bareTexts ps, Held ⟨1, none⟩ text ∧
        after braces ⟨1, none⟩ text = ⟨1, none⟩ := by
      intro text htext
      obtain ⟨kind, mem, complete⟩ := exists_of_mem_bareTexts htext
      cases sound _ mem with
      | item whole => exact held_inside whole.fits complete
    obtain ⟨dots, dot⟩ := h.begins
    refine ⟨.item ⟨?_, ?_, ?_, ?_⟩ ?_ ?_, trivial⟩
    · exact fits_block (h.held outside) (h.after_braces (.inl rfl))
        (held_join (.inl rfl) (List.all_eq_true.1 (by decide)) texts)
    · simp only
      rw [dot]
      exact trim_eq_self_of_ends (by decide) (by decide)
    · simp
    · intro e
      cases e
    · rw [dot]
      rfl
    · intro e
      cases e

/-- A confined tree is sound and closed if each of its parts is: the rule for the container is sound in any
case. -/
theorem forall_mem_confineTree (h : IsScope scope) {ps : List Part} (sound : ∀ p ∈ ps, p.IsSound)
    (each : ∀ p ∈ ps, ∀ q ∈ p.confine scope, q.IsSound ∧ q.IsClosed) :
    ∀ q ∈ confineTree scope ps, q.IsSound ∧ q.IsClosed := by
  have inner : ∀ q ∈ confineParts scope ps, q.IsSound ∧ q.IsClosed := by
    clear sound
    induction ps with
    | nil => exact List.forall_mem_nil _
    | cons p ps ih =>
        rw [List.forall_mem_cons] at each
        rw [confineParts, List.forall_mem_append]
        exact ⟨each.1, ih each.2⟩
  rw [confineTree, List.forall_mem_append]
  exact ⟨inner, isSound_barePart h sound⟩

/-- A complete item that is neither a block nor an at-rule is a bare declaration. -/
theorem isBare_of_plain {kind : ItemKind} {text : List Char} (complete : kind ≠ .unclosed)
    (noBlock : kind ≠ .block) (plain : text.head? ≠ some '@') : (Part.item kind text).isBare = true := by
  unfold Part.isBare
  cases kind with
  | unclosed => exact absurd rfl complete
  | block => exact absurd rfl noBlock
  | statement | trailing => split <;> simp_all

/-- A tidy sound part stays sound inside the scope, by induction on the part; a group also gets the rule for its
bare declarations. -/
theorem Part.IsSound.confine (h : IsScope scope) {p : Part} (sound : p.IsSound) (tidy : p.IsTidy) :
    ∀ q ∈ p.confine scope, q.IsSound ∧ q.IsClosed := by
  induction sound with
  | @item kind text whole single complete =>
      cases kind with
      | unclosed => exact absurd rfl complete
      | block =>
          rw [Part.confine, List.forall_mem_singleton]
          split
          · exact ⟨(isSound_scopeRule h whole).1, trivial⟩
          · exact ⟨.item whole single complete, trivial⟩
      | statement | trailing =>
          cases tidy with
          | item complete plain =>
              have bare := isBare_of_plain complete (by decide) (plain (by decide))
              simp only [Part.confine, bare, if_true]
              exact List.forall_mem_nil _
  | @group header inner isHeader sound closed ih =>
      cases tidy with
      | group tidy =>
          have inside := forall_mem_confineTree h sound fun p hp => ih p hp (tidy p hp)
          rw [Part.confine, List.forall_mem_singleton]
          refine ⟨.group isHeader (fun q hq => (inside q hq).1) ?_, trivial⟩
          exact List.pairwise_of_forall_mem_list fun q hq _ _ => (inside q hq).2

/-- A tidy tree that is read back from its text becomes one inside the scope. -/
theorem isSound_confineTree (h : IsScope scope) {ps : List Part} (sound : ∀ p ∈ ps, p.IsSound)
    (tidy : ∀ p ∈ ps, p.IsTidy) : ∀ q ∈ confineTree scope ps, q.IsSound ∧ q.IsClosed :=
  forall_mem_confineTree h sound fun p hp => (sound p hp).confine h (tidy p hp)

end Pagewright.Css
