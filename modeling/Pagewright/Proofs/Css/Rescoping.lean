import Pagewright.Proofs.Css.Confinement
import Pagewright.Proofs.Css.Stability

/-!
# Pagewright.Proofs.Css.Rescoping

Putting CSS into a scope in which it stands already.  The cutting of a selector list finds the selectors that
were joined, whatever brackets are open at the end, and takes each of them for one inside the scope unless it
turned to a sibling.  So the parts of a scoped tree are settled: each one becomes itself, and nothing is left
for another rule of the container (`scope_scope_sanitize`).
-/

namespace Pagewright.Css

open Text Nesting

variable {scope : List Char}

/-! ## lists that were joined -/

/-- What the cutting counts behind two texts: it goes on from what it counts behind the first. -/
theorem sightAfter_append (sight : Option Nat) (cs ds : List Char) :
    sightAfter sight (cs ++ ds) = sightAfter (sightAfter sight cs) ds :=
  List.foldl_append

/-- No comma is seen in two texts if none is seen in the first, nor in the second from where the first leaves
off. -/
theorem unseen_append {sight : Option Nat} {cs ds : List Char} :
    Unseen sight (cs ++ ds) ↔ Unseen sight cs ∧ Unseen (sightAfter sight cs) ds := by
  induction cs generalizing sight with
  | nil => exact (and_iff_right trivial).symm
  | cons c cs ih =>
      rw [List.cons_append, Unseen, Unseen, ih, and_assoc]
      rfl

/-- Where there is no comma, none is seen. -/
theorem unseen_of_no_comma {cs : List Char} (h : ',' ∉ cs) (sight : Option Nat) : Unseen sight cs := by
  induction cs generalizing sight with
  | nil => trivial
  | cons c cs ih =>
      rw [List.mem_cons, not_or] at h
      exact ⟨fun comma => absurd comma.symm h.1, ih h.2 _⟩

/-- A character that the cutting does not count. -/
theorem nextSight_of_isPlain {c : Char} (plain : brackets.IsPlain c) (noBrace : c ≠ '\x7b')
    (sight : Option Nat) : nextSight sight c = sight := by
  cases sight with
  | none => rfl
  | some depth =>
      have noOpening : ¬ (c = '(' ∨ c = '[') := by simpa [brackets] using plain.1
      have noClosing : ¬ (c = ')' ∨ c = ']') := by simpa [brackets] using plain.2.1
      rw [nextSight, if_neg noBrace, if_neg noOpening, if_neg noClosing]

/-- Plain characters without braces do not change what the cutting counts. -/
theorem sightAfter_of_isPlain {cs : List Char} (h : ∀ c ∈ cs, brackets.IsPlain c ∧ c ≠ '\x7b')
    (sight : Option Nat) : sightAfter sight cs = sight := by
  induction cs with
  | nil => rfl
  | cons c cs ih =>
      rw [List.forall_mem_cons] at h
      rw [sightAfter, List.foldl_cons, nextSight_of_isPlain h.1.1 h.1.2]
      exact ih h.2

/-- Blanks are such characters. -/
theorem sightAfter_of_blank {cs : List Char} (h : ∀ c ∈ cs, isBlank c = true) (sight : Option Nat) :
    sightAfter sight cs = sight :=
  sightAfter_of_isPlain (fun c hc => ⟨isPlain_brackets_of_isBlank (h c hc), ne_of_isBlank (h c hc) rfl⟩) sight

/-- Trimming takes away blanks only, so the cutting counts the same. -/
theorem sightAfter_trim (sight : Option Nat) (cs : List Char) :
    sightAfter sight (trim cs) = sightAfter sight cs := by
  obtain ⟨before, behind, eq, blank, blank'⟩ := exists_blanks_trim cs
  calc sightAfter sight (trim cs)
      = sightAfter sight (before ++ (trim cs ++ behind)) := by
        rw [sightAfter_append, sightAfter_of_blank blank, sightAfter_append, sightAfter_of_blank blank']
    _ = sightAfter sight cs := by rw [← eq]

/-- What is left of a text after trimming is a piece of it, reached with the same count. -/
theorem unseen_trim {sight : Option Nat} {cs : List Char} (h : Unseen sight cs) : Unseen sight (trim cs) := by
  obtain ⟨before, behind, eq, blank, -⟩ := exists_blanks_trim cs
  have whole : Unseen sight (before ++ (trim cs ++ behind)) := eq ▸ h
  rw [unseen_append, sightAfter_of_blank blank, unseen_append] at whole
  exact whole.2.1

/-- What the cutting leaves, said for each text and for each one that is not the last. -/
theorem isCutting_iff {parts : List (List Char)} :
    IsCutting parts ↔ (∀ part ∈ parts, Unseen (some 0) part) ∧
      parts.Pairwise fun part _ => sightAfter (some 0) part = some 0 := by
  induction parts with
  | nil => simp [IsCutting]
  | cons part parts ih =>
      rw [IsCutting, ih, List.forall_mem_cons, List.pairwise_cons]
      have more : (parts ≠ [] → sightAfter (some 0) part = some 0) ↔
          ∀ later ∈ parts, sightAfter (some 0) part = some 0 := by
        cases parts with
        | nil => simp
        | cons next parts => simp +contextual
      rw [more]
      constructor
      · rintro ⟨here, seen, later, closed⟩
        exact ⟨⟨here, later⟩, seen, closed⟩
      · rintro ⟨⟨here, later⟩, seen, closed⟩
        exact ⟨here, seen, later, closed⟩

/-- A text in which no comma is seen is cut at the comma behind it, if that one is seen. -/
theorem selectorsFrom_of_unseen {depth : Nat} {part : List Char} (noBrace : '\x7b' ∉ part)
    (unseen : Unseen (some depth) part) : selectorsFrom depth part = [part] ∧
      ∀ cs, sightAfter (some depth) part = some 0 →
        selectorsFrom depth (part ++ ',' :: cs) = part :: selectorsFrom 0 cs := by
  induction part generalizing depth with
  | nil =>
      refine ⟨rfl, fun cs seen => ?_⟩
      rw [List.nil_append, selectorsFrom, if_pos ⟨rfl, Option.some.inj seen⟩]
  | cons c part ih =>
      rw [List.mem_cons, not_or] at noBrace
      have stays : ¬ (c = ',' ∧ depth = 0) := fun cut => unseen.1 cut.1 (by rw [cut.2])
      have step {ds first : List Char} {later : List (List Char)}
          (rest : ∀ depth', nextSight (some depth) c = some depth' → selectorsFrom depth' ds = first :: later) :
          selectorsFrom depth (c :: ds) = (c :: first) :: later := by
        obtain ⟨depth', part, parts, eq, eq', sight⟩ := exists_selectorsFrom_cons stays ds
        rw [rest depth' (sight (Ne.symm noBrace.1))] at eq
        obtain ⟨rfl, rfl⟩ := List.cons.inj eq
        exact eq'
      refine ⟨step fun depth' sight => ?_, fun cs seen => step fun depth' sight => ?_⟩
      · have unseen' := unseen.2
        rw [sight] at unseen'
        exact (ih noBrace.2 unseen').1
      · have unseen' := unseen.2
        rw [sight] at unseen'
        rw [sightAfter, List.foldl_cons, sight] at seen
        exact (ih noBrace.2 unseen').2 cs seen

/-- Texts that the cutting leaves are found again when they are joined. -/
theorem selectors_join {parts : List (List Char)} (cutting : IsCutting parts)
    (each : ∀ part ∈ parts, trim part = part ∧ part ≠ [] ∧ '\x7b' ∉ part) :
    selectors (join [',', ' '] parts) = parts := by
  have some : ∀ part ∈ parts, (!part.isEmpty) = true := fun part h => by simpa using (each part h).2.1
  have cut : parts ≠ [] → (selectorsFrom 0 (join [',', ' '] parts)).map trim = parts := by
    intro ne
    clear some
    induction parts with
    | nil => exact absurd rfl ne
    | cons part parts ih =>
        obtain ⟨unseen, seen, cutting⟩ := cutting
        rw [List.forall_mem_cons] at each
        obtain ⟨⟨trimmed, -, noBrace⟩, each⟩ := each
        obtain ⟨alone, front⟩ := selectorsFrom_of_unseen noBrace unseen
        by_cases last : parts = []
        · subst last
          rw [join, alone, List.map_singleton, trimmed]
        · have blank : ∀ c ∈ [' '], isBlank c = true := List.all_eq_true.1 (by decide)
          have later := selectorsFrom_append_of_blank blank 0 (join [',', ' '] parts)
          rw [join_cons last, List.append_assoc, List.cons_append, front _ (seen last), List.map_cons,
            trimmed, later, ih cutting each last]
  by_cases ne : parts = []
  · subst ne
    rfl
  · rw [selectors, cut ne, List.filter_eq_self.2 some]

/-! ## lists in the scope -/

/-- A selector in the scope is one inside the scope, unless it turned to a sibling. -/
theorem scopeSelector_scopeSelector {selector : List Char} (straight : ¬ TurnsAside selector) :
    scopeSelector scope (scopeSelector scope selector) = scopeSelector scope selector := by
  by_cases within : withinScope scope selector = true
  · have same : scopeSelector scope selector = selector := if_pos within
    rw [same, same]
  · have put : scopeSelector scope selector = scope ++ ' ' :: selector := if_neg within
    have found : after? scope (scope ++ ' ' :: selector) = some (' ' :: selector) := after?_eq_some_iff.2 rfl
    have inside : withinScope scope (scope ++ ' ' :: selector) = true := by
      rw [withinScope, found]
      simp only
      split
      · next rest eq => exact absurd ⟨'+', rest, eq, .inl rfl⟩ straight
      · next rest eq => exact absurd ⟨'~', rest, eq, .inr rfl⟩ straight
      · rfl
    rw [put]
    exact if_pos inside

/-- The scope is within itself, so it does not get a second one. -/
theorem scopeSelector_scope (scope : List Char) : scopeSelector scope scope = scope := by
  have found : after? scope scope = some [] := after?_eq_some_iff.2 (List.append_nil scope).symm
  refine if_pos ?_
  rw [withinScope, found]

/-- A selector of a list is a trimmed piece of it. -/
theorem of_mem_selectors {selector header : List Char} (h : selector ∈ selectors header) :
    trim selector = selector ∧ selector ≠ [] ∧ ∀ c ∈ selector, c ∈ header := by
  obtain ⟨trimmed, some⟩ := List.mem_filter.1 h
  obtain ⟨part, hpart, rfl⟩ := List.mem_map.1 trimmed
  refine ⟨trim_trim part, by simpa using some, fun c hc => ?_⟩
  rw [← join_selectorsFrom 0 header]
  exact mem_join_of_mem hpart ((trim_isInfix part).subset hc)

/-- The selectors of a list without braces are what the cutting leaves: trimming them brings no comma into
sight. -/
theorem isCutting_selectors {header : List Char} (noBrace : '\x7b' ∉ header) : IsCutting (selectors header) := by
  obtain ⟨unseen, seen⟩ := isCutting_iff.1 (isCutting_selectorsFrom noBrace)
  refine isCutting_iff.2 ⟨fun selector h => ?_, .filter _ (.map _ (fun part _ same => ?_) seen)⟩
  · obtain ⟨part, hpart, rfl⟩ := List.mem_map.1 (List.mem_filter.1 h).1
    exact unseen_trim (unseen part hpart)
  · rw [sightAfter_trim, same]

/-- A list with selectors is scoped one by one; only a list without any becomes the scope. -/
theorem scopeSelectors_of_ne_nil {header : List Char} (some : selectors header ≠ []) :
    scopeSelectors scope header = join [',', ' '] ((selectors header).map (scopeSelector scope)) := by
  rw [scopeSelectors]
  split
  · next none => exact absurd none some
  · rfl

section

variable (h : IsScope scope) (neutral : sightAfter (some 0) scope = some 0)
include h

/-- A scoped selector is a selector again: it is trimmed, not empty and without braces. -/
theorem trim_scopeSelector {selector : List Char} (trimmed : trim selector = selector)
    (some : selector ≠ []) (noBrace : '\x7b' ∉ selector) :
    trim (scopeSelector scope selector) = scopeSelector scope selector ∧
      scopeSelector scope selector ≠ [] ∧ '\x7b' ∉ scopeSelector scope selector := by
  rw [scopeSelector]
  split
  · exact ⟨trimmed, some, noBrace⟩
  · have row := trim_append_eq_self [' '] h.trim_eq h.ne_nil trimmed some
    rw [List.append_assoc] at row
    refine ⟨row, by simp, ?_⟩
    rw [List.mem_append, List.mem_cons, not_or, not_or]
    exact ⟨fun m => (h.plain _ m).2 (by decide), by decide, noBrace⟩

include neutral

/-- The scope is cut into itself alone, as it has no comma. -/
theorem selectors_scope : selectors scope = [scope] := by
  have noBrace : '\x7b' ∉ scope := fun m => (h.plain _ m).2 (by decide)
  have cutting : IsCutting [scope] := ⟨unseen_of_no_comma h.no_comma _, fun _ => neutral, trivial⟩
  exact selectors_join cutting (List.forall_mem_singleton.2 ⟨h.trim_eq, h.ne_nil, noBrace⟩)

/-- The scope counts for nothing in the cutting, so putting it in front of each text leaves a cutting. -/
theorem isCutting_map_scopeSelector {parts : List (List Char)} (cutting : IsCutting parts) :
    IsCutting (parts.map (scopeSelector scope)) := by
  have gap : nextSight (some 0) ' ' = some 0 := by decide
  obtain ⟨unseen, seen⟩ := isCutting_iff.1 cutting
  refine isCutting_iff.2 ⟨?_, .map _ (fun part _ same => ?_) seen⟩
  · rw [List.forall_mem_map]
    intro part hpart
    rw [scopeSelector]
    split
    · exact unseen part hpart
    · rw [unseen_append, neutral, Unseen, gap]
      exact ⟨unseen_of_no_comma h.no_comma _, fun comma => absurd comma (by decide), unseen part hpart⟩
  · rw [scopeSelector]
    split
    · exact same
    · rw [sightAfter_append, neutral, sightAfter, List.foldl_cons, gap]
      exact same

/-- A list in the scope is cut into its selectors in the scope. -/
theorem selectors_scopeSelectors {header : List Char} (noBrace : '\x7b' ∉ header)
    (some : selectors header ≠ []) :
    selectors (scopeSelectors scope header) = (selectors header).map (scopeSelector scope) := by
  rw [scopeSelectors_of_ne_nil some]
  refine selectors_join (isCutting_map_scopeSelector h neutral (isCutting_selectors noBrace)) ?_
  rw [List.forall_mem_map]
  intro selector hselector
  obtain ⟨trimmed, ne, piece⟩ := of_mem_selectors hselector
  exact trim_scopeSelector h trimmed ne fun m => noBrace (piece _ m)

/-- The rule of the container itself keeps its selector. -/
theorem scopeSelectors_scope : scopeSelectors scope scope = scope := by
  have own := selectors_scope h neutral
  rw [scopeSelectors_of_ne_nil (by simp [own]), own, List.map_singleton, scopeSelector_scope]
  rfl

/-- A list in the scope stays as it is if none of its selectors turned to a sibling. -/
theorem scopeSelectors_scopeSelectors {header : List Char} (noBrace : '\x7b' ∉ header)
    (straight : ∀ selector ∈ selectors header, ¬ TurnsAside selector) :
    scopeSelectors scope (scopeSelectors scope header) = scopeSelectors scope header := by
  by_cases none : selectors header = []
  · have alone : scopeSelectors scope header = scope := by rw [scopeSelectors, none]
    rw [alone, scopeSelectors_scope h neutral]
  · have again := selectors_scopeSelectors h neutral noBrace none
    have same : (selectors header).map (scopeSelector scope ∘ scopeSelector scope) =
        (selectors header).map (scopeSelector scope) :=
      List.map_congr_left fun selector hs => scopeSelector_scopeSelector (straight selector hs)
    rw [scopeSelectors_of_ne_nil (by simpa [again] using none), again, List.map_map, same,
      ← scopeSelectors_of_ne_nil none]

end

/-! ## settled parts -/

/-- A part that becomes itself inside the scope and leaves nothing for a rule of the container. -/
def Part.IsSettled (scope : List Char) (p : Part) : Prop := p.confine scope = [p] ∧ p.isBare = false

/-- Whether no selector of a rule turns to a sibling. -/
def IsStraightRule (rule : List Char) : Prop :=
  ∀ selector ∈ selectors (splitBlock rule).1, ¬ TurnsAside selector

/-- A tree of settled parts becomes itself, and no rule of the container is added. -/
theorem confineTree_of_settled {ps : List Part} (settled : ∀ p ∈ ps, p.IsSettled scope) :
    confineTree scope ps = ps := by
  have inner : confineParts scope ps = ps ∧ bareTexts ps = [] := by
    induction ps with
    | nil => exact ⟨rfl, rfl⟩
    | cons p ps ih =>
        rw [List.forall_mem_cons] at settled
        obtain ⟨⟨same, none⟩, later⟩ := settled
        obtain ⟨same', none'⟩ := ih later
        refine ⟨by rw [confineParts, same, same']; rfl, ?_⟩
        cases p with
        | group => exact none'
        | item kind text => rw [bareTexts, none, none']; rfl
  rw [confineTree, barePart, inner.1, inner.2, List.append_nil]

/-- Each part of a confined row comes from one part of the row. -/
theorem exists_of_mem_confineParts {q : Part} {ps : List Part} (h : q ∈ confineParts scope ps) :
    ∃ p ∈ ps, q ∈ p.confine scope := by
  induction ps with
  | nil => cases h
  | cons p ps ih =>
      rw [confineParts] at h
      rcases List.mem_append.1 h with first | later
      · exact ⟨p, List.mem_cons_self, first⟩
      · obtain ⟨p', hp', mem⟩ := ih later
        exact ⟨p', List.mem_cons_of_mem p hp', mem⟩

section

variable (h : IsScope scope) (neutral : sightAfter (some 0) scope = some 0)
include h neutral

/-- A scoped rule is settled: its selectors are in the scope already, and its block is untouched. -/
theorem isSettled_scopeRule {rule : List Char} (whole : Item.IsWhole ⟨.block, rule⟩)
    (straight : IsStraightRule rule) : (Part.item .block (scopeRule scope rule)).IsSettled scope := by
  obtain ⟨header, body, eq, new, -, -⟩ := exists_brace_of_fits whole.fits
  have name := (isSound_scopeRule h whole).2
  simp only at eq
  subst eq
  rw [IsStraightRule, splitBlock_append new, selectors_trim new] at straight
  refine ⟨?_, rfl⟩
  rw [Part.confine, name]
  rw [scopeRule_append new, scopeRule_append (no_brace_scopeSelectors h new),
    scopeSelectors_scopeSelectors h neutral new straight]
  rfl

/-- The rule that collects the bare declarations has the scope as its selector, so it is settled too. -/
theorem isSettled_barePart (ps : List Part) : ∀ q ∈ barePart scope ps, q.IsSettled scope := by
  intro q hq
  rw [barePart] at hq
  split at hq
  · cases hq
  · rw [List.mem_singleton] at hq
    subst hq
    have noBrace : '\x7b' ∉ scope := fun m => (h.plain _ m).2 (by decide)
    have noName (rest : List Char) : (atRuleName (scope ++ rest)).isEmpty = true := by
      obtain ⟨dots, rfl⟩ := h.begins
      rfl
    refine ⟨?_, rfl⟩
    rw [Part.confine, List.append_assoc, noName, if_pos rfl, List.cons_append, scopeRule_append noBrace,
      scopeSelectors_scope h neutral]

/-- A tree in the scope is settled if its parts are, since the collected rule always is. -/
theorem forall_isSettled_confineTree {ps : List Part}
    (each : ∀ p ∈ ps, ∀ q ∈ p.confine scope, q.IsSettled scope) :
    ∀ q ∈ confineTree scope ps, q.IsSettled scope := by
  rw [confineTree, List.forall_mem_append]
  refine ⟨fun q hq => ?_, isSettled_barePart h neutral ps⟩
  obtain ⟨p, hp, mem⟩ := exists_of_mem_confineParts hq
  exact each p hp q mem

/-- What a sound part becomes inside the scope is settled there, if none of its selectors turned to a
sibling. -/
theorem Part.IsSound.isSettled_confine {p : Part} (sound : p.IsSound) (tidy : p.IsTidy)
    (straight : ∀ rule, p.HasRule rule → IsStraightRule rule) :
    ∀ q ∈ p.confine scope, q.IsSettled scope := by
  induction sound with
  | @item kind text whole single complete =>
      cases kind with
      | unclosed => exact absurd rfl complete
      | block =>
          rw [Part.confine, List.forall_mem_singleton]
          split
          · next plain => exact isSettled_scopeRule h neutral whole (straight _ (.here (by simpa using plain)))
          · next named => exact ⟨by rw [Part.confine, if_neg named], rfl⟩
      | statement | trailing =>
          cases tidy with
          | item complete plain =>
              have bare := isBare_of_plain complete (by decide) (plain (by decide))
              simp only [Part.confine, bare, if_true]
              exact List.forall_mem_nil _
  | @group header inner isHeader sound closed ih =>
      cases tidy with
      | group tidy =>
          have inside := forall_isSettled_confineTree h neutral fun p hp =>
            ih p hp (tidy p hp) fun rule has => straight rule (.inside hp has)
          rw [Part.confine, List.forall_mem_singleton, ← confineTree]
          refine ⟨?_, rfl⟩
          rw [Part.confine, ← confineTree, confineTree_of_settled inside]

/-- The tree of a sheet in the scope stays as it is. -/
theorem confineTree_confineTree {ps : List Part} (sound : ∀ p ∈ ps, p.IsSound) (tidy : ∀ p ∈ ps, p.IsTidy)
    (straight : ∀ p ∈ ps, ∀ rule, p.HasRule rule → IsStraightRule rule) :
    confineTree scope (confineTree scope ps) = confineTree scope ps :=
  confineTree_of_settled <| forall_isSettled_confineTree h neutral fun p hp =>
    (sound p hp).isSettled_confine h neutral (tidy p hp) (straight p hp)

end

/-- The text of a sound row becomes that of its scoped tree. -/
theorem scopeChars_join_printParts {ps : List Part} (sound : ∀ p ∈ ps, p.IsSound)
    (closed : ps.Pairwise fun p _ => p.IsClosed) :
    scopeChars scope (join ['\n'] (printParts ps)) = join ['\n'] (printParts (confineTree scope ps)) := by
  rw [scopeChars_eq, trim_join_printParts sound, parts_join_printParts sound closed]

/-! ## sheets without quotes -/

/-- Whether a text has no quote. -/
def IsUnquoted (cs : List Char) : Prop := ∀ c ∈ cs, c ≠ '\'' ∧ c ≠ '"'

instance (cs : List Char) : Decidable (IsUnquoted cs) := List.decidableBAll _ cs

/-- Without quotes, none is open behind a text. -/
theorem quoteAfter_of_isUnquoted {cs : List Char} (h : IsUnquoted cs) : quoteAfter none cs = none := by
  induction cs with
  | nil => rfl
  | cons c cs ih =>
      obtain ⟨⟨single, double⟩, later⟩ := List.forall_mem_cons.1 h
      rw [quoteAfter, List.foldl_cons, nextQuote_of_ne (.inl rfl) single double]
      exact ih later

/-- Without quotes, the members of a list are what the cutting leaves. -/
theorem membersFrom_of_isUnquoted {cs : List Char} (h : IsUnquoted cs) (depth : Nat) :
    membersFrom ⟨depth, none⟩ cs = selectorsFrom depth cs := by
  induction cs generalizing depth with
  | nil => rfl
  | cons c cs ih =>
      obtain ⟨⟨single, double⟩, later⟩ := List.forall_mem_cons.1 h
      have cut : (⟨depth, none⟩ : Nesting) = outside ∧ c = ',' ↔ c = ',' ∧ depth = 0 := by
        simp [outside, and_comm]
      have step : Nesting.next brackets ⟨depth, none⟩ c =
          ⟨if c = '(' ∨ c = '[' then depth + 1 else if c = ')' ∨ c = ']' then depth - 1 else depth, none⟩ := by
        simp [Nesting.next, brackets, nextQuote, single, double]
      have fresh : membersFrom outside cs = selectorsFrom 0 cs := ih later 0
      rw [membersFrom, selectorsFrom]
      simp only [cut, step, ih later]
      exact fresh ▸ rfl

/-- What holds of all texts of a part holds of its rules. -/
theorem Part.Holds.of_hasRule {q : List Char → Prop} {p : Part} (h : p.Holds q) {rule : List Char}
    (has : p.HasRule rule) : q rule := by
  induction has with
  | here =>
      cases h with
      | item here => exact here
  | inside mem _ ih =>
      cases h with
      | group _ inside => exact ih (inside _ mem)

/-- A part without quotes closes all that it opens. -/
theorem Part.Holds.closesQuotes {p : Part} (h : p.Holds IsUnquoted) : p.ClosesQuotes := by
  induction h with
  | item => exact .item
  | group here _ ih => exact .group (quoteAfter_of_isUnquoted here) ih

/-- Cleaning does not write quotes. -/
theorem holds_isUnquoted_keptSheet {settings : Settings} {raw : String} (h : IsUnquoted raw.toList) {kept : Part}
    (hkept : kept ∈ keptSheet settings raw) : kept.Holds IsUnquoted := by
  obtain ⟨p, hp, keeps⟩ := exists_of_mem_keptParts hkept
  refine ((holds_isInfix_of_mem_parts hp).of_kept? keeps).mono fun text piece c hc => ?_
  have mem := ((beforeComment_sublist _).trans (dropCommentsFrom_sublist 0 _)).subset (piece.subset hc)
  exact h c (List.mem_of_mem_take mem)

/-- What the cleaning keeps of a text without quotes is sound: nothing in it can reach beyond its part. -/
theorem isSound_keptSheet {settings : Settings} {raw : String} (unquoted : IsUnquoted raw.toList) :
    ∀ p ∈ keptSheet settings raw, p.IsSound := fun _ h =>
  (isCut_of_mem_keptSheet h).isSound (isTidy_of_mem_keptSheet h) (holds_isUnquoted_keptSheet unquoted h).closesQuotes

/-- The rules of a cleaned text without quotes are those of the kept parts, so a condition on the text can be
used part by part. -/
theorem isRule_sanitize_iff {settings : Settings} {raw : String} (unquoted : IsUnquoted raw.toList)
    {rule : List Char} :
    IsRule rule (sanitize settings raw).toList ↔ ∃ p ∈ keptSheet settings raw, p.HasRule rule := by
  rw [toList_sanitize]
  exact isRule_iff (isSound_keptSheet unquoted) (pairwise_keptSheet settings raw)

/-- A rule without quotes is straight if no member of its list turns aside. -/
theorem isStraightRule_of_members {rule : List Char} (whole : Item.IsWhole ⟨.block, rule⟩)
    (unquoted : IsUnquoted rule) (straight : ∀ selector ∈ members (prelude rule), ¬ TurnsAside selector) :
    IsStraightRule rule := by
  obtain ⟨header, body, eq, new, -, -⟩ := exists_brace_of_fits whole.fits
  simp only at eq
  subst eq
  have unquoted' : IsUnquoted header := fun c hc => unquoted c (List.mem_append_left _ hc)
  have front : prelude (header ++ '\x7b' :: (body ++ ['\x7d'])) = header := by
    rw [prelude, preludeFrom_append new, quoteAfter_of_isUnquoted unquoted', preludeFrom, if_pos ⟨rfl, rfl⟩,
      List.append_nil]
  rw [front, members, outside, membersFrom_of_isUnquoted unquoted'] at straight
  rw [IsStraightRule, splitBlock_append new, selectors_trim new]
  exact fun selector hs => straight selector (List.mem_filter.1 hs).1

/-- The selector of a container opens no bracket that it does not close. -/
theorem sightAfter_scope {settings : Settings}
    (plain : ∀ c ∈ settings.elementClassPrefix.toList, Container.isScopeChar c = true) (slug : String)
    (id : Value) : sightAfter (some 0) (Container.scope settings slug id).toList = some 0 := by
  have still {cs : List Char} (hcs : ∀ c ∈ cs, c ∈ ['.', '='] ∨ Container.isScopeChar c = true)
      (sight : Option Nat) : sightAfter sight cs = sight := by
    refine sightAfter_of_isPlain (fun c hc => ?_) sight
    rcases hcs c hc with stop | name
    · rcases List.mem_cons.1 stop with rfl | stop
      · exact ⟨⟨by decide, by decide, by decide, by decide⟩, by decide⟩
      · obtain rfl := List.mem_singleton.1 stop
        exact ⟨⟨by decide, by decide, by decide, by decide⟩, by decide⟩
    · exact ⟨isPlain_of_isScopeChar name, ne_of_isScopeChar name (by decide)⟩
  have opened : nextSight (some 0) '[' = some 1 := by decide
  have quoted : nextSight (some 1) '"' = some 1 := by decide
  have front : ∀ sight, sightAfter sight (scopeClass settings slug) = sight :=
    still fun c hc => (mem_scopeClass plain c hc).imp_left fun e => by simp [e]
  have name := still fun c hc => (mem_attributeName c hc).imp_left fun e => by simp [e]
  have value := still fun c hc => .inr (isScopeChar_of_mem_scopeText (s := id.display) c hc)
  rw [toList_scope, sightAfter_append, front, sightAfter, List.foldl_cons, opened, ← sightAfter,
    sightAfter_append, name, sightAfter, List.foldl_cons, quoted, ← sightAfter, sightAfter_append, value]
  rfl

/-- Putting CSS without quotes into the scope of a container once more changes nothing, if none of its selectors
begins with a sibling combinator. -/
theorem scope_scope_sanitize {settings : Settings}
    (plain : ∀ c ∈ settings.elementClassPrefix.toList, Container.isScopeChar c = true) (slug : String)
    (id : Value) {raw : String} (unquoted : IsUnquoted raw.toList)
    (straight : ∀ rule, IsRule rule (sanitize settings raw).toList →
      ∀ selector ∈ members (prelude rule), ¬ TurnsAside selector) :
    Css.scope (Css.scope (sanitize settings raw) (Container.scope settings slug id))
        (Container.scope settings slug id) =
      Css.scope (sanitize settings raw) (Container.scope settings slug id) := by
  have h := isScope_scope plain slug id
  have neutral := sightAfter_scope plain slug id
  generalize Container.scope settings slug id = scope at h neutral ⊢
  have tidy : ∀ p ∈ keptSheet settings raw, p.IsTidy := fun _ => isTidy_of_mem_keptSheet
  have sound : ∀ p ∈ keptSheet settings raw, p.IsSound := isSound_keptSheet unquoted
  have straight' : ∀ p ∈ keptSheet settings raw, ∀ rule, p.HasRule rule → IsStraightRule rule := by
    intro p hp rule has
    refine isStraightRule_of_members ((sound p hp).isWhole_of_hasRule has)
      ((holds_isUnquoted_keptSheet unquoted hp).of_hasRule has) ?_
    exact straight rule ((isRule_sanitize_iff unquoted).2 ⟨p, hp, has⟩)
  -- the scoped text is read as the confined tree, which is its own confined tree
  have confined := isSound_confineTree h sound tidy
  have first : scopeChars scope.toList (sanitize settings raw).toList =
      join ['\n'] (printParts (confineTree scope.toList (keptSheet settings raw))) := by
    rw [toList_sanitize, scopeChars_join_printParts sound (pairwise_keptSheet settings raw)]
  have again :
      scopeChars scope.toList (join ['\n'] (printParts (confineTree scope.toList (keptSheet settings raw)))) =
        join ['\n'] (printParts (confineTree scope.toList (keptSheet settings raw))) := by
    rw [scopeChars_join_printParts (fun q hq => (confined q hq).1)
      (List.pairwise_of_forall_mem_list fun q hq _ _ => (confined q hq).2),
      confineTree_confineTree h neutral sound tidy straight']
  rw [Css.scope, Css.scope, String.toList_ofList, first, again]

/-- A group with a list in which a comma stands in brackets, and a declaration without a selector. -/
theorem scope_scope_sanitize_group :
    Css.scope (Css.scope (sanitize {} "@media print\x7bp, :is(q, b)\x7btop:0\x7d\x7d left:0")
        (Container.scope {} "hero" (.int 1))) (Container.scope {} "hero" (.int 1)) =
      Css.scope (sanitize {} "@media print\x7bp, :is(q, b)\x7btop:0\x7d\x7d left:0")
        (Container.scope {} "hero" (.int 1)) := by
  have unquoted : IsUnquoted "@media print\x7bp, :is(q, b)\x7btop:0\x7d\x7d left:0".toList := by decide
  refine scope_scope_sanitize (List.all_eq_true.1 (by decide)) "hero" (.int 1) unquoted fun rule has => ?_
  have kept : keptSheet {} "@media print\x7bp, :is(q, b)\x7btop:0\x7d\x7d left:0" =
      [.group "@media print".toList [.item .block "p, :is(q, b)\x7btop:0\x7d".toList],
        .item .trailing "left:0".toList] := by
    rw [keptSheet_eq_partsUpTo (n := 50) rfl (by decide +kernel)]
    decide +kernel
  have only : rule = "p, :is(q, b)\x7btop:0\x7d".toList := by
    obtain ⟨p, hp, has⟩ := (isRule_sanitize_iff unquoted).1 has
    rw [kept] at hp
    rcases List.mem_cons.1 hp with rfl | hp
    · obtain ⟨q, hq, has⟩ := hasRule_group.1 has
      rw [List.mem_singleton.1 hq] at has
      exact (hasRule_item.1 has).2.1.symm
    · rw [List.mem_singleton.1 hp] at has
      cases (hasRule_item.1 has).1
  have cut : members (prelude rule) = ["p".toList, ":is(q, b)".toList] := by
    rw [only]
    decide
  rw [cut]
  intro selector hselector
  rintro ⟨c, rest, eq, aside⟩
  rcases List.mem_cons.1 hselector with rfl | hselector
  · obtain ⟨rfl, -⟩ := List.cons.inj eq
    rcases aside with aside | aside <;> cases aside
  · rw [List.mem_singleton.1 hselector] at eq
    obtain ⟨rfl, -⟩ := List.cons.inj eq
    rcases aside with aside | aside <;> cases aside

end Pagewright.Css
