import Pagewright.Proofs.Css.Selector

/-!
# Pagewright.Proofs.Css.Scoping

Selector lists put into a scope.  The cutting counts brackets in quotes, cuts in quotes as well, and its
text ends at the first brace, even a quoted one.  A member that begins at a place it sees is put behind
the scope, all others stay as they are.  So all members come out confined just if the list admits it: if
no member at a seen place turns to a sibling, and every other member is confined already
(`forall_isConfined_scopeSelectors_iff`).
-/

namespace Pagewright.Css

open Text Nesting

variable {scope : List Char}

/-! ## the cutting -/

/-- Texts that the cutting leaves: no comma in them is seen, and behind all but the last one is. -/
def IsCutting : List (List Char) → Prop
  | [] => True
  | part :: parts =>
    Unseen (some 0) part ∧ (parts ≠ [] → sightAfter (some 0) part = some 0) ∧ IsCutting parts

/-- The cutting leaves at least one text, if only an empty one. -/
theorem selectorsFrom_ne_nil (depth : Nat) (cs : List Char) : selectorsFrom depth cs ≠ [] := by
  unfold selectorsFrom
  split
  · exact List.cons_ne_nil _ _
  · split
    · exact List.cons_ne_nil _ _
    · simp only
      split <;> exact List.cons_ne_nil _ _

/-- A character at which nothing is cut belongs to the first text. -/
theorem exists_selectorsFrom_cons {depth : Nat} {c : Char} (h : ¬ (c = ',' ∧ depth = 0))
    (cs : List Char) : ∃ depth' part parts, selectorsFrom depth' cs = part :: parts ∧
      selectorsFrom depth (c :: cs) = (c :: part) :: parts ∧
      (c ≠ '\x7b' → nextSight (some depth) c = some depth') := by
  rw [selectorsFrom, if_neg h]
  simp only
  split
  · next none => exact absurd none (selectorsFrom_ne_nil _ _)
  · next part parts eq =>
    refine ⟨_, part, parts, eq, rfl, fun noBrace => ?_⟩
    rw [nextSight, if_neg noBrace]
    split
    · rfl
    · split <;> rfl

/-- Nothing is lost by the cutting but the commas. -/
theorem join_selectorsFrom (depth : Nat) (cs : List Char) :
    join [','] (selectorsFrom depth cs) = cs := by
  induction cs generalizing depth with
  | nil => rfl
  | cons c cs ih =>
      by_cases cut : c = ',' ∧ depth = 0
      · rw [selectorsFrom, if_pos cut, join_cons (selectorsFrom_ne_nil 0 cs), ih, cut.1]
        rfl
      · obtain ⟨depth', part, parts, eq, eq', -⟩ := exists_selectorsFrom_cons cut cs
        have whole := ih depth'
        rw [eq] at whole
        rw [eq']
        by_cases last : parts = []
        · subst last
          rw [join] at whole ⊢
          rw [whole]
        · rw [join_cons last] at whole ⊢
          rw [← whole]
          rfl

/-- The cutting sees the commas that it cuts at, and no others. -/
theorem isCutting_of_selectorsFrom {depth : Nat} {cs part : List Char} {parts : List (List Char)}
    (h : '\x7b' ∉ cs) (eq : selectorsFrom depth cs = part :: parts) :
    Unseen (some depth) part ∧ (parts ≠ [] → sightAfter (some depth) part = some 0) ∧
      IsCutting parts := by
  induction cs generalizing depth part parts with
  | nil =>
      cases eq
      exact ⟨trivial, fun ne => absurd rfl ne, trivial⟩
  | cons c cs ih =>
      rw [List.mem_cons, not_or] at h
      by_cases cut : c = ',' ∧ depth = 0
      · rw [selectorsFrom, if_pos cut] at eq
        obtain ⟨rfl, rfl⟩ := List.cons.inj eq
        obtain ⟨first, rest, later⟩ := List.exists_cons_of_ne_nil (selectorsFrom_ne_nil 0 cs)
        rw [later, cut.2]
        exact ⟨trivial, fun _ => rfl, ih h.2 later⟩
      · obtain ⟨depth', first, rest, later, eq', sight⟩ := exists_selectorsFrom_cons cut cs
        rw [eq'] at eq
        obtain ⟨rfl, rfl⟩ := List.cons.inj eq
        have inside := ih h.2 later
        rw [Unseen, sightAfter, List.foldl_cons, sight (Ne.symm h.1)]
        refine ⟨⟨fun comma seen => cut ⟨comma, Option.some.inj seen⟩, inside.1⟩, inside.2⟩

/-- A list without braces is cut from the sight that it begins with. -/
theorem isCutting_selectorsFrom {cs : List Char} (h : '\x7b' ∉ cs) : IsCutting (selectorsFrom 0 cs) := by
  obtain ⟨part, parts, eq⟩ := List.exists_cons_of_ne_nil (selectorsFrom_ne_nil 0 cs)
  rw [eq]
  exact isCutting_of_selectorsFrom h eq

/-- Blanks in front of a list go to its first text, where trimming drops them. -/
theorem selectorsFrom_append_of_blank {bs : List Char} (h : ∀ c ∈ bs, isBlank c = true) (depth : Nat)
    (cs : List Char) : (selectorsFrom depth (bs ++ cs)).map trim = (selectorsFrom depth cs).map trim := by
  induction bs with
  | nil => rfl
  | cons b bs ih =>
      rw [List.forall_mem_cons] at h
      have new {d : Char} (hd : isBlank d = false) : b ≠ d := ne_of_isBlank h.1 hd
      have noComma : ¬ (b = ',' ∧ depth = 0) := fun cut => new rfl cut.1
      obtain ⟨depth', part, parts, eq, eq', sight⟩ := exists_selectorsFrom_cons noComma (bs ++ cs)
      have same : depth = depth' := by
        have step := sight (new rfl)
        have opening : ¬ (b = '(' ∨ b = '[') := fun e => e.elim (new rfl) (new rfl)
        have closing : ¬ (b = ')' ∨ b = ']') := fun e => e.elim (new rfl) (new rfl)
        rw [nextSight, if_neg (new rfl), if_neg opening, if_neg closing] at step
        exact Option.some.inj step
      rw [List.cons_append, eq', List.map_cons, trim_cons_of_blank h.1, ← List.map_cons, ← eq, ← same]
      exact ih h.2

/-- Blanks are not cut. -/
theorem selectorsFrom_of_blank {bs : List Char} (h : ∀ c ∈ bs, isBlank c = true) (depth : Nat) :
    selectorsFrom depth bs = [bs] := by
  induction bs generalizing depth with
  | nil => rfl
  | cons b bs ih =>
      rw [List.forall_mem_cons] at h
      have noComma : ¬ (b = ',' ∧ depth = 0) := fun cut => ne_of_isBlank h.1 rfl cut.1
      obtain ⟨depth', part, parts, eq, eq', -⟩ := exists_selectorsFrom_cons noComma bs
      rw [ih h.2] at eq
      obtain ⟨rfl, rfl⟩ := List.cons.inj eq
      exact eq'

/-- Blanks behind a list go to its last text. -/
theorem exists_selectorsFrom_append {bs : List Char} (h : ∀ c ∈ bs, isBlank c = true) {cs : List Char}
    (noBrace : '\x7b' ∉ cs) (depth : Nat) : ∃ parts last, selectorsFrom depth cs = parts ++ [last] ∧
      selectorsFrom depth (cs ++ bs) = parts ++ [last ++ bs] := by
  induction cs generalizing depth with
  | nil => exact ⟨[], [], rfl, selectorsFrom_of_blank h depth⟩
  | cons c cs ih =>
      rw [List.mem_cons, not_or] at noBrace
      by_cases cut : c = ',' ∧ depth = 0
      · obtain ⟨parts, last, eq, eq'⟩ := ih noBrace.2 0
        refine ⟨[] :: parts, last, ?_, ?_⟩
        · rw [selectorsFrom, if_pos cut, eq, List.cons_append]
        · rw [List.cons_append, selectorsFrom, if_pos cut, eq', List.cons_append]
      · obtain ⟨depth₁, part₁, parts₁, eq₁, whole₁, sight₁⟩ := exists_selectorsFrom_cons cut cs
        obtain ⟨depth₂, part₂, parts₂, eq₂, whole₂, sight₂⟩ := exists_selectorsFrom_cons cut (cs ++ bs)
        have same : depth₁ = depth₂ :=
          Option.some.inj ((sight₁ (Ne.symm noBrace.1)).symm.trans (sight₂ (Ne.symm noBrace.1)))
        subst same
        obtain ⟨parts, last, eq, eq'⟩ := ih noBrace.2 depth₁
        rw [eq] at eq₁
        rw [eq'] at eq₂
        rw [List.cons_append, whole₁, whole₂]
        -- the character joins the first text, which may be the last one as well
        cases parts with
        | nil =>
            obtain ⟨rfl, rfl⟩ := List.cons.inj eq₁
            obtain ⟨rfl, rfl⟩ := List.cons.inj eq₂
            exact ⟨[], c :: last, rfl, rfl⟩
        | cons part parts =>
            obtain ⟨rfl, rfl⟩ := List.cons.inj eq₁
            obtain ⟨rfl, rfl⟩ := List.cons.inj eq₂
            exact ⟨(c :: part) :: parts, last, rfl, rfl⟩

/-- Blanks around a list do not matter to its selectors. -/
theorem selectors_trim {cs : List Char} (noBrace : '\x7b' ∉ cs) : selectors (trim cs) = selectors cs := by
  obtain ⟨before, behind, eq, blank, blank'⟩ := exists_blanks_trim cs
  have noBrace' : '\x7b' ∉ trim cs := fun m => noBrace (by rw [eq]; simp [m])
  obtain ⟨parts, last, whole, longer⟩ := exists_selectorsFrom_append blank' noBrace' 0
  have same : trim (last ++ behind) = trim last := trim_append_of_blank (List.forall_mem_nil _) blank' last
  have cut : (selectorsFrom 0 cs).map trim = (selectorsFrom 0 (trim cs)).map trim :=
    calc (selectorsFrom 0 cs).map trim
        = (selectorsFrom 0 (before ++ (trim cs ++ behind))).map trim := by rw [← eq]
      _ = (selectorsFrom 0 (trim cs ++ behind)).map trim := selectorsFrom_append_of_blank blank 0 _
      _ = (selectorsFrom 0 (trim cs)).map trim := by
          rw [longer, whole, List.map_append, List.map_append, List.map_singleton, List.map_singleton, same]
  rw [selectors, selectors, cut]

/-! ## one selector -/

/-- A trimmed selector hides what stands behind it from the trimming of the start. -/
theorem trimStart_append_of_trimmed {selector : List Char} (trimmed : trim selector = selector)
    (some : selector ≠ []) (rest : List Char) : trimStart (selector ++ rest) = selector ++ rest := by
  rw [← trimmed] at some ⊢
  exact trimStart_trim_append some rest

/-- What is taken for a selector inside the scope is one. -/
theorem isConfined_of_withinScope {selector : List Char} (trimmed : trim selector = selector)
    (within : withinScope scope selector = true) : IsConfined scope selector := by
  unfold withinScope at within
  split at within
  · cases within
  · next whole =>
    have eq := after?_eq_some_iff.1 whole
    rw [List.append_nil] at eq
    exact .inl eq
  · next c rest found =>
    have eq := after?_eq_some_iff.1 found
    rw [Bool.and_eq_true] at within
    obtain ⟨blank, straight⟩ := within
    refine .inr ⟨c, rest, eq, blank, fun allBlank => ?_, ?_⟩
    · -- the last character of a trimmed text is no blank
      have all : ∀ d ∈ c :: rest, isBlank d = true :=
        List.forall_mem_cons.2 ⟨blank, trimStart_eq_nil_iff.1 allBlank⟩
      have last : selector.getLast? = some ((c :: rest).getLast (List.cons_ne_nil _ _)) := by
        rw [eq, List.getLast?_append, List.getLast?_eq_some_getLast (List.cons_ne_nil _ _)]
        rfl
      have noBlank := (trim_eq_self_iff.1 trimmed).2 _ last
      rw [all _ (List.getLast_mem _)] at noBlank
      cases noBlank
    · rintro ⟨d, tail, hd, rfl | rfl⟩ <;> rw [hd] at straight <;> cases straight

/-- A trimmed selector has no blanks to lose at its start. -/
theorem trimStart_eq_self_of_trimmed {selector : List Char} (trimmed : trim selector = selector)
    (some : selector ≠ []) : trimStart selector = selector := by
  rw [← trimmed] at some ⊢
  exact trimStart_trim some

/-- A selector that is within the scope already begins with it, and turns nowhere. -/
theorem not_turnsAside_of_withinScope (h : IsScope scope) {selector : List Char}
    (trimmed : trim selector = selector) (some : selector ≠ [])
    (confined : IsConfined scope selector) : ¬ TurnsAside selector := by
  rintro ⟨c, tail, hc, aside⟩
  obtain ⟨dots, dot⟩ := h.begins
  have first : c = '.' := by
    rw [trimStart_eq_self_of_trimmed trimmed some] at hc
    rcases confined with eq | ⟨d, ds, eq, -⟩ <;> rw [hc, dot] at eq <;> exact (List.cons.inj eq).1
  subst first
  rcases aside with aside | aside <;> cases aside

/-- Behind a scope and a blank a selector is a descendant, unless it turns to a sibling. -/
theorem continues_iff_not_turnsAside {selector : List Char} (trimmed : trim selector = selector)
    (some : selector ≠ []) (rest : List Char) :
    Continues (' ' :: selector ++ rest) ↔ ¬ TurnsAside selector := by
  obtain ⟨d, ds, rfl⟩ := List.exists_cons_of_ne_nil some
  have here := trimStart_eq_self_of_trimmed trimmed some
  have front : trimStart (' ' :: (d :: ds) ++ rest) = d :: (ds ++ rest) := by
    rw [List.cons_append, trimStart_cons, if_pos (by decide),
      trimStart_append_of_trimmed trimmed some, List.cons_append]
  constructor
  · rintro continues ⟨c, tail, hc, aside⟩
    rw [here] at hc
    cases hc
    rcases continues d _ front with rfl | ⟨plus, tilde, -⟩
    · rcases aside with aside | aside <;> cases aside
    · exact aside.elim plus tilde
  · intro straight c tail hc
    rw [front, List.cons.injEq] at hc
    obtain ⟨rfl, -⟩ := hc
    refine .inr ⟨?_, ?_, ' ', _, rfl, by decide⟩
    · exact fun plus => straight ⟨d, ds, here, .inl plus⟩
    · exact fun tilde => straight ⟨d, ds, here, .inr tilde⟩

/-- A selector begins confined behind its comma, unless it turned to a sibling. -/
theorem beginsInside_scopeSelector (h : IsScope scope) {selector : List Char}
    (trimmed : trim selector = selector) (some : selector ≠ []) {rest : List Char}
    (apart : Apart (after brackets outside selector) rest) :
    BeginsInside scope (scopeSelector scope selector ++ rest) ↔ ¬ TurnsAside selector := by
  rw [scopeSelector]
  split
  · next within =>
    have confined := isConfined_of_withinScope trimmed within
    rw [beginsInside_append h apart]
    exact iff_of_true (beginsInside_of_isConfined_trim h (trimmed.symm ▸ confined))
      (not_turnsAside_of_withinScope h trimmed some confined)
  · rw [List.append_assoc, BeginsInside, h.trimStart_append,
      ← continues_iff_not_turnsAside trimmed some rest]
    constructor
    · rintro ⟨after, eq, continues⟩
      rw [← List.append_cancel_left eq] at continues
      exact continues
    · exact fun continues => ⟨_, rfl, continues⟩

/-- A scope has no comma: it would end the selector. -/
theorem IsScope.no_comma (h : IsScope scope) : ',' ∉ scope :=
  fun m => (h.plain _ m).2 (by decide)

/-- Blanks have no comma. -/
theorem no_comma_of_blank {bs : List Char} (h : ∀ c ∈ bs, isBlank c = true) : ',' ∉ bs :=
  fun m => absurd (h _ m) (by decide)

/-- A blank changes neither nesting nor sight, so it does not matter to the members behind it. -/
theorem follows_cons_of_isBlank {s : Nesting} (hs : IsQuote s.quote) {b : Char} (h : isBlank b = true)
    (cs : List Char) : Follows scope s none (b :: cs) ↔ Follows scope s none cs := by
  have noComma : b ≠ ',' := ne_of_isBlank h rfl
  rw [Follows, next_of_isPlain hs (isPlain_brackets_of_isBlank h)]
  simp only [noComma, false_implies, implies_true, true_and]
  rfl

/-- The scope in front of a selector does not matter to the members behind it. -/
theorem follows_scopeSelector (h : IsScope scope) {s : Nesting} (hs : IsQuote s.quote)
    (selector rest : List Char) :
    Follows scope s none (scopeSelector scope selector ++ rest) ↔
      Follows scope s none (selector ++ rest) := by
  rw [scopeSelector]
  split
  · rfl
  · rw [List.append_assoc, follows_append_of_no_comma h.no_comma, h.neutral hs, sightAfter_none,
      List.cons_append, follows_cons_of_isBlank hs (by decide)]

/-- In blanks no member begins. -/
theorem follows_of_blank {s : Nesting} {sight : Option Nat} {bs : List Char}
    (h : ∀ c ∈ bs, isBlank c = true) : Follows scope s sight bs := by
  rw [← List.append_nil bs, follows_append_of_no_comma (no_comma_of_blank h)]
  trivial

/-- Behind blanks alone nothing stands that a member could begin with. -/
theorem apart_of_blank {s : Nesting} {bs : List Char} (h : ∀ c ∈ bs, isBlank c = true) :
    Apart s bs where
  head c rest eq := .inl (h c (by simp [eq]))
  first _ c rest eq := by
    rw [trimStart_eq_nil_iff.2 h] at eq
    cases eq

/-- Blanks around a text do not matter to the members in it and behind it. -/
theorem follows_trim (h : IsScope scope) {s : Nesting} (hs : IsQuote s.quote) {part rest : List Char}
    (apart : Apart (after brackets s part) rest) :
    Follows scope s none (trim part ++ rest) ↔
      Follows scope s none part ∧ Follows scope (after brackets s part) none rest := by
  obtain ⟨before, behind, eq, blank, blank'⟩ := exists_blanks_trim part
  have same := after_trim (fun _ => isPlain_brackets_of_isBlank) hs part
  have inside : Follows scope s none part ↔ Follows scope s none (trim part) :=
    calc Follows scope s none part
        ↔ Follows scope s none (before ++ (trim part ++ behind)) := by rw [← eq]
      _ ↔ Follows scope s none (trim part ++ behind) := by
          rw [follows_append_of_no_comma (no_comma_of_blank blank), after_brackets_of_blank hs blank,
            sightAfter_none]
      _ ↔ Follows scope s none (trim part) := by
          rw [follows_append h (unseen_none _) (apart_of_blank blank')]
          exact and_iff_left (follows_of_blank blank')
  rw [← same] at apart ⊢
  rw [follows_append h (unseen_none _) apart, sightAfter_none, inside]

/-! ## whole lists -/

/-- What may stand behind the last text: nothing, or a brace in quotes. -/
def IsEnd (s : Nesting) (rest : List Char) : Prop :=
  rest = [] ∨ s.quote ≠ none ∧ ∃ tail, rest = '\x7b' :: tail

/-- The end of a list does not change how the members in front of it begin. -/
theorem IsEnd.apart {s : Nesting} {rest : List Char} (h : IsEnd s rest) : Apart s rest := by
  rcases h with rfl | ⟨inside, tail, rfl⟩
  · exact apart_of_blank (List.forall_mem_nil _)
  · refine ⟨fun c cs eq => .inr ?_, fun outer => absurd outer inside⟩
    obtain ⟨rfl, -⟩ := List.cons.inj eq
    decide

/-- Nothing is seen behind the last text. -/
theorem IsEnd.follows_iff {s : Nesting} {rest : List Char} (h : IsEnd s rest) (sight : Option Nat) :
    Follows scope s sight rest ↔ Follows scope s none rest := by
  rcases h with rfl | ⟨-, tail, rfl⟩
  · rfl
  · have blind : nextSight sight '\x7b' = none := by cases sight <;> rfl
    have noComma : '\x7b' ≠ ',' := by decide
    simp only [Follows, noComma, blind, false_implies, implies_true, true_and]
    rfl

/-- Texts with a comma in front of each. -/
def rejoined (parts : List (List Char)) : List Char := parts.flatMap (',' :: ·)

/-- The selectors among some texts, put into the scope, with a comma in front of each. -/
def rescoped (scope : List Char) (parts : List (List Char)) : List Char :=
  ((parts.map trim).filter (!·.isEmpty)).flatMap fun selector => [',', ' '] ++ scopeSelector scope selector

/-- A blank text among others is left out. -/
theorem rescoped_cons_of_eq_nil {part : List Char} (h : trim part = []) (parts : List (List Char)) :
    rescoped scope (part :: parts) = rescoped scope parts := by
  simp [rescoped, h]

/-- Any other text gets a comma and the scope in front. -/
theorem rescoped_cons_of_ne_nil {part : List Char} (h : trim part ≠ []) (parts : List (List Char)) :
    rescoped scope (part :: parts) =
      ',' :: ' ' :: (scopeSelector scope (trim part) ++ rescoped scope parts) := by
  simp [rescoped, h]

/-- A comma is neither a bracket nor a quote. -/
theorem next_comma {s : Nesting} (hs : IsQuote s.quote) : s.next brackets ',' = s :=
  next_of_isPlain hs ⟨by decide, by decide, by decide, by decide⟩

/-- The nesting behind rejoined texts goes on from the first of them, past a comma that does not count. -/
theorem after_rejoined_cons {s : Nesting} (hs : IsQuote s.quote) (part : List Char)
    (parts : List (List Char)) : after brackets s (rejoined (part :: parts)) =
      after brackets (after brackets s part) (rejoined parts) := by
  rw [rejoined, List.flatMap_cons, List.cons_append, after_cons, next_comma hs, after_append]
  rfl

/-- Rejoined texts begin with a comma, so they do not change how the member in front of them begins. -/
theorem apart_rejoined {s : Nesting} {parts : List (List Char)} {rest : List Char}
    (isEnd : IsEnd (after brackets s (rejoined parts)) rest) : Apart s (rejoined parts ++ rest) := by
  cases parts with
  | nil => exact isEnd.apart
  | cons part parts => exact apart_comma s _

/-- The same of scoped texts; if none is left, what follows is the end. -/
theorem apart_rescoped {s : Nesting} (hs : IsQuote s.quote) {parts : List (List Char)}
    {rest : List Char} (isEnd : IsEnd (after brackets s (rejoined parts)) rest) :
    Apart s (rescoped scope parts ++ rest) := by
  induction parts with
  | nil => exact isEnd.apart
  | cons part parts ih =>
      by_cases blank : trim part = []
      · rw [rescoped_cons_of_eq_nil blank]
        rw [after_rejoined_cons hs, after_brackets_of_blank hs (trim_eq_nil_iff.1 blank)] at isEnd
        exact ih isEnd
      · rw [rescoped_cons_of_ne_nil blank]
        exact apart_comma s _

/-- Blanks in front of a member do not matter to whether it is confined. -/
theorem beginsInside_cons_of_isBlank {c : Char} (h : isBlank c = true) (cs : List Char) :
    BeginsInside scope (c :: cs) ↔ BeginsInside scope cs := by
  rw [BeginsInside, BeginsInside, trimStart_cons, if_pos h]

/-- Without selectors, there are only blanks and commas. -/
theorem after_rejoined_of_rescoped {s : Nesting} (hs : IsQuote s.quote) {parts : List (List Char)}
    (h : rescoped scope parts = []) : after brackets s (rejoined parts) = s := by
  induction parts with
  | nil => rfl
  | cons part parts ih =>
      by_cases blank : trim part = []
      · rw [rescoped_cons_of_eq_nil blank] at h
        rw [after_rejoined_cons hs, after_brackets_of_blank hs (trim_eq_nil_iff.1 blank), ih h]
      · rw [rescoped_cons_of_ne_nil blank] at h
        cases h

/-- Nothing turns aside between a comma and the end of a list that has only blanks there. -/
theorem not_turnsAside_append_of_blank {part rest : List Char} (blank : ∀ c ∈ part, isBlank c = true)
    (apart : Apart (after brackets outside part) rest) : ¬ TurnsAside (part ++ rest) := by
  rw [turnsAside_append_of_blank blank]
  rw [after_brackets_of_blank (.inl rfl) blank] at apart
  rintro ⟨c, tail, hc, aside⟩
  obtain rfl := apart.first rfl c tail hc
  rcases aside with aside | aside <;> cases aside

/-- A comma that the cutting sees begins a member that must not turn aside. -/
theorem follows_rejoined_cons {s : Nesting} (hs : IsQuote s.quote) (part : List Char)
    (parts : List (List Char)) (rest : List Char) :
    Follows scope s (some 0) (rejoined (part :: parts) ++ rest) ↔
      (s = outside → ¬ TurnsAside (part ++ (rejoined parts ++ rest))) ∧
        Follows scope s (some 0) (part ++ (rejoined parts ++ rest)) := by
  have shape : rejoined (part :: parts) ++ rest = ',' :: (part ++ (rejoined parts ++ rest)) := by
    simp [rejoined]
  rw [shape, Follows, next_comma hs, BeginsWell, if_pos rfl]
  simp only [true_implies]
  rfl

/-- A comma that the cutting has passed begins a member that must be confined. -/
theorem follows_rescoped_cons (h : IsScope scope) {s : Nesting} (hs : IsQuote s.quote)
    {part : List Char} (some : trim part ≠ []) (parts : List (List Char)) {rest : List Char}
    (apart : Apart (after brackets s part) (rescoped scope parts ++ rest)) :
    Follows scope s none (rescoped scope (part :: parts) ++ rest) ↔
      (s = outside → ¬ TurnsAside (part ++ rest)) ∧ Follows scope s none part ∧
        Follows scope (after brackets s part) none (rescoped scope parts ++ rest) := by
  have straight (first : s = outside) :
      BeginsInside scope (' ' :: (scopeSelector scope (trim part) ++ (rescoped scope parts ++ rest))) ↔
        ¬ TurnsAside (part ++ rest) := by
    rw [← after_trim (fun _ => isPlain_brackets_of_isBlank) hs, first] at apart
    rw [turnsAside_trim some, beginsInside_cons_of_isBlank (by decide),
      beginsInside_scopeSelector h (trim_trim part) some apart]
  rw [rescoped_cons_of_ne_nil some, List.cons_append, List.cons_append, List.append_assoc, Follows,
    next_comma hs, nextSight, BeginsWell, if_neg (by simp), follows_cons_of_isBlank hs (by decide),
    follows_scopeSelector h hs, follows_trim h hs apart]
  refine and_congr_left fun _ => ?_
  simp only [true_implies]
  exact forall_congr' straight

/-- A list as it was is admitted just if all members come out confined. -/
theorem follows_rescoped_iff (h : IsScope scope) {s : Nesting} (hs : IsQuote s.quote)
    {parts : List (List Char)} (cutting : IsCutting parts) {rest : List Char}
    (isEnd : IsEnd (after brackets s (rejoined parts)) rest) :
    Follows scope s (some 0) (rejoined parts ++ rest) ↔
      Follows scope s none (rescoped scope parts ++ rest) := by
  induction parts generalizing s with
  | nil => exact isEnd.follows_iff _
  | cons part parts ih =>
      obtain ⟨unseen, seen, cutting⟩ := cutting
      have hs' : IsQuote (after brackets s part).quote := isQuote_after hs part
      rw [after_rejoined_cons hs] at isEnd
      have apart := apart_rejoined isEnd
      -- behind the part, the cutting sees the next comma, or there is no part left
      have behind : Follows scope s (some 0) (part ++ (rejoined parts ++ rest)) ↔
          Follows scope s none part ∧
            Follows scope (after brackets s part) none (rescoped scope parts ++ rest) := by
        rw [follows_append h unseen apart]
        by_cases last : parts = []
        · subst last
          exact and_congr_right fun _ => isEnd.follows_iff _
        · rw [seen last, ih hs' cutting isEnd]
      rw [follows_rejoined_cons hs, behind]
      by_cases blank : trim part = []
      -- a blank part is left out, and a member of blanks turns nowhere
      · have allBlank := trim_eq_nil_iff.1 blank
        rw [rescoped_cons_of_eq_nil blank, after_brackets_of_blank hs allBlank]
        simp only [and_iff_right_iff_imp, follows_of_blank allBlank, true_and]
        intro _ first
        rw [first] at apart
        exact not_turnsAside_append_of_blank allBlank apart
      · have turns : TurnsAside (part ++ (rejoined parts ++ rest)) ↔ TurnsAside (part ++ rest) := by
          rw [turnsAside_trim blank, turnsAside_trim blank]
        rw [follows_rescoped_cons h hs blank parts (apart_rescoped hs' isEnd), turns]

/-- A joined list with one more separator in front has a separator in front of each text. -/
theorem join_eq_flatMap (sep : List Char) {parts : List (List Char)} (some : parts ≠ []) :
    sep ++ join sep parts = parts.flatMap (sep ++ ·) := by
  induction parts with
  | nil => exact absurd rfl some
  | cons part parts ih =>
      by_cases last : parts = []
      · subst last
        simp [join]
      · rw [join_cons last, List.flatMap_cons, ← ih last]
        simp

/-- A list that was cut and rejoined is the list with a comma in front. -/
theorem rejoined_selectorsFrom (header : List Char) :
    rejoined (selectorsFrom 0 header) = ',' :: header := by
  have eq := join_eq_flatMap [','] (selectorsFrom_ne_nil 0 header)
  rw [join_selectorsFrom] at eq
  exact eq.symm

/-- A list without selectors becomes the scope alone. -/
theorem scopeSelectors_cases (scope header : List Char) :
    rescoped scope (selectorsFrom 0 header) = [] ∧ scopeSelectors scope header = scope ∨
      rescoped scope (selectorsFrom 0 header) = ',' :: ' ' :: scopeSelectors scope header := by
  rw [rescoped, ← selectors, scopeSelectors]
  split
  · next none =>
    rw [none]
    exact .inl ⟨rfl, rfl⟩
  · next some =>
    have some' : (selectors header).map (scopeSelector scope) ≠ [] := by simpa using some
    have eq := join_eq_flatMap [',', ' '] some'
    rw [List.flatMap_map] at eq
    exact .inr eq.symm

/-- The members of a list come out confined just if the list admits it. -/
theorem forall_isConfined_scopeSelectors_iff (h : IsScope scope) {header rest : List Char}
    (noBrace : '\x7b' ∉ header) (isEnd : IsEnd (after brackets outside header) rest) :
    (∀ member ∈ members (scopeSelectors scope header ++ rest), IsConfined scope member) ↔
      Admits scope (header ++ rest) := by
  have before : Follows scope outside (some 0) (rejoined (selectorsFrom 0 header) ++ rest) ↔
      Admits scope (header ++ rest) := by
    rw [rejoined_selectorsFrom, List.cons_append, Follows, Admits]
    simp only [true_implies]
    rfl
  have isEnd' : IsEnd (after brackets outside (rejoined (selectorsFrom 0 header))) rest := by
    rw [rejoined_selectorsFrom, after_cons]
    exact isEnd
  rw [forall_isConfined_iff h, ← before,
    follows_rescoped_iff h (.inl rfl) (isCutting_selectorsFrom noBrace) isEnd']
  rcases scopeSelectors_cases scope header with ⟨none, eq⟩ | eq
  · rw [after_rejoined_of_rescoped (.inl rfl) none] at isEnd'
    obtain rfl : rest = [] := isEnd'.elim id fun inside => absurd rfl inside.1
    have alone := h.trimStart_append []
    rw [List.append_nil] at alone
    rw [none, eq, List.append_nil]
    refine iff_of_true ⟨⟨[], by rw [alone, List.append_nil], continues_of_blank rfl⟩, ?_⟩ trivial
    rw [← List.append_nil scope, follows_append_of_no_comma h.no_comma]
    trivial
  · rw [eq, List.cons_append, List.cons_append, Follows, next_comma (.inl rfl), nextSight, BeginsWell,
      if_neg (by simp), beginsInside_cons_of_isBlank (by decide),
      follows_cons_of_isBlank (.inl rfl) (by decide)]
    simp only [true_implies]

end Pagewright.Css
