import Mathlib.Data.List.TakeWhile
import Pagewright.Text.Blank
import Pagewright.Text.Split

/-!
# Pagewright.Proofs.Text.Trim

What trimming takes away: the text is the trimmed text with blanks on both sides, the trimmed text
begins and ends with no blank, and so it is the only text of that kind.
-/

namespace Pagewright.Text

/-! ## blanks on one side -/

theorem trimStart_cons (c : Char) (cs : List Char) :
    trimStart (c :: cs) = if isBlank c then trimStart cs else c :: cs := by
  unfold trimStart
  rw [List.dropWhile_cons]

/-- Blanks in front do not matter. -/
theorem trimStart_append_of_blank {before : List Char} (h : ∀ c ∈ before, isBlank c = true)
    (cs : List Char) : trimStart (before ++ cs) = trimStart cs := by
  induction before with
  | nil => rfl
  | cons c before ih =>
      rw [List.cons_append, trimStart_cons, if_pos (h c (by simp))]
      exact ih fun d hd => h d (by simp [hd])

/-- Blanks in front of a text are the only thing that is cut off there. -/
theorem exists_blanks_trimStart (cs : List Char) :
    ∃ before, cs = before ++ trimStart cs ∧ ∀ c ∈ before, isBlank c = true := by
  refine ⟨cs.takeWhile isBlank, (List.takeWhile_append_dropWhile ..).symm, ?_⟩
  intro c hc
  exact List.mem_takeWhile_imp hc

/-- What is left begins with no blank. -/
theorem isBlank_head_trimStart {cs rest : List Char} {c : Char} (h : trimStart cs = c :: rest) :
    isBlank c = false := by
  induction cs with
  | nil => simp [trimStart] at h
  | cons d cs ih =>
      rw [trimStart_cons] at h
      by_cases hd : isBlank d = true
      · rw [if_pos hd] at h
        exact ih h
      · rw [if_neg hd] at h
        obtain ⟨rfl, -⟩ := List.cons.inj h
        simpa using hd

/-- The text behind one that is not blank is out of reach. -/
theorem trimStart_append_of_ne_nil {cs : List Char} (h : trimStart cs ≠ []) (ds : List Char) :
    trimStart (cs ++ ds) = trimStart cs ++ ds := by
  induction cs with
  | nil => simp [trimStart] at h
  | cons c cs ih =>
      rw [trimStart_cons] at h
      rw [List.cons_append, trimStart_cons, trimStart_cons]
      by_cases hc : isBlank c = true
      · rw [if_pos hc] at h ⊢
        rw [if_pos hc, ih h]
      · rw [if_neg hc, if_neg hc, List.cons_append]

/-- Nothing is left of blanks only. -/
theorem trimStart_eq_nil_iff {cs : List Char} :
    trimStart cs = [] ↔ ∀ c ∈ cs, isBlank c = true := by
  simp [trimStart, List.dropWhile_eq_nil_iff]

/-- Blanks behind do not matter. -/
theorem trimEnd_append_of_blank {behind : List Char} (h : ∀ c ∈ behind, isBlank c = true)
    (cs : List Char) : trimEnd (cs ++ behind) = trimEnd cs := by
  unfold trimEnd
  rw [List.reverse_append]
  have hrev : ∀ c ∈ behind.reverse, isBlank c = true := by simpa using h
  rw [show List.dropWhile isBlank (behind.reverse ++ cs.reverse) = List.dropWhile isBlank cs.reverse
    from trimStart_append_of_blank hrev cs.reverse]

/-- Blanks behind a text are the only thing that is cut off there. -/
theorem exists_blanks_trimEnd (cs : List Char) :
    ∃ behind, cs = trimEnd cs ++ behind ∧ ∀ c ∈ behind, isBlank c = true := by
  obtain ⟨front, eq, blank⟩ := exists_blanks_trimStart cs.reverse
  refine ⟨front.reverse, ?_, by simpa using blank⟩
  rw [← List.reverse_inj, List.reverse_append, List.reverse_reverse, trimEnd, List.reverse_reverse]
  exact eq

/-- A last character that is no blank protects all in front of it. -/
theorem trimEnd_concat {c : Char} (h : isBlank c = false) (cs : List Char) :
    trimEnd (cs ++ [c]) = cs ++ [c] := by
  unfold trimEnd
  simp [h]

/-! ## blanks on both sides -/

/-- A text is its trimmed text between blanks. -/
theorem exists_blanks_trim (cs : List Char) :
    ∃ before behind, cs = before ++ (trim cs ++ behind) ∧ (∀ c ∈ before, isBlank c = true) ∧
      ∀ c ∈ behind, isBlank c = true := by
  obtain ⟨before, eq, blank⟩ := exists_blanks_trimStart cs
  obtain ⟨behind, eq', blank'⟩ := exists_blanks_trimEnd (trimStart cs)
  exact ⟨before, behind, by rw [trim, ← eq', ← eq], blank, blank'⟩

/-- The trimmed text is a piece of the text. -/
theorem trim_isInfix (cs : List Char) : trim cs <:+: cs := by
  obtain ⟨before, behind, eq, -, -⟩ := exists_blanks_trim cs
  exact ⟨before, behind, by rw [List.append_assoc, ← eq]⟩

/-- Blanks on both sides do not matter. -/
theorem trim_append_of_blank {before behind : List Char} (h : ∀ c ∈ before, isBlank c = true)
    (h' : ∀ c ∈ behind, isBlank c = true) (cs : List Char) :
    trim (before ++ (cs ++ behind)) = trim cs := by
  unfold trim
  rw [trimStart_append_of_blank h]
  by_cases hcs : trimStart cs = []
  · have all := trimStart_eq_nil_iff.1 hcs
    have none : trimStart (cs ++ behind) = [] := by
      rw [trimStart_eq_nil_iff]
      intro c hc
      exact (List.mem_append.1 hc).elim (all c) (h' c)
    rw [hcs, none]
  · rw [trimStart_append_of_ne_nil hcs, trimEnd_append_of_blank h']

/-- Nor does one blank in front. -/
theorem trim_cons_of_blank {c : Char} (h : isBlank c = true) (cs : List Char) :
    trim (c :: cs) = trim cs := by
  have one : ∀ d ∈ [c], isBlank d = true := by simpa using h
  simpa using trim_append_of_blank one (List.forall_mem_nil _) cs

/-- Only blanks are trimmed to nothing. -/
theorem trim_eq_nil_iff {cs : List Char} : trim cs = [] ↔ ∀ c ∈ cs, isBlank c = true := by
  obtain ⟨before, behind, eq, blank, blank'⟩ := exists_blanks_trim cs
  constructor
  · intro h c hc
    rw [eq, h, List.nil_append] at hc
    exact (List.mem_append.1 hc).elim (blank c) (blank' c)
  · intro h
    have all := trim_append_of_blank h (List.forall_mem_nil _) []
    simpa [trim, trimStart, trimEnd] using all

/-- A trimmed text begins with no blank. -/
theorem isBlank_head_trim {cs rest : List Char} {c : Char} (h : trim cs = c :: rest) :
    isBlank c = false := by
  obtain ⟨behind, eq, -⟩ := exists_blanks_trimEnd (trimStart cs)
  rw [← trim, h, List.cons_append] at eq
  exact isBlank_head_trimStart eq

/-- The trimmed text of one that ends with no blank ends with the same character. -/
theorem trim_concat {c : Char} (h : isBlank c = false) (cs : List Char) :
    trim (cs ++ [c]) = trimStart cs ++ [c] := by
  unfold trim
  by_cases hcs : trimStart cs = []
  · rw [trimStart_append_of_blank (trimStart_eq_nil_iff.1 hcs), hcs, List.nil_append, trimStart_cons,
      if_neg (by simp [h])]
    exact trimEnd_concat h []
  · rw [trimStart_append_of_ne_nil hcs, trimEnd_concat h]

/-- A text that begins and ends with no blank is trimmed already. -/
theorem trim_eq_self_of_ends {c d : Char} {cs : List Char} (hc : isBlank c = false)
    (hd : isBlank d = false) : trim (c :: (cs ++ [d])) = c :: (cs ++ [d]) := by
  rw [← List.cons_append, trim_concat hd, trimStart_cons, if_neg (by simp [hc])]

/-- Trimming once is enough. -/
theorem trim_trim (cs : List Char) : trim (trim cs) = trim cs := by
  obtain ⟨before, behind, eq, blank, blank'⟩ := exists_blanks_trim cs
  have := trim_append_of_blank blank blank' (trim cs)
  rw [← eq] at this
  exact this.symm

/-! ## texts without blanks around them -/

/-- A trimmed text ends with no blank. -/
theorem isBlank_last_trim {cs rest : List Char} {c : Char} (h : trim cs = rest ++ [c]) :
    isBlank c = false := by
  have rev : (trimStart cs).reverse.dropWhile isBlank = c :: rest.reverse := by
    rw [← List.reverse_inj, List.reverse_cons, List.reverse_reverse]
    exact h
  exact isBlank_head_trimStart rev

/-- A text has no blanks around it if it neither begins nor ends with one. -/
theorem trim_eq_self_iff {cs : List Char} :
    trim cs = cs ↔ (∀ c ∈ cs.head?, isBlank c = false) ∧ ∀ c ∈ cs.getLast?, isBlank c = false := by
  constructor
  · intro h
    constructor
    · intro c hc
      obtain ⟨rest, rfl⟩ := List.head?_eq_some_iff.1 hc
      exact isBlank_head_trim h
    · intro c hc
      obtain ⟨rest, rfl⟩ := List.getLast?_eq_some_iff.1 hc
      exact isBlank_last_trim h
  · rintro ⟨first, last⟩
    obtain ⟨before, behind, eq, blank, blank'⟩ := exists_blanks_trim cs
    have noBefore : before = [] := by
      cases before with
      | nil => rfl
      | cons c before =>
          have := first c (by rw [eq]; rfl)
          rw [blank c (by simp)] at this
          cases this
    have noBehind : behind = [] := by
      rcases behind.eq_nil_or_concat with rfl | ⟨rest, c, rfl⟩
      · rfl
      · have := last c (by rw [eq]; simp)
        rw [blank' c (by simp)] at this
        cases this
    rw [noBefore, noBehind, List.nil_append, List.append_nil] at eq
    exact eq.symm

/-- Texts without blanks around them have none around them in a row either. -/
theorem trim_append_eq_self {cs ds : List Char} (sep : List Char) (hcs : trim cs = cs) (ne : cs ≠ [])
    (hds : trim ds = ds) (ne' : ds ≠ []) : trim (cs ++ sep ++ ds) = cs ++ sep ++ ds := by
  rw [trim_eq_self_iff] at hcs hds ⊢
  constructor
  · intro c hc
    obtain ⟨first, rest, rfl⟩ := List.exists_cons_of_ne_nil ne
    exact hcs.1 c hc
  · intro c hc
    have last := List.getLast?_eq_some_getLast ne'
    rw [List.getLast?_append, last, Option.some_or, ← last] at hc
    exact hds.2 c hc

/-- A joined text begins with its first part. -/
theorem exists_gap_join (sep part : List Char) (parts : List (List Char)) :
    ∃ gap, join sep (part :: parts) = part ++ (gap ++ join sep parts) := by
  cases parts with
  | nil => exact ⟨[], by simp [join]⟩
  | cons next parts => exact ⟨sep, by rw [join_cons (List.cons_ne_nil _ _), List.append_assoc]⟩

theorem join_ne_nil {sep : List Char} {parts : List (List Char)} (some : parts ≠ [])
    (ne : ∀ part ∈ parts, part ≠ []) : join sep parts ≠ [] := by
  cases parts with
  | nil => exact absurd rfl some
  | cons part parts =>
      by_cases last : parts = []
      · subst last
        exact ne part (by simp)
      · rw [join_cons last]
        simp [ne part (by simp)]

/-- Parts without blanks around them are joined to a text without blanks around it, whatever the separator. -/
theorem trim_join {sep : List Char} {parts : List (List Char)}
    (h : ∀ part ∈ parts, trim part = part ∧ part ≠ []) : trim (join sep parts) = join sep parts := by
  induction parts with
  | nil => rfl
  | cons part parts ih =>
      obtain ⟨trimmed, ne⟩ := h part (by simp)
      have h' : ∀ part ∈ parts, trim part = part ∧ part ≠ [] := fun p hp => h p (by simp [hp])
      by_cases last : parts = []
      · subst last
        exact trimmed
      · rw [join_cons last]
        exact trim_append_eq_self sep trimmed ne (ih h') (join_ne_nil last fun p hp => (h' p hp).2)

end Pagewright.Text
