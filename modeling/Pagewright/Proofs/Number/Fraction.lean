import Mathlib.Data.List.TakeWhile
import Pagewright.Proofs.Number.Numeral

/-!
# Pagewright.Proofs.Number.Fraction

Decimal fractions as texts.  `IsFraction` is their grammar, over the digits of one script or of all.  A
fraction with margins around it stands for a number (`exists_real?`), while a text with an information separator
in it stands for none (`real?_eq_none`): these four characters are blanks, but no margins.
-/

namespace Pagewright.Numeral

open Text

/-! ## the grammar -/

section

variable (p : Char → Bool)

/-- A row of digits, at least one. -/
def IsRow (ds : List Char) : Prop := ds ≠ [] ∧ ∀ c ∈ ds, p c = true

/-- Digits, with a point among or behind them, or behind a point. -/
inductive IsMagnitude : List Char → Prop
  | whole {ds : List Char} (row : IsRow p ds) : IsMagnitude ds
  | pointed {ds fs : List Char} (row : IsRow p ds) (part : ∀ c ∈ fs, p c = true) : IsMagnitude (ds ++ '.' :: fs)
  | part {fs : List Char} (row : IsRow p fs) : IsMagnitude ('.' :: fs)

/-- A letter with digits behind it, and perhaps a sign between them; or nothing. -/
inductive IsExponent : List Char → Prop
  | absent : IsExponent []
  | present {e : Char} {sign ds : List Char} (letter : e = 'e' ∨ e = 'E')
      (signed : sign = [] ∨ sign = ['-'] ∨ sign = ['+']) (row : IsRow p ds) : IsExponent (e :: (sign ++ ds))

/-- A magnitude with an exponent, and with a minus sign if it is negative. -/
inductive IsFraction : List Char → Prop
  | intro {sign magnitude exponent : List Char} (signed : sign = [] ∨ sign = ['-'])
      (digits : IsMagnitude p magnitude) (scaled : IsExponent p exponent) :
      IsFraction (sign ++ (magnitude ++ exponent))

end

section

variable {p q : Char → Bool} {f : Char → Char} {c : Char} {cs ds : List Char}

/-- The characters beside the digits. -/
def marks : List Char := ['-', '+', '.', 'e', 'E']

/-- A row of digits begins with one. -/
theorem IsRow.exists_cons (h : IsRow p ds) : ∃ c cs, ds = c :: cs ∧ p c = true := by
  obtain ⟨c, cs, rfl⟩ := List.exists_cons_of_ne_nil h.1
  exact ⟨c, cs, rfl, h.2 c (List.mem_cons_self ..)⟩

/-- A magnitude begins with a digit or with the point. -/
theorem IsMagnitude.exists_cons (h : IsMagnitude p cs) : ∃ c rest, cs = c :: rest ∧ (p c = true ∨ c = '.') := by
  cases h with
  | whole row =>
      obtain ⟨c, rest, rfl, digit⟩ := row.exists_cons
      exact ⟨c, rest, rfl, .inl digit⟩
  | pointed row part =>
      obtain ⟨c, rest, rfl, digit⟩ := row.exists_cons
      exact ⟨c, _, List.cons_append, .inl digit⟩
  | part row => exact ⟨'.', _, rfl, .inr rfl⟩

/-- The first character of a row stays the first one, whatever follows. -/
theorem IsRow.head (h : IsRow p ds) (rest : List Char) : ∀ c ∈ (ds ++ rest).head?, p c = true := by
  obtain ⟨c, more, rfl, digit⟩ := h.exists_cons
  intro d mem
  cases mem
  exact digit

/-- So does that of a magnitude, by which it is told from a sign. -/
theorem IsMagnitude.head (h : IsMagnitude p cs) (rest : List Char) :
    ∀ c ∈ (cs ++ rest).head?, p c = true ∨ c = '.' := by
  obtain ⟨c, more, rfl, first⟩ := h.exists_cons
  intro d mem
  cases mem
  exact first

/-- A fraction is not empty: its magnitude is not. -/
theorem IsFraction.ne_nil (h : IsFraction p cs) : cs ≠ [] := by
  cases h with
  | intro signed digits scaled =>
      obtain ⟨c, rest, rfl, -⟩ := digits.exists_cons
      simp

/-- A magnitude has no characters but digits and the point. -/
theorem IsMagnitude.mem (h : IsMagnitude p cs) (mem : c ∈ cs) : p c = true ∨ c ∈ marks := by
  cases h <;> grind [IsRow, marks]

/-- An exponent has no characters but digits, a letter and a sign. -/
theorem IsExponent.mem (h : IsExponent p cs) (mem : c ∈ cs) : p c = true ∨ c ∈ marks := by
  cases h <;> grind [IsRow, marks]

/-- A fraction is written with digits and marks. -/
theorem IsFraction.mem (h : IsFraction p cs) (mem : c ∈ cs) : p c = true ∨ c ∈ marks := by
  cases h with
  | intro signed digits scaled =>
      rcases List.mem_append.1 mem with mem | mem
      · grind [marks]
      · exact (List.mem_append.1 mem).elim digits.mem scaled.mem

/-! ### other digits -/

/-- A row of digits stays one when each digit is replaced by another. -/
theorem IsRow.map (digits : ∀ c, p c = true → q (f c) = true) (h : IsRow p ds) : IsRow q (ds.map f) := by
  exact ⟨by simpa using h.1, List.forall_mem_map.2 fun c mem => digits c (h.2 c mem)⟩

/-- So does a magnitude, if the point is left as it is. -/
theorem IsMagnitude.map (digits : ∀ c, p c = true → q (f c) = true) (same : ∀ c ∈ marks, f c = c)
    (h : IsMagnitude p cs) : IsMagnitude q (cs.map f) := by
  have point : f '.' = '.' := same '.' (by decide)
  cases h with
  | whole row => exact .whole (row.map digits)
  | pointed row part =>
      rw [List.map_append, List.map_cons, point]
      exact .pointed (row.map digits) (List.forall_mem_map.2 fun c mem => digits c (part c mem))
  | part row =>
      rw [List.map_cons, point]
      exact .part (row.map digits)

/-- So does an exponent, if its letter and its sign are left as they are. -/
theorem IsExponent.map (digits : ∀ c, p c = true → q (f c) = true) (same : ∀ c ∈ marks, f c = c)
    (h : IsExponent p cs) : IsExponent q (cs.map f) := by
  cases h with
  | absent => exact .absent
  | @present e sign ds letter signed row =>
      have letter' : f e = e := same e (by rcases letter with rfl | rfl <;> decide)
      have sign' : sign.map f = sign := by
        rcases signed with rfl | rfl | rfl
        · rfl
        · simp [same '-' (by decide)]
        · simp [same '+' (by decide)]
      rw [List.map_cons, List.map_append, letter', sign']
      exact .present letter signed (row.map digits)

/-- A fraction in other digits is a fraction. -/
theorem IsFraction.map (digits : ∀ c, p c = true → q (f c) = true) (same : ∀ c ∈ marks, f c = c)
    (h : IsFraction p cs) : IsFraction q (cs.map f) := by
  cases h with
  | @intro sign magnitude exponent signed digits' scaled =>
      have sign' : sign.map f = sign := by
        rcases signed with rfl | rfl
        · rfl
        · simp [same '-' (by decide)]
      rw [List.map_append, List.map_append, sign']
      exact .intro signed (digits'.map digits same) (scaled.map digits same)

end

/-! ## reading ASCII fractions -/

section

variable {cs ds : List Char}

/-- What begins with neither sign is read as it stands. -/
theorem sign_of_head (h : ∀ c ∈ cs.head?, c ≠ '-' ∧ c ≠ '+') : sign cs = (false, cs) := by
  unfold sign
  split
  · exact absurd rfl (h '-' rfl).1
  · exact absurd rfl (h '+' rfl).2
  · rfl

/-- A sign is told from what begins with a digit or a point. -/
theorem sign_append {p : Char → Bool} {sign' : List Char} (minus : p '-' = false) (plus : p '+' = false)
    (signed : sign' = [] ∨ sign' = ['-'] ∨ sign' = ['+']) (first : ∀ c ∈ cs.head?, p c = true ∨ c = '.') :
    (sign (sign' ++ cs)).2 = cs := by
  rcases signed with rfl | rfl | rfl
  · have plain : ∀ c ∈ cs.head?, c ≠ '-' ∧ c ≠ '+' := fun c mem => by grind
    rw [List.nil_append, sign_of_head plain]
  · rfl
  · rfl

/-- The reader of exponents takes whatever is one. -/
theorem exists_exponent? (h : IsExponent Char.isDigit cs) : ∃ n, exponent? cs = some n := by
  cases h with
  | absent => exact ⟨0, rfl⟩
  | @present e sign' ds letter signed row =>
      have letter' : (e == 'e' || e == 'E') = true := by rcases letter with rfl | rfl <;> rfl
      have digits : (!ds.isEmpty && ds.all Char.isDigit) = true := by
        simpa using ⟨row.1, row.2⟩
      have first : ∀ c ∈ ds.head?, c.isDigit = true ∨ c = '.' := fun c mem =>
        .inl (row.head [] c (by rwa [List.append_nil]))
      rw [exponent?, if_pos letter']
      simp only [sign_append rfl rfl signed first, digits, if_true]
      exact ⟨_, rfl⟩

/-- An exponent begins with its letter, so that it is told from the digits and the point before it. -/
theorem exponent_head (h : IsExponent Char.isDigit cs) : ∀ c ∈ cs.head?, c.isDigit = false ∧ c ≠ '.' := by
  cases h with
  | absent => nofun
  | present letter signed row =>
      intro c mem
      cases mem
      rcases letter with rfl | rfl <;> decide

/-- The reader takes a magnitude with an exponent; where the exponent begins, the digits of the magnitude end.
-/
theorem exists_fraction? {magnitude exponent : List Char} (h : IsMagnitude Char.isDigit magnitude)
    (h' : IsExponent Char.isDigit exponent) (negative : Bool) :
    ∃ x, fraction? negative (magnitude ++ exponent) = some x := by
  obtain ⟨n, read⟩ := exists_exponent? h'
  have stop : ∀ c ∈ exponent.head?, c.isDigit = false := fun c mem => (exponent_head h' c mem).1
  cases h with
  | whole row =>
      obtain ⟨taken, left⟩ := takeWhile_dropWhile_append row.2 stop
      unfold fraction?
      simp only [taken, left]
      split
      · next more => exact absurd rfl (exponent_head h' '.' rfl).2
      · simp [row.1, read]
  | @pointed ds fs row part =>
      have point : ∀ c ∈ ('.' :: (fs ++ exponent)).head?, c.isDigit = false := by simp
      obtain ⟨taken, left⟩ := takeWhile_dropWhile_append row.2 point
      obtain ⟨taken', left'⟩ := takeWhile_dropWhile_append part stop
      rw [List.append_assoc, List.cons_append]
      unfold fraction?
      simp only [taken, left, taken', left']
      simp [row.1, read]
  | part row =>
      obtain ⟨taken, left⟩ := takeWhile_dropWhile_append row.2 stop
      unfold fraction?
      simp [taken, left, row.1, read]

/-- The number of a signed fraction. -/
theorem exists_signed (h : IsFraction Char.isDigit cs) :
    ∃ x, (special? (sign cs).1 (sign cs).2 <|> fraction? (sign cs).1 (sign cs).2) = some x := by
  cases h with
  | @intro sign' magnitude exponent signed digits scaled =>
      have read := sign_append rfl rfl (signed.imp_right .inl) (digits.head exponent)
      obtain ⟨x, number⟩ := exists_fraction? digits scaled (sign (sign' ++ (magnitude ++ exponent))).1
      rw [read]
      cases special? (sign (sign' ++ (magnitude ++ exponent))).1 (magnitude ++ exponent) with
      | none => exact ⟨x, number⟩
      | some word => exact ⟨word, rfl⟩

end

/-! ## margins -/

section

variable {c : Char} {cs before behind : List Char}

/-- No mark is a blank. -/
theorem isBlank_of_mem_marks (h : c ∈ marks) : isBlank c = false := by
  have all : marks.all (!isBlank ·) = true := by decide +kernel
  simpa using List.all_eq_true.1 all c h

/-- Margins are taken off a text without blanks, and its digits are replaced by those of ASCII. -/
theorem normalize_append (margin : ∀ c ∈ before, isMargin c = true) (margin' : ∀ c ∈ behind, isMargin c = true)
    (solid : ∀ c ∈ cs, isBlank c = false) (ne : cs ≠ []) :
    normalize (before ++ (cs ++ behind)) = cs.map ascii := by
  have inner : ∀ c ∈ cs, isMargin c = false := fun c mem => by rw [isMargin, solid c mem, Bool.false_and]
  have first : (before ++ (cs ++ behind)).dropWhile isMargin = cs ++ behind := by
    refine (takeWhile_dropWhile_append margin fun c mem => ?_).2
    obtain ⟨d, rest, rfl⟩ := List.exists_cons_of_ne_nil ne
    cases mem
    exact inner _ (List.mem_cons_self ..)
  have last : (cs ++ behind).reverse.dropWhile isMargin = cs.reverse := by
    rw [List.reverse_append]
    refine (takeWhile_dropWhile_append (fun c mem => margin' c (List.mem_reverse.1 mem)) fun c mem => ?_).2
    exact inner c (List.mem_reverse.1 (List.mem_of_mem_head? mem))
  rw [normalize, first, last, List.reverse_reverse]
  rfl

/-- Marks are ASCII characters already. -/
theorem ascii_of_mem_marks (h : c ∈ marks) : ascii c = c := by
  have all : marks.all (fun c => ascii c == c) = true := by decide +kernel
  simpa using List.all_eq_true.1 all c h

/-- There are no blanks in a fraction. -/
theorem IsFraction.solid (h : IsFraction isDecimal cs) : ∀ c ∈ cs, isBlank c = false := by
  intro c mem
  rcases h.mem mem with digit | mark
  · exact isBlank_eq_false (by decide +kernel) digit
  · exact isBlank_of_mem_marks mark

/-- A fraction begins with a character that is no blank, where the margin in front of it ends. -/
theorem IsFraction.solid_head (h : IsFraction isDecimal cs) (rest : List Char) :
    ∀ c ∈ (cs ++ rest).head?, isBlank c = false := by
  obtain ⟨c, more, rfl⟩ := List.exists_cons_of_ne_nil h.ne_nil
  intro d mem
  cases mem
  exact h.solid c (List.mem_cons_self ..)

/-- A fraction in the digits of any script, with margins around it, stands for a number. -/
theorem exists_real? (h : IsFraction isDecimal cs) (margin : ∀ c ∈ before, isMargin c = true)
    (margin' : ∀ c ∈ behind, isMargin c = true) : ∃ x, real? (before ++ (cs ++ behind)) = some x := by
  have digits : ∀ c, isDecimal c = true → (ascii c).isDigit = true := fun c digit => (isDigit_ascii c).trans digit
  have written := h.map digits fun c => ascii_of_mem_marks
  have plain : '_' ∉ cs.map ascii := by
    intro mem
    rcases written.mem mem with digit | mark
    · exact absurd digit (by decide)
    · exact absurd mark (by decide)
  obtain ⟨x, number⟩ := exists_signed written
  exact ⟨x, by simpa only [real?, normalize_append margin margin' h.solid h.ne_nil, joinDigits_eq_some _ _ plain]⟩

/-! ## separators -/

/-- The information separators. -/
def separators : List Char := ['\x1c', '\x1d', '\x1e', '\x1f']

/-- The separators are four code points in a row. -/
theorem mem_separators_iff : c ∈ separators ↔ 28 ≤ c.toNat ∧ c.toNat ≤ 31 := by
  have each : c ∈ separators ↔ c.toNat = 28 ∨ c.toNat = 29 ∨ c.toNat = 30 ∨ c.toNat = 31 := by
    simp [separators, ← Char.toNat_inj]
  rw [each]
  omega

/-- All blanks but the separators are margins. -/
theorem isMargin_iff : isMargin c = true ↔ isBlank c = true ∧ c ∉ separators := by
  simp [isMargin, mem_separators_iff, imp_iff_not_or]

/-- A separator is a blank but no margin, which is why numbers behind one are not read. -/
theorem isMargin_of_mem_separators (h : c ∈ separators) : isMargin c = false := by
  have all : separators.all (!isMargin ·) = true := by decide +kernel
  simpa using List.all_eq_true.1 all c h

/-- A separator is an ASCII character already. -/
theorem ascii_of_mem_separators (h : c ∈ separators) : ascii c = c := by
  have all : separators.all (fun c => ascii c == c) = true := by decide +kernel
  simpa using List.all_eq_true.1 all c h

/-- Separators are neither digits nor marks, nor is there a small letter for one. -/
theorem plain_of_mem_separators (h : c ∈ separators) :
    c.isDigit = false ∧ c ∉ marks ∧ c ≠ '_' ∧ c.toLower = c := by
  have all : separators.all (fun c => !c.isDigit && !marks.contains c && c != '_' && c.toLower == c) = true := by
    decide
  simpa [and_assoc] using List.all_eq_true.1 all c h

/-- What is not to be skipped is still there after skipping. -/
theorem mem_dropWhile {p : Char → Bool} (mem : c ∈ cs) (h : p c = false) : c ∈ cs.dropWhile p := by
  rw [← List.takeWhile_append_dropWhile (p := p) (l := cs), List.mem_append] at mem
  refine mem.resolve_left fun mem => ?_
  rw [List.mem_takeWhile_imp mem] at h
  cases h

/-- No separator is taken away from a text. -/
theorem mem_normalize (h : c ∈ separators) (mem : c ∈ cs) : c ∈ normalize cs := by
  have inner := isMargin_of_mem_separators h
  have kept := mem_dropWhile (List.mem_reverse.2 (mem_dropWhile mem inner)) inner
  exact List.mem_map.2 ⟨c, List.mem_reverse.2 kept, ascii_of_mem_separators h⟩

/-- Joining groups of digits takes away the underscores only. -/
theorem mem_of_joinDigits {p : Char → Bool} {previous : Bool} {joined : List Char} (h : c ≠ '_') (mem : c ∈ cs)
    (joins : joinDigits p previous cs = some joined) : c ∈ joined := by
  fun_induction joinDigits p previous cs generalizing joined <;> grind [Option.map_eq_some_iff]

/-- Reading a sign takes away a mark at most. -/
theorem mem_sign (h : c ∉ marks) (mem : c ∈ cs) : c ∈ (sign cs).2 := by
  fun_cases sign cs <;> grind [marks]

/-- No word for infinity or for what is no number has a separator in it. -/
theorem special?_eq_none (h : c ∈ separators) (mem : c ∈ cs) (negative : Bool) : special? negative cs = none := by
  have small : c ∈ cs.map Char.toLower := List.mem_map.2 ⟨c, mem, (plain_of_mem_separators h).2.2.2⟩
  have other (word : List Char) (free : word.all (!separators.contains ·) = true) :
      (cs.map Char.toLower == word) = false := by
    rw [beq_eq_false_iff_ne]
    rintro rfl
    have := List.all_eq_true.1 free c small
    simp [h] at this
  unfold special?
  simp only [other _ (by decide : ['i', 'n', 'f'].all (!separators.contains ·) = true),
    other _ (by decide : ['i', 'n', 'f', 'i', 'n', 'i', 't', 'y'].all (!separators.contains ·) = true),
    other _ (by decide : ['n', 'a', 'n'].all (!separators.contains ·) = true)]
  rfl

/-- A separator stands in no exponent. -/
theorem exponent?_eq_none (h : c ∈ separators) (mem : c ∈ cs) : exponent? cs = none := by
  obtain ⟨noDigit, noMark, -, -⟩ := plain_of_mem_separators h
  cases cs with
  | nil => cases mem
  | cons e cs =>
      rw [exponent?]
      split
      · next letter =>
        have letter' : e ∈ marks := by
          rcases Bool.or_eq_true_iff.1 letter with same | same <;> exact eq_of_beq same ▸ by decide
        have behind : c ∈ cs := (List.mem_cons.1 mem).resolve_left fun same => noMark (same ▸ letter')
        have loose : (sign cs).2.all Char.isDigit = false :=
          List.all_eq_false.2 ⟨c, mem_sign noMark behind, by simp [noDigit]⟩
        simp [loose]
      · rfl

/-- A separator stands in no fraction, neither before its exponent nor in it. -/
theorem fraction?_eq_none (h : c ∈ separators) (mem : c ∈ cs) (negative : Bool) : fraction? negative cs = none := by
  obtain ⟨noDigit, noMark, -, -⟩ := plain_of_mem_separators h
  have kept := mem_dropWhile mem noDigit
  unfold fraction?
  dsimp only
  split
  · next more point =>
    rw [point] at kept
    have behind : c ∈ more := (List.mem_cons.1 kept).resolve_left fun same => noMark (same ▸ by decide)
    simp only [exponent?_eq_none h (mem_dropWhile behind noDigit), Option.map_none, ite_self]
  · simp only [exponent?_eq_none h kept, Option.map_none, ite_self]

/-- A text with a separator in it stands for no number. -/
theorem real?_eq_none (h : c ∈ separators) (mem : c ∈ cs) : real? cs = none := by
  obtain ⟨-, noMark, noJoint, -⟩ := plain_of_mem_separators h
  unfold real?
  cases joins : joinDigits Char.isDigit false (normalize cs) with
  | none => rfl
  | some joined =>
      have inside := mem_sign noMark (mem_of_joinDigits noJoint (mem_normalize h mem) joins)
      simp [special?_eq_none h inside, fraction?_eq_none h inside]

end

end Pagewright.Numeral
