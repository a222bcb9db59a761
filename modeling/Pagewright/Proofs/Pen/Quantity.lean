import Pagewright.Pen.Quantity
import Pagewright.Proofs.Number.Exact
import Pagewright.Proofs.Number.Fraction
import Pagewright.Value.Field

/-!
# Pagewright.Proofs.Pen.Quantity

The test for numbers and the conversions that it guards.  The test of a text accepts the fractions with blanks
around them, and no other text (`isNumericText_iff`).  Not every blank is a margin, so the reader of numbers
refuses some of these texts; what the test answers yes for is converted without fault.
-/

namespace Pagewright

open Numeral (IsRow IsMagnitude IsExponent IsFraction separators)

/-! ## conversions -/

/-- A datum as a number: integers are rounded to the closest number, texts are read. -/
def Value.toReal : Value → Except Fault Binary64
  | .bool b => .ok (if b then .ofNat 1 else .zero false)
  | .int i => (Binary64.ofInt? i).elim (.error .overflow) .ok
  | .float x => .ok x
  | .str s => (Numeral.real? s.toList).elim (.error .badValue) .ok
  | _ => .error .wrongKind

namespace Pen

open Text

/-! ## numeric texts -/

/-- A fraction in the digits of any script, with blanks around it. -/
inductive IsNumeric : List Char → Prop
  | intro {before fraction behind : List Char} (blank : ∀ c ∈ before, isBlank c = true)
      (written : IsFraction isDecimal fraction) (blank' : ∀ c ∈ behind, isBlank c = true) :
      IsNumeric (before ++ (fraction ++ behind))

section

variable {c : Char} {cs rest : List Char}

/-! ### what the test accepts is a fraction -/

theorem isRow_takeWhile {p : Char → Bool} (some : (cs.takeWhile p).isEmpty = false) : IsRow p (cs.takeWhile p) :=
  ⟨by simpa using some, fun _ mem => List.mem_takeWhile_imp mem⟩

/-- What is passed over as a magnitude is one. -/
theorem exists_of_afterMagnitude? (h : afterMagnitude? cs = some rest) :
    ∃ magnitude, cs = magnitude ++ rest ∧ IsMagnitude isDecimal magnitude := by
  have split (cs : List Char) : cs = cs.takeWhile isDecimal ++ cs.dropWhile isDecimal :=
    List.takeWhile_append_dropWhile.symm
  have digits (cs : List Char) : ∀ c ∈ cs.takeWhile isDecimal, isDecimal c = true :=
    fun _ mem => List.mem_takeWhile_imp mem
  unfold afterMagnitude? at h
  dsimp only at h
  split at h
  · next none =>
    have all : cs.dropWhile isDecimal = cs := by
      conv_rhs => rw [split cs, List.isEmpty_iff.1 none, List.nil_append]
    rw [all] at h
    split at h
    · next d more =>
      split at h
      · next digit =>
        have row : IsRow isDecimal (d :: more.takeWhile isDecimal) :=
          ⟨List.cons_ne_nil _ _, List.forall_mem_cons.2 ⟨digit, digits more⟩⟩
        cases h
        exact ⟨_, by rw [List.cons_append, List.cons_append, ← split], .part row⟩
      · cases h
    · cases h
  · next some =>
    have row := isRow_takeWhile (Bool.not_eq_true _ ▸ some)
    split at h
    · next more point =>
      cases h
      refine ⟨cs.takeWhile isDecimal ++ '.' :: more.takeWhile isDecimal, ?_, .pointed row (digits more)⟩
      rw [List.append_assoc, List.cons_append, ← split, ← point, ← split]
    · cases h
      exact ⟨_, split cs, .whole row⟩

/-- A sign is passed over where there is one. -/
theorem exists_sign (cs : List Char) :
    ∃ sign, (sign = [] ∨ sign = ['-'] ∨ sign = ['+']) ∧ cs = sign ++ (Numeral.sign cs).2 := by
  fun_cases Numeral.sign cs
  · exact ⟨['-'], by simp⟩
  · exact ⟨['+'], by simp⟩
  · exact ⟨[], by simp⟩

/-- An exponent is passed over only as a whole. -/
theorem exists_afterExponent (cs : List Char) :
    ∃ exponent, cs = exponent ++ afterExponent cs ∧ IsExponent isDecimal exponent := by
  have absent {rest : List Char} (h : rest = cs) :
      ∃ exponent, cs = exponent ++ rest ∧ IsExponent isDecimal exponent := ⟨[], h.symm, .absent⟩
  unfold afterExponent
  split
  · next e more =>
    split
    · next letter =>
      dsimp only
      split
      · exact absent rfl
      · next some =>
        obtain ⟨sign, signed, eq⟩ := exists_sign more
        have letter' : e = 'e' ∨ e = 'E' := by simpa using letter
        refine ⟨e :: (sign ++ _), ?_, .present letter' signed (isRow_takeWhile (Bool.not_eq_true _ ▸ some))⟩
        rw [List.cons_append, List.append_assoc, List.takeWhile_append_dropWhile, ← eq]
    · exact absent rfl
  · exact absent rfl

/-! ### the test accepts every fraction -/

/-- A magnitude is passed over as a whole if nothing behind it continues it. -/
theorem afterMagnitude?_append {magnitude : List Char} (h : IsMagnitude isDecimal magnitude)
    (stop : ∀ c ∈ rest.head?, isDecimal c = false ∧ c ≠ '.') : afterMagnitude? (magnitude ++ rest) = some rest := by
  have ends : ∀ c ∈ rest.head?, isDecimal c = false := fun c mem => (stop c mem).1
  unfold afterMagnitude?
  cases h with
  | whole row =>
      obtain ⟨taken, left⟩ := takeWhile_dropWhile_append row.2 ends
      simp only [taken, left, List.isEmpty_iff, row.1, if_false]
      split
      · exact absurd rfl (stop '.' rfl).2
      · rfl
  | @pointed ds fs row part =>
      have point : ∀ c ∈ ('.' :: (fs ++ rest)).head?, isDecimal c = false := by
        simp only [List.head?_cons, Option.mem_some_iff, forall_eq']
        decide
      obtain ⟨taken, left⟩ := takeWhile_dropWhile_append row.2 point
      obtain ⟨-, left'⟩ := takeWhile_dropWhile_append part ends
      simp [taken, left, left', row.1]
  | part row =>
      obtain ⟨d, fs, rfl, digit⟩ := row.exists_cons
      have point : isDecimal '.' = false := by decide
      obtain ⟨-, left⟩ := takeWhile_dropWhile_append (List.forall_mem_cons.1 row.2).2 ends
      simp [point, digit, left]

/-- So is an exponent. -/
theorem afterExponent_append {exponent : List Char} (h : IsExponent isDecimal exponent)
    (stop : ∀ c ∈ rest.head?, isDecimal c = false ∧ c ∉ Numeral.marks) : afterExponent (exponent ++ rest) = rest := by
  unfold afterExponent
  cases h with
  | absent =>
      cases rest with
      | nil => rfl
      | cons c rest =>
          have other := (stop c rfl).2
          simp only [Numeral.marks, List.mem_cons, not_or] at other
          simp [other]
  | @present e sign ds letter signed row =>
      have letter' : (e == 'e' || e == 'E') = true := by simpa using letter
      have unsigned : (Numeral.sign (sign ++ (ds ++ rest))).2 = ds ++ rest :=
        Numeral.sign_append (by decide) (by decide) signed fun c mem => .inl (row.head rest c mem)
      obtain ⟨taken, left⟩ := takeWhile_dropWhile_append row.2 fun c mem => (stop c mem).1
      rw [List.cons_append, List.append_assoc]
      simp only [letter', unsigned, taken, left, List.isEmpty_iff, row.1, if_true, if_false]

/-! ### the test -/

/-- Of the signs, the test for numbers takes a minus only. -/
theorem exists_minus (cs : List Char) :
    ∃ sign, (sign = [] ∨ sign = ['-']) ∧ cs = sign ++ (expect? '-' cs).getD cs := by
  cases cs with
  | nil => exact ⟨[], .inl rfl, rfl⟩
  | cons c cs =>
      by_cases minus : '-' = c
      · subst minus
        exact ⟨['-'], .inr rfl, rfl⟩
      · exact ⟨[], .inl rfl, by simp [expect?, minus]⟩

/-- A magnitude begins with no sign, so the sign in front of it is all that is passed over. -/
theorem getD_expect?_append {sign magnitude : List Char} (signed : sign = [] ∨ sign = ['-'])
    (h : IsMagnitude isDecimal magnitude) (rest : List Char) :
    (expect? '-' (sign ++ (magnitude ++ rest))).getD (sign ++ (magnitude ++ rest)) = magnitude ++ rest := by
  rcases signed with rfl | rfl
  · obtain ⟨c, more, rfl, first⟩ := h.exists_cons
    have other : '-' ≠ c := by
      rintro rfl
      revert first
      decide
    simp [expect?, other]
  · rfl

/-- No blank continues a fraction. -/
theorem stops_of_blank {behind : List Char} (blank : ∀ c ∈ behind, isBlank c = true) :
    ∀ c ∈ behind.head?, isDecimal c = false ∧ c ∉ Numeral.marks := by
  intro c mem
  have plain : (isDecimal c || Numeral.marks.contains c) = false :=
    eq_false_of_isBlank (p := fun c => isDecimal c || Numeral.marks.contains c) (by decide +kernel)
      (blank c (List.mem_of_mem_head? mem))
  simpa using plain

/-- What follows a magnitude, an exponent or a blank, does not continue it. -/
theorem stops_append {exponent behind : List Char} (h : IsExponent isDecimal exponent)
    (blank : ∀ c ∈ behind, isBlank c = true) :
    ∀ c ∈ (exponent ++ behind).head?, isDecimal c = false ∧ c ≠ '.' := by
  cases h with
  | absent =>
      intro c mem
      obtain ⟨noDigit, noMark⟩ := stops_of_blank blank c mem
      exact ⟨noDigit, fun point => noMark (point ▸ by decide)⟩
  | present letter signed row =>
      intro c mem
      cases mem
      rcases letter with rfl | rfl <;> decide

/-- A text passes the test just if it is a fraction with blanks around it. -/
theorem isNumericText_iff : isNumericText cs = true ↔ IsNumeric cs := by
  constructor
  · intro h
    unfold isNumericText at h
    dsimp only at h
    split at h
    · next rest after =>
      obtain ⟨sign, signed, eq⟩ := exists_minus (cs.dropWhile isBlank)
      obtain ⟨magnitude, eq', digits⟩ := exists_of_afterMagnitude? after
      obtain ⟨exponent, eq'', scaled⟩ := exists_afterExponent rest
      have split : cs = cs.takeWhile isBlank ++ ((sign ++ (magnitude ++ exponent)) ++ afterExponent rest) := by
        rw [List.append_assoc, List.append_assoc, ← eq'', ← eq', ← eq, List.takeWhile_append_dropWhile]
      rw [split]
      exact .intro (fun _ mem => List.mem_takeWhile_imp mem) (.intro signed digits scaled) (List.all_eq_true.1 h)
    · cases h
  · rintro @⟨before, fraction, behind, blank, written, blank'⟩
    rw [isNumericText, (takeWhile_dropWhile_append blank (written.solid_head behind)).2]
    cases written with
    | @intro sign magnitude exponent signed digits scaled =>
        rw [List.append_assoc, List.append_assoc, getD_expect?_append signed digits]
        simp only [afterMagnitude?_append digits (stops_append scaled blank'),
          afterExponent_append scaled (stops_of_blank blank')]
        exact List.all_eq_true.2 blank'

end

/-! ## conversions of what passes -/

section

variable {v : Value} {x : Binary64}

/-- A numeric text stands for a number just if the blanks around it are margins. -/
theorem exists_real?_iff {cs : List Char} (h : IsNumeric cs) :
    (∃ x, Numeral.real? cs = some x) ↔ ∀ c ∈ cs, c ∉ separators := by
  constructor
  · rintro ⟨x, read⟩ c mem separator
    rw [Numeral.real?_eq_none separator mem] at read
    cases read
  · intro free
    cases h with
    | intro blank written blank' =>
        simp only [List.mem_append, or_imp, forall_and] at free
        obtain ⟨free, -, free'⟩ := free
        exact Numeral.exists_real? written (fun c mem => Numeral.isMargin_iff.2 ⟨blank c mem, free c mem⟩)
          fun c mem => Numeral.isMargin_iff.2 ⟨blank' c mem, free' c mem⟩

/-- A text is converted exactly when the reader of numbers takes it. -/
theorem toReal_str_iff (s : String) :
    (∃ x, Value.toReal (.str s) = .ok x) ↔ ∃ x, Numeral.real? s.toList = some x := by
  cases read : Numeral.real? s.toList <;> simp [Value.toReal, read]

/-- The test has an answer unless a numeric text cannot be read. -/
theorem exists_number?_iff :
    (∃ answer, number? v = .ok answer) ↔
      ∀ s, v = .str s → isNumericText s.toList = true → ∃ x, Numeral.real? s.toList = some x := by
  cases v with
  | str s =>
      simp only [Value.str.injEq, forall_eq']
      unfold number?
      dsimp only
      split
      · next numeric => cases Numeral.real? s.toList <;> simp [numeric]
      · next other => simp [other]
  | _ => simp [number?]

/-- What passes the test is converted to the number that the test answers with, which is finite. -/
theorem toReal_of_number? (h : number? v = .ok (some x)) : v.toReal = .ok x ∧ x.isFinite = true := by
  cases v with
  | int i =>
      have read : Binary64.ofInt? i = some x := Except.ok.inj h
      exact ⟨by simp [Value.toReal, read], Binary64.isFinite_of_ofInt? read⟩
  | float y =>
      have finite := Option.ite_none_right_eq_some.1 (Except.ok.inj h)
      cases finite.2
      exact ⟨rfl, finite.1⟩
  | str s =>
      unfold number? at h
      dsimp only at h
      split at h
      · split at h
        · next y read =>
          have finite := Option.ite_none_right_eq_some.1 (Except.ok.inj h)
          cases finite.2
          exact ⟨by simp [Value.toReal, read], finite.1⟩
        · cases h
      · cases h
  | _ => cases h

/-- Formatting writes the number that a datum is converted to. -/
theorem quantityText_of_toReal (h : v.toReal = .ok x) : quantityText v = .ok (numberText x) := by
  cases v with
  | bool b =>
      cases h
      cases b <;> decide +kernel
  | int i =>
      change (Binary64.ofInt? i).elim (Except.error Fault.overflow) Except.ok = .ok x at h
      cases read : Binary64.ofInt? i <;> simp_all [quantityText]
  | float y =>
      cases h
      rfl
  | str s =>
      change (Numeral.real? s.toList).elim (Except.error Fault.badValue) Except.ok = .ok x at h
      cases read : Numeral.real? s.toList <;> simp_all [quantityText]
  | _ => cases h

/-- A finite number has an integer part. -/
theorem exists_toInteger (finite : x.isFinite = true) : ∃ i, (Value.float x).toInteger = .ok i := by
  cases x with
  | finite s m e h => exact ⟨_, rfl⟩
  | _ => cases finite

/-- The test for numbers and the conversions behind it.  A numeric text is converted, and the test has an answer
for it, just if there are no information separators among its blanks; for all other data the test has an answer.
What passes is converted to a finite number, which can be cut off to an integer, and is written without fault. -/
theorem number_test_and_conversions (s : String) (v : Value) :
    (isNumericText s.toList = true ↔ IsNumeric s.toList) ∧
      (isNumericText s.toList = true →
        ((∃ x, Value.toReal (.str s) = .ok x) ↔ ∀ c ∈ s.toList, c ∉ separators)) ∧
      ((∃ answer, number? v = .ok answer) ↔
        ∀ s, v = .str s → isNumericText s.toList = true → ∀ c ∈ s.toList, c ∉ separators) ∧
      ∀ x, number? v = .ok (some x) →
        v.toReal = .ok x ∧ x.isFinite = true ∧ (∃ i, (Value.float x).toInteger = .ok i) ∧
          ∃ text, quantityText v = .ok text := by
  refine ⟨isNumericText_iff, fun numeric => ?_, ?_, fun x h => ?_⟩
  · rw [toReal_str_iff, exists_real?_iff (isNumericText_iff.1 numeric)]
  · rw [exists_number?_iff]
    refine forall₃_congr fun s _ numeric => ?_
    rw [exists_real?_iff (isNumericText_iff.1 numeric)]
  · obtain ⟨converted, finite⟩ := toReal_of_number? h
    exact ⟨converted, finite, exists_toInteger finite, _, quantityText_of_toReal converted⟩

/-- A fraction in Arabic digits between a no-break space and a line feed. -/
def arabicText : String := "\u00a0-\u0663.5e1 \n"

/-- The fraction passes the test, and all three conversions agree on its number. -/
theorem number_test_and_conversions_arabic :
    IsNumeric arabicText.toList ∧ (∀ c ∈ arabicText.toList, c ∉ separators) ∧
      number? (.str arabicText) = .ok (some (.finite true 4925812092436480 (-47) (by decide))) ∧
      (Value.str arabicText).toReal = .ok (.finite true 4925812092436480 (-47) (by decide)) ∧
      (∃ i, (Value.float (.finite true 4925812092436480 (-47) (by decide))).toInteger = .ok i) ∧
      ∃ text, quantityText (.str arabicText) = .ok text := by
  obtain ⟨test, free, -, guarded⟩ := number_test_and_conversions arabicText (.str arabicText)
  have numeric : isNumericText arabicText.toList = true := by decide +kernel
  have answer : number? (.str arabicText) =
      .ok (some (.finite true 4925812092436480 (-47) (by decide))) := rfl
  obtain ⟨converted, -, cut, written⟩ := guarded _ answer
  exact ⟨test.1 numeric, (free numeric).1 ⟨_, converted⟩, answer, converted, cut, written⟩

/-- A text that passes the test for numeric texts and is no number for the reader behind it. -/
theorem number_test_fails_at_separator :
    isNumericText "\x1c5".toList = true ∧ (Value.str "\x1c5").toReal = .error .badValue ∧
      number? (.str "\x1c5") = .error .badValue :=
  ⟨by decide +kernel, rfl, rfl⟩

end

end Pen

end Pagewright
