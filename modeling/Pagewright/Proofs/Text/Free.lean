import Pagewright.Pen.Quantity
import Pagewright.Proofs.Text.Trim

/-!
# Pagewright.Proofs.Text.Free

Texts that are free of some characters.  A text made of such texts is free as well, and written numbers
are free of everything but digits, points, signs and the letter of their exponents.
-/

namespace Pagewright

/-- No character of a text is of some kind. -/
def IsFree (p : Char → Bool) (s : String) : Prop := ∀ c ∈ s.toList, p c = false

variable {p q : Char → Bool}

instance (s : String) : Decidable (IsFree p s) := List.decidableBAll (fun c => p c = false) s.toList

/-- A text without characters of some kind has none of a narrower kind. -/
theorem IsFree.mono {s : String} (h : IsFree p s) (weaker : ∀ c, q c = true → p c = true) :
    IsFree q s := by
  intro c hc
  cases hq : q c with
  | false => rfl
  | true => exact absurd (weaker c hq) (by simp [h c hc])

theorem IsFree.not_mem {s : String} {c : Char} (h : IsFree p s) (hc : p c = true) : c ∉ s.toList := by
  intro mem
  rw [h c mem] at hc
  cases hc

/-- What holds of none of some characters holds only of others. -/
theorem contains_eq_false {chars : List Char} (none : chars.any q = false) (c : Char)
    (hc : q c = true) : chars.contains c = false := by
  rw [← Bool.not_eq_true, List.contains_iff_mem]
  exact fun mem => absurd hc (List.any_eq_false.1 none c mem)

/-! ## texts put together -/

theorem isFree_empty : IsFree p "" := by
  simp [IsFree]

theorem isFree_ofList {cs : List Char} : IsFree p (String.ofList cs) ↔ ∀ c ∈ cs, p c = false := by
  rw [IsFree, String.toList_ofList]

/-- A literal text is checked character by character, without its encoding being decoded. -/
theorem isFree_of_eq_ofList {s : String} {cs : List Char} (literal : s = String.ofList cs)
    (h : cs.any p = false) : IsFree p s :=
  literal ▸ isFree_ofList.2 fun c hc => Bool.eq_false_iff.2 (List.any_eq_false.1 h c hc)

/-- Two texts are free if each of them is. -/
theorem isFree_append {s t : String} : IsFree p (s ++ t) ↔ IsFree p s ∧ IsFree p t := by
  simp only [IsFree, String.toList_append, List.mem_append, or_imp, forall_and]

theorem IsFree.append {s t : String} (hs : IsFree p s) (ht : IsFree p t) : IsFree p (s ++ t) :=
  isFree_append.2 ⟨hs, ht⟩

/-- Free texts with a free separator between them. -/
theorem IsFree.intercalate {separator : String} {texts : List String} (hs : IsFree p separator)
    (ht : ∀ t ∈ texts, IsFree p t) : IsFree p (String.intercalate separator texts) := by
  cases texts with
  | nil => exact isFree_empty
  | cons t texts =>
      induction texts generalizing t with
      | nil =>
          rw [String.intercalate_singleton]
          exact ht t (by simp)
      | cons u texts ih =>
          rw [String.intercalate_cons_cons]
          have rest := ih u fun v hv => ht v (List.mem_cons_of_mem t hv)
          exact ((ht t (by simp)).append hs).append rest

/-- One of some texts that stand in a row, between two texts that are free of what the others are free of. -/
theorem exists_intercalate_eq {separator : String} (hs : IsFree p separator) {before behind : List String}
    (first : ∀ t ∈ before, IsFree p t) (later : ∀ t ∈ behind, IsFree p t) (text : String) :
    ∃ front rest, String.intercalate separator (before ++ text :: behind) = front ++ text ++ rest ∧
      IsFree p front ∧ IsFree p rest := by
  induction before with
  | nil =>
      cases behind with
      | nil => exact ⟨"", "", by simp, isFree_empty, isFree_empty⟩
      | cons t behind =>
          refine ⟨"", separator ++ String.intercalate separator (t :: behind), ?_, isFree_empty,
            hs.append (.intercalate hs later)⟩
          rw [List.nil_append, String.intercalate_cons_cons, String.empty_append, String.append_assoc]
  | cons t before ih =>
      obtain ⟨free, first⟩ := List.forall_mem_cons.1 first
      obtain ⟨front, rest, eq, hfront, hrest⟩ := ih first
      refine ⟨t ++ separator ++ front, rest, ?_, (free.append hs).append hfront, hrest⟩
      rw [List.cons_append, String.intercalate_cons_of_ne_nil (by simp), eq]
      simp only [String.append_assoc]

/-- Free texts in a row. -/
theorem IsFree.join {texts : List String} (ht : ∀ t ∈ texts, IsFree p t) :
    IsFree p (String.join texts) := by
  intro c hc
  rw [String.toList_join] at hc
  obtain ⟨t, mem, hc⟩ := List.mem_flatMap.1 hc
  exact ht t mem c hc

/-! ## parts of texts -/

/-- A text that was filtered is free of what the filter does not keep. -/
theorem isFree_filter {cs : List Char} {keep : Char → Bool} (h : ∀ c, keep c = true → p c = false) :
    IsFree p (String.ofList (cs.filter keep)) :=
  isFree_ofList.2 fun c hc => h c (List.mem_filter.1 hc).2

/-- Trimming adds nothing. -/
theorem IsFree.trimmed {s : String} (h : IsFree p s) : IsFree p (trimmed s) :=
  isFree_ofList.2 fun c hc => h c ((Text.trim_isInfix s.toList).subset hc)

/-! ## numbers -/

/-- The characters that numbers are written with. -/
def isNumeralChar (c : Char) : Bool := c.isDigit || c == '.' || c == '-' || c == '+' || c == 'e'

/-- Digits are written with digits. -/
theorem isNumeralChar_of_mem_toDigits {c : Char} {n : Nat} (h : c ∈ Nat.toDigits 10 n) :
    isNumeralChar c = true := by
  have digit := Nat.isDigit_of_mem_toDigits (by decide) (by decide) h
  simp [isNumeralChar, digit]

/-- An exponent is an `e`, a sign and digits. -/
theorem isNumeralChar_of_mem_exponentText {c : Char} {e : Int}
    (h : c ∈ DecimalStyle.exponentText e) : isNumeralChar c = true := by
  unfold DecimalStyle.exponentText at h
  rw [List.mem_cons] at h
  cases h with
  | inl h =>
      rw [h]
      split <;> decide
  | inr h =>
      split at h
      · rw [List.mem_cons] at h
        obtain rfl | h := h
        · decide
        · exact isNumeralChar_of_mem_toDigits h
      · exact isNumeralChar_of_mem_toDigits h

/-- The significant digits of a decimal are digits. -/
theorem isNumeralChar_of_mem_significant {c : Char} {d : Decimal} (h : c ∈ d.significant) :
    isNumeralChar c = true := by
  unfold Decimal.significant at h
  have := (List.dropWhile_sublist _).subset (List.mem_reverse.1 h)
  exact isNumeralChar_of_mem_toDigits (List.mem_reverse.1 this)

/-- A decimal is written with its digits, a point, a sign and an exponent, in every style. -/
theorem isNumeralChar_of_mem_write {c : Char} {style : DecimalStyle} {d : Decimal}
    (h : c ∈ style.write d) : isNumeralChar c = true := by
  have digit : c ∈ d.significant → isNumeralChar c = true := isNumeralChar_of_mem_significant
  have zero : c = '0' → isNumeralChar c = true := fun h => h ▸ by decide
  have point : c = '.' → isNumeralChar c = true := fun h => h ▸ by decide
  have letter : c = 'e' → isNumeralChar c = true := fun h => h ▸ by decide
  unfold DecimalStyle.write at h
  extract_lets digits place at h
  split at h
  · split at h
    · simp only [List.mem_append, List.mem_cons, List.mem_replicate] at h
      grind
    · split at h
      · simp only [List.mem_append, List.mem_replicate] at h
        obtain (h | h) | h := h
        · exact digit h
        · exact zero h.2
        · split at h <;> grind
      · rw [List.mem_append, List.mem_cons] at h
        obtain h | h | h := h
        · exact digit (List.mem_of_mem_take h)
        · exact point h
        · exact digit (List.mem_of_mem_drop h)
  · cases eq : d.significant with
    | nil => simp [digits, eq] at h
    | cons first rest =>
        rw [eq] at digit
        simp only [digits, eq] at h
        rw [List.mem_append, List.mem_cons, List.mem_cons] at h
        obtain (h | h) | h | h := h
        · exact digit (by simp [h])
        · split at h <;> grind
        · exact letter h
        · exact isNumeralChar_of_mem_exponentText h

/-- So is an integer, but without point and exponent. -/
theorem isNumeralChar_of_mem_toString {c : Char} {i : Int} (h : c ∈ (toString i).toList) :
    isNumeralChar c = true := by
  cases i with
  | ofNat n =>
      have written : (toString (Int.ofNat n)).toList = Nat.toDigits 10 n := String.toList_ofList
      exact isNumeralChar_of_mem_toDigits (written ▸ h)
  | negSucc n =>
      have written : (toString (Int.negSucc n)).toList = '-' :: Nat.toDigits 10 (n + 1) := by
        show ("-" ++ Nat.repr (n + 1)).toList = _
        rw [String.toList_append]
        exact congrArg ('-' :: ·) String.toList_ofList
      rw [written, List.mem_cons] at h
      obtain rfl | h := h
      · decide
      · exact isNumeralChar_of_mem_toDigits h

/-- A finite number is written as a decimal; the words for the others have other letters. -/
theorem isNumeralChar_of_mem_brief {c : Char} {x : Binary64} (finite : x.isFinite = true)
    (h : c ∈ x.brief.toList) : isNumeralChar c = true := by
  cases x with
  | nan => cases finite
  | infinite s => cases finite
  | finite s m e _ =>
      have magnitude : c ∈ (if m = 0 then ['0']
          else Binary64.briefStyle.write (Decimal.rounded 6 (Binary64.ratio m e).1
            (Binary64.ratio m e).2)) → isNumeralChar c = true := by
        intro h
        split at h
        · rw [List.mem_singleton.1 h]
          decide
        · exact isNumeralChar_of_mem_write h
      replace h := String.toList_ofList ▸ h
      cases s with
      | false => exact magnitude h
      | true =>
          obtain rfl | h := List.mem_cons.1 h
          · decide
          · exact magnitude h

/-- A written number is free of whatever numbers are not written with. -/
theorem isFree_numberText (h : ∀ c, isNumeralChar c = true → p c = false) (x : Binary64) :
    IsFree p (Pen.numberText x) := by
  intro c hc
  refine h c ?_
  unfold Pen.numberText at hc
  split at hc
  · next finite =>
    unfold Binary64.compact at hc
    split at hc
    · exact isNumeralChar_of_mem_toString hc
    · exact isNumeralChar_of_mem_brief finite hc
  · have zero : "0".toList = ['0'] := rfl
    rw [zero, List.mem_singleton] at hc
    rw [hc]
    decide

/-- An integer is free of whatever numbers are not written with. -/
theorem isFree_toString (h : ∀ c, isNumeralChar c = true → p c = false) (i : Int) :
    IsFree p (toString i) :=
  fun _ hc => h _ (isNumeralChar_of_mem_toString hc)

end Pagewright
