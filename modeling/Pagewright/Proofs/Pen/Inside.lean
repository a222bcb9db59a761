import Pagewright.Proofs.Pen.Yields
import Pagewright.Proofs.Text.Free
import Pagewright.Pen.Leaf

/-!
# Pagewright.Proofs.Pen.Inside

Declarations that stay inside their rule: texts without the characters that end a rule or the sheet around
it.  Whatever a node says arrives in its declarations without them, except for two kinds of data that
are taken over as they are: some colours with a hash, and the braces of image addresses.
-/

namespace Pagewright.Pen

/-- The characters that end a rule or the sheet around it. -/
def isRuleEnd (c : Char) : Bool := c == '\x7b' || c == '\x7d' || c == '<' || c == '>'

/-- A text that may stand inside a rule. -/
abbrev IsInside (s : String) : Prop := IsFree isRuleEnd s

/-- What holds of none of the characters that end a rule holds only of others. -/
theorem isRuleEnd_eq_false {q : Char → Bool} (none : ['\x7b', '\x7d', '<', '>'].any q = false) (c : Char)
    (hc : q c = true) : isRuleEnd c = false := by
  cases h : isRuleEnd c with
  | false => rfl
  | true =>
      simp only [isRuleEnd, Bool.or_eq_true, beq_iff_eq, or_assoc] at h
      have mem : c ∈ ['\x7b', '\x7d', '<', '>'] := by simpa using h
      exact absurd hc (List.any_eq_false.1 none c mem)

/-! ## values -/

/-- A number is written with digits, signs, a point and a letter. -/
theorem isInside_numberText (x : Binary64) : IsInside (numberText x) :=
  isFree_numberText (isRuleEnd_eq_false (by decide)) x

/-- An integer is written with digits and a sign. -/
theorem isInside_toString (i : Int) : IsInside (toString i) :=
  isFree_toString (isRuleEnd_eq_false (by decide)) i

/-- A cleaned text has lost the characters that end a rule. -/
theorem isInside_safeText (v : Value) : IsInside (safeText v) :=
  isFree_filter (isRuleEnd_eq_false (by decide))

/-- The name of a variable is filtered. -/
theorem isInside_cssName (name : List Char) : IsInside (cssName name) :=
  isFree_filter (isRuleEnd_eq_false (by decide))

/-- So a reference to a variable stays inside its rule. -/
theorem yields_variableText (name : List Char) : Yields IsInside (variableText name).result := by
  refine Styled.yields_bind fun _ _ => yields_ok ?_
  have front : IsInside "var(--" := by decide
  have behind : IsInside ")" := by decide
  exact (front.append (isInside_cssName name)).append behind

/-- An optional number with a default. -/
theorem isInside_elim {usual : String} (hu : IsInside usual) {text : Binary64 → String}
    (ht : ∀ x, IsInside (text x)) (x? : Option Binary64) : IsInside (x?.elim usual text) := by
  cases x? with
  | none => exact hu
  | some x => exact ht x

/-- A datum in CSS stays inside its rule. -/
theorem yields_valueText (v : Value) : Yields IsInside (valueText v).result := by
  have safe : IsInside (trimmed (safeText v)) := (isInside_safeText v).trimmed
  cases v with
  | null => exact yields_ok isFree_empty
  | str s =>
      unfold valueText
      dsimp only
      split
      · exact yields_variableText _
      · exact yields_ok safe
  | bool b =>
      cases b with
      | false => exact yields_ok (by decide)
      | true => exact yields_ok (by decide)
  | int i => exact yields_ok (isInside_elim (by decide) isInside_numberText _)
  | float x => exact yields_ok (isInside_numberText x)
  | list vs => exact yields_ok safe
  | obj ms => exact yields_ok safe

/-! ## colours -/

/-- Whether a colour is taken over as it is although it ends its rule: three characters behind a hash, or
eight of which the first is a hash as well, with one that ends a rule among them. -/
def isLooseColor (v : Value) : Bool :=
  match v with
  | .str s =>
    match s.toList with
    | '#' :: digits =>
      (digits.length == 3 || (digits.length == 8 && digits.head? == some '#')) && digits.any isRuleEnd
    | _ => false
  | _ => false

/-- A hash ends no rule, so dropping hashes does not matter. -/
theorem any_dropWhile_hash (cs : List Char) :
    (cs.dropWhile (· == '#')).any isRuleEnd = cs.any isRuleEnd := by
  induction cs with
  | nil => rfl
  | cons c cs ih =>
      by_cases h : c = '#'
      · subst h
        exact ih
      · rw [List.dropWhile_cons_of_neg (by simpa using h)]

theorem isInside_ofList_iff {cs : List Char} : IsInside (String.ofList cs) ↔ cs.any isRuleEnd = false := by
  simp [isFree_ofList]

/-- Doubling the digits of a short colour does not change which characters there are. -/
theorem any_doubled (cs : List Char) : (cs.flatMap fun c => [c, c]).any isRuleEnd = cs.any isRuleEnd := by
  induction cs with
  | nil => rfl
  | cons c cs ih =>
      rw [List.flatMap_cons, List.any_append, ih]
      cases h : isRuleEnd c <;> simp [h]

/-- A colour of eight digits stays inside its rule exactly when the first of them is no hash, or none ends
the rule. -/
theorem isInside_rgbaText_iff {digits : List Char} (h : digits.length = 8) :
    IsInside (rgbaText ('#' :: digits)) ↔
      (digits.head? == some '#' && digits.any isRuleEnd) = false := by
  unfold rgbaText
  rw [List.dropWhile_cons_of_pos (by decide)]
  extract_lets rest
  cases digits with
  | nil => cases h
  | cons c cs =>
      by_cases hc : c = '#'
      · -- the hash is dropped, so there are too few digits left to be read
        subst hc
        have dropped : rest = cs.dropWhile (· == '#') := List.dropWhile_cons_of_pos (by decide)
        have shorter : rest.length ≠ 8 := by
          have := (List.dropWhile_sublist (l := cs) (· == '#')).length_le
          rw [List.length_cons] at h
          rw [dropped]
          omega
        rw [if_pos shorter, dropped, isInside_ofList_iff, List.any_cons, any_dropWhile_hash]
        simp [isRuleEnd]
      · have same : rest = c :: cs := List.dropWhile_cons_of_neg (by simpa using hc)
        have first : ((c :: cs).head? == some '#') = false := by simpa using hc
        rw [if_neg (by simp [same, h]), first, Bool.false_and]
        refine iff_of_true ?_ rfl
        split
        · simp +decide only [isFree_append, isInside_toString, isInside_numberText, and_self]
        · have hash : IsInside "#" := by decide
          exact hash.append (isInside_safeText _)

theorem yields_pure_iff {s : String} : Yields IsInside (pure s : Styled String).result ↔ IsInside s :=
  ⟨fun h => h s rfl, yields_ok⟩

/-- A colour stays inside its rule exactly when it is not loose. -/
theorem yields_colorText_iff (v : Value) :
    Yields IsInside (colorText v).result ↔ isLooseColor v = false := by
  have safe : IsInside (trimmed (safeText v)) := (isInside_safeText v).trimmed
  cases v with
  | str s =>
      unfold colorText isLooseColor
      dsimp only
      split
      · next name eq =>
        rw [eq]
        exact iff_of_true (yields_variableText _) rfl
      · next digits eq =>
        rw [eq]
        by_cases three : digits.length = 3
        · have hash : isRuleEnd '#' = false := by decide
          rw [if_pos three, yields_pure_iff, isInside_ofList_iff, List.any_cons, any_doubled]
          simp [three, hash]
        · rw [if_neg three]
          by_cases eight : digits.length = 8
          · rw [if_pos eight, yields_pure_iff, isInside_rgbaText_iff eight]
            simp [eight]
          · rw [if_neg eight, yields_pure_iff]
            exact iff_of_true safe (by simp [three, eight])
      · next hash =>
        refine iff_of_true (yields_ok safe) ?_
        split
        · next digits eq => exact absurd eq (hash digits)
        · rfl
  | null => exact iff_of_true (yields_ok isFree_empty) rfl
  | _ => exact iff_of_true (yields_ok safe) rfl

/-- The half of it that the proofs about styles use. -/
theorem yields_colorText {v : Value} (tight : isLooseColor v = false) :
    Yields IsInside (colorText v).result :=
  (yields_colorText_iff v).2 tight

/-! ## addresses -/

/-- Whether a character is a brace. -/
def isBrace (c : Char) : Bool := c == '\x7b' || c == '\x7d'

/-- Whether an address has a brace, which it keeps, and is not left out. -/
def isLooseAddress (v : Value) : Bool :=
  (v.orElse (.str "")).display.toList.any isBrace && !(addressText v).isEmpty

/-- Of the characters that end a rule, the filter of addresses takes away all but the braces. -/
theorem any_filter_address (cs : List Char) :
    (cs.filter (!isOutsideAddress ·)).any isRuleEnd = cs.any isBrace := by
  have same (c : Char) : (!isOutsideAddress c && isRuleEnd c) = isBrace c := by
    cases hb : isBrace c with
    | true =>
        simp only [isBrace, Bool.or_eq_true, beq_iff_eq] at hb
        obtain rfl | rfl := hb <;> decide
    | false =>
        cases hr : isRuleEnd c with
        | false => rw [Bool.and_false]
        | true =>
            simp only [isBrace, Bool.or_eq_false_iff] at hb
            simp only [isRuleEnd, hb.1, hb.2, Bool.false_or, Bool.or_eq_true, beq_iff_eq] at hr
            obtain rfl | rfl := hr <;> decide
  rw [List.any_filter]
  exact congrArg (List.any cs) (funext same)

/-- An address stays inside its rule exactly when it is not loose. -/
theorem isInside_addressText_iff (v : Value) :
    IsInside (addressText v) ↔ isLooseAddress v = false := by
  unfold isLooseAddress addressText
  extract_lets cs
  split
  · exact iff_of_true isFree_empty (by simp)
  · have kept : cs.any isRuleEnd = (v.orElse (.str "")).display.toList.any isBrace :=
      any_filter_address _
    rw [isInside_ofList_iff, ← kept]
    cases eq : cs with
    | nil => simp
    | cons c rest => simp [String.isEmpty_iff, ← String.toList_inj]

end Pagewright.Pen
