import Pagewright.Proofs.Pen.Defaults

/-!
# Pagewright.Proofs.Pen.VariableNames

The names of variables.  The CSS declares a variable by the name that is left of its own without two hyphens
in front and without other characters than those of names, styles refer to it by that name once more stripped
of hyphens, and the names that are known and those that texts refer to are the variables' own.  All of these
are one name exactly when a variable is called as the CSS calls it.
-/

namespace Pagewright.Pen

/-! ## references in texts -/

/-- What ends a name behind it keeps it from going on. -/
theorem takeWhile_append_of_head? {α : Type} {p : α → Bool} {behind : List α}
    (ends : ∀ a ∈ behind.head?, p a = false) (as : List α) :
    (as ++ behind).takeWhile p = as.takeWhile p := by
  induction as with
  | nil =>
      cases behind with
      | nil => rfl
      | cons a behind => simp [ends a rfl]
  | cons a as ih => rw [List.cons_append, List.takeWhile_cons, List.takeWhile_cons, ih]

section

variable (defaults : Defaults)

/-- The characters of a reference that was replaced are passed over. -/
theorem substituteFrom_length (as bs : List Char) :
    substituteFrom defaults as.length (as ++ bs) = substituteFrom defaults 0 bs := by
  induction as with
  | nil => rfl
  | cons a as ih => rw [List.length_cons, List.cons_append, substituteFrom, ih]

/-- A character that begins no reference stays. -/
theorem substituteFrom_cons {c : Char} {cs : List Char} (plain : ¬(c = '$' ∧ ['-', '-'] <+: cs)) :
    substituteFrom defaults 0 (c :: cs) = c :: substituteFrom defaults 0 cs := by
  rw [substituteFrom]
  rintro rest rfl rfl
  exact plain ⟨rfl, by simp⟩

/-- A text without dollar signs stays. -/
theorem substituteFrom_append_of_ne {as : List Char} (plain : ∀ a ∈ as, a ≠ '$') (bs : List Char) :
    substituteFrom defaults 0 (as ++ bs) = as ++ substituteFrom defaults 0 bs := by
  induction as with
  | nil => rfl
  | cons a as ih =>
      rw [List.forall_mem_cons] at plain
      rw [List.cons_append, substituteFrom_cons _ fun begins => plain.1 begins.1, ih plain.2,
        List.cons_append]

/-- What begins like a reference: the text of the name, if there is a name with a text. -/
theorem substituteFrom_dollar (rest : List Char) :
    substituteFrom defaults 0 ('$' :: '-' :: '-' :: rest) =
      match defaults.lookup (String.ofList (rest.takeWhile isNameChar)) with
      | some text =>
        if (rest.takeWhile isNameChar).isEmpty then
          '$' :: substituteFrom defaults 0 ('-' :: '-' :: rest)
        else text.toList ++
          substituteFrom defaults ((rest.takeWhile isNameChar).length + 2) ('-' :: '-' :: rest)
      | none => '$' :: substituteFrom defaults 0 ('-' :: '-' :: rest) := by
  rw [substituteFrom]
  rfl

/-- A reference to a name: its text, or the reference itself, and then what comes behind it. -/
theorem substituteFrom_reference {name behind : List Char} (some : name ≠ [])
    (named : ∀ c ∈ name, isNameChar c = true) (ends : ∀ c ∈ behind.head?, isNameChar c = false) :
    substituteFrom defaults 0 ("$--".toList ++ name ++ behind) =
      ((defaults.lookup (String.ofList name)).getD ("$--" ++ String.ofList name)).toList ++
        substituteFrom defaults 0 behind := by
  have read : (name ++ behind).takeWhile isNameChar = name := by
    rw [takeWhile_append_of_head? ends, List.takeWhile_eq_self_iff.2 named]
  have whole : "$--".toList ++ name ++ behind = '$' :: '-' :: '-' :: (name ++ behind) := rfl
  rw [whole, substituteFrom_dollar, read]
  cases defaults.lookup (String.ofList name) with
  | some text =>
      dsimp only
      rw [if_neg (by simpa using some)]
      have rest := substituteFrom_length defaults ('-' :: '-' :: name) behind
      rw [Option.getD_some]
      exact congrArg (text.toList ++ ·) rest
  | none =>
      have plain : ∀ c ∈ '-' :: '-' :: name, c ≠ '$' := by
        intro c mem eq
        subst eq
        have name : isNameChar '$' = true := named '$' (by simpa using mem)
        exact absurd name (by decide)
      have rest := substituteFrom_append_of_ne defaults plain behind
      simpa using rest

/-- No dollar sign is one of two hyphens. -/
theorem hyphens_isPrefix {before behind : List Char} (h : ['-', '-'] <+: before ++ '$' :: behind) :
    ['-', '-'] <+: before := by
  rcases before with _ | ⟨c, _ | ⟨d, before⟩⟩
  · simp at h
  · simp at h
  · simpa using h

/-- What stands before a dollar sign and what begins there are read on their own. -/
theorem substituteFrom_append_dollar {skip : Nat} {before : List Char} (inside : skip ≤ before.length)
    (behind : List Char) :
    substituteFrom defaults skip (before ++ '$' :: behind) =
      substituteFrom defaults skip before ++ substituteFrom defaults 0 ('$' :: behind) := by
  induction before generalizing skip with
  | nil =>
      obtain rfl : skip = 0 := by simpa using inside
      rfl
  | cons c before ih =>
      cases skip with
      | succ skip => exact ih (by simpa using inside)
      | zero =>
          have rest := ih (Nat.zero_le _)
          by_cases begins : c = '$' ∧ ['-', '-'] <+: before
          · obtain ⟨rfl, name, rfl⟩ := begins
            -- a name goes no further than the dollar sign, with which the next reference may begin
            have read : (name ++ '$' :: behind).takeWhile isNameChar = name.takeWhile isNameChar :=
              takeWhile_append_of_head? (by simp; decide) name
            have whole : '$' :: (['-', '-'] ++ name) ++ '$' :: behind =
                '$' :: '-' :: '-' :: (name ++ '$' :: behind) := rfl
            have short : (name.takeWhile isNameChar).length + 2 ≤ (['-', '-'] ++ name).length := by
              simpa using (List.takeWhile_prefix isNameChar).length_le
            have skipped := ih short
            have own : '$' :: (['-', '-'] ++ name) = '$' :: '-' :: '-' :: name := rfl
            rw [whole, own, substituteFrom_dollar, substituteFrom_dollar, read]
            simp only [List.cons_append, List.nil_append] at rest skipped
            split
            · split
              · rw [rest, List.cons_append]
              · rw [skipped, List.append_assoc]
            · rw [rest, List.cons_append]
          · have still : ¬(c = '$' ∧ ['-', '-'] <+: before ++ '$' :: behind) :=
              fun ⟨eq, begun⟩ => begins ⟨eq, hyphens_isPrefix begun⟩
            rw [List.cons_append, substituteFrom_cons _ begins, substituteFrom_cons _ still, rest,
              List.cons_append]

end

/-- A reference to a name in a text is replaced on its own, or stays. -/
theorem substitute_reference (defaults : Defaults) {name behind : String} (some : name ≠ "")
    (named : ∀ c ∈ name.toList, isNameChar c = true) (ends : ∀ c ∈ behind.toList.head?, isNameChar c = false)
    (before : String) :
    substitute defaults (before ++ "$--" ++ name ++ behind) =
      substitute defaults before ++ (defaults.lookup name).getD ("$--" ++ name) ++
        substitute defaults behind := by
  have reference := substituteFrom_reference defaults (by simpa using some) named ends
  have whole : (before ++ "$--" ++ name ++ behind).toList =
      before.toList ++ ("$--".toList ++ name.toList ++ behind.toList) := by simp
  have split : substituteFrom defaults 0 (before.toList ++ ("$--".toList ++ name.toList ++ behind.toList)) = _ :=
    substituteFrom_append_dollar defaults (Nat.zero_le before.toList.length)
      ('-' :: '-' :: (name.toList ++ behind.toList))
  rw [String.ofList_toList] at reference
  rw [substitute, whole, split]
  refine Eq.trans (congrArg (fun cs => String.ofList (substituteFrom defaults 0 before.toList ++ cs)) reference) ?_
  simp [substitute, String.append_assoc]

/-! ## names in CSS -/

/-- The name of a variable in CSS has only characters of names. -/
theorem isNameChar_cssName {name : List Char} : ∀ c ∈ (cssName name).toList, isNameChar c = true := by
  simp [cssName]

/-- Two hyphens in front are the only ones that are taken away. -/
theorem withoutHyphens_eq_self_iff {cs : List Char} : withoutHyphens cs = cs ↔ ¬['-', '-'] <+: cs := by
  constructor
  · rintro same ⟨rest, rfl⟩
    have length := congrArg List.length same
    simp [withoutHyphens] at length
    omega
  · intro plain
    unfold withoutHyphens
    split
    · exact absurd (by simp) plain
    · rfl

/-- A name in CSS is no longer than the name without them. -/
theorem length_cssName_le (name : List Char) : (cssName name).toList.length ≤ (withoutHyphens name).length := by
  rw [cssName, String.toList_ofList]
  exact List.length_filter_le ..

/-- A text is its own name in CSS exactly when it has characters of names only and no two hyphens in front. -/
theorem cssName_eq_self_iff {name : String} :
    cssName name.toList = name ↔ (∀ c ∈ name.toList, isNameChar c = true) ∧ ¬['-', '-'] <+: name.toList := by
  constructor
  · intro same
    refine ⟨fun c mem => isNameChar_cssName c (same.symm ▸ mem), ?_⟩
    rintro ⟨rest, eq⟩
    have cut : withoutHyphens (['-', '-'] ++ rest) = rest := rfl
    have short := length_cssName_le name.toList
    rw [same, ← eq, cut, List.length_append, List.length_cons] at short
    omega
  · rintro ⟨named, plain⟩
    rw [cssName, withoutHyphens_eq_self_iff.2 plain, List.filter_eq_self.2 named, String.ofList_toList]

/-! ## names in styles -/

theorem valueText_dollar (name : String) : valueText (.str ("$" ++ name)) = variableText name.toList := by
  have chars : ("$" ++ name).toList = '$' :: name.toList := by simp
  rw [valueText, chars]
  rfl

theorem result_variableText (name : List Char) :
    (variableText name).result = .ok ("var(--" ++ cssName name ++ ")") := rfl

theorem mentioned_variableText (name : List Char) : (variableText name).mentioned = [cssName name] := rfl

/-- One name is not reported exactly if it is known, or nothing is. -/
theorem undeclared_singleton_eq_nil_iff {known : List String} {name : String} :
    Styled.undeclared known [name] = [] ↔ known = [] ∨ name ∈ known := by
  by_cases none : known = []
  · simp [Styled.undeclared, none]
  · by_cases mem : name ∈ known <;> simp [Styled.undeclared, none, mem]

/-! ## variables of documents -/

section

variable {vars : Members} {name text : String}

/-- A default is that of a variable. -/
theorem exists_of_lookup_variableDefaults (given : (variableDefaults vars).lookup name = some text) :
    ∃ m ∈ vars, m.1 = name := by
  rw [lookup_eq_head?] at given
  have mem := mem_entriesOf_iff.1 (List.mem_of_head? given)
  rw [variableDefaults_eq_flatMap] at mem
  obtain ⟨m, own, here⟩ := List.mem_flatMap.1 mem
  exact ⟨m, own, (key_of_mem_variableDefaults m _ here).symm⟩

end

/-- Whether a style and a text that refer to a name both mean the variable that the CSS declares under it: the
style becomes a reference to that name and is not reported, and the text has the default of the variable in
its place. -/
structure NamesVariable (vars : Members) (name default : String) : Prop where
  style : (valueText (.str ("$" ++ name))).result = .ok ("var(--" ++ name ++ ")")
  known : Styled.undeclared vars.keys (valueText (.str ("$" ++ name))).mentioned = []
  text : ∀ before behind : String, (∀ c ∈ behind.toList.head?, isNameChar c = false) →
    substitute (variableDefaults vars) (before ++ "$--" ++ name ++ behind) =
      substitute (variableDefaults vars) before ++ default ++ substitute (variableDefaults vars) behind

/-- The style refers to a name exactly when CSS calls it so. -/
theorem style_iff {name : String} :
    (valueText (.str ("$" ++ name))).result = .ok ("var(--" ++ name ++ ")") ↔ cssName name.toList = name := by
  rw [valueText_dollar, result_variableText, Except.ok.injEq, String.append_left_inj, String.append_right_inj]

/-- The name is not reported exactly when the document has a variable of that name, spelled as in CSS. -/
theorem known_iff {vars : Members} {name : String} (some : vars ≠ []) :
    Styled.undeclared vars.keys (valueText (.str ("$" ++ name))).mentioned = [] ↔
      cssName name.toList ∈ vars.keys := by
  rw [valueText_dollar, mentioned_variableText, undeclared_singleton_eq_nil_iff, or_iff_right]
  simpa [Members.keys] using some

/-- In a document whose variables have different names in CSS, the CSS declares every variable that has a
default and a name, but references by that name mean the variable exactly if it is called so itself.  A style
refers to the name unless two hyphens are in front of it, and a text has what is the default of a variable
with just this name. -/
theorem namesVariable_iff (v : Value) (d : Document) (opened : Document.ofValue v = .ok d)
    (apart : (d.vars.map fun m => cssName m.1.toList).Nodup) (name text : String)
    (given : (variableDefaults d.vars).lookup name = some text) (named : cssName name.toList ≠ "") :
    rootText? (variableCss d.vars []) ("--" ++ cssName name.toList) = some (declared text) ∧
    ((valueText (.str ("$" ++ cssName name.toList))).result = .ok ("var(--" ++ cssName name.toList ++ ")") ↔
      ¬['-', '-'] <+: (cssName name.toList).toList) ∧
    (∀ before behind : String, (∀ c ∈ behind.toList.head?, isNameChar c = false) →
      substitute (variableDefaults d.vars) (before ++ "$--" ++ cssName name.toList ++ behind) =
        substitute (variableDefaults d.vars) before ++
          ((variableDefaults d.vars).lookup (cssName name.toList)).getD ("$--" ++ cssName name.toList) ++
          substitute (variableDefaults d.vars) behind) ∧
    (NamesVariable d.vars (cssName name.toList) text ↔ cssName name.toList = name) := by
  obtain ⟨m, mem, rfl⟩ := exists_of_lookup_variableDefaults given
  have replaced (before behind : String) (ends : ∀ c ∈ behind.toList.head?, isNameChar c = false) :=
    substitute_reference (variableDefaults d.vars) named isNameChar_cssName ends before
  refine ⟨?_, ?_, replaced, ?_, ?_⟩
  · rw [rootText?_of_mem (variableFlaw?_of_ofValue opened) apart mem named, given, Option.map_some]
  · rw [style_iff, cssName_eq_self_iff, and_iff_right isNameChar_cssName]
  -- a variable that is known by its name in CSS is the only one that CSS calls so
  · rintro ⟨style, known, -⟩
    rw [known_iff (List.ne_nil_of_mem mem)] at known
    rw [style_iff] at style
    rw [style] at known
    obtain ⟨other, here, eq⟩ := List.mem_map.1 known
    have same : other = m := List.inj_on_of_nodup_map apart here mem (by rw [eq, style])
    rw [← eq, same]
  · intro same
    refine ⟨?_, ?_, ?_⟩
    · rw [style_iff, same, same]
    · rw [known_iff (List.ne_nil_of_mem mem), same, same]
      exact List.mem_map_of_mem mem
    · intro before behind ends
      rw [replaced before behind ends, same, given, Option.getD_some]

/-- A colour that is called as the CSS calls it, one with hyphens in front, and one with more of them. -/
def brandVars : Members :=
  [ ("ink", .obj [("value", .str "#000")]), ("--primary", .obj [("value", .str "#00f")]),
    ("----deep", .obj [("value", .str "#009")]) ]

/-- A document with the colours. -/
def brandDocument : Value := .obj [("children", .list []), ("variables", .obj brandVars)]

/-- The names of the three colours differ in CSS. -/
theorem brandVars_apart : (brandVars.map fun m => cssName m.1.toList).Nodup := by decide

/-- The colour that is called as the CSS calls it is the same in styles and in texts. -/
theorem namesVariable_iff_brand :
    Document.ofValue brandDocument = .ok ⟨[], brandVars⟩ ∧
      (brandVars.map fun m => cssName m.1.toList).Nodup ∧
      (variableDefaults brandVars).lookup "ink" = some "#000" ∧ cssName "ink".toList = "ink" ∧
      rootText? (variableCss brandVars []) "--ink" = some "#000" ∧ NamesVariable brandVars "ink" "#000" := by
  have given : (variableDefaults brandVars).lookup "ink" = some "#000" := by decide
  have same : cssName "ink".toList = "ink" := by decide
  have safe : declared "#000" = "#000" := by decide
  have written : "--" ++ "ink" = "--ink" := by decide
  obtain ⟨css, -, -, agree⟩ := namesVariable_iff brandDocument ⟨[], brandVars⟩ rfl brandVars_apart "ink" "#000"
    given (by decide)
  rw [same, written, safe] at css
  rw [same] at agree
  exact ⟨rfl, brandVars_apart, given, same, css, agree.2 rfl⟩

/-- A variable with hyphens in front is reported although it is declared, and it stays in texts; one with more
of them is not even referred to by its name in CSS. -/
theorem not_namesVariable_brand :
    Document.ofValue brandDocument = .ok ⟨[], brandVars⟩ ∧
      (brandVars.map fun m => cssName m.1.toList).Nodup ∧
      (variableDefaults brandVars).lookup "--primary" = some "#00f" ∧
      cssName "--primary".toList = "primary" ∧
      Styled.undeclared brandVars.keys (valueText (.str "$primary")).mentioned = ["primary"] ∧
      substitute (variableDefaults brandVars) "$--primary" = "$--primary" ∧
      (variableDefaults brandVars).lookup "----deep" = some "#009" ∧
      cssName "----deep".toList = "--deep" ∧
      (valueText (.str "$--deep")).result = .ok "var(--deep)" := by
  refine ⟨rfl, brandVars_apart, ?_⟩
  decide

end Pagewright.Pen
