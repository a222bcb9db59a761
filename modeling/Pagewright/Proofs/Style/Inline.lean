import Mathlib.Data.List.Nodup
import Pagewright.Proofs.Style.Values

/-!
# Pagewright.Proofs.Style.Inline

The style attribute of a container.  Its declarations stand in a row of properties that is fixed and in order,
each either there or not, and are written without the marks that would end a declaration, a rule or the
attribute.  So they can be told from their text, and whether one is there is up to one field alone
(`inline_declarations`).
-/

namespace Pagewright

open Text

/-- The number that a datum stands for: the nearest one to an integer, a number itself, or the one that a text is
read as, the blanks around it aside. -/
inductive Value.Denotes : Value → Binary64 → Prop
  | int {n : Int} {x : Binary64} (near : Binary64.ofInt? n = some x) : Denotes (.int n) x
  | float {x : Binary64} (finite : x.isFinite = true) : Denotes (.float x) x
  | text {s : String} {x : Binary64} (read : Numeral.real? (trim s.toList) = some x) (finite : x.isFinite = true) :
      Denotes (.str s) x

/-- Whether a datum stands for a number.  An integer does so however large it is. -/
def Value.IsNumeric (v : Value) : Prop := (∃ n, v = .int n) ∨ ∃ x, v.Denotes x

namespace Style

variable {data : Members} {v : Value}

/-! ## numbers -/

/-- The number that is read for a datum is the one that it stands for. -/
theorem quantity?_eq_some_iff {x : Binary64} : quantity? v = .ok (some x) ↔ v.Denotes x := by
  constructor
  · intro h
    cases v with
    | int n =>
        rw [quantity?] at h
        split at h
        · next near =>
          cases h
          exact .int near
        · cases h
    | float y =>
        rw [quantity?] at h
        split at h
        · next finite =>
          cases h
          exact .float finite
        · cases h
    | str s =>
        obtain ⟨read, finite⟩ := Option.filter_eq_some_iff.1 (Except.ok.inj h)
        exact .text read finite
    | _ => cases h
  · intro h
    cases h with
    | int near => rw [quantity?, near]
    | float finite => rw [quantity?, if_pos finite]
    | text read finite => rw [quantity?, Option.filter_eq_some_iff.2 ⟨read, finite⟩]

/-- What comes about for a datum is a number just if the datum is numeric. -/
theorem isSome_quantity_iff {o : Option Binary64} (h : quantity? v = .ok o) : o.isSome = true ↔ v.IsNumeric := by
  constructor
  · intro some
    obtain ⟨x, rfl⟩ := Option.isSome_iff_exists.1 some
    exact .inr ⟨x, quantity?_eq_some_iff.1 h⟩
  · rintro (⟨n, rfl⟩ | ⟨x, denotes⟩)
    · rw [quantity?] at h
      split at h
      · cases h
        rfl
      · cases h
    · rw [quantity?_eq_some_iff.2 denotes] at h
      cases h
      rfl

/-! ## rows of declarations -/

/-- A declaration of a property, if it is there. -/
def OfProperty (property : String) (o : Option Declaration) : Prop := ∀ d ∈ o, d.property = property

/-- Declarations that may be there or not, each for its own property and in the order of their properties. -/
structure IsRow (row : List (String × Option Declaration)) : Prop where
  ordered : (row.map (·.1)).Pairwise (· < ·)
  named : ∀ entry ∈ row, OfProperty entry.1 entry.2

theorem ofProperty_none (property : String) : OfProperty property none := nofun

theorem ofProperty_some (property value : String) : OfProperty property (some ⟨property, value⟩) := by
  rintro _ ⟨⟩
  rfl

/-- A declaration that is made of an optional value keeps its property. -/
theorem ofProperty_map {α : Type} (property : String) (v : Option α) (f : α → String) :
    OfProperty property (v.map fun a => ⟨property, f a⟩) := by
  intro d hd
  obtain ⟨a, -, rfl⟩ := Option.map_eq_some_iff.1 hd
  rfl

/-- The declarations that are there stand in the order of the row. -/
theorem IsRow.pairwise {row : List (String × Option Declaration)} (h : IsRow row) :
    (row.filterMap (·.2)).Pairwise fun d e => d.property < e.property := by
  rw [List.pairwise_filterMap]
  refine (List.pairwise_map.1 h.ordered).imp_of_mem fun {entry later} mem mem' lt d hd e he => ?_
  rw [h.named entry mem d hd, h.named later mem' e he]
  exact lt

/-- Whether a declaration of a property is among those that are there is up to its own place in the row. -/
theorem IsRow.exists_iff {row : List (String × Option Declaration)} (h : IsRow row) {property : String}
    {o : Option Declaration} (mem : (property, o) ∈ row) :
    (∃ d ∈ row.filterMap (·.2), d.property = property) ↔ o.isSome = true := by
  constructor
  · rintro ⟨d, hd, own⟩
    obtain ⟨entry, mem', found⟩ := List.mem_filterMap.1 hd
    have distinct : (row.map (·.1)).Nodup := by
      refine h.ordered.imp fun {first later} lt => ?_
      rintro rfl
      exact String.lt_irrefl first lt
    have same : entry.1 = property := (h.named entry mem' d found).symm.trans own
    have place : entry = (property, o) := List.inj_on_of_nodup_map distinct mem' mem same
    rw [place] at found
    exact Option.isSome_iff_exists.2 ⟨d, found⟩
  · intro some
    obtain ⟨d, rfl⟩ := Option.isSome_iff_exists.1 some
    exact ⟨d, List.mem_filterMap.2 ⟨_, mem, rfl⟩, h.named _ mem d rfl⟩

/-! ## the row of the style attribute -/

/-- The properties that the style attribute may have. -/
def inlineProperties : List String :=
  ["box-shadow", "color", "font-size", "font-weight", "margin-bottom", "margin-left", "margin-right", "margin-top",
    "max-width", "min-height", "opacity", "text-align"]

/-- The properties are in the order of the alphabet, and none stands twice. -/
theorem pairwise_inlineProperties : inlineProperties.Pairwise (· < ·) := by decide

/-- A length is declared exactly when its field is numeric. -/
theorem lengthOf?_eq_ok {property field unit : String} {o : Option Declaration}
    (h : lengthOf? data property field unit = .ok o) :
    OfProperty property o ∧ (o.isSome = true ↔ (data.get field).IsNumeric) := by
  obtain ⟨x, read, h⟩ := bind_eq_ok_iff.1 h
  cases h
  refine ⟨ofProperty_map property x _, ?_⟩
  rw [Option.isSome_map]
  exact isSome_quantity_iff read

/-- The opacity is declared exactly when its field stands for a number below one. -/
theorem opacity?_eq_ok {o : Option Declaration} (h : opacity? data = .ok o) :
    OfProperty "opacity" o ∧
      (o.isSome = true ↔ ∃ x, (data.get "opacity").Denotes x ∧ x.less (.ofNat 1) = true) := by
  obtain ⟨found, read, h⟩ := bind_eq_ok_iff.1 h
  have denotes (x : Binary64) : (data.get "opacity").Denotes x ↔ found = some x := by
    rw [← quantity?_eq_some_iff, read, Except.ok.injEq]
  simp only [denotes]
  cases found with
  | none =>
      cases h
      exact ⟨ofProperty_none _, by simp⟩
  | some x =>
      simp only at h
      split at h
      · next below =>
        cases h
        exact ⟨ofProperty_some _ _, by simp [below]⟩
      · next above =>
        cases h
        exact ⟨ofProperty_none _, by simp [above]⟩

/-- A shadow is declared for its property, if at all. -/
theorem ofProperty_shadow? {o : Option Declaration} (h : shadow? data = .ok o) : OfProperty "box-shadow" o := by
  unfold shadow? at h
  split at h
  · cases h
    exact ofProperty_none _
  · obtain ⟨lengths, -, h⟩ := bind_eq_ok_iff.1 h
    simp only at h
    split at h
    · cases h
      exact ofProperty_none _
    · cases h
      exact ofProperty_some _ _

/-- A field that is taken over as text is there if it is a text that passes the test. -/
theorem isSome_filter_text?_iff {p : String → Bool} :
    (v.text?.filter p).isSome = true ↔ ∃ s, v = .str s ∧ p s = true := by
  cases v with
  | str s => simp [Value.text?]
  | _ => simp [Value.text?]

/-- The text of a length is no blank one, so its being empty need not be told apart. -/
theorem isSome_dimensionOf?_iff {property field : String} :
    (dimensionOf? data property field).isSome = true ↔
      ∃ s, data.get field = .str s ∧ isDimension s = true := by
  rw [dimensionOf?, Option.isSome_map, isSome_filter_text?_iff]
  refine exists_congr fun s => and_congr_right fun _ => ?_
  rw [Bool.and_eq_true, and_iff_right_iff_imp]
  intro length
  have some : s ≠ "" := by
    rintro rfl
    exact absurd length (by decide)
  simpa using some

/-! ## telling declarations apart -/

/-- The characters that would end a declaration, a rule or an attribute, or begin an escape. -/
def markText : String := ";\x7b\x7d<>\"'\\&"

/-- Declarations as a style attribute may have them. -/
structure IsInlineStyle (ds : List Declaration) : Prop where
  known : ∀ d ∈ ds, d.property ∈ inlineProperties
  ordered : ds.Pairwise fun d e => d.property < e.property
  clean : ∀ d ∈ ds, ∀ c ∈ d.value.toList, c ∉ markText.toList

/-- The declarations behind the first are those of a style too. -/
theorem IsInlineStyle.tail {d : Declaration} {ds : List Declaration} (h : IsInlineStyle (d :: ds)) :
    IsInlineStyle ds :=
  ⟨(List.forall_mem_cons.1 h.known).2, (List.pairwise_cons.1 h.ordered).2, (List.forall_mem_cons.1 h.clean).2⟩

/-- A mark that is in neither of two texts tells where they end. -/
theorem append_mark_inj {mark : Char} {cs ds rest rest' : List Char} (h : mark ∉ cs) (h' : mark ∉ ds)
    (eq : cs ++ mark :: rest = ds ++ mark :: rest') : cs = ds ∧ rest = rest' := by
  have first : cut? mark (cs ++ mark :: rest) = some (cs, rest) := cut?_eq_some_iff.2 ⟨rfl, h⟩
  have second : cut? mark (ds ++ mark :: rest') = some (ds, rest') := cut?_eq_some_iff.2 ⟨rfl, h'⟩
  rw [eq, second] at first
  cases first
  exact ⟨rfl, rfl⟩

/-- What stands behind a declaration that others follow. -/
def following : List Declaration → List Char
  | [] => []
  | d :: ds => ';' :: ' ' :: (declarationsText (d :: ds)).toList

/-- The text of declarations begins with a property, a colon, a blank and a value. -/
theorem toList_declarationsText_cons (d : Declaration) (ds : List Declaration) :
    (declarationsText (d :: ds)).toList =
      d.property.toList ++ ':' :: (' ' :: (d.value.toList ++ following ds)) := by
  cases ds with
  | nil => simp [declarationsText, Declaration.text, following]
  | cons e ds => simp [declarationsText, Declaration.text, following]

/-- A value has no semicolon, so it ends where the text behind it begins. -/
theorem value_inj {cs cs' : List Char} {ds es : List Declaration} (h : ';' ∉ cs) (h' : ';' ∉ cs')
    (eq : cs ++ following ds = cs' ++ following es) : cs = cs' ∧ declarationsText ds = declarationsText es := by
  cases ds with
  | nil =>
      cases es with
      | nil => exact ⟨by simpa [following] using eq, rfl⟩
      | cons e es =>
          refine absurd ?_ h
          rw [following, List.append_nil] at eq
          simp [eq, following]
  | cons d ds =>
      cases es with
      | nil =>
          refine absurd ?_ h'
          rw [following, following, List.append_nil] at eq
          simp [← eq]
      | cons e es =>
          obtain ⟨same, rest⟩ := append_mark_inj h h' eq
          exact ⟨same, String.toList_inj.1 (List.cons.inj rest).2⟩

/-- No property has a colon, so it ends at the first one. -/
theorem not_mem_of_mem_inlineProperties : ∀ property ∈ inlineProperties, ':' ∉ property.toList := by decide

/-- The declarations of a style attribute can be told from its text. -/
theorem declarationsText_injective {ds es : List Declaration} (h : IsInlineStyle ds) (h' : IsInlineStyle es)
    (eq : declarationsText ds = declarationsText es) : ds = es := by
  have some (d : Declaration) (ds : List Declaration) : declarationsText (d :: ds) ≠ declarationsText [] := by
    intro none
    have empty := congrArg String.toList none
    rw [toList_declarationsText_cons] at empty
    simp [declarationsText] at empty
  induction ds generalizing es with
  | nil =>
      cases es with
      | nil => rfl
      | cons e es => exact absurd eq.symm (some e es)
  | cons d ds ih =>
      cases es with
      | nil => exact absurd eq (some d ds)
      | cons e es =>
          have mark {d : Declaration} {ds : List Declaration} (h : IsInlineStyle (d :: ds)) :
              ':' ∉ d.property.toList ∧ ';' ∉ d.value.toList :=
            ⟨not_mem_of_mem_inlineProperties _ (h.known d List.mem_cons_self),
              fun mem => h.clean d List.mem_cons_self _ mem (by decide)⟩
          have texts := congrArg String.toList eq
          rw [toList_declarationsText_cons, toList_declarationsText_cons] at texts
          -- the property ends at the first colon, and the value at the first semicolon
          obtain ⟨property, rest⟩ := append_mark_inj (mark h).1 (mark h').1 texts
          obtain ⟨value, later⟩ := value_inj (mark h).2 (mark h').2 (List.cons.inj rest).2
          have same : d = e := by
            cases d
            cases e
            rw [Declaration.mk.injEq]
            exact ⟨String.toList_inj.1 property, String.toList_inj.1 value⟩
          rw [same, ih h.tail h'.tail later]

/-! ## the style attribute -/

/-- The characters of values are none of the marks. -/
theorem not_mem_markText {c : Char} (h : isValueChar c = true) : c ∉ markText.toList := by
  have marks : markText.toList.all (fun c => !isValueChar c) := by decide
  intro mem
  have other := List.all_eq_true.1 marks c mem
  rw [h] at other
  cases other

/-- Which of the declarations that depend on one field are there. -/
structure Declares (data : Members) (ds : List Declaration) : Prop where
  margin : ∀ side ∈ sides,
    (∃ d ∈ ds, d.property = "margin-" ++ side) ↔ (data.get ("margin_" ++ side)).IsNumeric
  color : (∃ d ∈ ds, d.property = "color") ↔ ∃ s, data.get "text_color" = .str s ∧ isColor s = true
  opacity : (∃ d ∈ ds, d.property = "opacity") ↔
    ∃ x, (data.get "opacity").Denotes x ∧ x.less (.ofNat 1) = true
  width : (∃ d ∈ ds, d.property = "max-width") ↔ ∃ s, data.get "max_width" = .str s ∧ isDimension s = true
  height : (∃ d ∈ ds, d.property = "min-height") ↔ ∃ s, data.get "min_height" = .str s ∧ isDimension s = true

/-- The declarations in their row: known properties in order, clean values, and each there exactly when its
field asks for it. -/
theorem inlineDeclarations_eq_ok {ds : List Declaration} (h : inlineDeclarations data = .ok ds) :
    IsInlineStyle ds ∧ Declares data ds := by
  have plain := yields_inlineDeclarations data ds h
  obtain ⟨bottom, hbottom, h⟩ := bind_eq_ok_iff.1 h
  obtain ⟨left, hleft, h⟩ := bind_eq_ok_iff.1 h
  obtain ⟨right, hright, h⟩ := bind_eq_ok_iff.1 h
  obtain ⟨top, htop, h⟩ := bind_eq_ok_iff.1 h
  obtain ⟨size, hsize, h⟩ := bind_eq_ok_iff.1 h
  obtain ⟨shadow, hshadow, h⟩ := bind_eq_ok_iff.1 h
  obtain ⟨opacity, hopacity, h⟩ := bind_eq_ok_iff.1 h
  let color := (colorField? data "text_color").map (Declaration.mk "color")
  let weight := ((some (((data.get? "text_weight").getD (.str "")).display)).filter textWeights.contains).map
    (Declaration.mk "font-weight")
  let align := (choiceField? data "text_align" textAligns).map (Declaration.mk "text-align")
  -- the declarations as they stand in the text, each in its place whether it is there or not
  let row : List (String × Option Declaration) :=
    [("box-shadow", shadow), ("color", color), ("font-size", size), ("font-weight", weight),
      ("margin-bottom", bottom), ("margin-left", left), ("margin-right", right), ("margin-top", top),
      ("max-width", dimensionOf? data "max-width" "max_width"),
      ("min-height", dimensionOf? data "min-height" "min_height"), ("opacity", opacity), ("text-align", align)]
  have properties : row.map (·.1) = inlineProperties := rfl
  have isRow : IsRow row := by
    refine ⟨properties ▸ pairwise_inlineProperties, ?_⟩
    simp only [row, List.forall_mem_cons, List.not_mem_nil, false_implies, implies_true, and_true]
    exact ⟨ofProperty_shadow? hshadow, ofProperty_map "color" _ id, (lengthOf?_eq_ok hsize).1,
      ofProperty_map "font-weight" _ id, (lengthOf?_eq_ok hbottom).1, (lengthOf?_eq_ok hleft).1,
      (lengthOf?_eq_ok hright).1, (lengthOf?_eq_ok htop).1, ofProperty_map "max-width" _ id,
      ofProperty_map "min-height" _ id, (opacity?_eq_ok hopacity).1, ofProperty_map "text-align" _ id⟩
  obtain rfl : row.filterMap (·.2) = ds := Except.ok.inj h
  have known : ∀ d ∈ row.filterMap (·.2), d.property ∈ inlineProperties := by
    intro d hd
    obtain ⟨entry, mem, found⟩ := List.mem_filterMap.1 hd
    rw [isRow.named entry mem d found, ← properties]
    exact List.mem_map_of_mem mem
  have place (i : Nat) {property : String} {o : Option Declaration} (h : row[i]? = some (property, o)) :=
    isRow.exists_iff (List.mem_of_getElem? h)
  have colored : color.isSome = true ↔ ∃ s, data.get "text_color" = .str s ∧ isColor s = true := by
    rw [Option.isSome_map]
    exact isSome_filter_text?_iff
  refine ⟨⟨known, isRow.pairwise, fun d hd c hc => not_mem_markText (isValue_iff.1 (plain d hd).2 c hc)⟩, ?_,
    (place 1 rfl).trans colored, (place 10 rfl).trans (opacity?_eq_ok hopacity).2,
    (place 8 rfl).trans isSome_dimensionOf?_iff, (place 9 rfl).trans isSome_dimensionOf?_iff⟩
  simp only [sides, List.forall_mem_cons, List.not_mem_nil, false_implies, implies_true, and_true]
  exact ⟨(place 7 rfl).trans (lengthOf?_eq_ok htop).2, (place 6 rfl).trans (lengthOf?_eq_ok hright).2,
    (place 4 rfl).trans (lengthOf?_eq_ok hbottom).2, (place 5 rfl).trans (lengthOf?_eq_ok hleft).2⟩

/-- The style attribute of any style data is a list of clean declarations of known properties in order, the only
such list with its text.  A margin is in it just if its field stands for a number, the colour if the text has one,
the opacity if it stands for a number below one, and the two lengths if their fields hold one. -/
theorem inline_declarations {css : String} (h : inline data = .ok css) :
    ∃ ds, css = declarationsText ds ∧ IsInlineStyle ds ∧
      (∀ es, IsInlineStyle es → css = declarationsText es → es = ds) ∧ Declares data ds := by
  obtain ⟨ds, declared, made⟩ := bind_eq_ok_iff.1 h
  obtain rfl : declarationsText ds = css := Except.ok.inj made
  obtain ⟨style, declares⟩ := inlineDeclarations_eq_ok declared
  exact ⟨ds, rfl, style, fun es style' eq => declarationsText_injective style' style eq.symm, declares⟩

/-- The style of a notice: a margin that is given as text, one that is no number, a colour, and an opacity. -/
def noticeStyle : Members :=
  [("margin_top", .str " 5 "), ("margin_left", .bool true), ("text_color", .str "#fff"),
    ("opacity", .float (.ofDecimal false 5 (-1)))]

/-- A margin with blanks around its number counts, and a truth value does not. -/
theorem inline_declarations_notice :
    inline noticeStyle = .ok "color: #fff; margin-top: 5px; opacity: 0.5" ∧
      ∃ ds, "color: #fff; margin-top: 5px; opacity: 0.5" = declarationsText ds ∧ IsInlineStyle ds ∧
        (∃ d ∈ ds, d.property = "margin-top") ∧ ¬ ∃ d ∈ ds, d.property = "margin-left" := by
  have made : inline noticeStyle = .ok "color: #fff; margin-top: 5px; opacity: 0.5" := by decide +kernel
  obtain ⟨ds, text, style, -, declares⟩ := inline_declarations made
  have five : (Numeral.real? (trim " 5 ".toList)).any Binary64.isFinite = true := by decide +kernel
  obtain ⟨x, read, finite⟩ := (Option.any_eq_true ..).1 five
  have top := (declares.margin "top" (by decide)).2 (.inr ⟨x, .text read finite⟩)
  refine ⟨made, ds, text, style, top, fun left => ?_⟩
  rcases (declares.margin "left" (by decide)).1 left with ⟨n, eq⟩ | ⟨x, denotes⟩
  · cases eq
  · cases denotes

/-- A separator of files is cut off a text as a blank, but no number is read behind one. -/
theorem inline_separator :
    Numeral.real? "\x1c5".toList = none ∧ inline [("margin_top", .str "\x1c5")] = .ok "margin-top: 5px" :=
  ⟨by decide +kernel, by decide +kernel⟩

end Style

end Pagewright
