import Pagewright.Proofs.Style.Settling
import Pagewright.Proofs.Style.Values

/-!
# Pagewright.Proofs.Style.Address

The address of a background image in the rule of a container.  It is written between single quotes, and no
address has a backslash, so every quote inside is escaped and every backslash escapes one.  But an address may
have a line break inside, and such a literal is never closed (`address_closes_iff`).
-/

namespace Pagewright

namespace Style

open Text

/-! ## literals -/

/-- A character at which a line ends. -/
def isLineBreak (c : Char) : Bool := c == '\n' || c == '\r' || c == '\x0c'

/-- The text of a literal whose first quote has been read, up to the quote that ends it, and what follows.
A backslash takes the next character into the literal; a line that ends inside leaves it without an end. -/
def literal? (quote : Char) : List Char → Option (List Char × List Char)
  | [] => none
  | '\\' :: c :: cs => (literal? quote cs).map fun (body, rest) => ('\\' :: c :: body, rest)
  | c :: cs =>
    if c = quote then some ([], cs)
    else if isLineBreak c then none
    else (literal? quote cs).map fun (body, rest) => (c :: body, rest)

/-- A text between quotes in which every quote is escaped, no backslash does anything else, and no line ends. -/
inductive IsLiteral (quote : Char) : List Char → Prop
  | nil : IsLiteral quote []
  | escaped {cs : List Char} (rest : IsLiteral quote cs) : IsLiteral quote ('\\' :: quote :: cs)
  | plain {c : Char} {cs : List Char} (noQuote : c ≠ quote) (noEscape : c ≠ '\\')
      (inLine : isLineBreak c = false) (rest : IsLiteral quote cs) : IsLiteral quote (c :: cs)

/-- A text with its single quotes escaped. -/
def escaped (cs : List Char) : List Char := cs.flatMap fun c => if c = '\'' then ['\\', '\''] else [c]

theorem quotedAddress_eq (s : String) : quotedAddress s = "'" ++ String.ofList (escaped s.toList) ++ "'" := by
  rw [← String.toList_inj]
  simp [quotedAddress, escaped]

theorem escaped_cons_quote (cs : List Char) : escaped ('\'' :: cs) = '\\' :: '\'' :: escaped cs := rfl

theorem escaped_cons_of_ne {c : Char} (h : c ≠ '\'') (cs : List Char) : escaped (c :: cs) = c :: escaped cs := by
  rw [escaped, List.flatMap_cons, if_neg h]
  rfl

/-- Escaping makes a literal of every text without backslashes in which no line ends. -/
theorem isLiteral_escaped_iff {cs : List Char} (h : '\\' ∉ cs) :
    IsLiteral '\'' (escaped cs) ↔ ∀ c ∈ cs, isLineBreak c = false := by
  induction cs with
  | nil => exact iff_of_true .nil (List.forall_mem_nil _)
  | cons c cs ih =>
      rw [List.mem_cons, not_or] at h
      rw [List.forall_mem_cons, ← ih h.2]
      by_cases quote : c = '\''
      · subst quote
        rw [escaped_cons_quote]
        generalize escaped cs = inner
        constructor
        · intro whole
          cases whole with
          | escaped rest => exact ⟨rfl, rest⟩
          | plain _ noEscape => exact absurd rfl noEscape
        · exact fun both => .escaped both.2
      · rw [escaped_cons_of_ne quote]
        generalize escaped cs = inner
        constructor
        · intro whole
          cases whole with
          | escaped => exact absurd rfl h.1
          | plain _ _ inLine rest => exact ⟨inLine, rest⟩
        · exact fun both => .plain quote (Ne.symm h.1) both.1 both.2

/-- A character other than a backslash ends the literal, breaks it, or belongs to it. -/
theorem literal?_cons {c : Char} (noEscape : c ≠ '\\') (quote : Char) (cs : List Char) :
    literal? quote (c :: cs) =
      if c = quote then some ([], cs)
      else if isLineBreak c then none
      else (literal? quote cs).map fun (body, rest) => (c :: body, rest) := by
  rw [literal?]
  exact fun _ _ eq => absurd eq noEscape

/-- The literal of an escaped text ends with its own quote, unless a line ends inside. -/
theorem literal?_escaped {cs : List Char} (h : '\\' ∉ cs) (rest : List Char) :
    literal? '\'' (escaped cs ++ '\'' :: rest) =
      if cs.any isLineBreak then none else some (escaped cs, rest) := by
  induction cs with
  | nil => rfl
  | cons c cs ih =>
      rw [List.mem_cons, not_or] at h
      rw [List.any_cons]
      by_cases quote : c = '\''
      · subst quote
        have inLine : isLineBreak '\'' = false := rfl
        rw [escaped_cons_quote, List.cons_append, List.cons_append, literal?, ih h.2, inLine, Bool.false_or]
        cases cs.any isLineBreak <;> rfl
      · rw [escaped_cons_of_ne quote, List.cons_append, literal?_cons (Ne.symm h.1), if_neg quote, ih h.2]
        cases isLineBreak c <;> cases cs.any isLineBreak <;> rfl

/-! ## addresses -/

variable {settings : Settings} {data : Members}

/-- An address of an image has none of the single characters that it must not contain. -/
theorem not_mem_of_isImageAddress {s : String} {d : Char} (refused : [d] ∈ refusedInAddress)
    (single : caselessEq d d = true) (solid : isBlank d = false) (h : isImageAddress s = true) : d ∉ s.toList := by
  simp only [isImageAddress, Bool.and_eq_true, Bool.not_eq_true', List.any_eq_false] at h
  have new := h.2 [d] refused
  intro mem
  obtain ⟨before, behind, eq, blank, blank'⟩ := exists_blanks_trim s.toList
  have other {bs : List Char} (blank : ∀ c ∈ bs, isBlank c = true) : d ∉ bs := fun mem => by
    rw [blank d mem] at solid
    cases solid
  have inside : d ∈ trim s.toList := by
    rw [eq, List.mem_append, List.mem_append] at mem
    exact (mem.resolve_left (other blank)).resolve_right (other blank')
  obtain ⟨front, rest, found⟩ := List.append_of_mem inside
  refine new (anySuffix_iff.2 ⟨d :: rest, ⟨front, found.symm⟩, ?_⟩)
  simp [afterCaseless?, single]

/-- The background image of clean style data is an address of an image. -/
theorem isImageAddress_of_clean {style : Value} (h : clean settings style = .ok data) {v : Value}
    (given : data.get? "bg_image" = some v) : ∃ s, v = .str s ∧ isImageAddress s = true := by
  cases style with
  | obj ms =>
      have field := cleanField?_of_cleanMembers h "bg_image"
      have own : cleanField? settings (normalize ms) "bg_image" =
          .ok (cleanImage? ((normalize ms).get "bg_image")) := rfl
      have settles : Settles "bg_image" (fun data => .ok (cleanImage? (data.get "bg_image"))) _ :=
        settles_safe "bg_image" isImageAddress (fun _ => rfl) rfl
      obtain ⟨s, rfl, address, -⟩ := settles.gives (normalize ms) v (by rw [← own, field, given])
      exact ⟨s, rfl, address⟩
  | _ =>
      cases h
      cases given

/-- An address of an image is always declared. -/
theorem backgroundImage?_of_get? {s : String} (given : data.get? "bg_image" = some (.str s))
    (address : isImageAddress s = true) :
    backgroundImage? data = some ⟨"background-image", "url(" ++ quotedAddress s ++ ")"⟩ := by
  have some : s ≠ "" := by
    rintro rfl
    exact absurd address (by decide)
  rw [backgroundImage?, Members.get_of_get? given]
  simp [Value.text?, Option.filter, some, address]

/-- A plain declaration is written without quotes. -/
theorem Declaration.IsPlain.isFree_text {d : Declaration} (h : d.IsPlain) : IsFree (· == '\'') d.text := by
  have other (c : Char) (hc : (c == '\'') = true) : isValueChar c = false := by
    rw [beq_iff_eq.1 hc]
    rfl
  exact ((h.1.isFree other).append (by decide)).append (h.2.isFree other)

/-- Clean style data has a rule, unless a limit of the settings is beyond the range of numbers. -/
theorem exists_cascade_of_clean (limits : settings.LimitsInRange) {style : Value}
    (h : clean settings style = .ok data) (scope : String) : ∃ css, cascade data scope = .ok css := by
  rw [exists_cascade_iff]
  intro field mem
  cases style with
  | obj ms =>
      rw [isBeyond_get_iff h (mem_numericFields_of_mem_cascadeFields field mem)]
      exact not_heldBeyond limits field _
  | _ =>
      cases h
      rintro ⟨n, eq, -⟩
      cases eq

/-- The rule of a container has the address of its background image between the only two single quotes that it
writes besides those of the address and of the scope. -/
theorem exists_cascade_eq {s scope css : String} (given : data.get? "bg_image" = some (.str s))
    (address : isImageAddress s = true) (made : cascade data scope = .ok css) :
    ∃ front behind : String,
      css = scope ++ ", " ++ scope ++ " > * \x7b " ++ front ++ "url(" ++ quotedAddress s ++ ")" ++ behind ∧
        '\'' ∉ front.toList ∧ '\'' ∉ behind.toList := by
  obtain ⟨ds, declared, made⟩ := bind_eq_ok_iff.1 made
  obtain ⟨before, later, rfl, first, last⟩ := exists_cascadeDeclarations_eq declared
  rw [backgroundImage?_of_get? given address] at made
  have plain {ds : List Declaration} (h : ∀ d ∈ ds, d.IsPlain) :
      ∀ t ∈ ds.map Declaration.text, IsFree (· == '\'') t :=
    List.forall_mem_map.2 fun d hd => (h d hd).isFree_text
  have separator : IsFree (· == '\'') "; " := by decide
  obtain ⟨front, rest, eq, hfront, hrest⟩ := exists_intercalate_eq separator (plain first) (plain last)
    (Declaration.text ⟨"background-image", "url(" ++ quotedAddress s ++ ")"⟩)
  have whole : declarationsText (before ++ [⟨"background-image", "url(" ++ quotedAddress s ++ ")"⟩] ++ later) =
      front ++ Declaration.text ⟨"background-image", "url(" ++ quotedAddress s ++ ")"⟩ ++ rest := by
    rw [declarationsText, List.append_assoc, List.map_append]
    exact eq
  refine ⟨front ++ "background-image: ", rest ++ "; \x7d\n", ?_, (hfront.append (by decide)).not_mem rfl,
    (hrest.append (by decide)).not_mem rfl⟩
  split at made
  · next none => simp at none
  · rw [← Except.ok.inj made]
    change _ ++ declarationsText (before ++ [_] ++ later) ++ _ = _
    have named : "background-image: " = "background-image" ++ ": " := rfl
    rw [whole, named]
    simp only [Declaration.text, String.append_assoc]

/-- The address of a background image is written as a literal that ends with its own quote exactly when no line
ends inside the address: then no quote in the literal is bare, no backslash does anything but escape one, and a
reader of the literal stops in front of the closing bracket. -/
theorem address_closes_iff {style : Value} {s : String} (cleaned : clean settings style = .ok data)
    (given : data.get? "bg_image" = some (.str s)) (scope : String) :
    (settings.LimitsInRange → ∃ css, cascade data scope = .ok css) ∧
      ∀ css, cascade data scope = .ok css → ∃ front body behind : String,
        css = scope ++ ", " ++ scope ++ " > * \x7b " ++ front ++ "url('" ++ body ++ "')" ++ behind ∧
          '\'' ∉ front.toList ∧ '\'' ∉ behind.toList ∧
          (IsLiteral '\'' body.toList ↔ ∀ c ∈ s.toList, isLineBreak c = false) ∧
          (literal? '\'' (body ++ "')" ++ behind).toList = some (body.toList, (")" ++ behind).toList) ↔
            ∀ c ∈ s.toList, isLineBreak c = false) := by
  refine ⟨fun limits => exists_cascade_of_clean limits cleaned scope, fun css made => ?_⟩
  obtain ⟨_, ⟨⟩, address⟩ := isImageAddress_of_clean cleaned given
  -- an address has no backslash of its own, so every one in the literal escapes a quote
  have noEscape : '\\' ∉ s.toList := not_mem_of_isImageAddress (by decide) rfl rfl address
  obtain ⟨front, behind, rfl, hfront, hbehind⟩ := exists_cascade_eq given address made
  refine ⟨front, String.ofList (escaped s.toList), behind, ?_, hfront, hbehind, ?_, ?_⟩
  · have opened : "url('" = "url(" ++ "'" := rfl
    have closed : "')" = "'" ++ ")" := rfl
    rw [quotedAddress_eq, opened, closed]
    simp only [String.append_assoc]
  · rw [String.toList_ofList]
    exact isLiteral_escaped_iff noEscape
  · have text : (String.ofList (escaped s.toList) ++ "')" ++ behind).toList =
        escaped s.toList ++ '\'' :: (")" ++ behind).toList := by
      simp
    have inLine : s.toList.any isLineBreak = false ↔ ∀ c ∈ s.toList, isLineBreak c = false := by
      simp only [List.any_eq_false, Bool.not_eq_true]
    rw [text, literal?_escaped noEscape, String.toList_ofList, ← inLine]
    cases s.toList.any isLineBreak <;> simp

/-- An address with a quote inside. -/
theorem address_closes_iff_quote :
    clean {} (.obj [("bg_image", .str "it's.png")]) = .ok [("bg_image", .str "it's.png")] ∧
      Settings.LimitsInRange {} ∧ ∃ front body behind : String,
        cascade [("bg_image", .str "it's.png")] ".s" =
            .ok (".s" ++ ", " ++ ".s" ++ " > * \x7b " ++ front ++ "url('" ++ body ++ "')" ++ behind) ∧
          IsLiteral '\'' body.toList ∧
          literal? '\'' (body ++ "')" ++ behind).toList = some (body.toList, (")" ++ behind).toList) := by
  have cleaned : clean {} (.obj [("bg_image", .str "it's.png")]) = .ok [("bg_image", .str "it's.png")] := rfl
  have inLine : ∀ c ∈ "it's.png".toList, isLineBreak c = false := by
    have free : "it's.png".toList.any isLineBreak = false := by decide
    simpa only [List.any_eq_false, Bool.not_eq_true] using free
  have limits : Settings.LimitsInRange {} := ⟨by decide +kernel, by decide +kernel, by decide +kernel⟩
  obtain ⟨returns, closes⟩ := address_closes_iff cleaned rfl ".s"
  obtain ⟨css, made⟩ := returns limits
  obtain ⟨front, body, behind, rfl, -, -, isLiteral, reads⟩ := closes css made
  exact ⟨cleaned, limits, front, body, behind, made, isLiteral.2 inLine, reads.2 inLine⟩

/-- A line that ends inside an address leaves its literal open. -/
theorem address_lineBreak :
    clean {} (.obj [("bg_image", .str "a\nb.png")]) = .ok [("bg_image", .str "a\nb.png")] ∧
      cascade [("bg_image", .str "a\nb.png")] ".s" =
        .ok ".s, .s > * \x7b background-image: url('a\nb.png'); \x7d\n" ∧
      literal? '\'' "a\nb.png'); \x7d\n".toList = none :=
  ⟨rfl, by decide +kernel, by decide +kernel⟩

end Style

end Pagewright
