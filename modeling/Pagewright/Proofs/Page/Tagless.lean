import Pagewright.Proofs.Css.Characters
import Pagewright.Proofs.Page.Assembly
import Pagewright.Proofs.Style.Address
import Pagewright.Proofs.Style.Lookup
import Pagewright.Proofs.Style.Values

/-!
# Pagewright.Proofs.Page.Tagless

What authors give cannot close the element that their CSS stands in.  No tag begins in the CSS of a container or
in the styles of a page, whatever style data, slug and id they are made of, so a tag in the CSS of a page is one
that an element brings along.
-/

namespace Pagewright

open Text

/-- No tag begins in a text. -/
def Tagless (s : String) : Prop := IsFree (· == '<') s

instance (s : String) : Decidable (Tagless s) := inferInstanceAs (Decidable (IsFree _ s))

/-- A text without tags is one in which the character that begins them does not occur. -/
theorem tagless_iff {s : String} : Tagless s ↔ '<' ∉ s.toList := by
  constructor
  · intro h
    exact h.not_mem rfl
  · rintro new c mem
    exact beq_false_of_ne fun e => new (e ▸ mem)

/-- Texts without tags make a text without tags. -/
theorem Tagless.append {s t : String} (hs : Tagless s) (ht : Tagless t) : Tagless (s ++ t) := IsFree.append hs ht

/-- Leaving texts out brings no tag in. -/
theorem tagless_of_mem_filter {texts : List String} {keep : String → Bool} (h : ∀ t ∈ texts, Tagless t) :
    ∀ t ∈ texts.filter keep, Tagless t :=
  fun t mem => h t (List.mem_filter.1 mem).1

/-! ## declarations -/

namespace Style

variable {settings : Settings} {data : Members}

/-- The value of a declaration has no tags: `<` is not among its characters. -/
theorem IsValue.tagless {s : String} (h : IsValue s) : Tagless s :=
  h.isFree fun c hc => by rw [beq_iff_eq.1 hc]; rfl

/-- A declaration consists of its name and its value. -/
theorem Declaration.tagless_text {d : Declaration} (named : Tagless d.property) (h : Tagless d.value) :
    Tagless d.text :=
  (named.append (by decide)).append h

/-- Quotes around an address bring no tag in. -/
theorem tagless_quotedAddress {s : String} (h : Tagless s) : Tagless (quotedAddress s) := by
  have escape : ['\\', '\''].any (· == '<') = false := by decide
  refine isFree_ofList.2 fun c hc => ?_
  rw [List.cons_append, List.mem_cons, List.mem_append, List.mem_flatMap, List.mem_singleton] at hc
  obtain rfl | ⟨d, hd, hc⟩ | rfl := hc
  · rfl
  · split at hc
    · exact Bool.eq_false_iff.2 (List.any_eq_false.1 escape c hc)
    · exact List.mem_singleton.1 hc ▸ h d hd
  · rfl

/-- An address is only taken over as that of an image if it has no `<`. -/
theorem tagless_backgroundImage {d : Declaration} (h : backgroundImage? data = some d) : Tagless d.text := by
  obtain ⟨s, found, rfl⟩ := Option.map_eq_some_iff.1 h
  have address := (Bool.and_eq_true_iff.1 (Option.filter_eq_some_iff.1 found).2).2
  have tagless := tagless_iff.2 (not_mem_of_isImageAddress (d := '<') (by decide) rfl rfl address)
  have quoted : Tagless ("url(" ++ quotedAddress s ++ ")") :=
    (Tagless.append (by decide) (tagless_quotedAddress tagless)).append (by decide)
  exact Declaration.tagless_text (by decide : Tagless "background-image") quoted

/-- A declaration with a known name and a value is without tags. -/
theorem Declaration.IsPlain.tagless {d : Declaration} (h : d.IsPlain) : Tagless d.text :=
  Declaration.tagless_text h.1.tagless h.2.tagless

/-- Declarations are only joined. -/
theorem tagless_declarationsText {ds : List Declaration} (h : ∀ d ∈ ds, Tagless d.text) :
    Tagless (declarationsText ds) :=
  IsFree.intercalate (by decide) (List.forall_mem_map.2 h)

/-- The styles of a container itself are plain declarations. -/
theorem yields_tagless_inline (data : Members) : Yields Tagless (inline data) :=
  Yields.bind fun ds eq => yields_ok <|
    tagless_declarationsText fun d mem => (yields_inlineDeclarations data ds eq d mem).tagless

/-- The declarations of the cascade are plain, but for the background image, which was treated above. -/
theorem tagless_of_cascadeDeclarations {ds : List Declaration} (h : cascadeDeclarations data = .ok ds) :
    ∀ d ∈ ds, Tagless d.text :=
  fun d mem => (yields_cascadeDeclarations data ds h d mem).elim (·.tagless) tagless_backgroundImage

/-- The rule of the cascade adds a selector and braces. -/
theorem yields_tagless_cascade {selector : String} (hs : Tagless selector) :
    Yields Tagless (cascade data selector) := by
  refine Yields.bind fun ds eq => ?_
  have text := tagless_declarationsText (tagless_of_cascadeDeclarations eq)
  split
  · exact yields_ok (by decide)
  · have front := ((hs.append (by decide : Tagless ", ")).append hs).append (by decide : Tagless " > * \x7b ")
    exact yields_ok ((front.append text).append (by decide))

/-! ## author CSS -/

/-- The author CSS of clean style data is the cleaned form of some text. -/
theorem exists_sanitize {style : Value} {custom : String} (h : clean settings style = .ok data)
    (found : data.get "custom_css" = .str custom) : ∃ raw, custom = Css.sanitize settings raw := by
  cases style with
  | obj ms =>
      have field := cleanField?_of_cleanMembers h "custom_css"
      have own : cleanField? settings (normalize ms) "custom_css" =
          .ok (cleanCss? settings ((normalize ms).get "custom_css")) := rfl
      rw [Members.get, ← Except.ok.inj (own.symm.trans field)] at found
      cases cleaned : cleanCss? settings ((normalize ms).get "custom_css") with
      | none =>
          rw [cleaned] at found
          cases found
      | some v =>
          rw [cleaned] at found
          obtain ⟨s, hs, rfl⟩ := Option.map_eq_some_iff.1 cleaned
          obtain ⟨raw, -, rfl⟩ := Option.map_eq_some_iff.1 (Option.filter_eq_some_iff.1 hs).1
          exact ⟨raw, (Value.str.inj found).symm⟩
  | _ =>
      cases h
      cases found

/-- Scoping a text without tags for a selector without tags takes characters from these two and from its own
marks. -/
theorem tagless_scope {style : Value} {custom selector : String} (hs : Tagless selector)
    (h : clean settings style = .ok data) (found : data.get "custom_css" = .str custom) :
    Tagless (Css.scope custom selector) := by
  obtain ⟨raw, rfl⟩ := exists_sanitize h found
  exact Css.isFree_scope (by decide) hs (tagless_iff.2 (Css.not_mem_sanitize settings raw))

/-! ## pages -/

/-- The CSS of a target: its name in a comment, and declarations behind its selector. -/
theorem yields_tagless_targetCss {name selector : String} (hn : Tagless name) (hs : Tagless selector)
    (style : Value) : Yields Tagless (targetCss settings name selector style) := by
  refine Yields.bind fun data cleaned => Yields.bind fun inline hinline => Yields.bind fun ds hds => ?_
  have texts : ∀ text ∈ [inline, declarationsText ds], Tagless text := by
    rw [List.forall_mem_cons, List.forall_mem_singleton]
    exact ⟨yields_tagless_inline data inline hinline,
      tagless_declarationsText (tagless_of_cascadeDeclarations hds)⟩
  extract_lets shown rule
  have ruled : Tagless rule := by
    unfold rule
    split
    · decide
    · have inside : Tagless (String.intercalate "; " shown) :=
        IsFree.intercalate (by decide) (tagless_of_mem_filter texts)
      exact ((hs.append (by decide : Tagless " \x7b ")).append inside).append (by decide)
  split
  · next custom found =>
    have heading := (ruled.append (by decide : Tagless "/* Page Layout Custom CSS: ")).append hn
    exact yields_ok (((heading.append (by decide)).append (tagless_scope hs cleaned found)).append (by decide))
  · exact yields_ok ruled

/-- The targets have names and selectors of their own, which have no tags. -/
theorem yields_tagless_pageCss (settings : Settings) (style : Value) : Yields Tagless (pageCss settings style) := by
  have known : ∀ target ∈ targets, Tagless target.1 ∧ Tagless target.2 := by decide
  cases style with
  | obj ms =>
      refine Yields.bind fun parts eq => yields_ok (IsFree.join ?_)
      exact yields_mapM (fun target mem => yields_tagless_targetCss (known target mem).1 (known target mem).2 _)
        parts eq
  | _ => exact yields_ok (by decide)

end Style

/-! ## containers -/

namespace Container

variable {settings : Settings}

/-- What goes into a selector is made of letters, digits and a few signs. -/
theorem tagless_scopeText (s : String) : Tagless (scopeText s) :=
  isFree_filter fun c keep => beq_false_of_ne fun e => by rw [e] at keep; cases keep

/-- The selector of a container is without tags if the prefix of its class is, which the site chooses. -/
theorem tagless_scope (plain : Tagless settings.elementClassPrefix) (slug : String) (id : Value) :
    Tagless (scope settings slug id) := by
  have front := ((by decide : Tagless ".").append plain).append (by decide : Tagless "-")
  have cls := (front.append (tagless_scopeText slug)).append (by decide : Tagless "[data-instance-id=\"")
  exact (cls.append (tagless_scopeText id.display)).append (by decide)

/-- No tag begins in the CSS of a container with clean style data. -/
theorem tagless_css (plain : Tagless settings.elementClassPrefix) {slug : String} {id style : Value}
    {data : Members} (cleaned : Style.clean settings style = .ok data) :
    Yields Tagless (css settings slug id data) := by
  have selector := tagless_scope plain slug id
  refine Yields.bind fun rule eq => ?_
  have ruled := Style.yields_tagless_cascade selector rule eq
  split
  · next custom found =>
    extract_lets confined
    split
    · exact yields_ok ruled
    · have heading := (ruled.append (by decide : Tagless "/* Custom CSS: instance #")).append
        (tagless_scopeText id.display)
      have authored := Style.tagless_scope selector cleaned found
      exact yields_ok (((heading.append (by decide)).append authored).append (by decide))
  · exact yields_ok ruled

end Container

/-! ## layouts -/

namespace Layout

variable {settings : Settings}

/-- After a replacement there are only characters of the new text and of the old one. -/
theorem mem_replaceFrom {c : Char} {old new cs : List Char} {skip : Nat}
    (h : c ∈ replaceFrom old new skip cs) : c ∈ new ∨ c ∈ cs := by
  induction cs generalizing skip with
  | nil => simp [replaceFrom] at h
  | cons d cs ih =>
      have later {skip : Nat} (h : c ∈ replaceFrom old new skip cs) : c ∈ new ∨ c ∈ d :: cs :=
        (ih h).imp_right (List.mem_cons_of_mem d)
      cases skip with
      | succ skip => exact later h
      | zero =>
          rw [replaceFrom] at h
          split at h
          · exact (List.mem_append.1 h).elim .inl later
          · rcases List.mem_cons.1 h with rfl | h
            · exact .inr (List.mem_cons_self ..)
            · exact later h

/-- The layout presets are fixed texts in which only the prefix of the site is put in. -/
theorem tagless_presetCss (plain : Tagless settings.elementClassPrefix) {preset : String × String}
    (mem : preset ∈ presets) : Tagless (presetCss settings preset.1 preset.2) := by
  have known : ∀ preset ∈ presets, Tagless preset.1 ∧ Tagless preset.2 := by
    simp only [presets, List.forall_mem_cons, List.not_mem_nil, false_implies, implies_true, and_true, Tagless,
      isFree_append]
    repeat' refine And.intro ?_ ?_
    all_goals exact isFree_of_eq_ofList rfl (by decide)
  obtain ⟨name, css⟩ := known preset mem
  have replaced : Tagless (String.ofList (replace ".lcms-el".toList
      ('.' :: settings.elementClassPrefix.toList) preset.2.toList)) := by
    refine isFree_ofList.2 fun c hc => ?_
    rcases mem_replaceFrom hc with hc | hc
    · rcases List.mem_cons.1 hc with rfl | hc
      · rfl
      · exact plain c hc
    · exact css c hc
  have heading := ((by decide : Tagless "/* Layout: ").append name).append (by decide : Tagless " */\n")
  exact (heading.append replaced).append (by decide)

/-- A layout that is found is one of the presets. -/
theorem mem_of_named? {v : Value} {preset : String × String} (h : named? v = .ok (some preset)) :
    preset ∈ presets := by
  obtain ⟨key, -, made⟩ := bind_eq_ok_iff.1 h
  obtain ⟨name, -, named⟩ := Option.bind_eq_some_iff.1 (Except.ok.inj made)
  obtain ⟨css, found, rfl⟩ := Option.map_eq_some_iff.1 named
  obtain ⟨before, after, eq, -⟩ := List.lookup_eq_some_iff.1 found
  rw [eq]
  simp

/-- The CSS of a layout is that of one preset. -/
theorem yields_tagless_css (plain : Tagless settings.elementClassPrefix) (layout : Value) :
    Yields Tagless (css settings layout) := by
  refine Yields.bind fun named found => ?_
  cases named with
  | some preset => exact yields_ok (tagless_presetCss plain (mem_of_named? found))
  | none =>
      refine Yields.bind fun usual found => ?_
      cases usual with
      | some preset => exact yields_ok (tagless_presetCss plain (mem_of_named? found))
      | none => exact yields_ok (by decide)

end Layout

/-! ## pages -/

namespace Renderer

variable {r : Renderer}

/-- An element brings its CSS with it; what is added for the container is without tags. -/
theorem tagless_containerCss (plain : Tagless r.settings.elementClassPrefix) (ie : Instance × Element) :
    Yields Tagless (r.containerCss ie) :=
  Yields.bind fun _ cleaned => Container.tagless_css plain cleaned

/-- An instance that is shown comes with CSS without tags. -/
theorem tagless_instance (plain : Tagless r.settings.elementClassPrefix) (i : Instance)
    (given : Option Element) :
    Yields (fun shown : Rendering => Tagless shown.css) (r.instance? i given).result := by
  have placeholder {html : String} : Yields (fun shown : Rendering => Tagless shown.css) (.ok ⟨html, ""⟩) :=
    yields_ok isFree_empty
  unfold instance?
  extract_lets replaced
  split
  · exact yields_error _
  · exact placeholder
  · next e _ =>
    split
    · exact placeholder
    · split
      · split
        · exact yields_error _
        · refine Yields.bind fun data _ shown made => ?_
          exact tagless_containerCss plain (i, e) _ (containerCss_of_container made)
      · exact placeholder

/-- The CSS of a page has no tags but those that its elements bring along. -/
theorem tagless_page (plain : Tagless r.settings.elementClassPrefix) {page : Page} {css : String}
    {shown : List (Instance × Element)} (hshown : r.shown page.ordered = .ok shown)
    (own : ∀ ie ∈ shown, ∀ part, elementCss? ie.2 = some part → Tagless part) (h : r.css page = .ok css) :
    Tagless css := by
  obtain ⟨ies, found, h⟩ := bind_eq_ok_iff.1 h
  cases Except.ok.inj (hshown.symm.trans found)
  obtain ⟨containers, contained, h⟩ := bind_eq_ok_iff.1 h
  obtain ⟨layout, laid, h⟩ := bind_eq_ok_iff.1 h
  obtain ⟨style, styled, h⟩ := bind_eq_ok_iff.1 h
  cases h
  have elements : ∀ part ∈ (distinct (shown.map (·.2))).filterMap elementCss?, Tagless part := by
    intro part mem
    obtain ⟨e, once, brought⟩ := List.mem_filterMap.1 mem
    obtain ⟨ie, placed, rfl⟩ := List.mem_map.1 (mem_of_mem_distinct once)
    exact own ie placed part brought
  have wrapped : Tagless (if style.isEmpty then "" else "/* Page Layout Styles */\n" ++ style) := by
    split
    · decide
    · exact (by decide : Tagless "/* Page Layout Styles */\n").append
        (Style.yields_tagless_pageCss _ _ style styled)
  refine IsFree.intercalate (by decide) ?_
  rw [List.forall_mem_append, List.forall_mem_append, List.forall_mem_append]
  refine ⟨⟨⟨elements, tagless_of_mem_filter ?_⟩, tagless_of_mem_filter ?_⟩, tagless_of_mem_filter ?_⟩
  · exact yields_mapM (fun ie _ => tagless_containerCss plain ie) containers contained
  · exact List.forall_mem_singleton.2 (Layout.yields_tagless_css plain _ layout laid)
  · exact List.forall_mem_singleton.2 wrapped

/-- No tag begins in the CSS of a container or in the styles of a page, if the class of containers has none.  So
it is with the CSS that a shown instance comes with, and a tag in the CSS of a page stands in what one of its
elements brings along. -/
theorem authored_css_has_no_tag {settings : Settings} (plain : '<' ∉ settings.elementClassPrefix.toList) :
    (∀ slug id style data css, Style.clean settings style = .ok data →
        Container.css settings slug id data = .ok css → '<' ∉ css.toList) ∧
      (∀ style css, Style.pageCss settings style = .ok css → '<' ∉ css.toList) ∧
      ∀ r : Renderer, r.settings = settings →
        (∀ i given shown, (r.instance? i given).result = .ok shown → '<' ∉ shown.css.toList) ∧
        ∀ page css, r.css page = .ok css → '<' ∈ css.toList →
          ∃ shown, r.shown page.ordered = .ok shown ∧
            ∃ ie ∈ shown, ∃ part, elementCss? ie.2 = some part ∧ '<' ∈ part.toList := by
  have plain := tagless_iff.2 plain
  refine ⟨fun slug id style data css cleaned made => ?_, fun style css made => ?_, ?_⟩
  · exact tagless_iff.1 (Container.tagless_css plain cleaned css made)
  · exact tagless_iff.1 (Style.yields_tagless_pageCss settings style css made)
  · rintro r rfl
    refine ⟨fun i given shown made => tagless_iff.1 (tagless_instance plain i given shown made), ?_⟩
    intro page css made tag
    obtain ⟨shown, found, -⟩ := bind_eq_ok_iff.1 made
    refine ⟨shown, found, ?_⟩
    by_contra none
    push Not at none
    have own : ∀ ie ∈ shown, ∀ part, elementCss? ie.2 = some part → Tagless part :=
      fun ie mem part brought => tagless_iff.2 (none ie mem part brought)
    exact tagless_iff.1 (tagless_page plain found own made) tag

/-- A style that tries to close the element that CSS stands in, behind a rule and in a colour. -/
def breakoutStyle : Value :=
  .obj [("custom_css", .str "a\x7bcolor:red\x7d</style><script>"), ("bg_color", .str "#fff</style>"),
    ("padding_top", .int 4)]

/-- What a hero with that style comes with. -/
def breakoutCss : String :=
  ".lcms-el-hero[data-instance-id=\"1\"], .lcms-el-hero[data-instance-id=\"1\"] > * \x7b " ++
    "padding-top: 4px; \x7d\n" ++
    "/* Custom CSS: instance #1 */\n.lcms-el-hero[data-instance-id=\"1\"] a\x7bcolor:red\x7d\n"

/-- The style above is cleaned of both tags, while the rule and the length stay. -/
theorem authored_css_has_no_tag_breakout :
    '<' ∉ ({} : Settings).elementClassPrefix.toList ∧
      ∃ data, Style.clean {} breakoutStyle = .ok data ∧
        Container.css {} "hero" (.int 1) data = .ok breakoutCss ∧ '<' ∉ breakoutCss.toList := by
  have plain : '<' ∉ ({} : Settings).elementClassPrefix.toList := by decide
  have made : (Style.clean {} breakoutStyle >>= Container.css {} "hero" (.int 1)) = .ok breakoutCss := by
    decide +kernel
  obtain ⟨data, cleaned, css⟩ := bind_eq_ok_iff.1 made
  exact ⟨plain, data, cleaned, css, (authored_css_has_no_tag plain).1 _ _ _ _ _ cleaned css⟩

end Renderer

end Pagewright
