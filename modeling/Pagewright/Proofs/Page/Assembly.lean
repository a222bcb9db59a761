import Pagewright.Page.Render
import Pagewright.Proofs.Page.Order
import Pagewright.Proofs.Pen.Tables
import Pagewright.Proofs.Pen.Yields
import Pagewright.Proofs.Text.Trim

/-!
# Pagewright.Proofs.Page.Assembly

What the CSS of a page is put together from.  Pages and single instances are rendered apart from each
other, each looking up elements and cleaning styles on its own.  The CSS of a page is nevertheless that of
its elements, each once, and then what every instance comes with when it is rendered alone, before the CSS
of the layout and of the page as a whole.
-/

namespace Pagewright

open Pen Text

/-! ## the elements of a catalogue -/

namespace Catalogue

variable {c : Catalogue} {slug : String} {e : Element}

/-- The element under a slug, if it may be used. -/
def usable? (c : Catalogue) (slug : String) : Option Element := (c.get? slug).filter (·.active)

/-- Whether a slug names an element that may be used and has CSS that is not blank. -/
def hasCss (c : Catalogue) (slug : String) : Bool :=
  (c.usable? slug).any fun e => e.css.toList.any (!isBlank ·)

/-- The CSS that the element under a slug brings along: a comment with its name, its slug if it has none,
and its CSS without the blanks around it. -/
def Brings (c : Catalogue) (slug part : String) : Prop :=
  ∃ e, c.usable? slug = some e ∧
    part = "/* Element: " ++ String.ofList ((if e.name = "" then e.slug else e.name).toList.filter
      fun x => x != '*' && x != '/') ++ " */\n" ++ trimmed e.css ++ "\n"

/-- An element is found under its own slug. -/
theorem slug_of_usable? (h : c.usable? slug = some e) : e.slug = slug := by
  obtain ⟨found, -⟩ := Option.filter_eq_some_iff.1 h
  simpa using List.find?_some found

theorem trimmed_eq_empty_iff {s : String} :
    (trimmed s).isEmpty = true ↔ (s.toList.any (!isBlank ·)) = false := by
  simp [trimmed, trim_eq_nil_iff]

/-- The elements among some that may be used bring their CSS along, each under its slug. -/
theorem forall₂_brings {es : List Element} (known : ∀ e ∈ es, c.usable? e.slug = some e) :
    List.Forall₂ c.Brings ((es.map (·.slug)).filter c.hasCss) (es.filterMap Renderer.elementCss?) := by
  induction es with
  | nil => exact .nil
  | cons e es ih =>
      have own := known e (List.mem_cons_self ..)
      have rest := ih fun f mem => known f (List.mem_cons_of_mem _ mem)
      have has : c.hasCss e.slug = e.css.toList.any (!isBlank ·) := by simp [hasCss, own]
      rw [List.map_cons]
      by_cases blank : (trimmed e.css).isEmpty = true
      · rw [List.filter_cons_of_neg, List.filterMap_cons_none]
        · exact rest
        · simp [Renderer.elementCss?, blank]
        · simp [has, trimmed_eq_empty_iff.1 blank]
      · rw [List.filter_cons_of_pos, List.filterMap_cons_some]
        · exact .cons ⟨e, own, rfl⟩ rest
        · simp [Renderer.elementCss?, blank, String.isEmpty_iff]
        · rw [has]
          exact eq_true_of_ne_false fun none => blank (trimmed_eq_empty_iff.2 none)

end Catalogue

namespace Renderer

/-! ## first appearances -/

/-- Of slugs with repetitions, it does not matter whether some are left out before or after the repetitions are.
-/
theorem filter_eraseDups (p : String → Bool) (slugs : List String) :
    slugs.eraseDups.filter p = (slugs.filter p).eraseDups := by
  induction slugs using List.reverseRecOn with
  | nil => rfl
  | append_singleton slugs slug ih =>
      rw [eraseDups_concat, List.filter_append]
      by_cases kept : p slug = true
      · rw [List.filter_cons_of_pos kept, List.filter_nil, eraseDups_concat]
        by_cases known : slug ∈ slugs
        · simp [known, kept, ih]
        · simp [known, kept, ih]
      · rw [List.filter_cons_of_neg kept, List.filter_nil, List.append_nil]
        by_cases known : slug ∈ slugs
        · simp [known, ih]
        · simp [known, kept, ih]

/-- The elements with different slugs are those with the first appearances of the slugs. -/
theorem map_slug_distinct (es : List Element) :
    (distinct es).map (·.slug) = (es.map (·.slug)).eraseDups := by
  induction es using List.reverseRecOn with
  | nil => rfl
  | append_singleton es e ih =>
      have step : distinct (es ++ [e]) =
          if (distinct es).any fun f => f.slug == e.slug then distinct es else distinct es ++ [e] := by
        simp [distinct]
      have seen : ((distinct es).any fun f => f.slug == e.slug) = decide (e.slug ∈ es.map (·.slug)) := by
        have mem : e.slug ∈ (distinct es).map (·.slug) ↔ e.slug ∈ es.map (·.slug) := by
          rw [ih, List.mem_eraseDups]
        rw [Bool.eq_iff_iff, decide_eq_true_iff, ← mem]
        simp
      rw [step, seen, List.map_append, List.map_singleton, eraseDups_concat]
      by_cases known : e.slug ∈ es.map (·.slug)
      · simp only [known, decide_true, if_true, ih]
      · simp only [known, decide_false, Bool.false_eq_true, if_false, List.map_append, ih]
        rfl

theorem mem_of_mem_distinct {e : Element} {es : List Element} (h : e ∈ distinct es) : e ∈ es := by
  induction es using List.reverseRecOn with
  | nil => exact h
  | append_singleton es f ih =>
      unfold distinct at h
      rw [List.foldl_append] at h
      simp only [List.foldl_cons, List.foldl_nil] at h
      split at h
      · exact List.mem_append_left _ (ih h)
      · rw [List.mem_append] at h ⊢
        exact h.imp_left ih

/-! ## instances and their elements -/

section

variable {r : Renderer} {c : Catalogue} {i : Instance} {e : Element} {shown : Rendering}

/-- Instances with the elements that their slugs name. -/
def placed (c : Catalogue) (is : List Instance) : List (Instance × Element) :=
  is.filterMap fun i => (c.usable? i.slug).map (i, ·)

/-- With a catalogue behind it, the renderer shows the instances whose elements may be used. -/
theorem shown_eq (stored : r.source = c.source) (is : List Instance) :
    r.shown is = .ok (placed c is) := by
  induction is with
  | nil => rfl
  | cons i is ih =>
      have step : placed c (i :: is) =
          ((c.usable? i.slug).map (i, ·)).toList ++ placed c is := by
        cases found : c.usable? i.slug <;> simp [placed, found]
      rw [Renderer.shown, stored, ih, step]
      unfold Catalogue.usable? Catalogue.source
      cases c.get? i.slug with
      | none => rfl
      | some e =>
        cases active : e.active <;>
          simp [active, Option.filter, bind, Except.bind, pure, Except.pure]

theorem map_slug_placed (c : Catalogue) (is : List Instance) :
    (placed c is).map (·.2.slug) = (is.map (·.slug)).filter fun slug => (c.usable? slug).isSome := by
  induction is with
  | nil => rfl
  | cons i is ih =>
      unfold placed at ih ⊢
      cases found : c.usable? i.slug with
      | none => simp [found, ih]
      | some e => simp [found, ih, Catalogue.slug_of_usable? found]

theorem mem_placed_iff {is : List Instance} :
    (i, e) ∈ placed c is ↔ i ∈ is ∧ c.usable? i.slug = some e := by
  simp only [placed, List.mem_filterMap, Option.map_eq_some_iff, Prod.mk.injEq]
  constructor
  · rintro ⟨j, mem, f, found, rfl, rfl⟩
    exact ⟨mem, found⟩
  · rintro ⟨mem, found⟩
    exact ⟨i, mem, e, found, rfl, rfl⟩

/-- The CSS of an instance of an element. -/
def containerCss (r : Renderer) (ie : Instance × Element) : Except Fault String := do
  Container.css r.settings ie.2.slug ie.1.id (← Style.clean r.settings (.obj ie.1.styleData))

/-- An instance that is shown in a container comes with the CSS of the container. -/
theorem containerCss_of_container {data : Members} (h : r.container e i data = .ok shown) :
    r.containerCss (i, e) = .ok shown.css := by
  have made : Yields (fun shown => r.containerCss (i, e) = .ok shown.css) (r.container e i data) := by
    refine Yields.bind fun inner _ => Yields.bind fun style cleaned => ?_
    refine Yields.bind fun inline _ => Yields.bind fun css made => yields_ok ?_
    rw [containerCss, cleaned]
    exact made
  exact made shown h

theorem slotData_of_whole (whole : i.slotData.members?.isSome = true) : ∃ data, i.slotData = .obj data := by
  cases eq : i.slotData with
  | obj data => exact ⟨data, rfl⟩
  | _ =>
      rw [eq] at whole
      cases whole

/-- An instance with slot data and an element that may be used comes with the CSS of its container. -/
theorem containerCss_of_rendered (stored : r.source = c.source)
    (whole : i.slotData.members?.isSome = true) (usable : c.usable? i.slug = some e)
    (rendered : (r.instance? i none).result = .ok shown) : r.containerCss (i, e) = .ok shown.css := by
  obtain ⟨data, object⟩ := slotData_of_whole whole
  obtain ⟨found, active⟩ := Option.filter_eq_some_iff.1 usable
  unfold instance? at rendered
  simp only [Option.elim, stored, Catalogue.source, found, object, active, Bool.not_true,
    Bool.false_eq_true, if_false] at rendered
  split at rendered
  · cases rendered
  · obtain ⟨completed, -, rendered⟩ := bind_eq_ok_iff.1 rendered
    exact containerCss_of_container rendered

/-- An instance without an element that may be used comes with no CSS. -/
theorem css_of_rendered (stored : r.source = c.source) (unusable : c.usable? i.slug = none)
    (rendered : (r.instance? i none).result = .ok shown) : shown.css = "" := by
  unfold instance? at rendered
  simp only [Option.elim, stored, Catalogue.source] at rendered
  cases found : c.get? i.slug with
  | none =>
      simp only [found] at rendered
      cases rendered
      rfl
  | some e =>
      have inactive : e.active = false := by simpa [Catalogue.usable?, found] using unusable
      simp only [found, inactive, Bool.not_false, if_true] at rendered
      cases rendered
      rfl

/-- The CSS of some instances is that which they come with one by one, as far as there is any. -/
theorem filter_map_placed {is : List Instance} {rendering : Instance → Rendering}
    (bare : ∀ i ∈ is, c.usable? i.slug = none → (rendering i).css = "") :
    ((placed c is).map fun ie => (rendering ie.1).css).filter (!·.isEmpty) =
      (is.map fun i => (rendering i).css).filter (!·.isEmpty) := by
  induction is with
  | nil => rfl
  | cons i is ih =>
      have rest := ih fun j mem => bare j (List.mem_cons_of_mem _ mem)
      cases found : c.usable? i.slug with
      | some e =>
        have step : placed c (i :: is) = (i, e) :: placed c is := by simp [placed, found]
        rw [step, List.map_cons, List.map_cons, List.filter_cons, List.filter_cons, rest]
      | none =>
        have step : placed c (i :: is) = placed c is := by simp [placed, found]
        have empty := bare i (List.mem_cons_self ..) found
        rw [step, rest, List.map_cons, List.filter_cons_of_neg (by simp [empty])]

end

/-! ## pages -/

section

variable {r : Renderer} {c : Catalogue}

/-- The CSS that the elements of some instances bring along, each once. -/
def elementParts (c : Catalogue) (is : List Instance) : List String :=
  (distinct ((placed c is).map (·.2))).filterMap elementCss?

/-- The CSS of a page in one expression: its parts are those of the elements, of the instances, of the layout
and of the page itself. -/
theorem css_eq (stored : r.source = c.source) (page : Page) :
    r.css page = (do
      let containers ← (placed c page.ordered).mapM r.containerCss
      let layout ← Layout.css r.settings page.layout
      let style ← Style.pageCss r.settings (.obj page.style)
      return String.intercalate "\n" (elementParts c page.ordered ++
        containers.filter (!·.isEmpty) ++ [layout].filter (!·.isEmpty) ++
        [if style.isEmpty then "" else "/* Page Layout Styles */\n" ++ style].filter (!·.isEmpty))) := by
  rw [Renderer.css, shown_eq stored]
  rfl

/-- The elements of some instances bring their CSS along in the order in which their slugs appear first. -/
theorem forall₂_brings_elementParts (c : Catalogue) (is : List Instance) :
    List.Forall₂ c.Brings ((is.map (·.slug)).filter c.hasCss).eraseDups (elementParts c is) := by
  have known : ∀ e ∈ distinct ((placed c is).map (·.2)), c.usable? e.slug = some e := by
    intro e mem
    obtain ⟨⟨i, _⟩, placed, rfl⟩ := List.mem_map.1 (mem_of_mem_distinct mem)
    obtain ⟨-, found⟩ := mem_placed_iff.1 placed
    exact (Catalogue.slug_of_usable? found).symm ▸ found
  have brings := Catalogue.forall₂_brings known
  have usable {slug : String} (has : c.hasCss slug = true) : (c.usable? slug).isSome = true := by
    unfold Catalogue.hasCss at has
    cases found : c.usable? slug with
    | none => simp [found] at has
    | some e => rfl
  have both : (fun slug => c.hasCss slug && (c.usable? slug).isSome) = c.hasCss := by
    funext slug
    cases has : c.hasCss slug with
    | false => rfl
    | true => simp [usable has]
  rwa [map_slug_distinct, filter_eraseDups, List.map_map, Function.comp_def, map_slug_placed,
    List.filter_filter, both] at brings

/-- Instances without an element that may be used do not show in the CSS of a page. -/
theorem css_only_usable (stored : r.source = c.source) (page : Page) :
    r.css (page.only fun i => (c.usable? i.slug).isSome) = r.css page := by
  have same : placed c (page.ordered.filter fun i => (c.usable? i.slug).isSome) =
      placed c page.ordered := by
    unfold placed
    rw [List.filterMap_filter]
    congr 1
    funext i
    cases c.usable? i.slug <;> rfl
  rw [css_eq stored, css_eq stored, Page.ordered_only, elementParts, same]
  rfl

/-- The CSS of a page whose instances all have slot data is, line after line: the CSS of the elements that may
be used and have some, in the order in which their slugs appear first on the page, each once; the CSS that
each instance comes with when it is rendered alone, in the order of the page; the CSS of the layout; and that
of the page as a whole.  An instance whose slug names no element that may be used contributes nothing. -/
theorem css_eq_groups {r : Renderer} {c : Catalogue} (stored : r.source = c.source) {page : Page}
    (whole : ∀ i ∈ page.instances, i.slotData.members?.isSome = true)
    {rendering : Instance → Rendering}
    (rendered : ∀ i ∈ page.instances, (r.instance? i none).result = .ok (rendering i))
    {sheet : String} (made : r.css page = .ok sheet) :
    ∃ slugs parts layout style,
      slugs = ((page.ordered.map (·.slug)).filter c.hasCss).eraseDups ∧ slugs.Nodup ∧
      List.Forall₂ c.Brings slugs parts ∧
      Layout.css r.settings page.layout = .ok layout ∧
      Style.pageCss r.settings (.obj page.style) = .ok style ∧
      sheet = String.intercalate "\n" (parts ++
        (page.ordered.map fun i => (rendering i).css).filter (!·.isEmpty) ++
        [layout].filter (!·.isEmpty) ++
        (if style = "" then [] else ["/* Page Layout Styles */\n" ++ style])) ∧
      (∀ i ∈ page.instances, c.usable? i.slug = none → (rendering i).css = "") ∧
      r.css (page.only fun i => (c.usable? i.slug).isSome) = .ok sheet := by
  have bare : ∀ i ∈ page.instances, c.usable? i.slug = none → (rendering i).css = "" :=
    fun i mem unusable => css_of_rendered stored unusable (rendered i mem)
  have containers : (placed c page.ordered).mapM r.containerCss =
      .ok ((placed c page.ordered).map fun ie => (rendering ie.1).css) := by
    refine mapM_eq_map fun ie mem => ?_
    obtain ⟨mem, found⟩ := mem_placed_iff.1 mem
    have mem := Page.mem_ordered.1 mem
    exact containerCss_of_rendered stored (whole _ mem) found (rendered _ mem)
  have alone := filter_map_placed fun i mem => bare i (Page.mem_ordered.1 mem)
  have full := made
  rw [css_eq stored, containers] at made
  -- with the instances known, only the layout and the styles of the page can fail
  cases layout : Layout.css r.settings page.layout with
  | error f =>
      rw [layout] at made
      cases made
  | ok layout' =>
      cases style : Style.pageCss r.settings (.obj page.style) with
      | error f =>
        rw [layout, style] at made
        cases made
      | ok style' =>
        rw [layout, style] at made
        cases made
        refine ⟨_, _, layout', style', rfl, nodup_eraseDups _, forall₂_brings_elementParts c _, rfl, rfl,
          ?_, bare, (css_only_usable stored page).trans full⟩
        rw [alone]
        congr 2
        by_cases none : style' = "" <;> simp [none]

/-- A catalogue with an element that may be used and one that may not. -/
def market : Catalogue :=
  .ofList
    [⟨1, "card", "", "", " p\x7b\x7d ", [], 1, true, "", ""⟩,
      ⟨2, "old", "", "", "b\x7b\x7d", [], 1, false, "", ""⟩]

/-- A renderer for the catalogue. -/
def marketRenderer : Renderer := ⟨{}, market.source, none⟩

/-- A page with two instances of one element, and one of the other between them. -/
def marketPage : Page where
  instances :=
    [⟨.int 1, "card", .obj [], [("padding_top", .int 8)], 0⟩, ⟨.int 2, "old", .obj [], [], 0⟩,
      ⟨.int 3, "card", .obj [], [], 1⟩]
  layout := .str "narrow"
  theme := .null
  style := []

/-- What the instances are rendered as. -/
def marketRendering (i : Instance) : Rendering :=
  (marketRenderer.instance? i none).result.toOption.getD .empty

/-- The instances stand in the order of their places already. -/
theorem ordered_marketPage : marketPage.ordered = marketPage.instances :=
  List.mergeSort_of_pairwise (by decide)

/-- The card brings its CSS along once, and the element that may not be used brings none. -/
theorem css_eq_groups_market :
    marketRenderer.source = market.source ∧
      (∀ i ∈ marketPage.instances, i.slotData.members?.isSome = true) ∧
      (∀ i ∈ marketPage.instances, (marketRenderer.instance? i none).result = .ok (marketRendering i)) ∧
      ∃ sheet parts, marketRenderer.css marketPage = .ok sheet ∧
        List.Forall₂ market.Brings ["card"] parts ∧
        marketRenderer.css (marketPage.only fun i => (market.usable? i.slug).isSome) = .ok sheet := by
  have whole : ∀ i ∈ marketPage.instances, i.slotData.members?.isSome = true := by decide
  have rendered : ∀ i ∈ marketPage.instances,
      (marketRenderer.instance? i none).result = .ok (marketRendering i) := by
    simp only [marketPage, List.forall_mem_cons]
    exact ⟨rfl, rfl, rfl, List.forall_mem_nil _⟩
  obtain ⟨sheet, made⟩ : ∃ sheet, marketRenderer.css marketPage = .ok sheet := by
    rw [css_eq (c := market) rfl, ordered_marketPage]
    exact ⟨_, rfl⟩
  obtain ⟨slugs, parts, layout, style, eq, -, brings, -, -, -, -, only⟩ :=
    css_eq_groups (c := market) rfl whole rendered made
  rw [ordered_marketPage] at eq
  have slugs_eq : slugs = ["card"] := eq.trans (by decide)
  exact ⟨rfl, whole, rendered, sheet, parts, made, slugs_eq ▸ brings, only⟩

end

end Renderer

end Pagewright
