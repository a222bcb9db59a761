import Mathlib.Algebra.Group.Int.Defs
import Pagewright.Pen.Variable
import Pagewright.Proofs.Page.Assembly
import Pagewright.Proofs.Style.Range

/-!
# Pagewright.Proofs.Page.Faults

Which pages have CSS.  An instance that fails becomes a placeholder in the HTML of a page, but nothing stands in
for CSS that fails.  There are two ways to fail: a number out of range, in the style of an instance or of the
page, and a layout that is named by a list or an object.
-/

namespace Pagewright

open Style

variable {settings : Settings}

theorem Container.exists_css_iff {slug : String} {id : Value} {style : Members} :
    (∃ css, Container.css settings slug id style = .ok css) ↔
      ∀ field ∈ cascadeFields, ¬ (style.get field).IsBeyond := by
  rw [← exists_cascade_iff (Container.scope settings slug id)]
  refine exists_bind_iff_left fun rule => ?_
  split
  · dsimp only
    split <;> exact ⟨_, rfl⟩
  · exact ⟨_, rfl⟩

theorem Layout.exists_named_iff {v : Value} :
    (∃ found, Layout.named? v = .ok found) ↔ Pen.isScalar v = true := by
  refine exists_map_iff.trans ?_
  cases v with
  | list vs => exact iff_of_false (fun ⟨_, eq⟩ => nomatch eq) (by simp [Pen.isScalar])
  | obj ms => exact iff_of_false (fun ⟨_, eq⟩ => nomatch eq) (by simp [Pen.isScalar])
  | _ => exact iff_of_true ⟨_, rfl⟩ rfl

/-- A page that names its layout by a list or an object has no layout, unless it is empty. -/
theorem Layout.exists_css_iff {layout : Value} :
    (∃ css, Layout.css settings layout = .ok css) ↔ (layout.isTruthy = true → Pen.isScalar layout = true) := by
  have named : (∃ css, Layout.css settings layout = .ok css) ↔
      ∃ found, Layout.named? (layout.orElse (.str settings.defaultLayout)) = .ok found := by
    refine exists_bind_iff_left fun found => ?_
    cases found with
    | some preset => exact ⟨_, rfl⟩
    | none =>
        obtain ⟨usual, eq⟩ := Layout.exists_named_iff (v := .str settings.defaultLayout).2 rfl
        dsimp only
        rw [eq]
        cases usual <;> exact ⟨_, rfl⟩
  rw [named, Layout.exists_named_iff, Value.orElse]
  split
  · next truthy => simp only [truthy, forall_const]
  · next empty => exact iff_of_true rfl fun truthy => absurd truthy empty

namespace Renderer

variable {r : Renderer} {c : Catalogue}

theorem exists_containerCss_iff {ie : Instance × Element} :
    (∃ css, r.containerCss ie = .ok css) ↔ InRange r.settings cascadeFields ie.1.styleData :=
  exists_bind_cleanMembers_iff mem_numericFields_of_mem_cascadeFields fun _ _ => Container.exists_css_iff

/-- A page has CSS exactly when the styles of its instances that can be shown are in range, its layout is not
named by a list or an object, and the styles of the page as a whole are in range.  Unless a limit of the settings
is itself out of range, all that counts in a style is the numbers that are given. -/
theorem exists_css_iff_inRange (stored : r.source = c.source) (page : Page) :
    ((∃ sheet, r.css page = .ok sheet) ↔
      (∀ i ∈ page.instances, (c.usable? i.slug).isSome = true →
        InRange r.settings cascadeFields i.styleData) ∧
      (page.layout.isTruthy = true → Pen.isScalar page.layout = true) ∧
      ∀ target ∈ targets, ∀ raw, page.style.get target.1 = .obj raw →
        InRange r.settings (cascadeFields ++ inlineFields raw) raw) ∧
    (r.settings.LimitsInRange →
      ((∃ sheet, r.css page = .ok sheet) ↔
        (∀ i ∈ page.instances, (c.usable? i.slug).isSome = true → NumbersInRange i.styleData) ∧
        (page.layout.isTruthy = true → Pen.isScalar page.layout = true) ∧
        ∀ target ∈ targets, ∀ raw, page.style.get target.1 = .obj raw → NumbersInRange raw)) := by
  have containers : (∃ css, (placed c page.ordered).mapM r.containerCss = .ok css) ↔
      ∀ i ∈ page.instances, (c.usable? i.slug).isSome = true →
        InRange r.settings cascadeFields i.styleData := by
    rw [exists_mapM_iff]
    simp only [exists_containerCss_iff]
    constructor
    · intro all i mem usable
      obtain ⟨e, found⟩ := Option.isSome_iff_exists.1 usable
      exact all (i, e) (mem_placed_iff.2 ⟨Page.mem_ordered.2 mem, found⟩)
    · intro all ie mem
      obtain ⟨mem, found⟩ := mem_placed_iff.1 mem
      exact all ie.1 (Page.mem_ordered.1 mem) (by rw [found]; rfl)
  have all : (∃ sheet, r.css page = .ok sheet) ↔
      (∃ css, (placed c page.ordered).mapM r.containerCss = .ok css) ∧
      (∃ css, Layout.css r.settings page.layout = .ok css) ∧
      ∃ css, Style.pageCss r.settings (.obj page.style) = .ok css := by
    rw [css_eq stored]
    exact exists_bind_iff_and fun _ => exists_bind_iff_and fun _ => exists_map_iff
  rw [containers, Layout.exists_css_iff, exists_pageCss_iff] at all
  refine ⟨all, fun limits => ?_⟩
  simpa only [inRange_iff limits] using all

/-- A page with one instance, the padding of which is out of range. -/
def widePage (slug : String) : Page :=
  ⟨[⟨.int 1, slug, .obj [], [("paddingTop", .int (2 ^ 1024))], 0⟩], .null, .null, []⟩

/-- The padding counts if the instance can be shown, and only then. -/
theorem exists_css_iff_inRange_market :
    marketRenderer.source = market.source ∧ marketRenderer.settings.LimitsInRange ∧
      (¬ ∃ sheet, marketRenderer.css (widePage "card") = .ok sheet) ∧
      ∃ sheet, marketRenderer.css (widePage "old") = .ok sheet := by
  have limits : marketRenderer.settings.LimitsInRange :=
    ⟨by decide +kernel, by decide +kernel, by decide +kernel⟩
  refine ⟨rfl, limits, fun made => ?_, ?_⟩
  · obtain ⟨styles, -, -⟩ := ((exists_css_iff_inRange (c := market) rfl (widePage "card")).2 limits).1 made
    have wide := styles _ (List.mem_singleton.2 rfl) (by decide) "padding_top" (by decide)
    exact wide ⟨2 ^ 1024, rfl, by decide +kernel⟩
  · refine ((exists_css_iff_inRange (c := market) rfl (widePage "old")).2 limits).2 ⟨?_, ?_, ?_⟩
    · rintro i mem usable
      obtain rfl := List.mem_singleton.1 mem
      exact absurd usable (by decide)
    · exact fun truthy => nomatch truthy
    · intro target _ raw eq
      cases eq

/-- A renderer for an empty catalogue. -/
def bareRenderer : Renderer := ⟨{}, Catalogue.empty.source, none⟩

theorem css_bareRenderer (layout theme : Value) (style : Members) :
    bareRenderer.css ⟨[], layout, theme, style⟩ = (do
      let layout ← Layout.css {} layout
      let style ← Style.pageCss {} (.obj style)
      return String.intercalate "\n" ([layout].filter (!·.isEmpty) ++
        [if style.isEmpty then "" else "/* Page Layout Styles */\n" ++ style].filter (!·.isEmpty))) := by
  have none : Page.ordered ⟨[], layout, theme, style⟩ = [] := by rw [Page.ordered, List.mergeSort_nil]
  rw [css_eq (c := Catalogue.empty) rfl, none]
  rfl

/-- A layout that is a list leaves a page without CSS, and so does a number out of range. -/
theorem css_bareRenderer_error :
    (∃ page, Page.ofValue (.obj [("layout_id", .list [.str "x"])]) = .ok page ∧
      bareRenderer.css page = .error .wrongKind) ∧
    ∃ page, Page.ofValue
        (.obj [("page_style", .obj [("page_body", .obj [("opacity", .int (2 ^ 1024))])])]) = .ok page ∧
      bareRenderer.css page = .error .overflow := by
  refine ⟨⟨⟨[], .list [.str "x"], .null, []⟩, rfl, ?_⟩,
    ⟨[], .null, .null, [("page_body", .obj [("opacity", .int (2 ^ 1024))])]⟩, rfl, ?_⟩
  · rw [css_bareRenderer]
    rfl
  · have beyond : Style.pageCss {} (.obj [("page_body", .obj [("opacity", .int (2 ^ 1024))])]) =
        .error .overflow := by decide +kernel
    rw [css_bareRenderer, beyond]
    rfl

end Renderer

end Pagewright
