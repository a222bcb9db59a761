import Pagewright.Markup.Tree
import Pagewright.Proofs.Markup.Plain
import Pagewright.Proofs.Page.Order
import Pagewright.Proofs.Page.Scope

/-!
# Pagewright.Proofs.Page.Segments

The HTML of a page is made of segments, one for each instance.  A segment is what its instance is rendered
as alone, or a placeholder if that fails, so the instances of a page do not affect each other; and it starts
with the tag of a container that shows the id of its instance, whatever the instance is made of.
-/

namespace Pagewright

open Markup

/-! ## opening tags -/

/-- The names of the attributes of containers and placeholders. -/
def containerAttributes : List String :=
  ["class", "data-element-id", "data-instance-id", "style", "data-error"]

/-- A text is the opening tag of a container, and what follows it: a line break or a comment, so no other
tag.  No value of an attribute has a quote or an angle bracket in it, so none ends before its own quote. -/
structure IsOpening (attributes : List Attribute) (behind html : String) : Prop where
  written : html = "<div" ++ printAttributes attributes ++ ">" ++ behind
  known : ∀ a ∈ attributes, a.name ∈ containerAttributes
  plain : ∀ a ∈ attributes, IsPlain a.value
  once : (attributes.map (·.name)).Nodup
  alone : "\n".toList <+: behind.toList ∨ "<!--".toList <+: behind.toList

/-- A text starts with one opening tag of a container, which shows an id. -/
def OpensContainer (id : Value) (html : String) : Prop :=
  ∃ attributes behind, IsOpening attributes behind html ∧
    ∃ value, ⟨"data-instance-id", value⟩ ∈ attributes ∧ unescape value = .ok (String.ofList id.plain)

/-- The characters of scopes are no markup. -/
theorem isMarkupChar_of_isScopeChar {c : Char} (h : Container.isScopeChar c = true) :
    isMarkupChar c = false := by
  cases hc : isMarkupChar c with
  | false => rfl
  | true =>
      simp only [isMarkupChar, Bool.or_eq_true, beq_iff_eq] at hc
      obtain ((rfl | rfl) | rfl) | rfl := hc <;> exact absurd h (by decide)

namespace Container

theorem isPlain_of_isKept {s : String} (h : IsKept s) : IsPlain s :=
  fun c hc => isMarkupChar_of_isScopeChar (h c hc)

/-- An attribute of a container is written like any other, with its value escaped. -/
theorem attr_eq_print (name value : String) : attr name value = Attribute.print ⟨name, escape value⟩ := rfl

/-- A plain value under one of the names. -/
def IsTidy (a : Attribute) : Prop := a.name ∈ containerAttributes ∧ IsPlain a.value

/-- An escaped value is plain. -/
theorem isTidy_escape {name : String} (known : name ∈ containerAttributes) (value : String) :
    IsTidy ⟨name, escape value⟩ := ⟨known, isPlain_escape value⟩

/-- A container shows the id of its instance. -/
theorem opensContainer_html (settings : Settings) (e : Element) (id : Value) (style : Members)
    (inline inner : String) : OpensContainer id (html settings e id style inline inner) := by
  let named : List Attribute :=
    [⟨"class", escape (classes settings e.slug style)⟩, ⟨"data-element-id", escape (toString e.id)⟩,
      ⟨"data-instance-id", escape (String.ofList id.plain)⟩]
  let styled : List Attribute := if inline.isEmpty then [] else [⟨"style", escape inline⟩]
  have tidy : ∀ a ∈ named ++ styled, IsTidy a := by
    rw [List.forall_mem_append]
    constructor
    · simp only [named, List.forall_mem_cons]
      exact ⟨isTidy_escape (by decide) _, isTidy_escape (by decide) _, isTidy_escape (by decide) _,
        List.forall_mem_nil _⟩
    · simp only [styled]
      split
      · exact List.forall_mem_nil _
      · exact List.forall_mem_singleton.2 (isTidy_escape (by decide) _)
  have written : html settings e id style inline inner =
      "<div" ++ printAttributes (named ++ styled) ++ ">" ++ ("\n" ++ inner ++ "\n</div>\n") := by
    rw [← String.toList_inj]
    simp only [html, idAttribute, attr, named, styled]
    split <;> simp [printAttributes, Attribute.print]
  have once : ((named ++ styled).map (·.name)).Nodup := by
    simp only [styled]
    split <;> simp [named]
  refine ⟨named ++ styled, _, ⟨written, fun a ha => (tidy a ha).1, fun a ha => (tidy a ha).2, once, ?_⟩,
    _, List.mem_append_left _ (by simp [named]), unescape_escape _⟩
  exact .inl (by simp)

/-- So does a placeholder, whatever the trouble. -/
theorem opensContainer_placeholder {settings : Settings} (safe : IsKept settings.elementClassPrefix)
    (i : Instance) (t : Trouble) : OpensContainer i.id (placeholder settings i t) := by
  have plain : IsPlain settings.elementClassPrefix := isPlain_of_isKept safe
  let attributes : List Attribute :=
    [⟨"class", settings.elementClassPrefix ++ " " ++ settings.elementClassPrefix ++ "-placeholder"⟩,
      ⟨"data-instance-id", escape (String.ofList i.id.plain)⟩, ⟨"data-error", escape t.name⟩]
  have tidy : ∀ a ∈ attributes, IsTidy a := by
    simp only [attributes, List.forall_mem_cons]
    refine ⟨⟨by simp [containerAttributes], ?_⟩, isTidy_escape (by decide) _,
      isTidy_escape (by decide) _, List.forall_mem_nil _⟩
    exact ((plain.append (by decide)).append plain).append (by decide)
  have written : placeholder settings i t = "<div" ++ printAttributes attributes ++ ">" ++
      ("<!-- element unavailable: " ++ escape i.slug ++ " --></div>\n") := by
    unfold placeholder idAttribute
    dsimp only
    have opened : "<div class=\"" = "<div" ++ (" " ++ "class" ++ "=\"") := by decide
    have ended : "-placeholder\"" = "-placeholder" ++ "\"" := by decide
    have comment : "><!-- element unavailable: " = ">" ++ "<!-- element unavailable: " := by decide
    rw [opened, ended, comment]
    simp only [attributes, attr_eq_print, printAttributes, List.map_cons, List.map_nil, String.join_cons,
      String.join_nil, String.append_assoc, String.append_empty]
    simp only [Attribute.print, String.append_assoc]
  have once : (attributes.map (·.name)).Nodup := by simp [attributes]
  refine ⟨attributes, _, ⟨written, fun a ha => (tidy a ha).1, fun a ha => (tidy a ha).2, once, ?_⟩,
    _, by simp [attributes], unescape_escape _⟩
  exact .inr (by simp)

end Container

/-! ## segments -/

namespace Renderer

variable {r : Renderer}

/-- Whatever an instance is rendered as starts with a container that shows its id. -/
theorem yields_opensContainer (safe : Container.IsKept r.settings.elementClassPrefix) (i : Instance)
    (given : Option Element) :
    Yields (fun shown => OpensContainer i.id shown.html) (r.instance? i given).result := by
  have replaced (t : Container.Trouble) : Yields (fun shown : Rendering => OpensContainer i.id shown.html)
      (.ok ⟨Container.placeholder r.settings i t, ""⟩) :=
    yields_ok (Container.opensContainer_placeholder safe i t)
  unfold instance?
  dsimp only
  split
  · exact yields_error _
  · exact replaced _
  · split
    · exact replaced _
    · split
      · split
        · exact yields_error _
        · refine Yields.bind fun data _ => Yields.bind fun inner _ => Yields.bind fun style _ => ?_
          refine Yields.bind fun inline _ => Yields.bind fun css _ => yields_ok ?_
          exact Container.opensContainer_html ..
      · exact replaced _

/-- So does the segment of any instance. -/
theorem opensContainer_segment (safe : Container.IsKept r.settings.elementClassPrefix) (i : Instance) :
    OpensContainer i.id (r.segment i) := by
  unfold segment
  split
  · next shown rendered => exact yields_opensContainer safe i none shown rendered
  · exact Container.opensContainer_placeholder safe i .renderError

/-- The HTML of a page is always there, and is one segment after the other in the order of its instances.  A
segment is what its instance alone is rendered as, or a placeholder if it cannot be rendered; leaving
instances out leaves the other segments as they are; and each segment starts with one opening tag that shows
the id of its instance. -/
theorem html_eq_segments (r : Renderer) (safe : Container.IsKept r.settings.elementClassPrefix)
    (page : Page) :
    ∃ row, IsInOrder page.instances row ∧ r.html page = String.join (row.map r.segment) ∧
      (∀ p, r.html (page.only p) = String.join ((row.filter p).map r.segment)) ∧
      ∀ i ∈ row,
        (∀ shown, (r.instance? i none).result = .ok shown → r.segment i = shown.html) ∧
        (∀ f, (r.instance? i none).result = .error f →
          r.segment i = Container.placeholder r.settings i .renderError) ∧
        OpensContainer i.id (r.segment i) := by
  refine ⟨page.ordered, page.isInOrder_ordered, rfl, fun p => ?_, fun i _ => ⟨?_, ?_, ?_⟩⟩
  · rw [Renderer.html, Page.ordered_only]
  · intro shown rendered
    rw [segment, rendered]
  · intro f failed
    rw [segment, failed]
  · exact opensContainer_segment safe i

/-- A renderer whose source of elements fails for one slug and knows no other. -/
def shakyRenderer : Renderer where
  settings := {}
  source slug := if slug = "broken" then .error .overflow else .ok none
  enricher := none

/-- An instance whose id is a quote. -/
def quoteInstance (slug : String) (place : Int) : Instance := ⟨.str "\"", slug, .obj [], [], place⟩

/-- A page with two instances, one of which cannot be rendered. -/
def shakyPage : Page := ⟨[quoteInstance "broken" 1, quoteInstance "absent" 0], .null, .null, []⟩

/-- Neither the source that fails nor the slug that is not known keeps the other segment from the page. -/
theorem html_eq_segments_shaky :
    Container.IsKept shakyRenderer.settings.elementClassPrefix ∧
      ∃ row, IsInOrder shakyPage.instances row ∧
        shakyRenderer.html shakyPage = String.join (row.map shakyRenderer.segment) ∧
        (∀ i ∈ row, OpensContainer i.id (shakyRenderer.segment i)) ∧
        shakyRenderer.segment (quoteInstance "broken" 1) =
          Container.placeholder {} (quoteInstance "broken" 1) .renderError ∧
        shakyRenderer.segment (quoteInstance "absent" 0) =
          Container.placeholder {} (quoteInstance "absent" 0) .unknownElement := by
  have safe : Container.IsKept shakyRenderer.settings.elementClassPrefix := by decide
  obtain ⟨row, inOrder, joined, -, segments⟩ := html_eq_segments shakyRenderer safe shakyPage
  have mem {i : Instance} (h : i ∈ shakyPage.instances) : i ∈ row := inOrder.mem_iff.2 h
  obtain ⟨-, failed, -⟩ := segments (quoteInstance "broken" 1) (mem (by simp [shakyPage]))
  obtain ⟨rendered, -, -⟩ := segments (quoteInstance "absent" 0) (mem (by simp [shakyPage]))
  exact ⟨safe, row, inOrder, joined, fun i hi => (segments i hi).2.2, failed _ rfl, rendered _ rfl⟩

end Renderer

end Pagewright
