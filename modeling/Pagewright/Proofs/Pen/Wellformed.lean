import Pagewright.Proofs.Pen.Leaf

/-!
# Pagewright.Proofs.Pen.Wellformed

The HTML of a document without raw texts is well formed.  The nodes of a container are drawn as markup by
induction; a reference is drawn as a copy of its component, in which there are no raw texts either.
-/

namespace Pagewright.Pen

open Markup

/-! ## nodes -/

/-- What documents without raw texts are drawn with, if classes start with a plain text. -/
structure Context.IsClean (cx : Context) : Prop where
  start : IsPlain cx.vocabulary.classStart
  components : ∀ c ∈ cx.components, MembersRawFree c.2

/-- A diagnostic is markup: what it says of a reference is escaped. -/
theorem isDrawn_diagnostic {classStart : String} (start : IsPlain classStart) (d : Dangling) :
    IsDrawn (diagnostic classStart d) := by
  have name := isPlain_escape d.name
  have reason : IsPlain d.cause.reason := by
    cases d.cause <;> decide
  have opening : IsPlain " (" := by decide
  have closing : IsPlain ")" := by decide
  have cls : IsPlain (classStart ++ "diagnostic") := start.append (by decide)
  have named := areProper_nil.cons "data-ref" (by decide) name
  have proper := (named.cons "data-pen-error" (by decide) (isPlain_escape d.cause.reason)).cons
    "class" (by decide) cls
  have comment := isDrawn_comment (((name.append opening).append reason).append closing)
  have written : commentStart ++ (escape d.name ++ " (" ++ d.cause.reason ++ ")") ++ " " =
      " pen: unresolved reference " ++ escape d.name ++ " (" ++ d.cause.reason ++ ") " := by
    simp only [commentStart, String.append_assoc]
    rfl
  rw [written] at comment
  exact comment.append (isDrawn_element (by decide) proper isDrawn_nil)

theorem mem_of_lookup {components : Components} {id : String} {component : Members}
    (h : components.lookup id = some component) : (id, component) ∈ components := by
  obtain ⟨before, after, rfl, -⟩ := List.lookup_eq_some_iff.1 h
  simp

mutual

/-- A node in such a context is drawn as markup. The recursion is that of the drawing: children are nearer to
the leaves, and a reference uses up one of the components that it may go into. -/
theorem yields_node {cx : Context} (clean : cx.IsClean) (place : Place) (isScope : Bool) {v : Value}
    (free : v.IsRawFree) : Yields IsDrawn (node cx place isScope v).result := by
  have nothing : Yields IsDrawn (pure [] : Drawing (List Tree)).result := yields_ok isDrawn_nil
  cases v with
  | obj ms =>
      rw [node]
      split
      · exact nothing
      · split
        · exact yields_error _
        · exact nothing
        · next kind _ =>
          split
          · exact nothing
          · cases kind with
            | frame => exact yields_container clean place isScope (frameTag_mem _) _ _ free
            | group => exact yields_container clean place isScope (by decide) _ _ free
            | text => exact Drawing.yields_orNothing isDrawn_nil (yields_text clean.start place free)
            | rectangle =>
                exact Drawing.yields_orNothing isDrawn_nil (yields_shape clean.start place _ ms)
            | ellipse =>
                exact Drawing.yields_orNothing isDrawn_nil (yields_shape clean.start place _ ms)
            | line => exact Drawing.yields_orNothing isDrawn_nil (yields_line clean.start place ms)
            | polygon =>
                exact Drawing.yields_orNothing isDrawn_nil
                  (yields_picture clean.start place ms (yields_polygonOutline ms))
            | path =>
                exact Drawing.yields_orNothing isDrawn_nil
                  (yields_picture clean.start place ms fun _ _ => yields_pathOutline ms)
            | icon => exact Drawing.yields_orNothing isDrawn_nil (yields_icon clean.start place ms)
            | reference => exact yields_reference clean place free
  | _ =>
      rw [node]
      · exact nothing
      · exact nofun
termination_by (unused cx.components place.within, sizeOf v)

/-- A container is an element of a known tag around its children. -/
theorem yields_container {cx : Context} (clean : cx.IsClean) (place : Place) (isScope : Bool)
    {tag : String} (known : tag ∈ elementTags) (layout : Value) (style : Styled String) {ms : Members}
    (free : MembersRawFree ms) :
    Yields IsDrawn (container cx place isScope tag layout style ms).result := by
  rw [container]
  refine Drawing.yields_orNothing isDrawn_nil ?_
  refine Drawing.yields_bind fun _ _ => Drawing.yields_bind fun _ _ => ?_
  have cls := areProper_class (isPlain_className clean.start ms)
  split
  · next vs h =>
    have := sizeOf_lt_of_children? h
    refine Drawing.yields_bind fun inner eq => yields_ok (isDrawn_element known cls ?_)
    exact yields_nodes clean _ (isRawFree_of_mem_children? free h) inner eq
  · exact yields_ok (isDrawn_element known cls isDrawn_nil)
termination_by (unused cx.components place.within, sizeOf ms)

/-- Nodes in a row are markup in a row. -/
theorem yields_nodes {cx : Context} (clean : cx.IsClean) (place : Place) {vs : List Value}
    (free : ∀ v ∈ vs, v.IsRawFree) : Yields IsDrawn (nodes cx place vs).result := by
  match vs with
  | [] =>
      rw [nodes]
      exact yields_ok isDrawn_nil
  | v :: rest =>
      rw [nodes]
      refine Drawing.yields_bind fun first hf => Drawing.yields_bind fun behind hb => yields_ok ?_
      have here := yields_node clean place false (free v (List.mem_cons_self ..)) first hf
      have there := fun w hw => free w (List.mem_cons_of_mem v hw)
      exact here.append (yields_nodes clean place there behind hb)
termination_by (unused cx.components place.within, sizeOf vs)

/-- A reference is its diagnostic, or the copy, which is made of unmarked data. -/
theorem yields_reference {cx : Context} (clean : cx.IsClean) (place : Place) {ms : Members}
    (free : MembersRawFree ms) : Yields IsDrawn (reference cx place ms).result := by
  rw [reference]
  refine Drawing.yields_orNothing isDrawn_nil ?_
  split
  · exact yields_ok (isDrawn_diagnostic clean.start _)
  · next id component h =>
    obtain ⟨found, new⟩ := component?_eq_ok h
    have known := clean.components (id, component) (mem_of_lookup found)
    split
    · exact yields_error _
    · next resolved eq =>
      have := unused_append_lt found new
      exact yields_node clean (place.refer id) true (yields_resolve free known resolved eq)
termination_by (unused cx.components place.within, sizeOf ms)

end

/-! ## documents -/

/-- The pages of a document are drawn in one session, one after the other. -/
theorem yields_drawAll (s : Session) (clean : s.context.IsClean) (isScope : Bool) {vs : List Value}
    (free : ∀ v ∈ vs, v.IsRawFree) : Yields (fun r => IsDrawn r.2) (s.drawAll isScope vs) := by
  induction vs generalizing s with
  | nil => exact yields_ok isDrawn_nil
  | cons v vs ih =>
      have hv := free v (List.mem_cons_self ..)
      have rest := fun w hw => free w (List.mem_cons_of_mem v hw)
      have first := yields_node clean s.place isScope hv
      unfold Session.drawAll
      split
      · next next trees eq =>
        obtain ⟨rfl, drawn⟩ := Prod.mk.inj eq
        refine Yields.bind fun r hr => yields_ok ?_
        exact (first trees drawn).append (ih (s.draw isScope v).1 clean rest r hr)
      · exact yields_error _

/-- The components of a document without raw texts have none either. -/
theorem yields_context {settings : Settings} {d : Document}
    (start : ∀ c ∈ settings.penClassPrefix.toList, isNameChar c = true)
    (free : ∀ v ∈ d.children, v.IsRawFree) : Yields Context.IsClean (d.context settings) := by
  refine Yields.bind fun components eq => yields_ok ?_
  exact ⟨fun c hc => isMarkupChar_of_isNameChar (start c hc), yields_ofNodes free components eq⟩

theorem isRawFree_of_mem_items? {v : Value} (free : v.IsRawFree) :
    ∀ w ∈ v.items?.getD [], w.IsRawFree := by
  cases v with
  | list vs => exact allRawFree_iff.1 free
  | _ => simp [Value.items?]

theorem isRawFree_of_mem_children {document : Value} (free : document.IsRawFree) {d : Document}
    (h : Document.ofValue document = .ok d) : ∀ v ∈ d.children, v.IsRawFree := by
  unfold Document.ofValue at h
  split at h
  · cases h
    exact isRawFree_of_mem_items? (Members.isRawFree_get (membersRawFree_of_members? free) "children")
  · cases h

/-- The HTML of a document without raw texts is well formed, whatever the document says, and whatever
values its variables are given from outside. -/
theorem isMarkup_compile {settings : Settings} {document : Value}
    (start : ∀ c ∈ settings.penClassPrefix.toList, isNameChar c = true)
    (free : document.IsRawFree) (overrides : Value) :
    IsMarkup (compile settings document overrides).html := by
  have compiled (d : Document) (h : Document.ofValue document = .ok d) :
      Yields (fun r => IsMarkup r.html) (d.compile settings overrides) := by
    have children := isRawFree_of_mem_children free h
    have pages : ∀ v ∈ d.pages, v.IsRawFree := fun v hv => children v (List.mem_filter.1 hv).1
    refine Yields.bind fun context hc => ?_
    have clean := yields_context start children context hc
    refine Yields.bind fun r hr => Yields.bind fun _ _ => yields_ok ?_
    exact yields_drawAll (Session.start context (.str "vertical")) clean true pages r hr
  unfold compile
  split
  · exact IsMarkup.nil
  · next d hd =>
    split
    · next rendering hr => exact compiled d hd rendering hr
    · exact IsMarkup.nil

/-- A document whose texts, ids and references try to close what they stand in. -/
def hostileDocument : Value :=
  .obj [("children", .list
    [ .obj [("type", .str "text"), ("id", .str "\"><i>"), ("content", .str "</p>\n<script>")],
      .obj [("type", .str "ref"), ("ref", .str "--><b>")] ])]

/-- What the texts try to close is written as references to characters. -/
theorem isMarkup_compile_hostileDocument :
    (∀ c ∈ ({} : Settings).penClassPrefix.toList, isNameChar c = true) ∧
      hostileDocument.IsRawFree ∧ IsMarkup (compile {} hostileDocument .null).html := by
  have start : ∀ c ∈ ({} : Settings).penClassPrefix.toList, isNameChar c = true :=
    List.all_eq_true.1 (by decide)
  have free : hostileDocument.IsRawFree := by
    simp [hostileDocument, Value.IsRawFree, MembersRawFree, AllRawFree]
  exact ⟨start, free, isMarkup_compile start free .null⟩

end Pagewright.Pen
