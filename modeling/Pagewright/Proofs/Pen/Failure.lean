import Pagewright.Pen.Compile
import Pagewright.Proofs.Pen.Rules

/-!
# Pagewright.Proofs.Pen.Failure

What a node that cannot be drawn takes with it.  Almost any trouble leaves nothing in the place of the
node and nothing else: its siblings stay, and so does the container that holds them.  Only a node whose
type is a list or an object fails itself; a container loses its markup together with such a child, and a
document compiles to nothing together with such a page.
-/

namespace Pagewright.Pen

open Markup

/-! ## the HTML of a node -/

/-- The result of a drawing in two steps does not depend on what they collect. -/
theorem Drawing.result_bind {α β : Type} (x : Drawing α) (f : α → Drawing β) :
    (x >>= f).result = (do (f (← x.result)).result) := by
  cases eq : x.result with
  | error e => simp only [bind, eq, Except.bind]
  | ok a => exact Drawing.result_bind_of_ok eq f

/-- The HTML of a node. -/
def Call.html (cx : Context) (c : Call) : Except Fault String := (c.drawing cx).result.map printTrees

/-- Whether a node is not disabled and has a list or an object for its type. -/
def hasCompoundType : Value → Bool
  | .obj ms => !isDisabled ms && !isScalar (Members.get "type" ms)
  | _ => false

variable {cx : Context} {draw : Call → Drawing (List Tree)} {c : Call} {ms : Members} {kind : Kind}
  {layout : Value} {declarations : String}

/-- A list or an object cannot be looked up as the name of a kind. -/
theorem kind?_of_not_isScalar (h : isScalar (Members.get "type" ms) = false) :
    kind? ms = .error .wrongKind := by
  unfold kind?
  cases type : Members.get "type" ms with
  | list vs => rfl
  | obj ns => rfl
  | _ =>
      rw [type] at h
      cases h

/-- Anything else can, and names a kind or none. -/
theorem exists_kind?_of_isScalar (h : isScalar (Members.get "type" ms) = true) :
    ∃ kind, kind? ms = .ok kind := by
  unfold kind?
  cases type : Members.get "type" ms with
  | list vs =>
      rw [type] at h
      cases h
  | obj ns =>
      rw [type] at h
      cases h
  | _ => exact ⟨_, rfl⟩

/-- Whatever the nodes inside it are drawn as, a node that is shown comes about. -/
theorem exists_result_shownWith (place : Place) (isScope : Bool) (ms : Members) (kind : Kind) :
    ∃ ts, (shownWith draw cx place isScope ms kind).result = .ok ts := by
  cases kind <;> exact Drawing.orNothing_result _

/-- The kind is told before faults are caught, so this one leaves the node. -/
theorem html_of_hasCompoundType (h : hasCompoundType c.value = true) :
    c.html cx = .error .wrongKind := by
  obtain ⟨place, isScope, v⟩ := c
  cases v with
  | obj ms =>
      obtain ⟨enabled, compound⟩ :
          isDisabled ms = false ∧ isScalar (Members.get "type" ms) = false := by
        simpa [hasCompoundType] using h
      rw [Call.html, drawing_eq, nodeWith]
      simp only [enabled, kind?_of_not_isScalar compound]
      rfl
  | _ => cases h

/-- All other faults are caught: such a node has HTML, if only an empty text. -/
theorem exists_html (h : hasCompoundType c.value = false) : ∃ html, c.html cx = .ok html := by
  obtain ⟨place, isScope, v⟩ := c
  suffices ∃ ts, (nodeWith (Call.drawing cx) cx ⟨place, isScope, v⟩).result = .ok ts by
    obtain ⟨ts, drawn⟩ := this
    exact ⟨printTrees ts, by rw [Call.html, drawing_eq, drawn]; rfl⟩
  cases v with
  | obj ms =>
      unfold nodeWith
      dsimp only
      split
      · exact ⟨[], rfl⟩
      · next enabled =>
        have scalar : isScalar (Members.get "type" ms) = true := by simpa [hasCompoundType, enabled] using h
        obtain ⟨kind, named⟩ := exists_kind?_of_isScalar scalar
        simp only [named]
        split
        · next other => cases other
        · exact ⟨[], rfl⟩
        · split
          · exact ⟨[], rfl⟩
          · exact exists_result_shownWith ..
  | _ => exact ⟨[], rfl⟩

/-- A node has HTML exactly when its type is no list and no object. -/
theorem exists_html_iff : (∃ html, c.html cx = .ok html) ↔ hasCompoundType c.value = false := by
  refine ⟨fun ⟨html, drawn⟩ => ?_, exists_html⟩
  by_contra compound
  rw [html_of_hasCompoundType (by simpa using compound)] at drawn
  cases drawn

/-- Nodes have HTML together exactly when each of them has. -/
theorem exists_mapM_html_iff (cx : Context) {cs : List Call} :
    (∃ htmls, cs.mapM (Call.html cx) = .ok htmls) ↔ ∀ c ∈ cs, hasCompoundType c.value = false := by
  rw [exists_mapM_iff]
  exact forall₂_congr fun c _ => exists_html_iff

/-- What follows from the HTML of nodes comes about exactly when no node fails. -/
theorem exists_htmls_iff {cs : List Call} {P : List String → Prop}
    (h : ∀ htmls, cs.mapM (Call.html cx) = .ok htmls → P htmls) :
    (∃ htmls, cs.mapM (Call.html cx) = .ok htmls ∧ P htmls) ↔
      ∀ c ∈ cs, hasCompoundType c.value = false := by
  rw [← exists_mapM_html_iff cx]
  exact ⟨fun ⟨htmls, drawn, _⟩ => ⟨htmls, drawn⟩, fun ⟨htmls, drawn⟩ => ⟨htmls, drawn, h htmls drawn⟩⟩

/-- One node that fails is enough for all of them to fail. -/
theorem exists_mapM_html_error (cx : Context) {cs : List Call}
    (h : ∃ c ∈ cs, hasCompoundType c.value = true) : ∃ f, cs.mapM (Call.html cx) = .error f := by
  obtain ⟨c, mem, compound⟩ := h
  cases drawn : cs.mapM (Call.html cx) with
  | error f => exact ⟨f, rfl⟩
  | ok htmls =>
      have scalar := (exists_mapM_html_iff cx).1 ⟨htmls, drawn⟩ c mem
      cases compound.symm.trans scalar

/-! ## nodes one after the other -/

/-- The HTML of a node and of those behind it. -/
theorem map_printTrees_append {first rest : Except Fault (List Tree)}
    {htmls : Except Fault (List String)} (later : rest.map printTrees = htmls.map String.join) :
    (do return (← first) ++ (← rest)).map printTrees =
      (do return (← first.map printTrees) :: (← htmls)).map String.join := by
  cases first with
  | error e => rfl
  | ok ts =>
      cases rest with
      | error e =>
          cases htmls with
          | error f => exact later
          | ok texts => cases later
      | ok us =>
          cases htmls with
          | error f => cases later
          | ok texts =>
              have eq : printTrees us = String.join texts := Except.ok.inj later
              exact congrArg Except.ok (by rw [printTrees_append, eq, String.join_cons])

/-- The HTML of nodes in a row is that of each of them, put together. -/
theorem map_result_nodesWith (place : Place) (vs : List Value) :
    (nodesWith (Call.drawing cx) place vs).result.map printTrees =
      ((vs.map fun v => ⟨place, false, v⟩).mapM (Call.html cx)).map String.join := by
  induction vs with
  | nil => rfl
  | cons v vs ih =>
      rw [nodesWith, List.map_cons, List.mapM_cons, Drawing.result_bind]
      simp only [Drawing.result_bind]
      exact map_printTrees_append ih

/-- The trees of a session are those of its first node, then those of the session that goes on. -/
theorem map_drawAll_cons (s : Session) (isScope : Bool) (v : Value) (vs : List Value) :
    (s.drawAll isScope (v :: vs)).map Prod.snd =
      (do return (← (Call.drawing s.context ⟨s.place, isScope, v⟩).result) ++
        (← ((s.draw isScope v).1.drawAll isScope vs).map Prod.snd)) := by
  have drawn : (s.draw isScope v).2 = (Call.drawing s.context ⟨s.place, isScope, v⟩).result := rfl
  rw [Session.drawAll, ← drawn]
  split
  · next next first eq =>
    rw [eq]
    cases next.drawAll isScope vs <;> rfl
  · next next f eq =>
    rw [eq]
    rfl

/-- The same for nodes that are drawn in one session: what the session has collected does not change their HTML.
-/
theorem map_drawAll (s : Session) (isScope : Bool) (vs : List Value) :
    ((s.drawAll isScope vs).map Prod.snd).map printTrees =
      ((vs.map fun v => ⟨s.place, isScope, v⟩).mapM (Call.html s.context)).map String.join := by
  induction vs generalizing s with
  | nil => rfl
  | cons v vs ih =>
      rw [map_drawAll_cons, List.map_cons, List.mapM_cons]
      exact map_printTrees_append (ih (s.draw isScope v).1)

/-! ## the HTML of a container -/

/-- The children of a container, each where it is drawn. -/
def Call.children (cx : Context) (c : Call) (layout : Value) (ms : Members) : List Call :=
  ((children? ms).getD []).map fun v => ⟨childPlace cx c.place c.isScope layout ms, false, v⟩

/-- The tag of a container. -/
def containerTag (ms : Members) : Kind → String
  | .frame => frameTag ((ms.get? "name").getD (.str ""))
  | _ => "div"

/-- Markup between the tags of an element of a class. -/
def enclose (tag cls inner : String) : String :=
  "<" ++ tag ++ " class=\"" ++ cls ++ "\">" ++ inner ++ "</" ++ tag ++ ">"

theorem printTrees_element (tag cls : String) (ts : List Tree) :
    printTrees [.element tag [classAttribute cls] ts] = enclose tag cls (printTrees ts) := by
  simp [printTrees, Tree.print, printAttributes, Attribute.print, classAttribute, enclose,
    String.append_assoc]

/-- Frames and groups are containers that differ in tag, layout and style. -/
theorem shownWith_of_childLayout? (place : Place) (isScope : Bool)
    (container : childLayout? ms kind = some layout) :
    shownWith draw cx place isScope ms kind =
      containerWith draw cx place isScope (containerTag ms kind) layout (ownStyle place ms kind) ms := by
  cases kind with
  | frame =>
      cases container
      rfl
  | group =>
      cases container
      rfl
  | _ => cases container

/-- What does not come about leaves no HTML. -/
theorem map_result_orNothing (d : Drawing (List Tree)) :
    d.orNothing.result.map printTrees = .ok ((d.result.map printTrees).toOption.getD "") := by
  unfold Drawing.orNothing
  split
  · next ts drawn =>
    rw [drawn]
    rfl
  · next f failed =>
    rw [failed]
    rfl

/-- A container without a list of children is drawn like one with an empty list. -/
theorem containerWith_eq (place : Place) (isScope : Bool) (tag : String) (style : Styled String) :
    containerWith draw cx place isScope tag layout style ms = Drawing.orNothing do
      Drawing.declare place.scope (cx.vocabulary.className ms) (← style)
      let inner ← nodesWith draw (childPlace cx place isScope layout ms) ((children? ms).getD [])
      return [.element tag [classAttribute (cx.vocabulary.className ms)] inner] := by
  unfold containerWith
  cases children? ms <;> rfl

/-- With its own style at hand, a container fails only through its children, and then it is nothing. -/
theorem map_result_containerWith {place : Place} {isScope : Bool} {tag : String}
    {style : Styled String} (own : style.result = .ok declarations) :
    (containerWith draw cx place isScope tag layout style ms).result.map printTrees =
      .ok ((((nodesWith draw (childPlace cx place isScope layout ms)
        ((children? ms).getD [])).result.map printTrees).map
          (enclose tag (cx.vocabulary.className ms))).toOption.getD "") := by
  have styled : (liftM style : Drawing String).result = .ok declarations := own
  rw [containerWith_eq, map_result_orNothing, Drawing.result_bind_of_ok styled,
    Drawing.result_bind_of_ok rfl, Drawing.result_bind]
  cases (nodesWith draw (childPlace cx place isScope layout ms) ((children? ms).getD [])).result with
  | error e => rfl
  | ok ts => exact congrArg Except.ok (printTrees_element ..)

/-- A container has the HTML of its children between its tags, and none at all if one of them fails. -/
theorem html_container (cx : Context) (h : c.value = .obj ms) (shown : IsShown ms kind)
    (container : childLayout? ms kind = some layout)
    (own : (ownStyle c.place ms kind).result = .ok declarations) :
    c.html cx = .ok ((((c.children cx layout ms).mapM (Call.html cx)).map fun htmls =>
      enclose (containerTag ms kind) (cx.vocabulary.className ms) (String.join htmls)).toOption.getD "") := by
  rw [Call.html, drawing_eq, nodeWith_of_isShown h shown, shownWith_of_childLayout? _ _ container,
    map_result_containerWith own, map_result_nodesWith, Call.children]
  cases List.mapM (Call.html cx) _ <;> rfl

/-! ## the HTML of a document -/

/-- The place of a page. -/
def pagePlace : Place := ⟨[], [], .str "vertical"⟩

/-- The pages of a document, each where it is drawn. -/
def Document.pageCalls (d : Document) : List Call := d.pages.map fun v => ⟨pagePlace, true, v⟩

variable {settings : Settings} {document overrides : Value} {d : Document} {values : Members}

/-- The pages are drawn in a session that begins with nothing. -/
theorem map_drawAll_pages (cx : Context) (d : Document) :
    (((Session.start cx (.str "vertical")).drawAll true d.pages).map Prod.snd).map printTrees =
      (d.pageCalls.mapM (Call.html cx)).map String.join :=
  map_drawAll ..

/-- If each page has HTML, the document has it page by page: the variables and the rules go into the CSS only.
-/
theorem compile_of_htmls (read : Document.ofValue document = .ok d)
    (context : d.context settings = .ok cx) (given : overrideMembers overrides = .ok values)
    {htmls : List String} (drawn : d.pageCalls.mapM (Call.html cx) = .ok htmls) :
    (compile settings document overrides).html = String.join htmls := by
  have pages := map_drawAll_pages cx d
  rw [drawn] at pages
  cases all : (Session.start cx (.str "vertical")).drawAll true d.pages with
  | error f =>
      rw [all] at pages
      cases pages
  | ok result =>
      rw [all] at pages
      simp only [compile, read, Document.compile, context, bind, Except.bind, all, given]
      exact Except.ok.inj pages

/-- The pages are drawn in one attempt, so one that fails takes the whole document with it. -/
theorem compile_of_failure (read : Document.ofValue document = .ok d)
    (context : d.context settings = .ok cx) {f : Fault}
    (failed : d.pageCalls.mapM (Call.html cx) = .error f) :
    compile settings document overrides = .empty := by
  have pages := map_drawAll_pages cx d
  rw [failed] at pages
  cases all : (Session.start cx (.str "vertical")).drawAll true d.pages with
  | error f =>
      simp only [compile, read, Document.compile, context, bind, Except.bind, all]
  | ok result =>
      rw [all] at pages
      cases pages

/-! ## what a failure takes with it -/

/-- A node fails only if its type is a list or an object.  A container that has a style keeps its tags and
everything that its children have for HTML exactly when no child is such a node; otherwise it has no HTML
at all.  Likewise a document has the HTML of all its pages, or nothing if a page is such a node. -/
theorem failure_stays_local_iff (cx : Context) :
    (∀ c : Call, (∃ html, c.html cx = .ok html) ↔ hasCompoundType c.value = false) ∧
    (∀ (c : Call) ms kind layout declarations, c.value = .obj ms → IsShown ms kind →
      childLayout? ms kind = some layout → (ownStyle c.place ms kind).result = .ok declarations →
      ((∃ htmls, (c.children cx layout ms).mapM (Call.html cx) = .ok htmls ∧
          c.html cx = .ok (enclose (containerTag ms kind) (cx.vocabulary.className ms)
            (String.join htmls))) ↔
        ∀ d ∈ c.children cx layout ms, hasCompoundType d.value = false) ∧
      ((∃ d ∈ c.children cx layout ms, hasCompoundType d.value = true) → c.html cx = .ok "")) ∧
    ∀ settings document (d : Document) overrides values, Document.ofValue document = .ok d →
      d.context settings = .ok cx → overrideMembers overrides = .ok values →
      ((∃ htmls, d.pageCalls.mapM (Call.html cx) = .ok htmls ∧
          (compile settings document overrides).html = String.join htmls) ↔
        ∀ c ∈ d.pageCalls, hasCompoundType c.value = false) ∧
      ((∃ c ∈ d.pageCalls, hasCompoundType c.value = true) →
        compile settings document overrides = .empty) := by
  refine ⟨fun c => exists_html_iff, ?_, ?_⟩
  · intro c ms kind layout declarations h shown container own
    have html := html_container cx h shown container own
    refine ⟨exists_htmls_iff fun htmls drawn => ?_, fun compound => ?_⟩
    · rw [html, drawn]
      rfl
    · obtain ⟨f, failed⟩ := exists_mapM_html_error cx compound
      rw [html, failed]
      rfl
  · intro settings document d overrides values read context given
    refine ⟨exists_htmls_iff fun htmls => compile_of_htmls read context given, fun compound => ?_⟩
    obtain ⟨f, failed⟩ := exists_mapM_html_error cx compound
    exact compile_of_failure read context failed

/-- A text with an id. -/
def greeting : Members := [("type", .str "text"), ("id", .str "t"), ("content", .str "Hi")]

/-- A node whose type is a list. -/
def typedByList : Value := .obj [("type", .list [])]

/-- A frame that holds such a node, and a text. -/
def brokenFrame : Members :=
  [ ("type", .str "frame"), ("id", .str "f"), ("children", .list [typedByList, .obj greeting]) ]

/-- A group that holds such a frame, and a text. -/
def groupAround : Members :=
  [ ("type", .str "group"), ("id", .str "g"), ("children", .list [.obj brokenFrame, .obj greeting]) ]

/-- A document that has the group for its page. -/
def groupDocument : Value := .obj [("children", .list [.obj groupAround])]

/-- What a document without components and variables is drawn with. -/
def bareContext : Context := ⟨[], ⟨[], "pen-"⟩, 10⟩

/-- The frame is lost with its text; the group around it and the group's own text stay. -/
theorem failure_stays_local_iff_groupAround :
    Document.ofValue groupDocument = .ok ⟨[.obj groupAround], []⟩ ∧
      Document.context {} ⟨[.obj groupAround], []⟩ = .ok bareContext ∧
      overrideMembers .null = .ok [] ∧
      IsShown groupAround .group ∧ childLayout? groupAround .group = some (.str "none") ∧
      (∃ declarations, (ownStyle pagePlace groupAround .group).result = .ok declarations) ∧
      Call.html bareContext ⟨pagePlace, true, .obj groupAround⟩ =
        .ok "<div class=\"pen-g\"><p class=\"pen-t\">Hi</p></div>" ∧
      (compile {} groupDocument .null).html =
        "<div class=\"pen-g\"><p class=\"pen-t\">Hi</p></div>" := by
  obtain ⟨-, containers, documents⟩ := failure_stays_local_iff bareContext
  let page : Call := ⟨pagePlace, true, .obj groupAround⟩
  let place := childPlace bareContext pagePlace true (.str "none") groupAround
  have group : IsShown groupAround .group := ⟨rfl, rfl, rfl⟩
  have frame : Call.html bareContext ⟨place, false, .obj brokenFrame⟩ = .ok "" :=
    (containers _ brokenFrame .frame _ _ rfl ⟨rfl, rfl, rfl⟩ rfl rfl).2
      ⟨_, List.mem_cons_self .., rfl⟩
  have text : Call.html bareContext ⟨place, false, .obj greeting⟩ = .ok "<p class=\"pen-t\">Hi</p>" := by
    rw [Call.html, drawing_eq]
    rfl
  have html : page.html bareContext = .ok "<div class=\"pen-g\"><p class=\"pen-t\">Hi</p></div>" := by
    obtain ⟨htmls, drawn, html⟩ :=
      (containers page groupAround .group _ _ rfl group rfl rfl).1.2 (by decide)
    have children : page.children bareContext (layoutOr "none" groupAround) groupAround =
        [⟨place, false, .obj brokenFrame⟩, ⟨place, false, .obj greeting⟩] := rfl
    rw [children, List.mapM_cons, List.mapM_cons, frame, text] at drawn
    cases drawn
    exact html
  have nodes : preorder [.obj groupAround] =
      [groupAround, brokenFrame, [("type", .list [])], greeting, greeting] := by
    simp [preorder, below, children?, groupAround, brokenFrame, greeting, Members.get?, typedByList]
  have context : Document.context {} ⟨[.obj groupAround], []⟩ = .ok bareContext := by
    rw [Document.context, Components.ofNodes, nodes]
    rfl
  have read : Document.ofValue groupDocument = .ok ⟨[.obj groupAround], []⟩ := rfl
  refine ⟨read, context, rfl, group, rfl, ⟨_, rfl⟩, html, ?_⟩
  obtain ⟨htmls, drawn, compiled⟩ := (documents {} _ _ .null [] read context rfl).1.2 (by decide)
  have pages : Document.pageCalls ⟨[.obj groupAround], []⟩ = [page] := rfl
  rw [pages, List.mapM_cons, html] at drawn
  cases drawn
  exact compiled

/-- A node whose type is a list fails, and the frame that holds it is lost, though it has a style and
its other child has HTML. -/
theorem html_brokenFrame :
    (¬∃ html, Call.html bareContext ⟨pagePlace, true, typedByList⟩ = .ok html) ∧
      IsShown brokenFrame .frame ∧
      (∃ declarations, (ownStyle pagePlace brokenFrame .frame).result = .ok declarations) ∧
      (∃ d ∈ Call.children bareContext ⟨pagePlace, true, .obj brokenFrame⟩ (.str "horizontal")
        brokenFrame, d.html bareContext = .ok "<p class=\"pen-t\">Hi</p>") ∧
      Call.html bareContext ⟨pagePlace, true, .obj brokenFrame⟩ = .ok "" := by
  have frame : IsShown brokenFrame .frame := ⟨rfl, rfl, rfl⟩
  refine ⟨?_, frame, ⟨_, rfl⟩, ?_, ?_⟩
  · rintro ⟨html, drawn⟩
    rw [html_of_hasCompoundType rfl] at drawn
    cases drawn
  · refine ⟨⟨_, false, .obj greeting⟩, List.mem_cons_of_mem _ (List.mem_cons_self ..), ?_⟩
    rw [Call.html, drawing_eq]
    rfl
  · have compound : ∃ d ∈ Call.children bareContext ⟨pagePlace, true, .obj brokenFrame⟩
        (layoutOr "horizontal" brokenFrame) brokenFrame, hasCompoundType d.value = true :=
      ⟨_, List.mem_cons_self .., rfl⟩
    obtain ⟨f, failed⟩ := exists_mapM_html_error bareContext compound
    rw [html_container bareContext rfl frame rfl rfl, failed]
    rfl

end Pagewright.Pen
