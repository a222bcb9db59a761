import Pagewright.Page.Render
import Pagewright.Proofs.Css.Confinement
import Pagewright.Proofs.Markup.Reading
import Pagewright.Proofs.Pen.Yields

/-!
# Pagewright.Proofs.Page.Scope

Which containers the scope of an instance selects.  A scope is read as a class and as the value of an
attribute, the tag of a container as its classes and its id.  Scopes keep only some characters of an id,
so an instance's scope selects its own container exactly when there are no others in its id.
-/

namespace Pagewright

open Markup Text

/-! ## reading selectors and containers -/

/-- The class and the id that a scope is read as. -/
def readScope? (selector : List Char) : Option (List Char × List Char) :=
  match selector with
  | '.' :: cs =>
    let cls := cs.takeWhile Container.isScopeChar
    match after? "[data-instance-id=\"".toList (cs.drop cls.length) with
    | some behind =>
      let id := behind.takeWhile Container.isScopeChar
      if behind.drop id.length = ['"', ']'] then some (cls, id) else none
    | none => none
  | _ => none

/-- The characters between the classes of an element. -/
def isHtmlBlank (c : Char) : Bool := c == ' ' || c == '\t' || c == '\n' || c == '\x0c' || c == '\r'

/-- A class is one of those that a text lists: it is not empty, has no blank in it and stands between
blanks or ends of the text. -/
def IsClassOf (text cls : List Char) : Prop :=
  cls ≠ [] ∧ (∀ c ∈ cls, isHtmlBlank c = false) ∧
    ∃ before behind, text = before ++ cls ++ behind ∧
      (∀ c ∈ before.getLast?, isHtmlBlank c = true) ∧ ∀ c ∈ behind.head?, isHtmlBlank c = true

/-- A scope selects the element that a text starts with. -/
def Selects (scope html : String) : Prop :=
  ∃ cls id classes, readScope? scope.toList = some (cls, id) ∧
    tagAttribute? "class" html = some classes ∧ IsClassOf classes.toList cls ∧
    tagAttribute? "data-instance-id" html = some (String.ofList id)

namespace Container

/-! ## scopes -/

/-- A name in a scope ends in front of the first character that is none of a name. -/
theorem takeWhile_scopeChar {cs : List Char} (h : ∀ c ∈ cs, isScopeChar c = true) (stop : Char)
    (hs : isScopeChar stop = false) (rest : List Char) :
    (cs ++ stop :: rest).takeWhile isScopeChar = cs := by
  rw [List.takeWhile_append_of_pos h, List.takeWhile_cons_of_neg (by simp [hs]), List.append_nil]

/-- The class of the containers of an element. -/
def className (settings : Settings) (slug : String) : String :=
  settings.elementClassPrefix ++ "-" ++ slug

/-- A text in which scopes keep every character. -/
def IsKept (s : String) : Prop := ∀ c ∈ s.toList, isScopeChar c = true

instance (s : String) : Decidable (IsKept s) := List.decidableBAll (isScopeChar · = true) s.toList

/-- What is left by the filter of scopes is kept by it. -/
theorem isKept_scopeText (s : String) : IsKept (scopeText s) :=
  Css.isScopeChar_of_mem_scopeText

/-- A text goes into a scope as it is exactly when its characters are all kept. -/
theorem scopeText_eq_self_iff {s : String} : scopeText s = s ↔ IsKept s := by
  rw [scopeText, ← String.toList_inj, String.toList_ofList, List.filter_eq_self]
  exact Iff.rfl

/-- A class is kept if the prefix of the site and the slug are. -/
theorem isKept_className {settings : Settings} {slug : String}
    (safe : IsKept settings.elementClassPrefix) (hs : IsKept slug) :
    IsKept (className settings slug) := by
  intro c hc
  simp only [className, String.toList_append, List.mem_append] at hc
  obtain (hc | hc) | hc := hc
  · exact safe c hc
  · rw [List.mem_singleton.1 hc]
    decide
  · exact hs c hc

/-- A scope is read as the class of its slug and as its id, without the characters that scopes do not
keep. -/
theorem readScope?_scope {settings : Settings} (safe : IsKept settings.elementClassPrefix)
    (slug : String) (id : Value) : readScope? (scope settings slug id).toList =
      some ((className settings (scopeText slug)).toList, (scopeText id.display).toList) := by
  have written : (scope settings slug id).toList =
      '.' :: ((className settings (scopeText slug)).toList ++ ("[data-instance-id=\"".toList ++
        ((scopeText id.display).toList ++ ['"', ']']))) := by
    simp [scope, className]
  have cls (cs : List Char) : ((className settings (scopeText slug)).toList ++
      ("[data-instance-id=\"".toList ++ cs)).takeWhile isScopeChar =
        (className settings (scopeText slug)).toList :=
    takeWhile_scopeChar (isKept_className safe (isKept_scopeText slug)) '[' rfl
      ("data-instance-id=\"".toList ++ cs)
  have behind (cs : List Char) :
      after? "[data-instance-id=\"".toList ("[data-instance-id=\"".toList ++ cs) = some cs :=
    after?_eq_some_iff.2 rfl
  have value := takeWhile_scopeChar (isKept_scopeText id.display) '"' rfl [']']
  rw [written]
  simp only [readScope?, cls, List.drop_left, behind, value, if_true]

/-- The characters of names are no blanks, so a name is a single class. -/
theorem isHtmlBlank_of_isScopeChar {c : Char} (h : isScopeChar c = true) : isHtmlBlank c = false := by
  have new {d : Char} (hd : isScopeChar d = false) : (c == d) = false :=
    beq_eq_false_iff_ne.2 (Css.ne_of_isScopeChar h hd)
  simp only [isHtmlBlank, new (d := ' ') rfl, new (d := '\t') rfl, new (d := '\n') rfl,
    new (d := '\x0c') rfl, new (d := '\r') rfl]
  rfl

/-! ## containers -/

/-- A container shows its classes, and the id of its instance as a plain text. -/
theorem tagAttribute?_html (settings : Settings) (e : Element) (id : Value) (style : Members)
    (inline inner : String) :
    tagAttribute? "class" (html settings e id style inline inner) =
        some (classes settings e.slug style) ∧
      tagAttribute? "data-instance-id" (html settings e id style inline inner) =
        some (String.ofList id.plain) := by
  let behind := ((if inline.isEmpty then "" else attr "style" inline) ++ ">\n" ++ inner ++
    "\n</div>\n").toList
  have written : (html settings e id style inline inner).toList = "<div".toList ++
      ((attr "class" (classes settings e.slug style)).toList ++
        ((attr "data-element-id" (toString e.id)).toList ++ ((idAttribute id).toList ++ behind))) := by
    simp [html, behind]
  have cls : '=' ∉ "class".toList := by decide
  have element : '=' ∉ "data-element-id".toList := by decide
  have named : '=' ∉ "data-instance-id".toList := by decide
  rw [idAttribute] at written
  refine ⟨tagAttribute?_eq (by decide) written (by simp [attr]) ?_,
    tagAttribute?_eq (by decide) written (by simp [attr]) ?_⟩
  all_goals rw [attributesFrom_attr cls, attributesFrom_attr element, attributesFrom_attr named]
  · rfl
  · rfl

/-- The classes of a container list that of its element. -/
theorem isClassOf_className {settings : Settings} {slug : String}
    (safe : IsKept settings.elementClassPrefix) (hs : IsKept slug) (style : Members) :
    IsClassOf (classes settings slug style).toList (className settings slug).toList := by
  have kept := isKept_className safe hs
  have full : (className settings slug).toList ≠ [] := by simp [className]
  refine ⟨full, fun c hc => isHtmlBlank_of_isScopeChar (kept c hc), ?_⟩
  let own := (words ((style.get "custom_class").text?.getD "").toList).map String.ofList
  have listed : classes settings slug style =
      String.intercalate " " (settings.elementClassPrefix :: className settings slug :: own) := rfl
  rw [listed, String.intercalate_cons_cons]
  refine ⟨(settings.elementClassPrefix ++ " ").toList, ?_⟩
  have blank : isHtmlBlank ' ' = true := rfl
  cases own with
  | nil =>
      refine ⟨[], ?_, ?_, ?_⟩
      · simp
      · simp [blank]
      · simp
  | cons first own =>
      refine ⟨(" " ++ String.intercalate " " (first :: own)).toList, ?_, ?_, ?_⟩
      · simp
      · simp [blank]
      · simp [blank]

/-! ## the CSS of a container -/

/-- A rule for what a scope selects and for what is directly inside it; no declarations make no rule. -/
def ruleText (selector : String) (ds : List Style.Declaration) : String :=
  if ds.isEmpty then ""
  else selector ++ ", " ++ selector ++ " > * \x7b " ++ Style.declarationsText ds ++ "; \x7d\n"

/-- Author CSS put into a scope, under a heading with the characters of an id that scopes keep; CSS of which
nothing is left there has no heading either. -/
def authorText (selector : String) (id : Value) (author : String) : String :=
  if (Css.scope author selector).isEmpty then ""
  else "/* Custom CSS: instance #" ++ scopeText id.display ++ " */\n" ++ Css.scope author selector ++ "\n"

/-- The CSS of an instance of an element: the rule with the declarations of its cleaned style, and then the author
CSS of that style, both for the scope of the instance. -/
def IsCssFor (settings : Settings) (slug : String) (i : Instance) (css : String) : Prop :=
  ∃ style ds, Style.clean settings (.obj i.styleData) = .ok style ∧ Style.cascadeDeclarations style = .ok ds ∧
    css = ruleText (scope settings slug i.id) ds ++
      ((style.get "custom_css").text?.elim "" (authorText (scope settings slug i.id) i.id))

/-- The rule of a style holds all its declarations. -/
theorem yields_cascade (data : Members) (selector : String) :
    Yields (fun rule => ∃ ds, Style.cascadeDeclarations data = .ok ds ∧ rule = ruleText selector ds)
      (Style.cascade data selector) := by
  refine Yields.bind fun ds declared => ?_
  cases ds with
  | nil => exact yields_ok ⟨[], declared, rfl⟩
  | cons d ds => exact yields_ok ⟨d :: ds, declared, rfl⟩

/-- The CSS of a container is its rule with its author CSS behind it. -/
theorem yields_css (settings : Settings) (slug : String) (id : Value) (style : Members) :
    Yields (fun css => ∃ ds, Style.cascadeDeclarations style = .ok ds ∧
        css = ruleText (scope settings slug id) ds ++
          ((style.get "custom_css").text?.elim "" (authorText (scope settings slug id) id)))
      (css settings slug id style) := by
  refine Yields.bind fun rule ruled => ?_
  obtain ⟨ds, declared, rfl⟩ := yields_cascade style _ rule ruled
  split
  · next author authored =>
    rw [authored]
    extract_lets confined
    split
    · next blank => exact yields_ok ⟨ds, declared, by simp [Value.text?, authorText, confined, blank]⟩
    · next full =>
      refine yields_ok ⟨ds, declared, ?_⟩
      simp [Value.text?, authorText, confined, full, String.append_assoc]
  · next noText =>
    -- what is no text is no author CSS
    have none : (style.get "custom_css").text? = none := by
      cases eq : style.get "custom_css" <;> first | rfl | exact (noText _ eq).elim
    exact yields_ok ⟨ds, declared, by simp [none]⟩

end Container

namespace Renderer

/-- An instance is shown in the container of an element: one that was given, or the one that its slug
names. -/
structure IsContained (r : Renderer) (i : Instance) (e : Element) (shown : Rendering) : Prop where
  active : e.active = true
  data : ∃ ms, i.slotData = .obj ms
  rendered : ∃ given, given.elim (r.source i.slug) (fun e => .ok (some e)) = .ok (some e) ∧
    (r.instance? i given).result = .ok shown

/-- An instance is shown by rendering its data in the container of its element. -/
theorem IsContained.exists_container {r : Renderer} {i : Instance} {e : Element} {shown : Rendering}
    (h : r.IsContained i e shown) : ∃ data, r.container e i data = .ok shown := by
  obtain ⟨active, ⟨ms, data⟩, given, found, rendered⟩ := h
  unfold instance? at rendered
  simp only [found, active, data, Bool.not_true, Bool.false_eq_true, if_false] at rendered
  split at rendered
  · cases rendered
  · obtain ⟨completed, -, rendered⟩ := bind_eq_ok_iff.1 rendered
    exact ⟨completed, rendered⟩

/-- The HTML and the CSS of a container come from one cleaned style. -/
theorem IsContained.exists_html {r : Renderer} {i : Instance} {e : Element} {shown : Rendering}
    (h : r.IsContained i e shown) : ∃ style inline inner,
      Style.clean r.settings (.obj i.styleData) = .ok style ∧
      shown.html = Container.html r.settings e i.id style inline inner ∧
      Container.css r.settings e.slug i.id style = .ok shown.css := by
  obtain ⟨data, eq⟩ := h.exists_container
  have made : Yields (fun shown => ∃ style inline inner,
      Style.clean r.settings (.obj i.styleData) = .ok style ∧
      shown.html = Container.html r.settings e i.id style inline inner ∧
      Container.css r.settings e.slug i.id style = .ok shown.css) (r.container e i data) := by
    refine Yields.bind fun inner _ => Yields.bind fun style cleaned => ?_
    refine Yields.bind fun inline _ => Yields.bind fun css eq => yields_ok ?_
    exact ⟨style, inline, inner, cleaned, rfl, eq⟩
  exact made shown eq

end Renderer

/-- The ids whose text is the same in a scope and in a container: texts, integers, and numbers with a
fraction. -/
inductive Value.IsName : Value → Prop
  | text (s : String) : IsName (.str s)
  | integer (i : Int) : IsName (.int i)
  | fraction {x : Binary64} (h : x.isIntegral = false) : IsName (.float x)

/-- Of such an id, the container shows what the scope is made of. -/
theorem Value.IsName.plain_eq {id : Value} (h : id.IsName) : String.ofList id.plain = id.display := by
  cases h with
  | text s => simp [Value.plain, Value.display]
  | integer i => simp [Value.plain, Value.display, Value.literal]
  | fraction h => simp [Value.plain, Value.display, Value.literal, h]

/-! ## which containers a scope selects -/

section

open Container

variable {r : Renderer} {e : Element} {i : Instance} {shown : Rendering}

/-- Scopes of one element differ exactly when the filtered ids do: the class in front of them is the same. -/
theorem scope_inj {settings : Settings} {slug : String} {id other : Value} :
    scope settings slug id = scope settings slug other ↔
      scopeText id.display = scopeText other.display := by
  constructor
  · intro same
    simpa [scope, String.append_assoc] using same
  · intro same
    simp only [scope, same]

/-- What a container shows, and what its CSS is for. -/
theorem Renderer.IsContained.reads (contained : r.IsContained i e shown) (hi : i.id.IsName) :
    tagAttribute? "data-instance-id" shown.html = some i.id.display ∧
      IsCssFor r.settings e.slug i shown.css ∧
      (IsKept r.settings.elementClassPrefix → IsKept e.slug →
        ∃ classes, tagAttribute? "class" shown.html = some classes ∧
          IsClassOf classes.toList (className r.settings e.slug).toList) := by
  obtain ⟨style, inline, inner, cleaned, html, css⟩ := contained.exists_html
  obtain ⟨ds, declared, eq⟩ := yields_css _ _ _ _ _ css
  obtain ⟨classes, id⟩ := tagAttribute?_html r.settings e i.id style inline inner
  rw [← html] at classes id
  refine ⟨?_, ⟨style, ds, cleaned, declared, eq⟩, fun safe hs => ⟨_, classes, ?_⟩⟩
  · rw [id, hi.plain_eq]
  · exact isClassOf_className safe hs style

/-- A scope selects the containers of its element whose id is that of the scope without the characters
that scopes do not keep. -/
theorem selects_iff (safe : IsKept r.settings.elementClassPrefix) (hs : IsKept e.slug)
    (contained : r.IsContained i e shown) (named : i.id.IsName) (id : Value) :
    Selects (scope r.settings e.slug id) shown.html ↔ scopeText id.display = i.id.display := by
  obtain ⟨shownId, -, shownClass⟩ := contained.reads named
  obtain ⟨classes, read, listed⟩ := shownClass safe hs
  have selector := readScope?_scope safe e.slug id
  rw [scopeText_eq_self_iff.2 hs] at selector
  constructor
  · rintro ⟨cls, value, -, eq, -, -, same⟩
    rw [selector] at eq
    cases eq
    rw [shownId, Option.some.injEq, String.ofList_toList] at same
    exact same.symm
  · intro same
    refine ⟨_, _, classes, selector, read, listed, ?_⟩
    rw [shownId, String.ofList_toList, same]

/-- A scope is read as the class of its element and as its id, without the characters that scopes do not
keep; the container of an instance shows the class of its element and the id, and its CSS is the rule of its
style and the author CSS of its style, for its scope.  So a scope selects the containers with the id that it is
read as, its own exactly when it keeps every character of the id, and two scopes of one element are the same
exactly when they keep the same of both ids. -/
theorem scope_selects_container {r : Renderer} (safe : IsKept r.settings.elementClassPrefix)
    {e : Element} {i : Instance} {shown : Rendering} (contained : r.IsContained i e shown)
    (named : i.id.IsName) (other : Value) :
    readScope? (scope r.settings e.slug i.id).toList =
        some ((className r.settings (scopeText e.slug)).toList, (scopeText i.id.display).toList) ∧
      tagAttribute? "data-instance-id" shown.html = some i.id.display ∧
      IsCssFor r.settings e.slug i shown.css ∧
      (scope r.settings e.slug other = scope r.settings e.slug i.id ↔
        scopeText other.display = scopeText i.id.display) ∧
      (IsKept e.slug →
        (∃ classes, tagAttribute? "class" shown.html = some classes ∧
          IsClassOf classes.toList (className r.settings e.slug).toList) ∧
        (Selects (scope r.settings e.slug other) shown.html ↔
          scopeText other.display = i.id.display) ∧
        (Selects (scope r.settings e.slug i.id) shown.html ↔ IsKept i.id.display) ∧
        (IsKept other.display →
          (Selects (scope r.settings e.slug other) shown.html ↔ other.display = i.id.display))) := by
  obtain ⟨shownId, cssFor, shownClass⟩ := contained.reads named
  refine ⟨readScope?_scope safe e.slug i.id, shownId, cssFor, scope_inj, fun hs => ?_⟩
  refine ⟨shownClass safe hs, selects_iff safe hs contained named other, ?_, fun kept => ?_⟩
  · rw [selects_iff safe hs contained named i.id, scopeText_eq_self_iff]
  · rw [selects_iff safe hs contained named other, scopeText_eq_self_iff.2 kept]

/-- A renderer that knows one element. -/
def heroRenderer : Renderer where
  settings := {}
  source _ := .ok (some hero)
  enricher := none
where
  hero : Element := ⟨1, "hero", "Hero", "", "", [], 1, true, "", ""⟩

/-- An instance of the element. -/
def heroInstance (id : Value) : Instance := ⟨id, "hero", .obj [], [], 0⟩

/-- An instance of a known and active element is shown, and no enricher changes its data. -/
theorem instance?_heroRenderer (id : Value) :
    (heroRenderer.instance? (heroInstance id) none).result =
      heroRenderer.container heroRenderer.hero (heroInstance id) [] := by
  have completed : (heroRenderer.instance? (heroInstance id) none).result =
      ((heroRenderer.complete "hero" []).result >>=
        heroRenderer.container heroRenderer.hero (heroInstance id)) := rfl
  have whole : (heroRenderer.complete "hero" []).result = .ok [] := rfl
  simp only [completed, whole, bind, Except.bind]

/-- An empty style is clean. -/
theorem clean_empty : Style.clean {} (.obj []) = .ok [] := rfl

/-- A style without members has no declarations. -/
theorem inline_empty : Style.inline [] = .ok "" := rfl

/-- A container without style has no CSS. -/
theorem css_empty (id : Value) : css {} "hero" id [] = .ok "" := rfl

/-- So the container is its HTML alone. -/
theorem container_heroRenderer (id : Value) :
    heroRenderer.container heroRenderer.hero (heroInstance id) [] =
      .ok ⟨html {} heroRenderer.hero id [] "" "", ""⟩ := by
  simp only [Renderer.container, heroRenderer, heroRenderer.hero, heroInstance, clean_empty,
    inline_empty, css_empty, bind, Except.bind]
  rfl

/-- Every instance of the element is contained. -/
theorem exists_isContained_hero (id : Value) :
    ∃ shown, heroRenderer.IsContained (heroInstance id) heroRenderer.hero shown := by
  have made := (instance?_heroRenderer id).trans (container_heroRenderer id)
  exact ⟨_, rfl, ⟨[], rfl⟩, none, rfl, made⟩

/-- The scope of one instance selects its container; that of another does not. -/
theorem scope_selects_container_hero :
    IsKept ({} : Settings).elementClassPrefix ∧ Value.IsName (.str "1") ∧
      ∃ shown, heroRenderer.IsContained (heroInstance (.str "1")) heroRenderer.hero shown ∧
        Selects (scope {} "hero" (.str "1")) shown.html ∧
        ¬Selects (scope {} "hero" (.str "2")) shown.html := by
  have safe : IsKept ({} : Settings).elementClassPrefix := by decide
  have named : Value.IsName (.str "1") := .text "1"
  obtain ⟨shown, contained⟩ := exists_isContained_hero (.str "1")
  obtain ⟨-, -, -, -, selects⟩ := scope_selects_container safe contained named (.str "2")
  obtain ⟨-, -, own, other⟩ := selects (by decide)
  refine ⟨safe, named, shown, contained, own.2 (by decide), fun h => ?_⟩
  have same : "2" = "1" := (other (by decide)).1 h
  exact absurd same (by decide)

/-- A scope need not select the container of its own instance, and may select that of another one: it
does not keep the point of an id. -/
theorem not_selects_own_container :
    ∃ shown another,
      heroRenderer.IsContained (heroInstance (.str "a.b")) heroRenderer.hero shown ∧
      heroRenderer.IsContained (heroInstance (.str "ab")) heroRenderer.hero another ∧
      ¬Selects (scope {} "hero" (.str "a.b")) shown.html ∧
      Selects (scope {} "hero" (.str "a.b")) another.html ∧
      scope {} "hero" (.str "a.b") = scope {} "hero" (.str "ab") ∧
      tagAttribute? "data-instance-id" shown.html = some "a.b" ∧
      tagAttribute? "data-instance-id" another.html = some "ab" := by
  have safe : IsKept ({} : Settings).elementClassPrefix := by decide
  have hero : IsKept "hero" := by decide
  obtain ⟨shown, contained⟩ := exists_isContained_hero (.str "a.b")
  obtain ⟨another, contained'⟩ := exists_isContained_hero (.str "ab")
  refine ⟨shown, another, contained, contained', fun h => ?_, ?_, scope_inj.2 (by decide), ?_, ?_⟩
  · have same := (selects_iff safe hero contained (.text "a.b") (.str "a.b")).1 h
    exact absurd same (by decide)
  · exact (selects_iff safe hero contained' (.text "ab") (.str "a.b")).2 (by decide)
  · exact (contained.reads (.text "a.b")).1
  · exact (contained'.reads (.text "ab")).1

end

end Pagewright
