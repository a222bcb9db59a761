import Pagewright.Pen.Styled

/-!
# Pagewright.Pen.Drawing

Drawings under construction.  On its way to a result a drawing collects CSS rules and the icon fonts that
it needs; what was collected stays when the drawing fails to come about.
-/

namespace Pagewright.Pen

/-! ## Rules -/

/-- A rule for the elements of a class inside elements of other classes. -/
structure Rule where
  scope : List String
  cls : String
  declarations : String
  deriving DecidableEq

/-- The selector of a class. -/
def classSelector (cls : String) : String := "." ++ cls

/-- The selector of a rule: the classes from the outermost scope to the rule's own. -/
def Rule.selector (r : Rule) : String :=
  String.intercalate " " ((r.scope ++ [r.cls]).map classSelector)

/-- The text of a rule. -/
def Rule.print (r : Rule) : String := r.selector ++ "\x7b" ++ r.declarations ++ "\x7d"

/-! ## Icon fonts -/

/-- A font of icons, and where its style sheet is. -/
structure IconFont where
  family : String
  address : String
  deriving DecidableEq

/-- The fonts whose style sheets are known. -/
def iconFonts : List IconFont :=
  [ ⟨"lucide", "https://cdn.jsdelivr.net/npm/lucide-static@latest/font/lucide.min.css"⟩,
    ⟨"feather", "https://cdn.jsdelivr.net/npm/feather-icons/dist/feather.css"⟩,
    ⟨"Material Symbols Outlined",
      "https://fonts.googleapis.com/css2?family=Material+Symbols+Outlined"⟩,
    ⟨"Material Symbols Rounded",
      "https://fonts.googleapis.com/css2?family=Material+Symbols+Rounded"⟩,
    ⟨"Material Symbols Sharp",
      "https://fonts.googleapis.com/css2?family=Material+Symbols+Sharp"⟩,
    ⟨"phosphor", "https://cdn.jsdelivr.net/npm/@phosphor-icons/web@2/src/regular/style.css"⟩ ]

/-- The font of a family, if it is known. -/
def iconFont? (family : String) : Option IconFont := iconFonts.find? (·.family == family)

/-! ## Drawings -/

/-- A result with what was collected on the way. -/
structure Drawing (α : Type) where
  rules : List Rule
  fonts : List IconFont
  result : Except Fault α

namespace Drawing

instance : Monad Drawing where
  pure a := ⟨[], [], .ok a⟩
  bind x f :=
    match x.result with
    | .ok a => ⟨x.rules ++ (f a).rules, x.fonts ++ (f a).fonts, (f a).result⟩
    | .error e => ⟨x.rules, x.fonts, .error e⟩

/-- A drawing that does not come about. -/
def fail {α : Type} (f : Fault) : Drawing α := ⟨[], [], .error f⟩

/-- A style as a drawing. -/
def ofStyled {α : Type} (s : Styled α) : Drawing α := ⟨[], [], s.result⟩

instance : MonadLift Styled Drawing := ⟨ofStyled⟩

/-- Collects a rule, unless it declares nothing. -/
def declare (scope : List String) (cls declarations : String) : Drawing Unit :=
  ⟨if declarations.isEmpty then [] else [⟨scope, cls, declarations⟩], [], .ok ()⟩

/-- Collects the font of a family, if it is known. -/
def useFont (family : String) : Drawing Unit := ⟨[], (iconFont? family).toList, .ok ()⟩

/-- A drawing with nothing in place of a result that does not come about. -/
def orNothing {α : Type} (d : Drawing (List α)) : Drawing (List α) :=
  match d.result with
  | .ok _ => d
  | .error _ => { d with result := .ok [] }

/-! ### What is collected -/

/-- A drawing in two steps collects the rules of both. -/
theorem rules_bind_of_ok {α β : Type} {x : Drawing α} {a : α} (h : x.result = .ok a)
    (f : α → Drawing β) : (x >>= f).rules = x.rules ++ (f a).rules := by
  simp only [bind, h]

theorem result_bind_of_ok {α β : Type} {x : Drawing α} {a : α} (h : x.result = .ok a)
    (f : α → Drawing β) : (x >>= f).result = (f a).result := by
  simp only [bind, h]

/-- If the first step fails, its rules are all that is collected. -/
theorem rules_bind_of_error {α β : Type} {x : Drawing α} {e : Fault} (h : x.result = .error e)
    (f : α → Drawing β) : (x >>= f).rules = x.rules := by
  simp only [bind, h]

@[simp] theorem rules_orNothing {α : Type} (d : Drawing (List α)) : d.orNothing.rules = d.rules := by
  unfold orNothing
  split <;> rfl

@[simp] theorem fonts_orNothing {α : Type} (d : Drawing (List α)) : d.orNothing.fonts = d.fonts := by
  unfold orNothing
  split <;> rfl

/-- A drawing with nothing in place of what does not come about always comes about. -/
theorem orNothing_result {α : Type} (d : Drawing (List α)) : ∃ ts, d.orNothing.result = .ok ts := by
  unfold orNothing
  split
  · next ts h => exact ⟨ts, h⟩
  · exact ⟨[], rfl⟩

end Drawing

end Pagewright.Pen
