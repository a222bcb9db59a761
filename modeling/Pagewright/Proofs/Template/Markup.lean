import Mathlib.Control.Monad.Basic
import Pagewright.Template.Render

/-!
# Pagewright.Proofs.Template.Markup

Where the markup of a filled template comes from.  A template without raw tags is compared with the
same template without its inserting tags: both show the same angle brackets and quotes in the same
order, because a value only ever arrives escaped.  What the second one shows is a row of texts of
the template.
-/

namespace Pagewright.Template

open Markup

/-! ## templates without inserting tags -/

mutual

/-- No raw tag at any depth of a node. -/
def Node.IsEscaped : Node → Prop
  | .text _ => True
  | .insert _ raw => raw = false
  | .block _ _ children => AllEscaped children

/-- No raw tag at any depth of nodes. -/
def AllEscaped : List Node → Prop
  | [] => True
  | n :: ns => n.IsEscaped ∧ AllEscaped ns

end

mutual

instance Node.decidableIsEscaped : (n : Node) → Decidable n.IsEscaped
  | .text _ => .isTrue trivial
  | .insert _ raw => inferInstanceAs (Decidable (raw = false))
  | .block _ _ children => decidableAllEscaped children

instance decidableAllEscaped : (ns : List Node) → Decidable (AllEscaped ns)
  | [] => .isTrue trivial
  | n :: ns =>
    have := n.decidableIsEscaped
    have := decidableAllEscaped ns
    inferInstanceAs (Decidable (n.IsEscaped ∧ AllEscaped ns))

end

mutual

/-- What is left of a node without its inserting tags. -/
def Node.withoutInserts : Node → List Node
  | .text s => [.text s]
  | .insert _ _ => []
  | .block key inverted children => [.block key inverted (withoutInserts children)]

/-- What is left of nodes without their inserting tags. -/
def withoutInserts : List Node → List Node
  | [] => []
  | n :: ns => n.withoutInserts ++ withoutInserts ns

end

mutual

/-- The texts of a node, at every depth. -/
def Node.texts : Node → List (List Char)
  | .text s => [s]
  | .insert _ _ => []
  | .block _ _ children => texts children

/-- The texts of nodes, at every depth. -/
def texts : List Node → List (List Char)
  | [] => []
  | n :: ns => n.texts ++ texts ns

end

/-! ## two runs side by side -/

/-- The second run returns whenever the first does, with the same markup characters, and its text is
a row of given texts. -/
def Shows (sources : List (List Char)) (run bare : Except Fault (List Char)) : Prop :=
  ∀ out, run = .ok out → ∃ copies : List (List Char), (∀ s ∈ copies, s ∈ sources) ∧
    bare = .ok copies.flatten ∧ out.filter isMarkupChar = copies.flatten.filter isMarkupChar

namespace Shows

variable {sources : List (List Char)} {run bare : Except Fault (List Char)}

theorem nil : Shows sources (.ok []) (.ok []) := by
  intro out h
  cases h
  exact ⟨[], by simp, rfl, rfl⟩

/-- More texts to choose from do no harm. -/
theorem mono {sources' : List (List Char)} (h : Shows sources run bare)
    (sub : ∀ s ∈ sources, s ∈ sources') : Shows sources' run bare := by
  intro out ok
  obtain ⟨copies, mem, eq, same⟩ := h out ok
  exact ⟨copies, fun s hs => sub s (mem s hs), eq, same⟩

/-- Both runs ask for the same value first. -/
theorem bind {α : Type} {value : Except Fault α} {f g : α → Except Fault (List Char)}
    (h : ∀ a, value = .ok a → Shows sources (f a) (g a)) :
    Shows sources (value >>= f) (value >>= g) := by
  intro out ok
  cases value with
  | error e => exact absurd ok (by simp [Bind.bind, Except.bind])
  | ok a => exact h a rfl out ok

/-- Both runs take the same branch. -/
theorem ite {c : Bool} {run' bare' : Except Fault (List Char)} (h : Shows sources run bare)
    (h' : Shows sources run' bare') :
    Shows sources (if c then run else run') (if c then bare else bare') := by
  cases c with
  | true => exact h
  | false => exact h'

/-- One run after the other. -/
theorem append {run' bare' : Except Fault (List Char)} (h : Shows sources run bare)
    (h' : Shows sources run' bare') :
    Shows sources (do return (← run) ++ (← run')) (do return (← bare) ++ (← bare')) := by
  intro out ok
  cases first : run with
  | error e => simp [first, Bind.bind, Except.bind] at ok
  | ok xs =>
    cases second : run' with
    | error e => simp [first, second, Bind.bind, Except.bind] at ok
    | ok ys =>
      obtain ⟨copies, mem, eq, same⟩ := h xs first
      obtain ⟨copies', mem', eq', same'⟩ := h' ys second
      have hout : xs ++ ys = out := by
        simpa [first, second, Bind.bind, Except.bind, pure, Except.pure] using ok
      refine ⟨copies ++ copies', fun s hs => ?_, ?_, ?_⟩
      · exact (List.mem_append.1 hs).elim (mem s) (mem' s)
      · simp [eq, eq', Bind.bind, Except.bind, pure, Except.pure]
      · rw [← hout, List.filter_append, same, same', List.flatten_append, List.filter_append]

/-- The rounds of a loop. -/
theorem mapM_flatten {α : Type} {f g : α → Except Fault (List Char)} {items : List α}
    (h : ∀ a ∈ items, Shows sources (f a) (g a)) :
    Shows sources (do return (← items.mapM f).flatten) (do return (← items.mapM g).flatten) := by
  induction items with
  | nil => exact nil
  | cons a items ih =>
    have rest := ih fun b hb => h b (List.mem_cons_of_mem a hb)
    have both := (h a List.mem_cons_self).append rest
    simpa only [List.mapM_cons, bind_assoc, pure_bind, List.flatten_cons] using both

end Shows

theorem renderAll_append (scopes : List Value) (ns ms : List Node) :
    renderAll scopes (ns ++ ms) =
      (do return (← renderAll scopes ns) ++ (← renderAll scopes ms)) := by
  induction ns with
  | nil => exact (bind_pure (renderAll scopes ms)).symm
  | cons n ns ih =>
    simp only [List.cons_append, renderAll, ih, bind_assoc, pure_bind, List.append_assoc]

theorem renderAll_singleton (scopes : List Value) (n : Node) :
    renderAll scopes [n] = n.render scopes := by
  cases shown : n.render scopes <;> simp [renderAll, shown, Bind.bind, Except.bind, pure, Except.pure]

/-! ## nodes -/

/-- A value shows no markup character. -/
theorem filter_escapeChars (cs : List Char) : (escapeChars cs).filter isMarkupChar = [] := by
  rw [List.filter_eq_nil_iff]
  intro c hc
  simp [isMarkupChar_of_mem_escapeChars hc]

/-- An inserted value shows no markup, and without its tag nobody looks for its key. -/
theorem shows_insert (key : List Char) (scopes : List Value) :
    Shows [] ((Node.insert key false).render scopes) (.ok []) := by
  intro out ok
  cases found : lookup key scopes with
  | error e => simp [Node.render, found, Bind.bind, Except.bind] at ok
  | ok value =>
    have hout : escapeChars value.plain = out := by
      simpa [Node.render, found, Bind.bind, Except.bind, pure, Except.pure] using ok
    refine ⟨[], by simp, rfl, ?_⟩
    rw [← hout, filter_escapeChars]
    rfl

mutual

/-- A node shows the markup of its texts. -/
theorem Node.shows_render (n : Node) (h : n.IsEscaped) (scopes : List Value) :
    Shows n.texts (n.render scopes) (renderAll scopes n.withoutInserts) := by
  match n with
  | .text s =>
    intro out ok
    rw [Node.withoutInserts, renderAll_singleton]
    cases ok
    exact ⟨[s], by simp [Node.texts], by simp [Node.render], by simp⟩
  | .insert key raw =>
    rw [Node.IsEscaped] at h
    subst h
    exact shows_insert key scopes
  | .block key inverted children =>
    rw [Node.IsEscaped] at h
    rw [Node.withoutInserts, renderAll_singleton, Node.texts]
    have inside := shows_renderAll children h
    rw [Node.render, Node.render]
    refine .bind fun value _ => ?_
    cases inverted with
    | true =>
      have once : Shows (texts children)
          (if value.isTruthy then pure [] else renderAll scopes children)
          (if value.isTruthy then pure [] else renderAll scopes (withoutInserts children)) :=
        .ite .nil (inside scopes)
      exact once
    | false =>
      -- a list is a loop, every other value shows the children once or not at all
      have once : Shows (texts children)
          (if value.isTruthy then renderAll scopes children else pure [])
          (if value.isTruthy then renderAll scopes (withoutInserts children) else pure []) :=
        .ite (inside scopes) .nil
      cases value with
      | list items => exact .mapM_flatten fun item _ => inside (item :: scopes)
      | null | bool | int | float | str | obj => exact once

/-- Nodes show the markup of their texts. -/
theorem shows_renderAll (ns : List Node) (h : AllEscaped ns) (scopes : List Value) :
    Shows (texts ns) (renderAll scopes ns) (renderAll scopes (withoutInserts ns)) := by
  match ns with
  | [] => exact Shows.nil
  | n :: ns =>
    rw [withoutInserts, renderAll_append, texts, renderAll]
    have head := (n.shows_render h.1 scopes).mono fun s hs => List.mem_append_left (texts ns) hs
    have tail := (shows_renderAll ns h.2 scopes).mono fun s hs => List.mem_append_right n.texts hs
    exact head.append tail

end

/-- The markup characters of a filled template without raw tags are those of its own texts: the ones
that its blocks show are the same, and in the same order, without the inserting tags. -/
theorem filter_isMarkupChar_render {template : String} {data : Value} {out : String}
    (escaped : AllEscaped (parse template.toList)) (ok : render template data = .ok out) :
    ∃ copies : List (List Char), (∀ s ∈ copies, s ∈ texts (parse template.toList)) ∧
      renderAll [rootScope data] (withoutInserts (parse template.toList)) = .ok copies.flatten ∧
      out.toList.filter isMarkupChar = copies.flatten.filter isMarkupChar := by
  cases shown : renderAll [rootScope data] (parse template.toList) with
  | error e => simp [render, shown, bind, Except.bind] at ok
  | ok cs =>
    have hout : String.ofList cs = out := by
      simpa [render, shown, bind, Except.bind, pure, Except.pure] using ok
    obtain ⟨copies, mem, eq, same⟩ := shows_renderAll _ escaped [rootScope data] cs shown
    refine ⟨copies, mem, eq, ?_⟩
    rw [← hout, String.toList_ofList, same]

/-- A loop over two items, one of which is an angle bracket. -/
theorem filter_isMarkupChar_render_loop :
    ∃ copies : List (List Char),
      (∀ s ∈ copies, s ∈ texts (parse "<li>\x7b\x7b#a\x7d\x7d<\x7b\x7b.\x7d\x7d>\x7b\x7b/a\x7d\x7d".toList)) ∧
      renderAll [rootScope (.obj [("a", .list [.str "<", .int 2])])]
        (withoutInserts (parse "<li>\x7b\x7b#a\x7d\x7d<\x7b\x7b.\x7d\x7d>\x7b\x7b/a\x7d\x7d".toList)) =
          .ok copies.flatten ∧
      "<li><&lt;><2>".toList.filter isMarkupChar = copies.flatten.filter isMarkupChar :=
  filter_isMarkupChar_render (by decide +kernel) (by decide +kernel)

end Pagewright.Template
