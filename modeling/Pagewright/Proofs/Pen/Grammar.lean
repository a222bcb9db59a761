import Pagewright.Markup.Tree
import Pagewright.Proofs.Markup.Plain

/-!
# Pagewright.Proofs.Pen.Grammar

The grammar of the markup that documents compile to.  Elements are nested, of the tags that the compiler
knows and no others; what stands between tags, in attribute values and in comments is plain text.  The
grammar is about texts, so nothing is said about where a tag comes from; `IsDrawn` ties it to trees.
-/

namespace Pagewright.Pen

open Markup

/-! ## tags -/

/-- The elements with markup inside: frames and shapes, texts, and icons. -/
def elementTags : List String :=
  [ "header", "footer", "nav", "aside", "section", "article", "main", "div",
    "p", "h1", "h2", "h3", "h4", "h5", "a", "span", "i" ]

/-- The elements without content: lines, and breaks in texts. -/
def voidTags : List String := ["hr", "br"]

/-- What a picture shows. -/
def pictureTags : List String := ["polygon", "path"]

/-- The names of attributes. -/
def attributeNames : List String :=
  [ "class", "href", "style", "data-pen-error", "data-ref", "viewBox", "width", "height",
    "points", "d", "fill", "fill-rule", "stroke", "stroke-width" ]

/-- What a comment begins with. -/
def commentStart : String := " pen: unresolved reference "

/-! ## the grammar -/

/-- Attributes as they are written in a tag. -/
inductive IsAttributes : String → Prop where
  | nil : IsAttributes ""
  | cons {name value rest : String} (known : name ∈ attributeNames) (plain : IsPlain value)
      (more : IsAttributes rest) :
      IsAttributes (" " ++ name ++ "=\"" ++ value ++ "\"" ++ rest)

/-- Markup: texts, elements and comments one after the other. -/
inductive IsMarkup : String → Prop where
  | nil : IsMarkup ""
  | text {written rest : String} (plain : IsPlain written) (more : IsMarkup rest) :
      IsMarkup (written ++ rest)
  | element {tag attributes inner rest : String} (known : tag ∈ elementTags)
      (proper : IsAttributes attributes) (inside : IsMarkup inner) (more : IsMarkup rest) :
      IsMarkup ("<" ++ tag ++ attributes ++ ">" ++ inner ++ "</" ++ tag ++ ">" ++ rest)
  | void {tag attributes rest : String} (known : tag ∈ voidTags)
      (proper : IsAttributes attributes) (more : IsMarkup rest) :
      IsMarkup ("<" ++ tag ++ attributes ++ ">" ++ rest)
  | picture {frame tag attributes rest : String} (framed : IsAttributes frame)
      (known : tag ∈ pictureTags) (proper : IsAttributes attributes) (more : IsMarkup rest) :
      IsMarkup ("<svg" ++ frame ++ ">" ++ "<" ++ tag ++ attributes ++ "/>" ++ "</svg>" ++ rest)
  | comment {written rest : String} (plain : IsPlain written) (more : IsMarkup rest) :
      IsMarkup ("<!--" ++ commentStart ++ written ++ " -->" ++ rest)

/-- Markup behind markup is markup, by induction on the first. -/
theorem IsMarkup.append {s t : String} (hs : IsMarkup s) (ht : IsMarkup t) : IsMarkup (s ++ t) := by
  induction hs with
  | nil =>
      rw [String.empty_append]
      exact ht
  | text plain _ ih =>
      rw [String.append_assoc]
      exact .text plain ih
  | element known proper inside _ _ ih =>
      rw [String.append_assoc]
      exact .element known proper inside ih
  | void known proper _ ih =>
      rw [String.append_assoc]
      exact .void known proper ih
  | picture framed known proper _ ih =>
      rw [String.append_assoc]
      exact .picture framed known proper ih
  | comment plain _ ih =>
      rw [String.append_assoc]
      exact .comment plain ih

/-! ## trees -/

/-- Attributes that the compiler knows, with plain values. -/
def AreProper (as : List Attribute) : Prop := ∀ a ∈ as, a.name ∈ attributeNames ∧ IsPlain a.value

theorem areProper_nil : AreProper [] := by
  intro a h
  cases h

theorem AreProper.cons {as : List Attribute} (more : AreProper as) (name : String) {value : String}
    (known : name ∈ attributeNames) (plain : IsPlain value) : AreProper (⟨name, value⟩ :: as) := by
  intro a h
  cases h with
  | head => exact ⟨known, plain⟩
  | tail _ h => exact more a h

/-- Proper attributes are written as the grammar has them. -/
theorem isAttributes_print {as : List Attribute} (h : AreProper as) :
    IsAttributes (printAttributes as) := by
  induction as with
  | nil => exact .nil
  | cons a as ih =>
      have more := ih fun b hb => h b (List.mem_cons_of_mem a hb)
      have first := h a (List.mem_cons_self ..)
      rw [printAttributes, List.map_cons, String.join_cons]
      exact .cons first.1 first.2 more

/-- Whether trees are written as markup. -/
def IsDrawn (ts : List Tree) : Prop := IsMarkup (printTrees ts)

theorem isDrawn_nil : IsDrawn [] := IsMarkup.nil

/-- Trees in a row are written one after the other. -/
theorem IsDrawn.append {ts us : List Tree} (ht : IsDrawn ts) (hu : IsDrawn us) :
    IsDrawn (ts ++ us) := by
  unfold IsDrawn
  rw [printTrees_append]
  exact IsMarkup.append ht hu

theorem isDrawn_flatten {tss : List (List Tree)} (h : ∀ ts ∈ tss, IsDrawn ts) :
    IsDrawn tss.flatten := by
  induction tss with
  | nil => exact isDrawn_nil
  | cons ts tss ih =>
      rw [List.flatten_cons]
      exact (h ts (by simp)).append (ih fun us hu => h us (List.mem_cons_of_mem ts hu))

/-- A plain text is markup. -/
theorem isDrawn_text {written : String} (h : IsPlain written) : IsDrawn [.text written] :=
  .text h .nil

/-- So is the comment that reports a reference, if its text is plain. -/
theorem isDrawn_comment {written : String} (h : IsPlain written) :
    IsDrawn [.comment (commentStart ++ written ++ " ")] := by
  have closed : printTrees [.comment (commentStart ++ written ++ " ")] =
      "<!--" ++ commentStart ++ written ++ " -->" ++ "" := by
    have closing : " " ++ "-->" = " -->" := by decide
    simp only [printTrees, Tree.print, closing, String.append_assoc, String.append_empty]
  unfold IsDrawn
  rw [closed]
  exact .comment h .nil

section

variable {tag : String} {as : List Attribute}

/-- An element of a known tag is markup if what it holds is. -/
theorem isDrawn_element {inner : List Tree} (known : tag ∈ elementTags)
    (proper : AreProper as) (inside : IsDrawn inner) :
    IsDrawn [.element tag as inner] :=
  .element known (isAttributes_print proper) inside .nil

/-- An element without content is markup. -/
theorem isDrawn_void (known : tag ∈ voidTags) (proper : AreProper as) :
    IsDrawn [.void tag as] :=
  .void known (isAttributes_print proper) .nil

/-- A picture is markup around one outline. -/
theorem isDrawn_picture {frame : List Attribute} (framed : AreProper frame)
    (known : tag ∈ pictureTags) (proper : AreProper as) :
    IsDrawn [.element "svg" frame [.closed tag as]] := by
  have written : printTrees [.element "svg" frame [.closed tag as]] =
      "<svg" ++ printAttributes frame ++ ">" ++ "<" ++ tag ++ printAttributes as ++ "/>" ++
        "</svg>" ++ "" := by
    have opening : "<" ++ "svg" = "<svg" := by decide
    have closing : "</" ++ ("svg" ++ ">") = "</svg>" := by decide
    simp only [printTrees, Tree.print, opening, closing, String.append_assoc, String.append_empty]
  unfold IsDrawn
  rw [written]
  exact .picture (isAttributes_print framed) known (isAttributes_print proper) .nil

end

end Pagewright.Pen
