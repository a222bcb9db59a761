import Pagewright.Element.Basic

/-!
# Pagewright.Element.Catalogue

Catalogues: elements by slug, in the order in which the slugs were first added.  Adding an element
under a slug that is there already replaces the element in its place.
-/

namespace Pagewright

/-- A catalogue. -/
structure Catalogue where
  elements : List Element

/-- Where a page takes its elements from.  The source may fail. -/
abbrev ElementSource := String → Except Fault (Option Element)

namespace Catalogue

/-- The catalogue without elements. -/
def empty : Catalogue := ⟨[]⟩

/-- Puts an element in the place of the one with the same slug, or at the end. -/
def put (e : Element) : List Element → List Element
  | [] => [e]
  | f :: rest => if f.slug = e.slug then e :: rest else f :: put e rest

/-- Adds an element. -/
def add (c : Catalogue) (e : Element) : Catalogue := ⟨put e c.elements⟩

/-- The catalogue of elements added one after the other. -/
def ofList (elements : List Element) : Catalogue := elements.foldl add empty

/-- The element under a slug. -/
def get? (c : Catalogue) (slug : String) : Option Element :=
  c.elements.find? fun e => e.slug = slug

/-- The element that a datum names. -/
def named? (c : Catalogue) (v : Value) : Except Fault (Option Element) := do
  return (← v.lookupKey?).bind c.get?

/-- The slugs in order. -/
def slugs (c : Catalogue) : List String := c.elements.map (·.slug)

/-- The number of elements. -/
def size (c : Catalogue) : Nat := c.elements.length

/-- A catalogue as the source of a page's elements; it never fails. -/
def source (c : Catalogue) : ElementSource := fun slug => .ok (c.get? slug)

end Catalogue

end Pagewright
