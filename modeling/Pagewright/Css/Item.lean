import Pagewright.Text.Blank

/-!
# Pagewright.Css.Item

Cutting CSS into its top-level items.  A block ends with the brace that closes it, a statement with a
semicolon outside all braces.  Braces and semicolons in quotes do not count.  A closing brace that
closes nothing is dropped together with what stands before it.
-/

namespace Pagewright.Css

open Text

/-- What an item is. -/
inductive ItemKind where
  /-- A rule with its braces. -/
  | block
  /-- What ends with a semicolon. -/
  | statement
  /-- What stands at the end without a semicolon. -/
  | trailing
  /-- What is never closed: a brace or a quote is open at the end. -/
  | unclosed
  deriving DecidableEq, Inhabited

/-- A top-level item, without the blanks around it. -/
structure Item where
  kind : ItemKind
  text : List Char
  deriving DecidableEq, Inhabited

/-- An item, unless its text is among those that are skipped. -/
def Item.keep (kind : ItemKind) (skipped : List (List Char)) (text : List Char) : List Item :=
  if skipped.contains text then [] else [⟨kind, text⟩]

/-- The items of a text.  `depth` counts the open braces, `quote` is the open quote, and `current`
holds the characters of the item so far, last first. -/
def itemsFrom (depth : Nat) (quote : Option Char) (current : List Char) : List Char → List Item
  | [] =>
    let kind := if 0 < depth || quote.isSome then ItemKind.unclosed else .trailing
    Item.keep kind [[]] (trim current.reverse)
  | c :: cs =>
    match quote with
    | some q => itemsFrom depth (if c = q then none else some q) (c :: current) cs
    | none =>
      if c = '\'' ∨ c = '"' then itemsFrom depth (some c) (c :: current) cs
      else if c = '\x7b' then itemsFrom (depth + 1) none (c :: current) cs
      else if c = '\x7d' then
        match depth with
        | 0 => itemsFrom 0 none [] cs
        | 1 => Item.keep .block [[]] (trim (c :: current).reverse) ++ itemsFrom 0 none [] cs
        | d + 2 => itemsFrom (d + 1) none (c :: current) cs
      else if c = ';' ∧ depth = 0 then
        Item.keep .statement [[], [';']] (trim (c :: current).reverse) ++ itemsFrom 0 none [] cs
      else itemsFrom depth none (c :: current) cs

/-- The top-level items of a text. -/
def items (cs : List Char) : List Item := itemsFrom 0 none [] cs

/-! ## Sizes -/

theorem length_trimStart_le (cs : List Char) : (trimStart cs).length ≤ cs.length := by
  unfold trimStart
  induction cs with
  | nil => simp
  | cons c cs ih =>
    rw [List.dropWhile_cons]
    split
    · exact Nat.le_succ_of_le ih
    · exact Nat.le_refl _

theorem length_trim_le (cs : List Char) : (trim cs).length ≤ cs.length := by
  have h := length_trimStart_le (trimStart cs).reverse
  have h' := length_trimStart_le cs
  simp only [trim, trimEnd, trimStart, List.length_reverse] at *
  omega

/-- An item that is kept has the text that was cut off. -/
theorem text_eq_of_mem_keep {item : Item} {kind : ItemKind} {skipped : List (List Char)}
    {text : List Char} (h : item ∈ Item.keep kind skipped text) : item.text = text := by
  unfold Item.keep at h
  split at h <;> simp_all

/-- An item is no longer than the text it was cut from. -/
theorem length_le_of_mem_itemsFrom {item : Item} {depth : Nat} {quote : Option Char}
    {current cs : List Char} (h : item ∈ itemsFrom depth quote current cs) :
    item.text.length ≤ current.length + cs.length := by
  induction cs generalizing depth quote current with
  | nil =>
    unfold itemsFrom at h
    rw [text_eq_of_mem_keep h]
    have := length_trim_le current.reverse
    simp at this ⊢
    omega
  | cons c cs ih =>
    have trimmed := length_trim_le (c :: current).reverse
    simp only [List.length_reverse, List.length_cons] at trimmed
    have later {d : Nat} {q : Option Char} {now : List Char} (short : now.length ≤ current.length + 1)
        (h : item ∈ itemsFrom d q now cs) : item.text.length ≤ current.length + (cs.length + 1) := by
      have := ih h
      omega
    have kept {kind : ItemKind} {skipped : List (List Char)}
        (h : item ∈ Item.keep kind skipped (trim (c :: current).reverse)) :
        item.text.length ≤ current.length + (cs.length + 1) := by
      rw [text_eq_of_mem_keep h]
      omega
    unfold itemsFrom at h
    rw [List.length_cons]
    repeat' split at h
    all_goals first
      | exact later (by simp) h
      | exact (List.mem_append.1 h).elim kept (later (by simp))

/-- An item is no longer than its sheet; by this the reading of groups inside groups comes to an end. -/
theorem length_le_of_mem_items {item : Item} {cs : List Char} (h : item ∈ items cs) :
    item.text.length ≤ cs.length := by
  simpa using length_le_of_mem_itemsFrom h

end Pagewright.Css
