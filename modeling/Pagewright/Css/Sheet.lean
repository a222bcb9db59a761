import Pagewright.Css.Item
import Pagewright.Text.Letter
import Pagewright.Text.Split

/-!
# Pagewright.Css.Sheet

The parts of a sheet.  At-rules that group other rules, such as a condition on the medium, are taken
apart into their header and the parts inside; every other item is a part as it stands.
-/

namespace Pagewright.Css

open Text

/-- A part of a sheet. -/
inductive Part where
  /-- An at-rule that groups the parts inside it. -/
  | group (header : List Char) (inner : List Part)
  /-- Any other item. -/
  | item (kind : ItemKind) (text : List Char)
  deriving Inhabited

mutual

/-- Decides whether two parts are the same. -/
def Part.decEq : (p q : Part) → Decidable (p = q)
  | .group header inner, .group header' inner' =>
    have := decEqParts inner inner'
    decidable_of_iff (header = header' ∧ inner = inner') (by simp)
  | .item kind text, .item kind' text' =>
    decidable_of_iff (kind = kind' ∧ text = text') (by simp)
  | .group .., .item .. => .isFalse nofun
  | .item .., .group .. => .isFalse nofun

/-- Decides whether two rows of parts are the same. -/
def decEqParts : (ps qs : List Part) → Decidable (ps = qs)
  | [], [] => .isTrue rfl
  | p :: ps, q :: qs =>
    have := p.decEq q
    have := decEqParts ps qs
    decidable_of_iff (p = q ∧ ps = qs) (by simp)
  | [], _ :: _ => .isFalse nofun
  | _ :: _, [] => .isFalse nofun

end

instance : DecidableEq Part := Part.decEq

/-- The at-rules that group others. -/
def groupingNames : List (List Char) :=
  ["media".toList, "supports".toList, "container".toList, "layer".toList]

/-- The characters of the names of at-rules. -/
def isNameChar (c : Char) : Bool := c.isAlpha || c == '-'

/-- The name of the at-rule that a text begins with, in small letters; it is empty if the text begins
with no at-rule. -/
def atRuleName : List Char → List Char
  | '@' :: cs => (cs.takeWhile isNameChar).map lower
  | _ => []

/-- The text in front of the first brace of a block, and the text between that brace and the last
character, both without the blanks around them. -/
def splitBlock (block : List Char) : List Char × List Char :=
  match cut? '\x7b' block with
  | some (header, rest) => (trim header, trim rest.dropLast)
  | none => (trim block.dropLast, trim block.dropLast)

/-- Whether an item is an at-rule that groups others. -/
def Item.isGroup (item : Item) : Bool :=
  item.kind == .block && groupingNames.contains (atRuleName item.text)

/-- What stands behind a character is shorter than the text, so reading on behind it comes to an end. -/
theorem length_lt_of_cut? {c : Char} {cs before rest : List Char}
    (h : cut? c cs = some (before, rest)) : rest.length < cs.length := by
  induction cs generalizing before rest with
  | nil => simp [cut?] at h
  | cons d cs ih =>
    unfold cut? at h
    split at h
    · cases h
      simp
    · simp only [Option.map_eq_some_iff] at h
      obtain ⟨⟨b, r⟩, hr, he⟩ := h
      cases he
      exact Nat.lt_succ_of_lt (ih hr)

/-- What stands between the braces of a block is shorter than the block. -/
theorem length_splitBlock_lt {block : List Char} (h : block ≠ []) :
    (splitBlock block).2.length < block.length := by
  have positive := List.length_pos_iff.2 h
  unfold splitBlock
  split
  · next h =>
    have := length_lt_of_cut? h
    have := length_trim_le (List.dropLast ‹_›)
    simp only [List.length_dropLast] at this
    grind
  · have := length_trim_le block.dropLast
    simp only [List.length_dropLast] at this
    grind

/-- A group is not empty. -/
theorem Item.ne_nil_of_isGroup {item : Item} (h : item.isGroup = true) : item.text ≠ [] := by
  intro empty
  simp [isGroup, empty, atRuleName, groupingNames] at h

/-- The parts of a text. -/
def parts (cs : List Char) : List Part :=
  (items cs).attach.map fun ⟨item, mem⟩ =>
    if h : item.isGroup then
      have : (splitBlock item.text).2.length < cs.length :=
        Nat.lt_of_lt_of_le (length_splitBlock_lt (Item.ne_nil_of_isGroup h))
          (length_le_of_mem_items mem)
      .group (splitBlock item.text).1 (parts (splitBlock item.text).2)
    else .item item.kind item.text
termination_by cs.length

end Pagewright.Css
