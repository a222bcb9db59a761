import Pagewright.Css.Sheet
import Pagewright.Proofs.Css.Items
import Pagewright.Proofs.Text.Words

/-!
# Pagewright.Proofs.Css.Tree

Sheets as trees.  `printParts` writes the parts of a sheet as text again.  A part is sound if its items
are whole and every header of a group stays outside quotes up to its brace; a row of sound parts is
read back from its text (`parts_join_printParts`).  What cutting gives is sound but for the headers of
its groups, in which a brace may stand inside quotes (`isCut_of_mem_parts`).
-/

namespace Pagewright.Css

open Text Nesting

/-! ## text of parts -/

mutual

/-- The text of a part. -/
def Part.print : Part → List Char
  | .group header inner => header ++ '\x7b' :: join ['\n'] (printParts inner) ++ ['\x7d']
  | .item _ text => text

/-- The texts of parts. -/
def printParts : List Part → List (List Char)
  | [] => []
  | p :: ps => p.print :: printParts ps

end

/-- The item that a part is written as. -/
def Part.toItem : Part → Item
  | p@(.group _ _) => ⟨.block, p.print⟩
  | .item kind text => ⟨kind, text⟩

theorem text_toItem (p : Part) : p.toItem.text = p.print := by
  cases p <;> rfl

theorem printParts_eq_map (ps : List Part) : printParts ps = ps.map Part.print := by
  induction ps with
  | nil => rfl
  | cons p ps ih => rw [printParts, ih, List.map_cons]

theorem printParts_append (ps qs : List Part) : printParts (ps ++ qs) = printParts ps ++ printParts qs := by
  simp only [printParts_eq_map, List.map_append]

/-! ## reading parts -/

/-- The part that an item is. -/
def Item.toPart (item : Item) : Part :=
  if item.isGroup then .group (splitBlock item.text).1 (parts (splitBlock item.text).2)
  else .item item.kind item.text

/-- The parts of a text are made of its items one by one. -/
theorem parts_eq_map (cs : List Char) : parts cs = (items cs).map Item.toPart := by
  have same : (items cs).attach.map (fun x => x.val.toPart) = (items cs).map Item.toPart := by
    calc (items cs).attach.map (fun x => x.val.toPart)
        = ((items cs).attach.map Subtype.val).map Item.toPart := by rw [List.map_map]; rfl
      _ = (items cs).map Item.toPart := by rw [List.attach_map_subtype_val]
  rw [parts, ← same]
  apply List.map_congr_left
  rintro ⟨item, mem⟩ -
  simp only [Item.toPart]
  split <;> rfl

/-- The parts of a text, as far as groups stand in each other less than `n` deep.  Unlike `parts` it recurs on a
number, so that the parts of a given text can be computed. -/
def partsUpTo : (n : Nat) → List Char → List Part
  | 0, _ => []
  | n + 1, cs => (items cs).map fun item =>
    if item.isGroup then .group (splitBlock item.text).1 (partsUpTo n (splitBlock item.text).2)
    else .item item.kind item.text

/-- What stands in a group is shorter than the group, so no text has groups deeper than it is long. -/
theorem parts_eq_partsUpTo {n : Nat} {cs : List Char} (h : cs.length < n) : parts cs = partsUpTo n cs := by
  induction n generalizing cs with
  | zero => cases h
  | succ n ih =>
      rw [parts_eq_map, partsUpTo]
      refine List.map_congr_left fun item mem => ?_
      rw [Item.toPart]
      split
      · next group =>
        have inside := length_splitBlock_lt (Item.ne_nil_of_isGroup group)
        have within := Nat.le_trans (length_le_of_mem_items mem) (Nat.le_of_lt_succ h)
        rw [ih (Nat.lt_of_lt_of_le inside within)]
      · rfl

/-! ## headers -/

/-- A header of a group: a grouping at-rule up to its first brace, none of which stands in quotes. -/
structure IsHeader (header : List Char) : Prop where
  name : groupingNames.contains (atRuleName header) = true
  noBrace : '\x7b' ∉ header
  trimmed : trim header = header
  held : Held outside header
  closed : after braces outside header = outside

/-- Taking ends at the first character that does not belong. -/
theorem takeWhile_append_of_not {p : Char → Bool} {c : Char} (h : p c = false) (cs ds : List Char) :
    (cs ++ c :: ds).takeWhile p = cs.takeWhile p := by
  induction cs with
  | nil => simp [h]
  | cons d cs ih =>
      rw [List.cons_append, List.takeWhile_cons, List.takeWhile_cons, ih]

/-- The name of an at-rule ends with the first character that is none of a name. -/
theorem atRuleName_append {c : Char} (h : isNameChar c = false) {cs : List Char} (ne : cs ≠ [])
    (ds : List Char) : atRuleName (cs ++ c :: ds) = atRuleName cs := by
  cases cs with
  | nil => exact absurd rfl ne
  | cons d cs =>
      by_cases hd : d = '@'
      · subst hd
        simp only [List.cons_append, atRuleName, takeWhile_append_of_not h]
      · have other {r : List Char} : atRuleName (d :: r) = [] := by
          unfold atRuleName
          split
          · next e => exact absurd (List.cons.inj e).1 hd
          · rfl
        rw [List.cons_append, other, other]

/-- A header has a name, so it is not empty. -/
theorem IsHeader.ne_nil {header : List Char} (h : IsHeader header) : header ≠ [] := by
  rintro rfl
  exact absurd h.name (by decide)

/-- A group has the name of its header. -/
theorem IsHeader.atRuleName_print {header : List Char} (h : IsHeader header) (inner : List Part) :
    atRuleName (Part.group header inner).print = atRuleName header := by
  have noName : isNameChar '\x7b' = false := by decide
  rw [Part.print, List.append_assoc]
  exact atRuleName_append noName h.ne_nil _

/-- No blank belongs to a name. -/
theorem isNameChar_of_isBlank {c : Char} (h : isBlank c = true) : isNameChar c = false :=
  eq_false_of_isBlank (by decide +kernel) h

/-! ## sound parts -/

/-- Whether a part is complete where it ends. -/
def Part.IsClosed (p : Part) : Prop := p.toItem.kind.IsClosed

/-- A part that is read back from its text. -/
inductive Part.IsSound : Part → Prop
  | item {kind : ItemKind} {text : List Char} (whole : Item.IsWhole ⟨kind, text⟩)
      (single : Item.isGroup ⟨kind, text⟩ = false) (complete : kind ≠ .unclosed) :
      IsSound (.item kind text)
  | group {header : List Char} {inner : List Part} (isHeader : IsHeader header)
      (sound : ∀ p ∈ inner, p.IsSound) (closed : inner.Pairwise fun p _ => p.IsClosed) :
      IsSound (.group header inner)

/-- Inside a block, a complete item leaves the reader where it was. -/
theorem held_inside {kind : ItemKind} {text : List Char} (fits : kind.Fits text)
    (complete : kind ≠ .unclosed) :
    Held ⟨1, none⟩ text ∧ after braces ⟨1, none⟩ text = ⟨1, none⟩ := by
  -- what ends the item outside does not end the block around it
  cases kind with
  | block =>
      obtain ⟨body, rfl, held, one⟩ := fits
      obtain ⟨held', same⟩ := held_deeper held
      rw [one] at same
      refine ⟨held_append.2 ⟨held', ?_⟩, ?_⟩
      · rw [show (⟨1, none⟩ : Nesting) = outside.deeper from rfl, same]
        refine ⟨?_, trivial⟩
        rintro ⟨-, ⟨-, le⟩ | ⟨eq, -⟩⟩
        · simp [deeper] at le
        · cases eq
      · rw [after_append, show (⟨1, none⟩ : Nesting) = outside.deeper from rfl, same]
        rfl
  | statement =>
      obtain ⟨body, rfl, held, zero⟩ := fits
      obtain ⟨held', same⟩ := held_deeper held
      rw [zero] at same
      refine ⟨held_append.2 ⟨held', ?_⟩, ?_⟩
      · rw [show (⟨1, none⟩ : Nesting) = outside.deeper from rfl, same]
        refine ⟨?_, trivial⟩
        rintro ⟨-, ⟨eq, -⟩ | ⟨-, zero⟩⟩
        · cases eq
        · simp [deeper] at zero
      · rw [after_append, show (⟨1, none⟩ : Nesting) = outside.deeper from rfl, same]
        rfl
  | trailing =>
      obtain ⟨held', same⟩ := held_deeper fits.1
      rw [fits.2] at same
      exact ⟨held', same⟩
  | unclosed => exact absurd rfl complete

/-- Texts that are held and leave the reader where it was do so in a row with blanks between them. -/
theorem held_join {s : Nesting} {sep : List Char} {texts : List (List Char)} (hs : IsQuote s.quote)
    (blank : ∀ c ∈ sep, isBlank c = true)
    (h : ∀ text ∈ texts, Held s text ∧ after braces s text = s) :
    Held s (join sep texts) ∧ after braces s (join sep texts) = s := by
  induction texts with
  | nil => exact ⟨trivial, rfl⟩
  | cons text texts ih =>
      obtain ⟨held, same⟩ := h text (by simp)
      have h' := ih fun t ht => h t (by simp [ht])
      by_cases last : texts = []
      · subst last
        exact ⟨held, same⟩
      · have still : after braces s sep = s :=
          after_of_isPlain hs fun c hc => isPlain_braces_of_isBlank (blank c hc)
        rw [join_cons last]
        refine ⟨?_, by rw [after_append, after_append, same, still, h'.2]⟩
        rw [held_append, held_append, after_append, same, still]
        exact ⟨⟨held, held_of_isBlank hs blank⟩, h'.1⟩

/-- A header with a brace, a text that is closed in itself, and the closing brace make a block. -/
theorem fits_block {header body : List Char} (held : Held outside header)
    (closed : after braces outside header = outside)
    (inner : Held ⟨1, none⟩ body ∧ after braces ⟨1, none⟩ body = ⟨1, none⟩) :
    ItemKind.block.Fits (header ++ '\x7b' :: body ++ ['\x7d']) := by
  have opened : outside.next braces '\x7b' = ⟨1, none⟩ := rfl
  refine ⟨header ++ '\x7b' :: body, rfl, ?_, ?_⟩
  · rw [held_append, closed]
    refine ⟨held, ?_, opened ▸ inner.1⟩
    rintro ⟨-, ⟨eq, -⟩ | ⟨eq, -⟩⟩ <;> cases eq
  · rw [after_append, closed, after_cons, opened, inner.2]

/-- A sound part is written as an item. -/
theorem Part.IsSound.isWhole {p : Part} (h : p.IsSound) : p.toItem.IsWhole := by
  induction h with
  | item whole => exact whole
  | @group header inner isHeader sound closed ih =>
      have texts : ∀ text ∈ printParts inner, Held ⟨1, none⟩ text ∧
          after braces ⟨1, none⟩ text = ⟨1, none⟩ := by
        rw [printParts_eq_map]
        rintro _ ht
        obtain ⟨p, hp, rfl⟩ := List.mem_map.1 ht
        rw [← text_toItem]
        refine held_inside (ih p hp).fits ?_
        cases sound p hp with
        | item _ _ complete => exact complete
        | group =>
            intro e
            cases e
      have between : ∀ c ∈ ['\n'], isBlank c = true := List.all_eq_true.1 (by decide)
      have joined := held_join (.inl rfl) between texts
      refine ⟨fits_block isHeader.held isHeader.closed joined, ?_, ?_, ?_⟩
      · have last : isBlank '\x7d' = false := rfl
        obtain ⟨first, rest, rfl⟩ := List.exists_cons_of_ne_nil isHeader.ne_nil
        have begins := (trim_eq_self_iff.1 isHeader.trimmed).1 first rfl
        exact trim_eq_self_of_ends begins last
      · exact fun e => by simp [toItem, Part.print] at e
      · intro e
        cases e

/-- The text of a sound part is trimmed and not empty. -/
theorem Part.IsSound.trim_print {p : Part} (h : p.IsSound) : trim p.print = p.print ∧ p.print ≠ [] := by
  rw [← text_toItem]
  exact ⟨h.isWhole.trimmed, h.isWhole.ne_nil⟩

/-- Sound parts have no blanks around them. -/
theorem trim_join_printParts {ps : List Part} (sound : ∀ p ∈ ps, p.IsSound) :
    trim (join ['\n'] (printParts ps)) = join ['\n'] (printParts ps) := by
  apply trim_join
  rw [printParts_eq_map]
  rintro _ ht
  obtain ⟨p, hp, rfl⟩ := List.mem_map.1 ht
  exact (sound p hp).trim_print

/-- Sound parts under one another are cut apart again, as each is closed before the next begins. -/
theorem items_join_printParts {ps : List Part} (sound : ∀ p ∈ ps, p.IsSound)
    (closed : ps.Pairwise fun p _ => p.IsClosed) :
    items (join ['\n'] (printParts ps)) = ps.map Part.toItem := by
  have texts : printParts ps = (ps.map Part.toItem).map (·.text) := by
    rw [printParts_eq_map, List.map_map]
    exact List.map_congr_left fun p _ => (text_toItem p).symm
  rw [texts, items_join]
  · intro item hitem
    obtain ⟨p, hp, rfl⟩ := List.mem_map.1 hitem
    exact (sound p hp).isWhole
  · rw [List.pairwise_map]
    exact closed

/-- The text of a group is split at the brace behind its header. -/
theorem splitBlock_print {header : List Char} {inner : List Part} (isHeader : IsHeader header)
    (sound : ∀ p ∈ inner, p.IsSound) :
    splitBlock (Part.group header inner).print = (header, join ['\n'] (printParts inner)) := by
  have cut : cut? '\x7b' (Part.group header inner).print =
      some (header, join ['\n'] (printParts inner) ++ ['\x7d']) := by
    rw [cut?_eq_some_iff]
    exact ⟨by simp [Part.print], isHeader.noBrace⟩
  unfold splitBlock
  rw [cut]
  simp only [List.dropLast_concat, isHeader.trimmed, trim_join_printParts sound]

/-- The text of a sound part is that part again. -/
theorem Part.IsSound.toPart_toItem {p : Part} (h : p.IsSound) : p.toItem.toPart = p := by
  induction h with
  | item _ single => simp [toItem, Item.toPart, single]
  | @group header inner isHeader sound closed ih =>
      have grouped : (Part.group header inner).toItem.isGroup = true := by
        rw [Item.isGroup, text_toItem, isHeader.atRuleName_print, isHeader.name]
        rfl
      have read : parts (join ['\n'] (printParts inner)) = inner := by
        rw [parts_eq_map, items_join_printParts sound closed, List.map_map]
        calc inner.map (Item.toPart ∘ toItem)
            = inner.map id := List.map_congr_left fun p hp => ih p hp
          _ = inner := List.map_id inner
      unfold Item.toPart
      rw [if_pos grouped, text_toItem, splitBlock_print isHeader sound, read]

/-- Sound parts that stand one under the other are read back. -/
theorem parts_join_printParts {ps : List Part} (sound : ∀ p ∈ ps, p.IsSound)
    (closed : ps.Pairwise fun p _ => p.IsClosed) : parts (join ['\n'] (printParts ps)) = ps := by
  rw [parts_eq_map, items_join_printParts sound closed, List.map_map]
  calc ps.map (Item.toPart ∘ Part.toItem)
      = ps.map id := List.map_congr_left fun p hp => (sound p hp).toPart_toItem
    _ = ps := List.map_id ps

/-! ## cut parts -/

/-- A part as the cutting of a sheet gives it. -/
inductive Part.IsCut : Part → Prop
  | item {kind : ItemKind} {text : List Char} (whole : Item.IsWhole ⟨kind, text⟩)
      (single : Item.isGroup ⟨kind, text⟩ = false) : IsCut (.item kind text)
  | group {text : List Char} {inner : List Part} (whole : Item.IsWhole ⟨.block, text⟩)
      (grouped : groupingNames.contains (atRuleName text) = true) (cut : ∀ p ∈ inner, p.IsCut)
      (closed : inner.Pairwise fun p _ => p.IsClosed) :
      IsCut (.group (splitBlock text).1 inner)

/-- A part is closed if its item is. -/
theorem isClosed_toPart (item : Item) : item.toPart.IsClosed ↔ item.kind.IsClosed := by
  unfold Item.toPart
  split
  · next grouped =>
    simp only [Item.isGroup, Bool.and_eq_true, beq_iff_eq] at grouped
    rw [grouped.1]
    rfl
  · rfl

/-- Only the last part of a sheet can be one that is not closed. -/
theorem pairwise_parts (cs : List Char) : (parts cs).Pairwise fun p _ => p.IsClosed := by
  rw [parts_eq_map, List.pairwise_map]
  exact (pairwise_items cs).imp fun {item _} closed => (isClosed_toPart item).2 closed

/-- Every part of a sheet is cut out of it. -/
theorem isCut_of_mem_parts {p : Part} {cs : List Char} (h : p ∈ parts cs) : p.IsCut := by
  induction hn : cs.length using Nat.strong_induction_on generalizing p cs with
  | _ n ih =>
      subst hn
      rw [parts_eq_map] at h
      obtain ⟨item, hitem, rfl⟩ := List.mem_map.1 h
      have whole := isWhole_of_mem_items hitem
      unfold Item.toPart
      split
      · next grouped =>
        have shorter := length_splitBlock_lt (Item.ne_nil_of_isGroup grouped)
        have short := length_le_of_mem_items hitem
        obtain ⟨kind, text⟩ := item
        simp only [Item.isGroup, Bool.and_eq_true, beq_iff_eq] at grouped
        obtain ⟨rfl, name⟩ := grouped
        exact .group whole name (fun p hp => ih _ (Nat.lt_of_lt_of_le shorter short) hp rfl)
          (pairwise_parts _)
      · next single => exact .item whole (by simpa using single)

/-! ## headers of cut groups -/

/-- Without an opening brace no block begins. -/
theorem depth_after_of_not_mem {cs : List Char} (h : '\x7b' ∉ cs) {s : Nesting} (hs : s.depth = 0) :
    (after braces s cs).depth = 0 := by
  induction cs generalizing s with
  | nil => exact hs
  | cons c cs ih =>
      rw [List.mem_cons, not_or] at h
      refine ih h.2 ?_
      have other : c ∉ braces.opening := fun m => h.1 (List.mem_singleton.1 m).symm
      simp [Nesting.next, other, hs]

/-- A block has a brace that opens it. -/
theorem exists_brace_of_fits {text : List Char} (h : ItemKind.block.Fits text) :
    ∃ header body, text = header ++ '\x7b' :: (body ++ ['\x7d']) ∧ '\x7b' ∉ header ∧
      Held outside (header ++ '\x7b' :: body) ∧
      after braces outside (header ++ '\x7b' :: body) = ⟨1, none⟩ := by
  obtain ⟨body, rfl, held, one⟩ := h
  have opens : '\x7b' ∈ body := by
    by_contra none
    have zero := depth_after_of_not_mem none (s := outside) rfl
    rw [one] at zero
    cases zero
  obtain ⟨header, rest, rfl, new⟩ := List.eq_append_cons_of_mem opens
  exact ⟨header, rest, by simp, new, held, one⟩

/-- A block is split at its first brace, and loses its last character. -/
theorem splitBlock_append {header rest : List Char} (new : '\x7b' ∉ header) :
    splitBlock (header ++ '\x7b' :: rest) = (trim header, trim rest.dropLast) := by
  have cut : cut? '\x7b' (header ++ '\x7b' :: rest) = some (header, rest) :=
    cut?_eq_some_iff.2 ⟨rfl, new⟩
  unfold splitBlock
  rw [cut]

/-- The blanks behind a header do not belong to its name. -/
theorem atRuleName_trim {header rest : List Char} {c : Char}
    (trimmed : trim (header ++ c :: rest) = header ++ c :: rest) (other : isNameChar c = false)
    (ne : header ≠ []) : atRuleName (trim header) = atRuleName (header ++ c :: rest) := by
  rw [atRuleName_append other ne]
  obtain ⟨before, behind, eq, blank, blank'⟩ := exists_blanks_trim header
  have noBefore : before = [] := by
    cases before with
    | nil => rfl
    | cons d before =>
        have first := (trim_eq_self_iff.1 trimmed).1 d (by rw [eq]; rfl)
        rw [blank d (by simp)] at first
        cases first
  rw [noBefore, List.nil_append] at eq
  cases behind with
  | nil => rw [List.append_nil] at eq; rw [← eq]
  | cons d behind =>
      have some : trim header ≠ [] := by
        intro none
        rw [none, List.nil_append] at eq
        obtain ⟨first, tail, e⟩ := List.exists_cons_of_ne_nil ne
        have := (trim_eq_self_iff.1 trimmed).1 first (by rw [e]; rfl)
        rw [blank' first (by rw [← eq, e]; simp)] at this
        cases this
      have same := atRuleName_append (isNameChar_of_isBlank (blank' d (by simp))) some behind
      rw [← eq] at same
      exact same.symm

/-- The header of a group is a grouping at-rule without a brace. -/
theorem header_splitBlock {text : List Char} (whole : Item.IsWhole ⟨.block, text⟩)
    (grouped : groupingNames.contains (atRuleName text) = true) :
    ∃ header body, text = header ++ '\x7b' :: (body ++ ['\x7d']) ∧ Held outside header ∧
      splitBlock text = (trim header, trim body) ∧ '\x7b' ∉ trim header ∧
      groupingNames.contains (atRuleName (trim header)) = true := by
  obtain ⟨header, body, rfl, new, heldBody, -⟩ := exists_brace_of_fits whole.fits
  have some : header ≠ [] := by
    rintro rfl
    exact absurd grouped (by simp [atRuleName, groupingNames])
  have noBrace : '\x7b' ∉ trim header := by
    obtain ⟨before, behind, eq, -, -⟩ := exists_blanks_trim header
    intro m
    exact new (by rw [eq]; simp [m])
  refine ⟨header, body, rfl, (held_append.1 heldBody).1, ?_, noBrace, ?_⟩
  · rw [splitBlock_append new, List.dropLast_concat]
  · rw [atRuleName_trim whole.trimmed (by decide) some]
    exact grouped

/-- The header of a group has the shape of one if it leaves no quote open. -/
theorem isHeader_splitBlock {text : List Char} (whole : Item.IsWhole ⟨.block, text⟩)
    (grouped : groupingNames.contains (atRuleName text) = true)
    (quote : quoteAfter none (splitBlock text).1 = none) : IsHeader (splitBlock text).1 := by
  obtain ⟨header, body, -, held, split, noBrace, name⟩ := header_splitBlock whole grouped
  rw [split] at quote ⊢
  obtain ⟨held', -⟩ := held_trim (.inl rfl) held
  refine ⟨name, noBrace, trim_trim header, held', ?_⟩
  rw [outside, Nesting.mk.injEq]
  exact ⟨depth_after_of_not_mem noBrace rfl, by rw [quote_after]; exact quote⟩

end Pagewright.Css
