import Pagewright.Css.Sanitize
import Pagewright.Proofs.Css.Danger
import Pagewright.Proofs.Css.Tree

/-!
# Pagewright.Proofs.Css.Cleaning

What cleaning leaves of a sheet.  `keptParts` is the tree of the parts that are kept, and the cleaned
text is the text of that tree (`cleanParts_eq_printParts`).  A property of texts that passes over the
seams of the tree holds of the whole text if it holds of every piece (`holds_join_printParts`); with
this no refused construct and no beginning of a comment is left, and every harmless item stands in the
output as it was written (`sanitize_harmless_and_faithful`).
-/

namespace Pagewright.Css

open Text

/-! ## the kept tree -/

mutual

/-- What is kept of a part, if anything. -/
def Part.kept? : Part → Option Part
  | .group header inner =>
    if isDangerous header || (keptParts inner).isEmpty then none
    else some (.group header (keptParts inner))
  | .item kind text =>
    if kind == .unclosed || (kind != .block && text.head? == some '@') || isDangerous text then none
    else some (.item kind text)

/-- What is kept of the parts. -/
def keptParts : List Part → List Part
  | [] => []
  | p :: ps =>
    match p.kept? with
    | some kept => kept :: keptParts ps
    | none => keptParts ps

end

/-- Parts are kept one by one, whatever stands beside them. -/
theorem keptParts_eq_filterMap (ps : List Part) : keptParts ps = ps.filterMap Part.kept? := by
  induction ps with
  | nil => rfl
  | cons p ps ih =>
      rw [keptParts, List.filterMap_cons, ih]
      cases p.kept? <;> rfl

/-- What is kept is what is kept of some part. -/
theorem exists_of_mem_keptParts {kept : Part} {ps : List Part} (h : kept ∈ keptParts ps) :
    ∃ p ∈ ps, p.kept? = some kept := by
  rw [keptParts_eq_filterMap] at h
  exact List.mem_filterMap.1 h

/-- Keeping does not open what was closed. -/
theorem isClosed_of_kept? {p kept : Part} (h : p.kept? = some kept) (closed : p.IsClosed) :
    kept.IsClosed := by
  cases p with
  | group header inner =>
      simp only [Part.kept?, Option.ite_none_left_eq_some, Option.some.injEq] at h
      rw [← h.2]
      trivial
  | item kind text =>
      simp only [Part.kept?, Option.ite_none_left_eq_some, Option.some.injEq] at h
      rw [← h.2]
      exact closed

/-- All kept parts but the last are closed, as the parts were from which they come. -/
theorem pairwise_keptParts {ps : List Part} (closed : ps.Pairwise fun p _ => p.IsClosed) :
    (keptParts ps).Pairwise fun p _ => p.IsClosed := by
  rw [keptParts_eq_filterMap]
  refine List.Pairwise.filterMap _ (fun p _ first kept hkept _ _ => ?_) closed
  exact isClosed_of_kept? hkept first

/-- What is kept of a part that was cut out of a sheet could have been cut out of one. -/
theorem Part.IsCut.of_kept? {p kept : Part} (cut : p.IsCut) (h : p.kept? = some kept) : kept.IsCut := by
  induction cut generalizing kept with
  | item whole single =>
      simp only [kept?, Option.ite_none_left_eq_some, Option.some.injEq] at h
      rw [← h.2]
      exact .item whole single
  | group whole grouped _ closed ih =>
      simp only [kept?, Option.ite_none_left_eq_some, Option.some.injEq] at h
      rw [← h.2]
      refine .group whole grouped (fun q hq => ?_) (pairwise_keptParts closed)
      obtain ⟨p, hp, hkept⟩ := exists_of_mem_keptParts hq
      exact ih p hp hkept

/-- Each kept part could have been cut out of a sheet. -/
theorem isCut_of_mem_keptParts {kept : Part} {ps : List Part} (cut : ∀ p ∈ ps, p.IsCut)
    (h : kept ∈ keptParts ps) : kept.IsCut := by
  obtain ⟨p, hp, hkept⟩ := exists_of_mem_keptParts h
  exact (cut p hp).of_kept? hkept

/-- A part that was cut out is not empty in print. -/
theorem Part.IsCut.print_ne_nil {p : Part} (cut : p.IsCut) : p.print ≠ [] := by
  cases cut with
  | item whole => exact whole.ne_nil
  | group => simp [print]

/-- A sheet is empty in print exactly when it has no parts. -/
theorem isEmpty_join_printParts {ps : List Part} (cut : ∀ p ∈ ps, p.IsCut) :
    (join ['\n'] (printParts ps)).isEmpty = ps.isEmpty := by
  cases ps with
  | nil => rfl
  | cons p ps =>
      have some : join ['\n'] (printParts (p :: ps)) ≠ [] := by
        refine join_ne_nil (by simp [printParts]) fun text ht => ?_
        rw [printParts_eq_map] at ht
        obtain ⟨q, hq, rfl⟩ := List.mem_map.1 ht
        exact (cut q hq).print_ne_nil
      simpa using some

/-- If cleaning a part gives the text of what is kept of it, so does cleaning a row of such parts. -/
theorem cleanParts_eq_of_clean?_eq {ps : List Part}
    (h : ∀ p ∈ ps, p.clean? = p.kept?.map Part.print) : cleanParts ps = printParts (keptParts ps) := by
  induction ps with
  | nil => rfl
  | cons p ps ih =>
      rw [cleanParts, keptParts, h p List.mem_cons_self, ih fun q hq => h q (List.mem_cons_of_mem p hq)]
      cases p.kept? <;> rfl

/-- Cleaning gives the text of what is kept.  The two differ in what they test for emptiness, a text and a row
of parts, which agree for parts that were cut out. -/
theorem Part.IsCut.clean?_eq {p : Part} (cut : p.IsCut) : p.clean? = p.kept?.map Part.print := by
  induction cut with
  | @item kind text _ _ =>
      rw [clean?, kept?]
      split <;> rfl
  | @group text inner _ _ cut _ ih =>
      have body := cleanParts_eq_of_clean?_eq ih
      have empty := isEmpty_join_printParts fun _ h => isCut_of_mem_keptParts cut h
      simp only [clean?, kept?, body, empty]
      cases isDangerous (splitBlock text).1 <;> cases (keptParts inner).isEmpty <;> rfl

/-- The cleaned texts are those of the kept tree. -/
theorem cleanParts_eq_printParts {ps : List Part} (cut : ∀ p ∈ ps, p.IsCut) :
    cleanParts ps = printParts (keptParts ps) :=
  cleanParts_eq_of_clean?_eq fun p hp => (cut p hp).clean?_eq

/-! ## texts of a tree -/

/-- A part whose headers and items all have a property. -/
inductive Part.Holds (q : List Char → Prop) : Part → Prop
  | item {kind : ItemKind} {text : List Char} (here : q text) : Holds q (.item kind text)
  | group {header : List Char} {inner : List Part} (here : q header)
      (inside : ∀ p ∈ inner, p.Holds q) : Holds q (.group header inner)

/-- A weaker property of texts holds of a part as well. -/
theorem Part.Holds.mono {q q' : List Char → Prop} (imp : ∀ text, q text → q' text) {p : Part}
    (h : p.Holds q) : p.Holds q' := by
  induction h with
  | item here => exact .item (imp _ here)
  | group here _ ih => exact .group (imp _ here) ih

/-- What holds of all texts of a part holds of all texts of what is kept of it. -/
theorem Part.Holds.of_kept? {q : List Char → Prop} {p kept : Part} (h : p.Holds q)
    (hkept : p.kept? = some kept) : kept.Holds q := by
  induction h generalizing kept with
  | item here =>
      simp only [kept?, Option.ite_none_left_eq_some, Option.some.injEq] at hkept
      rw [← hkept.2]
      exact .item here
  | group here _ ih =>
      simp only [kept?, Option.ite_none_left_eq_some, Option.some.injEq] at hkept
      rw [← hkept.2]
      refine .group here fun q hq => ?_
      obtain ⟨p, hp, hkept⟩ := exists_of_mem_keptParts hq
      exact ih p hp hkept

/-- A property of texts that passes over the seams of a tree: from a header and the text inside to
the whole group, and from a closed part and the text under it to both. -/
structure PassesSeams (q : List Char → Prop) : Prop where
  nil : q []
  group {header body : List Char} (h : q header) (h' : q body) : q (header ++ '\x7b' :: body ++ ['\x7d'])
  line {first later : List Char} {w : Char} (wall : w = '\x7d' ∨ w = ';') (h : q (first ++ [w]))
    (h' : q later) : q (first ++ [w] ++ ['\n'] ++ later)

/-- A closed part ends with a brace or a semicolon. -/
theorem Part.IsCut.exists_wall {p : Part} (cut : p.IsCut) (closed : p.IsClosed) :
    ∃ first w, (w = '\x7d' ∨ w = ';') ∧ p.print = first ++ [w] := by
  cases cut with
  | @item kind text whole _ =>
      cases kind with
      | block =>
          obtain ⟨body, rfl, -, -⟩ := whole.fits
          exact ⟨body, _, .inl rfl, rfl⟩
      | statement =>
          obtain ⟨body, rfl, -, -⟩ := whole.fits
          exact ⟨body, _, .inr rfl, rfl⟩
      | trailing => exact closed.elim
      | unclosed => exact closed.elim
  | group => exact ⟨_, _, .inl rfl, rfl⟩

/-- The text of a row has the property if the text of each part has it, since the seams do not take it away. -/
theorem holds_join_of_print {q : List Char → Prop} (seams : PassesSeams q) {ps : List Part}
    (cut : ∀ p ∈ ps, p.IsCut) (closed : ps.Pairwise fun p _ => p.IsClosed)
    (h : ∀ p ∈ ps, q p.print) : q (join ['\n'] (printParts ps)) := by
  induction ps with
  | nil => exact seams.nil
  | cons p ps ih =>
      rw [List.pairwise_cons] at closed
      rw [List.forall_mem_cons] at cut h
      by_cases last : ps = []
      · subst last
        exact h.1
      · obtain ⟨next, hnext⟩ := List.exists_mem_of_ne_nil ps last
        obtain ⟨first, w, wall, eq⟩ := cut.1.exists_wall (closed.1 next hnext)
        have later := ih cut.2 closed.2 h.2
        have here := h.1
        rw [eq] at here
        rw [printParts, join_cons (by simpa [printParts_eq_map] using last), eq]
        exact seams.line wall here later

/-- The text of a part has the property if each of its pieces has it; for a group this goes over its braces. -/
theorem Part.Holds.print {q : List Char → Prop} (seams : PassesSeams q) {p : Part} (cut : p.IsCut)
    (h : p.Holds q) : q p.print := by
  induction cut with
  | item =>
      cases h with
      | item here => exact here
  | group _ _ cut closed ih =>
      cases h with
      | group here inside =>
          exact seams.group here (holds_join_of_print seams cut closed fun p hp => ih p hp (inside p hp))

/-- The text of a row has the property if each piece of each part has it. -/
theorem holds_join_printParts {q : List Char → Prop} (seams : PassesSeams q) {ps : List Part}
    (cut : ∀ p ∈ ps, p.IsCut) (closed : ps.Pairwise fun p _ => p.IsClosed)
    (h : ∀ p ∈ ps, p.Holds q) : q (join ['\n'] (printParts ps)) :=
  holds_join_of_print seams cut closed fun p hp => (h p hp).print seams (cut p hp)

/-! ## refused constructs -/

/-- Nothing that is kept is dangerous by itself. -/
theorem Part.IsCut.holds_of_kept? {p kept : Part} (cut : p.IsCut) (h : p.kept? = some kept) :
    kept.Holds (isDangerous · = false) := by
  induction cut generalizing kept with
  | item =>
      simp only [kept?, Option.ite_none_left_eq_some, Option.some.injEq] at h
      rw [← h.2]
      exact .item (by simp_all)
  | group _ _ _ _ ih =>
      simp only [kept?, Option.ite_none_left_eq_some, Option.some.injEq] at h
      rw [← h.2]
      refine .group (by simp_all) fun q hq => ?_
      obtain ⟨p, hp, hkept⟩ := exists_of_mem_keptParts hq
      exact ih p hp hkept

/-- A construct that is refused does not reach over a brace or a semicolon, which are walls to all of them, nor
does it begin with a blank. -/
theorem passesSeams_isDangerous : PassesSeams (isDangerous · = false) where
  nil := isDangerous_nil
  group h h' := by
    rw [List.append_assoc, List.cons_append, isDangerous_append (isWall_of_mem (by decide)),
      isDangerous_append (isWall_of_mem (by decide)), h, h', isDangerous_nil]
    rfl
  line := by
    intro first later w wall h h'
    have isWall : isWall w = true := isWall_of_mem (by rcases wall with rfl | rfl <;> decide)
    rw [isDangerous_append isWall] at h
    rw [List.append_assoc, List.append_assoc, List.singleton_append, isDangerous_append isWall,
      List.singleton_append, isDangerous_cons_of_isBlank (by decide), h']
    simpa [isDangerous_nil] using h

/-! ## comments -/

/-- How a comment begins. -/
def commentOpener : List Char := ['/', '*']

/-- A text that occurs around a character that is not in it occurs on one side. -/
theorem isInfix_of_isInfix_append {text xs ys : List Char} {c : Char} (new : c ∉ text)
    (h : text <:+: xs ++ c :: ys) : text <:+: xs ∨ text <:+: ys := by
  obtain ⟨before, behind, eq⟩ := h
  rcases List.append_eq_append_iff.1 eq with ⟨ds, rfl, -⟩ | ⟨ds, front, back⟩
  · exact .inl ⟨before, ds, rfl⟩
  · cases ds with
    | nil =>
        rw [List.append_nil] at front
        exact .inl ⟨before, [], by rw [List.append_nil, front]⟩
    | cons d ds =>
        obtain ⟨rfl, rfl⟩ := List.cons.inj back
        -- the character stands in the text or in front of it
        rcases List.append_eq_append_iff.1 front with ⟨es, -, inside⟩ | ⟨es, -, outer⟩
        · exact absurd (inside ▸ List.mem_append_right es List.mem_cons_self) new
        · cases es with
          | nil =>
              rw [List.nil_append] at outer
              exact absurd (outer ▸ List.mem_cons_self) new
          | cons e es =>
              obtain ⟨-, rfl⟩ := List.cons.inj outer
              exact .inr ⟨es, behind, rfl⟩

/-- The beginning of a comment does not reach over a brace or a line feed. -/
theorem passesSeams_commentOpener : PassesSeams (¬ commentOpener <:+: ·) where
  nil := by decide
  group {header body} h h' := by
    rw [List.append_assoc, List.cons_append]
    intro m
    rcases isInfix_of_isInfix_append (by decide) m with m | m
    · exact h m
    · exact (isInfix_of_isInfix_append (by decide) m).elim h' (by decide)
  line {first later w} _ h h' := by
    rw [List.append_assoc (first ++ [w]), List.singleton_append]
    intro m
    exact (isInfix_of_isInfix_append (by decide) m).elim h h'

/-- What is left in front of a comment begins as the text begins. -/
theorem exists_of_beforeComment_eq_cons {c : Char} {cs rest : List Char}
    (h : beforeComment cs = c :: rest) : ∃ tail, cs = c :: tail := by
  unfold beforeComment at h
  split at h
  · cases h
  · next d ds _ =>
    obtain ⟨rfl, -⟩ := List.cons.inj h
    exact ⟨ds, rfl⟩
  · cases h

/-- In front of the first beginning of a comment there is none. -/
theorem not_isInfix_beforeComment (cs : List Char) : ¬ commentOpener <:+: beforeComment cs := by
  fun_induction beforeComment cs with
  | case1 => decide
  | case2 c cs other ih =>
      intro m
      rcases List.infix_cons_iff.1 m with ⟨rest, begins⟩ | later
      · obtain ⟨rfl, second⟩ := List.cons.inj begins
        obtain ⟨tail, eq⟩ := exists_of_beforeComment_eq_cons second.symm
        exact other tail rfl eq
      · exact ih later
  | case3 => decide

/-- No comment is left, not even an open one. -/
theorem not_isInfix_withoutComments (cs : List Char) : ¬ commentOpener <:+: withoutComments cs :=
  not_isInfix_beforeComment _

/-! ## pieces of a sheet -/

/-- The header of a block and what is between its braces both occur in the block. -/
theorem splitBlock_isInfix (text : List Char) :
    (splitBlock text).1 <:+: text ∧ (splitBlock text).2 <:+: text := by
  unfold splitBlock
  split
  · next header rest found =>
    obtain ⟨rfl, -⟩ := cut?_eq_some_iff.1 found
    refine ⟨(trim_isInfix header).trans ⟨[], '\x7b' :: rest, by simp⟩, ?_⟩
    exact ((trim_isInfix _).trans (List.dropLast_prefix rest).isInfix).trans
      ⟨header ++ ['\x7b'], [], by simp⟩
  · have piece := (trim_isInfix _).trans (List.dropLast_prefix text).isInfix
    exact ⟨piece, piece⟩

/-- The headers and items of a sheet stand in it as they are. -/
theorem holds_isInfix_of_mem_parts {p : Part} {cs : List Char} (h : p ∈ parts cs) :
    p.Holds (· <:+: cs) := by
  induction hn : cs.length using Nat.strong_induction_on generalizing p cs with
  | _ n ih =>
      subst hn
      rw [parts_eq_map] at h
      obtain ⟨item, hitem, rfl⟩ := List.mem_map.1 h
      have piece := isInfix_of_mem_items hitem
      unfold Item.toPart
      split
      · next grouped =>
        have shorter := length_splitBlock_lt (Item.ne_nil_of_isGroup grouped)
        obtain ⟨header, body⟩ := splitBlock_isInfix item.text
        refine .group (header.trans piece) fun p hp => ?_
        have inside := ih _ (Nat.lt_of_lt_of_le shorter piece.length_le) hp rfl
        exact inside.mono fun text htext => (htext.trans body).trans piece
      · exact .item piece

/-! ## the cleaned sheet -/

/-- The parts that cleaning keeps of an author text. -/
def keptSheet (settings : Settings) (raw : String) : List Part :=
  keptParts (parts (withoutComments (takeSigned settings.customCssMaxLength raw.toList)))

/-- The kept parts of a given text can be computed. -/
theorem keptSheet_eq_partsUpTo {settings : Settings} {raw : String} {css : List Char} {n : Nat}
    (bare : withoutComments (takeSigned settings.customCssMaxLength raw.toList) = css) (h : css.length < n) :
    keptSheet settings raw = keptParts (partsUpTo n css) := by
  rw [keptSheet, bare, parts_eq_partsUpTo h]

/-- A cleaned sheet is the text of its kept parts, each on lines of its own. -/
theorem toList_sanitize (settings : Settings) (raw : String) :
    (sanitize settings raw).toList = join ['\n'] (printParts (keptSheet settings raw)) := by
  rw [sanitize, String.toList_ofList, keptSheet, cleanParts_eq_printParts fun _ => isCut_of_mem_parts]

/-- Each kept part of a sheet could have been cut out of one. -/
theorem isCut_of_mem_keptSheet {settings : Settings} {raw : String} {p : Part}
    (h : p ∈ keptSheet settings raw) : p.IsCut :=
  isCut_of_mem_keptParts (fun _ => isCut_of_mem_parts) h

/-- All kept parts of a sheet but the last are closed. -/
theorem pairwise_keptSheet (settings : Settings) (raw : String) :
    (keptSheet settings raw).Pairwise fun p _ => p.IsClosed :=
  pairwise_keptParts (pairwise_parts _)

/-- A property that passes over seams holds of the cleaned text if it holds of every kept piece. -/
theorem holds_sanitize {q : List Char → Prop} (seams : PassesSeams q) (settings : Settings)
    (raw : String) (h : ∀ p ∈ keptSheet settings raw, p.Holds q) : q (sanitize settings raw).toList := by
  rw [toList_sanitize]
  exact holds_join_printParts seams (fun _ => isCut_of_mem_keptSheet) (pairwise_keptSheet _ _) h

/-- A cleaned sheet holds no refused construct, seams included. -/
theorem isDangerous_sanitize (settings : Settings) (raw : String) :
    isDangerous (sanitize settings raw).toList = false := by
  refine holds_sanitize passesSeams_isDangerous settings raw fun kept h => ?_
  obtain ⟨p, hp, hkept⟩ := exists_of_mem_keptParts h
  exact (isCut_of_mem_parts hp).holds_of_kept? hkept

/-- In a cleaned sheet no comment begins, seams included. -/
theorem not_isInfix_sanitize (settings : Settings) (raw : String) :
    ¬ commentOpener <:+: (sanitize settings raw).toList := by
  refine holds_sanitize passesSeams_commentOpener settings raw fun kept h => ?_
  obtain ⟨p, hp, hkept⟩ := exists_of_mem_keptParts h
  refine ((holds_isInfix_of_mem_parts hp).of_kept? hkept).mono fun text piece m => ?_
  exact not_isInfix_withoutComments _ (m.trans piece)

/-! ## harmless items -/

/-- Whether an item is complete, no group, no at-rule without a block, and not dangerous. -/
def Item.isHarmless (item : Item) : Bool :=
  item.kind != .unclosed && !item.isGroup && !(item.kind != .block && item.text.head? == some '@') &&
    !isDangerous item.text

/-- Texts that stand in a text one behind the other. -/
def InOrder : List (List Char) → List Char → Prop
  | [], _ => True
  | text :: texts, cs => ∃ before behind, cs = before ++ text ++ behind ∧ InOrder texts behind

/-- Texts that stand in a text in order do so behind a front. -/
theorem InOrder.append_left {texts : List (List Char)} {cs : List Char} (h : InOrder texts cs)
    (front : List Char) : InOrder texts (front ++ cs) := by
  cases texts with
  | nil => trivial
  | cons text texts =>
      obtain ⟨before, behind, rfl, later⟩ := h
      exact ⟨front ++ before, behind, by simp, later⟩

/-- Some of the texts that are joined stand in the whole in their order. -/
theorem inOrder_join {texts parts : List (List Char)} (h : texts.Sublist parts) (sep : List Char) :
    InOrder texts (join sep parts) := by
  induction h with
  | slnil => trivial
  | @cons texts parts part _ ih =>
      obtain ⟨gap, eq⟩ := exists_gap_join sep part parts
      rw [eq]
      exact (ih.append_left gap).append_left part
  | @cons_cons texts parts part _ ih =>
      obtain ⟨gap, eq⟩ := exists_gap_join sep part parts
      exact ⟨[], gap ++ join sep parts, by rw [eq, List.nil_append], ih.append_left gap⟩

/-- Of a harmless item all is left. -/
theorem clean?_toPart {item : Item} (h : item.isHarmless = true) :
    item.toPart.clean? = some item.text := by
  simp only [Item.isHarmless, Bool.and_eq_true, Bool.not_eq_true', bne_iff_ne] at h
  obtain ⟨⟨⟨complete, single⟩, plain⟩, safe⟩ := h
  rw [Item.toPart, if_neg (by simp [single]), Part.clean?, if_neg]
  simp [complete, plain, safe]

/-- The harmless items are among what is left, in their order. -/
theorem sublist_cleanParts (is : List Item) :
    ((is.filter Item.isHarmless).map Item.text).Sublist (cleanParts (is.map Item.toPart)) := by
  induction is with
  | nil => exact .slnil
  | cons item is ih =>
      rw [List.map_cons, cleanParts]
      cases harmless : item.isHarmless with
      | true =>
          rw [List.filter_cons_of_pos harmless, List.map_cons, clean?_toPart harmless]
          exact ih.cons_cons item.text
      | false =>
          rw [List.filter_cons_of_neg (by simp [harmless])]
          cases item.toPart.clean? with
          | none => exact ih
          | some text => exact ih.cons text

/-- No refused construct and no beginning of a comment is left in a cleaned sheet, across its seams
included, and every harmless item of the sheet stands in it as it was written, in the old order. -/
theorem sanitize_harmless_and_faithful (settings : Settings) (raw : String) :
    (∀ pattern ∈ dangers, ¬ Occurs pattern (sanitize settings raw).toList) ∧
      ¬ commentOpener <:+: (sanitize settings raw).toList ∧
      InOrder
        (((items (withoutComments (takeSigned settings.customCssMaxLength raw.toList))).filter
          Item.isHarmless).map Item.text)
        (sanitize settings raw).toList := by
  refine ⟨fun pattern mem found => ?_, not_isInfix_sanitize settings raw, ?_⟩
  · have dangerous := isDangerous_iff.2 ⟨pattern, mem, found⟩
    rw [isDangerous_sanitize] at dangerous
    cases dangerous
  · rw [sanitize, String.toList_ofList, parts_eq_map]
    exact inOrder_join (sublist_cleanParts _) _

end Pagewright.Css
