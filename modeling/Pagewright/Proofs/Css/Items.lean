import Pagewright.Proofs.Css.Nesting
import Pagewright.Text.Split

/-!
# Pagewright.Proofs.Css.Items

The items of a sheet.  Every item fits its kind: a block is closed by its last character and not before,
a statement ends with the first semicolon outside its braces, and only what stands at the end of the
sheet can be anything else (`fits_of_mem_items`, `pairwise_items`).  So items keep their borders when
they are written one under the other: `items_join` reads them all back.
-/

namespace Pagewright.Css

open Text Nesting

/-! ## the shape of items -/

/-- What the text of an item of some kind looks like. -/
def ItemKind.Fits : ItemKind → List Char → Prop
  | .block, text =>
      ∃ body, text = body ++ ['\x7d'] ∧ Held outside body ∧ after braces outside body = ⟨1, none⟩
  | .statement, text =>
      ∃ body, text = body ++ [';'] ∧ Held outside body ∧ after braces outside body = outside
  | .trailing, text => Held outside text ∧ after braces outside text = outside
  | .unclosed, text => Held outside text ∧ after braces outside text ≠ outside

/-- Whether an item is complete where it ends. -/
def ItemKind.IsClosed : ItemKind → Prop
  | .block | .statement => True
  | .trailing | .unclosed => False

/-- An item as the cutting of a sheet gives it: it fits its kind, and there are no blanks around it. -/
structure Item.IsWhole (item : Item) : Prop where
  fits : item.kind.Fits item.text
  trimmed : trim item.text = item.text
  ne_nil : item.text ≠ []
  ne_semicolon : item.kind = .statement → item.text ≠ [';']

/-- Blanks in front of a text do not matter to whether it is held. -/
theorem held_of_blanks {s : Nesting} (hs : IsQuote s.quote) {before cs : List Char}
    (blank : ∀ c ∈ before, isBlank c = true) : Held s (before ++ cs) ↔ Held s cs := by
  have still : after braces s before = s :=
    after_of_isPlain hs fun c hc => isPlain_braces_of_isBlank (blank c hc)
  rw [held_append, still]
  exact ⟨fun h => h.2, fun h => ⟨held_of_isBlank hs blank, h⟩⟩

/-- The blanks in front of an item are no part of its structure. -/
theorem held_trimStart {s : Nesting} (hs : IsQuote s.quote) {cs : List Char} (h : Held s cs) :
    Held s (trimStart cs) ∧ after braces s (trimStart cs) = after braces s cs := by
  obtain ⟨before, eq, blank⟩ := exists_blanks_trimStart cs
  have held : Held s (before ++ trimStart cs) := eq ▸ h
  refine ⟨(held_of_blanks hs blank).1 held, ?_⟩
  calc after braces s (trimStart cs)
      = after braces s (before ++ trimStart cs) := by
        rw [after_append, after_of_isPlain hs fun c hc => isPlain_braces_of_isBlank (blank c hc)]
    _ = after braces s cs := by rw [← eq]

/-- A trimmed text is held as the text was, and leads to the same place. -/
theorem held_trim {s : Nesting} (hs : IsQuote s.quote) {cs : List Char} (h : Held s cs) :
    Held s (trim cs) ∧ after braces s (trim cs) = after braces s cs := by
  obtain ⟨before, behind, eq, blank, -⟩ := exists_blanks_trim cs
  have held : Held s (before ++ (trim cs ++ behind)) := eq ▸ h
  have front : Held s (trim cs ++ behind) := (held_of_blanks hs blank).1 held
  exact ⟨(held_append.1 front).1, after_trim (fun _ => isPlain_braces_of_isBlank) hs cs⟩

/-- So trimming leaves the text of an item one of its kind. -/
theorem ItemKind.fits_trim {kind : ItemKind} {text : List Char} (h : kind.Fits text) :
    kind.Fits (trim text) := by
  cases kind with
  | block =>
      obtain ⟨body, rfl, held, one⟩ := h
      obtain ⟨held', same⟩ := held_trimStart (.inl rfl) held
      exact ⟨trimStart body, trim_concat rfl body, held', same.trans one⟩
  | statement =>
      obtain ⟨body, rfl, held, zero⟩ := h
      obtain ⟨held', same⟩ := held_trimStart (.inl rfl) held
      exact ⟨trimStart body, trim_concat rfl body, held', same.trans zero⟩
  | trailing =>
      obtain ⟨held', same⟩ := held_trim (.inl rfl) h.1
      exact ⟨held', same.trans h.2⟩
  | unclosed =>
      obtain ⟨held', same⟩ := held_trim (.inl rfl) h.1
      exact ⟨held', fun e => h.2 (same ▸ e)⟩

/-! ## what the cutting gives -/

/-- At the end of a sheet the cutting tells an open item by its depth and its quote. -/
theorem ne_outside_iff {s : Nesting} :
    (decide (0 < s.depth) || s.quote.isSome) = true ↔ s ≠ outside := by
  obtain ⟨depth, quote⟩ := s
  cases quote <;> simp [outside, Nat.pos_iff_ne_zero]

/-- An item that is kept fits its kind if the text that was cut off does. -/
theorem isWhole_of_mem_keep {item : Item} {kind : ItemKind} {skipped : List (List Char)}
    {text : List Char} (h : item ∈ Item.keep kind skipped (trim text)) (fits : kind.Fits text)
    (noNil : [] ∈ skipped) (noSemicolon : kind = .statement → [';'] ∈ skipped) : item.IsWhole := by
  unfold Item.keep at h
  split at h
  · simp at h
  · next new =>
    rw [List.mem_singleton] at h
    subst h
    have other : ∀ t ∈ skipped, trim text ≠ t := by
      rintro t ht rfl
      exact new (by simpa using ht)
    exact ⟨kind.fits_trim fits, trim_trim text, other _ noNil, fun e => other _ (noSemicolon e)⟩

/-- Cutting goes on at the next character. -/
theorem itemsFrom_cons_cases (s : Nesting) (current cs : List Char) (c : Char) :
    (¬ EndsItem s c ∧ itemsFrom s.depth s.quote current (c :: cs) =
        itemsFrom (s.next braces c).depth (s.next braces c).quote (c :: current) cs) ∨
      (s = outside ∧ c = '\x7d' ∧ itemsFrom s.depth s.quote current (c :: cs) = items cs) ∨
      (s = ⟨1, none⟩ ∧ c = '\x7d' ∧ itemsFrom s.depth s.quote current (c :: cs) =
        Item.keep .block [[]] (trim (c :: current).reverse) ++ items cs) ∨
      (s = outside ∧ c = ';' ∧ itemsFrom s.depth s.quote current (c :: cs) =
        Item.keep .statement [[], [';']] (trim (c :: current).reverse) ++ items cs) := by
  by_cases h : EndsItem s c
  · obtain ⟨depth, quote⟩ := s
    obtain ⟨rfl, ⟨rfl, le⟩ | ⟨rfl, rfl⟩⟩ := h
    · cases depth with
      | zero => exact .inr (.inl ⟨rfl, rfl, rfl⟩)
      | succ depth =>
          obtain rfl : depth = 0 := by simp only at le; omega
          exact .inr (.inr (.inl ⟨rfl, rfl, rfl⟩))
    · exact .inr (.inr (.inr ⟨rfl, rfl, rfl⟩))
  · exact .inl ⟨h, itemsFrom_cons_of_not_endsItem h current cs⟩

/-- By induction on the rest of the sheet; the invariant is that no item has ended in the text at hand. -/
theorem isWhole_of_mem_itemsFrom {item : Item} (current : List Char) {cs : List Char}
    (held : Held outside current.reverse)
    (h : item ∈ itemsFrom (after braces outside current.reverse).depth
      (after braces outside current.reverse).quote current cs) : item.IsWhole := by
  induction cs generalizing current with
  | nil =>
      unfold itemsFrom at h
      refine isWhole_of_mem_keep h ?_ (by simp) ?_
      · split
        · next inside => exact ⟨held, ne_outside_iff.1 inside⟩
        · next outer => exact ⟨held, not_not.1 fun ne => outer (ne_outside_iff.2 ne)⟩
      · split <;> rintro ⟨⟩
  | cons c cs ih =>
      have start (h : item ∈ items cs) : item.IsWhole := ih [] trivial h
      -- the item goes on, is dropped with a brace that closes nothing, or ends as a block or a statement
      rcases itemsFrom_cons_cases (after braces outside current.reverse) current cs c with
        ⟨stays, eq⟩ | ⟨-, -, eq⟩ | ⟨one, rfl, eq⟩ | ⟨zero, rfl, eq⟩
      · have held' : Held outside (c :: current).reverse := by
          rw [List.reverse_cons, held_append]
          exact ⟨held, stays, trivial⟩
        refine ih _ held' ?_
        rw [List.reverse_cons, after_append, after_cons, after_nil, ← eq]
        exact h
      · exact start (eq ▸ h)
      · rw [eq] at h
        rcases List.mem_append.1 h with first | later
        · refine isWhole_of_mem_keep first ?_ (by simp) (by simp)
          exact ⟨current.reverse, List.reverse_cons, held, one⟩
        · exact start later
      · rw [eq] at h
        rcases List.mem_append.1 h with first | later
        · refine isWhole_of_mem_keep first ?_ (by simp) (by simp)
          exact ⟨current.reverse, List.reverse_cons, held, zero⟩
        · exact start later

/-- Every item of a sheet fits its kind, without blanks around it. -/
theorem isWhole_of_mem_items {item : Item} {cs : List Char} (h : item ∈ items cs) : item.IsWhole :=
  isWhole_of_mem_itemsFrom [] trivial h

/-- What is cut off stands in the text at hand and the rest behind it, in one piece. -/
theorem isInfix_of_mem_itemsFrom {item : Item} (s : Nesting) (current : List Char) {cs : List Char}
    (h : item ∈ itemsFrom s.depth s.quote current cs) : item.text <:+: current.reverse ++ cs := by
  induction cs generalizing s current with
  | nil =>
      unfold itemsFrom at h
      rw [text_eq_of_mem_keep h, List.append_nil]
      exact trim_isInfix _
  | cons c cs ih =>
      have later (h : item ∈ items cs) : item.text <:+: current.reverse ++ c :: cs := by
        have rest : item.text <:+: cs := ih outside [] h
        exact rest.trans ⟨current.reverse ++ [c], [], by simp⟩
      have here {kind : ItemKind} {skipped : List (List Char)}
          (h : item ∈ Item.keep kind skipped (trim (c :: current).reverse)) :
          item.text <:+: current.reverse ++ c :: cs := by
        rw [text_eq_of_mem_keep h]
        exact (trim_isInfix _).trans ⟨[], cs, by simp⟩
      rcases itemsFrom_cons_cases s current cs c with
        ⟨-, eq⟩ | ⟨-, -, eq⟩ | ⟨-, -, eq⟩ | ⟨-, -, eq⟩ <;> rw [eq] at h
      · have rest := ih _ _ h
        rwa [List.reverse_cons, List.append_assoc, List.singleton_append] at rest
      · exact later h
      · exact (List.mem_append.1 h).elim here later
      · exact (List.mem_append.1 h).elim here later

/-- An item stands in its sheet as it is. -/
theorem isInfix_of_mem_items {item : Item} {cs : List Char} (h : item ∈ items cs) :
    item.text <:+: cs :=
  isInfix_of_mem_itemsFrom outside [] h

theorem kind_of_mem_keep {item : Item} {kind : ItemKind} {skipped : List (List Char)}
    {text : List Char} (h : item ∈ Item.keep kind skipped text) : item.kind = kind := by
  unfold Item.keep at h
  split at h <;> simp_all

/-- At most one item is kept at a time. -/
theorem pairwise_keep {r : Item → Item → Prop} (kind : ItemKind) (skipped : List (List Char))
    (text : List Char) : (Item.keep kind skipped text).Pairwise r := by
  unfold Item.keep
  split <;> simp

/-- An item in front of others was ended by a brace or a semicolon. -/
theorem pairwise_itemsFrom (s : Nesting) (current cs : List Char) :
    (itemsFrom s.depth s.quote current cs).Pairwise fun item _ => item.kind.IsClosed := by
  induction cs generalizing s current with
  | nil =>
      unfold itemsFrom
      exact pairwise_keep _ _ _
  | cons c cs ih =>
      have closing {kind : ItemKind} (skipped : List (List Char)) (text : List Char)
          (closed : kind.IsClosed) : (Item.keep kind skipped text ++ items cs).Pairwise
            fun item _ => item.kind.IsClosed := by
        refine List.pairwise_append.2 ⟨pairwise_keep _ _ _, ih outside [], ?_⟩
        intro item hitem _ _
        rw [kind_of_mem_keep hitem]
        exact closed
      rcases itemsFrom_cons_cases s current cs c with
        ⟨-, eq⟩ | ⟨-, -, eq⟩ | ⟨-, -, eq⟩ | ⟨-, -, eq⟩ <;> rw [eq]
      · exact ih _ _
      · exact ih outside []
      · exact closing _ _ trivial
      · exact closing _ _ trivial

/-- Only the last item of a sheet can be one that is not closed. -/
theorem pairwise_items (cs : List Char) :
    (items cs).Pairwise fun item _ => item.kind.IsClosed :=
  pairwise_itemsFrom outside [] cs

/-! ## reading items again -/

/-- A blank in front of the text at hand is trimmed in the end. -/
theorem itemsFrom_concat_of_blank {b : Char} (h : isBlank b = true) (depth : Nat)
    (quote : Option Char) (current cs : List Char) :
    itemsFrom depth quote (current ++ [b]) cs = itemsFrom depth quote current cs := by
  have cut (xs : List Char) : trim ((xs ++ [b]).reverse) = trim xs.reverse := by
    rw [List.reverse_append]
    exact trim_cons_of_blank h _
  induction cs generalizing depth quote current with
  | nil =>
      unfold itemsFrom
      rw [cut]
  | cons c cs ih =>
      unfold itemsFrom
      simp only [← List.cons_append, cut, ih]

/-- Blanks in front of a sheet do not count. -/
theorem items_cons_of_blank {b : Char} (h : isBlank b = true) (cs : List Char) :
    items (b :: cs) = items cs := by
  have step := itemsFrom_cons_of_not_endsItem (s := outside) (not_endsItem_of_isBlank h) [] cs
  rw [next_of_isPlain (.inl rfl) (isPlain_braces_of_isBlank h)] at step
  exact step.trans (itemsFrom_concat_of_blank h 0 none [] cs)

theorem keep_of_ne {kind : ItemKind} {text : List Char} {skipped : List (List Char)}
    (h : ∀ t ∈ skipped, text ≠ t) : Item.keep kind skipped text = [⟨kind, text⟩] := by
  unfold Item.keep
  rw [if_neg]
  intro m
  exact h text (by simpa using m) rfl

/-- A text in which no item ends is read as the beginning of the first one. -/
theorem items_append_of_held {cs : List Char} (h : Held outside cs) (ds : List Char) :
    items (cs ++ ds) =
      itemsFrom (after braces outside cs).depth (after braces outside cs).quote cs.reverse ds := by
  have := itemsFrom_append_of_held h [] ds
  rwa [List.append_nil] at this

/-- A closed item is read off the front of a sheet. -/
theorem items_append_of_isClosed {item : Item} (whole : item.IsWhole) (closed : item.kind.IsClosed)
    (cs : List Char) : items (item.text ++ cs) = item :: items cs := by
  obtain ⟨kind, text⟩ := item
  obtain ⟨fits, trimmed, noNil, noSemicolon⟩ := whole
  simp only at fits trimmed noNil noSemicolon ⊢
  cases kind with
  | block =>
      obtain ⟨body, rfl, held, one⟩ := fits
      rw [List.append_assoc, items_append_of_held held, one]
      have last : itemsFrom 1 none body.reverse ('\x7d' :: cs) =
          Item.keep .block [[]] (trim ('\x7d' :: body.reverse).reverse) ++ items cs := rfl
      rw [List.singleton_append, last, List.reverse_cons, List.reverse_reverse, trimmed, keep_of_ne]
      · rfl
      · simp
  | statement =>
      obtain ⟨body, rfl, held, zero⟩ := fits
      rw [List.append_assoc, items_append_of_held held, zero]
      have last : itemsFrom 0 none body.reverse (';' :: cs) =
          Item.keep .statement [[], [';']] (trim (';' :: body.reverse).reverse) ++ items cs := rfl
      rw [List.singleton_append, outside, last, List.reverse_cons, List.reverse_reverse, trimmed,
        keep_of_ne]
      · rfl
      · simpa using noSemicolon rfl
  | trailing => exact closed.elim
  | unclosed => exact closed.elim

/-- An item is the only one of its own text. -/
theorem items_text {item : Item} (whole : item.IsWhole) : items item.text = [item] := by
  by_cases closed : item.kind.IsClosed
  · have := items_append_of_isClosed whole closed []
    rwa [List.append_nil] at this
  · obtain ⟨kind, text⟩ := item
    obtain ⟨fits, trimmed, noNil, -⟩ := whole
    simp only at fits trimmed noNil closed ⊢
    have held : Held outside text := by
      cases kind with
      | block => exact (closed trivial).elim
      | statement => exact (closed trivial).elim
      | trailing => exact fits.1
      | unclosed => exact fits.1
    have read := items_append_of_held held []
    rw [List.append_nil] at read
    rw [read]
    unfold itemsFrom
    rw [List.reverse_reverse, trimmed, keep_of_ne (by simpa using noNil)]
    cases kind with
    | block => exact (closed trivial).elim
    | statement => exact (closed trivial).elim
    | trailing => rw [if_neg fun inside => ne_outside_iff.1 inside fits.2]
    | unclosed => rw [if_pos (ne_outside_iff.2 fits.2)]

/-- Items that stand one under the other are read back, if all but the last are closed. -/
theorem items_join {is : List Item} (whole : ∀ item ∈ is, item.IsWhole)
    (closed : is.Pairwise fun item _ => item.kind.IsClosed) :
    items (join ['\n'] (is.map (·.text))) = is := by
  induction is with
  | nil => rfl
  | cons item is ih =>
      have whole' := whole item (by simp)
      by_cases last : is = []
      · subst last
        exact items_text whole'
      · obtain ⟨next, hnext⟩ := List.exists_mem_of_ne_nil is last
        have closed' := (List.pairwise_cons.1 closed).1 next hnext
        rw [List.map_cons, join_cons (by simpa using last), List.append_assoc,
          items_append_of_isClosed whole' closed', List.singleton_append,
          items_cons_of_blank (by decide), ih (fun i hi => whole i (by simp [hi]))
            (List.pairwise_cons.1 closed).2]

end Pagewright.Css
