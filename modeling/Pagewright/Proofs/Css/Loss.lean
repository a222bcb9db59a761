import Pagewright.Proofs.Css.Confinement

/-!
# Pagewright.Proofs.Css.Loss

What cleaning takes away from a sheet.  The weight of a text is the number of its characters that are no
blanks.  Cleaning adds no weight (`keptWeight_parts_le`), and a sheet that keeps all of its weight has no
quote open at its end, nor at the end of any of its headers (`closesQuotes_of_keptWeight_eq`): a brace in
quotes that is taken for the beginning of a block leaves a quote open inside, and what is open at the end
is dropped.
-/

namespace Pagewright.Css

open Text Nesting

/-! ## quotes are a permutation -/

/-- One character never leads from different quotes to the same. -/
theorem nextQuote_injective {quote quote' : Option Char} (h : IsQuote quote) (h' : IsQuote quote')
    {c : Char} (eq : nextQuote quote c = nextQuote quote' c) : quote = quote' := by
  by_cases single : c = '\''
  · subst single
    rcases h with rfl | rfl | rfl <;> rcases h' with rfl | rfl | rfl <;> first | rfl | cases eq
  · by_cases double : c = '"'
    · subst double
      rcases h with rfl | rfl | rfl <;> rcases h' with rfl | rfl | rfl <;> first | rfl | cases eq
    · rwa [nextQuote_of_ne h single double, nextQuote_of_ne h' single double] at eq

/-- From different quotes a text never leads to the same. -/
theorem quoteAfter_injective {quote quote' : Option Char} (h : IsQuote quote) (h' : IsQuote quote')
    {cs : List Char} (eq : quoteAfter quote cs = quoteAfter quote' cs) : quote = quote' := by
  induction cs generalizing quote quote' with
  | nil => exact eq
  | cons c cs ih =>
      exact nextQuote_injective h h' (ih (isQuote_nextQuote h c) (isQuote_nextQuote h' c) eq)

/-- The open quote behind two texts is found by reading one after the other. -/
theorem quoteAfter_append (quote : Option Char) (cs ds : List Char) :
    quoteAfter quote (cs ++ ds) = quoteAfter (quoteAfter quote cs) ds := List.foldl_append

/-- Reading opens no quote but the two kinds there are. -/
theorem isQuote_quoteAfter {quote : Option Char} (h : IsQuote quote) (cs : List Char) :
    IsQuote (quoteAfter quote cs) := by
  rw [← quote_after braces ⟨0, quote⟩ cs]
  exact isQuote_after h cs

/-- Blanks neither open nor close a quote. -/
theorem quoteAfter_trim {quote : Option Char} (h : IsQuote quote) (cs : List Char) :
    quoteAfter quote (trim cs) = quoteAfter quote cs := by
  have same := after_trim (s := ⟨0, quote⟩) (fun _ => isPlain_braces_of_isBlank) h cs
  have quotes := congrArg Nesting.quote same
  rwa [quote_after, quote_after] at quotes

/-! ## weight -/

/-- The number of characters of a text that are no blanks. -/
def weight (cs : List Char) : Nat := cs.countP (!isBlank ·)

@[simp] theorem weight_nil : weight [] = 0 := rfl

@[simp] theorem weight_append (cs ds : List Char) : weight (cs ++ ds) = weight cs + weight ds :=
  List.countP_append

/-- A character that is no blank weighs one. -/
theorem weight_cons_of_not_isBlank {c : Char} (h : isBlank c = false) (cs : List Char) :
    weight (c :: cs) = weight cs + 1 := by
  simp [weight, h]

/-- Only blanks weigh nothing. -/
theorem weight_eq_zero_iff {cs : List Char} : weight cs = 0 ↔ ∀ c ∈ cs, isBlank c = true := by
  simp [weight, List.countP_eq_zero]

/-- What is taken off at the ends weighs nothing. -/
@[simp] theorem weight_trim (cs : List Char) : weight (trim cs) = weight cs := by
  obtain ⟨before, behind, eq, blank, blank'⟩ := exists_blanks_trim cs
  have total := congrArg weight eq
  rw [weight_append, weight_append, weight_eq_zero_iff.2 blank, weight_eq_zero_iff.2 blank'] at total
  omega

/-- Separators of blanks add nothing to the weight of what they join. -/
theorem weight_join {sep : List Char} (blank : ∀ c ∈ sep, isBlank c = true) (texts : List (List Char)) :
    weight (join sep texts) = weight texts.flatten := by
  induction texts with
  | nil => rfl
  | cons text texts ih =>
      by_cases last : texts = []
      · subst last
        simp [join]
      · rw [join_cons last, weight_append, weight_append, weight_eq_zero_iff.2 blank, ih, List.flatten_cons,
          weight_append, Nat.add_zero]

/-! ## cutting step by step -/

/-- How a text is cut into items: at the first end of one, and then what is behind it. -/
inductive Cutting : List Char → List Item → Prop
  | last {cs : List Char} (held : Held outside cs) :
      Cutting cs (Item.keep (if after braces outside cs = outside then .trailing else .unclosed) [[]]
        (trim cs))
  | lost {body rest : List Char} {is : List Item} (held : Held outside body)
      (outer : after braces outside body = outside) (later : Cutting rest is) :
      Cutting (body ++ '\x7d' :: rest) is
  | item {kind : ItemKind} {text rest : List Char} {is : List Item} (skipped : List (List Char))
      (fits : kind.Fits text) (closed : kind.IsClosed) (later : Cutting rest is) :
      Cutting (text ++ rest) (Item.keep kind skipped (trim text) ++ is)

/-- A text either holds no end of an item at all, or it can be split at the first one. -/
theorem held_or_exists_end (s : Nesting) (cs : List Char) :
    Held s cs ∨ ∃ body c rest, cs = body ++ c :: rest ∧ Held s body ∧ EndsItem (after braces s body) c := by
  induction cs generalizing s with
  | nil => exact .inl trivial
  | cons c cs ih =>
      by_cases ends : EndsItem s c
      · exact .inr ⟨[], c, cs, rfl, trivial, ends⟩
      · rcases ih (s.next braces c) with held | ⟨body, d, rest, rfl, held, ends'⟩
        · exact .inl ⟨ends, held⟩
        · exact .inr ⟨c :: body, d, rest, rfl, ⟨ends, held⟩, ends'⟩

/-- The items of a text are a cutting of it: the recursion of `items` follows the ends of items. -/
theorem cutting_items (cs : List Char) : Cutting cs (items cs) := by
  induction n : cs.length using Nat.strong_induction_on generalizing cs with
  | _ n ih =>
      subst n
      rcases held_or_exists_end outside cs with held | ⟨body, c, rest, rfl, held, ends⟩
      · have read := items_append_of_held held []
        rw [List.append_nil] at read
        rw [read]
        unfold itemsFrom
        simp only [List.reverse_reverse, ne_outside_iff, ite_not]
        exact .last held
      · have later := ih rest.length (by simp; omega) rest rfl
        rw [items_append_of_held held]
        generalize reached : after braces outside body = s at ends
        obtain ⟨depth, quote⟩ := s
        obtain ⟨rfl, ⟨rfl, le⟩ | ⟨rfl, rfl⟩⟩ := ends
        · rcases Nat.le_one_iff_eq_zero_or_eq_one.1 le with rfl | rfl
          · exact .lost held reached later
          · have fits : ItemKind.block.Fits (body ++ ['\x7d']) := ⟨body, rfl, held, reached⟩
            have here := Cutting.item [[]] fits trivial later
            rwa [List.append_assoc, ← List.reverse_reverse (body ++ ['\x7d']), List.reverse_append] at here
        · have fits : ItemKind.statement.Fits (body ++ [';']) := ⟨body, rfl, held, reached⟩
          have here := Cutting.item [[], [';']] fits trivial later
          rwa [List.append_assoc, ← List.reverse_reverse (body ++ [';']), List.reverse_append] at here

/-! ## what is kept -/

/-- The weight of what is kept of some parts. -/
def keptWeight (ps : List Part) : Nat := weight (join ['\n'] (printParts (keptParts ps)))

/-- What is kept weighs what its parts weigh in print. -/
theorem keptWeight_eq (ps : List Part) : keptWeight ps = weight (printParts (keptParts ps)).flatten := by
  rw [keptWeight, weight_join (List.all_eq_true.1 (by decide))]

/-- Parts are kept or not one by one. -/
theorem keptParts_append (ps qs : List Part) : keptParts (ps ++ qs) = keptParts ps ++ keptParts qs := by
  simp only [keptParts_eq_filterMap, List.filterMap_append]

@[simp] theorem keptWeight_nil : keptWeight [] = 0 := rfl

/-- Parts of which nothing is kept have no weight left. -/
theorem keptWeight_of_eq_nil {ps : List Part} (h : keptParts ps = []) : keptWeight ps = 0 := by
  rw [keptWeight, h]
  rfl

/-- A row of which one part is kept has the weight of that part. -/
theorem keptWeight_of_eq_singleton {ps : List Part} {kept : Part} (h : keptParts ps = [kept]) :
    keptWeight ps = weight kept.print := by
  rw [keptWeight, h]
  rfl

/-- Kept weight adds up over parts. -/
@[simp] theorem keptWeight_append (ps qs : List Part) :
    keptWeight (ps ++ qs) = keptWeight ps + keptWeight qs := by
  simp [keptWeight_eq, keptParts_append, printParts_append]

/-- Of one part at most one is kept. -/
theorem keptParts_singleton (p : Part) : keptParts [p] = p.kept?.toList := by
  rw [keptParts_eq_filterMap]
  cases kept : p.kept? <;> simp [kept]

/-- An item is kept as it stands, or not at all, and one that is never closed is not. -/
theorem keptParts_item (kind : ItemKind) (text : List Char) :
    keptParts [.item kind text] = [] ∨
      kind ≠ .unclosed ∧ keptParts [.item kind text] = [.item kind text] := by
  rw [keptParts_singleton, Part.kept?]
  split
  · exact .inl rfl
  · next kept => exact .inr ⟨fun unclosed => kept (by simp [unclosed]), rfl⟩

/-- A group is kept with what is kept inside it, or not at all. -/
theorem keptParts_group (header : List Char) (inner : List Part) :
    keptParts [.group header inner] = [] ∨
      keptParts [.group header inner] = [.group header (keptParts inner)] := by
  rw [keptParts_singleton, Part.kept?]
  split
  · exact .inl rfl
  · exact .inr rfl

/-- In print a group has two braces beside its header and what is inside. -/
theorem weight_print_group (header : List Char) (inner : List Part) :
    weight (Part.group header (keptParts inner)).print = weight header + keptWeight inner + 2 := by
  have opening : weight ['\x7b'] = 1 := by decide
  have closing : weight ['\x7d'] = 1 := by decide
  rw [Part.print, ← List.singleton_append, weight_append, weight_append, weight_append, opening, closing,
    keptWeight]
  omega

/-- A block has two braces beside what is in front of and between them. -/
theorem weight_block (header body : List Char) :
    weight (header ++ '\x7b' :: (body ++ ['\x7d'])) = weight header + weight body + 2 := by
  have opening : weight ['\x7b'] = 1 := by decide
  have closing : weight ['\x7d'] = 1 := by decide
  rw [← List.singleton_append, weight_append, weight_append, weight_append, opening, closing]
  omega

/-- A group among the items is a block, and its parts are those between its braces. -/
theorem toPart_of_isGroup {text : List Char} {kind : ItemKind} (h : Item.isGroup ⟨kind, text⟩ = true) :
    kind = .block ∧ groupingNames.contains (atRuleName text) = true ∧
      Item.toPart ⟨kind, text⟩ = .group (splitBlock text).1 (parts (splitBlock text).2) := by
  have both := h
  simp only [Item.isGroup, Bool.and_eq_true, beq_iff_eq] at both
  exact ⟨both.1, both.2, by rw [Item.toPart, if_pos h]⟩

/-- An item keeps no more than it has. -/
theorem keptWeight_toPart_le {item : Item} (whole : item.IsWhole)
    (shorter : ∀ cs, cs.length < item.text.length → keptWeight (parts cs) ≤ weight cs) :
    keptWeight [item.toPart] ≤ weight item.text := by
  obtain ⟨kind, text⟩ := item
  cases grouped : Item.isGroup ⟨kind, text⟩ with
  | false =>
      rw [Item.toPart, if_neg (by simp [grouped])]
      rcases keptParts_item kind text with none | ⟨-, some⟩
      · rw [keptWeight_of_eq_nil none]
        exact Nat.zero_le _
      · rw [keptWeight_of_eq_singleton some, Part.print]
  | true =>
      have inside := shorter _ (length_splitBlock_lt (Item.ne_nil_of_isGroup grouped))
      obtain ⟨rfl, name, eq⟩ := toPart_of_isGroup grouped
      obtain ⟨header, body, rfl, -, split, -, -⟩ := header_splitBlock whole name
      rw [eq, split]
      rw [split] at inside
      simp only [weight_trim] at inside
      rcases keptParts_group (trim header) (parts (trim body)) with none | some
      · rw [keptWeight_of_eq_nil none]
        exact Nat.zero_le _
      · rw [keptWeight_of_eq_singleton some, weight_print_group, weight_block, weight_trim]
        omega

/-- Skipping an item that is empty loses nothing, so the bound on the item carries over. -/
theorem keptWeight_keep_le {kind : ItemKind} {skipped : List (List Char)} {text : List Char}
    (h : ∀ item ∈ Item.keep kind skipped (trim text), keptWeight [item.toPart] ≤ weight item.text) :
    keptWeight ((Item.keep kind skipped (trim text)).map Item.toPart) ≤ weight text := by
  unfold Item.keep at h ⊢
  split
  · simp
  · next kept =>
    rw [if_neg kept] at h
    simpa using h _ List.mem_cons_self

/-- If no item gains weight, a whole cutting gains none: what is between the items is dropped. -/
theorem Cutting.keptWeight_le {cs : List Char} {is : List Item} (cutting : Cutting cs is)
    (h : ∀ item ∈ is, keptWeight [item.toPart] ≤ weight item.text) :
    keptWeight (is.map Item.toPart) ≤ weight cs := by
  induction cutting with
  | last => exact keptWeight_keep_le h
  | lost _ _ _ ih =>
      have later := ih h
      rw [weight_append, weight_cons_of_not_isBlank (by decide)]
      omega
  | item _ _ _ _ ih =>
      rw [List.forall_mem_append] at h
      have here := keptWeight_keep_le h.1
      have later := ih h.2
      rw [List.map_append, keptWeight_append, weight_append]
      omega

/-- Cleaning adds no weight to a sheet. -/
theorem keptWeight_parts_le (cs : List Char) : keptWeight (parts cs) ≤ weight cs := by
  induction n : cs.length using Nat.strong_induction_on generalizing cs with
  | _ n ih =>
      subst n
      rw [parts_eq_map]
      refine (cutting_items cs).keptWeight_le fun item mem => ?_
      refine keptWeight_toPart_le (isWhole_of_mem_items mem) fun ds short => ?_
      exact ih ds.length (Nat.lt_of_lt_of_le short (length_le_of_mem_items mem)) ds rfl

/-! ## sheets that lose nothing -/

/-- What is closed is not left open. -/
theorem complete_of_isClosed {kind : ItemKind} (closed : kind.IsClosed) : kind ≠ .unclosed := by
  rintro rfl
  exact closed

/-- A complete item leaves no quote open. -/
theorem quoteAfter_of_fits {kind : ItemKind} {text : List Char} (fits : kind.Fits text)
    (complete : kind ≠ .unclosed) : quoteAfter none text = none := by
  apply quoteAfter_eq_of_after (b := braces) (s := outside)
  cases kind with
  | block =>
      obtain ⟨body, rfl, -, one⟩ := fits
      rw [after_append, one]
      rfl
  | statement =>
      obtain ⟨body, rfl, -, zero⟩ := fits
      rw [after_append, zero]
      rfl
  | trailing => exact fits.2
  | unclosed => exact absurd rfl complete

/-- If a block and what stands between its braces leave no quote open, its header does not either. -/
theorem quoteAfter_header {header body : List Char}
    (whole : quoteAfter none (header ++ '\x7b' :: (body ++ ['\x7d'])) = none)
    (inside : quoteAfter none body = none) : quoteAfter none header = none := by
  have start : IsQuote (quoteAfter none header) := isQuote_quoteAfter (.inl rfl) header
  have opened : quoteAfter none (header ++ ['\x7b']) = quoteAfter none header := by
    rw [quoteAfter_append]
    exact nextQuote_of_ne start (c := '\x7b') (by decide) (by decide)
  rw [List.append_cons, ← List.append_assoc, quoteAfter_append, quoteAfter_append, opened] at whole
  have ends : quoteAfter (quoteAfter none header) body = none :=
    (nextQuote_of_ne (isQuote_quoteAfter start body) (c := '\x7d') (by decide) (by decide)).symm.trans whole
  exact quoteAfter_injective start (.inl rfl) (ends.trans inside.symm)

/-- A group that loses nothing has a header that leaves no quote open. -/
theorem closesQuotes_of_mem_toPart {item : Item} (whole : item.IsWhole)
    (shorter : ∀ cs, cs.length < item.text.length → keptWeight (parts cs) = weight cs →
      quoteAfter none cs = none ∧ ∀ kept ∈ keptParts (parts cs), kept.ClosesQuotes)
    (eq : keptWeight [item.toPart] = weight item.text) :
    ∀ kept ∈ keptParts [item.toPart], kept.ClosesQuotes := by
  intro kept mem
  obtain ⟨kind, text⟩ := item
  cases grouped : Item.isGroup ⟨kind, text⟩ with
  | false =>
      rw [Item.toPart, if_neg (by simp [grouped])] at mem
      rcases keptParts_item kind text with none | ⟨-, some⟩
      · simp [none] at mem
      · rw [some, List.mem_singleton] at mem
        subst mem
        exact .item
  | true =>
      have inside := shorter _ (length_splitBlock_lt (Item.ne_nil_of_isGroup grouped))
      obtain ⟨rfl, name, group⟩ := toPart_of_isGroup grouped
      have closed := quoteAfter_of_fits whole.fits ItemKind.noConfusion
      obtain ⟨header, body, rfl, -, split, -, -⟩ := header_splitBlock whole name
      rw [split] at inside
      simp only [weight_trim] at inside
      rw [group, split] at mem
      rw [group, split] at eq
      rcases keptParts_group (trim header) (parts (trim body)) with none | some
      · simp [none] at mem
      · rw [keptWeight_of_eq_singleton some, weight_print_group, weight_block, weight_trim] at eq
        -- header and braces weigh the same on both sides, so nothing is lost inside
        obtain ⟨quote, closes⟩ := inside (by omega)
        rw [some, List.mem_singleton] at mem
        subst mem
        refine .group ?_ closes
        rw [quoteAfter_trim (.inl rfl)]
        exact quoteAfter_header closed (by rw [← quoteAfter_trim (.inl rfl), quote])

/-- What follows for an item that keeps all its weight follows for the row that it is, or that is empty because
it was skipped. -/
theorem closesQuotes_of_mem_keep {kind : ItemKind} {skipped : List (List Char)} {text : List Char}
    (closes : ∀ item ∈ Item.keep kind skipped (trim text), keptWeight [item.toPart] = weight item.text →
      ∀ kept ∈ keptParts [item.toPart], kept.ClosesQuotes)
    (eq : keptWeight ((Item.keep kind skipped (trim text)).map Item.toPart) = weight text) :
    ∀ kept ∈ keptParts ((Item.keep kind skipped (trim text)).map Item.toPart), kept.ClosesQuotes := by
  unfold Item.keep at closes eq ⊢
  split
  · simp [keptParts]
  · next kept =>
    rw [if_neg kept] at closes eq
    exact closes _ List.mem_cons_self (by rw [weight_trim]; exact eq)

/-- Of what is left open at the end nothing is kept. -/
theorem keptWeight_keep_unclosed (skipped : List (List Char)) (text : List Char) :
    keptWeight ((Item.keep .unclosed skipped text).map Item.toPart) = 0 := by
  unfold Item.keep
  split
  · rfl
  · rcases keptParts_item .unclosed text with none | ⟨complete, -⟩
    · rw [List.map_singleton, Item.toPart, if_neg (by simp [Item.isGroup]), keptWeight_of_eq_nil none]
    · exact absurd rfl complete

/-- A cutting that keeps all its weight ends outside quotes, since what is open at the end would be dropped, and
each of its items keeps all its weight. -/
theorem Cutting.closesQuotes {cs : List Char} {is : List Item} (cutting : Cutting cs is)
    (le : ∀ item ∈ is, keptWeight [item.toPart] ≤ weight item.text)
    (closes : ∀ item ∈ is, keptWeight [item.toPart] = weight item.text →
      ∀ kept ∈ keptParts [item.toPart], kept.ClosesQuotes)
    (eq : keptWeight (is.map Item.toPart) = weight cs) :
    quoteAfter none cs = none ∧ ∀ kept ∈ keptParts (is.map Item.toPart), kept.ClosesQuotes := by
  induction cutting with
  | @last cs held =>
      refine ⟨?_, closesQuotes_of_mem_keep closes eq⟩
      by_cases outer : after braces outside cs = outside
      · exact quoteAfter_eq_of_after outer
      · -- what is open at the end is dropped, so there is nothing in it
        rw [if_neg outer, keptWeight_keep_unclosed] at eq
        have blank := weight_eq_zero_iff.1 eq.symm
        exact absurd (after_of_isPlain (.inl rfl) fun c hc => isPlain_braces_of_isBlank (blank c hc)) outer
  | lost _ _ later _ =>
      have bound := later.keptWeight_le le
      rw [weight_append, weight_cons_of_not_isBlank (by decide)] at eq
      omega
  | item _ fits closed later ih =>
      rw [List.forall_mem_append] at le closes
      rw [List.map_append, keptWeight_append, weight_append] at eq
      have bound := keptWeight_keep_le le.1
      have bound' := later.keptWeight_le le.2
      obtain ⟨quote, behind⟩ := ih le.2 closes.2 (by omega)
      have here := closesQuotes_of_mem_keep closes.1 (by omega)
      rw [List.map_append, keptParts_append, List.forall_mem_append]
      exact ⟨by rw [quoteAfter_append, quoteAfter_of_fits fits (complete_of_isClosed closed), quote],
        here, behind⟩

/-- A sheet that keeps all of its weight leaves no quote open, and no header in it does. -/
theorem closesQuotes_of_keptWeight_eq {cs : List Char} (eq : keptWeight (parts cs) = weight cs) :
    quoteAfter none cs = none ∧ ∀ kept ∈ keptParts (parts cs), kept.ClosesQuotes := by
  induction n : cs.length using Nat.strong_induction_on generalizing cs with
  | _ n ih =>
      subst n
      rw [parts_eq_map] at eq ⊢
      refine (cutting_items cs).closesQuotes (fun item mem => ?_) (fun item mem => ?_) eq
      · exact keptWeight_toPart_le (isWhole_of_mem_items mem) fun ds _ => keptWeight_parts_le ds
      · refine closesQuotes_of_mem_toPart (isWhole_of_mem_items mem) fun ds short same => ?_
        exact ih ds.length (Nat.lt_of_lt_of_le short (length_le_of_mem_items mem)) same rfl

end Pagewright.Css
