import Pagewright.Proofs.Css.Loss

/-!
# Pagewright.Proofs.Css.Stability

Cleaning a cleaned sheet.  The second pass finds the parts that the first one has kept if they fit into
the allowed length and no header of a group leaves a quote open.  Conversely, a sheet that comes out as it
was has lost nothing, so no header of its own leaves a quote open, and its parts are those that the first
pass has kept, because these can be told from their text (`eq_of_row_eq`).
-/

namespace Pagewright.Css

open Text Nesting

/-! ## the text of a cleaned sheet -/

/-- A text that does not occur in a longer one does not occur in its tail. -/
theorem not_isInfix_of_cons {text cs : List Char} {c : Char} (h : ¬ text <:+: c :: cs) :
    ¬ text <:+: cs :=
  fun piece => h (List.infix_cons piece)

/-- A slash with an asterisk behind it is the beginning of a comment. -/
theorem commentOpener_isInfix (cs : List Char) : commentOpener <:+: '/' :: '*' :: cs := ⟨[], cs, rfl⟩

/-- Where no comment begins, none is taken out. -/
theorem dropCommentsFrom_eq_self {cs : List Char} (h : ¬ commentOpener <:+: cs) :
    dropCommentsFrom 0 cs = cs := by
  induction cs with
  | nil => rfl
  | cons c cs ih =>
      unfold dropCommentsFrom
      split
      · exact absurd (commentOpener_isInfix _) h
      · rw [ih (not_isInfix_of_cons h)]

/-- Where no comment begins, nothing is cut off either. -/
theorem beforeComment_eq_self {cs : List Char} (h : ¬ commentOpener <:+: cs) : beforeComment cs = cs := by
  induction cs with
  | nil => rfl
  | cons c cs ih =>
      unfold beforeComment
      split
      · next eq =>
        rw [eq] at h
        exact absurd (commentOpener_isInfix _) h
      · next eq =>
        obtain ⟨rfl, rfl⟩ := List.cons.inj eq
        rw [ih (not_isInfix_of_cons h)]
      · next eq => cases eq

/-- A text in which no comment begins stays as it is. -/
theorem withoutComments_eq_self {cs : List Char} (h : ¬ commentOpener <:+: cs) : withoutComments cs = cs := by
  rw [withoutComments, dropCommentsFrom_eq_self h, beforeComment_eq_self h]

/-- Taking comments out only takes characters away. -/
theorem dropCommentsFrom_sublist (skip : Nat) (cs : List Char) : (dropCommentsFrom skip cs).Sublist cs := by
  induction cs generalizing skip with
  | nil => cases skip <;> exact .slnil
  | cons c cs ih =>
      cases skip with
      | succ skip => exact (ih skip).cons c
      | zero =>
          unfold dropCommentsFrom
          split
          · split
            · exact (ih _).cons _
            · exact (ih 0).cons_cons _
          · exact (ih 0).cons_cons _

/-- So does cutting off at a comment that is never closed. -/
theorem beforeComment_sublist (cs : List Char) : (beforeComment cs).Sublist cs := by
  fun_induction beforeComment cs with
  | case1 cs => exact List.nil_sublist _
  | case2 c cs _ ih => exact ih.cons_cons c
  | case3 => exact .slnil

/-- A text without its comments weighs no more than before. -/
theorem weight_withoutComments_le (cs : List Char) : weight (withoutComments cs) ≤ weight cs :=
  ((beforeComment_sublist _).trans (dropCommentsFrom_sublist 0 cs)).countP_le

/-! ## the kept tree again -/

/-- A row of parts stays whole if each of its parts is kept as it is. -/
theorem keptParts_eq_self {ps : List Part} (h : ∀ p ∈ ps, p.kept? = some p) : keptParts ps = ps := by
  induction ps with
  | nil => rfl
  | cons p ps ih =>
      rw [List.forall_mem_cons] at h
      rw [keptParts, h.1, ih h.2]

/-- What is kept once is kept again. -/
theorem Part.IsCut.kept?_of_kept? {p kept : Part} (cut : p.IsCut) (h : p.kept? = some kept) :
    kept.kept? = some kept := by
  induction cut generalizing kept with
  | item =>
      have same := h
      simp only [kept?, Option.ite_none_left_eq_some, Option.some.injEq] at h
      rwa [← h.2] at same ⊢
  | @group _ inner _ _ _ _ ih =>
      simp only [kept?, Option.ite_none_left_eq_some, Option.some.injEq] at h
      have inside : keptParts (keptParts inner) = keptParts inner := by
        refine keptParts_eq_self fun q hq => ?_
        obtain ⟨p, hp, hkept⟩ := exists_of_mem_keptParts hq
        exact ih p hp hkept
      rw [← h.2, kept?, inside, if_neg h.1]

/-- What was kept once is kept again: keeping looks at each part by itself. -/
theorem keptParts_keptSheet (settings : Settings) (raw : String) :
    keptParts (keptSheet settings raw) = keptSheet settings raw := by
  refine keptParts_eq_self fun kept h => ?_
  obtain ⟨p, hp, hkept⟩ := exists_of_mem_keptParts h
  exact (isCut_of_mem_parts hp).kept?_of_kept? hkept

/-! ## rows of kept parts -/

/-- A row of parts as cleaning keeps them. -/
structure IsKeptRow (ps : List Part) : Prop where
  cut : ∀ p ∈ ps, p.IsCut
  tidy : ∀ p ∈ ps, p.IsTidy
  closed : ps.Pairwise fun p _ => p.IsClosed

/-- The kept parts of a sheet are a row as cleaning leaves it. -/
theorem isKeptRow_keptSheet (settings : Settings) (raw : String) : IsKeptRow (keptSheet settings raw) :=
  ⟨fun _ => isCut_of_mem_keptSheet, fun _ => isTidy_of_mem_keptSheet, pairwise_keptSheet settings raw⟩

/-- What follows the first part of a kept row is a kept row. -/
theorem IsKeptRow.tail {p : Part} {ps : List Part} (h : IsKeptRow (p :: ps)) : IsKeptRow ps :=
  ⟨fun q hq => h.cut q (.tail _ hq), fun q hq => h.tidy q (.tail _ hq), (List.pairwise_cons.1 h.closed).2⟩

/-- A group that cleaning keeps: its header is a grouping at-rule without a brace. -/
theorem IsKeptRow.of_group {header : List Char} {inner ps : List Part}
    (h : IsKeptRow (.group header inner :: ps)) :
    '\x7b' ∉ header ∧ groupingNames.contains (atRuleName header) = true ∧ IsKeptRow inner := by
  have tidy := h.tidy _ List.mem_cons_self
  cases h.cut _ List.mem_cons_self with
  | group whole grouped cut closed =>
      obtain ⟨front, body, -, -, split, noBrace, name⟩ := header_splitBlock whole grouped
      cases tidy with
      | group tidy =>
          rw [split]
          exact ⟨noBrace, name, cut, tidy, closed⟩

/-- An item that cleaning keeps. -/
theorem IsKeptRow.of_item {kind : ItemKind} {text : List Char} {ps : List Part}
    (h : IsKeptRow (.item kind text :: ps)) :
    Item.IsWhole ⟨kind, text⟩ ∧ Item.isGroup ⟨kind, text⟩ = false ∧ kind ≠ .unclosed ∧
      (kind ≠ .block → text.head? ≠ some '@') := by
  have tidy := h.tidy _ List.mem_cons_self
  cases h.cut _ List.mem_cons_self with
  | item whole single =>
      cases tidy with
      | item complete plain => exact ⟨whole, single, complete, plain⟩

/-- A row of parts up to the brace that closes the group in which it stands. -/
def row (ps : List Part) (rest : List Char) : List Char := join ['\n'] (printParts ps) ++ '\x7d' :: rest

/-- What follows a part in a row. -/
def behind : List Part → List Char → List Char
  | [], rest => '\x7d' :: rest
  | p :: ps, rest => '\n' :: row (p :: ps) rest

/-- The text of a row begins with its first part. -/
theorem row_cons (p : Part) (ps : List Part) (rest : List Char) :
    row (p :: ps) rest = p.print ++ behind ps rest := by
  cases ps with
  | nil => rfl
  | cons q ps => simp [row, behind, printParts, join]

/-- The text of a row that begins with a group begins with the header of the group and a brace. -/
theorem row_group (header : List Char) (inner ps : List Part) (rest : List Char) :
    row (.group header inner :: ps) rest = header ++ '\x7b' :: row inner (behind ps rest) := by
  rw [row_cons, Part.print, row]
  simp

/-! ## the first end -/

/-- The first end of an item in a text is one place. -/
theorem end_unique {s : Nesting} {body body' rest rest' : List Char} {c c' : Char} (held : Held s body)
    (ends : EndsItem (after braces s body) c) (held' : Held s body')
    (ends' : EndsItem (after braces s body') c') (eq : body ++ c :: rest = body' ++ c' :: rest') :
    body = body' ∧ c = c' ∧ rest = rest' := by
  induction body generalizing s body' with
  | nil =>
      cases body' with
      | nil => exact ⟨rfl, List.cons.inj eq⟩
      | cons d body' =>
          obtain ⟨rfl, -⟩ := List.cons.inj eq
          exact absurd ends held'.1
  | cons d body ih =>
      cases body' with
      | nil =>
          obtain ⟨rfl, -⟩ := List.cons.inj eq
          exact absurd ends' held.1
      | cons d' body' =>
          obtain ⟨rfl, later⟩ := List.cons.inj eq
          obtain ⟨rfl, same⟩ := ih held.2 ends held'.2 ends' later
          exact ⟨rfl, same⟩

/-- The item that a text begins with, if it ends first behind some text and with some character: its kind,
its text, and what follows. -/
def itemAt (body : List Char) (c : Char) (rest : List Char) : ItemKind × List Char × List Char :=
  if c = ';' then (.statement, body ++ [c], rest)
  else if after braces outside body = outside then (.trailing, body, c :: rest)
  else (.block, body ++ [c], rest)

/-- The text of an item ends where reading from its beginning meets the first end of an item, whatever follows.
-/
theorem exists_itemAt {kind : ItemKind} {text ps} (h : IsKeptRow (.item kind text :: ps)) (rest) :
    ∃ body c later, text ++ behind ps rest = body ++ c :: later ∧ Held outside body ∧
      EndsItem (after braces outside body) c ∧ (kind, text, behind ps rest) = itemAt body c later := by
  obtain ⟨whole, -, complete, -⟩ := h.of_item
  have fits := whole.fits
  cases kind with
  | block =>
      obtain ⟨body, rfl, held, one⟩ := fits
      refine ⟨body, '\x7d', behind ps rest, by simp, held, ?_, ?_⟩
      · rw [one]
        exact ⟨rfl, .inl ⟨rfl, le_rfl⟩⟩
      · rw [itemAt, one, if_neg (by decide), if_neg (by decide)]
  | statement =>
      obtain ⟨body, rfl, held, zero⟩ := fits
      refine ⟨body, ';', behind ps rest, by simp, held, ?_, ?_⟩
      · rw [zero]
        exact ⟨rfl, .inr ⟨rfl, rfl⟩⟩
      · rw [itemAt, if_pos rfl]
  | trailing =>
      -- it is the last one, because it is not closed
      have last : ps = [] := by
        by_contra more
        obtain ⟨q, hq⟩ := List.exists_mem_of_ne_nil ps more
        exact (List.pairwise_cons.1 h.closed).1 q hq
      subst last
      obtain ⟨held, zero⟩ := fits
      refine ⟨text, '\x7d', rest, rfl, held, ?_, ?_⟩
      · rw [zero]
        exact ⟨rfl, .inl ⟨rfl, Nat.zero_le _⟩⟩
      · rw [itemAt, if_neg (by decide), if_pos zero]
        rfl
  | unclosed => exact absurd rfl complete

/-- Two items with the same text from there on are the same: both end at the first end of an item. -/
theorem item_unique {kind kind' : ItemKind} {text text' ps qs rest rest'}
    (h : IsKeptRow (.item kind text :: ps)) (h' : IsKeptRow (.item kind' text' :: qs))
    (eq : text ++ behind ps rest = text' ++ behind qs rest') :
    kind = kind' ∧ text = text' ∧ behind ps rest = behind qs rest' := by
  obtain ⟨body, c, later, cut, held, ends, first⟩ := exists_itemAt h rest
  obtain ⟨body', c', later', cut', held', ends', first'⟩ := exists_itemAt h' rest'
  rw [cut, cut'] at eq
  obtain ⟨rfl, rfl, rfl⟩ := end_unique held ends held' ends' eq
  simpa using first.trans first'.symm

/-- A header that names a grouping at-rule begins with the at sign. -/
theorem exists_of_grouped {cs : List Char} (h : groupingNames.contains (atRuleName cs) = true) :
    ∃ rest, cs = '@' :: rest := by
  unfold atRuleName at h
  split at h
  · exact ⟨_, rfl⟩
  · rw [not_grouped_nil] at h
    cases h

/-- A text is cut at its first brace in one way only. -/
theorem cut_unique {header header' body body' : List Char} (noBrace : '\x7b' ∉ header)
    (noBrace' : '\x7b' ∉ header') (eq : header ++ '\x7b' :: body = header' ++ '\x7b' :: body') :
    header = header' ∧ body = body' := by
  have first : cut? '\x7b' (header ++ '\x7b' :: body) = some (header, body) :=
    cut?_eq_some_iff.2 ⟨rfl, noBrace⟩
  rw [cut?_eq_some_iff.2 ⟨eq, noBrace'⟩] at first
  simpa [eq_comm] using first

/-- No item begins like a group. -/
theorem item_ne_group {kind : ItemKind} {text header rest rest' : List Char} {inner ps qs : List Part}
    (h : IsKeptRow (.item kind text :: ps)) (h' : IsKeptRow (.group header inner :: qs)) :
    text ++ rest ≠ header ++ '\x7b' :: rest' := by
  intro eq
  obtain ⟨whole, single, -, plain⟩ := h.of_item
  obtain ⟨noBrace, name, -⟩ := h'.of_group
  obtain ⟨tail, rfl⟩ := exists_of_grouped name
  by_cases block : kind = .block
  · subst block
    obtain ⟨front, body, rfl, new, -, -⟩ := exists_brace_of_fits whole.fits
    rw [List.append_assoc, List.cons_append] at eq
    obtain ⟨rfl, -⟩ := cut_unique new noBrace eq
    have grouped : Item.isGroup ⟨.block, '@' :: tail ++ '\x7b' :: (body ++ ['\x7d'])⟩ = true := by
      rw [Item.isGroup, atRuleName_append (by decide) (List.cons_ne_nil _ _), name]
      rfl
    rw [single] at grouped
    cases grouped
  · obtain ⟨c, text, rfl⟩ := List.exists_cons_of_ne_nil whole.ne_nil
    obtain ⟨rfl, -⟩ := List.cons.inj eq
    exact plain block rfl

/-- No row begins with a closing brace, so the end of a group can be told from one more part. -/
theorem row_ne_brace {p : Part} {ps : List Part} {rest rest' : List Char} (h : IsKeptRow (p :: ps)) :
    row (p :: ps) rest ≠ '\x7d' :: rest' := by
  intro eq
  cases p with
  | group header inner =>
      obtain ⟨-, name, -⟩ := h.of_group
      obtain ⟨tail, rfl⟩ := exists_of_grouped name
      rw [row_group, List.cons_append, List.cons.injEq] at eq
      exact absurd eq.1 (by decide)
  | item kind text =>
      obtain ⟨whole, -, -, -⟩ := h.of_item
      obtain ⟨body, c, later, cut, held, ends, first⟩ := exists_itemAt h rest
      rw [row_cons, Part.print, cut] at eq
      have outer : EndsItem (after braces outside []) '\x7d' := ⟨rfl, .inl ⟨rfl, Nat.zero_le _⟩⟩
      have start : Held outside [] := trivial
      obtain ⟨rfl, rfl, -⟩ := end_unique held ends start outer eq
      have empty : text = [] := congrArg (·.2.1) first
      exact whole.ne_nil empty

/-- The first of kept parts can be told from the text, if what a group holds can. -/
theorem first_unique {p q : Part} {ps qs : List Part} {rest rest' : List Char}
    (h : IsKeptRow (p :: ps)) (h' : IsKeptRow (q :: qs))
    (inside : ∀ header inner inner', p = .group header inner → q = .group header inner' →
      row inner (behind ps rest) = row inner' (behind qs rest') →
        inner = inner' ∧ behind ps rest = behind qs rest')
    (eq : row (p :: ps) rest = row (q :: qs) rest') : p = q ∧ behind ps rest = behind qs rest' := by
  cases p with
  | item kind text =>
      cases q with
      | item kind' text' =>
          rw [row_cons, row_cons] at eq
          obtain ⟨rfl, rfl, same⟩ := item_unique h h' eq
          exact ⟨rfl, same⟩
      | group header' inner' =>
          rw [row_cons, row_group] at eq
          exact absurd eq (item_ne_group h h')
  | group header inner =>
      cases q with
      | item kind' text' =>
          rw [row_cons _ qs, row_group] at eq
          exact absurd eq.symm (item_ne_group h' h)
      | group header' inner' =>
          rw [row_group, row_group] at eq
          obtain ⟨rfl, within⟩ := cut_unique h.of_group.1 h'.of_group.1 eq
          obtain ⟨rfl, same⟩ := inside header inner inner' rfl rfl within
          exact ⟨rfl, same⟩

/-- The row inside a group is shorter than the row with the group, which the induction below needs. -/
theorem length_row_inner_lt (header : List Char) (inner ps : List Part) (rest : List Char) :
    (row inner (behind ps rest)).length < (row (.group header inner :: ps) rest).length := by
  rw [row_group]
  simp
  omega

/-- So is the row behind the first part. -/
theorem length_row_tail_lt (p q : Part) (ps : List Part) (rest : List Char) :
    (row (q :: ps) rest).length < (row (p :: q :: ps) rest).length := by
  rw [row_cons p, behind]
  simp
  omega

/-- Kept parts can be told from their text. -/
theorem eq_of_row_eq {ps qs : List Part} {rest rest' : List Char} (h : IsKeptRow ps) (h' : IsKeptRow qs)
    (eq : row ps rest = row qs rest') : ps = qs ∧ rest = rest' := by
  induction n : (row ps rest).length using Nat.strong_induction_on generalizing ps qs rest rest' with
  | _ n ih =>
      subst n
      match ps, qs with
      | [], [] => exact ⟨rfl, (List.cons.inj eq).2⟩
      | [], q :: qs => exact absurd eq.symm (row_ne_brace h')
      | p :: ps, [] => exact absurd eq (row_ne_brace h)
      | p :: ps, q :: qs =>
          obtain ⟨rfl, same⟩ : p = q ∧ behind ps rest = behind qs rest' := by
            refine first_unique h h' (fun header inner inner' hp hq within => ?_) eq
            subst hp hq
            exact ih _ (length_row_inner_lt ..) h.of_group.2.2 h'.of_group.2.2 within rfl
          match ps, qs with
          | [], [] => exact ⟨rfl, (List.cons.inj same).2⟩
          | [], q' :: qs => exact absurd (List.cons.inj same).1 (by decide)
          | p' :: ps, [] => exact absurd (List.cons.inj same).1 (by decide)
          | p' :: ps, q' :: qs =>
              obtain ⟨later, same⟩ :=
                ih _ (length_row_tail_lt ..) h.tail h'.tail (List.cons.inj same).2 rfl
              exact ⟨by rw [later], same⟩

/-! ## cleaning again -/

/-- A part that was cut out has no blanks at its ends, and is not empty. -/
theorem Part.IsCut.trim_print {p : Part} (cut : p.IsCut) : trim p.print = p.print ∧ p.print ≠ [] := by
  refine ⟨?_, cut.print_ne_nil⟩
  cases cut with
  | item whole => exact whole.trimmed
  | group whole grouped =>
      obtain ⟨front, body, -, -, split, -, name⟩ := header_splitBlock whole grouped
      rw [split, Part.print]
      obtain ⟨rest, eq⟩ := exists_of_grouped name
      rw [eq]
      exact trim_eq_self_of_ends (by decide) (by decide)

/-- A cleaned sheet has no blanks around it. -/
theorem trim_sanitize (settings : Settings) (raw : String) :
    trim (sanitize settings raw).toList = (sanitize settings raw).toList := by
  rw [toList_sanitize]
  refine trim_join fun text h => ?_
  rw [printParts_eq_map] at h
  obtain ⟨p, hp, rfl⟩ := List.mem_map.1 h
  exact (isCut_of_mem_keptSheet hp).trim_print

/-- A text without blanks around it has weight behind every place. -/
theorem weight_take_lt {cs : List Char} (trimmed : trim cs = cs) {n : Nat} (short : n < cs.length) :
    weight (cs.take n) < weight cs := by
  have whole := congrArg weight (List.take_append_drop n cs)
  rw [weight_append] at whole
  have some : cs.drop n ≠ [] := by simpa using short
  have same : (cs.drop n).getLast? = cs.getLast? := by rw [List.getLast?_drop, if_neg (by omega)]
  have last : isBlank ((cs.drop n).getLast some) = false := by
    refine (trim_eq_self_iff.1 trimmed).2 _ ?_
    rw [← same, Option.mem_def, List.getLast?_eq_some_getLast some]
  have heavy : weight (cs.drop n) ≠ 0 := by
    rw [ne_eq, weight_eq_zero_iff]
    intro blank
    rw [blank _ (List.getLast_mem some)] at last
    cases last
  omega

/-- A length that is not negative cuts like a natural number. -/
theorem takeSigned_eq_take {n : Int} (h : 0 ≤ n) (cs : List Char) : takeSigned n cs = cs.take n.toNat := by
  rw [takeSigned, if_pos h]

/-- A cleaned sheet weighs what is kept of its parts. -/
theorem weight_sanitize (settings : Settings) (raw : String) :
    weight (sanitize settings raw).toList =
      keptWeight (parts (withoutComments (takeSigned settings.customCssMaxLength raw.toList))) := by
  rw [toList_sanitize]
  rfl

section again

variable {settings : Settings} {raw : String}

/-- What fits into the allowed length is cleaned again as it is. -/
theorem toList_sanitize_sanitize (limit : 0 ≤ settings.customCssMaxLength)
    (fits : ((sanitize settings raw).toList.length : Int) ≤ settings.customCssMaxLength) :
    (sanitize settings (sanitize settings raw)).toList =
      join ['\n'] (printParts (keptParts (parts (sanitize settings raw).toList))) := by
  rw [toList_sanitize settings (sanitize settings raw), keptSheet, takeSigned_eq_take limit,
    List.take_of_length_le (by omega), withoutComments_eq_self (not_isInfix_sanitize settings raw)]

/-- A cleaned sheet that fits, and whose headers close their quotes, is cut into the parts it was printed from.
-/
theorem sanitize_sanitize_of_closesQuotes (limit : 0 ≤ settings.customCssMaxLength)
    (fits : ((sanitize settings raw).toList.length : Int) ≤ settings.customCssMaxLength)
    (closes : ∀ p ∈ keptSheet settings raw, p.ClosesQuotes) :
    sanitize settings (sanitize settings raw) = sanitize settings raw := by
  have sound : ∀ p ∈ keptSheet settings raw, p.IsSound := fun p hp =>
    (isCut_of_mem_keptSheet hp).isSound (isTidy_of_mem_keptSheet hp) (closes p hp)
  rw [← String.toList_inj, toList_sanitize_sanitize limit fits, toList_sanitize,
    parts_join_printParts sound (pairwise_keptSheet settings raw), keptParts_keptSheet]

/-- A sheet that is longer than allowed loses weight. -/
theorem length_le_of_sanitize_sanitize (limit : 0 ≤ settings.customCssMaxLength)
    (stable : sanitize settings (sanitize settings raw) = sanitize settings raw) :
    ((sanitize settings raw).toList.length : Int) ≤ settings.customCssMaxLength := by
  by_contra long
  have short : settings.customCssMaxLength.toNat < (sanitize settings raw).toList.length := by omega
  have lighter := weight_take_lt (trim_sanitize settings raw) short
  have bound := (keptWeight_parts_le _).trans (weight_withoutComments_le
    (takeSigned settings.customCssMaxLength (sanitize settings raw).toList))
  rw [← weight_sanitize, stable, takeSigned_eq_take limit] at bound
  omega

/-- A sheet that is stable keeps all of its weight the second time, so its own headers close their quotes; and
its parts are those of the first pass, as both rows have one text. -/
theorem closesQuotes_of_sanitize_sanitize (limit : 0 ≤ settings.customCssMaxLength)
    (stable : sanitize settings (sanitize settings raw) = sanitize settings raw) :
    ∀ p ∈ keptSheet settings raw, p.ClosesQuotes := by
  have fits := length_le_of_sanitize_sanitize limit stable
  have text := toList_sanitize_sanitize limit fits
  rw [stable] at text
  have closes := (closesQuotes_of_keptWeight_eq (congrArg weight text).symm).2
  have row' : IsKeptRow (keptParts (parts (sanitize settings raw).toList)) :=
    ⟨fun _ => isCut_of_mem_keptParts fun _ => isCut_of_mem_parts, fun kept h => by
      obtain ⟨p, hp, hkept⟩ := exists_of_mem_keptParts h
      exact (isCut_of_mem_parts hp).isTidy_of_kept? hkept, pairwise_keptParts (pairwise_parts _)⟩
  have same : row (keptSheet settings raw) [] = row (keptParts (parts (sanitize settings raw).toList)) [] := by
    rw [row, row, ← text, toList_sanitize]
  rw [(eq_of_row_eq (isKeptRow_keptSheet settings raw) row' same).1]
  exact closes

end again

/-- Cleaning a cleaned sheet changes nothing just if the sheet is no longer than allowed and none of the
headers of its groups leaves a quote open. -/
theorem sanitize_sanitize_iff {settings : Settings} (limit : 0 ≤ settings.customCssMaxLength)
    (raw : String) : sanitize settings (sanitize settings raw) = sanitize settings raw ↔
      ((sanitize settings raw).toList.length : Int) ≤ settings.customCssMaxLength ∧
        ∀ p ∈ keptSheet settings raw, p.ClosesQuotes :=
  ⟨fun stable => ⟨length_le_of_sanitize_sanitize limit stable,
    closesQuotes_of_sanitize_sanitize limit stable⟩,
    fun ⟨fits, closes⟩ => sanitize_sanitize_of_closesQuotes limit fits closes⟩

/-- Two rules without a line between them. -/
def twoRules : String := "a\x7b\x7db\x7b\x7d"

/-- Both rules are kept. -/
theorem keptSheet_twoRules {settings : Settings} (room : 6 ≤ settings.customCssMaxLength) :
    keptSheet settings twoRules =
      [.item .block ['a', '\x7b', '\x7d'], .item .block ['b', '\x7b', '\x7d']] := by
  have short : twoRules.toList.length = 6 := by decide
  have bare : withoutComments (takeSigned settings.customCssMaxLength twoRules.toList) = twoRules.toList := by
    rw [takeSigned_eq_take (by omega), List.take_of_length_le (by omega)]
    decide
  rw [keptSheet_eq_partsUpTo (n := 7) bare (by decide)]
  decide

/-- Between them a line feed is put, which the text did not have. -/
theorem sanitize_twoRules {settings : Settings} (room : 6 ≤ settings.customCssMaxLength) :
    sanitize settings twoRules = "a\x7b\x7d\nb\x7b\x7d" := by
  rw [← String.toList_inj, toList_sanitize, keptSheet_twoRules room]
  rfl

/-- With room for a line between them, two rules stay as they are. -/
theorem sanitize_sanitize_iff_twoRules :
    sanitize {} (sanitize {} twoRules) = sanitize {} twoRules := by
  refine (sanitize_sanitize_iff (by decide) twoRules).2 ⟨?_, fun p hp => ?_⟩
  · rw [sanitize_twoRules (by decide)]
    decide
  · rw [keptSheet_twoRules (by decide)] at hp
    rcases List.mem_cons.1 hp with rfl | hp
    · exact .item
    · rw [List.mem_singleton.1 hp]
      exact .item

/-- A group in whose header a brace stands in quotes. -/
def quotedBrace : String := "@media \"\x7ba;\" \x7b\x7d"

/-- The header ends at the brace in quotes, and what stands behind it is taken for a statement. -/
theorem keptSheet_quotedBrace :
    keptSheet {} quotedBrace = [.group "@media \"".toList [.item .statement ['a', ';']]] := by
  rw [keptSheet_eq_partsUpTo (n := 20) rfl (by decide +kernel)]
  decide +kernel

/-- A line between two rules can be too much, and a brace in quotes is taken for the beginning of a block:
neither comes out of a second pass as it was. -/
theorem sanitize_sanitize_ne :
    sanitize { customCssMaxLength := 6 } (sanitize { customCssMaxLength := 6 } twoRules) ≠
        sanitize { customCssMaxLength := 6 } twoRules ∧
      sanitize {} (sanitize {} quotedBrace) ≠ sanitize {} quotedBrace := by
  refine ⟨fun stable => ?_, fun stable => ?_⟩
  · have fits := length_le_of_sanitize_sanitize (by decide) stable
    rw [sanitize_twoRules (by decide)] at fits
    exact absurd fits (by decide)
  · have closes := closesQuotes_of_sanitize_sanitize (by decide) stable
    rw [keptSheet_quotedBrace] at closes
    cases closes _ List.mem_cons_self with
    | group here => exact absurd here (by decide)

end Pagewright.Css
