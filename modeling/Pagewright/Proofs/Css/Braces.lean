import Pagewright.Proofs.Css.Items

/-!
# Pagewright.Proofs.Css.Braces

The braces of items, counted outside quotes.  While no item ends, the reader's depth is the number of braces
that were opened less the number of those that were closed, and it stays positive behind the first brace.  So a
block is what its braces say it is, a statement has none, and items cut out of a sheet are found again when they
are written one under the other (`items_stable`).
-/

namespace Pagewright.Css

open Text Nesting

/-! ## braces outside quotes -/

/-- The characters of a text outside quotes; the quotes themselves are left out. -/
def outsideQuotes (quote : Option Char) : List Char → List Char
  | [] => []
  | c :: cs =>
    if quote = none ∧ nextQuote quote c = none then c :: outsideQuotes (nextQuote quote c) cs
    else outsideQuotes (nextQuote quote c) cs

/-- The number of opening braces less that of closing ones. -/
def balance (cs : List Char) : Int := (cs.count '\x7b' : Int) - cs.count '\x7d'

/-- Whether a text has no brace outside quotes. -/
def Braceless (cs : List Char) : Prop :=
  '\x7b' ∉ outsideQuotes none cs ∧ '\x7d' ∉ outsideQuotes none cs

instance (cs : List Char) : Decidable (Braceless cs) := inferInstanceAs (Decidable (_ ∧ _))

/-- Whether the braces of a text outside quotes return to depth zero with its last character and not before. -/
structure ClosesLast (text : List Char) : Prop where
  ends : ∃ body, text = body ++ ['\x7d'] ∧ quoteAfter none body = none
  balanced : balance (outsideQuotes none text) = 0
  inside : ∀ front behind, text = front ++ behind → behind ≠ [] → ¬ Braceless front →
    0 < balance (outsideQuotes none front)

theorem outsideQuotes_append (quote : Option Char) (cs ds : List Char) :
    outsideQuotes quote (cs ++ ds) = outsideQuotes quote cs ++ outsideQuotes (quoteAfter quote cs) ds := by
  induction cs generalizing quote with
  | nil => rfl
  | cons c cs ih =>
      rw [List.cons_append, outsideQuotes, outsideQuotes, ih]
      split <;> rfl

theorem balance_append (cs ds : List Char) : balance (cs ++ ds) = balance cs + balance ds := by
  simp only [balance, List.count_append]
  omega

/-! ## the reader's depth -/

/-- One step of a reader who stays inside an item. -/
theorem depth_next {s : Nesting} {c : Char} (stays : ¬ EndsItem s c) :
    ((s.next braces c).depth : Int) = s.depth + balance (outsideQuotes s.quote [c]) := by
  obtain ⟨depth, quote⟩ := s
  cases quote with
  | some q => simp [Nesting.next, outsideQuotes, balance]
  | none =>
      by_cases hq : c = '\'' ∨ c = '"'
      · have noOpening : c ≠ '\x7b' := by rcases hq with rfl | rfl <;> decide
        have noClosing : c ≠ '\x7d' := by rcases hq with rfl | rfl <;> decide
        simp [Nesting.next, nextQuote, outsideQuotes, balance, braces, hq, noOpening, noClosing]
      · have alone : outsideQuotes none [c] = [c] := by simp [outsideQuotes, nextQuote, hq]
        rw [alone]
        by_cases opens : c = '\x7b'
        · subst opens
          rfl
        · by_cases closes : c = '\x7d'
          · subst closes
            have deep : ¬ depth ≤ 1 := fun le => stays ⟨rfl, .inl ⟨rfl, le⟩⟩
            have lower : (Nesting.next braces ⟨depth, none⟩ '\x7d').depth = depth - 1 := rfl
            have one : balance ['\x7d'] = -1 := by decide
            rw [lower, one]
            simp only
            omega
          · simp [Nesting.next, balance, braces, opens, closes]

theorem depth_after {s : Nesting} {cs : List Char} (held : Held s cs) :
    ((after braces s cs).depth : Int) = s.depth + balance (outsideQuotes s.quote cs) := by
  induction cs generalizing s with
  | nil => simp [outsideQuotes, balance]
  | cons c cs ih =>
      have split : outsideQuotes s.quote (c :: cs) =
          outsideQuotes s.quote [c] ++ outsideQuotes (s.next braces c).quote cs :=
        outsideQuotes_append s.quote [c] cs
      rw [after_cons, ih held.2, depth_next held.1, split, balance_append]
      omega

theorem depth_next_pos {s : Nesting} {c : Char} (stays : ¬ EndsItem s c) (opened : 0 < s.depth) :
    0 < (s.next braces c).depth := by
  unfold Nesting.next
  dsimp only
  split
  · exact opened
  · next outer =>
    split
    · exact Nat.succ_pos _
    · split
      · next closes =>
        have shallow : ¬ s.depth ≤ 1 := fun le =>
          stays ⟨by simpa using outer, .inl ⟨List.mem_singleton.1 closes, le⟩⟩
        omega
      · exact opened

/-- A block that is open stays open as long as no item ends. -/
theorem depth_after_pos {s : Nesting} {cs : List Char} (held : Held s cs) (opened : 0 < s.depth) :
    0 < (after braces s cs).depth := by
  induction cs generalizing s with
  | nil => exact opened
  | cons c cs ih => exact ih held.2 (depth_next_pos held.1 opened)

/-- Before the first brace nothing is open, and behind it something is. -/
theorem not_mem_or_depth_pos {s : Nesting} {cs : List Char} (held : Held s cs) (zero : s.depth = 0) :
    ('\x7b' ∉ outsideQuotes s.quote cs ∧ '\x7d' ∉ outsideQuotes s.quote cs) ∨
      0 < (after braces s cs).depth := by
  induction cs generalizing s with
  | nil => exact .inl ⟨List.not_mem_nil, List.not_mem_nil⟩
  | cons c cs ih =>
      rw [after_cons]
      by_cases opened : 0 < (s.next braces c).depth
      · exact .inr (depth_after_pos held.2 opened)
      · have level : (s.next braces c).depth = 0 := by omega
        have step := depth_next held.1
        rw [level, zero] at step
        refine (ih held.2 level).imp_left fun later => ?_
        rw [quote_next] at later
        rw [outsideQuotes]
        split
        · next outer =>
          rw [outsideQuotes, if_pos outer, outsideQuotes] at step
          have noOpening : '\x7b' ≠ c := by
            rintro rfl
            exact absurd step (by decide)
          have noClosing : '\x7d' ≠ c := by
            rintro rfl
            exact absurd step (by decide)
          rw [List.mem_cons, List.mem_cons, not_or, not_or]
          exact ⟨⟨noOpening, later.1⟩, noClosing, later.2⟩
        · exact later

/-! ## the braces of items -/

/-- What stands in front of a text's last character is all of the front that another cut leaves. -/
theorem exists_append_of_concat_eq {body front behind : List Char} {c : Char}
    (eq : body ++ [c] = front ++ behind) (more : behind ≠ []) : ∃ gap, body = front ++ gap := by
  obtain ⟨gap, last, rfl⟩ := List.eq_nil_or_concat behind |>.resolve_left more
  rw [List.concat_eq_append, ← List.append_assoc] at eq
  exact ⟨gap, List.append_inj_left' eq rfl⟩

/-- A block is closed by its last character and not before. -/
theorem closesLast_of_fits {text : List Char} (fits : ItemKind.block.Fits text) : ClosesLast text := by
  obtain ⟨body, rfl, held, one⟩ := fits
  have quote : quoteAfter none body = none := quoteAfter_eq_of_after one
  have level : balance (outsideQuotes none body) = 1 := by
    have depth := depth_after held
    rw [one] at depth
    simpa [outside] using depth.symm
  refine ⟨⟨body, rfl, quote⟩, ?_, fun front behind eq more opened => ?_⟩
  · rw [outsideQuotes_append, balance_append, level, quote]
    rfl
  · obtain ⟨gap, rfl⟩ := exists_append_of_concat_eq eq more
    have held' := (held_append.1 held).1
    have deep := (not_mem_or_depth_pos held' rfl).resolve_left opened
    have depth := depth_after held'
    simp only [outside] at depth deep
    omega

/-- A statement has no brace but those in quotes. -/
theorem braceless_of_fits {text : List Char} (fits : ItemKind.statement.Fits text) : Braceless text := by
  obtain ⟨body, rfl, held, zero⟩ := fits
  have level : (after braces outside body).depth = 0 := congrArg Nesting.depth zero
  have bare := (not_mem_or_depth_pos held rfl).resolve_right (by omega)
  have last : outsideQuotes none (body ++ [';']) = outsideQuotes none body ++ [';'] := by
    rw [outsideQuotes_append, quoteAfter_eq_of_after zero]
    rfl
  unfold Braceless
  rw [last, List.mem_append, List.mem_append]
  exact ⟨not_or.2 ⟨bare.1, by decide⟩, not_or.2 ⟨bare.2, by decide⟩⟩

/-- The items of a sheet are found again when they are written one under the other.  A block ends where its
braces first return to depth zero, a statement ends with a semicolon and has no brace, both counted outside
quotes, and nothing stands behind an item that is not complete. -/
theorem items_stable (css : List Char) :
    items (join ['\n'] ((items css).map (·.text))) = items css ∧
      (∀ item ∈ items css, item.kind = .block → ClosesLast item.text) ∧
      (∀ item ∈ items css, item.kind = .statement →
        (∃ body, item.text = body ++ [';']) ∧ Braceless item.text) ∧
      ∀ front item behind, items css = front ++ item :: behind →
        item.kind = .trailing ∨ item.kind = .unclosed → behind = [] := by
  have whole (item) (h : item ∈ items css) : item.IsWhole := isWhole_of_mem_items h
  refine ⟨items_join whole (pairwise_items css), fun item h kind => ?_, fun item h kind => ?_, ?_⟩
  · have fits := (whole item h).fits
    rw [kind] at fits
    exact closesLast_of_fits fits
  · have fits := (whole item h).fits
    rw [kind] at fits
    obtain ⟨body, eq, -⟩ := id fits
    exact ⟨⟨body, eq⟩, braceless_of_fits fits⟩
  · intro front item behind eq opened
    refine List.eq_nil_iff_forall_not_mem.2 fun later h => ?_
    have order := pairwise_items css
    rw [eq] at order
    have closed := (List.pairwise_cons.1 (List.pairwise_append.1 order).2.1).1 later h
    rcases opened with kind | kind <;> · rw [kind] at closed; exact closed

/-- A sheet with a stray brace, an empty statement, a quoted brace, nested blocks and an open end. -/
theorem items_stable_nested :
    items "\x7d;@import 'a\x7b'; @media x \x7b .a \x7b color: red \x7d \x7d .b \x7b".toList =
        [⟨.statement, "@import 'a\x7b';".toList⟩, ⟨.block, "@media x \x7b .a \x7b color: red \x7d \x7d".toList⟩,
          ⟨.unclosed, ".b \x7b".toList⟩] ∧
      Braceless "@import 'a\x7b';".toList ∧ ClosesLast "@media x \x7b .a \x7b color: red \x7d \x7d".toList ∧
      items "@import 'a\x7b';\n@media x \x7b .a \x7b color: red \x7d \x7d\n.b \x7b".toList =
        items "\x7d;@import 'a\x7b'; @media x \x7b .a \x7b color: red \x7d \x7d .b \x7b".toList := by
  have cut : items "\x7d;@import 'a\x7b'; @media x \x7b .a \x7b color: red \x7d \x7d .b \x7b".toList =
      [⟨.statement, "@import 'a\x7b';".toList⟩, ⟨.block, "@media x \x7b .a \x7b color: red \x7d \x7d".toList⟩,
        ⟨.unclosed, ".b \x7b".toList⟩] := by decide +kernel
  obtain ⟨same, blocks, statements, -⟩ :=
    items_stable "\x7d;@import 'a\x7b'; @media x \x7b .a \x7b color: red \x7d \x7d .b \x7b".toList
  rw [cut] at statements blocks
  refine ⟨cut, (statements _ (.head _) rfl).2, blocks _ (.tail _ (.head _)) rfl, ?_⟩
  rw [← same, cut]
  rfl

end Pagewright.Css
