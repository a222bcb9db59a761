import Pagewright.Css.Scope
import Pagewright.Proofs.Css.Nesting

/-!
# Pagewright.Proofs.Css.Selector

The members of a selector list, which stand between the commas outside brackets and quotes, and the
places where they begin.  A member is confined to a scope if it is the scope or selects inside it.  This
can be told from the text at its place (`forall_isConfined_iff`), however the list goes on, so that it
can be followed through a list character by character.
-/

namespace Pagewright.Css

open Text Nesting

/-! ## members -/

/-- The texts between the commas outside brackets and quotes. -/
def membersFrom (s : Nesting) : List Char → List (List Char)
  | [] => [[]]
  | c :: cs =>
    if s = outside ∧ c = ',' then [] :: membersFrom outside cs
    else
      match membersFrom (s.next brackets c) cs with
      | [] => [[c]]
      | member :: rest => (c :: member) :: rest

/-- The members of a selector list, without the blanks around them. -/
def members (cs : List Char) : List (List Char) := (membersFrom outside cs).map trim

/-- Whether a text turns to a sibling: whether it begins, blanks aside, with one of two combinators. -/
def TurnsAside (cs : List Char) : Prop :=
  ∃ c rest, trimStart cs = c :: rest ∧ (c = '+' ∨ c = '~')

/-- Whether a selector is confined to a scope: it is the scope, or it is the scope with a blank and
something behind it that does not turn to a sibling. -/
def IsConfined (scope selector : List Char) : Prop :=
  selector = scope ∨
    ∃ c rest, selector = scope ++ c :: rest ∧ isBlank c = true ∧ trimStart rest ≠ [] ∧ ¬ TurnsAside rest

/-- What the selector of a container is like: brackets and quotes in it are closed again, whatever
stands around it, it begins like a class, and it has no character that ends a selector or a rule. -/
structure IsScope (scope : List Char) : Prop where
  neutral : ∀ {s : Nesting}, IsQuote s.quote → after brackets s scope = s
  begins : ∃ rest, scope = '.' :: rest
  plain : ∀ c ∈ scope, isBlank c = false ∧ c ∉ [',', ';', '\x7b', '\x7d']

/-! ## places -/

/-- Whether, at the beginning of a text, the scope stands as a whole member or in front of a blank and
something that does not turn to a sibling. -/
def Continues (rest : List Char) : Prop :=
  ∀ c cs, trimStart rest = c :: cs →
    c = ',' ∨ (c ≠ '+' ∧ c ≠ '~' ∧ ∃ b bs, rest = b :: bs ∧ isBlank b = true)

/-- Whether the text at a place begins with a confined member. -/
def BeginsInside (scope cs : List Char) : Prop :=
  ∃ rest, trimStart cs = scope ++ rest ∧ Continues rest

/-- What the cutting counts at a place: the brackets that are open, those in quotes included.  Behind
the first brace it sees nothing. -/
def nextSight (sight : Option Nat) (c : Char) : Option Nat :=
  match sight with
  | none => none
  | some depth =>
    if c = '\x7b' then none
    else if c = '(' ∨ c = '[' then some (depth + 1)
    else if c = ')' ∨ c = ']' then some (depth - 1)
    else some depth

/-- What the cutting counts behind a text. -/
def sightAfter (sight : Option Nat) (cs : List Char) : Option Nat := cs.foldl nextSight sight

/-- What has to stand where a member begins: no combinator that turns to a sibling if the place is
seen, and a confined member if not. -/
def BeginsWell (scope : List Char) (sight : Option Nat) (cs : List Char) : Prop :=
  if sight = some 0 then ¬ TurnsAside cs else BeginsInside scope cs

/-- Whether all members behind the first begin well. -/
def Follows (scope : List Char) (s : Nesting) (sight : Option Nat) : List Char → Prop
  | [] => True
  | c :: cs =>
    (s = outside → c = ',' → BeginsWell scope sight cs) ∧
      Follows scope (s.next brackets c) (nextSight sight c) cs

/-- Whether all members of a prelude begin well. -/
def Admits (scope prelude : List Char) : Prop :=
  BeginsWell scope (some 0) prelude ∧ Follows scope outside (some 0) prelude

/-! ## blanks -/

theorem trimStart_cons_of_not {c : Char} (h : isBlank c = false) (cs : List Char) :
    trimStart (c :: cs) = c :: cs := by
  rw [trimStart_cons, if_neg (by simp [h])]

/-- Blanks in front do not matter to where a text turns. -/
theorem turnsAside_append_of_blank {bs : List Char} (h : ∀ c ∈ bs, isBlank c = true)
    (cs : List Char) : TurnsAside (bs ++ cs) ↔ TurnsAside cs := by
  rw [TurnsAside, TurnsAside, trimStart_append_of_blank h]

/-- Nor does what stands behind a text that is not blank. -/
theorem turnsAside_append_of_ne_nil {cs : List Char} (h : trimStart cs ≠ []) (ds : List Char) :
    TurnsAside (cs ++ ds) ↔ TurnsAside cs := by
  obtain ⟨c, rest, eq⟩ := List.exists_cons_of_ne_nil h
  rw [TurnsAside, TurnsAside, trimStart_append_of_ne_nil h, eq]
  simp

/-- Blanks do not move a reader of selectors. -/
theorem after_brackets_of_blank {s : Nesting} (hs : IsQuote s.quote) {bs : List Char}
    (h : ∀ c ∈ bs, isBlank c = true) : after brackets s bs = s :=
  after_of_isPlain hs fun c hc => isPlain_brackets_of_isBlank (h c hc)

/-! ## the beginning of a member -/

/-- What may follow a text without changing how its members begin: nothing, or a blank, a comma or a
brace that stands in quotes if it is the first thing behind the blanks. -/
structure Apart (s : Nesting) (cs : List Char) : Prop where
  head : ∀ c rest, cs = c :: rest → isBlank c = true ∨ c ∈ [',', ';', '\x7b', '\x7d']
  first : s.quote = none → ∀ c rest, trimStart cs = c :: rest → c = ','

/-- A scope begins with a dot, so nothing is trimmed in front of it. -/
theorem IsScope.trimStart_append {scope : List Char} (h : IsScope scope) (cs : List Char) :
    trimStart (scope ++ cs) = scope ++ cs := by
  obtain ⟨rest, rfl⟩ := h.begins
  exact trimStart_cons_of_not rfl _

/-- A scope at the beginning of a text stands in front of what is apart from it. -/
theorem IsScope.exists_of_append {scope front cs rest : List Char} {s : Nesting} (h : IsScope scope)
    (apart : Apart s cs) (eq : front ++ cs = scope ++ rest) :
    ∃ rest', front = scope ++ rest' ∧ rest = rest' ++ cs := by
  rcases List.append_eq_append_iff.1 eq with ⟨ds, rfl, e⟩ | ⟨ds, rfl, e⟩
  · cases ds with
    | nil => exact ⟨[], by simp, by simpa using e.symm⟩
    | cons d ds =>
        have plain := h.plain d (by simp)
        rcases apart.head d _ e with blank | stop
        · rw [plain.1] at blank
          cases blank
        · exact absurd stop plain.2
  · exact ⟨ds, rfl, e⟩

/-- How a scope goes on is decided by the first character that is no blank. -/
theorem continues_append_of_ne_nil {rest : List Char} (h : trimStart rest ≠ []) (cs : List Char) :
    Continues (rest ++ cs) ↔ Continues rest := by
  have some : rest ≠ [] := by
    rintro rfl
    exact h rfl
  obtain ⟨b, bs, rfl⟩ := List.exists_cons_of_ne_nil some
  obtain ⟨c, ds, eq⟩ := List.exists_cons_of_ne_nil h
  rw [Continues, Continues, trimStart_append_of_ne_nil h, eq]
  simp

/-- A scope alone, blanks aside, is a whole member. -/
theorem continues_of_blank {rest : List Char} (h : trimStart rest = []) : Continues rest := by
  intro c cs eq
  rw [h] at eq
  cases eq

/-- How a member begins is not up to what is apart from it. -/
theorem beginsInside_append {scope cs ds : List Char} (h : IsScope scope)
    (apart : Apart (after brackets outside cs) ds) :
    BeginsInside scope (cs ++ ds) ↔ BeginsInside scope cs := by
  obtain ⟨tail, dot⟩ := h.begins
  by_cases hcs : trimStart cs = []
  · -- neither text begins with the scope
    have blank := trimStart_eq_nil_iff.1 hcs
    rw [after_brackets_of_blank (.inl rfl) blank] at apart
    rw [BeginsInside, BeginsInside, trimStart_append_of_blank blank, hcs, dot]
    constructor
    · rintro ⟨rest, eq, -⟩
      exact absurd (apart.first rfl _ _ eq) (by decide)
    · rintro ⟨rest, eq, -⟩
      cases eq
  · rw [BeginsInside, BeginsInside, trimStart_append_of_ne_nil hcs]
    constructor
    · rintro ⟨rest, eq, continues⟩
      obtain ⟨rest, front, rfl⟩ := h.exists_of_append apart eq
      refine ⟨rest, front, ?_⟩
      by_cases hrest : trimStart rest = []
      · exact continues_of_blank hrest
      · exact (continues_append_of_ne_nil hrest ds).1 continues
    · rintro ⟨rest, eq, continues⟩
      refine ⟨rest ++ ds, by rw [eq, List.append_assoc], ?_⟩
      by_cases hrest : trimStart rest = []
      · -- the scope alone leads to a place outside quotes
        obtain ⟨bs, split, blank⟩ := exists_blanks_trimStart cs
        have blank' := trimStart_eq_nil_iff.1 hrest
        have same : after brackets outside cs = outside := by
          rw [split, eq, after_append, after_append, after_brackets_of_blank (.inl rfl) blank,
            h.neutral (.inl rfl), after_brackets_of_blank (.inl rfl) blank']
        rw [same] at apart
        intro c tail eq
        rw [trimStart_append_of_blank blank'] at eq
        exact .inl (apart.first rfl c tail eq)
      · exact (continues_append_of_ne_nil hrest ds).2 continues

/-! ## following a text -/

/-- A text in which no place behind a comma is seen. -/
def Unseen : Option Nat → List Char → Prop
  | _, [] => True
  | sight, c :: cs => (c = ',' → sight ≠ some 0) ∧ Unseen (nextSight sight c) cs

/-- Behind its first brace the cutting sees no comma. -/
theorem unseen_none (cs : List Char) : Unseen none cs := by
  induction cs with
  | nil => trivial
  | cons c cs ih => exact ⟨fun _ e => (nomatch e), ih⟩

/-- Behind its first brace the cutting sees nothing up to the end. -/
theorem sightAfter_none (cs : List Char) : sightAfter none cs = none := by
  induction cs with
  | nil => rfl
  | cons c cs ih => exact ih

/-- The members of a text without seen places are confined or not by themselves. -/
theorem follows_append {scope cs ds : List Char} {s : Nesting} {sight : Option Nat} (h : IsScope scope)
    (unseen : Unseen sight cs) (apart : Apart (after brackets s cs) ds) :
    Follows scope s sight (cs ++ ds) ↔
      Follows scope s none cs ∧ Follows scope (after brackets s cs) (sightAfter sight cs) ds := by
  induction cs generalizing s sight with
  | nil => simp [Follows, sightAfter]
  | cons c cs ih =>
      have later := ih unseen.2 apart
      have here (first : s = outside) (comma : c = ',') :
          BeginsWell scope sight (cs ++ ds) ↔ BeginsWell scope none cs := by
        subst first comma
        rw [BeginsWell, BeginsWell, if_neg (unseen.1 rfl), if_neg (by simp)]
        exact beginsInside_append h apart
      rw [List.cons_append, Follows, Follows, later, and_assoc]
      refine and_congr ?_ Iff.rfl
      exact forall_congr' fun first => forall_congr' fun comma => here first comma

/-- A text without commas has no places. -/
theorem follows_append_of_no_comma {scope cs : List Char} (h : ',' ∉ cs) (ds : List Char) (s : Nesting)
    (sight : Option Nat) : Follows scope s sight (cs ++ ds) ↔
      Follows scope (after brackets s cs) (sightAfter sight cs) ds := by
  induction cs generalizing s sight with
  | nil => rfl
  | cons c cs ih =>
      rw [List.mem_cons, not_or] at h
      rw [List.cons_append, Follows, ih h.2]
      simp only [Ne.symm h.1, false_implies, implies_true, true_and]
      rfl

/-! ## members and places -/

/-- A trimmed text is empty or begins with no blank. -/
theorem trimStart_trim_append {cs : List Char} (h : trim cs ≠ []) (ds : List Char) :
    trimStart (trim cs ++ ds) = trim cs ++ ds := by
  obtain ⟨c, rest, eq⟩ := List.exists_cons_of_ne_nil h
  rw [eq]
  exact trimStart_cons_of_not (isBlank_head_trim eq) _

theorem trimStart_trim {cs : List Char} (h : trim cs ≠ []) : trimStart (trim cs) = trim cs := by
  have begins := trimStart_trim_append h []
  rw [List.append_nil] at begins
  exact begins

/-- A text that is not blank turns aside exactly when its trimmed text does. -/
theorem turnsAside_trim {part : List Char} (h : trim part ≠ []) (rest : List Char) :
    TurnsAside (part ++ rest) ↔ TurnsAside (trim part) := by
  obtain ⟨before, behind, eq, blank, -⟩ := exists_blanks_trim part
  have some : trimStart (trim part) ≠ [] := by
    rw [trimStart_trim h]
    exact h
  calc TurnsAside (part ++ rest)
      ↔ TurnsAside (before ++ (trim part ++ (behind ++ rest))) := by
        rw [← List.append_assoc, ← List.append_assoc, List.append_assoc before, ← eq]
    _ ↔ TurnsAside (trim part) := by
        rw [turnsAside_append_of_blank blank, turnsAside_append_of_ne_nil some]

/-- A scope has no blanks. -/
theorem IsScope.trim_eq {scope : List Char} (h : IsScope scope) : trim scope = scope :=
  trim_eq_self_iff.2 ⟨fun c hc => (h.plain c (List.mem_of_mem_head? hc)).1,
    fun c hc => (h.plain c (List.mem_of_mem_getLast? hc)).1⟩

theorem IsScope.ne_nil {scope : List Char} (h : IsScope scope) : scope ≠ [] := by
  obtain ⟨rest, rfl⟩ := h.begins
  exact List.cons_ne_nil _ _

/-- Whether no comma in a text begins a member. -/
def IsSingle (s : Nesting) (cs : List Char) : Prop :=
  ∀ front behind, cs = front ++ ',' :: behind → after brackets s front ≠ outside

/-- No comma follows the scope in a text that is a single member. -/
theorem not_comma_of_isSingle {scope bs rest tail : List Char} (h : IsScope scope)
    (blank : ∀ c ∈ bs, isBlank c = true) (single : IsSingle outside (bs ++ (scope ++ rest))) :
    trimStart rest ≠ ',' :: tail := by
  intro hc
  obtain ⟨gap, eq, blank'⟩ := exists_blanks_trimStart rest
  rw [hc] at eq
  refine single (bs ++ scope ++ gap) tail (by rw [eq]; simp) ?_
  rw [after_append, after_append, after_brackets_of_blank (.inl rfl) blank, h.neutral (.inl rfl),
    after_brackets_of_blank (.inl rfl) blank']

/-- Trimming a text that is the scope, a blank and something else leaves these three. -/
theorem exists_trim_eq_of_scope {scope bs ds : List Char} {b : Char} (h : IsScope scope)
    (blank : ∀ c ∈ bs, isBlank c = true) (some : trim ds ≠ []) :
    ∃ gap, (∀ c ∈ gap, isBlank c = true) ∧
      trim (bs ++ (scope ++ b :: ds)) = scope ++ b :: (gap ++ trim ds) := by
  obtain ⟨gap, behind, eq, blank', blank''⟩ := exists_blanks_trim ds
  have inner : trim (scope ++ (b :: gap) ++ trim ds) = scope ++ (b :: gap) ++ trim ds :=
    trim_append_eq_self (b :: gap) h.trim_eq h.ne_nil (trim_trim ds) some
  have text : bs ++ (scope ++ b :: ds) = bs ++ (scope ++ (b :: gap) ++ trim ds ++ behind) :=
    calc bs ++ (scope ++ b :: ds)
        = bs ++ (scope ++ b :: (gap ++ (trim ds ++ behind))) := by rw [← eq]
      _ = bs ++ (scope ++ (b :: gap) ++ trim ds ++ behind) := by simp
  refine ⟨gap, blank', ?_⟩
  rw [text, trim_append_of_blank blank blank'', inner, List.append_assoc, List.cons_append]

/-- A member that begins confined is confined. -/
theorem isConfined_trim_of_beginsInside {scope cs : List Char} (h : IsScope scope)
    (single : IsSingle outside cs) (begins : BeginsInside scope cs) : IsConfined scope (trim cs) := by
  obtain ⟨rest, eq, continues⟩ := begins
  obtain ⟨bs, split, blank⟩ := exists_blanks_trimStart cs
  rw [eq] at split
  by_cases hrest : trimStart rest = []
  · have whole := trim_append_of_blank blank (trimStart_eq_nil_iff.1 hrest) scope
    rw [split, whole, h.trim_eq]
    exact .inl rfl
  · obtain ⟨c, tail, hc⟩ := List.exists_cons_of_ne_nil hrest
    rcases continues c tail hc with rfl | ⟨plus, tilde, b, ds, rfl, hb⟩
    · exact absurd hc (not_comma_of_isSingle h blank (split ▸ single))
    · rw [trimStart_cons, if_pos hb] at hc hrest
      have some : trim ds ≠ [] := fun none => hrest (trimStart_eq_nil_iff.2 (trim_eq_nil_iff.1 none))
      obtain ⟨gap, blank', shape⟩ := exists_trim_eq_of_scope h blank some
      rw [← split] at shape
      refine .inr ⟨b, gap ++ trim ds, shape, hb, ?_, ?_⟩
      · rw [trimStart_append_of_blank blank', trimStart_trim some]
        exact some
      · rw [turnsAside_append_of_blank blank', ← turnsAside_trim some [], List.append_nil]
        rintro ⟨d, tail', hd, aside⟩
        rw [hc] at hd
        cases hd
        exact aside.elim plus tilde

/-- A member that is confined begins so; what stands behind it does not matter. -/
theorem beginsInside_of_isConfined_trim {scope cs : List Char} (h : IsScope scope)
    (confined : IsConfined scope (trim cs)) : BeginsInside scope cs := by
  obtain ⟨bs, behind, split, blank, blank'⟩ := exists_blanks_trim cs
  rw [BeginsInside, split, trimStart_append_of_blank blank]
  rcases confined with eq | ⟨c, rest, eq, hc, some, straight⟩
  · rw [eq, h.trimStart_append]
    exact ⟨behind, rfl, continues_of_blank (trimStart_eq_nil_iff.2 blank')⟩
  · rw [eq, List.append_assoc, h.trimStart_append]
    refine ⟨c :: (rest ++ behind), rfl, ?_⟩
    intro d tail hd
    rw [trimStart_cons, if_pos hc, trimStart_append_of_ne_nil some] at hd
    obtain ⟨e, ds, he⟩ := List.exists_cons_of_ne_nil some
    rw [he, List.cons_append, List.cons.injEq] at hd
    obtain ⟨rfl, -⟩ := hd
    refine .inr ⟨?_, ?_, c, rest ++ behind, rfl, hc⟩
    · exact fun plus => straight ⟨e, ds, he, .inl plus⟩
    · exact fun tilde => straight ⟨e, ds, he, .inr tilde⟩

/-- A text is its first member, and then nothing or a comma and more. -/
theorem exists_member (s : Nesting) (cs : List Char) :
    ∃ member rest tail, membersFrom s cs = member :: rest ∧ cs = member ++ tail ∧
      IsSingle s member ∧ (tail = [] ∨ after brackets s member = outside ∧ ∃ ds, tail = ',' :: ds) := by
  induction cs generalizing s with
  | nil => exact ⟨[], [], [], rfl, rfl, by simp [IsSingle], .inl rfl⟩
  | cons c cs ih =>
      unfold membersFrom
      by_cases cut : s = outside ∧ c = ','
      · rw [if_pos cut]
        exact ⟨[], _, c :: cs, rfl, rfl, by simp [IsSingle], .inr ⟨cut.1, cs, by rw [cut.2]⟩⟩
      · rw [if_neg cut]
        obtain ⟨member, rest, tail, eq, split, single, stop⟩ := ih (s.next brackets c)
        rw [eq]
        refine ⟨c :: member, rest, tail, rfl, by rw [split, List.cons_append], ?_, stop⟩
        intro front behind comma
        cases front with
        | nil => exact fun first => cut ⟨first, (List.cons.inj comma).1⟩
        | cons d front =>
            obtain ⟨rfl, rfl⟩ := List.cons.inj comma
            exact single front behind rfl

/-- A comma does not change how the member in front of it begins. -/
theorem apart_comma (s : Nesting) (cs : List Char) : Apart s (',' :: cs) where
  head c rest eq := by
    obtain ⟨rfl, -⟩ := List.cons.inj eq
    exact .inr (by decide)
  first _ c rest eq := by
    rw [trimStart_cons_of_not rfl] at eq
    exact (List.cons.inj eq).1.symm

/-- The first member of a text is confined if it begins so. -/
theorem isConfined_first_iff {scope cs member : List Char} {rest : List (List Char)} (h : IsScope scope)
    (eq : membersFrom outside cs = member :: rest) :
    IsConfined scope (trim member) ↔ BeginsInside scope cs := by
  obtain ⟨first, _, tail, eq', rfl, single, stop⟩ := exists_member outside cs
  rw [eq] at eq'
  obtain ⟨rfl, -⟩ := List.cons.inj eq'
  have alone : BeginsInside scope (member ++ tail) ↔ BeginsInside scope member := by
    rcases stop with rfl | ⟨-, ds, rfl⟩
    · rw [List.append_nil]
    · exact beginsInside_append h (apart_comma _ ds)
  rw [alone]
  exact ⟨beginsInside_of_isConfined_trim h, isConfined_trim_of_beginsInside h single⟩

/-- All members behind the first are confined if they begin so. -/
theorem follows_iff_forall_isConfined {scope : List Char} (h : IsScope scope) (s : Nesting)
    (cs : List Char) : Follows scope s none cs ↔
      ∀ member ∈ (membersFrom s cs).tail, IsConfined scope (trim member) := by
  induction cs generalizing s with
  | nil => simp [Follows, membersFrom]
  | cons c cs ih =>
      rw [Follows, nextSight, ih, membersFrom]
      by_cases cut : s = outside ∧ c = ','
      · obtain ⟨rfl, rfl⟩ := cut
        rw [if_pos ⟨rfl, rfl⟩, List.tail_cons]
        obtain ⟨member, rest, -, eq, -⟩ := exists_member outside cs
        have same : outside.next brackets ',' = outside := rfl
        rw [same, eq, List.tail_cons, List.forall_mem_cons, isConfined_first_iff h eq]
        simp [BeginsWell]
      · rw [if_neg cut]
        obtain ⟨member, rest, -, eq, -⟩ := exists_member (s.next brackets c) cs
        rw [eq]
        refine and_iff_right_iff_imp.2 fun _ first comma => absurd ⟨first, comma⟩ cut

/-- All members are confined if they begin so. -/
theorem forall_isConfined_iff {scope cs : List Char} (h : IsScope scope) :
    (∀ member ∈ members cs, IsConfined scope member) ↔
      BeginsInside scope cs ∧ Follows scope outside none cs := by
  obtain ⟨member, rest, -, eq, -⟩ := exists_member outside cs
  rw [follows_iff_forall_isConfined h, members, List.forall_mem_map, eq, List.forall_mem_cons,
    isConfined_first_iff h eq, List.tail_cons]

end Pagewright.Css
