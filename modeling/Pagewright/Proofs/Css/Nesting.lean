import Pagewright.Css.Item
import Pagewright.Proofs.Text.Trim

/-!
# Pagewright.Proofs.Css.Nesting

Where a reader of CSS stands inside a text: how many brackets of some kind are open, and which quote.
Brackets in quotes do not count.  The cutting of a sheet into items is such a reading with braces, the
cutting of a selector list one with round and square brackets.

* `itemsFrom_append_of_held` — as long as no item ends, a text only moves the reader;
* `held_deeper` — what stays inside an item does so inside a block as well.
-/

namespace Pagewright.Css

open Text

/-! ## quotes -/

/-- The quote that is open behind a character, given the one that is open in front of it. -/
def nextQuote (quote : Option Char) (c : Char) : Option Char :=
  match quote with
  | some q => if c = q then none else some q
  | none => if c = '\'' ∨ c = '"' then some c else none

/-- The quote that is open behind a text. -/
def quoteAfter (quote : Option Char) (cs : List Char) : Option Char := cs.foldl nextQuote quote

/-- No quote, or one of the two. -/
def IsQuote (quote : Option Char) : Prop :=
  quote = none ∨ quote = some '\'' ∨ quote = some '"'

/-- Only the two quotes are ever opened. -/
theorem isQuote_nextQuote {quote : Option Char} (h : IsQuote quote) (c : Char) :
    IsQuote (nextQuote quote c) := by
  unfold nextQuote
  rcases h with rfl | rfl | rfl <;> simp only [IsQuote] <;> split <;> simp_all

/-- A character that is no quote leaves the open quote as it is. -/
theorem nextQuote_of_ne {quote : Option Char} (h : IsQuote quote) {c : Char} (single : c ≠ '\'')
    (double : c ≠ '"') : nextQuote quote c = quote := by
  rcases h with rfl | rfl | rfl <;> simp [nextQuote, single, double]

/-! ## nesting -/

/-- A kind of brackets: the characters that open them, and those that close them. -/
structure Brackets where
  opening : List Char
  closing : List Char

/-- The brackets of blocks. -/
def braces : Brackets := ⟨['\x7b'], ['\x7d']⟩

/-- The brackets of selectors. -/
def brackets : Brackets := ⟨['(', '['], [')', ']']⟩

/-- Where a reader stands: the number of open brackets, and the open quote. -/
structure Nesting where
  depth : Nat
  quote : Option Char
  deriving DecidableEq

namespace Nesting

/-- Outside all brackets and quotes. -/
def outside : Nesting := ⟨0, none⟩

/-- The nesting behind a character. -/
def next (b : Brackets) (s : Nesting) (c : Char) : Nesting :=
  { depth :=
      if s.quote.isSome then s.depth
      else if c ∈ b.opening then s.depth + 1
      else if c ∈ b.closing then s.depth - 1
      else s.depth
    quote := nextQuote s.quote c }

/-- The nesting behind a text. -/
def after (b : Brackets) (s : Nesting) (cs : List Char) : Nesting := cs.foldl (next b) s

/-- One more bracket around everything. -/
def deeper (s : Nesting) : Nesting := ⟨s.depth + 1, s.quote⟩

@[simp] theorem after_nil (b : Brackets) (s : Nesting) : after b s [] = s := rfl

@[simp] theorem after_cons (b : Brackets) (s : Nesting) (c : Char) (cs : List Char) :
    after b s (c :: cs) = after b (s.next b c) cs := rfl

/-- Reading two texts is reading the second from where the first leaves the reader. -/
@[simp] theorem after_append (b : Brackets) (s : Nesting) (cs ds : List Char) :
    after b s (cs ++ ds) = after b (after b s cs) ds := by
  simp [after]

@[simp] theorem quote_next (b : Brackets) (s : Nesting) (c : Char) :
    (s.next b c).quote = nextQuote s.quote c := rfl

/-- The quotes do not depend on the brackets, so they can be followed on their own. -/
theorem quote_after (b : Brackets) (s : Nesting) (cs : List Char) :
    (after b s cs).quote = quoteAfter s.quote cs := by
  induction cs generalizing s with
  | nil => rfl
  | cons c cs ih => rw [after_cons, ih, quote_next]; rfl

/-- In particular behind a text that is read from outside. -/
theorem quoteAfter_eq_of_after {b : Brackets} {s : Nesting} {cs : List Char} (h : after b outside cs = s) :
    quoteAfter none cs = s.quote :=
  (quote_after b outside cs).symm.trans (congrArg Nesting.quote h)

theorem isQuote_after {b : Brackets} {s : Nesting} (h : IsQuote s.quote) (cs : List Char) :
    IsQuote (after b s cs).quote := by
  induction cs generalizing s with
  | nil => exact h
  | cons c cs ih => exact ih (isQuote_nextQuote h c)

end Nesting

open Nesting

/-! ## characters that move nobody -/

/-- A character that is neither a bracket nor a quote. -/
def Brackets.IsPlain (b : Brackets) (c : Char) : Prop :=
  c ∉ b.opening ∧ c ∉ b.closing ∧ c ≠ '\'' ∧ c ≠ '"'

/-- A plain character does not move the reader. -/
theorem next_of_isPlain {b : Brackets} {s : Nesting} {c : Char} (hs : IsQuote s.quote)
    (h : b.IsPlain c) : s.next b c = s := by
  obtain ⟨noOpening, noClosing, single, double⟩ := h
  unfold Nesting.next
  rw [nextQuote_of_ne hs single double]
  simp [noOpening, noClosing]

/-- Nor does a text of such characters. -/
theorem after_of_isPlain {b : Brackets} {s : Nesting} {cs : List Char} (hs : IsQuote s.quote)
    (h : ∀ c ∈ cs, b.IsPlain c) : after b s cs = s := by
  induction cs with
  | nil => rfl
  | cons c cs ih =>
      rw [after_cons, next_of_isPlain hs (h c (by simp))]
      exact ih fun d hd => h d (by simp [hd])

/-- A blank differs from every character that is none. -/
theorem ne_of_isBlank {c d : Char} (h : isBlank c = true) (hd : isBlank d = false) : c ≠ d := by
  rintro rfl
  rw [hd] at h
  cases h

/-- Blanks are plain for blocks. -/
theorem isPlain_braces_of_isBlank {c : Char} (h : isBlank c = true) : braces.IsPlain c := by
  refine ⟨?_, ?_, ne_of_isBlank h rfl, ne_of_isBlank h rfl⟩
  · exact fun m => ne_of_isBlank h rfl (List.mem_singleton.1 m)
  · exact fun m => ne_of_isBlank h rfl (List.mem_singleton.1 m)

/-- Blanks are plain for selectors. -/
theorem isPlain_brackets_of_isBlank {c : Char} (h : isBlank c = true) : brackets.IsPlain c := by
  have new {d : Char} (hd : isBlank d = false) : c ≠ d := ne_of_isBlank h hd
  refine ⟨?_, ?_, new rfl, new rfl⟩
  · simp [brackets, new (d := '(') rfl, new (d := '[') rfl]
  · simp [brackets, new (d := ')') rfl, new (d := ']') rfl]

/-- Blanks around a text do not move a reader who stays where he is at every blank. -/
theorem after_trim {b : Brackets} (hb : ∀ c, isBlank c = true → b.IsPlain c) {s : Nesting}
    (hs : IsQuote s.quote) (cs : List Char) : after b s (trim cs) = after b s cs := by
  obtain ⟨before, behind, eq, blank, blank'⟩ := exists_blanks_trim cs
  have still : after b (after b s (trim cs)) behind = after b s (trim cs) :=
    after_of_isPlain (isQuote_after hs _) fun c hc => hb c (blank' c hc)
  calc after b s (trim cs)
      = after b s (trim cs ++ behind) := by rw [after_append, still]
    _ = after b s (before ++ (trim cs ++ behind)) := by
        rw [after_append b s before, after_of_isPlain hs fun c hc => hb c (blank c hc)]
    _ = after b s cs := by rw [← eq]

/-! ## staying inside an item -/

/-- Whether an item ends at a character: with the brace that closes its block, with a brace that closes
nothing, or with a semicolon outside all braces. -/
def EndsItem (s : Nesting) (c : Char) : Prop :=
  s.quote = none ∧ (c = '\x7d' ∧ s.depth ≤ 1 ∨ c = ';' ∧ s.depth = 0)

/-- Whether no item ends inside a text. -/
def Held : Nesting → List Char → Prop
  | _, [] => True
  | s, c :: cs => ¬ EndsItem s c ∧ Held (s.next braces c) cs

/-- A text is held if its parts are, each from where the reader stands there. -/
theorem held_append {s : Nesting} {cs ds : List Char} :
    Held s (cs ++ ds) ↔ Held s cs ∧ Held (after braces s cs) ds := by
  induction cs generalizing s with
  | nil => simp [Held]
  | cons c cs ih => simp only [List.cons_append, Held, after_cons, ih, and_assoc]

/-- No item ends at a blank. -/
theorem not_endsItem_of_isBlank {s : Nesting} {c : Char} (h : isBlank c = true) : ¬ EndsItem s c := by
  rintro ⟨-, ⟨rfl, -⟩ | ⟨rfl, -⟩⟩ <;> cases h

/-- Blanks are held wherever they stand. -/
theorem held_of_isBlank {s : Nesting} {cs : List Char} (hs : IsQuote s.quote)
    (h : ∀ c ∈ cs, isBlank c = true) : Held s cs := by
  induction cs with
  | nil => trivial
  | cons c cs ih =>
      have hc := h c (by simp)
      refine ⟨not_endsItem_of_isBlank hc, ?_⟩
      rw [next_of_isPlain hs (isPlain_braces_of_isBlank hc)]
      exact ih fun d hd => h d (by simp [hd])

/-- One step of the cutting of items, where none ends. -/
theorem itemsFrom_cons_of_not_endsItem {s : Nesting} {c : Char} (h : ¬ EndsItem s c)
    (current cs : List Char) :
    itemsFrom s.depth s.quote current (c :: cs) =
      itemsFrom (s.next braces c).depth (s.next braces c).quote (c :: current) cs := by
  obtain ⟨depth, quote⟩ := s
  cases quote with
  | some q => simp [itemsFrom, Nesting.next, nextQuote]
  | none =>
      by_cases hq : c = '\'' ∨ c = '"'
      · have noOpening : c ≠ '\x7b' := by rcases hq with rfl | rfl <;> decide
        have noClosing : c ≠ '\x7d' := by rcases hq with rfl | rfl <;> decide
        simp [itemsFrom, Nesting.next, nextQuote, braces, hq, noOpening, noClosing]
      · by_cases ho : c = '\x7b'
        · simp [itemsFrom, Nesting.next, nextQuote, braces, ho]
        · by_cases hc : c = '\x7d'
          · have deep : ¬ depth ≤ 1 := fun le => h ⟨rfl, .inl ⟨hc, le⟩⟩
            obtain ⟨d, rfl⟩ : ∃ d, depth = d + 2 := ⟨depth - 2, by omega⟩
            simp [itemsFrom, Nesting.next, nextQuote, braces, hc]
          · have inside : ¬ (c = ';' ∧ depth = 0) := fun e => h ⟨rfl, .inr e⟩
            simp [itemsFrom, Nesting.next, nextQuote, braces, hq, ho, hc, inside]

/-- A text in which no item ends is read into the item at hand. -/
theorem itemsFrom_append_of_held {s : Nesting} {cs : List Char} (h : Held s cs)
    (current ds : List Char) :
    itemsFrom s.depth s.quote current (cs ++ ds) =
      itemsFrom (after braces s cs).depth (after braces s cs).quote (cs.reverse ++ current) ds := by
  induction cs generalizing s current with
  | nil => rfl
  | cons c cs ih =>
      rw [List.cons_append, itemsFrom_cons_of_not_endsItem h.1, ih h.2, after_cons]
      simp

/-- One brace around everything makes no difference to a step that does not end the item. -/
theorem next_deeper {s : Nesting} {c : Char} (h : ¬ EndsItem s c) :
    s.deeper.next braces c = (s.next braces c).deeper := by
  obtain ⟨depth, quote⟩ := s
  unfold deeper Nesting.next
  simp only [Nesting.mk.injEq, and_true]
  cases quote with
  | some q => rfl
  | none =>
      by_cases hc : c = '\x7d'
      · have deep : ¬ depth ≤ 1 := fun le => h ⟨rfl, .inl ⟨hc, le⟩⟩
        simp [hc, braces]
        omega
      · simp [hc, braces]
        split <;> rfl

/-- What stays inside an item does so with one more brace around it. -/
theorem held_deeper {s : Nesting} {cs : List Char} (h : Held s cs) :
    Held s.deeper cs ∧ after braces s.deeper cs = (after braces s cs).deeper := by
  induction cs generalizing s with
  | nil => exact ⟨trivial, rfl⟩
  | cons c cs ih =>
      obtain ⟨stays, rest⟩ := h
      have step := next_deeper stays
      refine ⟨⟨?_, ?_⟩, ?_⟩
      · rintro ⟨noQuote, ⟨close, le⟩ | ⟨-, zero⟩⟩
        · have shallow : s.depth ≤ 1 := by simp only [deeper] at le; omega
          exact stays ⟨noQuote, .inl ⟨close, shallow⟩⟩
        · simp [deeper] at zero
      · rw [step]
        exact (ih rest).1
      · rw [after_cons, step, (ih rest).2, after_cons]

end Pagewright.Css
