import Mathlib.Data.List.TakeWhile
import Pagewright.Proofs.Text.Words
import Pagewright.Template.Scan

/-!
# Pagewright.Proofs.Template.Tags

The tags of a template.  `Tag.IsWritten` says how a tag may be written: braces, a mark and a key, with
blanks anywhere between them.  The reader takes a tag in any of these writings, whatever follows it
(`tag?_append`), and nothing else (`exists_of_tag?`), so that a text begins with one tag at most
(`Tag.IsWritten.unique`).
-/

namespace Pagewright.Template

open Text

/-! ## the writing of tags -/

namespace Tag

/-- The key of a tag. -/
def key : Tag → List Char
  | .insert key _ => key
  | .openBlock key _ => key
  | .closeBlock key => key

/-- What stands in front of the key of a tag that opens or closes a block. -/
def mark : Tag → List Char
  | .insert _ _ => []
  | .openBlock _ false => ['#']
  | .openBlock _ true => ['^']
  | .closeBlock _ => ['/']

/-- Whether a tag inserts a value as it is. -/
def isRaw : Tag → Bool
  | .insert _ raw => raw
  | _ => false

/-- The braces in front of a tag. -/
def opening (tag : Tag) : List Char :=
  if tag.isRaw then ['\x7b', '\x7b', '\x7b'] else ['\x7b', '\x7b']

/-- The braces behind a tag. -/
def closing (tag : Tag) : List Char :=
  if tag.isRaw then ['\x7d', '\x7d', '\x7d'] else ['\x7d', '\x7d']

end Tag

/-- A row of characters of keys. -/
def IsKey (key : List Char) : Prop := key ≠ [] ∧ ∀ c ∈ key, isKeyChar c = true

/-- A row of blanks. -/
def AreBlank (cs : List Char) : Prop := ∀ c ∈ cs, isBlank c = true

/-- How a tag may be written: braces around the mark and the key, with blanks anywhere between them. -/
inductive Tag.IsWritten (tag : Tag) : List Char → Prop
  | intro {before between behind : List Char} (isKey : IsKey tag.key) (blank : AreBlank before)
      (blank' : AreBlank between) (blank'' : AreBlank behind) :
      IsWritten tag
        (tag.opening ++ (before ++ (tag.mark ++ (between ++ (tag.key ++ (behind ++ tag.closing))))))

theorem areBlank_nil : AreBlank [] := List.forall_mem_nil _

theorem AreBlank.append {cs ds : List Char} (h : AreBlank cs) (h' : AreBlank ds) :
    AreBlank (cs ++ ds) :=
  fun c mem => (List.mem_append.1 mem).elim (h c) (h' c)

/-- Blanks stand in no key. -/
theorem isKeyChar_of_isBlank {c : Char} (h : isBlank c = true) : isKeyChar c = false :=
  eq_false_of_isBlank (by decide +kernel) h

/-- No character of a key is a blank. -/
theorem isBlank_of_isKeyChar {c : Char} (h : isKeyChar c = true) : isBlank c = false :=
  isBlank_eq_false (by decide +kernel) h

theorem ne_of_isKeyChar {c d : Char} (h : isKeyChar c = true) (hd : isKeyChar d = false) : c ≠ d := by
  rintro rfl
  rw [hd] at h
  cases h

theorem IsKey.exists_cons {key : List Char} (h : IsKey key) :
    ∃ c cs, key = c :: cs ∧ isKeyChar c = true := by
  obtain ⟨c, cs, rfl⟩ := List.exists_cons_of_ne_nil h.1
  exact ⟨c, cs, rfl, h.2 c List.mem_cons_self⟩

/-! ## reading a tag -/

/-- The blanks in front of a key are dropped, and no more. -/
theorem dropWhile_of_isKey {key before : List Char} (isKey : IsKey key) (blank : AreBlank before)
    (rest : List Char) : (before ++ (key ++ rest)).dropWhile isBlank = key ++ rest := by
  obtain ⟨c, cs, rfl, hc⟩ := isKey.exists_cons
  refine (takeWhile_dropWhile_append blank fun d hd => ?_).2
  cases hd
  exact isBlank_of_isKeyChar hc

/-- A key between blanks is read up to a character that is neither. -/
theorem key?_append {key before behind rest : List Char} {c : Char} (isKey : IsKey key)
    (blank : AreBlank before) (blank' : AreBlank behind) (noBlank : isBlank c = false)
    (noKey : isKeyChar c = false) :
    key? (before ++ (key ++ (behind ++ c :: rest))) = some (key, c :: rest) := by
  have front : ∀ d ∈ (behind ++ c :: rest).head?, isKeyChar d = false := by
    intro d hd
    cases behind with
    | nil =>
        cases hd
        exact noKey
    | cons b behind =>
        cases hd
        exact isKeyChar_of_isBlank (blank' d List.mem_cons_self)
  obtain ⟨taken, dropped⟩ := takeWhile_dropWhile_append isKey.2 front
  have behindKey : (behind ++ c :: rest).dropWhile isBlank = c :: rest := by
    refine (takeWhile_dropWhile_append blank' fun d hd => ?_).2
    cases hd
    exact noBlank
  simp only [key?, dropWhile_of_isKey isKey blank, taken, dropped, behindKey]
  simp [isKey.1]

/-- What is read as a key is one, between blanks. -/
theorem exists_of_key? {cs key rest : List Char} (h : key? cs = some (key, rest)) :
    ∃ before behind, cs = before ++ (key ++ (behind ++ rest)) ∧ IsKey key ∧ AreBlank before ∧
      AreBlank behind := by
  simp only [key?, Option.ite_none_left_eq_some, Option.some.injEq, Prod.mk.injEq] at h
  obtain ⟨ne, rfl, rfl⟩ := h
  refine ⟨cs.takeWhile isBlank, ((cs.dropWhile isBlank).dropWhile isKeyChar).takeWhile isBlank,
    ?_, ⟨by simpa using ne, fun c hc => List.mem_takeWhile_imp hc⟩,
    fun c hc => List.mem_takeWhile_imp hc, fun c hc => List.mem_takeWhile_imp hc⟩
  simp only [List.takeWhile_append_dropWhile]

/-- A key right behind the braces makes a tag that inserts. -/
theorem sigil_of_isKeyChar {c : Char} (h : isKeyChar c = true) (cs : List Char) :
    sigil (c :: cs) = ((.insert · false), c :: cs) := by
  have noHash : c ≠ '#' := ne_of_isKeyChar h (by decide)
  have noCaret : c ≠ '^' := ne_of_isKeyChar h (by decide)
  have noSlash : c ≠ '/' := ne_of_isKeyChar h (by decide)
  unfold sigil
  split <;> simp_all

/-- A tag in double braces is read whatever follows. -/
theorem plainTag?_append {tag : Tag} (plain : tag.isRaw = false)
    {before between behind : List Char} (isKey : IsKey tag.key) (blank : AreBlank before)
    (blank' : AreBlank between) (blank'' : AreBlank behind) (rest : List Char) :
    plainTag? ('\x7b' :: '\x7b' ::
      (before ++ (tag.mark ++ (between ++ (tag.key ++ (behind ++ '\x7d' :: '\x7d' :: rest)))))) =
        some (tag, rest) := by
  have read {front : List Char} (hfront : AreBlank front) :
      key? (front ++ (tag.key ++ (behind ++ '\x7d' :: '\x7d' :: rest))) =
        some (tag.key, '\x7d' :: '\x7d' :: rest) :=
    key?_append isKey hfront blank'' (by decide) (by decide)
  have marked {m : Char} (noBlank : isBlank m = false) (cs : List Char) :
      (before ++ m :: cs).dropWhile isBlank = m :: cs := by
    refine (takeWhile_dropWhile_append blank fun d hd => ?_).2
    cases hd
    exact noBlank
  cases tag with
  | insert key raw =>
      obtain rfl : raw = false := plain
      -- there is no mark, so the blanks on both sides of it are one row
      obtain ⟨c, cs, eq, hc⟩ := isKey.exists_cons
      have none := read areBlank_nil
      rw [List.nil_append] at none
      simp only [plainTag?, Tag.mark, List.nil_append]
      rw [← List.append_assoc before, dropWhile_of_isKey isKey (blank.append blank'), eq, List.cons_append,
        sigil_of_isKeyChar hc, ← List.cons_append, ← eq, none]
      rfl
  | openBlock key inverted =>
      cases inverted with
      | false =>
          simp only [plainTag?, Tag.mark, List.singleton_append, marked (m := '#') rfl, sigil, read blank']
          rfl
      | true =>
          simp only [plainTag?, Tag.mark, List.singleton_append, marked (m := '^') rfl, sigil, read blank']
          rfl
  | closeBlock key =>
      simp only [plainTag?, Tag.mark, List.singleton_append, marked (m := '/') rfl, sigil, read blank']
      rfl

/-- Only a tag that inserts can be raw. -/
theorem isRaw_eq_true_iff {tag : Tag} : tag.isRaw = true ↔ tag = .insert tag.key true := by
  cases tag <;> simp [Tag.isRaw, Tag.key]

/-- A tag is braces and what has no opening brace. -/
theorem Tag.IsWritten.exists_body {tag : Tag} {source : List Char} (h : tag.IsWritten source) :
    ∃ body last, source = tag.opening ++ (body ++ [last]) ∧ last = '\x7d' ∧ '\x7b' ∉ body := by
  obtain ⟨isKey, blank, blank', blank''⟩ := h
  rename_i before between behind
  have noBlank {cs : List Char} (h : AreBlank cs) : '\x7b' ∉ cs := fun mem => absurd (h _ mem) (by decide)
  have noKey : '\x7b' ∉ tag.key := fun mem => absurd (isKey.2 _ mem) (by decide)
  have noMark : '\x7b' ∉ tag.mark := by
    cases tag with
    | insert | closeBlock => simp [Tag.mark]
    | openBlock key inverted => cases inverted <;> simp [Tag.mark]
  refine ⟨before ++ (tag.mark ++ (between ++ (tag.key ++ (behind ++ tag.closing.dropLast)))), '\x7d',
    ?_, rfl, ?_⟩
  · have last : tag.closing = tag.closing.dropLast ++ ['\x7d'] := by
      unfold closing
      split <;> rfl
    simp only [List.append_assoc, ← last]
  · have noClosing : '\x7b' ∉ tag.closing.dropLast := by
      unfold closing
      split <;> decide
    simp only [List.mem_append, not_or]
    exact ⟨noBlank blank, noMark, noBlank blank', noKey, noBlank blank'', noClosing⟩

/-- A raw tag begins with three braces. -/
theorem rawTag?_eq_none {c : Char} (h : c ≠ '\x7b') (cs : List Char) :
    rawTag? ('\x7b' :: '\x7b' :: c :: cs) = none := by
  unfold rawTag?
  split
  · next eq =>
    simp only [List.cons.injEq, true_and] at eq
    exact absurd eq.1 h
  · rfl

/-- A tag is read whatever follows. -/
theorem tag?_append {tag : Tag} {source : List Char} (h : tag.IsWritten source) (rest : List Char) :
    tag? (source ++ rest) = some (tag, source.length) := by
  have width (read : (rawTag? (source ++ rest) <|> plainTag? (source ++ rest)) = some (tag, rest)) :
      tag? (source ++ rest) = some (tag, source.length) := by
    rw [tag?, read]
    simp
  apply width
  cases raw : tag.isRaw with
  | true =>
      obtain ⟨isKey, blank, blank', blank''⟩ := h
      rename_i before between behind
      rw [isRaw_eq_true_iff] at raw
      generalize tag.key = key at raw isKey
      subst raw
      have read : key? ((before ++ between) ++ (key ++ (behind ++ '\x7d' :: '\x7d' :: '\x7d' :: rest))) =
          some (key, '\x7d' :: '\x7d' :: '\x7d' :: rest) :=
        key?_append isKey (blank.append blank') blank'' (by decide) (by decide)
      rw [List.append_assoc] at read
      simp only [Tag.opening, Tag.closing, Tag.mark, Tag.isRaw, if_true, List.append_assoc,
        List.cons_append, List.nil_append, rawTag?, read]
      rfl
  | false =>
      have noRaw : rawTag? (source ++ rest) = none := by
        obtain ⟨body, last, rfl, rfl, new⟩ := h.exists_body
        simp only [Tag.opening, raw, List.append_assoc]
        cases body with
        | nil => exact rawTag?_eq_none (by decide) _
        | cons c body => exact rawTag?_eq_none (fun e => new (e ▸ List.mem_cons_self)) _
      obtain ⟨isKey, blank, blank', blank''⟩ := h
      rename_i before between behind
      have read := plainTag?_append raw isKey blank blank' blank'' rest
      rw [noRaw]
      simp only [Tag.opening, Tag.closing, raw, Bool.false_eq_true, if_false, List.append_assoc,
        List.cons_append, List.nil_append]
      exact read

/-- What is taken off in front of a key is the mark of its tag. -/
theorem exists_of_sigil (cs key : List Char) :
    let tag := (sigil cs).1 key
    tag.key = key ∧ tag.isRaw = false ∧ cs = tag.mark ++ (sigil cs).2 := by
  unfold sigil
  split <;> exact ⟨rfl, rfl, rfl⟩

/-- What is read as a raw tag is written as a tag. -/
theorem exists_of_rawTag? {cs rest : List Char} {tag : Tag} (h : rawTag? cs = some (tag, rest)) :
    ∃ source, cs = source ++ rest ∧ tag.IsWritten source := by
  unfold rawTag? at h
  split at h
  · next ds =>
    split at h
    · next key _ eq =>
      cases h
      obtain ⟨before, behind, rfl, isKey, blank, blank'⟩ := exists_of_key? eq
      have written : (Tag.insert key true).IsWritten _ := .intro isKey blank areBlank_nil blank'
      exact ⟨_, by simp [Tag.opening, Tag.closing, Tag.mark, Tag.key, Tag.isRaw], written⟩
    · cases h
  · cases h

/-- What is read as a tag in double braces is written as a tag. -/
theorem exists_of_plainTag? {cs rest : List Char} {tag : Tag} (h : plainTag? cs = some (tag, rest)) :
    ∃ source, cs = source ++ rest ∧ tag.IsWritten source := by
  unfold plainTag? at h
  split at h
  · next ds =>
    simp only at h
    split at h
    · next key _ eq =>
      cases h
      obtain ⟨sameKey, noRaw, marked⟩ := exists_of_sigil (ds.dropWhile isBlank) key
      obtain ⟨before, behind, later, isKey, blank, blank'⟩ := exists_of_key? eq
      have front : AreBlank (ds.takeWhile isBlank) := fun c hc => List.mem_takeWhile_imp hc
      have written : ((sigil (ds.dropWhile isBlank)).1 key).IsWritten _ :=
        .intro (by rwa [sameKey]) front blank blank'
      refine ⟨_, ?_, written⟩
      have whole : ds = ds.takeWhile isBlank ++ ds.dropWhile isBlank :=
        List.takeWhile_append_dropWhile.symm
      rw [later] at marked
      rw [marked] at whole
      simp only [Tag.opening, Tag.closing, noRaw, sameKey, Bool.false_eq_true, if_false, List.append_assoc,
        List.cons_append, List.nil_append, ← whole]
    · cases h
  · cases h

/-- What is read as a tag is written as one. -/
theorem exists_of_tag? {cs : List Char} {tag : Tag} {width : Nat} (h : tag? cs = some (tag, width)) :
    ∃ source rest, cs = source ++ rest ∧ width = source.length ∧ tag.IsWritten source := by
  simp only [tag?, Option.map_eq_some_iff, Prod.mk.injEq] at h
  obtain ⟨⟨read, rest⟩, found, rfl, rfl⟩ := h
  have cut : ∃ source, cs = source ++ rest ∧ read.IsWritten source := by
    cases raw : rawTag? cs with
    | none =>
        rw [raw] at found
        exact exists_of_plainTag? found
    | some pair =>
        rw [raw] at found
        cases found
        exact exists_of_rawTag? raw
  obtain ⟨source, rfl, written⟩ := cut
  exact ⟨source, rest, rfl, by simp, written⟩

/-- A text begins with no more than one tag. -/
theorem Tag.IsWritten.unique {tag tag' : Tag} {source source' rest rest' : List Char}
    (h : tag.IsWritten source) (h' : tag'.IsWritten source')
    (eq : source ++ rest = source' ++ rest') : tag = tag' ∧ source = source' ∧ rest = rest' := by
  have read := tag?_append h rest
  rw [eq, tag?_append h' rest', Option.some.injEq, Prod.mk.injEq] at read
  obtain ⟨rfl, width⟩ := read
  obtain ⟨rfl, rfl⟩ := List.append_inj eq width.symm
  exact ⟨rfl, rfl, rfl⟩

/-- Whether a text begins with a tag. -/
def BeginsWithTag (cs : List Char) : Prop :=
  ∃ (tag : Tag) (source : List Char), tag.IsWritten source ∧ source <+: cs

/-- The scanner finds a tag at a place exactly when one begins there. -/
theorem beginsWithTag_iff {cs : List Char} : BeginsWithTag cs ↔ tag? cs ≠ none := by
  constructor
  · rintro ⟨tag, source, written, rest, rfl⟩
    rw [tag?_append written]
    exact Option.some_ne_none _
  · intro some
    obtain ⟨⟨tag, width⟩, found⟩ := Option.ne_none_iff_exists'.1 some
    obtain ⟨source, rest, rfl, -, written⟩ := exists_of_tag? found
    exact ⟨tag, source, written, rest, rfl⟩

end Pagewright.Template
