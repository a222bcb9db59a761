import Mathlib.Data.List.Forall2
import Pagewright.Proofs.Template.Tags
import Pagewright.Template.Print

/-!
# Pagewright.Proofs.Template.Pieces

The pieces of a template.  `Scans` says that the tags of a template are found from left to right, none
inside another, and that the rest is text; this is what `scan` does (`scans_iff`).  A template can be cut
between two pieces (`Scans.of_append`), and its tags can be written in another way without a tag coming
about or getting lost (`Scans.respell`).
-/

namespace Pagewright.Template

open Text

/-- The characters of a row of pieces. -/
def sources (ps : List Piece) : List Char := ps.flatMap Piece.source

/-- The pieces of a template, from left to right: a tag where the template begins with one, and else
one more character of text. -/
inductive Scans : List Char → List Piece → Prop
  | nil : Scans [] []
  | tag {tag : Tag} {source cs : List Char} {ps : List Piece} (written : tag.IsWritten source)
      (later : Scans cs ps) : Scans (source ++ cs) (.tag tag source :: ps)
  | char {c : Char} {cs : List Char} {ps : List Piece} (none : ¬ BeginsWithTag (c :: cs))
      (later : Scans cs ps) : Scans (c :: cs) (addChar c ps)

@[simp] theorem sources_nil : sources [] = [] := rfl

@[simp] theorem sources_cons (p : Piece) (ps : List Piece) :
    sources (p :: ps) = p.source ++ sources ps := List.flatMap_cons

@[simp] theorem sources_append (ps qs : List Piece) : sources (ps ++ qs) = sources ps ++ sources qs :=
  List.flatMap_append

/-- A character in front of pieces is in front of their text. -/
@[simp] theorem sources_addChar (c : Char) (ps : List Piece) :
    sources (addChar c ps) = c :: sources ps := by
  unfold addChar
  split <;> simp [Piece.source]

/-! ## what the scanner does -/

/-- The scanner passes over the characters of a tag that it has found. -/
theorem scanFrom_append (source cs : List Char) : scanFrom source.length (source ++ cs) = scan cs := by
  induction source with
  | nil => rfl
  | cons c source ih => simpa [scanFrom] using ih

/-- A tag at the beginning is found: the matching of tags is exact. -/
theorem scan_append_of_isWritten {tag : Tag} {source : List Char} (h : tag.IsWritten source)
    (cs : List Char) : scan (source ++ cs) = .tag tag source :: scan cs := by
  have read := tag?_append h cs
  obtain ⟨body, last, rfl, -, -⟩ := h.exists_body
  generalize eq : tag.opening ++ (body ++ [last]) = source at read
  cases source with
  | nil => simp at eq
  | cons c source =>
      have later : scanFrom (source.length + 1 - 1) (source ++ cs) = scan cs := scanFrom_append source cs
      simp only [scan, List.cons_append, scanFrom] at later read ⊢
      simp only [read, List.length_cons, later]
      simp

/-- Where no tag begins, the character is text. -/
theorem scan_cons_of_not_beginsWithTag {c : Char} {cs : List Char} (h : ¬ BeginsWithTag (c :: cs)) :
    scan (c :: cs) = addChar c (scan cs) := by
  rw [beginsWithTag_iff, not_not] at h
  simp only [scan, scanFrom, h]

/-- What the scanner finds are the pieces, by induction on the template. -/
theorem scans_scan (cs : List Char) : Scans cs (scan cs) := by
  induction n : cs.length using Nat.strong_induction_on generalizing cs with
  | _ n ih =>
    subst n
    cases cs with
    | nil => exact .nil
    | cons c cs =>
        by_cases h : BeginsWithTag (c :: cs)
        · obtain ⟨tag, source, written, rest, eq⟩ := h
          have shorter : rest.length < (c :: cs).length := by
            have := congrArg List.length eq
            obtain ⟨body, last, rfl, -, -⟩ := written.exists_body
            simp at this ⊢
            omega
          rw [← eq, scan_append_of_isWritten written]
          exact .tag written (ih _ shorter rest rfl)
        · rw [scan_cons_of_not_beginsWithTag h]
          exact .char h (ih _ (Nat.lt_succ_self _) cs rfl)

/-- The scanner finds the tags from left to right. -/
theorem scans_iff {cs : List Char} {ps : List Piece} : Scans cs ps ↔ scan cs = ps := by
  constructor
  · intro h
    induction h with
    | nil => rfl
    | tag written later ih => rw [scan_append_of_isWritten written, ih]
    | char none later ih => rw [scan_cons_of_not_beginsWithTag none, ih]
  · rintro rfl
    exact scans_scan cs

namespace Scans

variable {cs ds : List Char} {ps qs : List Piece}

/-- Nothing of a template gets lost. -/
theorem sources_eq (h : Scans cs ps) : sources ps = cs := by
  induction h with
  | nil => rfl
  | tag written later ih => simp [Piece.source, ih]
  | char none later ih => simp [ih]

/-- The tags of a template are written as tags. -/
theorem isWritten (h : Scans cs ps) : ∀ tag source, .tag tag source ∈ ps → tag.IsWritten source := by
  induction h with
  | nil => simp
  | tag written later ih =>
      intro tag source mem
      cases mem with
      | head => exact written
      | tail _ mem => exact ih tag source mem
  | char none later ih =>
      intro tag source mem
      apply ih
      unfold addChar at mem
      split at mem <;> simpa using mem

end Scans

/-! ## cutting a template in two -/

/-- A character in front belongs to the first pieces. -/
theorem exists_of_addChar_eq_append {c : Char} {p : Piece} {ps front tail : List Piece}
    (h : addChar c ps = p :: front ++ tail) :
    ∃ front', ps = front' ++ tail ∧ addChar c front' = p :: front := by
  unfold addChar at h
  split at h
  · next s later =>
    simp only [List.cons_append, List.cons.injEq] at h
    obtain ⟨rfl, rfl⟩ := h
    exact ⟨.text s :: front, rfl, rfl⟩
  · next noText =>
    simp only [List.cons_append, List.cons.injEq] at h
    obtain ⟨rfl, rfl⟩ := h
    refine ⟨front, rfl, ?_⟩
    unfold addChar
    split
    · next s later => exact absurd rfl (noText s (later ++ tail))
    · rfl

/-- A longer text begins with the same tag. -/
theorem BeginsWithTag.of_prefix {cs ds : List Char} (h : BeginsWithTag cs) (pre : cs <+: ds) :
    BeginsWithTag ds := by
  obtain ⟨tag, source, written, front⟩ := h
  exact ⟨tag, source, written, front.trans pre⟩

/-- The pieces in front of a place are those of the template that ends there. -/
theorem Scans.of_append {cs : List Char} {front tail : List Piece} (h : Scans cs (front ++ tail)) :
    Scans (sources front) front := by
  generalize eq : front ++ tail = ps at h
  induction h generalizing front with
  | nil =>
      obtain ⟨rfl, -⟩ := List.append_eq_nil_iff.1 eq
      exact .nil
  | tag written later ih =>
      cases front with
      | nil => exact .nil
      | cons p front =>
          rw [List.cons_append, List.cons.injEq] at eq
          obtain ⟨rfl, rfl⟩ := eq
          exact .tag written (ih rfl)
  | @char c cs ps none later ih =>
      cases front with
      | nil => exact .nil
      | cons p front =>
          obtain ⟨front', rfl, eq'⟩ := exists_of_addChar_eq_append eq.symm
          have pre : c :: sources front' <+: c :: cs := by
            rw [← later.sources_eq, sources_append]
            exact ⟨sources tail, rfl⟩
          rw [← eq', sources_addChar]
          exact .char (fun tag => none (tag.of_prefix pre)) (ih rfl)

/-! ## writing tags in another way -/

/-- The text in front of the first tag. -/
def lead : List Piece → List Char
  | .text s :: _ => s
  | _ => []

/-- The first tag, and what follows it. -/
def fromTag : List Piece → List Piece
  | .text _ :: ps => ps
  | ps => ps

/-- The text in front of the first tag, and the rest. -/
theorem sources_eq_lead_append (ps : List Piece) : sources ps = lead ps ++ sources (fromTag ps) := by
  unfold lead fromTag
  split <;> simp [Piece.source]

/-- Behind the text in front there is a tag, if anything. -/
theorem Scans.fromTag_eq {cs : List Char} {ps : List Piece} (h : Scans cs ps) :
    fromTag ps = [] ∨ ∃ tag source cs' later, fromTag ps = .tag tag source :: later ∧
      tag.IsWritten source ∧ Scans cs' later := by
  induction h with
  | nil => exact .inl rfl
  | tag written later _ => exact .inr ⟨_, _, _, _, rfl, written, later⟩
  | @char c _ ps _ _ ih =>
      have same : fromTag (addChar c ps) = fromTag ps := by
        unfold addChar
        split
        · rfl
        · next noText =>
          unfold fromTag
          split
          · next eq => cases eq; split <;> simp_all
          · simp_all
      rwa [same]

/-- Whether a character makes a tag with the pieces behind it: with the text in front of the first tag,
or by making an inserted value raw. -/
def MakesTag (c : Char) (ps : List Piece) : Prop :=
  BeginsWithTag (c :: lead ps) ∨ c = '\x7b' ∧ ∃ key source later rest,
    lead ps = [] ∧ fromTag ps = .tag (.insert key false) source :: later ∧ lead later = '\x7d' :: rest

/-- A tag in triple braces is one in double braces between two more. -/
theorem isWritten_raw_iff {key source : List Char} : (Tag.insert key true).IsWritten source ↔
    ∃ plain, (Tag.insert key false).IsWritten plain ∧ source = '\x7b' :: (plain ++ ['\x7d']) := by
  constructor
  · rintro ⟨isKey, blank, blank', blank''⟩
    exact ⟨_, .intro isKey blank blank' blank'',
      by simp [Tag.opening, Tag.closing, Tag.mark, Tag.key, Tag.isRaw]⟩
  · rintro ⟨plain, ⟨isKey, blank, blank', blank''⟩, rfl⟩
    have raw : (Tag.insert key true).IsWritten _ := .intro isKey blank blank' blank''
    simpa [Tag.opening, Tag.closing, Tag.mark, Tag.key, Tag.isRaw] using raw

/-- A tag begins with two braces. -/
theorem Tag.IsWritten.exists_cons {tag : Tag} {source : List Char} (h : tag.IsWritten source) :
    ∃ rest, source = '\x7b' :: '\x7b' :: rest := by
  obtain ⟨body, last, rfl, -, -⟩ := h.exists_body
  unfold opening
  split
  · exact ⟨_, rfl⟩
  · exact ⟨_, rfl⟩

/-- Two braces stand nowhere in a tag but at its beginning. -/
theorem Tag.IsWritten.front_of_braces {tag : Tag} {front back : List Char}
    (h : tag.IsWritten (front ++ '\x7b' :: '\x7b' :: back)) :
    front = [] ∨ front = ['\x7b'] ∧ tag = .insert tag.key true := by
  obtain ⟨body, last, eq, rfl, new⟩ := h.exists_body
  -- behind its opening a tag has no brace that opens
  have noBrace (f : List Char) {b : List Char} : f ++ '\x7b' :: b ≠ body ++ ['\x7d'] := by
    intro same
    have mem : '\x7b' ∈ body ++ ['\x7d'] := same ▸ List.mem_append_right _ List.mem_cons_self
    simp [new] at mem
  rw [← isRaw_eq_true_iff]
  cases raw : tag.isRaw with
  | false =>
      simp only [Tag.opening, raw, Bool.false_eq_true, if_false, List.cons_append, List.nil_append] at eq
      rcases front with _ | ⟨a, _ | ⟨b, front⟩⟩
      · exact .inl rfl
      · simp only [List.cons_append, List.nil_append, List.cons.injEq, true_and] at eq
        exact absurd eq.2 (noBrace [])
      · simp only [List.cons_append, List.cons.injEq] at eq
        exact absurd eq.2.2 (noBrace _)
  | true =>
      simp only [Tag.opening, raw, if_true, List.cons_append, List.nil_append] at eq
      rcases front with _ | ⟨a, _ | ⟨b, _ | ⟨d, front⟩⟩⟩
      · exact .inl rfl
      · simp only [List.cons_append, List.nil_append, List.cons.injEq] at eq
        exact .inr ⟨by rw [eq.1], rfl⟩
      · simp only [List.cons_append, List.nil_append, List.cons.injEq, true_and] at eq
        exact absurd eq.2.2 (noBrace [])
      · simp only [List.cons_append, List.cons.injEq] at eq
        exact absurd eq.2.2.2 (noBrace _)

/-- A tag ends with a brace of its own. -/
theorem Tag.IsWritten.exists_concat {tag : Tag} {source : List Char} (h : tag.IsWritten source) :
    ∃ front, source = front ++ ['\x7d'] := by
  obtain ⟨body, last, rfl, rfl, -⟩ := h.exists_body
  exact ⟨tag.opening ++ body, by rw [List.append_assoc]⟩

/-- A tag that ends behind the beginning of another is raw, and the other is what its outer braces hold. -/
theorem Tag.IsWritten.of_overlap {tag tag' : Tag} {front back source rest rest' : List Char}
    (h : tag.IsWritten (front ++ back)) (before : front ≠ []) (some : back ≠ [])
    (h' : tag'.IsWritten source) (eq : source ++ rest' = back ++ rest) :
    front = ['\x7b'] ∧ tag' = .insert tag.key false ∧ rest' = '\x7d' :: rest := by
  obtain ⟨body, braces⟩ := h'.exists_cons
  obtain ⟨_, ends⟩ := h.exists_concat
  obtain ⟨back, last, rfl⟩ := (List.eq_nil_or_concat' back).resolve_left some
  rw [← List.append_assoc] at ends
  obtain rfl : last = '\x7d' := List.singleton_inj.1 (List.append_inj' ends rfl).2
  obtain ⟨back, rfl⟩ : ∃ back', back = '\x7b' :: '\x7b' :: back' := by
    rw [braces] at eq
    rcases back with _ | ⟨a, _ | ⟨b, back⟩⟩ <;> simp at eq
    exact ⟨back, by rw [← eq.1, ← eq.2.1]⟩
  -- of all places in a tag, two braces stand only behind the first brace of a raw one
  obtain ⟨rfl, raw⟩ := Tag.IsWritten.front_of_braces h |>.resolve_left before
  rw [raw] at h
  obtain ⟨plain, written, same⟩ := isWritten_raw_iff.1 h
  rw [List.singleton_append, List.cons.injEq, and_iff_right rfl] at same
  obtain rfl : '\x7b' :: '\x7b' :: back = plain := (List.append_inj' same rfl).1
  have cut : source ++ rest' = ('\x7b' :: '\x7b' :: back) ++ '\x7d' :: rest := by simpa using eq
  obtain ⟨same, -, behind⟩ := h'.unique written cut
  exact ⟨rfl, same, behind⟩

namespace Scans

variable {c : Char} {cs ds : List Char} {ps qs : List Piece}

/-- A template that does not begin with a brace begins with text. -/
theorem lead_eq_of_sources (h : Scans cs ps) {rest : List Char} (eq : cs = c :: rest)
    (ne : c ≠ '\x7b') : ∃ rest', lead ps = c :: rest' := by
  rw [← h.sources_eq, sources_eq_lead_append] at eq
  cases front : lead ps with
  | cons d ds =>
      rw [front, List.cons_append, List.cons.injEq] at eq
      exact ⟨ds, by rw [eq.1]⟩
  | nil =>
      rw [front, List.nil_append] at eq
      rcases h.fromTag_eq with none | ⟨tag, source, cs', later, found, written, -⟩
      · simp [none] at eq
      · obtain ⟨_, rfl⟩ := written.exists_cons
        rw [found] at eq
        simp only [sources_cons, Piece.source, List.cons_append, List.cons.injEq] at eq
        exact absurd eq.1.symm ne

/-- A character makes a tag with what follows if it does with the pieces that follow. -/
theorem beginsWithTag_cons_iff (h : Scans cs ps) : BeginsWithTag (c :: cs) ↔ MakesTag c ps := by
  have whole : cs = lead ps ++ sources (fromTag ps) := by rw [← h.sources_eq, ← sources_eq_lead_append]
  constructor
  · rintro ⟨tag, source, written, rest, eq⟩
    obtain ⟨_, rfl⟩ := written.exists_cons
    rename_i source
    rw [List.cons_append, List.cons.injEq] at eq
    obtain ⟨rfl, eq⟩ := eq
    rw [whole, List.append_eq_append_iff] at eq
    -- the tag ends in front of the first tag, or it runs into what follows
    rcases eq with ⟨back, front, -⟩ | ⟨back, front, behind⟩
    · exact .inl ⟨tag, _, written, back, by rw [front]; rfl⟩
    by_cases some : back = []
    · rw [some, List.append_nil] at front
      exact .inl ⟨tag, _, written, [], by rw [← front, List.append_nil]⟩
    rcases h.fromTag_eq with none | ⟨tag', source', cs', later, found, written', scans⟩
    · simp [none, some] at behind
    rw [found, sources_cons, Piece.source, scans.sources_eq] at behind
    rw [front, ← List.cons_append] at written
    -- a tag that runs into another one is the raw writing of that tag
    obtain ⟨noText, rfl, rfl⟩ := written.of_overlap (List.cons_ne_nil _ _) some written' behind
    rw [List.cons.injEq] at noText
    obtain ⟨rest', brace⟩ := scans.lead_eq_of_sources rfl (by decide)
    exact .inr ⟨noText.1, tag.key, _, later, rest', noText.2, found, brace⟩
  · rintro (tag | ⟨rfl, key, source, later, rest, noText, first, front⟩)
    · refine tag.of_prefix ?_
      rw [whole]
      exact ⟨_, rfl⟩
    · rcases h.fromTag_eq with none | ⟨tag', source', cs', later', found, written, -⟩
      · rw [none] at first
        cases first
      rw [found, List.cons.injEq, Piece.tag.injEq] at first
      obtain ⟨⟨rfl, rfl⟩, rfl⟩ := first
      have raw := isWritten_raw_iff.2 ⟨source', written, rfl⟩
      refine ⟨_, _, raw, rest ++ sources (fromTag later'), ?_⟩
      rw [whole, noText, found, sources_cons, sources_eq_lead_append later', front]
      simp [Piece.source]

end Scans

/-- The same piece, a tag perhaps in another writing. -/
inductive Piece.Respells : Piece → Piece → Prop
  | text (s : List Char) : Respells (.text s) (.text s)
  | tag {tag : Tag} (source : List Char) {source' : List Char} (written : tag.IsWritten source') :
      Respells (.tag tag source) (.tag tag source')

section respelling

variable {c : Char} {cs : List Char} {ps qs : List Piece}

/-- Another writing of the tags leaves the text in front of them. -/
theorem lead_eq_of_respells (same : List.Forall₂ Piece.Respells ps qs) : lead ps = lead qs := by
  cases same with
  | nil => rfl
  | cons first _ => cases first <;> rfl

/-- It leaves the text between them as well. -/
theorem respells_fromTag (same : List.Forall₂ Piece.Respells ps qs) :
    List.Forall₂ Piece.Respells (fromTag ps) (fromTag qs) := by
  cases same with
  | nil => exact .nil
  | cons first later =>
      cases first with
      | text s => exact later
      | tag source written => exact .cons (.tag source written) later

/-- A character in front can be taken off in both writings. -/
theorem exists_addChar_of_respells (same : List.Forall₂ Piece.Respells (addChar c ps) qs) :
    ∃ qs', qs = addChar c qs' ∧ List.Forall₂ Piece.Respells ps qs' := by
  unfold addChar at same
  split at same
  · next s later =>
    obtain - | ⟨⟨_⟩, later⟩ := same
    rename_i qs
    exact ⟨.text s :: qs, rfl, .cons (.text s) later⟩
  · next noText =>
    obtain - | ⟨⟨_⟩, later⟩ := same
    rename_i qs
    refine ⟨qs, ?_, later⟩
    cases later with
    | nil => rfl
    | cons first later =>
        cases first with
        | text s => exact absurd rfl (noText s _)
        | tag source written => rfl

/-- Whether a character makes a tag with the pieces behind it does not depend on how these are written. -/
theorem MakesTag.of_respells (h : MakesTag c qs) (same : List.Forall₂ Piece.Respells ps qs) :
    MakesTag c ps := by
  rcases h with tag | ⟨rfl, key, source, later, rest, noText, first, front⟩
  · exact .inl (by rwa [lead_eq_of_respells same])
  · have behind := respells_fromTag same
    rw [first] at behind
    generalize eq : fromTag ps = ps' at behind
    obtain - | ⟨⟨_, _⟩, behind⟩ := behind
    exact .inr ⟨rfl, key, _, _, rest, by rw [lead_eq_of_respells same, noText], eq,
      by rw [lead_eq_of_respells behind, front]⟩

/-- Pieces with tags in another writing are the pieces of a template again. -/
theorem Scans.respell (h : Scans cs ps) (same : List.Forall₂ Piece.Respells ps qs) :
    Scans (sources qs) qs := by
  induction h generalizing qs with
  | nil =>
      cases same
      exact .nil
  | tag _ _ ih =>
      cases same with
      | cons first behind =>
          cases first with
          | tag _ written => exact .tag written (ih behind)
  | char none later ih =>
      obtain ⟨qs, rfl, behind⟩ := exists_addChar_of_respells same
      rw [sources_addChar]
      refine .char (fun tag => none ?_) (ih behind)
      rw [(ih behind).beginsWithTag_cons_iff] at tag
      exact later.beginsWithTag_cons_iff.2 (tag.of_respells behind)

end respelling

/-! ## the shortest writing -/

/-- A tag with a key is written in its shortest form. -/
theorem isWritten_print {tag : Tag} (isKey : IsKey tag.key) : tag.IsWritten tag.print := by
  have written : tag.IsWritten _ := .intro isKey areBlank_nil areBlank_nil areBlank_nil
  rcases tag with ⟨key, _ | _⟩ | ⟨key, _ | _⟩ | key <;>
    simpa [Tag.opening, Tag.closing, Tag.mark, Tag.key, Tag.isRaw, Tag.print] using written

/-- What is written as a tag has a key. -/
theorem Tag.IsWritten.isKey {tag : Tag} {source : List Char} (h : tag.IsWritten source) :
    IsKey tag.key := by
  obtain ⟨isKey, -, -, -⟩ := h
  exact isKey

/-- Without blanks a tag is in its shortest writing. -/
theorem Tag.IsWritten.eq_print {tag : Tag} {source : List Char} (h : tag.IsWritten source)
    (noBlank : ∀ c ∈ source, isBlank c = false) : source = tag.print := by
  obtain ⟨isKey, blank, blank', blank''⟩ := h
  rename_i before between behind
  have none {cs : List Char} (blank : AreBlank cs) (sub : ∀ c ∈ cs, isBlank c = false) : cs = [] := by
    rw [List.eq_nil_iff_forall_not_mem]
    intro c hc
    have both := blank c hc
    rw [sub c hc] at both
    cases both
  obtain rfl := none blank fun c hc => noBlank c (by simp [hc])
  obtain rfl := none blank' fun c hc => noBlank c (by simp [hc])
  obtain rfl := none blank'' fun c hc => noBlank c (by simp [hc])
  rcases tag with ⟨key, _ | _⟩ | ⟨key, _ | _⟩ | key <;>
    simp [Tag.opening, Tag.closing, Tag.mark, Tag.key, Tag.isRaw, Tag.print]

end Pagewright.Template
