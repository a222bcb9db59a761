import Mathlib.Data.List.Basic
import Pagewright.Enrichment.RecentPosts

/-!
# Pagewright.Proofs.Enrichment.Excerpt

Excerpts that are derived from the body of a post.  Taking out the tags is said here as a relation: from the left,
each opening angle bracket goes with the next closing one and with what is between them, until no closing one is
left behind an opening one.  What remains in front of a tag has no opening bracket, so the pieces that remain never
join to a new tag.
-/

namespace Pagewright.Enrichment.RecentPosts

open Text

/-! ## tags -/

/-- Whether a text has no tag: no closing angle bracket anywhere behind an opening one. -/
def Untagged (cs : List Char) : Prop := ¬ ['<', '>'].Sublist cs

instance (cs : List Char) : Decidable (Untagged cs) := inferInstanceAs (Decidable (¬ _))

/-- Taking the tags out of a text, from the left. -/
inductive Strips : List Char → List Char → Prop
  | plain {cs : List Char} (untagged : Untagged cs) : Strips cs cs
  | tag {before inside behind out : List Char} (first : '<' ∉ before) (next : '>' ∉ inside)
      (rest : Strips behind out) : Strips (before ++ '<' :: (inside ++ '>' :: behind)) (before ++ out)

/-- What is left of a text without tags has none. -/
theorem Untagged.of_sublist {cs ds : List Char} (h : Untagged cs) (part : ds.Sublist cs) : Untagged ds :=
  fun tag => h (tag.trans part)

/-- A tag begins at an opening bracket. -/
theorem tag_sublist_append_iff {before : List Char} (new : '<' ∉ before) (cs : List Char) :
    ['<', '>'].Sublist (before ++ cs) ↔ ['<', '>'].Sublist cs := by
  induction before with
  | nil => rfl
  | cons c before ih =>
      obtain ⟨other, new⟩ := not_or.1 fun mem => new (List.mem_cons.2 mem)
      rw [List.cons_append, ← ih new]
      constructor
      · intro h
        cases h with
        | cons _ h => exact h
        | cons_cons => exact absurd rfl other
      · exact fun h => h.trans (List.sublist_cons_self ..)

/-- Tags begin behind the text without opening brackets. -/
theorem untagged_append_iff {before : List Char} (new : '<' ∉ before) (cs : List Char) :
    Untagged (before ++ cs) ↔ Untagged cs :=
  not_congr (tag_sublist_append_iff new cs)

/-- A text with a tag has a first one. -/
theorem exists_first_tag {cs : List Char} (h : ¬ Untagged cs) :
    ∃ before inside behind, cs = before ++ '<' :: (inside ++ '>' :: behind) ∧ '<' ∉ before ∧ '>' ∉ inside := by
  have tag := not_not.1 h
  obtain ⟨before, rest, rfl, new⟩ := List.eq_append_cons_of_mem (tag.subset (List.mem_cons_self ..))
  have closed : '>' ∈ rest :=
    List.singleton_sublist.1 (List.cons_sublist_cons.1 ((tag_sublist_append_iff new _).1 tag))
  obtain ⟨inside, behind, rfl, next⟩ := List.eq_append_cons_of_mem closed
  exact ⟨before, inside, behind, rfl, new, next⟩

/-- Once the tags are taken out there are none: what stands before a tag has no opening bracket, so no new one
comes together. -/
theorem Strips.untagged {cs out : List Char} (h : Strips cs out) : Untagged out := by
  induction h with
  | plain untagged => exact untagged
  | tag first _ _ ih => exact (untagged_append_iff first _).2 ih

/-! ## the scan -/

/-- Inside a tag, the scan passes over characters. -/
theorem dropTagsFrom_append (inside cs : List Char) :
    dropTagsFrom inside.length (inside ++ cs) = dropTags cs := by
  induction inside with
  | nil => rfl
  | cons c inside ih => exact ih

/-- A character that opens no tag stays. -/
theorem dropTags_cons_of_ne {c : Char} (other : c ≠ '<') (cs : List Char) : dropTags (c :: cs) = c :: dropTags cs := by
  rw [dropTags, dropTagsFrom, if_neg other]
  rfl

theorem dropTags_append {before : List Char} (new : '<' ∉ before) (cs : List Char) :
    dropTags (before ++ cs) = before ++ dropTags cs := by
  induction before with
  | nil => rfl
  | cons c before ih =>
      obtain ⟨other, new⟩ := not_or.1 fun mem => new (List.mem_cons.2 mem)
      rw [List.cons_append, dropTags_cons_of_ne (Ne.symm other), ih new, List.cons_append]

/-- A tag ends at the first closing bracket. -/
theorem dropTags_tag {inside : List Char} (next : '>' ∉ inside) (behind : List Char) :
    dropTags ('<' :: (inside ++ '>' :: behind)) = dropTags behind := by
  have cut : cut? '>' (inside ++ '>' :: behind) = some (inside, behind) := cut?_eq_some_iff.2 ⟨rfl, next⟩
  have scan := dropTagsFrom_append (inside ++ ['>']) behind
  rw [List.length_append] at scan
  rw [dropTags, dropTagsFrom, if_pos rfl, cut, List.append_cons]
  exact scan

/-- A text without tags is left as it is, opening brackets included. -/
theorem dropTags_of_untagged {cs : List Char} (h : Untagged cs) : dropTags cs = cs := by
  induction cs with
  | nil => rfl
  | cons c cs ih =>
      have rest := ih (h.of_sublist (List.sublist_cons_self ..))
      by_cases opening : c = '<'
      · subst opening
        cases cut : cut? '>' cs with
        | some parts =>
            have closed : '>' ∈ cs := by
              rw [(cut?_eq_some_iff.1 cut).1]
              simp
            exact absurd (List.cons_sublist_cons.2 (List.singleton_sublist.2 closed)) h
        | none =>
            rw [dropTags, dropTagsFrom, if_pos rfl, cut]
            exact congrArg ('<' :: ·) rest
      · rw [dropTags_cons_of_ne opening, rest]

/-- The scan takes the tags out. -/
theorem strips_dropTags (cs : List Char) : Strips cs (dropTags cs) := by
  by_cases plain : Untagged cs
  · rw [dropTags_of_untagged plain]
    exact .plain plain
  · obtain ⟨before, inside, behind, eq, first, next⟩ := exists_first_tag plain
    rw [eq, dropTags_append first, dropTags_tag next]
    exact .tag first next (strips_dropTags behind)
termination_by cs.length
decreasing_by
  simp only [eq, List.length_append, List.length_cons]
  omega

/-- Only what the scan gives is a text with its tags taken out. -/
theorem strips_iff {cs out : List Char} : Strips cs out ↔ out = dropTags cs := by
  constructor
  · intro h
    induction h with
    | plain untagged => exact (dropTags_of_untagged untagged).symm
    | tag first next _ ih => rw [dropTags_append first, dropTags_tag next, ih]
  · rintro rfl
    exact strips_dropTags cs

example : dropTags "a<<b>>c <p>d</p> 1 > 0 < 2".toList = "a>c d 1 > 0 < 2".toList := by decide

/-! ## excerpts -/

/-- The text of the body of a post; a post without a body has an empty one. -/
def bodyText (post : Members) : List Char := ((post.get "body").orElse (.str "")).display.toList

/-- An excerpt that is derived from a body is the beginning of the body with its tags taken out.  It has no tag
itself, and of a body without tags it is just the beginning. -/
theorem derived_excerpt_has_no_tag {post : Members} (none : (post.get "excerpt").isTruthy = false) :
    ∃ stripped, Strips (bodyText post) stripped ∧ Untagged stripped ∧ dropTags stripped = stripped ∧
      ∃ (ms : Members) (text : String), shown post = .obj ms ∧ ms.get "excerpt" = .str text ∧
        text.toList = stripped.take 160 ∧ text.length ≤ 160 ∧ Untagged text.toList ∧
        (Untagged (bodyText post) → text.toList = (bodyText post).take 160) := by
  have strips := strips_dropTags (bodyText post)
  have untagged := strips.untagged
  have derived : excerpt post = .str (String.ofList ((dropTags (bodyText post)).take 160)) := by
    rw [excerpt, Value.orElse, none]
    rfl
  have text : (String.ofList ((dropTags (bodyText post)).take 160)).toList =
      (dropTags (bodyText post)).take 160 := String.toList_ofList
  refine ⟨_, strips, untagged, dropTags_of_untagged untagged, _, _, rfl, derived, text, ?_, ?_, ?_⟩
  · rw [String.length_ofList]
    exact List.length_take_le _ _
  · rw [text]
    exact untagged.of_sublist (List.take_sublist _ _)
  · intro plain
    rw [text, dropTags_of_untagged plain]

/-- A post whose body has brackets inside each other, twice in a row and left open. -/
def bracketsPost : Members :=
  [("title", .str "Brackets"), ("excerpt", .str ""), ("body", .str "<p>1 < 2 <b>bold</b> a<<i>>b</p> 3 > 2 <")]

/-- A tag goes from an opening bracket to the next closing one, whatever stands between. -/
theorem derived_excerpt_has_no_tag_brackets :
    (Members.get "excerpt" bracketsPost).isTruthy = false ∧
      ∃ (ms : Members) (text : String), shown bracketsPost = .obj ms ∧ ms.get "excerpt" = .str text ∧
        text = "1 bold a>b 3 > 2 <" ∧ text.length ≤ 160 ∧ Untagged text.toList := by
  have none : (Members.get "excerpt" bracketsPost).isTruthy = false := rfl
  obtain ⟨stripped, strips, -, -, ms, text, made, excerpt, start, short, untagged, -⟩ :=
    derived_excerpt_has_no_tag none
  refine ⟨none, ms, text, made, excerpt, ?_, short, untagged⟩
  rw [strips_iff.1 strips] at start
  exact String.toList_inj.1 (start.trans (by decide))

end Pagewright.Enrichment.RecentPosts
