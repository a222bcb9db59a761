import Pagewright.Css.Danger

/-!
# Pagewright.Proofs.Css.Danger

Where refused constructs can stand.  `Occurs` is what a search means by a match, with every way to read
the blanks and quotes of a pattern; the matcher without backtracking finds all of these
(`isDangerous_iff`).  No match goes past a brace or a semicolon, or begins with a line feed, so a text
that is put together at such places is refused only if one of its pieces is (`isDangerous_append`).
-/

namespace Pagewright.Css

open Text

/-! ## matches in general -/

/-- What may follow a step, with all ways to read blanks and quotes. -/
inductive Step.Reads : Step → List Char → List Char → Prop
  | word {text cs rest : List Char} (h : afterCaseless? text cs = some rest) :
      Reads (.word text) cs rest
  | blanks {bs rest : List Char} (h : ∀ c ∈ bs, isBlank c = true) : Reads .blanks (bs ++ rest) rest
  | quote {q : Char} {rest : List Char} (h : q = '\'' ∨ q = '"') : Reads .optionalQuote (q :: rest) rest
  | noQuote {rest : List Char} : Reads .optionalQuote rest rest
  | wordEnd {rest : List Char} (h : rest.head?.any isWord = false) : Reads .wordEnd rest rest
  | notBefore {text rest : List Char} (h : afterCaseless? text rest = none) :
      Reads (.notBefore text) rest rest

/-- Whether a pattern can be read at the start of a text. -/
def ReadsAll : List Step → List Char → Prop
  | [], _ => True
  | step :: steps, cs => ∃ rest, step.Reads cs rest ∧ ReadsAll steps rest

/-- Whether a pattern can be read anywhere in a text. -/
def Occurs (pattern : List Step) (cs : List Char) : Prop :=
  ∃ suffix, suffix <:+ cs ∧ ReadsAll pattern suffix

/-! ## the matcher without backtracking -/

/-- A pattern matches if its first step does and the rest matches behind it. -/
theorem matchesHere_cons (step : Step) (steps : List Step) (cs : List Char) :
    matchesHere (step :: steps) cs = (step.run cs).any (matchesHere steps) := by
  unfold matchesHere
  rw [List.foldlM_cons]
  cases step.run cs <;> rfl

/-- What the matcher takes for a step is one way to read it. -/
theorem Step.reads_of_run {step : Step} {cs rest : List Char} (h : step.run cs = some rest) :
    step.Reads cs rest := by
  unfold Step.run at h
  split at h
  · exact .word h
  · cases h
    have all : ∀ c ∈ cs.takeWhile isBlank, isBlank c = true := fun c hc =>
      List.all_eq_true.1 (List.all_takeWhile) c hc
    have reads : Step.blanks.Reads (cs.takeWhile isBlank ++ cs.dropWhile isBlank) _ := .blanks all
    rwa [List.takeWhile_append_dropWhile] at reads
  · cases h
    exact .quote (.inl rfl)
  · cases h
    exact .quote (.inr rfl)
  · cases h
    exact .noQuote
  · split at h
    · cases h
    · next no =>
      cases h
      exact .wordEnd (by simpa using no)
  · split at h
    · cases h
    · next no =>
      cases h
      exact .notBefore (by simpa using no)

/-- So a match is a way to read the pattern. -/
theorem readsAll_of_matchesHere {pattern : List Step} {cs : List Char}
    (h : matchesHere pattern cs = true) : ReadsAll pattern cs := by
  induction pattern generalizing cs with
  | nil => trivial
  | cons step steps ih =>
      rw [matchesHere_cons, Option.any_eq_true] at h
      obtain ⟨rest, ran, later⟩ := h
      exact ⟨rest, Step.reads_of_run ran, ih later⟩

/-- Whether every run of blanks in a pattern, with or without an optional quote in it, is followed by
a text that begins with neither. -/
def settled : List Step → Bool
  | [] => true
  | .blanks :: .word (p :: ps) :: steps => !isBlank p && settled (.word (p :: ps) :: steps)
  | .blanks :: .optionalQuote :: .blanks :: .word (p :: ps) :: steps =>
    !isBlank p && !caselessEq p '\'' && !caselessEq p '"' && settled (.word (p :: ps) :: steps)
  | .blanks :: _ => false
  | .optionalQuote :: _ => false
  | _ :: steps => settled steps

/-- White space has no case. -/
theorem lower_of_isBlank {c : Char} (h : isBlank c = true) : lower c = c := by
  unfold lower
  split
  · next kelvin =>
    rw [beq_iff_eq] at kelvin
    subst kelvin
    exact absurd h (by decide)
  · unfold Char.toLower
    split
    · next capital =>
      have same : c.toNat = c.val.toNat := rfl
      simp only [isBlank] at h
      simp only [UInt32.le_iff_toNat_le] at capital
      grind
    · rfl

/-- No blank is taken for another character. -/
theorem isBlank_of_caselessEq {letter c : Char} (same : caselessEq letter c = true)
    (h : isBlank letter = false) : isBlank c = false := by
  cases blank : isBlank c with
  | false => rfl
  | true =>
      have other {d : Char} (hd : isBlank d = false) : (c == d) = false := by
        rw [beq_eq_false_iff_ne]
        rintro rfl
        rw [blank] at hd
        cases hd
      have dotted : (c == '\u0130') = false := other rfl
      have dotless : (c == '\u0131') = false := other rfl
      have long : (c == '\u017f') = false := other rfl
      simp [caselessEq, lower_of_isBlank blank, other h, dotted, dotless, long] at same

/-- A text that begins with a word begins with its first character, in either case. -/
theorem exists_head_of_word {p : Char} {ps cs : List Char} {steps : List Step}
    (h : ReadsAll (.word (p :: ps) :: steps) cs) :
    ∃ c rest, cs = c :: rest ∧ caselessEq p c = true := by
  obtain ⟨rest, reads, -⟩ := h
  cases reads with
  | word reads =>
      cases cs with
      | nil => simp [afterCaseless?] at reads
      | cons c cs =>
          rw [afterCaseless?] at reads
          split at reads
          · next same => exact ⟨c, cs, rfl, same⟩
          · cases reads

/-- Blanks in front of a text that begins with none are read as a whole. -/
theorem dropWhile_of_word {p : Char} {ps bs rest : List Char} {steps : List Step}
    (blank : ∀ c ∈ bs, isBlank c = true) (hp : isBlank p = false)
    (h : ReadsAll (.word (p :: ps) :: steps) rest) : (bs ++ rest).dropWhile isBlank = rest := by
  obtain ⟨c, cs, rfl, same⟩ := exists_head_of_word h
  rw [List.dropWhile_append_of_pos blank]
  exact List.dropWhile_cons_of_neg (by simp [isBlank_of_caselessEq same hp])

/-- A quote is read where there is one, and nothing else is. -/
theorem run_optionalQuote (c : Char) (cs : List Char) :
    Step.optionalQuote.run (c :: cs) = some (if c = '\'' ∨ c = '"' then cs else c :: cs) := by
  unfold Step.run
  split
  all_goals simp_all

/-- Every way to read a word or a look ahead is the one that the matcher takes. -/
theorem Step.run_of_reads {step : Step} {cs rest : List Char} (noBlanks : step ≠ .blanks)
    (noQuote : step ≠ .optionalQuote) (h : step.Reads cs rest) : step.run cs = some rest := by
  cases h with
  | word one => exact one
  | blanks => exact absurd rfl noBlanks
  | quote => exact absurd rfl noQuote
  | noQuote => exact absurd rfl noQuote
  | wordEnd one => simp [Step.run, one]
  | notBefore one => simp [Step.run, one]

/-- Blanks around an optional quote are read in one way if the word behind them begins with neither. -/
theorem matchesHere_of_optionalQuote {p : Char} {ps cs : List Char} {steps : List Step}
    (hp : isBlank p = false) (single : caselessEq p '\'' = false) (double : caselessEq p '"' = false)
    (found : ∀ {rest}, ReadsAll (.word (p :: ps) :: steps) rest →
      matchesHere (.word (p :: ps) :: steps) rest = true)
    (reads : ReadsAll (.blanks :: .optionalQuote :: .blanks :: .word (p :: ps) :: steps) cs) :
    matchesHere (.blanks :: .optionalQuote :: .blanks :: .word (p :: ps) :: steps) cs = true := by
  obtain ⟨_, one, _, two, rest, three, later⟩ := reads
  have now := found later
  cases one with
  | @blanks bs _ blank =>
  cases three with
  | @blanks bs' _ blank' =>
  have skip := dropWhile_of_word blank' hp later
  -- the quote is read in both ways or in none
  cases two with
  | @quote q _ quote =>
      have stop : (bs ++ q :: (bs' ++ rest)).dropWhile isBlank = q :: (bs' ++ rest) := by
        rw [List.dropWhile_append_of_pos blank]
        obtain rfl | rfl := quote <;> exact List.dropWhile_cons_of_neg (by decide)
      rw [matchesHere_cons, Step.run, stop, Option.any_some, matchesHere_cons, run_optionalQuote,
        if_pos quote, Option.any_some, matchesHere_cons, Step.run, skip]
      exact now
  | noQuote =>
      have skip' : (bs ++ (bs' ++ rest)).dropWhile isBlank = rest := by
        rw [List.dropWhile_append_of_pos blank, skip]
      obtain ⟨c, cs, rfl, same⟩ := exists_head_of_word later
      have noQuote : ¬ (c = '\'' ∨ c = '"') := by
        rintro (rfl | rfl)
        · rw [single] at same
          cases same
        · rw [double] at same
          cases same
      have stay := dropWhile_of_word (List.forall_mem_nil _) hp later
      rw [List.nil_append] at stay
      rw [matchesHere_cons, Step.run, skip', Option.any_some, matchesHere_cons, run_optionalQuote,
        if_neg noQuote, Option.any_some, matchesHere_cons, Step.run, stay]
      exact now

/-- Conversely the one way that the matcher takes is enough: in a settled pattern it loses nothing by taking all
blanks and every quote. -/
theorem matchesHere_of_readsAll {pattern : List Step} {cs : List Char}
    (h : settled pattern = true) (reads : ReadsAll pattern cs) : matchesHere pattern cs = true := by
  fun_induction settled pattern generalizing cs with
  | case1 => rfl
  | case2 p ps steps ih =>
      rw [Bool.and_eq_true, Bool.not_eq_true'] at h
      obtain ⟨rest, one, later⟩ := reads
      cases one with
      | blanks blank =>
          rw [matchesHere_cons, Step.run, dropWhile_of_word blank h.1 later]
          exact ih h.2 later
  | case3 p ps steps ih =>
      simp only [Bool.and_eq_true, Bool.not_eq_true'] at h
      obtain ⟨⟨⟨hp, single⟩, double⟩, h⟩ := h
      exact matchesHere_of_optionalQuote hp single double (ih h) reads
  | case4 => cases h
  | case5 => cases h
  | case6 step steps _ _ noBlanks noQuote ih =>
      obtain ⟨rest, one, later⟩ := reads
      rw [matchesHere_cons, Step.run_of_reads noBlanks noQuote one]
      exact ih h later

/-- The matcher finds a refused construct wherever there is one. -/
theorem isDangerous_iff {cs : List Char} :
    isDangerous cs = true ↔ ∃ pattern ∈ dangers, Occurs pattern cs := by
  have all : dangers.all settled = true := rfl
  simp only [isDangerous, List.any_eq_true, matchesSomewhere, anySuffix_iff]
  constructor
  · rintro ⟨pattern, mem, suffix, isEnd, h⟩
    exact ⟨pattern, mem, suffix, isEnd, readsAll_of_matchesHere h⟩
  · rintro ⟨pattern, mem, suffix, isEnd, reads⟩
    exact ⟨pattern, mem, suffix, isEnd, matchesHere_of_readsAll (List.all_eq_true.1 all _ mem) reads⟩

/-! ## texts that are put together -/

/-- Whether no match of a step reads a character, or looks past it. -/
def Step.stopsAt (w : Char) : Step → Bool
  | .word text => text.all (!caselessEq · w)
  | .blanks => !isBlank w
  | .optionalQuote => w != '\'' && w != '"'
  | .wordEnd => !isWord w
  | .notBefore text => text.all (!caselessEq · w)

/-- Whether no match goes past a character. -/
def isWall (w : Char) : Bool := dangers.all fun pattern => pattern.all (·.stopsAt w)

/-- A word that cannot have a character in it is not read across that character. -/
theorem afterCaseless?_append {text : List Char} {w : Char}
    (h : text.all (!caselessEq · w) = true) (xs ys : List Char) :
    afterCaseless? text (xs ++ w :: ys) = (afterCaseless? text xs).map (· ++ w :: ys) := by
  induction text generalizing xs with
  | nil => rfl
  | cons p ps ih =>
      rw [List.all_cons, Bool.and_eq_true, Bool.not_eq_true'] at h
      cases xs with
      | nil => simp [afterCaseless?, h.1]
      | cons x xs =>
          rw [List.cons_append, afterCaseless?, afterCaseless?]
          split
          · exact ih h.2 xs
          · rfl

/-- A step that stops at a character is not read across it. -/
theorem Step.run_append {step : Step} {w : Char} (h : step.stopsAt w = true) (xs ys : List Char) :
    step.run (xs ++ w :: ys) = (step.run xs).map (· ++ w :: ys) := by
  cases step with
  | word text => exact afterCaseless?_append h xs ys
  | blanks =>
      have stop : isBlank w = false := by simpa [stopsAt] using h
      simp only [Step.run, Option.map_some, Option.some.injEq]
      induction xs with
      | nil => simp [stop]
      | cons x xs ih => cases hx : isBlank x <;> simp [hx, ih]
  | optionalQuote =>
      have stop : ¬ (w = '\'' ∨ w = '"') := by simpa [stopsAt, not_or] using h
      cases xs with
      | nil =>
          rw [List.nil_append, run_optionalQuote, if_neg stop]
          rfl
      | cons x xs =>
          rw [List.cons_append, run_optionalQuote, run_optionalQuote]
          split <;> rfl
  | wordEnd =>
      have stop : isWord w = false := by simpa [stopsAt] using h
      cases xs with
      | nil => simp [Step.run, stop]
      | cons x xs => cases hx : isWord x <;> simp [Step.run, hx]
  | notBefore text =>
      simp only [Step.run, afterCaseless?_append h, Option.isSome_map]
      split <;> rfl

/-- So a match is found in front of the character, or it is none. -/
theorem matchesHere_append {pattern : List Step} {w : Char}
    (h : pattern.all (·.stopsAt w) = true) (xs ys : List Char) :
    matchesHere pattern (xs ++ w :: ys) = matchesHere pattern xs := by
  induction pattern generalizing xs with
  | nil => rfl
  | cons step steps ih =>
      rw [List.all_cons, Bool.and_eq_true] at h
      rw [matchesHere_cons, matchesHere_cons, Step.run_append h.1, Option.any_map]
      congr 1
      funext rest
      exact ih h.2 rest

/-- What is told of each place up to a character is told of both sides of it. -/
theorem anySuffix_append {p : List Char → Bool} {w : Char}
    (h : ∀ xs ys, p (xs ++ w :: ys) = p xs) (xs ys : List Char) :
    anySuffix p (xs ++ w :: ys) = (anySuffix p xs || anySuffix p ys) := by
  induction xs with
  | nil => rw [List.nil_append, anySuffix, anySuffix, ← List.nil_append (w :: ys), h]
  | cons x xs ih =>
      rw [List.cons_append, anySuffix, anySuffix, ih, ← List.cons_append, h, Bool.or_assoc]

/-- A text is dangerous if one of its pieces before and behind a wall is. -/
theorem isDangerous_append {w : Char} (h : isWall w = true) (xs ys : List Char) :
    isDangerous (xs ++ w :: ys) = (isDangerous xs || isDangerous ys) := by
  have apart (pattern : List Step) (mem : pattern ∈ dangers) :
      matchesSomewhere pattern (xs ++ w :: ys) =
        (matchesSomewhere pattern xs || matchesSomewhere pattern ys) :=
    anySuffix_append (matchesHere_append (List.all_eq_true.1 h pattern mem)) xs ys
  rw [Bool.eq_iff_iff, Bool.or_eq_true]
  simp only [isDangerous, List.any_eq_true]
  constructor
  · rintro ⟨pattern, mem, found⟩
    rw [apart pattern mem, Bool.or_eq_true] at found
    exact found.imp (fun first => ⟨pattern, mem, first⟩) fun later => ⟨pattern, mem, later⟩
  · rintro (⟨pattern, mem, found⟩ | ⟨pattern, mem, found⟩) <;>
      exact ⟨pattern, mem, by rw [apart pattern mem, found]; simp⟩

/-- No refused construct goes past a brace or a semicolon. -/
theorem isWall_of_mem {w : Char} (h : w ∈ ['\x7b', '\x7d', ';']) : isWall w = true := by
  have all : ['\x7b', '\x7d', ';'].all isWall = true := by decide
  exact List.all_eq_true.1 all w h

theorem isDangerous_nil : isDangerous [] = false := by decide

/-- Whether a pattern begins with a text that begins with no blank. -/
def beginsWithWord : List Step → Bool
  | .word (p :: _) :: _ => !isBlank p
  | _ => false

/-- A pattern that begins with a word does not match at a blank. -/
theorem matchesHere_cons_of_isBlank {pattern : List Step} (h : beginsWithWord pattern = true) {c : Char}
    (hc : isBlank c = true) (cs : List Char) : matchesHere pattern (c :: cs) = false := by
  unfold beginsWithWord at h
  split at h
  · next p ps steps =>
    have ne : ¬ caselessEq p c = true := by
      intro same
      rw [isBlank_of_caselessEq same (by simpa using h)] at hc
      cases hc
    simp [matchesHere_cons, Step.run, afterCaseless?, ne]
  · cases h

/-- No match begins with a blank. -/
theorem isDangerous_cons_of_isBlank {c : Char} (h : isBlank c = true) (cs : List Char) :
    isDangerous (c :: cs) = isDangerous cs := by
  have all : dangers.all beginsWithWord = true := by decide
  have same (pattern : List Step) (mem : pattern ∈ dangers) :
      matchesSomewhere pattern (c :: cs) = matchesSomewhere pattern cs := by
    rw [matchesSomewhere, anySuffix,
      matchesHere_cons_of_isBlank (List.all_eq_true.1 all pattern mem) h, Bool.false_or]
    rfl
  rw [isDangerous, isDangerous, Bool.eq_iff_iff, List.any_eq_true, List.any_eq_true]
  exact exists_congr fun pattern => and_congr_right fun mem => by rw [same pattern mem]

end Pagewright.Css
