import Pagewright.Json.Reader
import Pagewright.Proofs.Fault.Yields

/-!
# Pagewright.Proofs.Json.Texts

JSON text that holds a text.  The reader gives a text only for a single token, since whatever is read while a
container is open ends up inside a container.  The quotes around a text are part of what writes it, so a text is
shorter than the JSON text it is read from, and no JSON text holds itself.
-/

namespace Pagewright.Json

/-! ## tokens -/

/-- The text between two quotes and what follows them are shorter than the whole. -/
theorem length_of_text? {skip : Nat} {cs s rest : List Char} (h : text? skip cs = some (s, rest)) :
    s.length + rest.length < cs.length := by
  induction cs generalizing skip s with
  | nil => cases h
  | cons c cs ih =>
      unfold text? at h
      split at h
      · cases h
      · next eq =>
        cases eq
        exact Nat.lt_succ_of_lt (ih h)
      · next eq =>
        cases eq
        cases h
        simp
      · next eq =>
        cases eq
        obtain ⟨⟨read, width⟩, -, h⟩ := Option.bind_eq_some_iff.1 h
        obtain ⟨⟨body, behind⟩, inside, h⟩ := Option.bind_eq_some_iff.1 h
        cases h
        have shorter := ih inside
        simp only [List.length_cons]
        omega

/-- The text that a token stands for on its own. -/
def Token.text? : Token → Option String
  | .text s => some s
  | .scalar v => v.text?
  | _ => none

/-- A number stands for no text. -/
theorem text?_of_number? {negative : Bool} {cs rest : List Char} {token : Token}
    (h : number? negative cs = some (token, rest)) : token.text? = none := by
  unfold number? at h
  extract_lets whole rest' at h
  split at h
  · cases h
  · dsimp only at h
    split at h
    · rw [← (Prod.mk.inj (Option.some.inj h)).1]
      show Token.text? (if Numeral.digitLimit < whole.length then .tooLong else .scalar (.int _)) = none
      split <;> rfl
    · cases h
      rfl

/-- Neither a constant word nor a number stands for a text. -/
theorem text?_of_scalar? {cs rest : List Char} {token : Token} (h : scalar? cs = some (token, rest)) :
    token.text? = none := by
  have words : ∀ w ∈ constants, w.2.text? = none := by simp [constants, Value.text?]
  unfold scalar? at h
  rw [Option.orElse_eq_orElse, Option.orElse_eq_or, Option.or_eq_some_iff] at h
  rcases h with word | ⟨-, number⟩
  · obtain ⟨w, mem, word⟩ := List.exists_of_findSome?_eq_some word
    obtain ⟨behind, -, eq⟩ := Option.map_eq_some_iff.1 word
    cases eq
    exact words w mem
  · split at number
    · exact text?_of_number? number
    · exact text?_of_number? number

/-- A text is shorter than what writes it, by the two quotes. -/
theorem length_of_next? {cs rest : List Char} {token : Token} {s : String} (h : next? cs = some (token, rest))
    (text : token.text? = some s) : s.length + rest.length + 1 < cs.length := by
  unfold next? at h
  split at h
  case h_8 cs =>
    obtain ⟨⟨body, behind⟩, read, eq⟩ := Option.map_eq_some_iff.1 h
    cases eq
    cases text
    have shorter := length_of_text? read
    simp only [String.length_ofList, List.length_cons]
    omega
  case h_9 =>
    rw [text?_of_scalar? h] at text
    cases text
  all_goals
    cases h
    try cases text

/-! ## states of the reader -/

/-- Whether the reader is inside a container, or has read something that is no text. -/
def State.IsHeld : State → Prop
  | .value _ stack => stack ≠ []
  | .key .. => True
  | .colon .. => True
  | .done v stack => stack = [] → v.text? = none

/-- Who enters a container is inside it. -/
theorem isHeld_of_enter {stack : List Frame} {inside next : State} (h : State.enter stack inside = .ok next)
    (held : inside.IsHeld) : next.IsHeld := by
  unfold State.enter at h
  split at h
  · cases h
    exact held
  · cases h

/-- What is read inside a container ends up inside it. -/
theorem State.IsHeld.step {state next : State} {token : Token} (held : state.IsHeld)
    (h : state.step token = .ok next) : next.IsHeld := by
  unfold State.step at h
  split at h
  case h_1 => exact isHeld_of_enter h (List.cons_ne_nil _ _)
  case h_2 => exact isHeld_of_enter h trivial
  all_goals cases h
  -- a value that stands alone needs a stack that was empty before, or is a list or an object
  all_goals
    first
      | exact trivial
      | exact fun _ => rfl
      | exact List.cons_ne_nil _ _
      | exact fun empty => absurd empty held

/-- By induction on the tokens, the reader stays inside, or has read something that is no text. -/
theorem isHeld_of_foldlM {state last : State} {tokens : List Token} (held : state.IsHeld)
    (h : tokens.foldlM State.step state = .ok last) : last.IsHeld := by
  induction tokens generalizing state with
  | nil =>
      cases h
      exact held
  | cons token tokens ih =>
      rw [List.foldlM_cons] at h
      obtain ⟨next, step, h⟩ := bind_eq_ok_iff.1 h
      exact ih (held.step step) h

/-- The first token is a text, or leads inside. -/
theorem step_start {token : Token} {next : State} (h : (State.value false []).step token = .ok next) :
    next.IsHeld ∨ ∃ s, next = .done (.str s) [] ∧ token.text? = some s := by
  cases token with
  | openList => exact .inl (isHeld_of_enter h (List.cons_ne_nil _ _))
  | openObject => exact .inl (isHeld_of_enter h trivial)
  | text s =>
      cases h
      exact .inr ⟨s, rfl, rfl⟩
  | scalar v =>
      cases h
      cases v with
      | str s => exact .inr ⟨s, rfl, rfl⟩
      | _ => exact .inl fun _ => rfl
  | _ => cases h

/-- A text is what a single token stands for. -/
theorem exists_token_of_foldlM {tokens : List Token} {s : String}
    (h : tokens.foldlM State.step (.value false []) = .ok (.done (.str s) [])) :
    ∃ token, tokens = [token] ∧ token.text? = some s := by
  cases tokens with
  | nil => cases h
  | cons token tokens =>
      rw [List.foldlM_cons] at h
      obtain ⟨next, step, h⟩ := bind_eq_ok_iff.1 h
      rcases step_start step with held | ⟨t, rfl, text⟩
      · cases isHeld_of_foldlM held h rfl
      · cases tokens with
        | nil =>
            cases h
            exact ⟨token, rfl, text⟩
        | cons other tokens =>
            -- no token may follow a text that is not in a container
            cases other <;> cases h

/-! ## texts read from JSON text -/

/-- The first token is what can be read behind the space at the start. -/
theorem next?_of_tokensUpTo {fuel : Nat} {cs : List Char} {token : Token} {tokens : List Token}
    (h : tokensUpTo fuel cs = token :: tokens) :
    token = .bad ∨ ∃ more, next? (cs.dropWhile isSpace) = some (token, more) := by
  cases fuel with
  | zero => cases h
  | succ fuel =>
      unfold tokensUpTo at h
      split at h
      · cases h
      · next c rest solid =>
        split at h
        · cases h
          exact .inl rfl
        · next first more eq =>
          cases h
          exact .inr ⟨more, solid ▸ eq⟩

/-- A text is shorter than the JSON text that it is read from. -/
theorem length_lt_of_read {s t : String} (h : read s = .ok (.str t)) : t.length < s.length := by
  have run : (tokens s.toList).foldlM State.step (.value false []) = .ok (.done (.str t) []) := by
    obtain ⟨last, run, h⟩ := bind_eq_ok_iff.1 h
    split at h
    · cases h
      exact run
    · cases h
  obtain ⟨token, single, text⟩ := exists_token_of_foldlM run
  rcases next?_of_tokensUpTo single with rfl | ⟨more, eq⟩
  · cases text
  · have shorter := length_of_next? eq text
    have suffix := (List.dropWhile_sublist isSpace (l := s.toList)).length_le
    rw [String.length_toList] at suffix
    omega

/-- No JSON text holds itself. -/
theorem read_ne_self (s : String) : read s ≠ .ok (.str s) :=
  fun h => Nat.lt_irrefl _ (length_lt_of_read h)

end Pagewright.Json
