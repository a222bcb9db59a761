import Pagewright.Enrichment.RecentPosts
import Pagewright.Json.Reader

/-!
# Pagewright.Proofs.Enrichment.Provider

The provider of recent posts.  Whatever stands for the count, the source is asked once, for one of the possible
numbers or for the number of the settings, and the slot data get the first posts of its answer.  Only an infinite
count has no integer part to compare with the possible numbers, and there the provider fails before it asks.
-/

namespace Pagewright.Enrichment.RecentPosts

/-! ## counts -/

/-- Whether a datum asks for a number of posts: it is no truth value, and its integer is a possible number. -/
structure Asks (v : Value) (n : Int) : Prop where
  given : v ≠ .null
  number : ∀ b, v ≠ .bool b
  reads : v.toInteger = .ok n
  possible : n ∈ [3, 6, 9, 12]

/-- Whether a number is the one that the source is asked for. -/
def IsLimit (settings : Settings) (v : Value) (n : Int) : Prop :=
  Asks v n ∨ (∀ m, ¬ Asks v m) ∧ n = settings.recentPostsDefaultCount

variable {settings : Settings} {v : Value}

/-- The source is asked for one of four numbers, or for the usual one. -/
theorem IsLimit.mem {n : Int} (h : IsLimit settings v n) :
    n ∈ [3, 6, 9, 12] ∨ n = settings.recentPostsDefaultCount :=
  h.imp Asks.possible And.right

/-- So it is never asked for a negative number if the usual one is none. -/
theorem IsLimit.nonneg {n : Int} (h : IsLimit settings v n) (default : 0 ≤ settings.recentPostsDefaultCount) :
    0 ≤ n := by
  rcases h.mem with possible | rfl
  · simp only [List.mem_cons, List.not_mem_nil, or_false] at possible
    omega
  · exact default

/-- A datum asks for at most one number. -/
theorem Asks.unique {n m : Int} (hn : Asks v n) (hm : Asks v m) : m = n :=
  Except.ok.inj (hm.reads.symm.trans hn.reads)

/-- A number has no integer part because it is too large exactly when it is infinite. -/
theorem toInteger_eq_overflow_iff : v.toInteger = .error .overflow ↔ ∃ negative, v = .float (.infinite negative) := by
  constructor
  · intro h
    cases v with
    | float x =>
        cases x with
        | infinite negative => exact ⟨negative, rfl⟩
        | _ => cases h
    | str s =>
        unfold Value.toInteger at h
        dsimp only at h
        split at h <;> cases h
    | _ => cases h
  · rintro ⟨negative, rfl⟩
    rfl

/-- A datum that is given and is no truth value is converted, and checked only then. -/
theorem count_of_not_bool (settings : Settings) (given : v ≠ .null) (number : ∀ b, v ≠ .bool b) :
    count settings v =
      match v.toInteger with
      | .ok n => .ok (if counts.contains n then n else settings.recentPostsDefaultCount)
      | .error .overflow => .error .overflow
      | .error _ => .ok settings.recentPostsDefaultCount := by
  cases v with
  | null => exact absurd rfl given
  | bool b => exact absurd rfl (number b)
  | _ => rfl

/-- Every count but an infinite one gives a number to ask for. -/
theorem exists_count (settings : Settings) (finite : ∀ negative, v ≠ .float (.infinite negative)) :
    ∃ n, count settings v = .ok n ∧ IsLimit settings v n := by
  have default (none : ∀ m, ¬ Asks v m) : IsLimit settings v settings.recentPostsDefaultCount := .inr ⟨none, rfl⟩
  -- null and truth values stand for the number of the settings before anything is read as an integer
  by_cases given : v = .null
  · exact ⟨_, given ▸ rfl, default fun m asks => asks.given given⟩
  by_cases number : ∃ b, v = .bool b
  · obtain ⟨b, rfl⟩ := number
    exact ⟨_, rfl, default fun m asks => asks.number b rfl⟩
  have number := not_exists.1 number
  rw [count_of_not_bool settings given number]
  cases reads : v.toInteger with
  | ok n =>
      refine ⟨_, rfl, ?_⟩
      split
      · next possible => exact .inl ⟨given, number, reads, List.contains_iff_mem.1 possible⟩
      · next impossible =>
        refine default fun m asks => impossible (List.contains_iff_mem.2 ?_)
        cases reads.symm.trans asks.reads
        exact asks.possible
  | error e =>
      have none (m : Int) (asks : Asks v m) : False := nomatch reads.symm.trans asks.reads
      cases e with
      | overflow =>
          obtain ⟨negative, infinite⟩ := toInteger_eq_overflow_iff.1 reads
          exact absurd infinite (finite negative)
      | _ => exact ⟨_, rfl, default none⟩

/-! ## the provider -/

theorem takeSigned_of_nonneg {α : Type} {n : Int} (h : 0 ≤ n) (xs : List α) : takeSigned n xs = xs.take n.toNat := by
  rw [takeSigned, if_pos h]

/-- The answer of the provider to slot data, made with the posts that a source lists. -/
structure IsAnswer (listing : Int → List Value) (data : Members) (n : Int) (answer : Members) : Prop where
  posts : answer.get? "posts" =
    some (.list ((((listing n).filterMap Value.members?).take n.toNat).map shown))
  others : ∀ key ≠ "posts", answer.get? key = data.get? key

/-- The provider asks the source once, for the number that the slot data ask for or the number of the settings, and
answers with the first posts of the list, unless the count is infinite: then it fails and asks for nothing. -/
theorem provider_answers_iff (default : 0 ≤ settings.recentPostsDefaultCount) (listing : Int → List Value)
    (data : Members) :
    ((∃ n answer, (n ∈ [3, 6, 9, 12] ∨ n = settings.recentPostsDefaultCount) ∧
        IsLimit settings (data.get "count") n ∧
        provider settings (fun n => .ok (listing n)) data = ⟨[n], .ok (.obj answer)⟩ ∧
        IsAnswer listing data n answer) ↔
      ∀ negative, data.get "count" ≠ .float (.infinite negative)) ∧
    ∀ negative, data.get "count" = .float (.infinite negative) →
      provider settings (fun n => .ok (listing n)) data = ⟨[], .error (.fault .overflow)⟩ := by
  have infinite (negative : Bool) (h : data.get "count" = .float (.infinite negative)) :
      provider settings (fun n => .ok (listing n)) data = ⟨[], .error (.fault .overflow)⟩ := by
    rw [provider, h]
    rfl
  refine ⟨⟨?_, fun finite => ?_⟩, infinite⟩
  · rintro ⟨n, answer, -, -, made, -⟩ negative h
    rw [infinite negative h] at made
    cases made
  -- a count that is not infinite comes to a number, asked for or usual
  · obtain ⟨n, counted, limit⟩ := exists_count settings finite
    refine ⟨n, data.set "posts" (.list (takeSigned n ((posts (listing n)).map shown))), limit.mem, limit, ?_, ?_, ?_⟩
    · rw [provider, counted]
    · rw [Members.get?_set_self, takeSigned_of_nonneg (limit.nonneg default), ← List.map_take]
      rfl
    · exact fun key other => Members.get?_set_of_ne other _ _

/-- Posts with other things among them. -/
def mixedPosts : List Value :=
  [.str "draft", .obj [("title", .str "A")], .null, .obj [("title", .str "B")], .obj [("title", .str "C")],
    .obj [("title", .str "D")]]

/-- The count is read from a text with blanks, and what is no post is dropped before the posts are counted. -/
theorem provider_answers_iff_mixed :
    0 ≤ ({} : Settings).recentPostsDefaultCount ∧
      ∃ answer : Members, provider {} (fun _ => .ok mixedPosts) [("count", .str " 3 "), ("heading", .str "Latest")] =
          ⟨[3], .ok (.obj answer)⟩ ∧
        answer.get? "posts" = some (.list [shown [("title", .str "A")], shown [("title", .str "B")],
          shown [("title", .str "C")]]) ∧
        answer.get? "heading" = some (.str "Latest") := by
  have default : 0 ≤ ({} : Settings).recentPostsDefaultCount := by decide
  refine ⟨default, ?_⟩
  obtain ⟨n, answer, -, -, made, whole⟩ := (provider_answers_iff default (fun _ => mixedPosts)
    [("count", .str " 3 "), ("heading", .str "Latest")]).1.2 nofun
  have asked : (provider {} (fun _ => .ok mixedPosts) [("count", .str " 3 "), ("heading", .str "Latest")]).requests =
      [3] := rfl
  rw [made, List.cons.injEq] at asked
  obtain ⟨rfl, -⟩ := asked
  exact ⟨answer, made, whole.posts, whole.others "heading" (by decide)⟩

/-- A count that JSON text can hold and for which the provider fails. -/
theorem provider_fails_at_infinity :
    Json.read "\x7b\"count\": 1e400\x7d" = .ok (.obj [("count", .float (.infinite false))]) ∧
      provider {} noPosts [("count", .float (.infinite false))] = ⟨[], .error (.fault .overflow)⟩ :=
  ⟨rfl, rfl⟩

end Pagewright.Enrichment.RecentPosts
