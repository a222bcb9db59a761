import Mathlib.Data.List.TakeWhile
import Pagewright.Proofs.Value.Members
import Pagewright.Slot.Check

/-!
# Pagewright.Proofs.Slot.Declaration

The declarations of slots that the check accepts.  What a declaration is, is said here without any message: a
list of records with distinct keys, a label and a known type each, where a selection has options and a list a
declaration of the slots of its items.  The check accepts the declarations whose keys are as documented, and
those in which some keys have a line feed behind them, and nothing else.
-/

namespace Pagewright.Slot

/-! ## what declarations are -/

/-- A key as documented: small letters, digits and underscores, at least one. -/
def IsKeyText (key : String) : Prop :=
  key ≠ "" ∧ ∀ c ∈ key.toList, ('a' ≤ c ∧ c ≤ 'z') ∨ ('0' ≤ c ∧ c ≤ '9') ∨ c = '_'

/-- What passes for a key: a key, or a key with a line feed behind it. -/
def PassesForKey (key : String) : Prop := IsKeyText key ∨ ∃ body, IsKeyText body ∧ key = body ++ "\n"

/-- The types of slots. -/
def knownTypes : List String :=
  ["text", "richtext", "image", "link", "select", "boolean", "number", "list", "object"]

/-- Whether a record has a list with items under a key. -/
def HasItems (key : String) (ms : Members) : Prop := ∃ items, ms.get key = .list items ∧ items ≠ []

/-- Whether a record declares a list whose items have these slots. -/
def Nests (ms : Members) (subSlots : List Value) : Prop :=
  ms.get "type" = .str "list" ∧ ms.get "sub_slots" = .list subSlots

/-- The record of a slot, apart from its key and from what is inside its own slots. -/
structure IsSlot (ms : Members) : Prop where
  labelled : ∃ label, ms.get "label" = .str label ∧ label ≠ ""
  typed : ∃ type ∈ knownTypes, ms.get "type" = .str type
  choice : ms.get "type" = .str "select" → HasItems "options" ms
  nest : ms.get "type" = .str "list" → HasItems "sub_slots" ms

/-- Records of slots with distinct keys, all the way down.  `IsKey` says which texts are keys. -/
inductive IsDeclaration (IsKey : String → Prop) : List Value → Prop
  | mk {records : List Members} {keys : List String} (keyed : records.map (Members.get "key") = keys.map .str)
      (sound : ∀ key ∈ keys, IsKey key) (distinct : keys.Nodup) (each : ∀ ms ∈ records, IsSlot ms)
      (inside : ∀ ms ∈ records, ∀ subSlots, Nests ms subSlots → IsDeclaration IsKey subSlots) :
      IsDeclaration IsKey (records.map .obj)

/-- The keys in a declaration, at any depth. -/
inductive DeclaresKey : List Value → String → Prop
  | here {items : List Value} {ms : Members} {key : String} (mem : .obj ms ∈ items)
      (keyed : ms.get "key" = .str key) : DeclaresKey items key
  | inside {items subSlots : List Value} {ms : Members} {key : String} (mem : .obj ms ∈ items)
      (nests : Nests ms subSlots) (deeper : DeclaresKey subSlots key) : DeclaresKey items key

/-! ## keys -/

/-- The check's own characters are the documented ones. -/
theorem isKeyChar_iff (c : Char) :
    isKeyChar c = true ↔ ('a' ≤ c ∧ c ≤ 'z') ∨ ('0' ≤ c ∧ c ≤ '9') ∨ c = '_' := by
  simp [isKeyChar, Char.isDigit, or_assoc]
  rfl

/-- A key, said of its characters. -/
theorem isKeyText_iff (key : String) :
    IsKeyText key ↔ key.toList ≠ [] ∧ ∀ c ∈ key.toList, isKeyChar c = true := by
  simp only [IsKeyText, isKeyChar_iff, ne_eq, String.toList_eq_nil_iff]

theorem isKeyText_ofList (cs : List Char) :
    IsKeyText (String.ofList cs) ↔ cs ≠ [] ∧ ∀ c ∈ cs, isKeyChar c = true := by
  rw [isKeyText_iff, String.toList_ofList]

/-- The check takes a key also with one line feed behind it, in front of which its pattern may end. -/
theorem isKey_iff (key : String) : isKey key.toList = true ↔ PassesForKey key := by
  have parts : key.toList.takeWhile isKeyChar ++ key.toList.dropWhile isKeyChar = key.toList :=
    List.takeWhile_append_dropWhile
  unfold isKey PassesForKey
  simp only [Bool.and_eq_true, Bool.or_eq_true, beq_iff_eq, Bool.not_eq_true', List.isEmpty_eq_false_iff]
  constructor
  · rintro ⟨nonempty, none | lineFeed⟩
    · rw [none, List.append_nil] at parts
      exact .inl ((isKeyText_iff key).2 ⟨parts ▸ nonempty, parts ▸ fun c mem => List.mem_takeWhile_imp mem⟩)
    · refine .inr ⟨String.ofList (key.toList.takeWhile isKeyChar), (isKeyText_ofList _).2 ⟨nonempty, ?_⟩, ?_⟩
      · exact fun c mem => List.mem_takeWhile_imp mem
      · rw [lineFeed] at parts
        rw [← String.toList_inj, String.toList_append, String.toList_ofList]
        exact parts.symm
  · rintro (key' | ⟨body, key', rfl⟩)
    · obtain ⟨nonempty, sound⟩ := (isKeyText_iff key).1 key'
      rw [List.takeWhile_eq_self_iff.2 sound, List.dropWhile_eq_nil_iff.2 sound]
      exact ⟨nonempty, .inl rfl⟩
    · obtain ⟨nonempty, sound⟩ := (isKeyText_iff body).1 key'
      rw [String.toList_append, List.takeWhile_append_of_pos sound, List.dropWhile_append_of_pos sound]
      exact ⟨List.append_ne_nil_of_left_ne_nil nonempty _, .inr rfl⟩

/-- The empty text does not pass. -/
theorem PassesForKey.ne_empty {key : String} (h : PassesForKey key) : key ≠ "" := by
  rcases h with h | ⟨body, -, rfl⟩
  · exact h.1
  · intro eq
    simpa using congrArg String.toList eq

/-- A text that passes for a key is one, unless it has a line feed behind it. -/
theorem isKeyText_iff_passes (key : String) :
    IsKeyText key ↔ PassesForKey key ∧ ¬ ∃ body, key = body ++ "\n" := by
  constructor
  · refine fun h => ⟨.inl h, ?_⟩
    rintro ⟨body, rfl⟩
    have sound := h.2 '\n' (by simp)
    revert sound
    decide
  · rintro ⟨h | ⟨body, -, eq⟩, other⟩
    · exact h
    · exact absurd ⟨body, eq⟩ other

/-- A record's key has no flaw exactly when it is a key that no record before has. -/
theorem keyFlaw?_eq_none_iff {seen : List String} {key : Value} :
    keyFlaw? seen key = none ↔ ∃ text, key = .str text ∧ PassesForKey text ∧ text ∉ seen := by
  cases key with
  | str text =>
      simp only [Value.str.injEq, exists_eq_left', keyFlaw?]
      constructor
      · intro none
        split at none
        · cases none
        split at none
        · cases none
        split at none
        · cases none
        next sound new =>
        exact ⟨(isKey_iff text).1 (by simpa using sound), by simpa using new⟩
      · rintro ⟨passes, new⟩
        have nonempty : text.isEmpty = false := by simpa using passes.ne_empty
        have sound := (isKey_iff text).2 passes
        have fresh : seen.contains text = false := by simpa using new
        rw [nonempty, sound, fresh]
        rfl
  | _ => simp [keyFlaw?]

/-- A key without a flaw is remembered for the records behind it. -/
theorem noteKey_of_flawless {seen : List String} {text : String} (h : keyFlaw? seen (.str text) = none) :
    noteKey seen (.str text) = text :: seen := by
  simp only [noteKey, h]

/-! ## records -/

theorem isNonEmptyText_iff (v : Value) : isNonEmptyText v = true ↔ ∃ text, v = .str text ∧ text ≠ "" := by
  cases v <;> simp [isNonEmptyText]

/-- The names of the kinds are the known types, and two of them matter. -/
theorem type_of_mem_names : ∀ entry ∈ Kind.names, entry.1 ∈ knownTypes ∧
    (entry.1 = "select" ↔ entry.2 = .select) ∧ (entry.1 = "list" ↔ entry.2 = .list) := by
  decide

/-- Each known type names a kind. -/
theorem isSome_ofName? : ∀ type ∈ knownTypes, (Kind.ofName? type).isSome := by
  decide

/-- A kind is found by its name in the table. -/
theorem mem_names_of_ofName? {type : String} {kind : Kind} (h : Kind.ofName? type = some kind) :
    (type, kind) ∈ Kind.names := by
  obtain ⟨before, after, eq, -⟩ := List.lookup_eq_some_iff.1 h
  rw [eq]
  exact List.mem_append_right _ List.mem_cons_self

/-- So a record of some kind has that kind's name for its type. -/
theorem get_of_kind {ms : Members} {kind : Kind} (h : (ms.get "type").text?.bind Kind.ofName? = some kind) :
    ∃ type, ms.get "type" = .str type ∧ (type, kind) ∈ Kind.names := by
  obtain ⟨type, text, name⟩ := Option.bind_eq_some_iff.1 h
  refine ⟨type, ?_, mem_names_of_ofName? name⟩
  cases given : ms.get "type" with
  | str other =>
      rw [given] at text
      cases text
      rfl
  | _ =>
      rw [given] at text
      cases text

/-- For a record of a known kind, being a slot comes down to its label and to what its kind asks for. -/
theorem isSlot_iff {ms : Members} {kind : Kind} (h : (ms.get "type").text?.bind Kind.ofName? = some kind) :
    IsSlot ms ↔ isNonEmptyText (ms.get "label") = true ∧
      (kind = .select → HasItems "options" ms) ∧ (kind = .list → HasItems "sub_slots" ms) := by
  obtain ⟨type, given, mem⟩ := get_of_kind h
  obtain ⟨known, select, list⟩ := type_of_mem_names _ mem
  rw [isNonEmptyText_iff, ← select, ← list]
  constructor
  · rintro ⟨labelled, -, choice, nest⟩
    rw [given, Value.str.injEq] at choice nest
    exact ⟨labelled, choice, nest⟩
  · rintro ⟨labelled, choice, nest⟩
    refine ⟨labelled, ⟨type, known, given⟩, ?_, ?_⟩
    all_goals rw [given, Value.str.injEq]
    · exact choice
    · exact nest

/-- A record without a known type is no slot. -/
theorem not_isSlot {ms : Members} (h : (ms.get "type").text?.bind Kind.ofName? = none) : ¬ IsSlot ms := by
  rintro ⟨-, ⟨type, known, given⟩, -, -⟩
  rw [given] at h
  have found := isSome_ofName? type known
  rw [Value.text?, Option.bind_some] at h
  rw [h] at found
  cases found

/-- Only lists nest slots. -/
theorem nests_iff {ms : Members} {kind : Kind} (h : (ms.get "type").text?.bind Kind.ofName? = some kind)
    (subSlots : List Value) : Nests ms subSlots ↔ kind = .list ∧ ms.get "sub_slots" = .list subSlots := by
  obtain ⟨type, given, mem⟩ := get_of_kind h
  rw [Nests, given, Value.str.injEq, (type_of_mem_names _ mem).2.2]

section

variable {path : String} {index : Nat} {seen : List String} {ms : Members}

/-- Checking a record finds nothing exactly when the key and the record are sound, and neither does checking
the slots inside it. -/
theorem checkRecord_eq_nil_iff :
    checkRecord path seen ms = [] ↔ keyFlaw? seen (ms.get "key") = none ∧ IsSlot ms ∧
      ∀ subSlots, Nests ms subSlots → checkItems (path ++ ".sub_slots") 0 [] subSlots = [] := by
  have label (b : Bool) (m : String) : (if b = true then [] else [m]) = ([] : List String) ↔ b = true := by
    cases b <;> simp
  rw [checkRecord]
  simp only [List.append_eq_nil_iff, Option.toList_eq_nil_iff, Option.map_eq_none_iff, label]
  rw [and_assoc]
  refine and_congr_right fun _ => ?_
  cases h : (ms.get "type").text?.bind Kind.ofName? with
  | none => simp [not_isSlot h]
  | some kind =>
      simp only [isSlot_iff h, nests_iff h, and_assoc]
      refine and_congr_right fun _ => ?_
      cases kind
      case select =>
        simp only [true_implies, reduceCtorEq, false_implies, false_and, implies_true, and_true]
        split
        · next item items given => simp [HasItems, given]
        · next other =>
          simp only [reduceCtorEq, false_iff]
          rintro ⟨_ | ⟨item, items⟩, given, nonempty⟩
          · exact nonempty rfl
          · exact other item items given
      case list =>
        simp only [true_implies, reduceCtorEq, false_implies, true_and]
        split
        · next item items found =>
          simp [HasItems, Members.get_of_get? found]
        · next other =>
          simp only [reduceCtorEq, false_iff, not_and]
          rintro ⟨_ | ⟨item, items⟩, given, nonempty⟩
          · exact absurd rfl nonempty
          · exact absurd (Members.get?_of_get given Value.noConfusion) (other item items)
      all_goals simp

/-- What is nested is smaller: the induction is on the size. -/
theorem Nests.sizeOf_lt {subSlots : List Value} (h : Nests ms subSlots) : sizeOf subSlots < sizeOf ms := by
  have smaller := Members.sizeOf_lt_of_get? (Members.get?_of_get h.2 Value.noConfusion)
  rw [Value.list.sizeOf_spec] at smaller
  omega

/-! ## lists of records -/

/-- Records of slots whose keys are distinct and of one sort, and what they nest is of another one. -/
def AreSlots (IsKey : String → Prop) (Inside : List Value → Prop) (items : List Value) : Prop :=
  ∃ (records : List Members) (keys : List String), items = records.map .obj ∧
    records.map (Members.get "key") = keys.map .str ∧ (∀ key ∈ keys, IsKey key) ∧ keys.Nodup ∧
    ∀ ms ∈ records, IsSlot ms ∧ ∀ subSlots, Nests ms subSlots → Inside subSlots

/-- A declaration, one level down. -/
theorem isDeclaration_iff {IsKey : String → Prop} {items : List Value} :
    IsDeclaration IsKey items ↔ AreSlots IsKey (IsDeclaration IsKey) items := by
  constructor
  · rintro ⟨keyed, sound, distinct, each, inside⟩
    exact ⟨_, _, rfl, keyed, sound, distinct, fun ms mem => ⟨each ms mem, inside ms mem⟩⟩
  · rintro ⟨records, keys, rfl, keyed, sound, distinct, each⟩
    exact .mk keyed sound distinct (fun ms mem => (each ms mem).1) fun ms mem => (each ms mem).2

/-- Records one by one: those behind a record may not use its key again. -/
theorem areSlots_cons {IsKey : String → Prop} {Inside : List Value → Prop} {v : Value} {rest : List Value} :
    AreSlots IsKey Inside (v :: rest) ↔ ∃ (ms : Members) (key : String), v = .obj ms ∧
      ms.get "key" = .str key ∧ IsKey key ∧ (IsSlot ms ∧ ∀ subSlots, Nests ms subSlots → Inside subSlots) ∧
      AreSlots (fun other => IsKey other ∧ other ≠ key) Inside rest := by
  constructor
  · rintro ⟨_ | ⟨ms, records⟩, keys, eq, keyed, sound, distinct, each⟩
    · cases eq
    cases eq
    obtain ⟨key, keys, rfl, given, keyed⟩ := List.map_eq_cons_iff.1 keyed.symm
    obtain ⟨new, distinct⟩ := List.nodup_cons.1 distinct
    obtain ⟨first, sound⟩ := List.forall_mem_cons.1 sound
    obtain ⟨here, each⟩ := List.forall_mem_cons.1 each
    refine ⟨ms, key, rfl, given.symm, first, here, records, keys, rfl, keyed.symm, ?_, distinct, each⟩
    exact fun other mem => ⟨sound other mem, fun same => new (same ▸ mem)⟩
  · rintro ⟨ms, key, rfl, given, first, here, records, keys, rfl, keyed, sound, distinct, each⟩
    refine ⟨ms :: records, key :: keys, rfl, ?_, ?_, ?_, List.forall_mem_cons.2 ⟨here, each⟩⟩
    · rw [List.map_cons, List.map_cons, given, keyed]
    · exact List.forall_mem_cons.2 ⟨first, fun other mem => (sound other mem).1⟩
    · exact List.nodup_cons.2 ⟨fun mem => (sound key mem).2 rfl, distinct⟩

/-- Checking records finds nothing exactly when they are those of a declaration whose keys are new. -/
theorem checkItems_eq_nil_iff (items : List Value) (path : String) (index : Nat) (seen : List String) :
    checkItems path index seen items = [] ↔
      AreSlots (fun key => PassesForKey key ∧ key ∉ seen) (IsDeclaration PassesForKey) items := by
  match items with
  | [] =>
      rw [checkItems]
      exact iff_of_true rfl ⟨[], [], rfl, rfl, List.forall_mem_nil _, .nil, List.forall_mem_nil _⟩
  | .obj ms :: rest =>
      -- slots inside are checked with no key seen: keys clash on their own level only
      have inside (subSlots : List Value) (nests : Nests ms subSlots) :
          checkItems (itemPath path index ++ ".sub_slots") 0 [] subSlots = [] ↔
            IsDeclaration PassesForKey subSlots := by
        have := nests.sizeOf_lt
        rw [checkItems_eq_nil_iff subSlots, isDeclaration_iff]
        simp only [List.not_mem_nil, not_false_eq_true, and_true]
      have later := checkItems_eq_nil_iff rest path (index + 1)
      rw [checkItems, List.append_eq_nil_iff, checkRecord_eq_nil_iff, areSlots_cons]
      simp only [forall₂_congr inside]
      constructor
      · rintro ⟨⟨flawless, slot⟩, others⟩
        obtain ⟨key, given, passes, new⟩ := keyFlaw?_eq_none_iff.1 flawless
        rw [given] at flawless
        rw [given, noteKey_of_flawless flawless, later] at others
        refine ⟨ms, key, rfl, given, ⟨passes, new⟩, slot, ?_⟩
        simpa only [List.mem_cons, not_or, and_assoc, and_comm] using others
      · rintro ⟨ms, key, eq, given, ⟨passes, new⟩, slot, others⟩
        cases eq
        have flawless := keyFlaw?_eq_none_iff.2 ⟨key, rfl, passes, new⟩
        rw [given, noteKey_of_flawless flawless, later]
        refine ⟨⟨flawless, slot⟩, ?_⟩
        simpa only [List.mem_cons, not_or, and_assoc, and_comm] using others
  | .null :: _ | .bool _ :: _ | .int _ :: _ | .float _ :: _ | .str _ :: _ | .list _ :: _ =>
      rw [checkItems, areSlots_cons]
      · simp only [reduceCtorEq, false_and, exists_false]
      · intro _ eq
        cases eq
termination_by sizeOf items
decreasing_by
  · simp only [List.cons.sizeOf_spec, Value.obj.sizeOf_spec]
    omega
  · simp only [List.cons.sizeOf_spec]
    omega

end

/-! ## declarations -/

/-- Every key in a declaration is of its sort of keys. -/
theorem IsDeclaration.of_declaresKey {IsKey : String → Prop} {items : List Value} {key : String}
    (declares : DeclaresKey items key) (declaration : IsDeclaration IsKey items) : IsKey key := by
  induction declares with
  | here mem given =>
      obtain ⟨keyed, sound, -, -, -⟩ := declaration
      obtain ⟨ms, mem, eq⟩ := List.mem_map.1 mem
      cases eq
      have listed := List.mem_map_of_mem (f := Members.get "key") mem
      rw [keyed, given] at listed
      obtain ⟨key, mem, eq⟩ := List.mem_map.1 listed
      cases eq
      exact sound _ mem
  | inside mem nests _ ih =>
      obtain ⟨-, -, -, -, inside⟩ := declaration
      obtain ⟨ms, mem, eq⟩ := List.mem_map.1 mem
      cases eq
      exact ih (inside _ mem _ nests)

/-- A declaration stays one for another sort of keys, if all keys in it are of that sort. -/
theorem IsDeclaration.of_keys {IsKey IsKey' : String → Prop} {items : List Value}
    (declaration : IsDeclaration IsKey items) (keys : ∀ key, DeclaresKey items key → IsKey' key) :
    IsDeclaration IsKey' items := by
  induction declaration with
  | mk keyed _ distinct each inside ih =>
      refine .mk keyed (fun key mem => ?_) distinct each fun ms mem subSlots nests => ?_
      · have listed := List.mem_map_of_mem (f := Value.str) mem
        rw [← keyed] at listed
        obtain ⟨ms, mem, given⟩ := List.mem_map.1 listed
        exact keys key (.here (List.mem_map_of_mem mem) given)
      · exact ih ms mem subSlots nests fun key declares =>
          keys key (.inside (List.mem_map_of_mem mem) nests declares)

/-- The check of a list begins with no keys and no path. -/
theorem check_list_eq_nil_iff (items : List Value) :
    check (.list items) = [] ↔ IsDeclaration PassesForKey items := by
  rw [check, checkItems_eq_nil_iff, isDeclaration_iff]
  simp only [List.not_mem_nil, not_false_eq_true, and_true]

/-- The documented declarations are those that have no key with a line feed behind it. -/
theorem isDeclaration_isKeyText_iff (items : List Value) :
    IsDeclaration IsKeyText items ↔ IsDeclaration PassesForKey items ∧
      ∀ key, DeclaresKey items key → ¬ ∃ body, key = body ++ "\n" := by
  constructor
  · intro declaration
    have plain (key : String) (declares : DeclaresKey items key) :=
      (isKeyText_iff_passes key).1 (declaration.of_declaresKey declares)
    refine ⟨declaration.of_keys fun key declares => (plain key declares).1, ?_⟩
    exact fun key declares => (plain key declares).2
  · rintro ⟨declaration, plain⟩
    exact declaration.of_keys fun key declares =>
      (isKeyText_iff_passes key).2 ⟨declaration.of_declaresKey declares, plain key declares⟩

/-- The check accepts exactly the lists that are declarations all the way down, where a key may have a line
feed behind it.  So the documented declarations are what it accepts and has no such key at any depth. -/
theorem check_declaration_iff (v : Value) :
    (check v = [] ↔ ∃ items, v = .list items ∧ IsDeclaration PassesForKey items) ∧
    ((∃ items, v = .list items ∧ IsDeclaration IsKeyText items) ↔
      check v = [] ∧
        ∀ items, v = .list items → ∀ key, DeclaresKey items key → ¬ ∃ body, key = body ++ "\n") := by
  cases v with
  | list items =>
      simp only [check_list_eq_nil_iff, Value.list.injEq, exists_eq_left', forall_eq',
        isDeclaration_isKeyText_iff, and_self]
  | _ => simp [check]

/-- A text slot whose key has a line feed behind it. -/
def lineFeedSlot : Members := [("key", .str "title\n"), ("label", .str "Title"), ("type", .str "text")]

/-- The check takes the slot, which is not as documented. -/
theorem check_lineFeedSlot :
    check (.list [.obj lineFeedSlot]) = [] ∧ ¬ IsDeclaration IsKeyText [.obj lineFeedSlot] := by
  have declared : DeclaresKey [.obj lineFeedSlot] "title\n" := .here List.mem_cons_self rfl
  have text : IsKeyText "title" := by simp [IsKeyText]
  have passes : PassesForKey "title\n" := .inr ⟨"title", text, rfl⟩
  have type : lineFeedSlot.get "type" = .str "text" := rfl
  have slot : IsSlot lineFeedSlot := by
    refine ⟨⟨"Title", rfl, by decide⟩, ⟨"text", by decide, type⟩, ?_, ?_⟩
    all_goals simp [type]
  refine ⟨(check_list_eq_nil_iff [.obj lineFeedSlot]).2 (isDeclaration_iff.2 ?_), fun declaration => ?_⟩
  · refine ⟨[lineFeedSlot], ["title\n"], rfl, rfl, List.forall_mem_singleton.2 passes,
      List.pairwise_singleton _ _, List.forall_mem_singleton.2 ⟨slot, fun subSlots nests => ?_⟩⟩
    simp [Nests, type] at nests
  · exact ((isDeclaration_isKeyText_iff _).1 declaration).2 _ declared ⟨"title", rfl⟩

end Pagewright.Slot
