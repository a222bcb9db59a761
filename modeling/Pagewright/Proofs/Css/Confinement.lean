import Pagewright.Page.Container
import Pagewright.Proofs.Css.Cleaning
import Pagewright.Proofs.Css.Scoped

/-!
# Pagewright.Proofs.Css.Confinement

What confining CSS to a container achieves.  `IsRule` finds the style rules of a sheet, at the top and
inside grouping at-rules at any depth, and `prelude` their selector lists, both with regard to quotes.
The rules that come out are those that went in, with their lists put into the scope, and rules for the
container itself.  So author CSS comes out confined just if every one of its rules admits it
(`isConfinedSheet_scope_iff`).
-/

namespace Pagewright.Css

open Text Nesting

variable {scope : List Char}

/-! ## the rules of a sheet -/

/-- The text in front of the first brace outside quotes. -/
def preludeFrom (quote : Option Char) : List Char → List Char
  | [] => []
  | c :: cs => if quote = none ∧ c = '\x7b' then [] else c :: preludeFrom (nextQuote quote c) cs

/-- The selector list of a rule. -/
def prelude (rule : List Char) : List Char := preludeFrom none rule

/-- The text between the braces of a block. -/
def blockBody (block : List Char) : List Char := (block.drop ((prelude block).length + 1)).dropLast

/-- A style rule of a sheet, at the top or inside a grouping at-rule. -/
inductive IsRule (rule : List Char) : List Char → Prop
  | top {sheet : List Char} (block : ⟨.block, rule⟩ ∈ items sheet) (plain : atRuleName rule = []) :
      IsRule rule sheet
  | inside {sheet group : List Char} (block : ⟨.block, group⟩ ∈ items sheet)
      (grouped : groupingNames.contains (atRuleName group) = true)
      (inner : IsRule rule (blockBody group)) : IsRule rule sheet

/-- Whether all selectors of a rule are confined to a scope. -/
def IsConfinedRule (scope rule : List Char) : Prop :=
  ∀ member ∈ members (prelude rule), IsConfined scope member

/-- Whether all rules of a sheet are confined to a scope. -/
def IsConfinedSheet (scope sheet : List Char) : Prop :=
  ∀ rule, IsRule rule sheet → IsConfinedRule scope rule

/-- A prelude goes on over text without braces, from the quote that it leaves open. -/
theorem preludeFrom_append {cs : List Char} (h : '\x7b' ∉ cs) (quote : Option Char) (ds : List Char) :
    preludeFrom quote (cs ++ ds) = cs ++ preludeFrom (quoteAfter quote cs) ds := by
  induction cs generalizing quote with
  | nil => rfl
  | cons c cs ih =>
      rw [List.mem_cons, not_or] at h
      rw [List.cons_append, preludeFrom, if_neg fun e => h.1 e.2.symm, ih h.2]
      rfl

/-- What a prelude has behind its first brace. -/
theorem isEnd_preludeFrom {s : Nesting} (rest : List Char) :
    IsEnd s (preludeFrom s.quote ('\x7b' :: rest)) := by
  rw [preludeFrom]
  by_cases outer : s.quote = none
  · rw [if_pos ⟨outer, rfl⟩]
    exact .inl rfl
  · rw [if_neg fun e => outer e.1]
    exact .inr ⟨outer, _, rfl⟩

/-! ## rules of a tree -/

/-- A style rule in a tree of parts. -/
inductive Part.HasRule (rule : List Char) : Part → Prop
  | here (plain : atRuleName rule = []) : HasRule rule (.item .block rule)
  | inside {header : List Char} {inner : List Part} {p : Part} (mem : p ∈ inner)
      (has : p.HasRule rule) : HasRule rule (.group header inner)

/-- The body of a group is what stands in it. -/
theorem blockBody_print {header : List Char} {inner : List Part} (isHeader : IsHeader header) :
    blockBody (Part.group header inner).print = join ['\n'] (printParts inner) := by
  have quote : quoteAfter none header = none := by
    have closed := congrArg Nesting.quote isHeader.closed
    rwa [quote_after] at closed
  have front : prelude (Part.group header inner).print = header := by
    rw [prelude, Part.print, List.append_assoc, preludeFrom_append isHeader.noBrace, quote]
    simp [preludeFrom]
  rw [blockBody, front, Part.print]
  simp

/-- A rule without a name is no group. -/
theorem not_grouped_nil : groupingNames.contains ([] : List Char) = false := by decide

/-- A rule of a text stands in its tree. -/
theorem exists_hasRule_of_isRule {rule : List Char} {ps : List Part} (sound : ∀ p ∈ ps, p.IsSound)
    (closed : ps.Pairwise fun p _ => p.IsClosed) (h : IsRule rule (join ['\n'] (printParts ps))) :
    ∃ p ∈ ps, p.HasRule rule := by
  generalize eq : join ['\n'] (printParts ps) = sheet at h
  -- a block of the text is the text of a part: a plain rule that of an item, a group that of a group
  induction h generalizing ps with
  | top block plain =>
      rw [← eq, items_join_printParts sound closed] at block
      obtain ⟨p, hp, hitem⟩ := List.mem_map.1 block
      cases sound p hp with
      | item =>
          cases hitem
          exact ⟨_, hp, .here plain⟩
      | group isHeader =>
          cases hitem
          rw [isHeader.atRuleName_print] at plain
          have named := isHeader.name
          rw [plain, not_grouped_nil] at named
          cases named
  | inside block grouped _ ih =>
      rw [← eq, items_join_printParts sound closed] at block
      obtain ⟨p, hp, hitem⟩ := List.mem_map.1 block
      cases sound p hp with
      | item _ single =>
          cases hitem
          rw [Item.isGroup, grouped] at single
          cases single
      | group isHeader sound' closed' =>
          cases hitem
          obtain ⟨q, hq, has⟩ := ih sound' closed' (blockBody_print isHeader).symm
          exact ⟨_, hp, .inside hq has⟩

/-- A rule of a tree is read in the tree's text. -/
theorem Part.HasRule.isRule {p : Part} {rule : List Char} (has : p.HasRule rule) {ps : List Part}
    (hp : p ∈ ps) (sound : ∀ p ∈ ps, p.IsSound) (closed : ps.Pairwise fun p _ => p.IsClosed) :
    IsRule rule (join ['\n'] (printParts ps)) := by
  induction has generalizing ps with
  | here plain =>
      refine .top ?_ plain
      rw [items_join_printParts sound closed]
      exact List.mem_map_of_mem hp
  | @inside header inner p mem has ih =>
      cases sound _ hp with
      | group isHeader sound' closed' =>
          have block : ⟨.block, (Part.group header inner).print⟩ ∈
              items (join ['\n'] (printParts ps)) := by
            rw [items_join_printParts sound closed]
            exact List.mem_map_of_mem hp
          refine .inside block (by rw [isHeader.atRuleName_print, isHeader.name]) ?_
          rw [blockBody_print isHeader]
          exact ih mem sound' closed'

/-- The rules of a text are those of its tree. -/
theorem isRule_iff {rule : List Char} {ps : List Part} (sound : ∀ p ∈ ps, p.IsSound)
    (closed : ps.Pairwise fun p _ => p.IsClosed) :
    IsRule rule (join ['\n'] (printParts ps)) ↔ ∃ p ∈ ps, p.HasRule rule := by
  constructor
  · exact exists_hasRule_of_isRule sound closed
  · rintro ⟨p, hp, has⟩
    exact has.isRule hp sound closed

/-! ## the rules that come out -/

/-- An item has a rule only if it is that rule. -/
theorem hasRule_item {kind : ItemKind} {text rule : List Char} :
    (Part.item kind text).HasRule rule ↔ kind = .block ∧ text = rule ∧ atRuleName rule = [] := by
  constructor
  · intro has
    cases has with
    | here plain => exact ⟨rfl, rfl, plain⟩
  · rintro ⟨rfl, rfl, plain⟩
    exact .here plain

/-- A group has the rules that stand in it. -/
theorem hasRule_group {header rule : List Char} {inner : List Part} :
    (Part.group header inner).HasRule rule ↔ ∃ p ∈ inner, p.HasRule rule := by
  constructor
  · intro has
    cases has with
    | inside mem has => exact ⟨_, mem, has⟩
  · rintro ⟨p, mem, has⟩
    exact .inside mem has

/-- What holds of the rule for the container holds of all rules of a confined tree if it does part by part. -/
theorem forall_hasRule_confineTree {q : List Char → Prop} (bare : ∀ body, q (scope ++ '\x7b' :: body))
    {ps : List Part} (each : ∀ p ∈ ps, (∀ p' ∈ p.confine scope, ∀ rule, p'.HasRule rule → q rule) ↔
      ∀ text, p.HasRule text → q (scopeRule scope text)) :
    (∀ p' ∈ confineTree scope ps, ∀ rule, p'.HasRule rule → q rule) ↔
      ∀ p ∈ ps, ∀ text, p.HasRule text → q (scopeRule scope text) := by
  have own : ∀ p' ∈ barePart scope ps, ∀ rule, p'.HasRule rule → q rule := by
    intro p' hp' rule has
    rw [barePart] at hp'
    split at hp'
    · cases hp'
    · rw [List.mem_singleton] at hp'
      subst hp'
      obtain ⟨-, rfl, -⟩ := hasRule_item.1 has
      rw [List.append_assoc]
      exact bare _
  rw [confineTree, List.forall_mem_append, and_iff_left own]
  clear own
  induction ps with
  | nil => simp [confineParts]
  | cons p ps ih =>
      rw [List.forall_mem_cons] at each
      rw [confineParts, List.forall_mem_append, List.forall_mem_cons]
      exact and_congr each.1 (ih each.2)

/-- The rules that come out of a part are its rules with their selectors in the scope, and rules for
the container. -/
theorem Part.IsSound.forall_hasRule_confine (h : IsScope scope) {q : List Char → Prop}
    (bare : ∀ body, q (scope ++ '\x7b' :: body)) {p : Part} (sound : p.IsSound) :
    (∀ p' ∈ p.confine scope, ∀ rule, p'.HasRule rule → q rule) ↔
      ∀ text, p.HasRule text → q (scopeRule scope text) := by
  induction sound with
  | @item kind text whole single complete =>
      cases kind with
      | unclosed => exact absurd rfl complete
      | block =>
          have name := (isSound_scopeRule h whole).2
          simp only [Part.confine, List.forall_mem_singleton, hasRule_item, true_and]
          constructor
          · rintro out text' ⟨rfl, plain⟩
            rw [plain] at out
            exact out _ ⟨rfl, name⟩
          · rintro out rule ⟨rfl, plain⟩
            split at plain
            · next empty =>
              rw [if_pos empty]
              exact out text ⟨rfl, by simpa using empty⟩
            · next named => exact absurd (by simp [plain]) named
      | statement | trailing =>
          simp only [Part.confine, hasRule_item]
          split <;> simp [hasRule_item]
  | @group header inner isHeader sound closed ih =>
      -- a group becomes one group, in which the rule for its bare declarations is added
      have inside := forall_hasRule_confineTree bare ih
      rw [Part.confine, List.forall_mem_singleton, ← confineTree]
      simp only [hasRule_group, forall_exists_index, and_imp]
      constructor
      · intro out text p hp has
        exact inside.1 (fun p' hp' rule has => out rule p' hp' has) p hp text has
      · intro out rule p' hp' has
        exact inside.2 (fun p hp text has => out text p hp has) p' hp' rule has

/-! ## what cleaning leaves -/

/-- A part whose headers leave no quote open. -/
inductive Part.ClosesQuotes : Part → Prop
  | item {kind : ItemKind} {text : List Char} : ClosesQuotes (.item kind text)
  | group {header : List Char} {inner : List Part} (here : quoteAfter none header = none)
      (inside : ∀ p ∈ inner, p.ClosesQuotes) : ClosesQuotes (.group header inner)

/-- A tidy part that was cut out of a sheet is sound, if its headers leave no quote open. -/
theorem Part.IsCut.isSound {p : Part} (cut : p.IsCut) (tidy : p.IsTidy) (closes : p.ClosesQuotes) :
    p.IsSound := by
  induction cut with
  | item whole single =>
      cases tidy with
      | item complete => exact .item whole single complete
  | group whole grouped _ closed ih =>
      cases tidy with
      | group tidy =>
          cases closes with
          | group here inside =>
              exact .group (isHeader_splitBlock whole grouped here)
                (fun p hp => ih p hp (tidy p hp) (inside p hp)) closed

/-- What is kept of a part has no unclosed items, and no at-rules but blocks. -/
theorem Part.IsCut.isTidy_of_kept? {p kept : Part} (cut : p.IsCut) (h : p.kept? = some kept) :
    kept.IsTidy := by
  induction cut generalizing kept with
  | item =>
      simp only [kept?, Option.ite_none_left_eq_some, Option.some.injEq] at h
      obtain ⟨kept, rfl⟩ := h
      refine .item ?_ fun noBlock => ?_ <;> simp_all
  | group _ _ _ _ ih =>
      simp only [kept?, Option.ite_none_left_eq_some, Option.some.injEq] at h
      rw [← h.2]
      refine .group fun q hq => ?_
      obtain ⟨p, hp, hkept⟩ := exists_of_mem_keptParts hq
      exact ih p hp hkept

/-- A kept sheet has no unclosed items, and no at-rules but blocks. -/
theorem isTidy_of_mem_keptSheet {settings : Settings} {raw : String} {p : Part}
    (h : p ∈ keptSheet settings raw) : p.IsTidy := by
  obtain ⟨q, hq, hkept⟩ := exists_of_mem_keptParts h
  exact (isCut_of_mem_parts hq).isTidy_of_kept? hkept

/-! ## the scope of a container -/

/-- The characters of a scope's names are no blanks. -/
theorem isBlank_of_isScopeChar {c : Char} (h : Container.isScopeChar c = true) : isBlank c = false :=
  isBlank_eq_false (by decide +kernel) h

/-- They differ from every other character. -/
theorem ne_of_isScopeChar {c d : Char} (h : Container.isScopeChar c = true)
    (hd : Container.isScopeChar d = false) : c ≠ d := by
  rintro rfl
  rw [h] at hd
  cases hd

/-- They are neither brackets nor quotes. -/
theorem isPlain_of_isScopeChar {c : Char} (h : Container.isScopeChar c = true) :
    brackets.IsPlain c := by
  have new {d : Char} (hd : Container.isScopeChar d = false) : c ≠ d := ne_of_isScopeChar h hd
  refine ⟨?_, ?_, new (by decide), new (by decide)⟩
  · simp only [brackets, List.mem_cons, List.not_mem_nil, or_false, not_or]
    exact ⟨new (by decide), new (by decide)⟩
  · simp only [brackets, List.mem_cons, List.not_mem_nil, or_false, not_or]
    exact ⟨new (by decide), new (by decide)⟩

/-- An attribute in square brackets closes what it opens, inside quotes as well as outside. -/
theorem after_attribute {s : Nesting} (hs : IsQuote s.quote) {front name value : List Char}
    (hfront : ∀ c ∈ front, brackets.IsPlain c) (hname : ∀ c ∈ name, brackets.IsPlain c)
    (hvalue : ∀ c ∈ value, brackets.IsPlain c) :
    after brackets s (front ++ '[' :: (name ++ '"' :: (value ++ ['"', ']']))) = s := by
  have still {t : Nesting} (ht : IsQuote t.quote) :
      after brackets t front = t ∧ after brackets t name = t ∧ after brackets t value = t :=
    ⟨after_of_isPlain ht hfront, after_of_isPlain ht hname, after_of_isPlain ht hvalue⟩
  have single : IsQuote (some '\'') := .inr (.inl rfl)
  have double : IsQuote (some '"') := .inr (.inr rfl)
  obtain ⟨depth, quote⟩ := s
  simp only [after_append, after_cons, after_nil]
  rcases hs with rfl | rfl | rfl
  · have opened : Nesting.next brackets ⟨depth, none⟩ '[' = ⟨depth + 1, none⟩ := rfl
    have quoted : Nesting.next brackets ⟨depth + 1, none⟩ '"' = ⟨depth + 1, some '"'⟩ := rfl
    rw [(still (.inl rfl)).1, opened, (still (.inl rfl)).2.1, quoted, (still double).2.2]
    rfl
  · have held : Nesting.next brackets ⟨depth, some '\''⟩ '[' = ⟨depth, some '\''⟩ := rfl
    have held' : Nesting.next brackets ⟨depth, some '\''⟩ '"' = ⟨depth, some '\''⟩ := rfl
    rw [(still single).1, held, (still single).2.1, held', (still single).2.2]
    rfl
  · -- the quotes of the attribute close and open the one around it
    have held : Nesting.next brackets ⟨depth, some '"'⟩ '[' = ⟨depth, some '"'⟩ := rfl
    have closed : Nesting.next brackets ⟨depth, some '"'⟩ '"' = ⟨depth, none⟩ := rfl
    rw [(still double).1, held, (still double).2.1, closed, (still (.inl rfl)).2.2]
    rfl

/-- The slug and the id are filtered before they go into a scope. -/
theorem isScopeChar_of_mem_scopeText {s : String} :
    ∀ c ∈ (Container.scopeText s).toList, Container.isScopeChar c = true := by
  intro c hc
  rw [Container.scopeText, String.toList_ofList] at hc
  exact (List.mem_filter.1 hc).2

/-- The class of a container, with the dot in front. -/
def scopeClass (settings : Settings) (slug : String) : List Char :=
  '.' :: (settings.elementClassPrefix.toList ++ '-' :: (Container.scopeText slug).toList)

/-- The selector of a container is its class and one attribute. -/
theorem toList_scope (settings : Settings) (slug : String) (id : Value) :
    (Container.scope settings slug id).toList =
      scopeClass settings slug ++ '[' :: ("data-instance-id=".toList ++ '"' ::
        ((Container.scopeText id.display).toList ++ ['"', ']'])) := by
  simp [Container.scope, scopeClass]

/-- The class of a scope has a dot and characters of names. -/
theorem mem_scopeClass {settings : Settings} {slug : String}
    (plain : ∀ c ∈ settings.elementClassPrefix.toList, Container.isScopeChar c = true) :
    ∀ c ∈ scopeClass settings slug, c = '.' ∨ Container.isScopeChar c = true := by
  intro c hc
  simp only [scopeClass, List.mem_cons, List.mem_append] at hc
  obtain rfl | hc | rfl | hc := hc
  · exact .inl rfl
  · exact .inr (plain c hc)
  · exact .inr (by decide)
  · exact .inr (isScopeChar_of_mem_scopeText c hc)

/-- The name of the attribute has characters of names, and the sign behind it. -/
theorem mem_attributeName :
    ∀ c ∈ "data-instance-id=".toList, c = '=' ∨ Container.isScopeChar c = true := by
  have all : "data-instance-id=".toList.all (fun c => c == '=' || Container.isScopeChar c) := by
    decide
  intro c hc
  simpa using List.all_eq_true.1 all c hc

/-- Besides the characters of names a scope has those that classes and attributes are written with. -/
theorem mem_scope {settings : Settings}
    (plain : ∀ c ∈ settings.elementClassPrefix.toList, Container.isScopeChar c = true) (slug : String)
    (id : Value) : ∀ c ∈ (Container.scope settings slug id).toList,
      c ∈ ['.', '[', '=', '"', ']'] ∨ Container.isScopeChar c = true := by
  intro c hc
  rw [toList_scope, List.mem_append, List.mem_cons, List.mem_append, List.mem_cons,
    List.mem_append] at hc
  obtain hc | rfl | hc | rfl | hc | hc := hc
  · exact (mem_scopeClass plain c hc).imp_left fun e => by simp [e]
  · exact .inl (by simp)
  · exact (mem_attributeName c hc).imp_left fun e => by simp [e]
  · exact .inl (by simp)
  · exact .inr (isScopeChar_of_mem_scopeText c hc)
  · exact .inl (List.mem_of_mem_drop (i := 3) hc)

/-- None of the characters of a scope is a blank or ends a selector. -/
theorem isBlank_of_mem_scope {c : Char}
    (h : c ∈ ['.', '[', '=', '"', ']'] ∨ Container.isScopeChar c = true) :
    isBlank c = false ∧ c ∉ [',', ';', '\x7b', '\x7d'] := by
  cases h with
  | inl h =>
      simp only [List.mem_cons, List.not_mem_nil, or_false] at h
      obtain rfl | rfl | rfl | rfl | rfl := h <;> decide
  | inr h =>
      refine ⟨isBlank_of_isScopeChar h, ?_⟩
      simp only [List.mem_cons, List.not_mem_nil, or_false, not_or]
      exact ⟨ne_of_isScopeChar h (by decide), ne_of_isScopeChar h (by decide),
        ne_of_isScopeChar h (by decide), ne_of_isScopeChar h (by decide)⟩

/-- The selector of a container is a scope. -/
theorem isScope_scope {settings : Settings}
    (plain : ∀ c ∈ settings.elementClassPrefix.toList, Container.isScopeChar c = true) (slug : String)
    (id : Value) : IsScope (Container.scope settings slug id).toList := by
  have dot : brackets.IsPlain '.' := ⟨by decide, by decide, by decide, by decide⟩
  have equals : brackets.IsPlain '=' := ⟨by decide, by decide, by decide, by decide⟩
  refine ⟨fun hs => ?_, ?_, fun c hc => isBlank_of_mem_scope (mem_scope plain slug id c hc)⟩
  · rw [toList_scope]
    refine after_attribute hs (fun c hc => ?_) (fun c hc => ?_) fun c hc => ?_
    · exact (mem_scopeClass plain c hc).elim (fun e => e ▸ dot) isPlain_of_isScopeChar
    · exact (mem_attributeName c hc).elim (fun e => e ▸ equals) isPlain_of_isScopeChar
    · exact isPlain_of_isScopeChar (isScopeChar_of_mem_scopeText c hc)
  · rw [toList_scope]
    exact ⟨_, rfl⟩

/-! ## confined sheets -/

/-- A rule of a sound tree stands in it as a whole block. -/
theorem Part.IsSound.isWhole_of_hasRule {p : Part} (sound : p.IsSound) {rule : List Char}
    (has : p.HasRule rule) : Item.IsWhole ⟨.block, rule⟩ := by
  induction has with
  | here =>
      cases sound with
      | item whole => exact whole
  | inside mem _ ih =>
      cases sound with
      | group _ sound => exact ih (sound _ mem)

/-- A rule comes out confined just if its selector list admits it. -/
theorem isConfinedRule_scopeRule_iff (h : IsScope scope) {rule : List Char}
    (whole : Item.IsWhole ⟨.block, rule⟩) :
    IsConfinedRule scope (scopeRule scope rule) ↔ Admits scope (prelude rule) := by
  obtain ⟨header, body, eq, new, held, -⟩ := exists_brace_of_fits whole.fits
  simp only at eq
  subst eq
  have same := (held_scopeSelectors h (held_append.1 held).1).2
  have quote : quoteAfter none (scopeSelectors scope header) = quoteAfter none header := by
    have both := congrArg Nesting.quote same
    rwa [quote_after, quote_after] at both
  have isEnd : IsEnd (after brackets outside header)
      (preludeFrom (quoteAfter none header) ('\x7b' :: (body ++ ['\x7d']))) := by
    have behind := isEnd_preludeFrom (s := after brackets outside header) (body ++ ['\x7d'])
    rwa [quote_after] at behind
  rw [IsConfinedRule, scopeRule_append new, prelude, prelude, preludeFrom_append (no_brace_scopeSelectors h new),
    preludeFrom_append new, quote]
  exact forall_isConfined_scopeSelectors_iff h new isEnd

/-- A rule for the container itself is confined. -/
theorem isConfinedRule_bare (h : IsScope scope) (body : List Char) :
    IsConfinedRule scope (scope ++ '\x7b' :: body) := by
  have quote : quoteAfter none scope = none := by
    have neutral := congrArg Nesting.quote (h.neutral (s := outside) (.inl rfl))
    rwa [quote_after] at neutral
  have noBrace : '\x7b' ∉ scope := fun m => (h.plain _ m).2 (by decide)
  have straight : ¬ TurnsAside [] := by
    rintro ⟨c, rest, eq, -⟩
    cases eq
  have alone := (forall_isConfined_scopeSelectors_iff h List.not_mem_nil (.inl rfl)).2
    ⟨straight, trivial⟩
  rw [IsConfinedRule, prelude, preludeFrom_append noBrace, quote, preludeFrom, if_pos ⟨rfl, rfl⟩]
  exact alone

/-- Author CSS comes out confined to a container just if each of its rules admits it, unless a header
that is kept leaves a quote open. -/
theorem isConfinedSheet_scope_iff {settings : Settings}
    (plain : ∀ c ∈ settings.elementClassPrefix.toList, Container.isScopeChar c = true) (slug : String)
    (id : Value) (raw : String) (closes : ∀ p ∈ keptSheet settings raw, p.ClosesQuotes) :
    IsConfinedSheet (Container.scope settings slug id).toList
        (Css.scope (sanitize settings raw) (Container.scope settings slug id)).toList ↔
      ∀ rule, IsRule rule (sanitize settings raw).toList →
        Admits (Container.scope settings slug id).toList (prelude rule) := by
  have h := isScope_scope plain slug id
  generalize Container.scope settings slug id = scope at h ⊢
  have sound : ∀ p ∈ keptSheet settings raw, p.IsSound := fun p hp =>
    (isCut_of_mem_keptSheet hp).isSound (isTidy_of_mem_keptSheet hp) (closes p hp)
  have closed := pairwise_keptSheet settings raw
  -- the cleaned text is that of its tree, so the scoped one is that of the confined tree
  have out : (Css.scope (sanitize settings raw) scope).toList =
      join ['\n'] (printParts (confineTree scope.toList (keptSheet settings raw))) := by
    rw [Css.scope, String.toList_ofList, scopeChars_eq, toList_sanitize, trim_join_printParts sound,
      parts_join_printParts sound closed]
  have confined := isSound_confineTree h sound fun _ => isTidy_of_mem_keptSheet
  have rules := forall_hasRule_confineTree (isConfinedRule_bare h) fun p hp =>
    (sound p hp).forall_hasRule_confine h (isConfinedRule_bare h)
  -- both texts are those of sound trees, where rules can be found part by part
  rw [IsConfinedSheet, out, toList_sanitize]
  constructor
  · intro all rule has
    obtain ⟨p, hp, has⟩ := (isRule_iff sound closed).1 has
    have whole := (sound p hp).isWhole_of_hasRule has
    refine (isConfinedRule_scopeRule_iff h whole).1 (rules.1 ?_ p hp rule has)
    intro q hq rule has
    exact all rule ((isRule_iff (fun q hq => (confined q hq).1)
      (List.pairwise_of_forall_mem_list fun q hq _ _ => (confined q hq).2)).2 ⟨q, hq, has⟩)
  · intro all rule has
    obtain ⟨q, hq, has⟩ := (isRule_iff (fun q hq => (confined q hq).1)
      (List.pairwise_of_forall_mem_list fun q hq _ _ => (confined q hq).2)).1 has
    refine rules.2 (fun p hp rule has => ?_) q hq rule has
    have whole := (sound p hp).isWhole_of_hasRule has
    exact (isConfinedRule_scopeRule_iff h whole).2
      (all rule ((isRule_iff sound closed).2 ⟨p, hp, has⟩))

/-- A rule in a group, whose header leaves no quote open. -/
theorem isConfinedSheet_scope_group :
    IsConfinedSheet (Container.scope {} "hero" (.int 1)).toList
        (Css.scope (sanitize {} "@media print\x7bp, q\x7btop:0\x7d\x7d")
          (Container.scope {} "hero" (.int 1))).toList ↔
      ∀ rule, IsRule rule (sanitize {} "@media print\x7bp, q\x7btop:0\x7d\x7d").toList →
        Admits (Container.scope {} "hero" (.int 1)).toList (prelude rule) := by
  refine isConfinedSheet_scope_iff (List.all_eq_true.1 (by decide)) "hero" (.int 1) _ fun p hp => ?_
  have kept : keptSheet {} "@media print\x7bp, q\x7btop:0\x7d\x7d" =
      [.group "@media print".toList [.item .block "p, q\x7btop:0\x7d".toList]] := by
    rw [keptSheet_eq_partsUpTo (n := 30) rfl (by decide +kernel)]
    decide +kernel
  rw [kept, List.mem_singleton] at hp
  subst hp
  refine .group (by decide) fun q hq => ?_
  rw [List.mem_singleton] at hq
  subst hq
  exact .item

/-- A rule with a bracket in quotes, behind which the cutting sees no comma. -/
def quotedBracket : String := "[x=\"[\"], b\x7bcolor:red\x7d"

/-- The second member of that rule comes out as it was. -/
theorem not_isConfinedSheet_quotedBracket :
    ¬ IsConfinedSheet (Container.scope {} "hero" (.int 1)).toList
      (Css.scope (sanitize {} quotedBracket) (Container.scope {} "hero" (.int 1))).toList := by
  have scope : Container.scope {} "hero" (.int 1) = ".lcms-el-hero[data-instance-id=\"1\"]" := by decide +kernel
  have kept : keptSheet {} quotedBracket = [.item .block quotedBracket.toList] := by
    rw [keptSheet_eq_partsUpTo (n := 30) rfl (by decide +kernel)]
    decide +kernel
  have cleaned : (sanitize {} quotedBracket).toList = quotedBracket.toList := by
    rw [toList_sanitize, kept]
    decide
  have out : (Css.scope (sanitize {} quotedBracket) (Container.scope {} "hero" (.int 1))).toList =
      (".lcms-el-hero[data-instance-id=\"1\"] " ++ quotedBracket).toList := by
    rw [scope, Css.scope, String.toList_ofList, cleaned, scopeChars, parts_eq_partsUpTo (n := 30) (by decide)]
    decide +kernel
  have block : ⟨.block, (".lcms-el-hero[data-instance-id=\"1\"] " ++ quotedBracket).toList⟩ ∈
      items (".lcms-el-hero[data-instance-id=\"1\"] " ++ quotedBracket).toList := by decide
  have members : ['b'] ∈
      members (prelude (".lcms-el-hero[data-instance-id=\"1\"] " ++ quotedBracket).toList) := by decide
  rw [out, scope]
  intro confined
  rcases confined _ (.top block rfl) _ members with eq | ⟨c, rest, eq, -⟩
  · exact absurd eq (by decide)
  · have first : 'b' = '.' := (List.cons.inj eq).1
    exact absurd first (by decide)

end Pagewright.Css
