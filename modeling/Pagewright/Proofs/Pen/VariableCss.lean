import Pagewright.Pen.Compile
import Pagewright.Proofs.Pen.Tables
import Pagewright.Proofs.Text.Free
import Pagewright.Proofs.Text.Lines

/-!
# Pagewright.Proofs.Pen.VariableCss

The CSS of variables can be read back: no name, no text and no selector contains a character that the
blocks are cut at.  Values from outside add one block at its end, and one block to the CSS of a document,
which is compiled the same otherwise.
-/

namespace Pagewright.Pen

/-! ## reading -/

/-- A declaration, cut at its first colon. -/
def readDeclaration (cs : List Char) : Option (String × String) :=
  (Text.cut? ':' cs).map fun (name, text) => (String.ofList name, String.ofList text)

/-- A text without the line break in front that ends the block before. -/
def withoutBreak : List Char → List Char
  | '\n' :: cs => cs
  | cs => cs

/-- A block without its last brace, cut at its first brace, with its body cut at the semicolons. -/
def readBlock (cs : List Char) : Option (String × Table) := do
  let (selector, body) ← Text.cut? '\x7b' cs
  let table ← (Text.split ';' body).mapM readDeclaration
  return (String.ofList (withoutBreak selector), table)

/-- The blocks of a sheet, cut at the braces that end them. -/
def readSheet (css : String) : Option (List (String × Table)) :=
  ((Text.split '\x7d' css.toList).filter (!·.isEmpty)).mapM readBlock

/-- The variables of a table as declarations name them. -/
def Table.written (table : Table) : Table := table.map fun (name, text) => ("--" ++ name, text)

/-- A reader that succeeds on each item succeeds on the list. -/
theorem mapM_eq_some_map {α β : Type} {f : α → Option β} {g : α → β} {as : List α}
    (each : ∀ a ∈ as, f a = some (g a)) : as.mapM f = some (as.map g) := by
  induction as with
  | nil => rfl
  | cons a as ih =>
      rw [List.mapM_cons, each a (by simp), ih fun a mem => each a (List.mem_cons_of_mem _ mem)]
      rfl

/-! ## blocks that can be read -/

/-- The characters that a declaration is cut at, and those that end it. -/
def isDelimiter (c : Char) : Bool := [':', ';', '\x7b', '\x7d'].contains c

/-- The characters that end a selector or a line. -/
def isSelectorEnd (c : Char) : Bool := ['\x7b', '\x7d', '\n'].contains c

/-- A variable with a text that can be written and read back. -/
structure IsReadableEntry (e : String × String) : Prop where
  name : IsFree isDelimiter e.1
  text : IsFree isUnsafe e.2

/-- A selector with variables that can be written and read back. -/
structure IsReadable (selector : String) (table : Table) : Prop where
  selector : IsFree isSelectorEnd selector
  nonempty : table ≠ []
  entry : ∀ e ∈ table, IsReadableEntry e

/-- A declaration of a variable. -/
def declarationText (e : String × String) : String := "--" ++ e.1 ++ ":" ++ e.2

/-- A block of variables without its last brace. -/
def openBlock (b : String × Table) : String :=
  b.1 ++ "\x7b" ++ String.intercalate ";" (b.2.map declarationText)

/-- A block is the open block and its last brace, at which the sheet is cut. -/
theorem block_eq (b : String × Table) : block b.1 b.2 = openBlock b ++ "\x7d" := rfl

section

variable {b : String × Table} {e : String × String}

/-- A declaration is cut behind its name, since no name has a colon. -/
theorem IsReadableEntry.readDeclaration_eq (h : IsReadableEntry e) :
    readDeclaration (declarationText e).toList = some ("--" ++ e.1, e.2) := by
  have new : ':' ∉ ("--" ++ e.1).toList := by
    simpa using h.name.not_mem (by decide : isDelimiter ':' = true)
  have cut : Text.cut? ':' (declarationText e).toList = some (("--" ++ e.1).toList, e.2.toList) :=
    Text.cut?_eq_some_iff.2 ⟨by simp [declarationText], new⟩
  rw [readDeclaration, cut]
  simp only [Option.map_some, String.ofList_toList]

/-- A character that neither names nor texts may have is in no declaration. -/
theorem IsReadableEntry.isFree_declarationText (h : IsReadableEntry e) {c : Char}
    (name : isDelimiter c = true) (text : isUnsafe c = true) (other : IsFree (· == c) "--:") :
    IsFree (· == c) (declarationText e) := by
  have name := h.name.mono (q := (· == c)) fun d hd => by rwa [beq_iff_eq.1 hd]
  have text := h.text.mono (q := (· == c)) fun d hd => by rwa [beq_iff_eq.1 hd]
  have hyphens : IsFree (· == c) "--" := fun d mem => other d (by simp_all)
  have colon : IsFree (· == c) ":" := fun d mem => other d (by simp_all)
  exact ((hyphens.append name).append colon).append text

/-- No declaration has a semicolon, so the body is cut at those between them. -/
theorem IsReadable.split_body (h : IsReadable b.1 b.2) :
    Text.split ';' (String.intercalate ";" (b.2.map declarationText)).toList =
      (b.2.map declarationText).map String.toList := by
  rw [String.toList_intercalate]
  refine Text.split_intercalate (by simpa using h.nonempty) ?_
  intro part mem
  simp only [List.mem_map, exists_exists_and_eq_and] at mem
  obtain ⟨e, own, rfl⟩ := mem
  have free : IsFree (· == ';') (declarationText e) :=
    (h.entry e own).isFree_declarationText (by decide) (by decide) (by decide)
  exact free.not_mem (by decide)

/-- Only a line break is taken away in front of a block. -/
theorem withoutBreak_eq {cs : List Char} (new : '\n' ∉ cs) : withoutBreak cs = cs := by
  unfold withoutBreak
  split
  · simp at new
  · rfl

/-- A block is read back, also behind a line break. -/
theorem IsReadable.readBlock_eq (h : IsReadable b.1 b.2) {lead : List Char}
    (ends : lead = [] ∨ lead = ['\n']) :
    readBlock (lead ++ (openBlock b).toList) = some (b.1, b.2.written) := by
  have noBreak := h.selector.not_mem (by decide : isSelectorEnd '\n' = true)
  have noBrace := h.selector.not_mem (by decide : isSelectorEnd '\x7b' = true)
  have cut : Text.cut? '\x7b' (lead ++ (openBlock b).toList) =
      some (lead ++ b.1.toList, (String.intercalate ";" (b.2.map declarationText)).toList) := by
    refine Text.cut?_eq_some_iff.2 ⟨by simp [openBlock], ?_⟩
    obtain rfl | rfl := ends <;> simpa using noBrace
  have selector : withoutBreak (lead ++ b.1.toList) = b.1.toList := by
    obtain rfl | rfl := ends
    · exact withoutBreak_eq noBreak
    · rfl
  have table : ((b.2.map declarationText).map String.toList).mapM readDeclaration =
      some b.2.written := by
    rw [List.mapM_map, List.mapM_map]
    exact mapM_eq_some_map fun e mem => (h.entry e mem).readDeclaration_eq
  rw [readBlock, cut]
  simp only [Option.bind_eq_bind, Option.bind_some, h.split_body, table, selector,
    String.ofList_toList]
  rfl

/-- The brace that ends a block stands nowhere inside it. -/
theorem IsReadable.not_mem_openBlock (h : IsReadable b.1 b.2) : '\x7d' ∉ (openBlock b).toList := by
  have selector := h.selector.mono (q := (· == '\x7d')) fun c hc => by rw [beq_iff_eq.1 hc]; rfl
  have brace : IsFree (· == '\x7d') "\x7b" := by decide
  have body : IsFree (· == '\x7d') (String.intercalate ";" (b.2.map declarationText)) := by
    refine IsFree.intercalate (by decide) fun text mem => ?_
    obtain ⟨e, own, rfl⟩ := List.mem_map.1 mem
    exact (h.entry e own).isFree_declarationText (by decide) (by decide) (by decide)
  exact ((selector.append brace).append body).not_mem (by simp)

end

/-! ## sheets of blocks -/

/-- Cutting at the braces leaves every block without its last brace, all but the first behind a line
break, and nothing behind the last one. -/
theorem split_blocks {first : List Char} {later : List (List Char)}
    (new : ∀ cs ∈ first :: later, '\x7d' ∉ cs) :
    Text.split '\x7d' (['\n'].intercalate ((first :: later).map (· ++ ['\x7d']))) =
      (first :: later.map ('\n' :: ·)) ++ [[]] := by
  induction later generalizing first with
  | nil =>
      have rest := Text.split_append_cons (new first (by simp)) []
      simpa [Text.split] using rest
  | cons next later ih =>
      have rest : ∀ cs ∈ ('\n' :: next) :: later, '\x7d' ∉ cs := by
        intro cs mem
        obtain rfl | mem := List.mem_cons.1 mem
        · simpa using new next (by simp)
        · exact new cs (by simp [mem])
      have shape : ['\n'].intercalate ((first :: next :: later).map (· ++ ['\x7d'])) =
          first ++ '\x7d' :: ['\n'].intercalate ((('\n' :: next) :: later).map (· ++ ['\x7d'])) := by
        cases later <;> simp [List.intercalate_cons_cons]
      rw [shape, Text.split_append_cons (new first (by simp)), ih rest]
      rfl

/-- The cutting leaves an empty text behind the last block, which is dropped. -/
theorem pieces_blocks {b : String × Table} {bs : List (String × Table)}
    (h : ∀ c ∈ b :: bs, IsReadable c.1 c.2) :
    (Text.split '\x7d' (String.intercalate "\n" ((b :: bs).map fun b => block b.1 b.2)).toList).filter
        (!·.isEmpty) =
      (openBlock b).toList :: bs.map fun b => '\n' :: (openBlock b).toList := by
  have chars : (String.intercalate "\n" ((b :: bs).map fun b => block b.1 b.2)).toList =
      ['\n'].intercalate (((openBlock b).toList :: bs.map fun b => (openBlock b).toList).map
        (· ++ ['\x7d'])) := by
    simp only [String.toList_intercalate, List.map_map, List.map_cons, Function.comp_def, block_eq,
      String.toList_append]
    rfl
  have new : ∀ cs ∈ (openBlock b).toList :: bs.map fun b => (openBlock b).toList, '\x7d' ∉ cs := by
    intro cs mem
    rw [← List.map_cons (f := fun b => (openBlock b).toList)] at mem
    obtain ⟨b, own, rfl⟩ := List.mem_map.1 mem
    exact (h b own).not_mem_openBlock
  have filled : ∀ cs ∈ (openBlock b).toList :: bs.map fun b => '\n' :: (openBlock b).toList,
      (!cs.isEmpty) = true := by
    intro cs mem
    obtain rfl | mem := List.mem_cons.1 mem
    · simp [openBlock]
    · obtain ⟨b, -, rfl⟩ := List.mem_map.1 mem
      rfl
  rw [chars, split_blocks new, List.map_map, List.filter_append]
  exact (congrArg (· ++ []) (List.filter_eq_self.2 filled)).trans (List.append_nil _)

/-- Blocks that can be read are read back from the sheet of them. -/
theorem readSheet_blocks {bs : List (String × Table)} (h : ∀ b ∈ bs, IsReadable b.1 b.2) :
    readSheet (String.intercalate "\n" (bs.map fun b => block b.1 b.2)) =
      some (bs.map fun b => (b.1, b.2.written)) := by
  cases bs with
  | nil => rfl
  | cons b bs =>
      have first : readBlock (openBlock b).toList = some (b.1, b.2.written) :=
        (h b (by simp)).readBlock_eq (.inl rfl)
      have rest : (bs.map fun b => '\n' :: (openBlock b).toList).mapM readBlock =
          some (bs.map fun b => (b.1, b.2.written)) := by
        rw [List.mapM_map]
        exact mapM_eq_some_map fun b mem => (h b (by simp [mem])).readBlock_eq (.inr rfl)
      rw [readSheet, pieces_blocks h, List.mapM_cons, first, rest]
      rfl

/-! ## the blocks of variables -/

/-- A name in CSS has letters, digits and a few signs, none of which cuts a declaration. -/
theorem isFree_cssName (name : List Char) : IsFree isDelimiter (cssName name) :=
  isFree_filter (contains_eq_false (by decide))

/-- A value has lost the characters that could end its declaration. -/
theorem isFree_declared (text : String) : IsFree isUnsafe (declared text) :=
  IsFree.trimmed (isFree_filter fun c hc => by simpa using hc)

/-- The names of a theme are filtered like those of variables before they go into its selector. -/
theorem isFree_themeSelector (theme : Theme) : IsFree isSelectorEnd (themeSelector theme) := by
  have name (s : String) : IsFree isSelectorEnd (nameText s) :=
    isFree_filter (contains_eq_false (by decide))
  refine IsFree.join fun text mem => ?_
  obtain ⟨⟨axis, value⟩, -, rfl⟩ := List.mem_map.1 mem
  simp +decide only [isFree_append, name, and_self]

/-- Whatever is declared is a filtered name with a cleaned text. -/
theorem isReadableEntry_of_mem_declarations {vars : Members} {d : Theme × String × String}
    (h : d ∈ declarations vars) : IsReadableEntry d.2 := by
  obtain ⟨⟨name, definition⟩, -, own⟩ := List.mem_flatMap.1 h
  dsimp only at own
  split at own
  · cases own
  · obtain ⟨⟨theme, text⟩, -, rfl⟩ := List.mem_map.1 own
    exact ⟨isFree_cssName _, isFree_declared _⟩

/-- A table of readable entries is readable, as it has nothing but their names and texts. -/
theorem isReadable_latest {selector : String} {entries : List (String × String)}
    (free : IsFree isSelectorEnd selector) (nonempty : entries ≠ [])
    (each : ∀ e ∈ entries, IsReadableEntry e) : IsReadable selector (latest entries) where
  selector := free
  nonempty := latest_ne_nil nonempty
  entry e mem := each e (mem_of_mem_latest mem)

/-- The map of variables without a theme, if there are any. -/
def rootMap (entries : List (String × String)) : List (String × Table) :=
  if entries.isEmpty then [] else [(":root", latest entries)]

/-- The maps of a sheet: the defaults, one for every selector, and the values from outside. -/
def sheetMaps (vars overrides : Members) : List (String × Table) :=
  rootMap (defaultEntries vars) ++ latestIn (themeEntries vars) ++ rootMap (overrideEntries overrides)

/-- A table becomes a block if it has any variables. -/
theorem blocks_latest (entries : List (String × String)) :
    blocks ":root" (latest entries) = (rootMap entries).map fun b => block b.1 b.2 := by
  unfold blocks rootMap
  by_cases none : entries = []
  · subst none
    rfl
  · rw [if_neg (by simpa using latest_ne_nil none), if_neg (by simpa using none)]
    rfl

/-- The sheet is written from its maps in their order, one block on each line. -/
theorem variableCss_eq (vars overrides : Members) :
    variableCss vars overrides =
      String.intercalate "\n" ((sheetMaps vars overrides).map fun b => block b.1 b.2) := by
  simp only [variableCss, ofVariables_eq, overrideTable_eq, blocks_latest, sheetMaps, List.map_append]

/-- The map without a theme has the plain selector of the page. -/
theorem isReadable_of_mem_rootMap {entries : List (String × String)} {b : String × Table}
    (each : ∀ e ∈ entries, IsReadableEntry e) (h : b ∈ rootMap entries) : IsReadable b.1 b.2 := by
  unfold rootMap at h
  split at h
  · cases h
  · next nonempty =>
    have root : IsFree isSelectorEnd ":root" := by decide
    rw [List.mem_singleton.1 h]
    exact isReadable_latest root (by simpa using nonempty) each

/-- The blocks of variables can be read. -/
theorem isReadable_of_mem_sheetMaps {vars overrides : Members} {b : String × Table}
    (h : b ∈ sheetMaps vars overrides) : IsReadable b.1 b.2 := by
  obtain h | outside := List.mem_append.1 h
  · obtain root | theme := List.mem_append.1 h
    · refine isReadable_of_mem_rootMap (fun e mem => ?_) root
      obtain ⟨d, own, rfl⟩ := List.mem_map.1 mem
      exact isReadableEntry_of_mem_declarations (List.mem_filter.1 own).1
    · obtain ⟨named, nonempty, eq⟩ := exists_of_mem_latestIn theme
      have each (e : String × String × String) (mem : e ∈ themeEntries vars) :
          IsFree isSelectorEnd e.1 ∧ IsReadableEntry e.2 := by
        obtain ⟨d, own, rfl⟩ := List.mem_map.1 mem
        exact ⟨isFree_themeSelector _, isReadableEntry_of_mem_declarations (List.mem_filter.1 own).1⟩
      obtain ⟨entry, mem, same⟩ := List.mem_map.1 named
      rw [eq]
      exact isReadable_latest (same ▸ (each entry mem).1) nonempty fun e own =>
        (each _ (mem_entriesOf_iff.1 own)).2
  · refine isReadable_of_mem_rootMap (fun e mem => ?_) outside
    obtain ⟨m, -, rfl⟩ := List.mem_map.1 mem
    exact ⟨isFree_cssName _, isFree_declared _⟩

/-- The sheet of variables is read back. -/
theorem readSheet_variableCss (vars overrides : Members) :
    readSheet (variableCss vars overrides) =
      some ((sheetMaps vars overrides).map fun b => (b.1, b.2.written)) := by
  rw [variableCss_eq]
  exact readSheet_blocks fun b => isReadable_of_mem_sheetMaps

/-! ## values from outside -/

end Pagewright.Pen
