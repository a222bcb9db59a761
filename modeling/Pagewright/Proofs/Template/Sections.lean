import Pagewright.Proofs.Template.Markup
import Pagewright.Proofs.Template.Reprint

/-!
# Pagewright.Proofs.Template.Sections

A template between the tags of a block.  Whatever braces meet at the seams, the text is cut into its own
pieces again (`Scans.append_tag`), and if its tags are well nested, its nodes are the children of the block
(`content_wrap`).  So what a block shows can be said of texts: a block and its inverted twin show the
template once, for any value that is no list, and over a list the block shows it once for each item.
-/

namespace Pagewright.Template

variable {c : Char} {cs ds source : List Char} {tag : Tag} {ps qs : List Piece} {ns ms : List Node}

/-! ## seams -/

theorem lead_append_tag : lead (ps ++ .tag tag source :: qs) = lead ps := by
  rcases ps with _ | ⟨_ | _, ps⟩ <;> rfl

theorem fromTag_append_tag :
    fromTag (ps ++ .tag tag source :: qs) = fromTag ps ++ .tag tag source :: qs := by
  rcases ps with _ | ⟨_ | _, ps⟩ <;> rfl

theorem addChar_append_tag :
    addChar c (ps ++ .tag tag source :: qs) = addChar c ps ++ .tag tag source :: qs := by
  rcases ps with _ | ⟨_ | _, ps⟩ <;> rfl

/-- No character makes a tag with a tag further behind, unless this one inserts an escaped value. -/
theorem MakesTag.of_append_tag (noInsert : ∀ key, tag ≠ .insert key false)
    (h : MakesTag c (ps ++ .tag tag source :: qs)) : MakesTag c ps := by
  rcases h with text | ⟨rfl, key, source', later, rest, noText, first, front⟩
  · rw [lead_append_tag] at text
    exact .inl text
  · rw [lead_append_tag] at noText
    rw [fromTag_append_tag] at first
    cases found : fromTag ps with
    | nil =>
        rw [found, List.nil_append, List.cons.injEq, Piece.tag.injEq] at first
        exact absurd first.1.1 (noInsert key)
    | cons p later' =>
        rw [found, List.cons_append, List.cons.injEq] at first
        obtain ⟨rfl, rfl⟩ := first
        rw [lead_append_tag] at front
        exact .inr ⟨rfl, key, source', later', rest, noText, found, front⟩

/-- A tag that inserts no escaped value can follow any template, and any template can follow it. -/
theorem Scans.append_tag (h : Scans cs ps) (noInsert : ∀ key, tag ≠ .insert key false)
    (written : tag.IsWritten source) (h' : Scans ds qs) :
    Scans (cs ++ (source ++ ds)) (ps ++ .tag tag source :: qs) := by
  induction h with
  | nil => exact .tag written h'
  | tag first _ ih =>
      rw [List.append_assoc, List.cons_append]
      exact .tag first ih
  | char none later ih =>
      rw [List.cons_append, ← addChar_append_tag]
      refine .char (fun tag => none ?_) ih
      rw [ih.beginsWithTag_cons_iff] at tag
      exact later.beginsWithTag_cons_iff.2 (tag.of_append_tag noInsert)

/-! ## contents in other blocks -/

/-- A content without a closing tag outside its blocks is a content of every block. -/
theorem Content.within {outer : Option (List Char)} (h : Content outer ps ns)
    (noClose : ∀ front key source later ms,
      ps = front ++ .tag (.closeBlock key) source :: later → ¬ Content outer front ms)
    (other : Option (List Char)) : Content other ps ns := by
  induction h with
  | nil => exact .nil
  | text s _ ih =>
      refine .text s (ih fun front key source later ms eq content => ?_)
      exact noClose (.text s :: front) key source later _ (by rw [eq, List.cons_append]) (.text s content)
  | insert k raw s _ ih =>
      refine .insert k raw s (ih fun front key source later ms eq content => ?_)
      exact noClose (.tag (.insert k raw) s :: front) key source later _ (by rw [eq, List.cons_append])
        (.insert k raw s content)
  | stray source _ _ _ => exact absurd .nil (noClose [] _ source _ [] rfl)
  | block inverted s s' inside _ _ ih =>
      refine .block inverted s s' inside (ih fun front key source later ms eq content => ?_)
      exact noClose _ key source later _ (by simp [eq]) (.block inverted s s' inside content)

/-- A template that the strict parser takes can stand in any block. -/
theorem content_of_parseStrict {t : List Char} (h : parseStrict t = .ok ns)
    (outer : Option (List Char)) : Content outer (scan t) ns := by
  rcases wellNested_or (scan t) with nested | ⟨key, offset, stray⟩ | ⟨matched, key, offset, unclosed⟩
  · obtain ⟨matched, empty⟩ := wellNested_iff.1 nested
    obtain ⟨ns', content⟩ := exists_content empty
    rw [parseStrict_of_wellNested nested, parse_of_content content] at h
    cases h
    refine content.within (fun front key source later ms eq before => ?_) outer
    have closed := stack_eq_nil_iff.1 (stack_eq_nil_of_content before)
    exact closed key (matched front key source later eq)
  · rw [parseStrict_of_firstStray stray] at h
    cases h
  · rw [parseStrict_of_outermostUnclosed matched unclosed] at h
    cases h

/-! ## blocks around templates -/

/-- A template between the tags of a block. -/
def wrap (key : List Char) (inverted : Bool) (body : List Char) : List Char :=
  (Tag.openBlock key inverted).print ++ (body ++ (Tag.closeBlock key).print)

variable {key body rest : List Char} {inverted : Bool}

/-- The pieces of a block around a template, and of what follows it. -/
theorem scan_wrap_append (isKey : IsKey key) :
    scan (wrap key inverted body ++ rest) =
      .tag (.openBlock key inverted) (Tag.openBlock key inverted).print ::
        (scan body ++ .tag (.closeBlock key) (Tag.closeBlock key).print :: scan rest) := by
  have opened : (Tag.openBlock key inverted).IsWritten _ := isWritten_print isKey
  have closed : (Tag.closeBlock key).IsWritten _ := isWritten_print isKey
  have inside := (scans_scan body).append_tag (by simp) closed (scans_scan rest)
  rw [wrap, List.append_assoc, List.append_assoc]
  exact scans_iff.1 (.tag opened inside)

/-- A block around a template that the strict parser takes has its nodes for children. -/
theorem content_wrap (isKey : IsKey key) (strict : parseStrict body = .ok ns)
    (later : Content none (scan rest) ms) :
    Content none (scan (wrap key inverted body ++ rest)) (.block key inverted ns :: ms) := by
  rw [scan_wrap_append isKey]
  exact .block inverted _ _ (content_of_parseStrict strict (some key)) later

theorem parse_wrap (isKey : IsKey key) (strict : parseStrict body = .ok ns) :
    parse (wrap key inverted body) = [.block key inverted ns] := by
  have content : Content none (scan (wrap key inverted body ++ [])) [.block key inverted ns] :=
    content_wrap isKey strict .nil
  rw [List.append_nil] at content
  exact parse_of_content content

/-- Two blocks around a template, one behind the other. -/
theorem parse_wrap_append_wrap {inverted' : Bool} (isKey : IsKey key)
    (strict : parseStrict body = .ok ns) :
    parse (wrap key inverted body ++ wrap key inverted' body) =
      [.block key inverted ns, .block key inverted' ns] := by
  have second : Content none (scan (wrap key inverted' body ++ [])) [.block key inverted' ns] :=
    content_wrap isKey strict .nil
  rw [List.append_nil] at second
  exact parse_of_content (content_wrap isKey strict second)

/-! ## what blocks show -/

variable {scopes : List Value} {v : Value}

/-- Of a block and its inverted twin exactly one shows the children, unless the value is a list. -/
theorem renderAll_block_pair (found : lookup key scopes = .ok v) (single : ∀ items, v ≠ .list items) :
    renderAll scopes [.block key false ns, .block key true ns] = renderAll scopes ns := by
  have shown : (Node.block key false ns).render scopes =
      if v.isTruthy then renderAll scopes ns else .ok [] := by
    rw [Node.render, found]
    cases v with
    | list items => exact absurd rfl (single items)
    | _ => rfl
  have hidden : (Node.block key true ns).render scopes =
      if v.isTruthy then .ok [] else renderAll scopes ns := by
    rw [Node.render, found]
    rfl
  rw [renderAll, renderAll_singleton, shown, hidden]
  cases v.isTruthy <;> cases renderAll scopes ns <;>
    simp [bind, Except.bind, pure, Except.pure]

/-- Over a list a block shows its children for every item, which is the innermost scope then. -/
theorem render_block_list {items : List Value} (found : lookup key scopes = .ok (.list items)) :
    (Node.block key false ns).render scopes =
      (do return (← items.mapM fun item => renderAll (item :: scopes) ns).flatten) := by
  rw [Node.render, found]
  rfl

/-- An inverted block shows its children for the empty list only. -/
theorem render_inverted_list {items : List Value} (found : lookup key scopes = .ok (.list items)) :
    (Node.block key true ns).render scopes =
      if items.isEmpty then renderAll scopes ns else .ok [] := by
  rw [Node.render, found]
  cases items <;> rfl

theorem render_ofList (cs : List Char) (members : Members) :
    render (String.ofList cs) (.obj members) =
      (do return String.ofList (← renderAll [.obj members] (parse cs))) := by
  rw [render, String.toList_ofList]
  rfl

/-- For a value that is no list, a template between the tags of a block and again between those of the
inverted one shows what it shows alone.  For a list the block shows the template once for each item, with
the item as innermost scope, and the inverted block shows it for the empty list and nothing for any other. -/
theorem render_wrap {members : Members} (isKey : IsKey key) (strict : parseStrict body = .ok ns)
    (found : lookup key [.obj members] = .ok v) :
    ((∀ items, v ≠ .list items) →
      render (String.ofList (wrap key false body ++ wrap key true body)) (.obj members) =
        render (String.ofList body) (.obj members)) ∧
    ∀ items, v = .list items →
      render (String.ofList (wrap key false body)) (.obj members) =
        (do
          let shown ← items.mapM fun item => renderAll [item, .obj members] (parse body)
          return String.ofList shown.flatten) ∧
      render (String.ofList (wrap key true body)) (.obj members) =
        if items.isEmpty then render (String.ofList body) (.obj members) else .ok "" := by
  have alone : parse body = ns := parse_of_content (content_of_parseStrict strict none)
  simp only [render_ofList, alone]
  refine ⟨fun single => ?_, ?_⟩
  · rw [parse_wrap_append_wrap isKey strict, renderAll_block_pair found single]
  · rintro items rfl
    rw [parse_wrap isKey strict, parse_wrap isKey strict, renderAll_singleton, renderAll_singleton,
      render_block_list found, render_inverted_list found]
    refine ⟨by rw [bind_assoc]; rfl, ?_⟩
    cases items <;> rfl

/-- A template with braces at both ends. -/
def bracedBody : List Char := "\x7d\x7b\x7bb\x7d\x7d\x7b".toList

/-- A list whose first item has a value of its own for the key in the template. -/
def listData : Members := [("a", .list [.obj [("b", .str "<")], .int 1]), ("b", .str "o")]

/-- The template over the list, and the two blocks for the value that stands outside of it. -/
theorem render_wrap_braces :
    IsKey ['a'] ∧ IsKey ['b'] ∧
    parseStrict bracedBody = .ok [.text ['\x7d'], .insert ['b'] false, .text ['\x7b']] ∧
    lookup ['a'] [.obj listData] = .ok (.list [.obj [("b", .str "<")], .int 1]) ∧
    lookup ['b'] [.obj listData] = .ok (.str "o") ∧
    render (String.ofList (wrap ['a'] false bracedBody)) (.obj listData) =
      .ok "\x7d&lt;\x7b\x7do\x7b" ∧
    render (String.ofList (wrap ['b'] false bracedBody ++ wrap ['b'] true bracedBody)) (.obj listData) =
      .ok "\x7do\x7b" := by
  have isKey : IsKey ['a'] := ⟨List.cons_ne_nil _ _, List.forall_mem_singleton.2 rfl⟩
  have isKey' : IsKey ['b'] := ⟨List.cons_ne_nil _ _, List.forall_mem_singleton.2 rfl⟩
  have strict : parseStrict bracedBody =
    .ok [.text ['\x7d'], .insert ['b'] false, .text ['\x7b']] := rfl
  have found : lookup ['a'] [.obj listData] = .ok (.list [.obj [("b", .str "<")], .int 1]) := rfl
  have found' : lookup ['b'] [.obj listData] = .ok (.str "o") := rfl
  refine ⟨isKey, isKey', strict, found, found', ?_, ?_⟩
  · rw [((render_wrap isKey strict found).2 _ rfl).1]
    decide +kernel
  · rw [(render_wrap isKey' strict found').1 nofun]
    decide +kernel

end Pagewright.Template
