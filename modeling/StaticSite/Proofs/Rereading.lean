/-
  Documents that are read back as they are written.

  A document is steady if it has the outline that every reading gives, a root element with
  a head and a body and comments around them, and if the head and the body hold steady
  trees (`Document.isSteady`).  Reading what is written for a steady document gives the
  document again (`Document.parse_render`).  So a text that is read as a steady document
  can be written and read any number of times (`Document.parse_render_parse`).  Other
  documents may change: a text inside `plaintext` goes on to the end of what was written.
-/

import StaticSite.Proofs.Steady

namespace StaticSite.Html

/-! ## Steady documents -/

namespace Node

def isSteadyComment : Node → Bool
  | .comment s => isCommentText s
  | _ => false

/-- Whether what comes behind the head is read back as it is written, the body with it. -/
def areAfterHead (root : Tag) : List Node → Bool
  | [] => false
  | .element tag children :: rest =>
    tag.name == "body" && tag.isLegible && areSteady [tag, root] children &&
      rest.all isSteadyComment
  | n :: rest => n.isSteady [root] && rest.head?.all (mayFollow n) && areAfterHead root rest

/-- Whether the content of the root element is read back as it is written. -/
def areInRoot (root : Tag) : List Node → Bool
  | [] => false
  | .element tag children :: rest =>
    tag.name == "head" && tag.isLegible && areSteady [tag, root] children &&
      areAfterHead root rest
  | n :: rest => n.isSteadyComment && areInRoot root rest

/-- Whether the content of a document is read back as it is written, with a document type or without. -/
def areOuter (doctype : Bool) : List Node → Bool
  | [] => false
  | .element tag children :: rest =>
    tag.name == "html" && tag.isLegible && areInRoot tag children && rest.all isSteadyComment
  | .doctype name :: rest => doctype && isDoctypeName name && areOuter false rest
  | n :: rest => n.isSteadyComment && areOuter doctype rest

end Node

/-- Whether a document is read back as it is written. -/
def Document.isSteady (doc : Document) : Bool := Node.areOuter true doc.nodes

theorem render_ne_nil_afterHead {root : Tag} {nodes : List Node}
    (h : Node.areAfterHead root nodes) :
    ∀ next ∈ nodes.head?, (next.render false).toList ≠ [] := by
  cases nodes with
  | nil => simp
  | cons next others =>
    rintro _ ⟨⟩
    cases next with
    | element tag children => simp [Node.render, Tag.renderStart]
    | _ =>
      simp only [Node.areAfterHead, Bool.and_eq_true] at h
      exact render_ne_nil h.1.1

/-! ## Tags around the content -/

namespace Builder.Inside

open Reader

variable {b : Builder} {m : Mode} {s : Bool} {a : Arena} {e : Nat × Tag} {tag : Tag}
  {path : List (Nat × Tag)}

/-- The start tag of an element that every document has. -/
theorem run_outerStart (hopened : (b.accept (.startTag { toTag := tag })).Inside m s a path)
    (htag : tag.isLegible) (hname : newlineDroppingNames.contains tag.name = false)
    (children : List Node) (rest : List Char) :
    b.Passes (tag.renderStart children).toList rest fun next =>
      next.Inside m s a path := by
  have htext : tag.renderStart children = "<" ++ tag.name ++
      String.join (tag.attrs.map Attribute.render) ++ ">" := by
    rw [Tag.renderStart, Tag.leadingNewline, hname]
    exact String.append_empty
  intro last
  refine ⟨_, tag.name, ?_, hopened⟩
  rw [htext, run_append, run_startTag htag, emitTag_start, hopened.rawText_eq, hopened.withoutRaw]
  rfl

/-- The end tag of an element that every document has. -/
theorem run_outerEnd {name : String} (hclosed : (b.accept (.endTag name)).Inside m s a path)
    (hname : isTagName name) (hscript : (name == "script") = false) (rest : List Char) :
    b.Passes ("</" ++ name ++ ">").toList rest fun next =>
      next.Inside m s a path := by
  intro last
  refine ⟨_, last, ?_, hclosed⟩
  rw [run_append, run_endTag hname, emitTag_end, hscript, Bool.and_false]
  rfl

/-- Comments one after the other, wherever a comment goes. -/
theorem run_comments (parent : Nat) (good : Arena → Builder → Prop)
    (hlt : ∀ {a b}, good a b → parent < a.next)
    (hcomment : ∀ {a b}, good a b → ∀ s, good (a.graft parent [.comment s]) (b.accept (.comment s)))
    {nodes : List Node} (hnodes : nodes.all Node.isSteadyComment) (h : good a b)
    (rest : List Char) :
    b.Passes (Node.renderAll false nodes).toList rest
      (good (a.graft parent nodes)) := by
  induction nodes generalizing a b with
  | nil =>
    refine passes_nil _ ?_
    rw [Arena.graft_nil]
    exact h
  | cons n more ih =>
    rw [List.all_cons, Bool.and_eq_true] at hnodes
    obtain ⟨hn, hmore⟩ := hnodes
    cases n with
    | comment text =>
      have hothers := ih hmore (hcomment h text)
      rw [Arena.graft_graft (hlt h), List.singleton_append] at hothers
      have htext : (Node.renderAll false (.comment text :: more)).toList =
          ("<!--" ++ text ++ "-->").toList ++ (Node.renderAll false more).toList := by
        rw [Node.renderAll, String.toList_append, Node.render]
      intro last
      obtain ⟨next, last', hrun, hgood⟩ := hothers last
      refine ⟨next, last', ?_, hgood⟩
      rw [htext, List.append_assoc, run_append, run_commentText hn, hrun]
    | _ => cases hn

/-- The names of the elements that every document has are read back, and mean nothing else. -/
theorem outer_legible (hname : tag.name = "html" ∨ tag.name = "head" ∨ tag.name = "body") :
    isTagName tag.name ∧ (tag.name == "script") = false ∧
      newlineDroppingNames.contains tag.name = false := by
  obtain hname | hname | hname := hname <;> rw [hname] <;> decide

theorem toList_endTag (name : String) :
    ("</" ++ name ++ ">").toList = '<' :: '/' :: (name.toList ++ ['>']) := by
  simp

/-- An element that every document has is its start tag, its content and its end tag. -/
theorem render_outer (hname : tag.name = "html" ∨ tag.name = "head" ∨ tag.name = "body")
    (children : List Node) : ((Node.element tag children).render false).toList =
      (tag.renderStart children).toList ++ ((Node.renderAll false children).toList ++
        ("</" ++ tag.name ++ ">").toList) := by
  have hplain : tag.hasRawText = false ∧ tag.isVoid = false := by
    rw [Tag.isVoid, Tag.hasRawText]
    obtain hname | hname | hname := hname <;> rw [hname] <;> decide
  rw [Node.render, hplain.1, Tag.renderEnd, hplain.2, String.toList_append, String.toList_append,
    List.append_assoc]
  rfl

/-- The head or the body and its content, from the mode that its start tag opens it in to the
mode that its end tag leaves. -/
theorem run_part {root : Nat × Tag} {m' : Mode} {left : List (Nat × Tag)}
    (hname : tag.name = "head" ∨ tag.name = "body") (htag : tag.isLegible)
    (hlt : root.1 < a.next)
    (hopened : (b.accept (.startTag { toTag := tag })).Inside m false (a.opened root.1 tag)
      [(a.next, tag), root])
    (hmode : modeOf? [tag, root.2] = some m) (hparts : m.holdsParts = false)
    {children : List Node} (hchildren : Node.areSteady [tag, root.2] children)
    (hclosed : ∀ {now : Builder} {s' : Bool} {content : Arena},
      now.Inside m s' content [(a.next, tag), root] →
        (now.accept (.endTag tag.name)).Inside m' false content left)
    (rest : List Char) :
    b.Passes ((Node.element tag children).render false).toList rest fun next =>
      next.Inside m' false (a.graft root.1 [.element tag children]) left := by
  obtain ⟨hlegible, hscript, hdrops⟩ := outer_legible (.inr hname)
  rw [render_outer (.inr hname)]
  refine (run_outerStart hopened htag hdrops children _).append fun b₁ h₁ => ?_
  have hend : (a.opened root.1 tag).endsInText a.next = false := Arena.endsInText_opened hlt tag
  have hcontent := Ready.run_nodes children (.inside h₁) hmode hchildren
    (absurd · Bool.false_ne_true) (fun _ => hend) ('/' :: (tag.name.toList ++ ['>']) ++ rest)
  rw [← List.cons_append, ← toList_endTag, Arena.graft_opened hlt] at hcontent
  refine hcontent.append ?_
  rintro b₂ ⟨s₂, h₂⟩
  exact run_outerEnd (hclosed (h₂.inside_of_mode hparts)) hlegible hscript rest

/-- The head and its content. -/
theorem run_head {root : Nat × Tag} (h : b.Inside .beforeHead s a [root])
    (hname : tag.name = "head") (htag : tag.isLegible) {children : List Node}
    (hchildren : Node.areSteady [tag, root.2] children) (rest : List Char) :
    b.Passes ((Node.element tag children).render false).toList rest fun next =>
      next.Inside .afterHead false (a.graft root.1 [.element tag children]) [root] := by
  have hmode : modeOf? [tag, root.2] = some .inHead := by
    rw [modeOf?, hname]
    rfl
  refine run_part (.inl hname) htag h.lt (h.accept_head hname) hmode rfl hchildren
    (fun hnow => ?_) rest
  rw [hname]
  exact hnow.accept_headEnd hname

/-- The body and its content. -/
theorem run_body {root : Nat × Tag} (h : b.Inside .afterHead s a [root])
    (hname : tag.name = "body") (htag : tag.isLegible) {children : List Node}
    (hchildren : Node.areSteady [tag, root.2] children) (rest : List Char) :
    b.Passes ((Node.element tag children).render false).toList rest fun next =>
      ∃ body, next.Inside .afterBody false (a.graft root.1 [.element tag children])
        [body, root] := by
  have hmode : modeOf? [tag, root.2] = some .inBody := by
    rw [modeOf?, hname]
    rfl
  refine (run_part (.inr hname) htag h.lt (h.accept_body hname) hmode rfl hchildren
    (fun hnow => ?_) rest).mono fun next hnext => ⟨(a.next, tag), hnext⟩
  rw [hname]
  exact hnow.accept_bodyEnd hname

/-- What comes behind the head, up to the end of the root element. -/
theorem run_afterHead {root : Nat × Tag} (h : b.Inside .afterHead false a [root])
    {nodes : List Node} (hnodes : Node.areAfterHead root.2 nodes)
    (hend : nodes.head?.any Node.isText = true → a.endsInText root.1 = false) (rest : List Char) :
    b.Passes (Node.renderAll false nodes).toList ('<' :: rest) fun next =>
      ∃ body, next.Inside .afterBody false (a.graft root.1 nodes) [body, root] := by
  induction nodes generalizing b a with
  | nil => cases hnodes
  | cons n more ih =>
    have hlt : root.1 < a.next := h.lt
    rw [renderAll_cons]
    by_cases helement : ∃ tag children, n = .element tag children
    · -- The body comes, and behind it only comments.
      obtain ⟨tag, children, rfl⟩ := helement
      rw [Node.areAfterHead, Bool.and_eq_true, Bool.and_eq_true, Bool.and_eq_true,
        beq_iff_eq] at hnodes
      obtain ⟨⟨⟨hname, htag⟩, hchildren⟩, hmore⟩ := hnodes
      refine (h.run_body hname htag hchildren _).append fun b₁ h₁ => ?_
      have hcomments := run_comments root.1
        (fun a b => ∃ body, b.Inside .afterBody false a [body, root])
        (fun ⟨_, h⟩ => (List.pairwise_cons.1 h.ids).1 root.1 (by simp))
        (fun ⟨body, h⟩ s => ⟨body, h.accept_lateComment s⟩) hmore h₁ ('<' :: rest)
      rw [Arena.graft_graft hlt] at hcomments
      exact hcomments
    · obtain ⟨⟨hn, hfollow⟩, hmore⟩ : (n.isSteady [root.2] = true ∧
          more.head?.all n.mayFollow = true) ∧ Node.areAfterHead root.2 more = true := by
        cases n with
        | element tag children => exact absurd ⟨tag, children, rfl⟩ helement
        | _ => simpa [Node.areAfterHead] using hnodes
      obtain ⟨c, tail, htail, hmark⟩ := exists_next hfollow (render_ne_nil_afterHead hmore) rest
      have hfirst : b.Passes (n.render false).toList (c :: tail) fun next =>
          next.Ready .afterHead false (a.graft root.1 [n]) [root] :=
        Ready.run_node n (.inside h) rfl hn (absurd · Bool.false_ne_true) (fun htext => hend htext)
          hmark
      rw [← htail] at hfirst
      refine hfirst.append fun b₁ h₁ => ?_
      have hothers := ih (h₁.inside_of_mode rfl) hmore (endsInText_of_mayFollow hlt hfollow)
      rw [Arena.graft_graft hlt, List.singleton_append] at hothers
      exact hothers

/-- The content of the root element. -/
theorem run_inRoot {root : Nat × Tag} (h : b.Inside .beforeHead false a [root])
    {nodes : List Node} (hnodes : Node.areInRoot root.2 nodes) (rest : List Char) :
    b.Passes (Node.renderAll false nodes).toList ('<' :: rest) fun next =>
      ∃ body, next.Inside .afterBody false (a.graft root.1 nodes) [body, root] := by
  induction nodes generalizing b a with
  | nil => cases hnodes
  | cons n more ih =>
    have hlt : root.1 < a.next := h.lt
    rw [renderAll_cons]
    cases n with
    | element tag children =>
      rw [Node.areInRoot, Bool.and_eq_true, Bool.and_eq_true, Bool.and_eq_true,
        beq_iff_eq] at hnodes
      obtain ⟨⟨⟨hname, htag⟩, hchildren⟩, hmore⟩ := hnodes
      refine (h.run_head hname htag hchildren _).append fun b₁ h₁ => ?_
      have hend : (a.graft root.1 [.element tag children]).endsInText root.1 = false :=
        Arena.endsInText_graft hlt _
      have hothers := h₁.run_afterHead hmore (fun _ => hend) rest
      rw [Arena.graft_graft hlt] at hothers
      exact hothers
    | comment text =>
      rw [Node.areInRoot, Bool.and_eq_true] at hnodes
      · refine ((Ready.inside h).run_comment rfl hnodes.1 _).append fun b₁ h₁ => ?_
        have hothers := ih h₁ hnodes.2
        rw [Arena.graft_graft hlt] at hothers
        exact hothers
      · nofun
    | _ => cases hnodes

/-- The root element and its content. -/
theorem run_root (h : b.Inside m s a []) (hm : m = .initial ∨ m = .beforeHtml)
    (hname : tag.name = "html") (htag : tag.isLegible) {children : List Node}
    (hchildren : Node.areInRoot tag children) (rest : List Char) :
    b.Passes ((Node.element tag children).render false).toList rest fun next =>
      ∃ path, next.Inside .afterAfterBody false (a.graft Arena.root [.element tag children])
        path := by
  have hlt : (Arena.root : Nat) < a.next := h.rooted
  obtain ⟨hlegible, hscript, hdrops⟩ := outer_legible (.inl hname)
  rw [render_outer (.inl hname)]
  refine (run_outerStart (h.accept_html hm hname) htag hdrops children _).append
    fun b₁ h₁ => ?_
  have hcontent := h₁.run_inRoot hchildren
    ('/' :: (tag.name.toList ++ ['>']) ++ rest)
  rw [← List.cons_append, ← toList_endTag, Arena.graft_opened hlt] at hcontent
  refine hcontent.append ?_
  rintro b₂ ⟨body, h₂⟩
  have hclosed := h₂.accept_htmlEnd
  rw [← hname] at hclosed
  exact (run_outerEnd hclosed hlegible hscript rest).mono fun next hnext => ⟨_, hnext⟩

/-- All of a document. -/
theorem run_outer (doctype : Bool)
    (h : b.Inside (if doctype then .initial else .beforeHtml) false a []) {nodes : List Node}
    (hnodes : Node.areOuter doctype nodes) :
    b.Passes (Node.renderAll false nodes).toList [] fun next =>
      ∃ path, next.Inside .afterAfterBody false (a.graft Arena.root nodes) path := by
  induction nodes generalizing b a doctype with
  | nil => cases hnodes
  | cons n more ih =>
    have hlt : (Arena.root : Nat) < a.next := h.rooted
    rw [renderAll_cons]
    cases n with
    | element tag children =>
      rw [Node.areOuter, Bool.and_eq_true, Bool.and_eq_true, Bool.and_eq_true, beq_iff_eq] at hnodes
      obtain ⟨⟨⟨hname, htag⟩, hchildren⟩, hmore⟩ := hnodes
      have hm : (if doctype then Mode.initial else .beforeHtml) = .initial ∨
          (if doctype then Mode.initial else .beforeHtml) = .beforeHtml := by
        cases doctype <;> simp
      refine (h.run_root hm hname htag hchildren _).append fun b₁ h₁ => ?_
      have hcomments := run_comments Arena.root
        (fun a b => ∃ path, b.Inside .afterAfterBody false a path)
        (fun ⟨_, h⟩ => h.rooted) (fun ⟨path, h⟩ s => ⟨path, h.accept_outerComment rfl s⟩) hmore h₁ []
      rw [Arena.graft_graft hlt] at hcomments
      exact hcomments
    | comment text =>
      rw [Node.areOuter, Bool.and_eq_true] at hnodes
      · have hm : (if doctype then Mode.initial else .beforeHtml).putsCommentsOut := by
          cases doctype <;> rfl
        have hothers := ih doctype (h.accept_outerComment hm text) hnodes.2
        rw [Arena.graft_graft hlt] at hothers
        intro last
        obtain ⟨next, last', hrun, hgood⟩ := hothers last
        refine ⟨next, last', ?_, hgood⟩
        rw [Node.render, List.append_assoc, run_append, run_commentText hnodes.1, hrun]
      · nofun
      · nofun
    | doctype name =>
      rw [Node.areOuter, Bool.and_eq_true, Bool.and_eq_true] at hnodes
      obtain ⟨⟨rfl, hname⟩, hmore⟩ := hnodes
      intro last
      obtain ⟨d, hd, hread⟩ := @run_doctype b last name hname
      have hopened := h.accept_doctype d
      rw [hd] at hopened
      have hothers := ih false hopened hmore
      rw [Arena.graft_graft hlt] at hothers
      obtain ⟨next, last', hrun, hgood⟩ := hothers last
      refine ⟨next, last', ?_, hgood⟩
      rw [Node.render, List.append_assoc, run_append, hread, hrun]
    | text => cases hnodes

end Builder.Inside

/-! ## Documents -/

theorem Builder.inside_start : ({} : Builder).Inside .initial false .empty [] where
  mode_eq := rfl
  skips_eq := rfl
  arena_eq := rfl
  stack_eq := rfl
  formatting_eq := rfl
  form_eq := rfl
  fostering_eq := rfl
  rawText_eq := rfl
  noTemplate := nofun
  rooted := Nat.one_pos
  ids := List.pairwise_singleton _ _

section Returns

/-- No carriage return is written for siblings if none is for each of them. -/
theorem not_mem_siblings {nodes : List Node} (h : ∀ n ∈ nodes, '\r' ∉ (n.render false).toList) :
    '\r' ∉ (Node.renderAll false nodes).toList := by
  induction nodes with
  | nil => simp [Node.renderAll]
  | cons n more ih =>
    obtain ⟨hn, hmore⟩ := List.forall_mem_cons.1 h
    rw [renderAll_cons, List.mem_append, not_or]
    exact ⟨hn, ih hmore⟩

theorem not_mem_steadyComment {n : Node} (h : n.isSteadyComment) :
    '\r' ∉ (n.render false).toList := by
  cases n with
  | comment s => exact not_mem_comment h
  | _ => cases h

theorem not_mem_outer {tag : Tag} (hname : tag.name = "html" ∨ tag.name = "head" ∨ tag.name = "body")
    (htag : tag.isLegible) {children : List Node}
    (hchildren : '\r' ∉ (Node.renderAll false children).toList) :
    '\r' ∉ ((Node.element tag children).render false).toList := by
  rw [Builder.Inside.render_outer hname, List.mem_append, List.mem_append, not_or, not_or,
    Builder.Inside.toList_endTag]
  have hend := not_mem_tagName (Builder.Inside.outer_legible hname).1
  exact ⟨not_mem_renderStart htag children, hchildren, by simp [hend]⟩

theorem not_mem_doctype {name : String} (h : isDoctypeName name) :
    '\r' ∉ ((Node.doctype name).render false).toList := by
  rw [isDoctypeName, List.all_eq_true] at h
  have hname : '\r' ∉ name.toList := fun hmem => absurd (h _ hmem) (by decide)
  simp only [Node.render, String.toList_append, List.mem_append, not_or]
  exact ⟨⟨by decide, hname⟩, by decide⟩

theorem not_mem_afterHead {root : Tag} {nodes : List Node} (h : Node.areAfterHead root nodes) :
    ∀ n ∈ nodes, '\r' ∉ (n.render false).toList := by
  induction nodes with
  | nil => nofun
  | cons n more ih =>
    refine List.forall_mem_cons.2 ?_
    cases n with
    | element tag children =>
      rw [Node.areAfterHead, Bool.and_eq_true, Bool.and_eq_true, Bool.and_eq_true,
        beq_iff_eq] at h
      obtain ⟨⟨⟨hname, htag⟩, hchildren⟩, hmore⟩ := h
      exact ⟨not_mem_outer (.inr (.inr hname)) htag (not_mem_renderAll children hchildren),
        fun n hn => not_mem_steadyComment (List.all_eq_true.1 hmore n hn)⟩
    | _ =>
      simp only [Node.areAfterHead, Bool.and_eq_true] at h
      exact ⟨not_mem_render _ h.1.1, ih h.2⟩

theorem not_mem_inRoot {root : Tag} {nodes : List Node} (h : Node.areInRoot root nodes) :
    ∀ n ∈ nodes, '\r' ∉ (n.render false).toList := by
  induction nodes with
  | nil => nofun
  | cons n more ih =>
    refine List.forall_mem_cons.2 ?_
    cases n with
    | element tag children =>
      rw [Node.areInRoot, Bool.and_eq_true, Bool.and_eq_true, Bool.and_eq_true, beq_iff_eq] at h
      obtain ⟨⟨⟨hname, htag⟩, hchildren⟩, hmore⟩ := h
      exact ⟨not_mem_outer (.inr (.inl hname)) htag (not_mem_renderAll children hchildren),
        not_mem_afterHead hmore⟩
    | _ =>
      simp only [Node.areInRoot, Bool.and_eq_true] at h
      exact ⟨not_mem_steadyComment h.1, ih h.2⟩

theorem not_mem_document {doctype : Bool} {nodes : List Node} (h : Node.areOuter doctype nodes) :
    ∀ n ∈ nodes, '\r' ∉ (n.render false).toList := by
  induction nodes generalizing doctype with
  | nil => nofun
  | cons n more ih =>
    refine List.forall_mem_cons.2 ?_
    cases n with
    | element tag children =>
      rw [Node.areOuter, Bool.and_eq_true, Bool.and_eq_true, Bool.and_eq_true, beq_iff_eq] at h
      obtain ⟨⟨⟨hname, htag⟩, hchildren⟩, hmore⟩ := h
      exact ⟨not_mem_outer (.inl hname) htag (not_mem_siblings (not_mem_inRoot hchildren)),
        fun n hn => not_mem_steadyComment (List.all_eq_true.1 hmore n hn)⟩
    | doctype name =>
      rw [Node.areOuter, Bool.and_eq_true, Bool.and_eq_true] at h
      exact ⟨not_mem_doctype h.1.2, ih h.2⟩
    | _ =>
      simp only [Node.areOuter, Bool.and_eq_true] at h
      exact ⟨not_mem_steadyComment h.1, ih h.2⟩

end Returns

/-- What is written for a document begins with a tag, a comment or its type. -/
theorem exists_first {doctype : Bool} {nodes : List Node} (h : Node.areOuter doctype nodes) :
    ∃ c rest, (Node.renderAll false nodes).toList = c :: rest ∧ c ≠ '\ufeff' := by
  cases nodes with
  | nil => cases h
  | cons n more =>
    have hfirst : ∃ rest, (n.render false).toList = '<' :: rest := by
      cases n with
      | text => cases h
      | element tag children => simp [Node.render, Tag.renderStart]
      | _ => simp [Node.render]
    obtain ⟨rest, hrest⟩ := hfirst
    exact ⟨'<', _, by rw [renderAll_cons, hrest]; rfl, by decide⟩

/-- Reading what is written for a steady document gives the document again. -/
theorem Document.parse_render {doc : Document} (h : doc.isSteady) :
    Document.parse doc.render = doc := by
  obtain ⟨nodes⟩ := doc
  have hlines : unifyNewlines (Document.render ⟨nodes⟩).toList = (Document.render ⟨nodes⟩).toList :=
    unifyNewlines_of_not_mem (not_mem_siblings (not_mem_document h))
  obtain ⟨next, last, hrun, path, hinside⟩ :=
    Builder.inside_start.run_outer true h ""
  rw [List.append_nil] at hrun
  -- Nothing that is written for the first node is taken for a byte order mark.
  have hstart : ({} : Reader).run (Document.render ⟨nodes⟩).toList =
      (Reader.midway .data {} "").run (Document.render ⟨nodes⟩).toList := by
    obtain ⟨c, rest, hc, hne⟩ := exists_first h
    rw [Document.render, hc]
    exact @Reader.run_chunkStart .data {} "" true c rest fun _ => hne
  rw [Document.parse, hlines, hstart]
  show ((Reader.midway .data {} "").run (Node.renderAll false nodes).toList).document = _
  rw [hrun]
  show (next.accept .eof).arena.document = _
  rw [hinside.accept_eof, Arena.document_graft]

/-- A text that is read as a steady document does not drift: the text that is written for the
document is read as the same document. -/
theorem Document.parse_render_parse (html : String) (h : (Document.parse html).isSteady) :
    Document.parse (Document.parse html).render = Document.parse html :=
  Document.parse_render h

/-- A page with references, raw text, formatting, items without end tags, a table without all of
its parts, options and a kept line feed. -/
def Document.steadyPage : String :=
  "<!DOCTYPE html><title>A &lt; B</title><script>a<b</script><ul><li>x<li>" ++
    "<a href='?a&amp;b'>y</a></ul><table>\n<tr><td><b>1<td><select><option>2<option>3</select>" ++
    "</table><pre>\n\nz</pre><p>4<br>5"

theorem Document.parse_render_parse_page : (Document.parse steadyPage).isSteady = true ∧
    Document.parse (Document.parse steadyPage).render = Document.parse steadyPage :=
  have hsteady : (Document.parse steadyPage).isSteady = true := by decide +kernel
  ⟨hsteady, Document.parse_render_parse steadyPage hsteady⟩

/-- Nothing ends a `plaintext` element, so what is written behind its text is read as more of it. -/
theorem Document.plaintext_drifts :
    Document.parse (Document.parse "<plaintext>x").render ≠ Document.parse "<plaintext>x" := by
  decide +kernel

end StaticSite.Html
