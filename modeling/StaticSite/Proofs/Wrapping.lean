/-
  The wrapper that is taken off a page.

  A page that goes into a layout loses what a reader puts around the content of a body: the
  text up to the start tag of the body, if the page is written with just that at its start,
  and the end tags of body and root, if it is written with just those at its end.  Each end is
  looked at for itself.  Whether the start is found depends on what is written before the
  content of the body (`Document.beginsBare`), and whether the end is found on what is written
  behind it (`Document.endsBare`), so for the page of any text both ends are taken off, or
  neither, exactly if the two conditions agree (`Page.bodyOf_ends`).
-/

import StaticSite.Build.Page
import StaticSite.Proofs.PlainTexts
import StaticSite.Proofs.Pruning

namespace StaticSite

open Template (writtenTag isWritten markerKind? nodePieces nodesPieces sequence Marker)
open Template.Fragment (chars)

namespace Html

/-! ## What is written first and last -/

/-- Whether reading writes nothing for a node. -/
def Node.isSilent : Node → Bool
  | .text s => s.isEmpty
  | .element tag _ => !isWritten tag
  | _ => false

/-- The nodes for which something is written. -/
def shown (nodes : List Node) : List Node := nodes.filter (!·.isSilent)

/-- If what is written begins with an element of a name and without attributes: what the element
holds and what comes behind it. -/
def beginsWith? (name : String) (nodes : List Node) : Option (List Node × List Node) :=
  match shown nodes with
  | .element tag content :: rest =>
    if tag.name == name && (writtenTag tag).attrs.isEmpty then some (content, rest) else none
  | _ => none

mutual

/-- The end tags with which what is written for a node ends, the last one first.  A document type is
written without escaping, so it may look like an end tag; no reader puts one below an element. -/
def Node.endTags : Node → List String
  | .element tag children =>
    if !isWritten tag || (markerKind? tag).isSome then []
    else if tag.isVoid then Node.endTagsOf children
    else tag.name :: Node.endTagsOf children
  | .doctype name => if "</body".toList.isSuffixOf name.toList then ["body"] else []
  | _ => []

def Node.endTagsOf : List Node → List String
  | [] => []
  | node :: rest => if rest.all Node.isSilent then node.endTags else Node.endTagsOf rest

end

/-- Whether nothing but bare start tags and an empty head is written before the content of the
body. -/
def Document.beginsBare (doc : Document) : Bool :=
  (beginsWith? "html" doc.nodes).any fun (content, _) =>
    (beginsWith? "head" content).any fun (head, behind) =>
      (shown head).isEmpty && (beginsWith? "body" behind).isSome

/-- Whether nothing but end tags is written behind the content of the body. -/
def Document.endsBare (doc : Document) : Bool :=
  ["html", "body"].isPrefixOf (Node.endTagsOf doc.nodes)

/-- What the body holds, if nothing else is written but bare tags around it. -/
def Document.onlyBody? (doc : Document) : Option (List Node) := do
  let (content, last) ← beginsWith? "html" doc.nodes
  let (head, behind) ← beginsWith? "head" content
  let (body, rest) ← beginsWith? "body" behind
  if (shown head).isEmpty && (shown rest).isEmpty && (shown last).isEmpty then some body else none

end Html

open Html

/-! ## Lists that are cut at a mark -/

section Cuts

variable {α : Type} {c d : α}

/-- Where a list has a first mark. -/
theorem cut_first {a b u v : List α} (h : a ++ c :: u = b ++ d :: v) (hc : c ∉ b) (hd : d ∉ a) :
    a = b ∧ c = d ∧ u = v := by
  induction a generalizing b with
  | nil =>
    cases b with
    | nil => exact ⟨rfl, List.cons.inj h⟩
    | cons x rest => exact absurd ((List.cons.inj h).1 ▸ List.mem_cons_self) hc
  | cons x rest ih =>
    cases b with
    | nil => exact absurd ((List.cons.inj h).1 ▸ List.mem_cons_self) hd
    | cons y more =>
      obtain ⟨rfl, htail⟩ := List.cons.inj h
      obtain ⟨rfl, hcd, huv⟩ := ih htail (fun hmem => hc (List.mem_cons_of_mem _ hmem))
        fun hmem => hd (List.mem_cons_of_mem _ hmem)
      exact ⟨rfl, hcd, huv⟩

/-- Where a list has a last mark. -/
theorem cut_last {a b u v : List α} (h : u ++ c :: a = v ++ d :: b) (hc : c ∉ b) (hd : d ∉ a) :
    u = v ∧ c = d ∧ a = b := by
  have hreverse : a.reverse ++ c :: u.reverse = b.reverse ++ d :: v.reverse := by
    have heq := congrArg List.reverse h
    simpa using heq
  obtain ⟨hab, hcd, huv⟩ := cut_first hreverse (by simpa using hc) (by simpa using hd)
  exact ⟨List.reverse_inj.1 huv, hcd, List.reverse_inj.1 hab⟩

/-- A mark lies before a part that does not have it. -/
theorem length_le_of_mark {a u p w : List α} (h : u ++ c :: a <:+ p ++ w) (hc : c ∉ w) :
    w.length ≤ a.length := by
  obtain ⟨before, heq⟩ := h
  rw [← List.append_assoc] at heq
  rcases List.append_eq_append_iff.1 heq with ⟨t, -, ha⟩ | ⟨t, -, hw⟩
  · cases t with
    | nil =>
      have hw : c :: a = w := ha
      exact absurd (hw ▸ List.mem_cons_self) hc
    | cons x rest =>
      have htail : a = rest ++ w := (List.cons.inj ha).2
      rw [htail, List.length_append]
      omega
  · exact absurd (hw ▸ List.mem_append_right _ List.mem_cons_self) hc

end Cuts

namespace Html

/-! ## How nodes are written -/

theorem mem_chars {c : Char} {s : String} : .inl c ∈ chars s ↔ c ∈ s.toList := by
  rw [chars, List.mem_map]
  constructor
  · rintro ⟨d, hd, heq⟩
    rwa [← Sum.inl.inj heq]
  · exact fun h => ⟨c, h, rfl⟩

/-- Escaped text has no angle brackets. -/
theorem ne_bracket_of_mem_escape {s : String} {c : Char} (h : c ∈ (escape .content s).toList) :
    c ≠ '<' ∧ c ≠ '>' := by
  rw [escape, String.toList_ofList] at h
  obtain ⟨d, -, hc⟩ := List.mem_flatMap.1 h
  have hwritten (text : String) (htext : text.toList.all fun c => c != '<' && c != '>')
      (hmem : c ∈ text.toList) : c ≠ '<' ∧ c ≠ '>' := by
    simpa using List.all_eq_true.1 htext c hmem
  simp only [escapeChar] at hc
  split_ifs at hc with hamp hspace hless hgreater
  · exact hwritten "&amp;" (by decide) hc
  · exact hwritten "&nbsp;" (by decide) hc
  · exact hwritten "&lt;" (by decide) hc
  · exact hwritten "&gt;" (by decide) hc
  · rw [List.mem_singleton.1 hc]
    exact ⟨by simpa using hless, by simpa using hgreater⟩

theorem escape_ne_nil {s : String} (h : s ≠ "") : (escape .content s).toList ≠ [] := by
  obtain ⟨c, rest, hs⟩ := List.exists_cons_of_ne_nil (mt String.toList_eq_nil_iff.1 h)
  rw [escape, String.toList_ofList, hs, List.flatMap_cons]
  simp only [escapeChar]
  split_ifs <;> simp

/-- The attributes in a start tag, if there are any: a blank stands before them, and a quotation
mark at their end. -/
theorem attrs_ends {attrs : List Attribute} (h : attrs ≠ []) :
    ∃ inner, chars (String.join (attrs.map Attribute.render)) = .inl ' ' :: inner ++ [.inl '"'] := by
  have hrender (attr : Attribute) : ∃ inner, chars attr.render = .inl ' ' :: inner ++ [.inl '"'] :=
    ⟨chars attr.name ++ (chars "=\"" ++ chars (escape .attribute attr.value)), by
      simp [Attribute.render, chars]⟩
  induction attrs with
  | nil => exact absurd rfl h
  | cons attr rest ih =>
    obtain ⟨inner, hinner⟩ := hrender attr
    rw [List.map_cons, String.join_cons, Template.Fragment.chars_append, hinner]
    by_cases hrest : rest = []
    · exact ⟨inner, by rw [hrest]; simp [String.join]⟩
    · obtain ⟨more, hmore⟩ := ih hrest
      exact ⟨inner ++ [.inl '"'] ++ .inl ' ' :: more, by rw [hmore]; simp⟩

/-- A start tag from its name on. -/
theorem chars_renderStart (tag : Tag) (children : List Node) :
    chars (tag.renderStart children) = .inl '<' :: (chars tag.name ++
      (chars (String.join (tag.attrs.map Attribute.render)) ++
        .inl '>' :: chars (tag.leadingNewline children))) := by
  simp [Tag.renderStart, chars]

theorem chars_startText (name : String) :
    chars ("<" ++ name ++ ">") = .inl '<' :: (chars name ++ [.inl '>']) := by
  simp [chars]

theorem chars_endText (name : String) :
    chars ("</" ++ name ++ ">") = .inl '<' :: .inl '/' :: (chars name ++ [.inl '>']) := by
  simp [chars]

/-! ### Nodes -/

section Nodes

variable {tag : Tag} {children nodes rest : List Node}

theorem sequence_text (s : String) :
    sequence (nodePieces false (.text s)) = chars (escape .content s) := by
  simp [nodePieces, renderText]

theorem sequence_comment (s : String) :
    sequence (nodePieces false (.comment s)) = chars ("<!--" ++ s ++ "-->") := by
  simp [nodePieces, Node.render]

theorem sequence_doctype (name : String) :
    sequence (nodePieces false (.doctype name)) = chars ("<!DOCTYPE " ++ name ++ ">") := by
  simp [nodePieces, Node.render]

theorem sequence_marker (hwritten : isWritten tag) (hmarker : (markerKind? tag).isSome) :
    ∃ m, sequence (nodePieces false (.element tag children)) = [.inr m] := by
  obtain ⟨kind, hkind⟩ := Option.isSome_iff_exists.1 hmarker
  have hstays : ¬tag.hasClass Template.removalClass := by
    simpa using (Bool.and_eq_true_iff.1 hwritten).1
  obtain ⟨m, hm, -⟩ := Template.markerPiece_of_isWritten hkind hwritten
  refine ⟨m, ?_⟩
  rw [nodePieces, if_neg hstays, hkind, Template.sequence_append, Template.sequence_settingsPieces]
  simp only [hm]
  rfl

theorem sequence_element (hwritten : isWritten tag) (hmarker : markerKind? tag = none) :
    sequence (nodePieces false (.element tag children)) =
      chars ((writtenTag tag).renderStart children) ++
        (sequence (nodesPieces tag.hasRawText children) ++ chars tag.renderEnd) := by
  have hstays : ¬tag.hasClass Template.removalClass := by
    simpa using (Bool.and_eq_true_iff.1 hwritten).1
  rw [nodePieces, if_neg hstays, hmarker, Template.sequence_append,
    Template.sequence_settingsPieces]
  simp

theorem sequence_of_isSilent {n : Node} (h : n.isSilent) : sequence (nodePieces false n) = [] := by
  cases n with
  | text s =>
    obtain rfl : s = "" := String.isEmpty_iff.1 h
    rfl
  | element tag children =>
    have hsilent : ¬isWritten tag := by simpa [Node.isSilent] using h
    by_cases hremoved : tag.hasClass Template.removalClass
    · rw [nodePieces, if_pos hremoved]
      rfl
    · obtain ⟨kind, hkind⟩ : ∃ kind, markerKind? tag = some kind := by
        cases hkind : markerKind? tag with
        | none => exact absurd (by simp [isWritten, hremoved, hkind]) hsilent
        | some kind => exact ⟨kind, rfl⟩
      have hnotice := (Template.markerPiece_of_not_written hkind hremoved hsilent).2
      rw [nodePieces, if_neg hremoved, hkind, Template.sequence_append,
        Template.sequence_settingsPieces]
      simp only [hnotice]
      rfl
  | _ => cases h

/-- Nodes for which nothing is written might as well not be there. -/
theorem sequence_shown (nodes : List Node) :
    sequence (nodesPieces false (shown nodes)) = sequence (nodesPieces false nodes) := by
  induction nodes with
  | nil => rfl
  | cons n rest ih =>
    rw [nodesPieces, Template.sequence_append, ← ih]
    cases hsilent : n.isSilent with
    | true =>
      have hskipped : shown (n :: rest) = shown rest := by simp [shown, hsilent]
      rw [hskipped, sequence_of_isSilent hsilent, List.nil_append]
    | false =>
      have hkept : shown (n :: rest) = n :: shown rest := by simp [shown, hsilent]
      rw [hkept, nodesPieces, Template.sequence_append]

theorem mem_shown {n : Node} (h : n ∈ shown nodes) : n ∈ nodes ∧ n.isSilent = false := by
  simpa [shown] using h

theorem isPlain_of_mem (h : Node.arePlain nodes) {n : Node} (hn : n ∈ nodes) : n.isPlain := by
  induction nodes with
  | nil => cases hn
  | cons m rest ih =>
    obtain ⟨hm, hrest⟩ := Bool.and_eq_true_iff.1 h
    rcases List.mem_cons.1 hn with rfl | hn
    · exact hm
    · exact ih hrest hn

end Nodes

/-! ### Names of the outer elements -/

/-- The elements that every document has. -/
def isOuterName (name : String) : Bool := ["html", "head", "body"].contains name

theorem outer_cases {name : String} (h : isOuterName name) :
    name = "html" ∨ name = "head" ∨ name = "body" := by
  simpa [isOuterName] using h

/-- Their names are of small letters. -/
theorem outer_isLower {name : String} (h : isOuterName name) {c : Char} (hc : c.isLower = false) :
    c ∉ name.toList := by
  have hletters : name.toList.all Char.isLower := by
    rcases outer_cases h with rfl | rfl | rfl <;> decide
  intro hmem
  have hlower := List.all_eq_true.1 hletters c hmem
  rw [hc] at hlower
  cases hlower

theorem outer_ne_nil {name : String} (h : isOuterName name) : name.toList ≠ [] := by
  rcases outer_cases h with rfl | rfl | rfl <;> decide

/-- They are written with both tags, and their text is escaped. -/
theorem outer_tag {tag : Tag} (h : isOuterName tag.name) : markerKind? tag = none ∧
    tag.hasRawText = false ∧ tag.renderEnd = "</" ++ tag.name ++ ">" ∧
    newlineDroppingNames.contains tag.name = false := by
  have hvoid : tag.isVoid = false ∧ tag.hasRawText = false ∧
      newlineDroppingNames.contains tag.name = false ∧ (tag.name == "embed") = false ∧
      (tag.name == "link") = false := by
    unfold Tag.isVoid Tag.hasRawText
    rcases outer_cases h with hname | hname | hname <;> rw [hname] <;> decide
  refine ⟨?_, hvoid.2.1, ?_, hvoid.2.2.1⟩
  · rw [markerKind?, hvoid.2.2.2.1, hvoid.2.2.2.2]
    rfl
  · rw [Tag.renderEnd, hvoid.1]
    rfl

/-! ### Starts -/

section Starts

variable {name : String} {tag : Tag} {nodes : List Node} {x y : List (Char ⊕ Marker)}

/-- A start tag is a bare one only if it has the name and no attributes. -/
theorem startTag_prefix_iff (hname : isOuterName name) (htag : isPlainName tag.name)
    (children : List Node) :
    chars ("<" ++ name ++ ">") ++ x <+: chars (tag.renderStart children) ++ y ↔
      tag.name = name ∧ tag.attrs = [] ∧ x <+: y := by
  have hclose : (.inl '>' : Char ⊕ Marker) ∉ chars tag.name := by
    rw [mem_chars]
    intro hmem
    simpa using List.all_eq_true.1 htag _ hmem
  have hblank : (.inl ' ' : Char ⊕ Marker) ∉ chars name := by
    rw [mem_chars]
    exact outer_isLower hname rfl
  have hend : (.inl '>' : Char ⊕ Marker) ∉ chars name := by
    rw [mem_chars]
    exact outer_isLower hname rfl
  rw [chars_startText, chars_renderStart]
  simp only [List.cons_append, List.append_assoc, List.cons_prefix_cons, true_and, List.nil_append]
  constructor
  · rintro ⟨w, hw⟩
    rw [List.append_assoc, List.cons_append] at hw
    by_cases hattrs : tag.attrs = []
    · rw [hattrs] at hw
      obtain ⟨heq, -, htail⟩ := cut_first hw hclose hend
      have hsame : name = tag.name := by
        rw [chars, chars] at heq
        exact String.toList_inj.1 (List.map_injective_iff.2 Sum.inl_injective heq)
      have hnone : tag.leadingNewline children = "" := by
        rw [Tag.leadingNewline, (outer_tag (hsame ▸ hname)).2.2.2]
        rfl
      rw [hnone] at htail
      exact ⟨hsame.symm, hattrs, w, htail⟩
    · obtain ⟨inner, hinner⟩ := attrs_ends hattrs
      rw [hinner] at hw
      obtain ⟨-, hmark, -⟩ := cut_first hw hclose hblank
      exact absurd hmark (by decide)
  · rintro ⟨rfl, hattrs, w, rfl⟩
    have hnone : tag.leadingNewline children = "" := by
      rw [Tag.leadingNewline, (outer_tag hname).2.2.2]
      rfl
    rw [hattrs, hnone]
    exact ⟨w, by simp [chars, String.join]⟩

/-- A comment or a document type begins with a bracket and a mark that no tag has there. -/
theorem not_declared_prefix {c : Char} (hc : c ≠ '!') (s : String) :
    ¬ [.inl '<', .inl c] <+: chars ("<!" ++ s) ++ y := by
  have hfirst : chars ("<!" ++ s) = .inl '<' :: .inl '!' :: chars s := by
    simp [chars]
  intro h
  rw [hfirst, List.cons_append, List.cons_append, List.cons_prefix_cons, List.cons_prefix_cons] at h
  exact hc (Sum.inl.inj h.2.1)

/-- A marker does not begin with a bracket. -/
theorem not_marker_prefix {children : List Node} (hwritten : isWritten tag)
    (hmarker : (markerKind? tag).isSome) (c : Char) :
    ¬ [.inl '<', .inl c] <+: sequence (nodePieces false (.element tag children)) ++ y := by
  obtain ⟨m, hm⟩ := @sequence_marker tag children hwritten hmarker
  intro h
  rw [hm, List.singleton_append, List.cons_prefix_cons] at h
  cases h.1

/-- A start tag does not begin with a bracket and a slash: what comes behind the bracket is the
name, or what follows an empty name. -/
theorem not_slash_prefix (tag : Tag) (hplain : isPlainName tag.name) (children : List Node) :
    ¬ [.inl '<', .inl '/'] <+: chars (tag.renderStart children) ++ y := by
  intro h
  rw [chars_renderStart, List.cons_append, List.cons_prefix_cons] at h
  obtain ⟨-, hsecond⟩ := h
  cases hletters : tag.name.toList with
  | nil =>
    have hempty : chars tag.name = [] := by
      rw [chars, hletters]
      rfl
    rw [hempty] at hsecond
    by_cases hattrs : tag.attrs = []
    · rw [hattrs] at hsecond
      exact absurd (List.cons_prefix_cons.1 hsecond).1 (by decide)
    · obtain ⟨inner, hinner⟩ := attrs_ends hattrs
      rw [hinner] at hsecond
      exact absurd (List.cons_prefix_cons.1 hsecond).1 (by decide)
  | cons d rest =>
    have hname : chars tag.name = .inl d :: rest.map .inl := by
      rw [chars, hletters]
      rfl
    rw [hname, List.cons_append, List.cons_append, List.cons_prefix_cons] at hsecond
    have hd : d = '/' := (Sum.inl.inj hsecond.1).symm
    rw [isPlainName, hletters, hd] at hplain
    simp at hplain

/-- A bracket and a letter or a slash come first only where a tag does: a start tag does not begin
with a slash. -/
theorem not_tag_prefix {n : Node} {c : Char} (hshown : n.isSilent = false) (hc : c ≠ '!')
    (hn : ∀ tag children, n = .element tag children →
      (markerKind? tag).isSome ∨ c = '/' ∧ isPlainName tag.name) :
    ¬ [.inl '<', .inl c] <+: sequence (nodePieces false n) ++ y := by
  intro h
  cases n with
  | text s =>
    have hs : s ≠ "" := by simpa [Node.isSilent] using hshown
    obtain ⟨d, rest, hd⟩ := List.exists_cons_of_ne_nil (escape_ne_nil hs)
    have hplain : d ≠ '<' := (ne_bracket_of_mem_escape (hd ▸ List.mem_cons_self)).1
    rw [sequence_text, chars, hd, List.map_cons, List.cons_append, List.cons_prefix_cons] at h
    exact hplain (Sum.inl.inj h.1).symm
  | comment s =>
    have hfirst : "<!--" ++ s ++ "-->" = "<!" ++ ("--" ++ s ++ "-->") := by
      simp [← String.toList_inj]
    rw [sequence_comment, hfirst] at h
    exact not_declared_prefix hc _ h
  | doctype name =>
    have hfirst : "<!DOCTYPE " ++ name ++ ">" = "<!" ++ ("DOCTYPE " ++ name ++ ">") := by
      simp [← String.toList_inj]
    rw [sequence_doctype, hfirst] at h
    exact not_declared_prefix hc _ h
  | element tag children =>
    have hwritten : isWritten tag := by simpa [Node.isSilent] using hshown
    by_cases hmarker : (markerKind? tag).isSome
    · exact not_marker_prefix hwritten hmarker c h
    · obtain ⟨rfl, hplain⟩ := (hn tag children rfl).resolve_left hmarker
      rw [sequence_element hwritten (by simpa using hmarker), List.append_assoc] at h
      exact not_slash_prefix (writtenTag tag) hplain children h

theorem beginsWith?_eq_some {content rest : List Node} :
    beginsWith? name nodes = some (content, rest) ↔ ∃ tag, shown nodes = .element tag content :: rest ∧
      tag.name = name ∧ (writtenTag tag).attrs = [] := by
  unfold beginsWith?
  split
  · next tag inner more hnodes =>
    constructor
    · intro h
      split at h
      · next hbare =>
        obtain ⟨hname, hattrs⟩ := Bool.and_eq_true_iff.1 hbare
        cases h
        exact ⟨tag, hnodes, by simpa using hname, List.isEmpty_iff.1 hattrs⟩
      · cases h
    · rintro ⟨other, heq, rfl, hattrs⟩
      rw [hnodes] at heq
      cases heq
      simp [hattrs]
  · next hnone =>
    refine iff_of_false nofun ?_
    rintro ⟨tag, hnodes, -⟩
    exact hnone _ _ _ hnodes

theorem arePlain_of_beginsWith? (h : Node.arePlain nodes) {content rest : List Node}
    (hbegins : beginsWith? name nodes = some (content, rest)) :
    Node.arePlain content ∧ Node.arePlain rest := by
  obtain ⟨tag, hnodes, -⟩ := beginsWith?_eq_some.1 hbegins
  have hall (n : Node) (hn : n ∈ shown nodes) : n.isPlain := isPlain_of_mem h (mem_shown hn).1
  rw [hnodes] at hall
  obtain ⟨hfirst, hrest⟩ := List.forall_mem_cons.1 hall
  exact ⟨(Bool.and_eq_true_iff.1 hfirst).2, Node.arePlain_of_forall hrest⟩

/-- What is written begins with a bare start tag. -/
theorem start_prefix_iff (hname : isOuterName name) (hplain : Node.arePlain nodes)
    (hrest : ∀ c : Char, c.isLower → ¬ [.inl '<', .inl c] <+: y) :
    chars ("<" ++ name ++ ">") ++ x <+: sequence (nodesPieces false nodes) ++ y ↔
      ∃ content rest, beginsWith? name nodes = some (content, rest) ∧
        x <+: sequence (nodesPieces false content) ++
          (chars ("</" ++ name ++ ">") ++ (sequence (nodesPieces false rest) ++ y)) := by
  obtain ⟨c, letters, hc⟩ := List.exists_cons_of_ne_nil (outer_ne_nil hname)
  have hlower : c.isLower := by
    by_contra hnot
    exact outer_isLower hname (by simpa using hnot) (hc ▸ List.mem_cons_self)
  have hbang : c ≠ '!' := by
    rintro rfl
    cases hlower
  have hfirst : [.inl '<', .inl c] <+: chars ("<" ++ name ++ ">") ++ x := by
    rw [chars_startText, chars, hc]
    exact ⟨_, rfl⟩
  simp only [beginsWith?_eq_some]
  rw [← sequence_shown nodes]
  cases hnodes : shown nodes with
  | nil =>
    refine iff_of_false (fun h => hrest c hlower (hfirst.trans h)) ?_
    rintro ⟨_, _, ⟨_, h, -⟩, -⟩
    cases h
  | cons n rest =>
    have hn : n ∈ shown nodes := hnodes ▸ List.mem_cons_self
    obtain ⟨hmem, hshown⟩ := mem_shown hn
    rw [nodesPieces, Template.sequence_append, List.append_assoc]
    by_cases hordinary : ∃ tag children, n = .element tag children ∧ markerKind? tag = none
    · obtain ⟨tag, children, rfl, hmarker⟩ := hordinary
      have hwritten : isWritten tag := by simpa [Node.isSilent] using hshown
      have htag : isPlainName (writtenTag tag).name :=
        (Bool.and_eq_true_iff.1 (isPlain_of_mem hplain hmem)).1
      rw [sequence_element hwritten hmarker, List.append_assoc, startTag_prefix_iff hname htag]
      constructor
      · rintro ⟨rfl, hattrs, hx⟩
        obtain ⟨-, hraw, hend, -⟩ := outer_tag hname
        rw [show tag.hasRawText = false from hraw, show tag.renderEnd = _ from hend,
          List.append_assoc] at hx
        exact ⟨children, rest, ⟨tag, rfl, rfl, hattrs⟩, hx⟩
      · rintro ⟨content, behind, ⟨other, heq, rfl, hattrs⟩, hx⟩
        obtain ⟨⟨rfl, rfl⟩, rfl⟩ : (tag = other ∧ children = content) ∧ rest = behind := by
          simpa using heq
        obtain ⟨-, hraw, hend, -⟩ := outer_tag hname
        rw [hraw, hend, List.append_assoc]
        exact ⟨rfl, hattrs, hx⟩
    · refine iff_of_false (fun h => not_tag_prefix hshown hbang ?_ (hfirst.trans h)) ?_
      · rintro tag children rfl
        refine .inl (Option.isSome_iff_ne_none.2 fun hmarker => hordinary ⟨tag, children, rfl, hmarker⟩)
      · rintro ⟨content, behind, ⟨tag, heq, rfl, -⟩, -⟩
        exact hordinary ⟨tag, content, (List.cons.inj heq).1, (outer_tag hname).1⟩

/-- What is written begins with an end tag only if nothing is written before it. -/
theorem end_prefix_iff (name : String) (hplain : Node.arePlain nodes) :
    chars ("</" ++ name ++ ">") ++ x <+: sequence (nodesPieces false nodes) ++ y ↔
      shown nodes = [] ∧ chars ("</" ++ name ++ ">") ++ x <+: y := by
  rw [← sequence_shown nodes]
  cases hnodes : shown nodes with
  | nil => simp [nodesPieces]
  | cons n rest =>
    have hn : n ∈ shown nodes := hnodes ▸ List.mem_cons_self
    obtain ⟨hmem, hshown⟩ := mem_shown hn
    have hn := isPlain_of_mem hplain hmem
    have hfirst : [.inl '<', .inl '/'] <+: chars ("</" ++ name ++ ">") ++ x := by
      rw [chars_endText]
      exact ⟨_, rfl⟩
    refine iff_of_false (fun h => ?_) (fun h => List.cons_ne_nil _ _ h.1)
    rw [nodesPieces, Template.sequence_append, List.append_assoc] at h
    refine not_tag_prefix hshown (by decide) (fun tag children heq => .inr ⟨rfl, ?_⟩)
      (hfirst.trans h)
    subst heq
    exact (Bool.and_eq_true_iff.1 hn).1

end Starts

/-! ### Ends -/

section Ends

variable {name : String} {tag : Tag} {nodes : List Node} {x y : List (Char ⊕ Marker)}

/-- A start tag is no end tag: a slash comes behind a bracket there. -/
theorem not_endTag_start (hname : isOuterName name) (hplain : isPlainName tag.name)
    (hbracket : '<' ∉ tag.name.toList) (hkept : newlineDroppingNames.contains tag.name = false)
    (children : List Node) :
    ¬ chars ("</" ++ name ++ ">") <:+ y ++ chars (tag.renderStart children) := by
  obtain ⟨other, attrs⟩ := tag
  have hnone : Tag.leadingNewline ⟨other, attrs⟩ children = "" := by
    rw [Tag.leadingNewline, hkept]
    rfl
  rw [chars_renderStart, hnone]
  rintro ⟨w, hw⟩
  have hletters (c : Char) (hc : c.isLower = false) : (.inl c : Char ⊕ Marker) ∉ chars name := by
    rw [mem_chars]
    exact outer_isLower hname hc
  -- Both lists end with a bracket; what is before it has to be the same.
  have hbefore : w ++ .inl '<' :: .inl '/' :: chars name = y ++ .inl '<' :: (chars other ++
      chars (String.join (attrs.map Attribute.render))) := by
    refine @List.append_cancel_right _ (w ++ _) [.inl '>'] _ ?_
    rw [chars_endText] at hw
    simpa using hw
  by_cases hattrs : attrs = []
  · rw [hattrs] at hbefore
    have hslash : (.inl '<' : Char ⊕ Marker) ∉ .inl '/' :: chars name := by
      simpa using hletters '<' rfl
    have hother : (.inl '<' : Char ⊕ Marker) ∉ chars other ++ chars (String.join []) := by
      simpa [mem_chars, String.join] using hbracket
    obtain ⟨-, -, heq⟩ := cut_last hbefore hother hslash
    have hmem : (.inl '/' : Char ⊕ Marker) ∈ chars other := by
      have hfirst : (.inl '/' : Char ⊕ Marker) ∈ chars other ++ chars (String.join []) :=
        heq ▸ List.mem_cons_self
      simpa [String.join] using hfirst
    simpa using List.all_eq_true.1 hplain _ (mem_chars.1 hmem)
  · -- The last attribute ends with a quotation mark.
    obtain ⟨inner, hinner⟩ := attrs_ends hattrs
    have hquote : w ++ [.inl '<'] ++ .inl '/' :: chars name =
        y ++ .inl '<' :: (chars other ++ .inl ' ' :: inner) ++ .inl '"' :: [] := by
      rw [hinner] at hbefore
      simpa using hbefore
    obtain ⟨-, hmark, -⟩ := cut_last hquote List.not_mem_nil (hletters '"' rfl)
    exact absurd hmark (by decide)

/-- What the end tag of an outer element follows. -/
theorem endTag_suffix_iff (name : String) :
    x ++ chars ("</" ++ name ++ ">") <:+ y ++ [.inl '>'] ↔
      x ++ [.inl '<'] ++ .inl '/' :: chars name <:+ y := by
  rw [chars_endText]
  constructor
  · rintro ⟨w, hw⟩
    refine ⟨w, @List.append_cancel_right _ _ [.inl '>'] _ ?_⟩
    simpa using hw
  · rintro ⟨w, rfl⟩
    exact ⟨w, by simp⟩

/-- Escaped text has no brackets, comments end with dashes, and markers are no text. -/
theorem not_endTag_node {n : Node} (hname : isOuterName name) (hshown : n.isSilent = false)
    (hn : ∀ tag children, n = .element tag children → (markerKind? tag).isSome)
    (htype : ∀ type, n ≠ .doctype type) :
    ¬ x ++ chars ("</" ++ name ++ ">") <:+ y ++ sequence (nodePieces false n) := by
  rintro ⟨w, hw⟩
  have hlast : (y ++ sequence (nodePieces false n)).getLast? = some (.inl '>') := by
    rw [← hw, chars_endText, ← List.cons_append, ← List.cons_append, ← List.append_assoc,
      ← List.append_assoc, List.getLast?_concat]
  cases n with
  | doctype type => exact htype type rfl
  | text s =>
    have hs : s ≠ "" := by simpa [Node.isSilent] using hshown
    obtain ⟨front, c, hc⟩ := (List.eq_nil_or_concat (escape .content s).toList).resolve_left
      (escape_ne_nil hs)
    have hmem : c ∈ (escape .content s).toList := by
      rw [hc, List.concat_eq_append]
      exact List.mem_concat_self
    rw [sequence_text, chars, hc, List.concat_eq_append, List.map_append, ← List.append_assoc,
      List.map_singleton, List.getLast?_concat] at hlast
    exact (ne_bracket_of_mem_escape hmem).2 (Sum.inl.inj (Option.some.inj hlast))
  | comment s =>
    have hdashes : chars ("<!--" ++ s ++ "-->") =
        chars ("<!--" ++ s ++ "-") ++ [.inl '-'] ++ [.inl '>'] := by
      simp [chars]
    have hsuffix : x ++ chars ("</" ++ name ++ ">") <:+
        y ++ chars ("<!--" ++ s ++ "-") ++ [.inl '-'] ++ [.inl '>'] :=
      ⟨w, by rw [hw, sequence_comment, hdashes]; simp⟩
    obtain ⟨v, hv⟩ := (endTag_suffix_iff name).1 hsuffix
    have hdash : (.inl '-' : Char ⊕ Marker) ∉ chars name := by
      rw [mem_chars]
      exact outer_isLower hname rfl
    rw [← List.append_assoc] at hv
    obtain ⟨-, hmark, -⟩ := cut_last (b := []) hv List.not_mem_nil hdash
    exact absurd hmark (by decide)
  | element tag children =>
    have hwritten : isWritten tag := by simpa [Node.isSilent] using hshown
    obtain ⟨m, hm⟩ := @sequence_marker tag children hwritten (hn tag children rfl)
    rw [hm, List.getLast?_concat] at hlast
    cases hlast

/-- An element ends with an end tag only if it has the name. -/
theorem endTag_element_iff {children : List Node} (hplain : isPlainName tag.name)
    (hname : isOuterName name) (hwritten : isWritten tag) (hmarker : markerKind? tag = none)
    (hvoid : tag.isVoid = false) :
    x ++ chars ("</" ++ name ++ ">") <:+ y ++ sequence (nodePieces false (.element tag children)) ↔
      tag.name = name ∧ x <:+ y ++ chars ((writtenTag tag).renderStart children) ++
        sequence (nodesPieces tag.hasRawText children) := by
  have hslash (other : String) (hother : isPlainName other) :
      (.inl '/' : Char ⊕ Marker) ∉ chars other := by
    rw [mem_chars]
    intro hmem
    simpa using List.all_eq_true.1 hother _ hmem
  have houter : isPlainName name := by
    rcases outer_cases hname with rfl | rfl | rfl <;> decide
  have hend : tag.renderEnd = "</" ++ tag.name ++ ">" := by
    rw [Tag.renderEnd, hvoid]
    rfl
  have hwhole : y ++ sequence (nodePieces false (.element tag children)) =
      y ++ chars ((writtenTag tag).renderStart children) ++
        sequence (nodesPieces tag.hasRawText children) ++ [.inl '<'] ++
          .inl '/' :: chars tag.name ++ [.inl '>'] := by
    rw [sequence_element hwritten hmarker, hend, chars_endText]
    simp
  rw [hwhole, endTag_suffix_iff]
  constructor
  · rintro ⟨w, hw⟩
    rw [← List.append_assoc, ← List.append_assoc] at hw
    obtain ⟨hfront, -, hsame⟩ := cut_last hw (hslash _ hplain) (hslash _ houter)
    refine ⟨String.toList_inj.1 (List.map_injective_iff.2 Sum.inl_injective hsame.symm), w, ?_⟩
    exact List.append_cancel_right hfront
  · rintro ⟨rfl, w, hw⟩
    exact ⟨w, by rw [← hw]; simp⟩

/-! ### Several end tags -/

/-- End tags as they are written, the last one first. -/
def closing : List String → List (Char ⊕ Marker)
  | [] => []
  | name :: more => closing more ++ chars ("</" ++ name ++ ">")

/-- A document type ends with one end tag at most: its name has no closing bracket. -/
theorem closing_doctype_iff {names : List String}
    (hnames : names = ["body"] ∨ names = ["html", "body"]) {type : String}
    (htype : isPlainType type) :
    closing names <:+ y ++ sequence (nodePieces false (.doctype type)) ↔
      names <+: (Node.doctype type).endTags := by
  have hwhole : y ++ sequence (nodePieces false (.doctype type)) =
      y ++ chars "<!DOCTYPE" ++ .inl ' ' :: chars type ++ [.inl '>'] := by
    rw [sequence_doctype]
    simp [chars]
  rw [hwhole]
  rcases hnames with rfl | rfl
  · show [] ++ chars ("</" ++ "body" ++ ">") <:+ _ ↔ _
    rw [endTag_suffix_iff]
    have hbody : [] ++ [.inl '<'] ++ .inl '/' :: chars "body" = chars "</body" := by decide
    rw [hbody]
    have htags : ["body"] <+: (Node.doctype type).endTags ↔ "</body".toList <:+ type.toList := by
      rw [Node.endTags, ← List.isSuffixOf_iff_suffix]
      split <;> simp_all
    rw [htags]
    constructor
    · intro h
      have htail : .inl ' ' :: chars type <:+ y ++ chars "<!DOCTYPE" ++ .inl ' ' :: chars type :=
        List.suffix_append _ _
      rcases Nat.lt_or_ge (chars type).length (chars "</body").length with hshort | hlong
      · -- A shorter name would leave the blank before it to be a part of the end tag.
        have hblank := (List.suffix_of_suffix_length_le htail h hshort).mem List.mem_cons_self
        exact absurd (mem_chars.1 hblank) (by decide)
      · have hname := List.suffix_of_suffix_length_le h ((List.suffix_cons _ _).trans htail) hlong
        exact (List.suffix_map_iff_of_injective Sum.inl_injective).1 hname
    · rintro ⟨w, hw⟩
      refine ⟨y ++ chars "<!DOCTYPE" ++ .inl ' ' :: w.map .inl, ?_⟩
      simp [chars, ← hw]
  · refine iff_of_false (fun h => ?_) ?_
    · rw [show closing ["html", "body"] = chars "</body>" ++ chars ("</" ++ "html" ++ ">") from rfl,
        endTag_suffix_iff] at h
      have hmark : chars "</body" ++ .inl '>' :: chars "</html" <:+
          y ++ (chars "<!DOCTYPE" ++ .inl ' ' :: chars type) := by
        rw [← List.append_assoc]
        exact h
      have hplain : (.inl '>' : Char ⊕ Marker) ∉ chars "<!DOCTYPE" ++ .inl ' ' :: chars type := by
        have hname : '>' ∉ type.toList := fun hmem => by
          simpa using List.all_eq_true.1 htype _ hmem
        simpa [mem_chars] using hname
      have hlength := length_le_of_mark hmark hplain
      simp only [chars, List.length_append, List.length_cons, List.length_map] at hlength
      have hlonger : "</html".toList.length < "<!DOCTYPE".toList.length := by decide
      omega
    · unfold Node.endTags
      split <;> decide

theorem void_tag (h : tag.isVoid) : isPlainName tag.name ∧ '<' ∉ tag.name.toList ∧
    tag.hasRawText = false ∧ newlineDroppingNames.contains tag.name = false ∧
    tag.renderEnd = "" := by
  have hnames : ∀ name ∈ voidNames, isPlainName name ∧ '<' ∉ name.toList ∧
      rawTextNames.contains name = false ∧ newlineDroppingNames.contains name = false := by decide
  obtain ⟨hplain, hbracket, hraw, hkept⟩ := hnames tag.name (by simpa [Tag.isVoid] using h)
  exact ⟨hplain, hbracket, hraw, hkept, by rw [Tag.renderEnd, h]; rfl⟩

theorem silent_nodes (h : nodes.all Node.isSilent) :
    sequence (nodesPieces false nodes) = [] ∧ Node.endTagsOf nodes = [] := by
  have hnone {n : Node} (hn : n.isSilent) : n.endTags = [] := by
    cases n with
    | text s => rfl
    | element tag children =>
      have hunwritten : isWritten tag = false := by simpa [Node.isSilent] using hn
      rw [Node.endTags, hunwritten]
      rfl
    | _ => cases hn
  induction nodes with
  | nil => exact ⟨rfl, rfl⟩
  | cons n rest ih =>
    obtain ⟨hn, hrest⟩ := Bool.and_eq_true_iff.1 (List.all_cons ▸ h)
    rw [nodesPieces, Template.sequence_append, sequence_of_isSilent hn, (ih hrest).1, Node.endTagsOf,
      hrest]
    exact ⟨rfl, hnone hn⟩

/-- The last end tags of a row of elements. -/
def isClosing (names : List String) : Prop := names = ["body"] ∨ names = ["html", "body"]

/-- Where nothing is written for what is in an element, its start tag is last, and that is no end
tag. -/
theorem closing_silent_iff (hsilent : children.all Node.isSilent) (htag : isPlainName tag.name)
    (hbracket : '<' ∉ tag.name.toList) (hkept : newlineDroppingNames.contains tag.name = false)
    {names : List String} (hnames : isClosing names) (y : List (Char ⊕ Marker)) :
    closing names <:+ y ++ chars ((writtenTag tag).renderStart children) ++
        sequence (nodesPieces false children) ↔ names <+: Node.endTagsOf children := by
  obtain ⟨hseq, htags⟩ := silent_nodes hsilent
  obtain ⟨name, more, rfl, hname⟩ : ∃ name more, names = name :: more ∧ isOuterName name := by
    rcases hnames with rfl | rfl
    · exact ⟨"body", [], rfl, by decide⟩
    · exact ⟨"html", ["body"], rfl, by decide⟩
  rw [hseq, List.append_nil, htags]
  refine iff_of_false (fun h => ?_) fun h => absurd (List.prefix_nil.1 h) (by simp)
  exact @not_endTag_start name (writtenTag tag) y hname htag hbracket hkept children
    ((List.suffix_append (closing more) _).trans h)

mutual

theorem closing_node_iff {n : Node} (hshown : n.isSilent = false) (hplain : n.isPlain)
    {names : List String} (hnames : isClosing names) (y : List (Char ⊕ Marker)) :
    closing names <:+ y ++ sequence (nodePieces false n) ↔ names <+: n.endTags := by
  obtain ⟨name, more, rfl, hname, hmore⟩ : ∃ name more, names = name :: more ∧ isOuterName name ∧
      (more = [] ∨ more = ["body"]) := by
    rcases hnames with rfl | rfl
    · exact ⟨"body", [], rfl, by decide, .inl rfl⟩
    · exact ⟨"html", ["body"], rfl, by decide, .inr rfl⟩
  match n with
  | .doctype type => exact closing_doctype_iff hnames hplain
  | .text s =>
    refine iff_of_false (not_endTag_node hname hshown nofun nofun) ?_
    exact fun h => absurd (List.prefix_nil.1 h) (by simp)
  | .comment s =>
    refine iff_of_false (not_endTag_node hname hshown nofun nofun) ?_
    exact fun h => absurd (List.prefix_nil.1 h) (by simp)
  | .element tag children =>
    have hwritten : isWritten tag := by simpa [Node.isSilent] using hshown
    obtain ⟨htag, hchildren⟩ := Bool.and_eq_true_iff.1 hplain
    by_cases hmarker : (markerKind? tag).isSome
    · refine iff_of_false (not_endTag_node hname hshown (fun t cs ht => ?_) nofun) ?_
      · cases ht
        exact hmarker
      · rw [Node.endTags, hmarker, Bool.or_true, if_pos rfl]
        exact fun h => absurd (List.prefix_nil.1 h) (by simp)
    · have hnone : markerKind? tag = none := by simpa using hmarker
      rw [Node.endTags, hwritten, hnone]
      cases hvoid : tag.isVoid with
      | true =>
        -- The start tag of a void element is followed by what is in it, and by no end tag.
        obtain ⟨-, hbracket, hraw, hkept, hend⟩ := void_tag hvoid
        rw [sequence_element hwritten hnone, hraw, hend, Template.Fragment.chars_empty,
          List.append_nil, ← List.append_assoc]
        by_cases hsilent : children.all Node.isSilent
        · exact closing_silent_iff hsilent htag hbracket hkept hnames y
        · exact closing_nodes_iff hsilent hchildren hnames _
      | false =>
        rw [closing, endTag_element_iff htag hname hwritten hnone hvoid]
        show _ ↔ name :: more <+: tag.name :: Node.endTagsOf children
        rw [List.cons_prefix_cons, @eq_comm _ name]
        refine and_congr_right fun hsame => ?_
        have hself : isOuterName tag.name := hsame.symm ▸ hname
        obtain ⟨-, hraw, -, hkept⟩ := outer_tag hself
        have hbracket : '<' ∉ tag.name.toList := by
          rw [hsame]
          exact outer_isLower hname rfl
        rcases hmore with rfl | rfl
        · exact iff_of_true (List.nil_suffix) (List.nil_prefix)
        · rw [hraw]
          by_cases hsilent : children.all Node.isSilent
          · exact closing_silent_iff hsilent htag hbracket hkept (.inl rfl) y
          · exact closing_nodes_iff hsilent hchildren (.inl rfl) _

/-- What is written ends with some end tags exactly if it does so tag by tag. -/
theorem closing_nodes_iff {nodes : List Node} (hshown : ¬ nodes.all Node.isSilent)
    (hplain : Node.arePlain nodes) {names : List String} (hnames : isClosing names)
    (y : List (Char ⊕ Marker)) :
    closing names <:+ y ++ sequence (nodesPieces false nodes) ↔ names <+: Node.endTagsOf nodes := by
  match nodes with
  | [] => exact absurd rfl hshown
  | n :: rest =>
    obtain ⟨hn, hrest⟩ := Bool.and_eq_true_iff.1 hplain
    rw [nodesPieces, Template.sequence_append, Node.endTagsOf]
    by_cases hsilent : rest.all Node.isSilent
    · have hn' : n.isSilent = false := by
        by_contra hnot
        exact hshown (by rw [List.all_cons, hsilent]; simpa using hnot)
      rw [(silent_nodes hsilent).1, List.append_nil, hsilent, if_pos rfl]
      exact closing_node_iff hn' hn hnames y
    · rw [if_neg hsilent, ← List.append_assoc]
      exact closing_nodes_iff hsilent hrest hnames _

end

end Ends

/-! ## Both ends of a document -/

variable {doc : Document}

/-- The start of a body is found tag by tag. -/
theorem bodyStart_prefix_iff (h : Node.arePlain doc.nodes) :
    chars Page.bodyStart <+: sequence (nodesPieces false doc.nodes) ↔ doc.beginsBare := by
  have hstart : chars Page.bodyStart = chars ("<" ++ "html" ++ ">") ++ (chars ("<" ++ "head" ++ ">") ++
      (chars ("</" ++ "head" ++ ">") ++ (chars ("<" ++ "body" ++ ">") ++ []))) := by
    simp [chars, Page.bodyStart]
  have hlower (name : String) (y : List (Char ⊕ Marker)) (c : Char) (hc : c.isLower) :
      ¬ [.inl '<', .inl c] <+: chars ("</" ++ name ++ ">") ++ y := by
    intro hprefix
    rw [chars_endText, List.cons_append, List.cons_append, List.cons_prefix_cons,
      List.cons_prefix_cons] at hprefix
    rw [Sum.inl.inj hprefix.2.1] at hc
    cases hc
  rw [← List.append_nil (sequence _), hstart,
    start_prefix_iff (by decide) h fun c _ hprefix => absurd (List.prefix_nil.1 hprefix) (by simp)]
  simp only [Document.beginsBare, Option.any_eq_true, Prod.exists, Bool.and_eq_true]
  refine exists_congr fun content => exists_congr fun last => and_congr_right fun hhtml => ?_
  obtain ⟨hcontent, -⟩ := arePlain_of_beginsWith? h hhtml
  rw [start_prefix_iff (by decide) hcontent (hlower "html" _)]
  refine exists_congr fun head => exists_congr fun behind => and_congr_right fun hhead => ?_
  obtain ⟨hinner, hbehind⟩ := arePlain_of_beginsWith? hcontent hhead
  rw [end_prefix_iff "head" hinner, List.isEmpty_iff]
  refine and_congr_right fun _ => ?_
  rw [List.prefix_append_right_inj, start_prefix_iff (by decide) hbehind (hlower "html" _)]
  simp [Option.isSome_iff_exists]

theorem bodyEnd_suffix_iff (h : Node.arePlain doc.nodes) :
    chars Page.bodyEnd <:+ sequence (nodesPieces false doc.nodes) ↔ doc.endsBare := by
  have hend : chars Page.bodyEnd = closing ["html", "body"] := by
    simp [closing, chars, Page.bodyEnd]
  rw [hend, Document.endsBare, List.isPrefixOf_iff_prefix]
  by_cases hsilent : doc.nodes.all Node.isSilent
  · obtain ⟨hseq, htags⟩ := silent_nodes hsilent
    rw [hseq, htags]
    refine iff_of_false (fun h => ?_) fun h => absurd (List.prefix_nil.1 h) (by simp)
    have hnil := List.suffix_nil.1 h
    exact absurd hnil (by simp [closing, chars])
  · exact closing_nodes_iff hsilent h (.inr rfl) []

/-- An outer element and what comes behind it, as they are written. -/
theorem sequence_of_beginsWith? {name : String} (hname : isOuterName name) {nodes content rest : List Node}
    (h : beginsWith? name nodes = some (content, rest)) :
    sequence (nodesPieces false nodes) = chars ("<" ++ name ++ ">") ++
      (sequence (nodesPieces false content) ++
        (chars ("</" ++ name ++ ">") ++ sequence (nodesPieces false rest))) := by
  obtain ⟨tag, hnodes, rfl, hattrs⟩ := beginsWith?_eq_some.1 h
  have hmem : Node.element tag content ∈ shown nodes := hnodes ▸ List.mem_cons_self
  have hwritten : isWritten tag := by simpa [Node.isSilent] using (mem_shown hmem).2
  obtain ⟨hmarker, hraw, hend, hkept⟩ := outer_tag hname
  have hnone : (writtenTag tag).leadingNewline content = "" := by
    rw [Tag.leadingNewline, show (writtenTag tag).name = tag.name from rfl, hkept]
    rfl
  have hstart : chars ((writtenTag tag).renderStart content) = chars ("<" ++ tag.name ++ ">") := by
    rw [chars_renderStart, hattrs, hnone, chars_startText]
    simp [chars, String.join, writtenTag]
  rw [← sequence_shown nodes, hnodes, nodesPieces, Template.sequence_append,
    sequence_element hwritten hmarker, hraw, hend, hstart]
  simp only [List.append_assoc]

/-- A document that is only a body is written as the content of the body with both ends. -/
theorem sequence_of_onlyBody? {body : List Node} (h : doc.onlyBody? = some body) :
    sequence (nodesPieces false doc.nodes) =
      chars Page.bodyStart ++ sequence (nodesPieces false body) ++ chars Page.bodyEnd := by
  simp only [Document.onlyBody?, Option.bind_eq_bind, Option.bind_eq_some_iff] at h
  obtain ⟨⟨content, last⟩, hhtml, ⟨head, behind⟩, hhead, ⟨inner, rest⟩, hbody, h⟩ := h
  split at h
  · next hempty =>
    cases h
    simp only [Bool.and_eq_true, List.isEmpty_iff] at hempty
    have hsilent {nodes : List Node} (hnone : shown nodes = []) :
        sequence (nodesPieces false nodes) = [] := by
      rw [← sequence_shown, hnone]
      rfl
    rw [sequence_of_beginsWith? (by decide) hhtml, sequence_of_beginsWith? (by decide) hhead,
      sequence_of_beginsWith? (by decide) hbody, hsilent hempty.1.1, hsilent hempty.1.2,
      hsilent hempty.2]
    simp [chars, Page.bodyStart, Page.bodyEnd]
  · cases h

end Html

namespace Page

open Template (Fragment)

/-- No end of the start of a body begins the end of a body. -/
theorem bodyEnd_suffix_append (x : List (Char ⊕ Marker)) :
    chars bodyEnd <:+ chars bodyStart ++ x ↔ chars bodyEnd <:+ x := by
  refine ⟨fun h => ?_, fun h => h.trans (List.suffix_append _ _)⟩
  rcases List.suffix_or_suffix_of_suffix h (List.suffix_append (chars bodyStart) x) with hx | hx
  · exact hx
  · -- What is not in the rest is an end of the one text and a start of the other.
    obtain ⟨common, hcommon⟩ := hx
    obtain ⟨w, hw⟩ := h
    rw [← hcommon, ← List.append_assoc] at hw
    have hend : common <:+ chars bodyStart := ⟨w, List.append_cancel_right hw⟩
    have hstart : common = (chars bodyEnd).take common.length := by
      rw [← hcommon, List.take_left]
    have hlength : common.length ≤ bodyEnd.toList.length := by
      have hle := congrArg List.length hcommon
      rw [List.length_append, chars, List.length_map] at hle
      omega
    have hnone : ∀ k < bodyEnd.toList.length + 1, k = 0 ∨
        ¬ bodyEnd.toList.take k <:+ bodyStart.toList := by decide
    rcases hnone common.length (by omega) with hzero | hnot
    · rw [List.length_eq_zero_iff.1 hzero, List.nil_append] at hcommon
      rw [hcommon]
    · rw [hstart, chars, ← List.map_take] at hend
      exact absurd ((List.suffix_map_iff_of_injective Sum.inl_injective).1 hend) hnot

/-- What is taken off a fragment at its ends, each for itself. -/
theorem flat_bodyOf {page : Fragment} (hpage : page.IsCanonical) :
    ((page.dropStart? bodyStart).isSome ↔ chars bodyStart <+: page.flat) ∧
    ((((page.dropStart? bodyStart).getD page).dropEnd? bodyEnd).isSome ↔
      chars bodyEnd <:+ page.flat) ∧
    page.flat = (if (page.dropStart? bodyStart).isSome then chars bodyStart else []) ++
      (bodyOf page).flat ++
      (if (((page.dropStart? bodyStart).getD page).dropEnd? bodyEnd).isSome
        then chars bodyEnd else []) := by
  have hstart : bodyStart ≠ "" := by decide
  have hend : bodyEnd ≠ "" := by decide
  have hclosed {opened : Fragment} (hopened : opened.IsCanonical) :
      opened.flat = ((opened.dropEnd? bodyEnd).getD opened).flat ++
        (if (opened.dropEnd? bodyEnd).isSome then chars bodyEnd else []) := by
    cases hdrop : opened.dropEnd? bodyEnd with
    | none => simp
    | some rest => simpa using ((Fragment.dropEnd?_eq_some hopened hend).1 hdrop).2
  refine ⟨Fragment.isSome_dropStart? hpage hstart, ?_⟩
  unfold bodyOf
  cases hdrop : page.dropStart? bodyStart with
  | none =>
    exact ⟨Fragment.isSome_dropEnd? hpage hend, by simpa using hclosed hpage⟩
  | some rest =>
    obtain ⟨hrest, hflat⟩ := (Fragment.dropStart?_eq_some hpage hstart).1 hdrop
    refine ⟨?_, ?_⟩
    · rw [hflat, bodyEnd_suffix_append]
      exact Fragment.isSome_dropEnd? hrest hend
    · rw [hflat]
      simpa using hclosed hrest

/-- The fragment of a page with the given text. -/
def fragmentOf (html : String) : Fragment := (Template.extract .page (Document.parse html)).fragment

/-- The page of any text: its start is taken off exactly if nothing but bare start tags is written
before the content of its body, and its end exactly if nothing but end tags is written behind it.
Nothing else is lost, so a page that is only a body leaves the content of the body, and a page whose
ends both stay is left as it is. -/
theorem bodyOf_ends (html : String) :
    (((fragmentOf html).dropStart? bodyStart).isSome = (Document.parse html).beginsBare ∧
      ((((fragmentOf html).dropStart? bodyStart).getD (fragmentOf html)).dropEnd? bodyEnd).isSome
        = (Document.parse html).endsBare) ∧
    (fragmentOf html).flat = (if (Document.parse html).beginsBare then chars bodyStart else []) ++
      (bodyOf (fragmentOf html)).flat ++
      (if (Document.parse html).endsBare then chars bodyEnd else []) ∧
    (∀ body, (Document.parse html).onlyBody? = some body →
      (Document.parse html).beginsBare = true ∧ (Document.parse html).endsBare = true ∧
      (bodyOf (fragmentOf html)).flat = sequence (nodesPieces false body)) := by
  unfold fragmentOf
  have hplain := Document.parse_arePlain html
  generalize Document.parse html = doc at hplain ⊢
  generalize hfragment : (Template.extract .page doc).fragment = page
  have hpage : page.IsCanonical := hfragment ▸ (Template.extract_isJoined .page doc).isCanonical
  have hflat : page.flat = sequence (nodesPieces false doc.nodes) :=
    hfragment ▸ Fragment.flat_ofSegments _
  obtain ⟨hstart, hend, hwhole⟩ := flat_bodyOf hpage
  rw [hflat, bodyStart_prefix_iff hplain] at hstart
  rw [hflat, bodyEnd_suffix_iff hplain] at hend
  rw [Bool.eq_iff_iff.2 hstart, Bool.eq_iff_iff.2 hend] at hwhole
  refine ⟨⟨Bool.eq_iff_iff.2 hstart, Bool.eq_iff_iff.2 hend⟩, hwhole, fun body hbody => ?_⟩
  have hwritten := sequence_of_onlyBody? hbody
  have hbegins : doc.beginsBare = true := by
    rw [← bodyStart_prefix_iff hplain, hwritten, List.append_assoc]
    exact List.prefix_append _ _
  have hends : doc.endsBare = true := by
    rw [← bodyEnd_suffix_iff hplain, hwritten]
    exact List.suffix_append _ _
  refine ⟨hbegins, hends, ?_⟩
  rw [hflat, hwritten, hbegins, hends, if_pos rfl, if_pos rfl] at hwhole
  exact (List.append_cancel_left (List.append_cancel_right hwhole)).symm

theorem bodyOf_ends_fragment :
    (Document.parse "a<p>b").onlyBody? =
      some [.text "a", .element { name := "p" } [.text "b"]] ∧
    (bodyOf (fragmentOf "a<p>b")).flat = chars "a<p>b</p>" := by
  have hbody : (Document.parse "a<p>b").onlyBody? =
      some [.text "a", .element { name := "p" } [.text "b"]] := by decide +kernel
  refine ⟨hbody, ?_⟩
  rw [((bodyOf_ends "a<p>b").2.2 _ hbody).2.2]
  decide +kernel

/-- A page with a title keeps the start of a document and loses its end. -/
theorem bodyOf_unclosed :
    ((fragmentOf "<title>x</title>hi").dropStart? bodyStart).isSome ≠
      ((((fragmentOf "<title>x</title>hi").dropStart? bodyStart).getD
        (fragmentOf "<title>x</title>hi")).dropEnd? bodyEnd).isSome ∧
    (bodyOf (fragmentOf "<title>x</title>hi")).render = "<html><head><title>x</title></head><body>hi" := by
  decide +kernel

end Page

end StaticSite
