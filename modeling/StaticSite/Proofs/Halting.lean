/-
  Whether the search for a cycle ends.

  A partial is a file with a directive, and the directive of a reference is text of the
  file that the directive before it has changed.  So from finitely many files directives
  of any length can be reached (`Partial.growing_not_finite`).  They are all that can
  grow: what can be reached is finite exactly if the directives are bounded, and then a
  search that may go deep enough ends with the right answer (`Partial.checkCycles_ends`).
-/

import StaticSite.Proofs.Directives
import StaticSite.Proofs.LoneTag
import StaticSite.Proofs.Passes
import StaticSite.Proofs.Search

namespace StaticSite

open Template (Fragment Marker Replacement Reference Extraction fragmentOf)

/-! ## The graph of partials -/

/-- A run that asks nothing, and its result. -/
def MonadRel.known : MonadRel Id (Except BuildError) where
  rel x y := y = .ok x.run
  pure _ := rfl
  bind {α β x y f g} hx hf := by
    subst hx
    exact hf x.run

namespace Partial

/-- The partials that a text refers to under a directive. -/
def mentioned (root : Path) (page : Page) (content : String) (directive : Option String) :
    List Partial :=
  (fragmentOf (Replacement.expand content directive)).references.map (ofReference root page.dir)

/-- The partials that a partial refers to, over given texts. -/
def children (root : Path) (page : Page) (texts : Path → Option String) (p : Partial) :
    List Partial :=
  match texts p.path with
  | none => []
  | some content => mentioned root page content p.replace

/-- Whether a partial can be reached. -/
abbrev Reachable (root : Path) (page : Page) (texts : Path → Option String)
    (roots : List Partial) (p : Partial) : Prop :=
  Graph.Reached (children root page texts) roots p

variable {project : Project} {page : Page} {texts : Path → Option String}

theorem successors_ofTexts (p : Partial) :
    successors project (.ofTexts texts) page p = .ok (children project.root page texts p) := by
  unfold successors children
  rw [Supply.partial?_ofTexts, Except.ok_bind]
  cases texts p.path with
  | none => rfl
  | some content =>
    have hexpand : expand (.ofTexts texts) content p.replace
        = .ok (Replacement.expand content p.replace) := rfl
    simp only [hexpand, Except.ok_bind, Supply.tell_ofTexts, Template.references_of_text]
    rfl

/-- How the check for cycles ends after a search. -/
def verdict (project : Project) (page : Page) : Graph.Finding Partial → Except BuildError Unit
  | .acyclic => .ok ()
  | .cycle chain =>
    .error (.cycle page.path (chain.map fun p => (p.path.stripPrefix? project.root).getD p.path))
  | .tooDeep => .error (.chainTooLong page.path)

theorem checkCycles_ofTexts (roots : List Partial) :
    checkCycles project (.ofTexts texts) page roots =
      verdict project page (Graph.findCycle (m := Id)
        (fun p => pure (children project.root page texts p)) project.maxDepth roots) := by
  have hsearch : Graph.findCycle (successors project (.ofTexts texts) page) project.maxDepth roots
      = .ok (Graph.findCycle (m := Id)
        (fun p => pure (children project.root page texts p)) project.maxDepth roots) :=
    Graph.findCycle_rel (R := MonadRel.known) successors_ofTexts _ roots
  unfold checkCycles
  rw [hsearch, Except.ok_bind]
  cases Graph.findCycle (m := Id) (fun p => pure (children project.root page texts p))
    project.maxDepth roots <;> rfl

/-- The check fails for a cycle or for want of depth only. -/
theorem error_of_checkCycles {roots : List Partial} {e : BuildError}
    (h : checkCycles project (.ofTexts texts) page roots = .error e) :
    (∃ chain, e = .cycle page.path chain) ∨ e = .chainTooLong page.path := by
  rw [checkCycles_ofTexts] at h
  unfold verdict at h
  split at h <;> cases h
  · exact .inl ⟨_, rfl⟩
  · exact .inr rfl

/-! ## What can be reached -/

theorem finite_char : Finite Char :=
  Finite.of_injective (fun c : Char => c.val.toBitVec.toFin) fun _ _ h =>
    Char.ext (UInt32.toBitVec_inj.1 (BitVec.toFin_inj.1 h))

theorem finite_texts_of_length_le (n : Nat) : { s : String | s.length ≤ n }.Finite := by
  have := finite_char
  refine ((List.finite_length_le Char n).image String.ofList).subset fun s hs => ?_
  refine ⟨s.toList, ?_, String.ofList_toList⟩
  show s.toList.length ≤ n
  rw [String.length_toList]
  exact hs

theorem finite_directives_of_length_le (n : Nat) :
    { directive : Option String | ∀ d ∈ directive, d.length ≤ n }.Finite := by
  refine (((finite_texts_of_length_le n).image some).insert none).subset fun directive h => ?_
  cases directive with
  | none => exact Set.mem_insert _ _
  | some d => exact Set.mem_insert_of_mem _ ⟨d, h d rfl, rfl⟩

theorem mem_of_lookup {α β : Type} [BEq α] [LawfulBEq α] {entries : List (α × β)} {k : α} {b : β}
    (h : entries.lookup k = some b) : b ∈ entries.map (·.2) := by
  obtain ⟨before, after, rfl, -⟩ := List.lookup_eq_some_iff.1 h
  rw [List.map_append, List.map_cons]
  exact List.mem_append_right _ List.mem_cons_self

/-- A store and the cache of a session hold finitely many texts. -/
theorem finite_found (session : Session) (store : Store) :
    { content | ∃ path, session.found store path = some content }.Finite := by
  refine ((List.finite_toSet (session.cache.entries.map (·.2))).union
    (List.finite_toSet (store.files.map (·.2)))).subset ?_
  rintro content ⟨path, hfound⟩
  obtain hcache | ⟨-, hstore⟩ := Option.or_eq_some_iff.1 hfound
  · exact Or.inl (mem_of_lookup hcache)
  · exact Or.inr (mem_of_lookup hstore)

section Reachable

variable {root : Path} {roots : List Partial}

/-- From finitely many texts, finitely many partials can be reached exactly if their directives do
not grow without bound. -/
theorem finite_reachable_iff (htexts : { content | ∃ path, texts path = some content }.Finite) :
    { p | Reachable root page texts roots p }.Finite ↔
      ∃ n, ∀ p, Reachable root page texts roots p → ∀ d ∈ p.replace, d.length ≤ n := by
  constructor
  · -- Finitely many directives have a longest one.
    intro hfinite
    obtain ⟨n, hn⟩ := (hfinite.image fun p => (p.replace.map String.length).getD 0).bddAbove
    refine ⟨n, fun p hp d hd => ?_⟩
    have hlength : (p.replace.map String.length).getD 0 = d.length := by
      rw [Option.mem_def.1 hd]
      rfl
    rw [← hlength]
    exact hn ⟨p, hp, rfl⟩
  · rintro ⟨n, hbound⟩
    -- What is reached is a root, or is mentioned by one of the texts under a short directive.
    refine ((List.finite_toSet roots).union (htexts.biUnion fun content _ =>
      (finite_directives_of_length_le n).biUnion fun directive _ =>
        List.finite_toSet (mentioned root page content directive))).subset ?_
    rintro p ⟨start, hstart, hway⟩
    cases hway with
    | refl => exact Or.inl hstart
    | @tail before _ hbefore hedge =>
      right
      have hreached : Reachable root page texts roots before := ⟨start, hstart, hbefore⟩
      unfold Graph.Edge children at hedge
      split at hedge
      · cases hedge
      · next content hcontent =>
        exact Set.mem_biUnion ⟨_, hcontent⟩
          (Set.mem_biUnion (hbound before hreached) hedge)

/-- Whether a way leads from a partial back to it. -/
def OnCycle (root : Path) (page : Page) (texts : Path → Option String) (p : Partial) : Prop :=
  Relation.TransGen (Graph.Edge (children root page texts)) p p

/-- Where finitely many partials can be reached, a search that may go deep enough is right. -/
theorem verdict_of_finite (hfinite : { p | Reachable project.root page texts roots p }.Finite) :
    ∃ bound, ∀ depth, bound ≤ depth →
      (checkCycles { project with maxDepth := depth } (.ofTexts texts) page roots = .ok () ∧
        ∀ p, Reachable project.root page texts roots p → ¬ OnCycle project.root page texts p) ∨
      ∃ chain, Graph.Loop (children project.root page texts) roots chain ∧
        checkCycles { project with maxDepth := depth } (.ofTexts texts) page roots =
          .error (.cycle page.path
            (chain.map fun p => (p.path.stripPrefix? project.root).getD p.path)) := by
  obtain ⟨bound, hbound⟩ := Graph.findCycle_ne_tooDeep hfinite
  refine ⟨bound, fun depth hdepth => ?_⟩
  rw [checkCycles_ofTexts]
  cases hfound : Graph.findCycle (m := Id)
      (fun p => pure (children project.root page texts p)) depth roots with
  | acyclic => exact .inl ⟨rfl, (Graph.of_findCycle_acyclic hfound).2⟩
  | cycle chain => exact .inr ⟨chain, Graph.of_findCycle_cycle hfound, rfl⟩
  | tooDeep => exact absurd hfound (hbound depth hdepth)

/-- Where more can be reached than any search visits, the check does not pass. -/
theorem verdict_of_not_finite
    (hinfinite : ¬ { p | Reachable project.root page texts roots p }.Finite) :
    checkCycles project (.ofTexts texts) page roots = .error (.chainTooLong page.path) ∨
      ∃ chain, Graph.Loop (children project.root page texts) roots chain ∧
        checkCycles project (.ofTexts texts) page roots = .error (.cycle page.path
          (chain.map fun p => (p.path.stripPrefix? project.root).getD p.path)) := by
  rw [checkCycles_ofTexts]
  cases hfound : Graph.findCycle (m := Id)
      (fun p => pure (children project.root page texts p)) project.maxDepth roots with
  | acyclic => exact absurd (Graph.of_findCycle_acyclic hfound).1 hinfinite
  | cycle chain => exact .inr ⟨chain, Graph.of_findCycle_cycle hfound, rfl⟩
  | tooDeep => exact .inl rfl

end Reachable

/-- A partial that cannot be read counts as empty. -/
theorem textFor_ofTexts (hwarn : project.config.embeds.onMissing = .warn) (base : Path)
    (ref : Reference) :
    textFor project (.ofTexts texts) page base ref = .ok (Replacement.expand
      ((texts (resolve project.root base ref.src)).getD "") ref.replace) := by
  unfold textFor
  simp only [Supply.partial?_ofTexts, Except.ok_bind]
  cases texts (resolve project.root base ref.src) with
  | some content => rfl
  | none =>
    simp only [hwarn]
    rfl

/-- What takes the place of the markers when references are spliced. -/
def splicedContent (project : Project) (texts : Path → Option String) (base : Path) :
    Marker → Option Fragment
  | .slot _ => none
  | .splice ref => some (.ofHtml (Replacement.expand
      ((texts (resolve project.root base ref.src)).getD "") ref.replace))

theorem exists_spliceAll (hwarn : project.config.embeds.onMissing = .warn) (base : Path)
    (f : Fragment) : ∃ g, spliceAll project (.ofTexts texts) page base f = .ok g := by
  refine ⟨f.filled (splicedContent project texts base), Fragment.substitute_pure fun m _ => ?_⟩
  cases m with
  | slot s => rfl
  | splice ref =>
    simp only [textFor_ofTexts hwarn, Except.ok_bind]
    rfl

end Partial

/-! ## The partials that a page starts from -/

namespace Page

variable (project : Project) (page : Page) (texts : Path → Option String)

/-- Where the layout of a text lies, if it asks for one. -/
def layoutPath? (text : String) : Option Path :=
  let layout := (Template.extract .page (.parse text)).descriptor.layout
  if layout = "" then none else some (StaticSite.resolve project.root page.dir layout)

theorem layoutPath?_eq (text : String) : layoutPath? project page text =
    if (Template.extract .page (.parse text)).descriptor.layout = "" then none
    else some (StaticSite.resolve project.root page.dir
      (Template.extract .page (.parse text)).descriptor.layout) := rfl

/-- The partials that a layout refers to. -/
def layoutRoots (path : Path) : List Partial :=
  match texts path with
  | none => []
  | some text =>
    (Template.extract .layout (.parse text)).fragment.references.map
      (.ofReference project.root (path.parent?.getD project.root))

/-- The partials that a text and its layout refer to. -/
def roots (text : String) : List Partial :=
  (fragmentOf text).references.map (.ofReference project.root page.dir) ++
    ((layoutPath? project page text).map (layoutRoots project texts)).getD []

/-- The beginning of the compilation of a text, up to what the first pass writes. -/
def merged (text : String) : Except BuildError Merged :=
  merge project (.ofTexts texts) page {
    Template.extract .page (.parse text) with
    descriptor := withPageAssets project page (Template.extract .page (.parse text)).descriptor }

theorem references_withPageAssets (d : Template.Descriptor) :
    (withPageAssets project page d).references = d.references := by
  unfold withPageAssets
  split
  · split <;> rfl
  · rfl

/-- What a page reads next after some passes over it, each fragment with the directory from which
it refers to files: its text and that of its layout, or what is in the buffer. -/
inductive Reads (text : String) : List Pass → List (Path × Fragment) → Prop where
  | alone {read : Extraction} (hread : read = Template.extract .page (.parse text))
    (hlayout : read.descriptor.layout = "") : Reads text [] [(page.dir, read.fragment)]
  | inLayout {read layout : Extraction} {layoutPath : Path} {layoutText : String}
    (hread : read = Template.extract .page (.parse text))
    (hlayout : read.descriptor.layout ≠ "")
    (hpath : layoutPath = StaticSite.resolve project.root page.dir read.descriptor.layout)
    (htext : texts layoutPath = some layoutText)
    (hframe : layout = Template.extract .layout (.parse layoutText)) :
    Reads text [] [(layoutPath.parent?.getD project.root, layout.fragment),
      (page.dir, bodyOf read.fragment)]
  | buffer {resources : ResourceSet} {first : Pass} {rest : List Pass}
    (hfirst : Pass.First project page texts text resources first)
    (hnext : (first :: rest).IsChain (Pass.Next project page texts)) :
    Reads text (first :: rest)
      [(page.dir, ((first :: rest).getLast (List.cons_ne_nil first rest)).reread)]

variable {project page texts}

/-- A page that is not merged fails in the check, for want of its layout, or where one of its
fragments is spliced. -/
theorem error_of_merged {text : String} {e : BuildError}
    (h : merged project page texts text = .error e) :
    (∃ roots, Partial.checkCycles project (.ofTexts texts) page roots = .error e) ∨
    (∃ path, e = .missingLayout page.path path) ∨
    ∃ before base f after, Reads project page texts text [] (before ++ (base, f) :: after) ∧
      (∀ read ∈ before, ∃ g,
        Partial.spliceAll project (.ofTexts texts) page read.1 read.2 = .ok g) ∧
      Partial.spliceAll project (.ofTexts texts) page base f = .error e := by
  have hd := layout_withPageAssets project page (Template.extract .page (.parse text)).descriptor
  unfold merged at h
  generalize withPageAssets project page (Template.extract .page (.parse text)).descriptor = d
    at h hd
  generalize hread : Template.extract .page (.parse text) = read at h hd
  by_cases hlayout : d.layout = ""
  · rw [merge_ofTexts_alone hlayout, mergeWithout_ofTexts] at h
    obtain hcheck | ⟨_, -, h⟩ := Except.bind_eq_error h
    · exact .inl ⟨_, hcheck⟩
    obtain hsplice | ⟨_, -, h⟩ := Except.bind_eq_error h
    · exact .inr (.inr ⟨[], page.dir, read.fragment, [],
        .alone hread.symm (hd.symm.trans hlayout), nofun, hsplice⟩)
    · cases h
  · rw [merge_ofTexts_inLayout hlayout, hd] at h
    rw [hd] at hlayout
    split at h
    · next layoutText htext =>
      have hreads := Reads.inLayout hread.symm hlayout rfl htext rfl
      rw [mergeInto_ofTexts _ rfl] at h
      obtain hcheck | ⟨_, -, h⟩ := Except.bind_eq_error h
      · exact .inl ⟨_, hcheck⟩
      -- The layout is read before the page.
      obtain hframe | ⟨_, hframe, h⟩ := Except.bind_eq_error h
      · exact .inr (.inr ⟨[], _, _, _, hreads, nofun, hframe⟩)
      obtain hinner | ⟨_, -, h⟩ := Except.bind_eq_error h
      · exact .inr (.inr ⟨[_], _, _, [], hreads, List.forall_mem_singleton.2 ⟨_, hframe⟩, hinner⟩)
      · cases h
    · cases h
      exact .inr (.inl ⟨_, rfl⟩)

/-- Merging a page checks for cycles first; if partials that are missing do no harm, the rest of it
does not fail. -/
theorem merge_check {text : String}
    (hlayout : ∀ path, layoutPath? project page text = some path → (texts path).isSome) :
    ∃ rest : Unit → Except BuildError Merged,
      merged project page texts text =
        (Partial.checkCycles project (.ofTexts texts) page (roots project page texts text) >>=
          rest) ∧
      (project.config.embeds.onMissing = .warn → ∃ merged, rest () = .ok merged) := by
  have hrefs := (references_withPageAssets project page
    (Template.extract .page (.parse text)).descriptor).trans (Template.references_of_text text)
  have hpath := layoutPath?_eq project page text
  rw [← layout_withPageAssets project page] at hpath
  unfold merged
  generalize withPageAssets project page (Template.extract .page (.parse text)).descriptor = d
    at hrefs hpath
  generalize Template.extract .page (.parse text) = read
  rw [roots]
  by_cases hd : d.layout = ""
  · -- The roots are the references of the page alone.
    rw [if_pos hd] at hpath
    rw [merge_ofTexts_alone hd, mergeWithout_ofTexts, hpath, hrefs, Option.map_none,
      Option.getD_none, List.append_nil]
    refine ⟨_, rfl, fun hwarn => ?_⟩
    obtain ⟨spliced, hspliced⟩ := Partial.exists_spliceAll hwarn page.dir read.fragment
    exact ⟨_, by rw [hspliced, Except.ok_bind]⟩
  · -- The references of the layout come after those of the page.
    rw [if_neg hd] at hpath
    obtain ⟨layoutText, htext⟩ := Option.isSome_iff_exists.1 (hlayout _ hpath)
    have hlayoutRefs := Template.extract_references .layout (.parse layoutText)
    have hroots : layoutRoots project texts (StaticSite.resolve project.root page.dir d.layout) =
        (Template.extract .layout (.parse layoutText)).fragment.references.map (.ofReference
          project.root ((StaticSite.resolve project.root page.dir d.layout).parent?.getD
            project.root)) := by
      rw [layoutRoots, htext]
    rw [merge_ofTexts_inLayout hd, htext, hpath, Option.map_some, Option.getD_some, hroots]
    generalize hframe : Template.extract .layout (.parse layoutText) = layout at hlayoutRefs ⊢
    simp only [mergeInto_ofTexts _ hframe, hrefs, hlayoutRefs]
    refine ⟨_, rfl, fun hwarn => ?_⟩
    obtain ⟨frame, hspliced⟩ := Partial.exists_spliceAll hwarn
      ((StaticSite.resolve project.root page.dir d.layout).parent?.getD project.root)
      layout.fragment
    obtain ⟨inner, hinner⟩ := Partial.exists_spliceAll hwarn page.dir (bodyOf read.fragment)
    exact ⟨_, by rw [hspliced, Except.ok_bind, hinner, Except.ok_bind]⟩

/-- A page whose partials fail the check fails with them. -/
theorem resolve_eq_error {text : String}
    (hlayout : ∀ path, layoutPath? project page text = some path → (texts path).isSome)
    {e : BuildError}
    (h : Partial.checkCycles project (.ofTexts texts) page (roots project page texts text)
      = .error e) :
    resolve project (.ofTexts texts) page text = .error e := by
  obtain ⟨rest, hmerge, -⟩ := merge_check hlayout
  rw [h] at hmerge
  unfold merged at hmerge
  unfold resolve
  simp only [Supply.tell_ofTexts, Except.ok_bind, hmerge]
  rfl

end Page

/-! ## The check over a store -/

namespace Partial

/-- The check of some partials over a store, if the search may go to the given depth. -/
def checkOver (project : Project) (page : Page) (session : Session) (store : Store) (depth : Nat)
    (roots : List Partial) : Except BuildError Unit :=
  ((checkCycles { project with maxDepth := depth } (BuildM.supply Store.source) page roots).runOver
    session store).1.1

variable (project : Project) (page : Page) (session : Session) (store : Store)

theorem checkOver_eq (depth : Nat) (roots : List Partial) :
    checkOver project page session store depth roots =
      checkCycles { project with maxDepth := depth } (.ofTexts (session.found store)) page
        roots := by
  have hkept := checkCycles_rel (Ledger.supply_agree session store)
    { project with maxDepth := depth } page roots [] session store (Ledger.start _ _)
  have hend := checkCycles_rel (Supply.logged_agree (session.found store))
    { project with maxDepth := depth } page roots []
  obtain ⟨session', store', hrun, -⟩ := hkept
  rw [checkOver, hrun]
  exact hend

/-- A page that starts from partials which fail the check fails with them. -/
theorem compile_of_checkOver {depth : Nat} {text : String}
    (htext : store.text? page.path = some text)
    (hlayout : ∀ path, Page.layoutPath? project page text = some path →
      (session.found store path).isSome) {e : BuildError}
    (h : checkOver project page session store depth
      (Page.roots project page (session.found store) text) = .error e)
    (ensureStubs : ResourceSet → StateM Store (Except FileError (List Path))) :
    ((Page.compile { project with maxDepth := depth } page Store.source ensureStubs).runOver
      session store).1.1 = .error e := by
  rw [checkOver_eq] at h
  refine Page.compile_error _ page ensureStubs session store ?_
  rw [htext]
  exact @Page.resolve_eq_error { project with maxDepth := depth } page (session.found store) text
    hlayout e h

/-- The search for a cycle ends exactly where the directives that can be reached are bounded.  Then
finitely many partials can be reached, a search that may go deep enough finds a cycle if there is
one, and a page that starts from such partials fails with it.  Where the directives grow without
bound, no depth is enough: if no cycle is met on the way, every search becomes too deep. -/
theorem checkCycles_ends (roots : List Partial) :
    ({ p | Reachable project.root page (session.found store) roots p }.Finite ↔
      ∃ n, ∀ p, Reachable project.root page (session.found store) roots p →
        ∀ d ∈ p.replace, d.length ≤ n) ∧
    ({ p | Reachable project.root page (session.found store) roots p }.Finite →
      ∃ bound, ∀ depth, bound ≤ depth →
        (checkOver project page session store depth roots = .ok () ∧
          ∀ p, Reachable project.root page (session.found store) roots p →
            ¬ OnCycle project.root page (session.found store) p) ∨
        ∃ chain, Graph.Loop (children project.root page (session.found store)) roots chain ∧
          checkOver project page session store depth roots =
            .error (.cycle page.path
              (chain.map fun p => (p.path.stripPrefix? project.root).getD p.path)) ∧
          ∀ text ensureStubs, store.text? page.path = some text →
            roots = Page.roots project page (session.found store) text →
            (∀ path, Page.layoutPath? project page text = some path →
              (session.found store path).isSome) →
            ((Page.compile { project with maxDepth := depth } page Store.source ensureStubs).runOver
              session store).1.1 = .error (.cycle page.path
                (chain.map fun p => (p.path.stripPrefix? project.root).getD p.path))) ∧
    (¬ { p | Reachable project.root page (session.found store) roots p }.Finite →
      ∀ depth,
        checkOver project page session store depth roots = .error (.chainTooLong page.path) ∨
        ∃ chain, Graph.Loop (children project.root page (session.found store)) roots chain ∧
          checkOver project page session store depth roots =
            .error (.cycle page.path
              (chain.map fun p => (p.path.stripPrefix? project.root).getD p.path))) := by
  refine ⟨finite_reachable_iff (finite_found session store), fun hfinite => ?_,
    fun hinfinite depth => ?_⟩
  · obtain ⟨bound, hbound⟩ := verdict_of_finite hfinite
    refine ⟨bound, fun depth hdepth => ?_⟩
    obtain hok | ⟨chain, hloop, hcycle⟩ := hbound depth hdepth
    · rw [checkOver_eq]
      exact .inl hok
    · have hcheck := (checkOver_eq project page session store depth roots).trans hcycle
      refine .inr ⟨chain, hloop, hcheck, ?_⟩
      rintro text ensureStubs htext rfl hlayout
      exact compile_of_checkOver project page session store htext hlayout hcheck ensureStubs
  · rw [checkOver_eq]
    exact @verdict_of_not_finite { project with maxDepth := depth } page _ roots hinfinite

/-! ## A partial that refers to itself with a longer directive -/

def growingProject : Project where
  root := ⟨"/"⟩
  config := { assets := { createMissing := false, pageAssets := false } }
  version := none

def growingPage : Page := .ofPath growingProject ⟨"/p"⟩

def growingPageText : String := "<embed type=ham/partial src=a data-ham-replace=k:x>"

def growingText : String := "<embed type=ham/partial src=a data-ham-replace=k:x__k__>"

def growingStore : Store where
  files := [
    ((⟨"/p"⟩ : Path).components, growingPageText),
    ((⟨"/a"⟩ : Path).components, growingText)]

/-- The directive after some steps. -/
def growingDirective (n : Nat) : List Char := 'k' :: ':' :: List.replicate (n + 1) 'x'

/-- The partial after some steps. -/
def grown (n : Nat) : Partial where
  path := ⟨"/a"⟩
  replace := some (String.ofList (growingDirective n))

/-- One step of the growth. -/
abbrev GrowingEdge : Partial → Partial → Prop :=
  Graph.Edge (children growingProject.root growingPage growingStore.text?)

theorem growingDirective_plain (n : Nat) :
    growingDirective n ≠ [] ∧ ∀ c ∈ growingDirective n, Html.isPlain c := by
  have hvalue : ∀ c ∈ List.replicate (n + 1) 'x', Html.isPlain c := by
    intro c hc
    rw [(List.mem_replicate.1 hc).2]
    decide
  refine ⟨List.cons_ne_nil _ _, ?_⟩
  rw [growingDirective, List.forall_mem_cons, List.forall_mem_cons]
  exact ⟨by decide, by decide, hvalue⟩

theorem parse_growingDirective (n : Nat) : Replacement.parse (String.ofList (growingDirective n)) =
    [{ key := "k", value := String.ofList (List.replicate (n + 1) 'x') }] := by
  have hkey : ∀ c ∈ ['k'], Text.isWhiteSpace c = false ∧ c ≠ ',' ∧ c ≠ ':' :=
    List.forall_mem_singleton.2 (by decide)
  have hvalue : ∀ c ∈ List.replicate (n + 1) 'x', Text.isWhiteSpace c = false ∧ c ≠ ',' := by
    intro c hc
    rw [(List.mem_replicate.1 hc).2]
    decide
  have hpair := Replacement.parse_pair (List.cons_ne_nil 'k' []) hkey hvalue
  rw [show String.ofList ['k'] = "k" from rfl] at hpair
  exact hpair

/-- Under its own directive the text writes the next one. -/
theorem expand_growingText (n : Nat) :
    Replacement.expand growingText (some (String.ofList (growingDirective n))) =
      String.ofList (Html.referenceText ['a'] (growingDirective (n + 1))) := by
  have happly (value : List Char) :
      Replacement.replaceFrom (Replacement.placeholder "k") value 0 growingText.toList =
        Html.referenceText ['a'] ('k' :: ':' :: 'x' :: value) := by
    -- The text is known up to the value, which is only copied.
    rw [Html.referenceText_eq]
    cbv
  rw [Replacement.expand, parse_growingDirective, Replacement.applyAll, List.foldl_cons,
    List.foldl_nil, Replacement.apply, String.toList_ofList, happly]
  rfl

theorem references_growing (n : Nat) :
    (fragmentOf (String.ofList (Html.referenceText ['a'] (growingDirective n)))).references.map
      (ofReference growingProject.root growingPage.dir) = [grown n] := by
  have hplain : ['a'] ≠ [] ∧ ∀ c ∈ ['a'], Html.isPlain c :=
    ⟨List.cons_ne_nil _ _, List.forall_mem_singleton.2 (by decide)⟩
  have hpath : resolve growingProject.root growingPage.dir (String.ofList ['a']) = ⟨"/a"⟩ := by
    decide +kernel
  rw [Template.references_referenceText hplain (growingDirective_plain n), List.map_singleton,
    ofReference, hpath]
  rfl

theorem edge_grown_iff {n : Nat} {p : Partial} : GrowingEdge (grown n) p ↔ p = grown (n + 1) := by
  have htext : growingStore.text? (grown n).path = some growingText := by
    show growingStore.text? ⟨"/a"⟩ = some growingText
    decide +kernel
  have hchildren : children growingProject.root growingPage growingStore.text? (grown n) =
      mentioned growingProject.root growingPage growingText
        (some (String.ofList (growingDirective n))) := by
    rw [children, htext]
    rfl
  rw [GrowingEdge, Graph.Edge, hchildren, mentioned, expand_growingText, references_growing,
    List.mem_singleton]

theorem roots_growingPage :
    Page.roots growingProject growingPage growingStore.text? growingPageText = [grown 0] := by
  have htext : growingPageText = String.ofList (Html.referenceText ['a'] (growingDirective 0)) := by
    decide +kernel
  have hlayout : Page.layoutPath? growingProject growingPage growingPageText = none := by
    decide +kernel
  rw [Page.roots, hlayout, htext, references_growing]
  rfl

theorem grown_injective : Function.Injective grown := by
  intro m n h
  have hlength := congrArg (fun p => (p.replace.map String.length).getD 0) h
  simpa [grown, growingDirective] using hlength

theorem reached_grown (n : Nat) :
    Reachable growingProject.root growingPage growingStore.text? [grown 0] (grown n) := by
  induction n with
  | zero => exact ⟨_, List.mem_singleton_self _, .refl⟩
  | succ n ih => exact ih.step (edge_grown_iff.2 rfl)

/-- However far it goes on, the growth does not come back. -/
theorem lt_of_transGen_grown {n : Nat} {p : Partial}
    (h : Relation.TransGen GrowingEdge (grown n) p) : ∃ m, n < m ∧ p = grown m := by
  induction h with
  | single hedge => exact ⟨n + 1, Nat.lt_succ_self n, edge_grown_iff.1 hedge⟩
  | tail _ hedge ih =>
    obtain ⟨m, hm, rfl⟩ := ih
    exact ⟨m + 1, Nat.lt_succ_of_lt hm, edge_grown_iff.1 hedge⟩

theorem not_loop_growing (path : List Partial) :
    ¬ Graph.Loop (children growingProject.root growingPage growingStore.text?) [grown 0] path := by
  intro hloop
  obtain ⟨p, ⟨root, hroot, hway⟩, hcycle⟩ := hloop.cycle
  have hgrown : ∃ n, p = grown n := by
    rw [List.mem_singleton.1 hroot] at hway
    obtain heq | hway := Relation.reflTransGen_iff_eq_or_transGen.1 hway
    · exact ⟨0, heq⟩
    · obtain ⟨n, -, heq⟩ := lt_of_transGen_grown hway
      exact ⟨n, heq⟩
  -- From there the way only leads to later steps.
  obtain ⟨n, rfl⟩ := hgrown
  obtain ⟨m, hlt, heq⟩ := lt_of_transGen_grown hcycle
  have hnm := grown_injective heq
  omega

/-- Finitely many files do not make finitely many partials: a directive may grow with every step.
No depth is enough for the check then, though there is no cycle. -/
theorem growing_not_finite :
    ¬ { p | Reachable growingProject.root growingPage growingStore.text?
        (Page.roots growingProject growingPage growingStore.text? growingPageText) p }.Finite ∧
      ∀ depth, checkOver growingProject growingPage {} growingStore depth
        (Page.roots growingProject growingPage growingStore.text? growingPageText) =
          .error (.chainTooLong growingPage.path) := by
  rw [roots_growingPage]
  have hinfinite : ¬ { p | Reachable growingProject.root growingPage growingStore.text?
      [grown 0] p }.Finite :=
    (Set.infinite_of_injective_forall_mem grown_injective reached_grown).not_finite
  have hfound : Session.found {} growingStore = growingStore.text? := rfl
  refine ⟨hinfinite, fun depth => ?_⟩
  rw [checkOver_eq, hfound]
  obtain htooLong | ⟨chain, hloop, -⟩ := @verdict_of_not_finite
    { growingProject with maxDepth := depth } growingPage growingStore.text? [grown 0] hinfinite
  · exact htooLong
  · exact absurd hloop (not_loop_growing chain)

end Partial

end StaticSite
