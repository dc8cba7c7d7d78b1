/-
  Missing partials and empty ones.

  Where partials that are missing do no harm, a page cannot tell a partial that is missing
  from one that is empty: neither refers to anything, whatever the directive, and the same
  text takes the place of a reference to it.  So texts that differ only there
  (`SameButEmpty`) are the same to every page whose layout is the same in both, and a page
  compiles over a store as it does with an empty file in the place of a missing one
  (`Page.compile_insert_empty`).
-/

import StaticSite.Proofs.FirstPass

namespace StaticSite

open Template (Reference Replacement fragmentOf)

/-- Runs that are the same. -/
def MonadRel.same (n : Type → Type) [Monad n] : MonadRel n n where
  rel x y := x = y
  pure _ := rfl
  bind {α β x y f g} hx hf := by
    rw [hx, funext hf]

/-- Whether texts differ only in that a text is missing in one and empty in the other. -/
def SameButEmpty (texts texts' : Path → Option String) : Prop :=
  ∀ path, (texts path).getD "" = (texts' path).getD ""

/-! ## Partials -/

namespace Partial

variable {project : Project} {page : Page} {texts texts' : Path → Option String}

theorem mentioned_empty (root : Path) (page : Page) (directive : Option String) :
    mentioned root page "" directive = [] := by
  have hnone : (fragmentOf "").references = [] := by
    rw [Template.fragmentOf_eq]
    decide +kernel
  rw [mentioned, expand_empty, hnone, List.map_nil]

/-- A partial refers to what its text mentions; without a file, that is nothing. -/
theorem children_eq (root : Path) (page : Page) (texts : Path → Option String) (p : Partial) :
    children root page texts p = mentioned root page ((texts p.path).getD "") p.replace := by
  rw [children]
  cases texts p.path with
  | some content => rfl
  | none => rw [Option.getD_none, mentioned_empty]

theorem checkCycles_congr (h : SameButEmpty texts texts') (roots : List Partial) :
    checkCycles project (.ofTexts texts) page roots =
      checkCycles project (.ofTexts texts') page roots := by
  have hchildren : children project.root page texts = children project.root page texts' := by
    -- A text counts only for what it refers to.
    funext p
    rw [children_eq, children_eq, h p.path]
  rw [checkCycles_ofTexts, checkCycles_ofTexts, hchildren]

theorem textFor_congr (hwarn : project.config.embeds.onMissing = .warn)
    (h : SameButEmpty texts texts') (base : Path) (ref : Reference) :
    textFor project (.ofTexts texts) page base ref =
      textFor project (.ofTexts texts') page base ref := by
  rw [textFor_ofTexts hwarn, textFor_ofTexts hwarn, h]

end Partial

/-! ## Pages -/

namespace Page

variable {project : Project} {page : Page}

theorem agree_of_sameButEmpty (hwarn : project.config.embeds.onMissing = .warn)
    {texts texts' : Path → Option String} (h : SameButEmpty texts texts') :
    Agree (.same _) project project.config.embeds.onMissing page (.ofTexts texts)
      (.ofTexts texts') where
  tell _ := rfl
  check := Partial.checkCycles_congr h
  text := Partial.textFor_congr hwarn h
  noLayout _ := rfl
  limit _ := rfl

/-- A text compiles in the same way over texts that differ only in empty ones, if its layout is the
same in both. -/
theorem resolve_congr (hwarn : project.config.embeds.onMissing = .warn)
    {texts texts' : Path → Option String} (h : SameButEmpty texts texts') {text : String}
    (hlayout : ∀ path, layoutPath? project page text = some path → texts path = texts' path) :
    resolve project (.ofTexts texts) page text = resolve project (.ofTexts texts') page text := by
  refine resolve_rel_of_layout (agree_of_sameButEmpty hwarn h) text fun layout hne heq => ?_
  rw [layout_withPageAssets] at heq
  refine congrArg Except.ok (hlayout _ ?_)
  rw [layoutPath?_eq, heq, if_neg hne]

end Page

/-! ## An empty file in a store -/

/-- A session finds an empty file in the place of a missing one. -/
theorem Session.sameButEmpty_insert {session : Session} {store : Store} {p : Path}
    (h : session.found store p = none) :
    SameButEmpty (session.found (store.insert p "")) (session.found store) := by
  intro q
  by_cases hq : q.components = p.components
  · -- The cache has no text for the file either, so the empty one in the store is found.
    have hcache := h
    rw [Session.found, Option.or_eq_none_iff] at hcache
    rw [Session.found_congr _ _ hq, Session.found_congr _ _ hq, h, Session.found, hcache.1,
      Store.text?_insert, if_pos rfl]
    rfl
  · rw [Session.found, Session.found, Store.text?_insert, if_neg hq]

namespace Page

variable {project : Project} {page : Page}

/-- Where partials that are missing do no harm, an empty file in the place of a missing one changes
nothing for a page that is not this file and whose layout is not, wherever and however often it
refers to it. -/
theorem compile_insert_empty (hwarn : project.config.embeds.onMissing = .warn)
    (hcreate : project.config.assets.createMissing = false)
    (ensureStubs : ResourceSet → StateM Store (Except FileError (List Path)))
    {session : Session} {store : Store} {p : Path} (hmissing : session.found store p = none)
    (hpage : page.path.components ≠ p.components)
    (hlayout : ∀ text path, store.text? page.path = some text →
      layoutPath? project page text = some path → path.components ≠ p.components) :
    ((compile project page Store.source ensureStubs).runOver session (store.insert p "")).1.1 =
      ((compile project page Store.source ensureStubs).runOver session store).1.1 := by
  rw [compile_result _ _ _ _ _ hcreate, compile_result _ _ _ _ _ hcreate, Store.text?_insert,
    if_neg hpage]
  cases htext : store.text? page.path with
  | none => rfl
  | some text =>
    refine resolve_congr hwarn (Session.sameButEmpty_insert hmissing) fun path hpath => ?_
    rw [Session.found, Session.found, Store.text?_insert, if_neg (hlayout text path htext hpath)]

/-! ### A missing partial in a page, in its layout and in another partial -/

def hollowText : String :=
  "<p data-ham-page-config='\x7b\"layout\":\"l\"\x7d'><embed type=ham/partial src=a>" ++
    "<embed type=ham/partial src=m data-ham-replace=k:1>"

def hollowStore : Store where
  files := [
    ((⟨"/p"⟩ : Path).components, hollowText),
    ((⟨"/l"⟩ : Path).components, "<embed type=ham/partial src=m><embed type=ham/page>"),
    ((⟨"/a"⟩ : Path).components, "A<embed type=ham/partial src=m>")]

/-- The page goes through three passes and splices four references, three of them to the empty
file. -/
theorem compile_insert_empty_hollow :
    nestedProject.config.embeds.onMissing = .warn ∧
    nestedProject.config.assets.createMissing = false ∧
    Session.found {} hollowStore ⟨"/m"⟩ = none ∧
    layoutPath? nestedProject nestedPage hollowText = some ⟨"/l"⟩ ∧
    ((compile nestedProject nestedPage Store.source fun _ => pure (.ok [])).runOver {}
        (hollowStore.insert ⟨"/m"⟩ "")).1.1 =
      ((compile nestedProject nestedPage Store.source fun _ => pure (.ok [])).runOver {}
        hollowStore).1.1 ∧
    ((compile nestedProject nestedPage Store.source fun _ => pure (.ok [])).runOver {}
      hollowStore).1.1 = .ok {
        html := "<html><head></head><body><p>A</p></body></html>"
        passes := 3
        partials := 4
        resources := {} } := by
  have hmissing : Session.found {} hollowStore ⟨"/m"⟩ = none := by decide +kernel
  have hpath : layoutPath? nestedProject nestedPage hollowText = some ⟨"/l"⟩ := by decide +kernel
  have hpage : nestedPage.path.components ≠ (⟨"/m"⟩ : Path).components := by decide +kernel
  have hlayout : ∀ text path, hollowStore.text? nestedPage.path = some text →
      layoutPath? nestedProject nestedPage text = some path →
      path.components ≠ (⟨"/m"⟩ : Path).components := by
    intro text path htext hasked
    have hhollow : hollowStore.text? nestedPage.path = some hollowText := by decide +kernel
    cases hhollow.symm.trans htext
    cases hpath.symm.trans hasked
    decide +kernel
  exact ⟨rfl, rfl, hmissing, hpath, compile_insert_empty rfl rfl _ hmissing hpage hlayout,
    Except.eq_ok_of_toOption (by decide +kernel)⟩

end Page

end StaticSite
