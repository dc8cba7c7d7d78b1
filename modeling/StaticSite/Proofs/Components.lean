/-
  Components of joined and cleaned paths.

  A path is read by its components: after the first one they are steps, either names or
  `..`.  Joining a relative path adds its steps (`components_join`), a list of components
  in such an order is the path that is written for it (`components_ofComponents`), and
  cleaning goes over the components with a stack.  A clean absolute path is the root with
  names below it; cleaning what lies below it keeps these names as long as it never leaves
  them (`foldl_pushClean_append`).
-/

import Mathlib
import StaticSite.Path

namespace StaticSite

namespace Path

/-! ## Components of a text -/

/-- Whether a text can be a component, and is not one of the special ones. -/
structure IsName (name : String) : Prop where
  ne_empty : name ≠ ""
  ne_dot : name ≠ "."
  ne_dots : name ≠ ".."
  no_slash : '/' ∉ name.toList

theorem IsName.split {name : String} (h : IsName name) : Text.split '/' name = [name] := by
  rw [Text.split, Text.splitAt_of_not_mem h.no_slash, List.map_singleton, String.ofList_toList]

/-- Whether a component leads on from any place. -/
def Component.IsStep : Component → Prop
  | .parent => True
  | .normal name => IsName name
  | _ => False

/-- Whether a component is a name. -/
def Component.isNormal : Component → Bool
  | .normal _ => true
  | _ => false

/-- The components of a path without the one for its start. -/
def steps (p : Path) : List Component := (Text.split '/' p.text).filterMap pieceComponent?

/-- The component for the start of a path. -/
def origin (p : Path) : List Component :=
  if p.isAbsolute then [.root]
  else if (Text.split '/' p.text).head? == some "." then [.current] else []

theorem components_eq (p : Path) : p.components = p.origin ++ p.steps := rfl

theorem isStep_of_pieceComponent? {piece : List Char} (hpiece : '/' ∉ piece) {c : Component}
    (h : pieceComponent? (String.ofList piece) = some c) : c.IsStep := by
  simp only [pieceComponent?] at h
  split at h
  · cases h
  · next hne =>
    split at h
    · cases h
      trivial
    · next hdots =>
      cases h
      simp only [Bool.or_eq_true, beq_iff_eq, not_or] at hne
      exact ⟨hne.1, hne.2, by simpa using hdots, by simpa using hpiece⟩

theorem isStep_of_mem_steps {p : Path} {c : Component} (h : c ∈ p.steps) : c.IsStep := by
  obtain ⟨piece, hpiece, hc⟩ := List.mem_filterMap.1 h
  obtain ⟨cs, hcs, rfl⟩ := List.mem_map.1 hpiece
  exact isStep_of_pieceComponent? (Text.not_mem_of_mem_splitAt hcs) hc

/-- A path that has no component for its start has only steps. -/
theorem origin_eq_nil {p : Path} (hroot : .root ∉ p.components)
    (hcurrent : .current ∉ p.components) : p.origin = [] := by
  rw [components_eq] at hroot hcurrent
  unfold origin at hroot hcurrent ⊢
  split at hroot
  · simp at hroot
  · next habs =>
    rw [if_neg habs] at hcurrent ⊢
    split at hcurrent
    · simp at hcurrent
    · next hdot => rw [if_neg hdot]

/-! ## Joining -/

theorem steps_of_slash {p base : Path} {before after : List Char}
    (hp : p.text.toList = before ++ '/' :: after)
    (hbase : base.text.toList = before ∨ base.text.toList = before ++ ['/']) :
    p.steps = base.steps ++ (⟨String.ofList after⟩ : Path).steps := by
  have hpieces : p.steps = ((Text.splitAt '/' before).map String.ofList).filterMap pieceComponent?
      ++ (⟨String.ofList after⟩ : Path).steps := by
    simp only [steps, Text.split, hp, Text.splitAt_append, List.map_append, List.filterMap_append,
      String.toList_ofList]
  rw [hpieces]
  congr 1
  obtain hbase | hbase := hbase
  · rw [steps, Text.split, hbase]
  · -- The empty piece after the last slash is no component.
    rw [steps, Text.split, hbase, Text.splitAt_append, List.map_append, List.filterMap_append]
    simp [Text.splitAt, pieceComponent?]

theorem head?_pieces_of_slash {p : Path} {before after : List Char}
    (hp : p.text.toList = before ++ '/' :: after) :
    (Text.split '/' p.text).head? = ((Text.splitAt '/' before).map String.ofList).head? := by
  rw [Text.split, hp, Text.splitAt_append, List.map_append]
  cases h : Text.splitAt '/' before with
  | nil => exact absurd h (Text.splitAt_ne_nil _ _)
  | cons piece pieces => rfl

theorem origin_of_slash {p base : Path} {before after : List Char}
    (hp : p.text.toList = before ++ '/' :: after) (hne : base.text ≠ "")
    (hbase : base.text.toList = before ∨ base.text.toList = before ++ ['/']) :
    p.origin = base.origin := by
  have habs : p.isAbsolute = base.isAbsolute := by
    have hne' : base.text.toList ≠ [] := fun h => hne (String.toList_inj.1 h)
    rw [isAbsolute, isAbsolute, hp]
    obtain hbase | hbase := hbase
    · cases before with
      | nil => exact absurd hbase hne'
      | cons c rest => rw [hbase]; rfl
    · cases before with
      | nil => rw [hbase]; rfl
      | cons c rest => rw [hbase]; rfl
  have hhead : (Text.split '/' p.text).head? = (Text.split '/' base.text).head? := by
    rw [head?_pieces_of_slash hp]
    obtain hbase | hbase := hbase
    · rw [Text.split, hbase]
    · exact (head?_pieces_of_slash hbase).symm
  rw [origin, origin, habs, hhead]

/-- A relative path that is joined to another follows a slash. -/
theorem toList_join {base rest : Path} (hne : base.text ≠ "") (hrest : rest.isAbsolute = false) :
    ∃ before, (base.join rest).text.toList = before ++ '/' :: rest.text.toList ∧
      (base.text.toList = before ∨ base.text.toList = before ++ ['/']) := by
  unfold join
  rw [hrest, if_neg Bool.false_ne_true]
  split
  · next hslash =>
    -- The base ends in a slash, which divides the two.
    simp only [Bool.or_eq_true, beq_iff_eq, hne, false_or] at hslash
    obtain ⟨before, hbefore⟩ := List.getLast?_eq_some_iff.1 hslash
    exact ⟨before, by simp [hbefore], .inr hbefore⟩
  · exact ⟨base.text.toList, by simp, .inl rfl⟩

/-- Joining a relative path adds its steps. -/
theorem components_join {base rest : Path} (hne : base.text ≠ "")
    (hrest : rest.isAbsolute = false) :
    (base.join rest).components = base.components ++ rest.steps := by
  obtain ⟨before, hp, hbase⟩ := toList_join hne hrest
  have hself : (⟨String.ofList rest.text.toList⟩ : Path) = rest := by rw [String.ofList_toList]
  rw [components_eq, origin_of_slash hp hne hbase, steps_of_slash hp hbase, hself, components_eq,
    List.append_assoc]

theorem isAbsolute_join {base : Path} (h : base.isAbsolute) (rest : Path) :
    (base.join rest).isAbsolute := by
  obtain ⟨cs, hcs⟩ : ∃ cs, base.text.toList = '/' :: cs := by
    rw [isAbsolute] at h
    cases hbase : base.text.toList with
    | nil => simp [hbase] at h
    | cons c cs =>
      have hc : c = '/' := by simpa [hbase] using h
      exact ⟨cs, by rw [hc]⟩
  unfold join
  split
  · next hrest => exact hrest
  · split <;> simp [isAbsolute, hcs]

theorem join_empty (rest : Path) : (⟨""⟩ : Path).join rest = rest := by
  unfold join
  split
  · rfl
  · simp

/-- A path whose components are names only. -/
def HasNames (p : Path) : Prop := ∀ c ∈ p.components, c.isNormal

instance (p : Path) : Decidable p.HasNames :=
  inferInstanceAs (Decidable (∀ c ∈ p.components, c.isNormal))

theorem HasNames.origin_eq {p : Path} (h : p.HasNames) : p.origin = [] :=
  origin_eq_nil (fun hmem => Bool.false_ne_true (h _ hmem)) fun hmem =>
    Bool.false_ne_true (h _ hmem)

theorem HasNames.steps_eq {p : Path} (h : p.HasNames) : p.steps = p.components := by
  rw [components_eq, h.origin_eq, List.nil_append]

theorem HasNames.relative {p : Path} (h : p.HasNames) : p.isAbsolute = false := by
  have horigin := h.origin_eq
  unfold origin at horigin
  split at horigin
  · cases horigin
  · next habs => simpa using habs

/-- Joining names adds them, also to nothing. -/
theorem HasNames.components_join {rest : Path} (h : rest.HasNames) (base : Path) :
    (base.join rest).components = base.components ++ rest.components := by
  by_cases hne : base.text = ""
  · obtain ⟨text⟩ := base
    cases hne
    rw [join_empty]
    rfl
  · rw [Path.components_join hne h.relative, h.steps_eq]

theorem HasNames.getLast?_join {rest : Path} (h : rest.HasNames) (hne : rest.components ≠ [])
    (base : Path) : (base.join rest).components.getLast? = rest.components.getLast? := by
  rw [h.components_join, List.getLast?_append_of_ne_nil _ hne]

/-! ## Writing components -/

/-- Components in the order in which a path has them: after the first one only steps. -/
def InOrder : List Component → Prop
  | [] => True
  | first :: rest => (∀ name, first = .normal name → IsName name) ∧ ∀ c ∈ rest, c.IsStep

theorem text_of_isStep {c : Component} (h : c.IsStep) : c.text ≠ "" ∧
    c.text.toList.getLast? ≠ some '/' ∧ (⟨c.text⟩ : Path).isAbsolute = false := by
  cases c with
  | parent => decide
  | normal name =>
    have hname : IsName name := h
    have hhead : name.toList.head? ≠ some '/' := fun h => hname.no_slash (List.mem_of_head? h)
    refine ⟨hname.ne_empty, fun h => hname.no_slash (List.mem_of_getLast? h), ?_⟩
    simpa [isAbsolute, Component.text] using hhead
  | _ => exact h.elim

theorem components_text_of_isStep {c : Component} (h : c.IsStep) :
    (⟨c.text⟩ : Path).isAbsolute = false ∧ (⟨c.text⟩ : Path).steps = [c] ∧
      (⟨c.text⟩ : Path).components = [c] := by
  cases c with
  | root => cases h
  | current => cases h
  | parent => decide
  | normal name =>
    have hname : IsName name := h
    have hrelative : (⟨name⟩ : Path).isAbsolute = false := (text_of_isStep h).2.2
    have hpiece : pieceComponent? name = some (.normal name) := by
      simp [pieceComponent?, hname.ne_empty, hname.ne_dot, hname.ne_dots]
    have hsteps : (⟨name⟩ : Path).steps = [.normal name] := by
      simp [steps, hname.split, hpiece]
    refine ⟨hrelative, hsteps, ?_⟩
    have horigin : (⟨name⟩ : Path).origin = [] := by
      simp [origin, hrelative, hname.split, hname.ne_dot]
    exact (components_eq _).trans (by rw [Component.text, horigin, hsteps, List.nil_append])

theorem components_text {first : Component} (h : ∀ name, first = .normal name → IsName name) :
    (⟨first.text⟩ : Path).components = [first] := by
  cases first with
  | root => decide
  | current => decide
  | parent => decide
  | normal name =>
    have hstep : (Component.normal name).IsStep := h name rfl
    exact (components_text_of_isStep hstep).2.2

theorem text_ne_empty {p : Path} (h : p.components ≠ []) : p.text ≠ "" := by
  intro htext
  obtain ⟨text⟩ := p
  cases htext
  exact h (by decide)

/-- Steps that are joined one by one are added in their order. -/
theorem components_foldl_join {p : Path} (hne : p.components ≠ []) {cs : List Component}
    (hcs : ∀ c ∈ cs, c.IsStep) :
    (cs.foldl (fun p c => p.join ⟨c.text⟩) p).components = p.components ++ cs := by
  induction cs generalizing p with
  | nil => simp
  | cons c rest ih =>
    obtain ⟨hrelative, hsteps, -⟩ := components_text_of_isStep (hcs c List.mem_cons_self)
    have hjoin : (p.join ⟨c.text⟩).components = p.components ++ [c] := by
      rw [components_join (text_ne_empty hne) hrelative, hsteps]
    have hrest := ih (p := p.join ⟨c.text⟩) (by rw [hjoin]; simp) fun d hd =>
      hcs d (List.mem_cons_of_mem _ hd)
    rw [List.foldl_cons, hrest, hjoin, List.append_assoc, List.singleton_append]

/-- Components are read back from the path that is written for them. -/
theorem components_ofComponents {cs : List Component} (h : InOrder cs) :
    (ofComponents cs).components = cs := by
  cases cs with
  | nil => decide
  | cons first rest =>
    have hfirst : (⟨first.text⟩ : Path).components = [first] := components_text h.1
    rw [ofComponents, List.foldl_cons, join_empty,
      components_foldl_join (by rw [hfirst]; simp) h.2, hfirst, List.singleton_append]

theorem inOrder_of_isStep {cs : List Component} (h : ∀ c ∈ cs, c.IsStep) : InOrder cs := by
  cases cs with
  | nil => trivial
  | cons first rest =>
    refine ⟨?_, fun c hc => h c (List.mem_cons_of_mem _ hc)⟩
    rintro name rfl
    exact h _ List.mem_cons_self

/-- The components of a path are in order. -/
theorem inOrder_components (p : Path) : InOrder p.components := by
  have hsteps : ∀ c ∈ p.steps, c.IsStep := fun c hc => isStep_of_mem_steps hc
  rw [components_eq]
  unfold origin
  split
  · exact ⟨fun name h => (by cases h), hsteps⟩
  · split
    · exact ⟨fun name h => (by cases h), hsteps⟩
    · exact inOrder_of_isStep hsteps

/-! ## Steps between slashes -/

theorem split_intercalate {pieces : List String} (hne : pieces ≠ [])
    (h : ∀ piece ∈ pieces, '/' ∉ piece.toList) :
    Text.split '/' ("/".intercalate pieces) = pieces := by
  induction pieces with
  | nil => exact absurd rfl hne
  | cons piece rest ih =>
    have hpiece := h piece List.mem_cons_self
    cases rest with
    | nil =>
      rw [String.intercalate_singleton, Text.split, Text.splitAt_of_not_mem hpiece,
        List.map_singleton, String.ofList_toList]
    | cons next rest =>
      have hrest := ih (by simp) fun q hq => h q (List.mem_cons_of_mem _ hq)
      have htext : ("/".intercalate (piece :: next :: rest)).toList
          = piece.toList ++ '/' :: ("/".intercalate (next :: rest)).toList := by
        rw [String.intercalate_cons_cons]
        simp
      rw [Text.split] at hrest
      rw [Text.split, htext, Text.splitAt_append, Text.splitAt_of_not_mem hpiece, List.map_append,
        hrest, List.map_singleton, String.ofList_toList, List.singleton_append]

/-- Components with slashes between them. -/
def slashed (cs : List Component) : String := "/".intercalate (cs.map (·.text))

theorem split_slashed {cs : List Component} (hne : cs ≠ []) (hcs : ∀ c ∈ cs, c.IsStep) :
    Text.split '/' (slashed cs) = cs.map (·.text) := by
  refine split_intercalate (by simpa using hne) fun piece hmem => ?_
  obtain ⟨c, hc, rfl⟩ := List.mem_map.1 hmem
  cases c with
  | normal name => exact (hcs _ hc : IsName name).no_slash
  | parent => decide
  | _ => exact (hcs _ hc).elim

theorem pieceComponent?_text {c : Component} (h : c.IsStep) : pieceComponent? c.text = some c := by
  cases c with
  | normal name =>
    have hname : IsName name := h
    simp [Component.text, pieceComponent?, hname.ne_empty, hname.ne_dot, hname.ne_dots]
  | parent => decide
  | _ => exact h.elim

/-- Steps are read back from what is written for them with slashes between them. -/
theorem steps_slashed {cs : List Component} (hcs : ∀ c ∈ cs, c.IsStep) :
    (⟨slashed cs⟩ : Path).steps = cs := by
  by_cases hne : cs = []
  · subst hne
    decide
  · have hread : ∀ c ∈ cs, (pieceComponent? ∘ Component.text) c = some c := fun c hc =>
      pieceComponent?_text (hcs c hc)
    rw [steps, split_slashed hne hcs, List.filterMap_map, List.filterMap_congr hread,
      List.filterMap_some]

theorem slashed_inj {cs ds : List Component} (hcs : ∀ c ∈ cs, c.IsStep) (hds : ∀ d ∈ ds, d.IsStep)
    (h : slashed cs = slashed ds) : cs = ds := by
  rw [← steps_slashed hcs, h, steps_slashed hds]

theorem intercalate_append_cons (before piece : String) (rest : List String) :
    "/".intercalate ((before ++ piece) :: rest) = before ++ "/".intercalate (piece :: rest) := by
  cases rest with
  | nil => rw [String.intercalate_singleton, String.intercalate_singleton]
  | cons next rest =>
    rw [String.intercalate_cons_cons, String.intercalate_cons_cons]
    simp only [String.append_assoc]

theorem getLast?_append_text {c : Component} (h : c.IsStep) (before : String) :
    (before ++ c.text).toList.getLast? ≠ some '/' := by
  obtain ⟨hempty, hslash, -⟩ := text_of_isStep h
  have hlist : c.text.toList ≠ [] := fun h => hempty (String.toList_inj.1 h)
  rw [String.toList_append, List.getLast?_append_of_ne_nil _ hlist]
  exact hslash

/-- What is written when steps are joined one by one. -/
theorem text_foldl_join {p : Path} (hne : p.text ≠ "") (hend : p.text.toList.getLast? ≠ some '/')
    {cs : List Component} (hcs : ∀ c ∈ cs, c.IsStep) :
    (cs.foldl (fun p c => p.join ⟨c.text⟩) p).text
      = "/".intercalate (p.text :: cs.map (·.text)) := by
  induction cs generalizing p with
  | nil => rw [List.map_nil, String.intercalate_singleton]; rfl
  | cons c rest ih =>
    have hc := hcs c List.mem_cons_self
    obtain ⟨hempty, -, hrelative⟩ := text_of_isStep hc
    have hjoin : p.join ⟨c.text⟩ = ⟨p.text ++ "/" ++ c.text⟩ := by
      simp [join, hrelative, hne, hend]
    have hne' : (⟨p.text ++ "/" ++ c.text⟩ : Path).text ≠ "" := by simp [hempty]
    rw [List.foldl_cons, hjoin,
      ih hne' (getLast?_append_text hc _) fun d hd => hcs d (List.mem_cons_of_mem _ hd),
      intercalate_append_cons, List.map_cons, String.intercalate_cons_cons]

theorem text_ofComponents {cs : List Component} (hne : cs ≠ []) (hcs : ∀ c ∈ cs, c.IsStep) :
    (ofComponents cs).text = slashed cs := by
  cases cs with
  | nil => exact absurd rfl hne
  | cons first rest =>
    obtain ⟨hempty, hslash, -⟩ := text_of_isStep (hcs first List.mem_cons_self)
    rw [ofComponents, List.foldl_cons, join_empty,
      text_foldl_join (p := ⟨first.text⟩) hempty hslash fun c hc =>
        hcs c (List.mem_cons_of_mem _ hc)]
    rfl

theorem text_ofComponents_root {cs : List Component} (hcs : ∀ c ∈ cs, c.IsStep) :
    (ofComponents (.root :: cs)).text = "/" ++ slashed cs := by
  cases cs with
  | nil => decide
  | cons first rest =>
    have hfirst := hcs first List.mem_cons_self
    have hjoin : (⟨"/"⟩ : Path).join ⟨first.text⟩ = ⟨"/" ++ first.text⟩ := by
      simp [join, (text_of_isStep hfirst).2.2]
    have hroot : ofComponents (.root :: first :: rest)
        = rest.foldl (fun p c => p.join ⟨c.text⟩) ((⟨"/"⟩ : Path).join ⟨first.text⟩) := rfl
    rw [hroot, hjoin, text_foldl_join (by simp) (getLast?_append_text hfirst "/")
      fun c hc => hcs c (List.mem_cons_of_mem _ hc), intercalate_append_cons]
    rfl

/-! ## Parts of paths -/

theorem HasNames.isStep {p : Path} (h : p.HasNames) : ∀ c ∈ p.components, c.IsStep := by
  intro c hc
  rw [← h.steps_eq] at hc
  exact isStep_of_mem_steps hc

theorem stripPrefix?_of_append {p base : Path} {cs : List Component}
    (h : p.components = base.components ++ cs) : p.stripPrefix? base = some (ofComponents cs) := by
  rw [stripPrefix?, List.isPrefixOf?_eq_some_iff_append_eq.2 h.symm, Option.map_some]

theorem components_of_stripPrefix? {p base rest : Path} (h : p.stripPrefix? base = some rest) :
    ∃ cs, p.components = base.components ++ cs ∧ rest = ofComponents cs := by
  obtain ⟨cs, hcs, rfl⟩ := Option.map_eq_some_iff.1 h
  exact ⟨cs, (List.isPrefixOf?_eq_some_iff_append_eq.1 hcs).symm, rfl⟩

/-! ## Cleaning -/

theorem foldl_pushClean_normal {cs : List Component} (h : ∀ c ∈ cs, c.isNormal)
    (s : List Component) : cs.foldl pushClean s = cs.reverse ++ s := by
  induction cs generalizing s with
  | nil => rfl
  | cons c rest ih =>
    have hc : pushClean s c = c :: s := by
      cases c with
      | normal name => rfl
      | _ => exact absurd (h _ List.mem_cons_self) Bool.false_ne_true
    rw [List.foldl_cons, hc, ih fun d hd => h d (List.mem_cons_of_mem _ hd), List.reverse_cons,
      List.append_assoc, List.singleton_append]

/-- A stack with names on top of what is below them; the last name comes first. -/
def SettledOn (below s : List Component) : Prop :=
  ∃ names : List Component, (∀ c ∈ names, c.isNormal ∧ c.IsStep) ∧ s = names ++ below

theorem SettledOn.self (below : List Component) : SettledOn below below :=
  ⟨[], fun _ hc => absurd hc List.not_mem_nil, rfl⟩

/-- A step adds a name or takes one away; a step back without names is left to what is below. -/
theorem SettledOn.pushClean {below s : List Component} (h : SettledOn below s) {c : Component}
    (hc : c.IsStep) : SettledOn below (pushClean s c) ∨ s = below ∧ c = .parent := by
  obtain ⟨names, hnames, rfl⟩ := h
  cases c with
  | root => cases hc
  | current => cases hc
  | normal name =>
    refine .inl ⟨.normal name :: names, fun d hd => ?_, rfl⟩
    obtain rfl | hd := List.mem_cons.1 hd
    · exact ⟨rfl, hc⟩
    · exact hnames d hd
  | parent =>
    cases names with
    | nil => exact .inr ⟨rfl, rfl⟩
    | cons first rest =>
      cases first with
      | normal name =>
        exact .inl ⟨rest, fun d hd => hnames d (List.mem_cons_of_mem _ hd), rfl⟩
      | _ => exact absurd (hnames _ List.mem_cons_self).1 Bool.false_ne_true

/-- Steps from the root never leave it. -/
theorem SettledOn.foldl_root {s cs : List Component} (h : SettledOn [.root] s)
    (hcs : ∀ c ∈ cs, c.IsStep) : SettledOn [.root] (cs.foldl Path.pushClean s) := by
  induction cs generalizing s with
  | nil => exact h
  | cons c rest ih =>
    refine ih ?_ fun d hd => hcs d (List.mem_cons_of_mem _ hd)
    obtain h | ⟨rfl, rfl⟩ := h.pushClean (hcs c List.mem_cons_self)
    · exact h
    · exact .self _

/-- Steps from anywhere else leave names on top of steps back. -/
theorem SettledOn.foldl_parents {below s cs : List Component} (h : SettledOn below s)
    (hbelow : ∀ c ∈ below, c = .parent) (hcs : ∀ c ∈ cs, c.IsStep) :
    ∃ below, (∀ c ∈ below, c = .parent) ∧ SettledOn below (cs.foldl Path.pushClean s) := by
  induction cs generalizing s below with
  | nil => exact ⟨below, hbelow, h⟩
  | cons c rest ih =>
    have hrest : ∀ d ∈ rest, d.IsStep := fun d hd => hcs d (List.mem_cons_of_mem _ hd)
    obtain h | ⟨rfl, rfl⟩ := h.pushClean (hcs c List.mem_cons_self)
    · exact ih h hbelow hrest
    · have hpush : Path.pushClean s .parent = .parent :: s := by
        cases s with
        | nil => rfl
        | cons d below => rw [hbelow d List.mem_cons_self]; rfl
      have hparents : ∀ d ∈ Path.pushClean s .parent, d = .parent := by
        rw [hpush]
        intro d hd
        obtain rfl | hd := List.mem_cons.1 hd
        · rfl
        · exact hbelow d hd
      exact ih (.self _) hparents hrest

/-- A step back that is not taken back by the steps before it stays. -/
theorem parent_mem_foldl_pushClean {s cs : List Component} (hcs : ∀ c ∈ cs, c.IsStep)
    (h : .parent ∈ s) : .parent ∈ cs.foldl pushClean s := by
  induction cs generalizing s with
  | nil => exact h
  | cons c rest ih =>
    refine ih (fun d hd => hcs d (List.mem_cons_of_mem _ hd)) ?_
    unfold pushClean
    split
    · exact h
    · split
      · exact h
      · simpa using h
      · exact List.mem_cons_self
    · exact List.mem_cons_of_mem _ h

/-- Steps that never leave the place where they start do the same above any place. -/
theorem foldl_pushClean_append {s cs : List Component} (hcs : ∀ c ∈ cs, c.IsStep)
    (hs : .root ∉ s) (h : .parent ∉ cs.foldl pushClean s) (t : List Component) :
    cs.foldl pushClean (s ++ t) = cs.foldl pushClean s ++ t := by
  induction cs generalizing s with
  | nil => rfl
  | cons c rest ih =>
    have hrest : ∀ d ∈ rest, d.IsStep := fun d hd => hcs d (List.mem_cons_of_mem _ hd)
    have hpush : pushClean (s ++ t) c = pushClean s c ++ t ∧ .root ∉ pushClean s c := by
      cases c with
      | root => exact (hcs _ List.mem_cons_self).elim
      | current => exact (hcs _ List.mem_cons_self).elim
      | normal name => exact ⟨rfl, by simpa [pushClean] using hs⟩
      | parent =>
        cases s with
        | nil => exact absurd (parent_mem_foldl_pushClean hrest (by simp [pushClean])) h
        | cons first below =>
          cases first with
          | root => exact absurd List.mem_cons_self hs
          | normal name => exact ⟨rfl, fun hmem => hs (List.mem_cons_of_mem _ hmem)⟩
          | _ => exact absurd (parent_mem_foldl_pushClean hrest (by simp [pushClean])) h
    rw [List.foldl_cons, List.foldl_cons, hpush.1]
    exact ih hrest hpush.2 h

/-- Cleaning an absolute path leaves the root with names below it. -/
theorem cleanComponents_of_isAbsolute {p : Path} (h : p.isAbsolute) :
    ∃ names : List Component, (∀ c ∈ names, c.isNormal ∧ c.IsStep) ∧
      cleanComponents p.components = .root :: names := by
  have hcomponents : p.components = .root :: p.steps := by
    rw [components_eq, origin, if_pos h, List.singleton_append]
  obtain ⟨names, hnames, heq⟩ :=
    (SettledOn.self [.root]).foldl_root fun c hc => isStep_of_mem_steps (p := p) hc
  refine ⟨names.reverse, fun c hc => hnames c (List.mem_reverse.1 hc), ?_⟩
  have hfold : p.components.foldl pushClean [] = names ++ [.root] := by
    rw [hcomponents, ← heq]
    rfl
  rw [cleanComponents, hfold, List.reverse_append, List.reverse_singleton, List.singleton_append]

theorem cleanComponents_eq_steps {p : Path} (h : p.isAbsolute = false) :
    cleanComponents p.components = (p.steps.foldl pushClean []).reverse := by
  rw [cleanComponents, components_eq, List.foldl_append, origin, h, if_neg Bool.false_ne_true]
  split <;> rfl

/-- Cleaning any other path leaves steps back with names after them. -/
theorem cleanComponents_of_relative {p : Path} (h : p.isAbsolute = false) :
    ∃ backs names : List Component, (∀ c ∈ backs, c = .parent) ∧
      (∀ c ∈ names, c.isNormal ∧ c.IsStep) ∧ cleanComponents p.components = backs ++ names := by
  obtain ⟨below, hbelow, names, hnames, heq⟩ := (SettledOn.self []).foldl_parents
    (fun c hc => absurd hc List.not_mem_nil) fun c hc => isStep_of_mem_steps (p := p) hc
  refine ⟨below.reverse, names.reverse, fun c hc => hbelow c (List.mem_reverse.1 hc),
    fun c hc => hnames c (List.mem_reverse.1 hc), ?_⟩
  rw [cleanComponents_eq_steps h, heq, List.reverse_append]

theorem isStep_cleanComponents {p : Path} (h : p.isAbsolute = false) :
    ∀ c ∈ cleanComponents p.components, c.IsStep := by
  obtain ⟨backs, names, hbacks, hnames, heq⟩ := cleanComponents_of_relative h
  rw [heq]
  intro c hc
  obtain hc | hc := List.mem_append.1 hc
  · rw [hbacks c hc]
    trivial
  · exact (hnames c hc).2

theorem inOrder_cleanComponents (p : Path) : InOrder (cleanComponents p.components) := by
  cases habs : p.isAbsolute with
  | true =>
    obtain ⟨names, hnames, heq⟩ := cleanComponents_of_isAbsolute habs
    rw [heq]
    exact ⟨fun name h => (by cases h), fun c hc => (hnames c hc).2⟩
  | false => exact inOrder_of_isStep (isStep_cleanComponents habs)

/-- The components of a clean path: those that are left, or `.` if there are none. -/
theorem components_clean (p : Path) :
    p.clean.components = match cleanComponents p.components with
      | [] => [.current]
      | cs => cs := by
  cases hcs : cleanComponents p.components with
  | nil =>
    have hclean : p.clean = ⟨"."⟩ := by rw [clean, hcs]
    rw [hclean]
    decide
  | cons c cs =>
    have hclean : p.clean = ofComponents (c :: cs) := by rw [clean, hcs]
    rw [hclean, components_ofComponents (hcs ▸ inOrder_cleanComponents p)]

/-! ## Paths without detours -/

/-- Whether a piece of a path leads to no name. -/
def IsBack (piece : String) : Prop := piece = "" ∨ piece = "." ∨ piece = ".."

/-- A path that leads up first, if at all, and from then on only down. -/
def IsStraight (p : Path) : Prop :=
  ∃ backs names, Text.split '/' p.text = backs ++ names ∧ (∀ piece ∈ backs, IsBack piece) ∧
    ∀ name ∈ names, IsName name

theorem isName_of_mem_text {cs : List Component} (h : ∀ c ∈ cs, c.isNormal ∧ c.IsStep) :
    ∀ name ∈ cs.map (·.text), IsName name := by
  intro name hname
  obtain ⟨c, hc, rfl⟩ := List.mem_map.1 hname
  cases c with
  | normal name => exact (h _ hc).2
  | _ => exact absurd (h _ hc).1 Bool.false_ne_true

/-- A clean path has no detours. -/
theorem isStraight_clean (p : Path) : p.clean.IsStraight := by
  unfold clean
  split
  · exact ⟨["."], [], by decide, by simp [IsBack], by simp⟩
  · next hne =>
    cases habs : p.isAbsolute with
    | true =>
      obtain ⟨names, hnames, heq⟩ := cleanComponents_of_isAbsolute habs
      have hsteps : ∀ c ∈ names, c.IsStep := fun c hc => (hnames c hc).2
      have hsplit : Text.split '/' (ofComponents (.root :: names)).text
          = "" :: Text.split '/' (slashed names) := by
        have htext : ("/" ++ slashed names).toList = [] ++ '/' :: (slashed names).toList := by simp
        rw [text_ofComponents_root hsteps, Text.split, htext, Text.splitAt_append, List.map_append]
        rfl
      rw [heq]
      by_cases hnil : names = []
      · subst hnil
        exact ⟨["", ""], [], hsplit, by simp [IsBack], by simp⟩
      · refine ⟨[""], names.map (·.text), ?_, by simp [IsBack], isName_of_mem_text hnames⟩
        rw [hsplit, split_slashed hnil hsteps, List.singleton_append]
    | false =>
      obtain ⟨backs, names, hbacks, hnames, heq⟩ := cleanComponents_of_relative habs
      refine ⟨backs.map (·.text), names.map (·.text), ?_, fun piece hpiece => ?_,
        isName_of_mem_text hnames⟩
      · have hsteps := isStep_cleanComponents habs
        rw [text_ofComponents hne hsteps, split_slashed hne hsteps, heq, List.map_append]
      · obtain ⟨c, hc, rfl⟩ := List.mem_map.1 hpiece
        rw [hbacks c hc]
        exact .inr (.inr rfl)

/-! ## Clean absolute paths -/

theorem components_clean_of_isAbsolute {p : Path} (h : p.isAbsolute) :
    p.clean.components = cleanComponents p.components := by
  obtain ⟨names, -, heq⟩ := cleanComponents_of_isAbsolute h
  rw [components_clean, heq]

/-- Names below an absolute path are below the clean one. -/
theorem components_clean_join {source rest : Path} (habs : source.isAbsolute)
    (hrest : rest.HasNames) :
    (source.join rest).clean.components = source.clean.components ++ rest.components := by
  obtain ⟨names, -, heq⟩ := cleanComponents_of_isAbsolute habs
  have hjoin : cleanComponents (source.join rest).components
      = cleanComponents source.components ++ rest.components := by
    rw [hrest.components_join, cleanComponents, List.foldl_append, foldl_pushClean_normal hrest,
      List.reverse_append, List.reverse_reverse, cleanComponents]
  rw [components_clean, hjoin, components_clean_of_isAbsolute habs, heq]
  rfl

/-- A directory that cleans to names lies below a clean absolute path under these names. -/
theorem components_clean_join_of_names {root dir : Path} (habs : root.isAbsolute)
    (hclean : root.clean = root) (hdir : dir.clean.HasNames) :
    (root.join dir).clean.components = root.components ++ dir.clean.components := by
  -- Nothing but names is left, so the directory starts neither at the root nor with `..`.
  have hleft : cleanComponents dir.components = dir.clean.components := by
    have hcleaned := components_clean dir
    cases hcs : cleanComponents dir.components with
    | nil =>
      rw [hcs] at hcleaned
      exact absurd (hdir .current (by rw [hcleaned]; exact List.mem_singleton_self _))
        Bool.false_ne_true
    | cons c rest =>
      rw [hcs] at hcleaned
      exact hcleaned.symm
  have hrelative : dir.isAbsolute = false := by
    by_contra habs
    obtain ⟨names, -, heq⟩ := cleanComponents_of_isAbsolute (Bool.not_eq_false _ ▸ habs)
    refine absurd (hdir .root ?_) Bool.false_ne_true
    rw [← hleft, heq]
    exact List.mem_cons_self
  have hsteps : dir.steps.foldl pushClean [] = dir.clean.components.reverse := by
    rw [← hleft, cleanComponents_eq_steps hrelative, List.reverse_reverse]
  have hroot : root.components.foldl pushClean [] = root.components.reverse := by
    have hself : cleanComponents root.components = root.components := by
      rw [← components_clean_of_isAbsolute habs, hclean]
    rw [← List.reverse_inj, List.reverse_reverse, ← cleanComponents, hself]
  have hparent : .parent ∉ dir.steps.foldl pushClean [] := by
    rw [hsteps, List.mem_reverse]
    exact fun hmem => Bool.false_ne_true (hdir _ hmem)
  have habove := foldl_pushClean_append (fun c hc => isStep_of_mem_steps hc) List.not_mem_nil
    hparent root.components.reverse
  have hcomponents : cleanComponents (root.join dir).components
      = root.components ++ dir.clean.components := by
    have hne : root.text ≠ "" := by
      obtain ⟨names, -, heq⟩ := cleanComponents_of_isAbsolute habs
      refine text_ne_empty fun hnil => ?_
      rw [hnil] at heq
      cases heq
    rw [components_join hne hrelative, cleanComponents, List.foldl_append, hroot,
      ← List.nil_append root.components.reverse, habove, hsteps, List.reverse_append,
      List.reverse_reverse, List.reverse_reverse]
  rw [components_clean_of_isAbsolute (isAbsolute_join habs dir), hcomponents]

end Path

end StaticSite
