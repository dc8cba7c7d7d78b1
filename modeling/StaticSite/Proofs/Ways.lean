/-
  The way of a path.

  Every path names a place, whatever is there: a name leads down, and `..` takes back the name
  before it (`named`).  There are no links, so a path that can be followed leads to the place
  that it names (`named_of_follow`), and everything that it leads through is there
  (`isSome_of_mem_way`).  When the directories of a path are made, all that is new is on its
  way (`makeDirectories_way`).  A name that is taken back is on the way too, so making the
  directories of `a/new/../../b` may bring a directory `new` into `a`.
-/

import StaticSite.Proofs.Ancestors

open StaticSite.Path (IsName IsBack)

namespace StaticSite

namespace Path

/-! ## Pieces -/

theorem isAbsolute_iff_split {p : Path} :
    p.isAbsolute ↔ ∃ piece rest, Text.split '/' p.text = "" :: piece :: rest := by
  rw [isAbsolute, Text.split]
  cases p.text.toList with
  | nil => simp [Text.splitAt]
  | cons c cs =>
    obtain ⟨piece, pieces, hpieces⟩ := List.exists_cons_of_ne_nil (Text.splitAt_ne_nil '/' cs)
    rw [Text.splitAt, hpieces]
    by_cases hslash : c = '/'
    · subst hslash
      simp
    · -- The character belongs to the first piece, which is not empty then.
      simp [hslash]

/-- Whether no `..` of a path takes back a name. -/
def NeverReturns (p : Path) : Prop :=
  ∃ backs rest, Text.split '/' p.text = backs ++ rest ∧ (∀ piece ∈ backs, IsBack piece) ∧
    ".." ∉ rest

/-- What begins with the first pieces of a path starts where the path starts, unless it is empty. -/
theorem isAbsolute_of_first_pieces {p q : Path} (hne : Text.split '/' q.text ≠ [""])
    (h : Text.split '/' q.text <+: Text.split '/' p.text) : q.isAbsolute = p.isAbsolute := by
  have hnil : Text.split '/' q.text ≠ [] := fun hnil =>
    Text.splitAt_ne_nil '/' q.text.toList (List.map_eq_nil_iff.1 hnil)
  obtain ⟨rest, hrest⟩ := h
  rw [Bool.eq_iff_iff, isAbsolute_iff_split, isAbsolute_iff_split, ← hrest]
  generalize Text.split '/' q.text = front at hne hnil
  rcases front with _ | ⟨first, _ | ⟨second, front⟩⟩
  · exact absurd rfl hnil
  · -- The only piece is not empty, so neither path is absolute.
    have hfirst : first ≠ "" := fun heq => hne (by rw [heq])
    simp [hfirst]
  · simp

theorem upToComponent_suffix (pieces : List String) : upToComponent pieces <:+ pieces := by
  induction pieces with
  | nil => exact List.suffix_rfl
  | cons piece before ih =>
    cases before with
    | nil =>
      rw [upToComponent]
      split
      · exact List.nil_suffix
      · exact List.suffix_rfl
    | cons next before =>
      rw [upToComponent]
      · split
        · exact List.suffix_rfl
        · exact ih.trans (List.suffix_cons piece (next :: before))
      · exact List.cons_ne_nil _ _

theorem upToComponent_ne (pieces : List String) : upToComponent pieces ≠ [""] := by
  induction pieces with
  | nil => exact List.cons_ne_nil _ _ ∘ Eq.symm
  | cons piece before ih =>
    cases before with
    | nil =>
      rw [upToComponent]
      split
      · exact List.cons_ne_nil _ _ ∘ Eq.symm
      · next hne => simpa using hne
    | cons next before =>
      rw [upToComponent]
      · split
        · simp
        · exact ih
      · exact List.cons_ne_nil _ _

/-- The directory of a path starts where the path starts.  It is no more than this start, or its
pieces are the first ones of the path. -/
theorem split_parent? {p parent : Path} (h : p.parent? = some parent) :
    parent.isAbsolute = p.isAbsolute ∧
      ((∀ piece ∈ Text.split '/' parent.text, piece = "") ∨
        Text.split '/' parent.text <+: Text.split '/' p.text) := by
  unfold parent? at h
  split at h
  · cases h
  · next last before hlast =>
    split at h
    · -- Nothing is left but the start.
      cases h
      cases p.isAbsolute with
      | true => exact ⟨rfl, .inl (by decide)⟩
      | false => exact ⟨rfl, .inl (by decide)⟩
    · next hnil =>
      cases h
      have hfirst : (upToComponent before).reverse <+: Text.split '/' p.text := by
        have hsuffix : upToComponent before <:+ (Text.split '/' p.text).reverse := by
          refine (upToComponent_suffix before).trans ((List.suffix_cons last before).trans ?_)
          rw [← hlast]
          exact upToComponent_suffix _
        rwa [← List.reverse_suffix, List.reverse_reverse]
      have hpieces : Text.split '/' ("/".intercalate (upToComponent before).reverse)
          = (upToComponent before).reverse := by
        refine split_intercalate (by simpa using hnil) fun piece hpiece => ?_
        obtain ⟨cs, hcs, rfl⟩ := List.mem_map.1 (hfirst.subset hpiece)
        rw [String.toList_ofList]
        exact Text.not_mem_of_mem_splitAt hcs
      have hne : (upToComponent before).reverse ≠ [""] := fun heq =>
        upToComponent_ne before (List.reverse_eq_cons_iff.1 heq)
      rw [← hpieces] at hfirst hne
      exact ⟨isAbsolute_of_first_pieces hne hfirst, .inr hfirst⟩

end Path

namespace FileSystem

variable {fs fs' : FileSystem} {path : Path} {place q : Place}

/-! ## The place that a path names -/

/-- Where a piece of a path leads from a place, whatever is there. -/
def along (place : Place) (piece : String) : Place :=
  if piece == "" || piece == "." then place
  else if piece == ".." then place.dropLast
  else place ++ [piece]

/-- The place that a path names, whatever is there. -/
def named (fs : FileSystem) (path : Path) : Place :=
  (Text.split '/' path.text).foldl along (fs.start path)

/-- The places that a path leads through, from its start to the place that it names. -/
def way (fs : FileSystem) (path : Path) : List Place :=
  (Text.split '/' path.text).inits.map (·.foldl along (fs.start path))

theorem along_name {name : String} (h : IsName name) (place : Place) :
    along place name = place ++ [name] := by
  simp [along, h.ne_empty, h.ne_dot, h.ne_dots]

theorem foldl_along_slashes {slashes : List String} (h : ∀ piece ∈ slashes, piece = "")
    (place : Place) : slashes.foldl along place = place := by
  induction slashes with
  | nil => rfl
  | cons piece rest ih =>
    obtain ⟨rfl, hrest⟩ := List.forall_mem_cons.1 h
    exact ih hrest

theorem foldl_along_names {names : List String} (h : ∀ name ∈ names, IsName name) (place : Place) :
    names.foldl along place = place ++ names := by
  induction names generalizing place with
  | nil => exact (List.append_nil place).symm
  | cons name rest ih =>
    obtain ⟨hname, hrest⟩ := List.forall_mem_cons.1 h
    rw [List.foldl_cons, along_name hname, ih hrest, List.append_assoc]
    rfl

theorem mem_way : q ∈ fs.way path ↔
    ∃ front, front <+: Text.split '/' path.text ∧ front.foldl along (fs.start path) = q := by
  simp only [way, List.mem_map, List.mem_inits]

theorem start_mem_way (fs : FileSystem) (path : Path) : fs.start path ∈ fs.way path :=
  mem_way.2 ⟨[], List.nil_prefix, rfl⟩

theorem named_mem_way (fs : FileSystem) (path : Path) : fs.named path ∈ fs.way path :=
  mem_way.2 ⟨_, List.prefix_rfl, rfl⟩

theorem start_congr (h : fs'.current = fs.current) (path : Path) : fs'.start path = fs.start path := by
  rw [start, start, h]

theorem named_congr (h : fs'.current = fs.current) (path : Path) :
    fs'.named path = fs.named path := by
  rw [named, named, start_congr h]

theorem way_congr (h : fs'.current = fs.current) (path : Path) : fs'.way path = fs.way path := by
  rw [way, way, start_congr h]

theorem foldl_along_backs {pieces : List String} (h : ∀ piece ∈ pieces, IsBack piece)
    (place : Place) : pieces.foldl along place <+: place := by
  induction pieces generalizing place with
  | nil => exact List.prefix_rfl
  | cons piece rest ih =>
    obtain ⟨hback, hrest⟩ := List.forall_mem_cons.1 h
    rw [List.foldl_cons]
    rcases hback with rfl | rfl | rfl
    · exact ih hrest place
    · exact ih hrest place
    · exact (ih hrest place.dropLast).trans (List.dropLast_prefix place)

theorem prefix_foldl_along {pieces : List String} (h : ".." ∉ pieces) (place : Place) :
    place <+: pieces.foldl along place := by
  induction pieces generalizing place with
  | nil => exact List.prefix_rfl
  | cons piece rest ih =>
    rw [List.mem_cons, not_or] at h
    obtain ⟨hpiece, hrest⟩ := h
    have hstep : place <+: along place piece := by
      unfold along
      rw [if_neg (show ¬(piece == "..") = true by simpa using Ne.symm hpiece)]
      split
      · exact List.prefix_rfl
      · exact List.prefix_append place [piece]
    exact hstep.trans (ih hrest _)

/-- The first pieces of two lists end in the first list, or among those of the second. -/
theorem prefix_append_cases {pieces front rest : List String} (h : pieces <+: front ++ rest) :
    pieces <+: front ∨ ∃ down, down <+: rest ∧ pieces = front ++ down := by
  rcases List.prefix_or_prefix_of_prefix h (List.prefix_append front rest) with h' | ⟨down, rfl⟩
  · exact .inl h'
  · exact .inr ⟨down, (List.prefix_append_right_inj front).1 h, rfl⟩

/-- A path that never takes a name back goes up from its start, and then down to its place. -/
theorem mem_way_of_neverReturns (h : path.NeverReturns) (hq : q ∈ fs.way path) :
    q <+: fs.start path ∨ q <+: fs.named path := by
  obtain ⟨backs, rest, hpieces, hbacks, hrest⟩ := h
  obtain ⟨front, hfront, rfl⟩ := mem_way.1 hq
  rw [hpieces] at hfront
  rcases prefix_append_cases hfront with hbefore | ⟨down, ⟨further, rfl⟩, rfl⟩
  · left
    exact foldl_along_backs (fun piece hpiece => hbacks piece (hbefore.subset hpiece)) _
  · right
    have hnamed : fs.named path = further.foldl along ((backs ++ down).foldl along (fs.start path)) := by
      rw [named, hpieces, ← List.append_assoc, List.foldl_append]
    rw [hnamed]
    exact prefix_foldl_along (fun hmem => hrest (List.mem_append_right down hmem)) _

/-! ## Following a way -/

/-- A step that can be made leads where its piece leads. -/
theorem step_along {piece : String} (h : fs.step place piece = .ok q) : along place piece = q := by
  obtain ⟨mode, hmode⟩ := (step_eq_ok h).1
  unfold along
  simp only [step, hmode] at h
  split at h
  · next hhere =>
    rw [if_pos hhere]
    exact Except.ok.inj h
  · next hhere =>
    rw [if_neg hhere]
    split at h
    · next hup =>
      rw [if_pos hup]
      exact Except.ok.inj h
    · next hup =>
      rw [if_neg hup]
      split at h
      · cases h
      · exact Except.ok.inj h

theorem foldlM_along {steps : List String} {start : Place}
    (h : steps.foldlM fs.step start = .ok place) : steps.foldl along start = place := by
  induction steps generalizing start with
  | nil => exact Except.ok.inj h
  | cons piece rest ih =>
    obtain ⟨q, hq, hrest⟩ := Except.bind_eq_ok h
    rw [List.foldl_cons, step_along hq]
    exact ih hrest

/-- A path leads to the place that it names, if it leads anywhere. -/
theorem named_of_follow (h : fs.follow path = .ok place) : fs.named path = place := by
  obtain ⟨steps, hsteps, h⟩ := Except.bind_eq_ok h
  rw [named, pieces_eq_ok hsteps]
  exact foldlM_along h

theorem named_of_foot (h : fs.foot path = .ok place) : fs.named path = place := by
  unfold foot at h
  split at h
  · next hempty =>
    obtain ⟨text⟩ := path
    cases hempty
    exact Except.ok.inj h
  · exact named_of_follow h

/-- When something was found, everything on the way to it is there. -/
theorem isSome_of_mem_way (h : fs.follow path = .ok place) (hplace : (fs.entry? place).isSome)
    (hq : q ∈ fs.way path) : (fs.entry? q).isSome := by
  obtain ⟨steps, hsteps, h⟩ := Except.bind_eq_ok h
  obtain ⟨front, ⟨rest, hrest⟩, rfl⟩ := mem_way.1 hq
  rw [← pieces_eq_ok hsteps, ← hrest, List.foldlM_append] at h
  obtain ⟨q, hfront, h⟩ := Except.bind_eq_ok h
  rw [foldlM_along hfront]
  cases rest with
  | nil =>
    obtain rfl := Except.ok.inj h
    exact hplace
  | cons piece rest =>
    -- A further step can only be made from a directory.
    obtain ⟨_, hstep, -⟩ := Except.bind_eq_ok h
    exact (step_eq_ok hstep).1.isSome

/-! ## Making directories on the way -/

theorem way_parent {parent : Path} (h : path.parent? = some parent) (hq : q ∈ fs.way parent) :
    q ∈ fs.way path := by
  obtain ⟨hstart, hpieces⟩ := Path.split_parent? h
  have hstart : fs.start parent = fs.start path := by rw [start, start, hstart]
  obtain ⟨front, hfront, rfl⟩ := mem_way.1 hq
  rw [hstart]
  rcases hpieces with hslashes | hpieces
  · rw [foldl_along_slashes fun piece hpiece => hslashes piece (hfront.subset hpiece)]
    exact start_mem_way fs path
  · exact mem_way.2 ⟨front, hfront.trans hpieces, rfl⟩

theorem makeDirectory_way (h : fs.IsTree)
    (hmade : (disk.makeDirectory path >>= disk.unlessThere path).run fs = (.ok (), fs'))
    (hfree : fs.entry? q = none) (hsome : (fs'.entry? q).isSome) : q ∈ fs.way path := by
  obtain ⟨place, hfollow, -, hnew⟩ := makeDirectory_there hmade
  obtain ⟨-, hgrown⟩ := (makesDirectories_makeDirectory path).bind
    (fun attempt => .unlessThere path attempt) fs h
  rw [hmade] at hgrown
  obtain rfl := hnew q hfree hsome
  rw [← way_congr hgrown.current, ← named_of_follow hfollow]
  exact named_mem_way fs' path

theorem makeDirectoriesUp_way (h : fs.IsTree) {parents : Nat}
    (hmade : (disk.makeDirectoriesUp parents path).run fs = (.ok (), fs'))
    (hfree : fs.entry? q = none) (hsome : (fs'.entry? q).isSome) : q ∈ fs.way path := by
  induction parents generalizing path fs' with
  | zero => exact makeDirectory_way h hmade hfree hsome
  | succ parents ih =>
    obtain hmade | ⟨_, parent, fs₁, ⟨⟩, -, hparent, hup, hmade⟩ := makeDirectoriesUp_eq_ok hmade
    · exact makeDirectory_way h hmade hfree hsome
    · cases hentry : fs₁.entry? q with
      | some entry =>
        -- What came with the parent is on the way of the parent.
        exact way_parent hparent (ih hup (by rw [hentry]; rfl))
      | none =>
        obtain ⟨htree₁, hgrown⟩ :=
          Frame.Keeps.makeDirectoriesUp makesDirectories_makeDirectory parents parent fs h
        rw [hup] at htree₁ hgrown
        rw [← way_congr hgrown.current]
        exact makeDirectory_way htree₁ hmade hentry hsome

/-- Whatever is new after directories were made is on the way of the last one. -/
theorem makeDirectories_way (h : fs.IsTree)
    (hmade : (disk.makeDirectories path).run fs = (.ok (), fs'))
    (hfree : fs.entry? q = none) (hsome : (fs'.entry? q).isSome) : q ∈ fs.way path := by
  unfold Disk.makeDirectories at hmade
  split at hmade
  · cases hmade
    rw [hfree] at hsome
    cases hsome
  · exact makeDirectoriesUp_way h hmade hfree hsome

end FileSystem

end StaticSite
