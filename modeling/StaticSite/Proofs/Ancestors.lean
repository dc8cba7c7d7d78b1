/-
  Directories above a path.

  A clean path goes back first, if at all, and then leads down by names, and without its last
  name it is a path of the same kind (`descends_clean`).  So when the directories of such a
  path are made one above the other, each of them is on the way to the last one
  (`makeDirectories_above`).  In a tree there is something wherever a path leads that only
  goes back, so the making of directories stops at the names (`makeDirectory_backs`).
-/

import StaticSite.Proofs.Below

open StaticSite.Path (IsName IsBack)

namespace StaticSite

namespace Path

/-! ## Without the last name -/

theorem intercalate_splitAt (cs : List Char) :
    "/".intercalate ((Text.splitAt '/' cs).map String.ofList) = String.ofList cs := by
  induction cs with
  | nil => rfl
  | cons c rest ih =>
    obtain ⟨piece, pieces, hpieces⟩ := List.exists_cons_of_ne_nil (Text.splitAt_ne_nil '/' rest)
    rw [hpieces, List.map_cons] at ih
    rw [Text.splitAt, hpieces]
    split
    · next hslash =>
      rw [List.map_cons, List.map_cons, String.intercalate_cons_cons, ih, beq_iff_eq.1 hslash,
        ← String.toList_inj]
      simp
    · -- The character is the first one of the first piece.
      have hfirst : String.ofList (c :: piece) = String.ofList [c] ++ String.ofList piece :=
        @String.ofList_append [c] piece
      rw [List.map_cons, hfirst, intercalate_append_cons, ih, ← String.ofList_append]
      rfl

/-- The pieces of a text with slashes between them are the text. -/
theorem intercalate_split (text : String) : "/".intercalate (Text.split '/' text) = text := by
  rw [Text.split, intercalate_splitAt, String.ofList_toList]

/-- Whether a path ends in a component, or is no more than its start. -/
def IsTrimmed (p : Path) : Prop :=
  p.text = "" ∨ p.text = "/" ∨
    ∃ front piece, Text.split '/' p.text = front ++ [piece] ∧ (pieceComponent? piece).isSome

theorem upToComponent_cons {piece : String} (h : (pieceComponent? piece).isSome)
    (before : List String) : upToComponent (piece :: before) = piece :: before := by
  cases before with
  | nil =>
    have hne : (piece == "") = false := by
      rw [beq_eq_false_iff_ne]
      rintro rfl
      cases h
    rw [upToComponent, hne, if_neg Bool.false_ne_true]
  | cons next before =>
    rw [upToComponent, if_pos h]
    exact List.cons_ne_nil _ _

theorem IsName.isSome {name : String} (h : IsName name) : (pieceComponent? name).isSome := by
  have hstep : (Component.normal name).IsStep := h
  rw [show name = (Component.normal name).text from rfl, pieceComponent?_text hstep]
  rfl

/-- A name that was joined is cut off again. -/
theorem parent?_join_name {base : Path} (hbase : base.IsTrimmed) {name : String} (h : IsName name) :
    (base.join ⟨name⟩).parent? = some base := by
  obtain ⟨text⟩ := base
  obtain rfl | rfl | ⟨front, piece, hpieces, hpiece⟩ := hbase
  · rw [join_empty, parent?, h.split, List.reverse_singleton, upToComponent_cons h.isSome,
      h.hasNames.relative]
    rfl
  · have hjoin : (⟨"/"⟩ : Path).join ⟨name⟩ = ⟨"/" ++ name⟩ := by
      simp [join, h.hasNames.relative]
    have hsplit : Text.split '/' ("/" ++ name) = ["", name] := by
      have htext : ("/" ++ name).toList = [] ++ '/' :: name.toList := by simp
      rw [Text.split, htext, Text.splitAt_append, Text.splitAt_of_not_mem h.no_slash]
      simp [Text.splitAt]
    have habs : (⟨"/" ++ name⟩ : Path).isAbsolute = true := by simp [isAbsolute]
    rw [hjoin, parent?, hsplit, habs, List.reverse_cons, List.reverse_singleton,
      List.singleton_append, upToComponent_cons h.isSome]
    rfl
  · -- The last piece is not empty, so the text neither is empty nor ends in a slash.
    have hlast (before : List String) : Text.split '/' text ≠ before ++ [""] := by
      rw [hpieces]
      intro heq
      obtain rfl := List.singleton_inj.1 (List.append_inj' heq rfl).2
      cases hpiece
    have hne : text ≠ "" := by
      rintro rfl
      exact hlast [] rfl
    obtain ⟨before, hjoined, hbefore | hbefore⟩ := @split_join ⟨text⟩ hne name h
    · have hreverse : before.reverse = piece :: front.reverse := by
        rw [← hbefore, hpieces, List.reverse_append]
        rfl
      rw [parent?, hjoined, List.reverse_append, List.reverse_singleton, List.singleton_append,
        upToComponent_cons h.isSome]
      simp only [hreverse, upToComponent_cons hpiece]
      rw [← hreverse, List.reverse_reverse, ← hbefore, intercalate_split]
    · exact absurd hbefore (hlast before)

theorem isTrimmed_join_name (base : Path) {name : String} (h : IsName name) :
    (base.join ⟨name⟩).IsTrimmed := by
  by_cases hne : base.text = ""
  · obtain ⟨text⟩ := base
    cases hne
    rw [join_empty]
    exact .inr (.inr ⟨[], name, h.split, h.isSome⟩)
  · obtain ⟨front, hjoined, -⟩ := split_join hne h
    exact .inr (.inr ⟨front, name, hjoined, h.isSome⟩)

/-- A path that goes back and then leads down by names, one below the other. -/
inductive Descends : Path → Prop
  | start {path : Path} (h : ∀ piece ∈ Text.split '/' path.text, IsBack piece) : Descends path
  | name {base : Path} {name : String} (h : Descends base) (hname : IsName name)
    (hparent : (base.join ⟨name⟩).parent? = some base) : Descends (base.join ⟨name⟩)

theorem Descends.foldl_join {base : Path} (h : base.Descends) (hbase : base.IsTrimmed)
    {cs : List Component} (hcs : ∀ c ∈ cs, c.isNormal ∧ c.IsStep) :
    (cs.foldl (fun p c => p.join ⟨c.text⟩) base).Descends := by
  induction cs generalizing base with
  | nil => exact h
  | cons c rest ih =>
    obtain ⟨hnormal, hstep⟩ := hcs c List.mem_cons_self
    cases c with
    | normal name =>
      have hname : IsName name := hstep
      have hparent := parent?_join_name hbase hname
      exact ih (.name h hname hparent) (isTrimmed_join_name base hname) fun d hd =>
        hcs d (List.mem_cons_of_mem _ hd)
    | _ => cases hnormal

/-- A clean path descends. -/
theorem descends_clean (p : Path) : p.clean.Descends := by
  unfold clean
  split
  · have hdot : Text.split '/' "." = ["."] := by decide
    exact .start fun piece hpiece => .inr (.inl (by simpa [hdot] using hpiece))
  · cases habs : p.isAbsolute with
    | true =>
      obtain ⟨names, hnames, heq⟩ := cleanComponents_of_isAbsolute habs
      have hslash : Text.split '/' "/" = ["", ""] := by decide
      rw [heq, ofComponents, List.foldl_cons, join_empty]
      refine Descends.foldl_join (.start fun piece hpiece => .inl ?_) (.inr (.inl rfl)) hnames
      simpa [Component.text, hslash] using hpiece
    | false =>
      obtain ⟨backs, names, hbacks, hnames, heq⟩ := cleanComponents_of_relative habs
      have hsteps : ∀ c ∈ backs, c.IsStep := fun c hc => by rw [hbacks c hc]; trivial
      rw [heq, ofComponents, List.foldl_append]
      refine @Descends.foldl_join (ofComponents backs) ?_ ?_ names hnames
      · by_cases hnil : backs = []
        · subst hnil
          exact .start fun piece hpiece => .inl (List.mem_singleton.1 hpiece)
        · refine .start fun piece hpiece => .inr (.inr ?_)
          rw [text_ofComponents hnil hsteps, split_slashed hnil hsteps] at hpiece
          obtain ⟨c, hc, rfl⟩ := List.mem_map.1 hpiece
          rw [hbacks c hc]
          rfl
      · rcases List.eq_nil_or_concat backs with rfl | ⟨front, c, rfl⟩
        · exact .inl rfl
        · refine .inr (.inr ⟨front.map (·.text), c.text, ?_, ?_⟩)
          · rw [text_ofComponents (by simp) hsteps, split_slashed (by simp) hsteps,
              List.concat_eq_append, List.map_append]
            rfl
          · rw [pieceComponent?_text (hsteps c (by simp))]
            rfl

end Path

namespace FileSystem

variable {fs fs' : FileSystem}

/-! ## Making directories on the way -/

theorem endsInDirectory_backs {pieces : List String} (h : ∀ piece ∈ pieces, IsBack piece) :
    endsInDirectory pieces = true := by
  unfold endsInDirectory
  split
  · next last hlast =>
    obtain rfl | rfl | rfl := h last (List.mem_of_getLast? hlast) <;> rfl
  · rfl

/-- In a tree there is something wherever a path leads that only goes back. -/
theorem makeDirectory_backs (h : fs.IsTree) {path : Path}
    (hbacks : ∀ piece ∈ Text.split '/' path.text, IsBack piece)
    (hmade : fs.makeDirectory path = .error .notFound) : path.text = "" := by
  cases hpieces : pieces path with
  | error cause =>
    rw [makeDirectory, hpieces] at hmade
    obtain rfl : cause = .notFound := Except.error.inj hmade
    unfold pieces at hpieces
    split at hpieces
    · cases hpieces
    · split at hpieces
      · next hempty => exact beq_iff_eq.1 hempty
      · split at hpieces <;> cases hpieces
  | ok steps =>
    obtain ⟨slashes, heq, -⟩ := withoutSlashes_append steps
    have hsteps : ∀ piece ∈ withoutSlashes steps, IsBack piece := fun piece hpiece =>
      hbacks piece (pieces_eq_ok hpieces ▸ heq ▸ List.mem_append_left _ hpiece)
    have hend := endsInDirectory_backs hsteps
    have hfollow := h.foldlM_backs (h.start path) hsteps
    rw [makeDirectory, hpieces, Except.ok_bind] at hmade
    simp only [hfollow, hend, Bool.true_or, if_true, Except.ok_bind] at hmade
    cases hmade

theorem makesDirectories_makeDirectory (path : Path) :
    MakesDirectories (disk.makeDirectory path) :=
  .changing fun _ _ htree hmade => makeDirectory_eq_ok htree hmade

/-- What is new is above the place that a path leads to, or at that place. -/
def NewAbove (fs fs' : FileSystem) (place : Place) : Prop :=
  ∀ q, fs.entry? q = none → (fs'.entry? q).isSome → q <+: place

theorem newAbove_self (fs : FileSystem) (place : Place) : NewAbove fs fs place := by
  intro q hfree hsome
  rw [hfree] at hsome
  cases hsome

theorem NewAbove.trans {fs₁ : FileSystem} {place rest : Place} (h : NewAbove fs fs₁ place)
    (h' : NewAbove fs₁ fs' (place ++ rest)) : NewAbove fs fs' (place ++ rest) := by
  intro q hfree hsome
  cases hentry : fs₁.entry? q with
  | none => exact h' q hentry hsome
  | some entry =>
    exact (h q hfree (by rw [hentry]; rfl)).trans (List.prefix_append place rest)

theorem makeDirectory_above {path : Path}
    (hmade : (disk.makeDirectory path >>= disk.unlessThere path).run fs = (.ok (), fs')) :
    ∃ place, fs'.follow path = .ok place ∧ NewAbove fs fs' place := by
  obtain ⟨place, hfollow, -, hnew⟩ := makeDirectory_there hmade
  exact ⟨place, hfollow, fun q hfree hsome => hnew q hfree hsome ▸ List.prefix_rfl⟩

/-- Every directory that is made is on the way to the last one. -/
theorem makeDirectoriesUp_above (h : fs.IsTree) {path : Path} (hpath : path.Descends)
    {parents : Nat} (hmade : (disk.makeDirectoriesUp parents path).run fs = (.ok (), fs')) :
    ∃ place, fs'.follow path = .ok place ∧ NewAbove fs fs' place := by
  induction hpath generalizing parents fs' with
  | @start path hbacks =>
    obtain hmade | ⟨_, parent, _, -, hattempt, hparent, -⟩ := makeDirectoriesUp_eq_ok hmade
    · exact makeDirectory_above hmade
    · -- Only the empty path is not found, and it has no parent.
      obtain ⟨text⟩ := path
      obtain rfl : text = "" := makeDirectory_backs h hbacks hattempt
      cases hparent
  | @name base name _ hname hparent ih =>
    obtain hmade | ⟨above, parent, fs₁, -, -, hparent', hup, hmade⟩ := makeDirectoriesUp_eq_ok hmade
    · exact makeDirectory_above hmade
    · obtain rfl := Option.some.inj (hparent.symm.trans hparent')
      obtain ⟨directory, hdirectory, hnew₁⟩ := ih hup
      obtain ⟨place, hfollow, hnew⟩ := makeDirectory_above hmade
      obtain ⟨htree₁, -⟩ := Frame.Keeps.makeDirectoriesUp makesDirectories_makeDirectory _ base fs h
      rw [hup] at htree₁
      obtain ⟨-, hchange⟩ := (makesDirectories_makeDirectory _).bind
        (fun attempt => .unlessThere _ attempt) fs₁ htree₁
      rw [hmade] at hchange
      have hevolved : Evolved fs₁ fs' := Grown.evolved hchange
      -- The name is below the directory that was made before.
      obtain ⟨directory', hfoot, -, rfl⟩ := follow_join hname hfollow
      obtain rfl : directory' = directory := Except.ok.inj <|
        hfoot.symm.trans (hevolved.foot (foot_of_follow hdirectory))
      exact ⟨_, hfollow, hnew₁.trans hnew⟩

/-- What is new after directories were made is above the foot of the last one. -/
theorem makeDirectories_above (h : fs.IsTree) {path : Path} (hpath : path.Descends)
    (hmade : (disk.makeDirectories path).run fs = (.ok (), fs')) :
    ∃ place, fs'.foot path = .ok place ∧ NewAbove fs fs' place := by
  unfold Disk.makeDirectories at hmade
  split at hmade
  · next hnone =>
    cases hmade
    exact ⟨fs.current, if_pos (Path.text_of_length hnone), newAbove_self fs _⟩
  · obtain ⟨place, hfollow, hnew⟩ := makeDirectoriesUp_above h hpath hmade
    exact ⟨place, foot_of_follow hfollow, hnew⟩

end FileSystem

end StaticSite
