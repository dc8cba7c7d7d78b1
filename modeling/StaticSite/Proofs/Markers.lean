/-
  Where the markers of a fragment go.

  Joining texts keeps the markers; filling puts the markers of the content in the place
  of a marker that is filled.  So the markers of a fragment are known from the markers of
  the fragments it was made of, whatever its text is.
-/

import StaticSite.Proofs.Simulation

namespace StaticSite.Template

namespace Fragment

/-! ## Joining -/

theorem filterMap_htmlSegments (text : String) :
    (htmlSegments text).filterMap Segment.marker? = [] := by
  unfold htmlSegments
  split <;> rfl

theorem filterMap_joinHtml (before : String) (segments : List Segment) :
    (joinHtml before segments).filterMap Segment.marker? = segments.filterMap Segment.marker? := by
  induction segments generalizing before with
  | nil => exact filterMap_htmlSegments before
  | cons s rest ih =>
    cases s with
    | html text => exact ih (before ++ text)
    | marker m =>
      rw [joinHtml, List.filterMap_append, filterMap_htmlSegments, List.nil_append]
      simp only [List.filterMap_cons, Segment.marker?, ih]

@[simp]
theorem markers_ofSegments (segments : List Segment) :
    (ofSegments segments).markers = segments.filterMap Segment.marker? :=
  filterMap_joinHtml "" segments

@[simp]
theorem markers_ofHtml (text : String) : (ofHtml text).markers = [] := markers_ofSegments _

@[simp]
theorem references_ofHtml (text : String) : (ofHtml text).references = [] := by
  rw [references, markers_ofHtml]
  rfl

theorem joinHtml_htmlSegments (a b : String) (rest : List Segment) :
    joinHtml a (htmlSegments b ++ rest) = joinHtml (a ++ b) rest := by
  unfold htmlSegments
  split
  · next hempty =>
    have hb : b = "" := by simpa using hempty
    rw [hb, String.append_empty]
    rfl
  · rfl

/-- A text before joined segments is joined like any other. -/
theorem joinHtml_joinHtml (a b : String) (segments : List Segment) :
    joinHtml a (joinHtml b segments) = joinHtml (a ++ b) segments := by
  induction segments generalizing a b with
  | nil =>
    have h := joinHtml_htmlSegments a b []
    rwa [List.append_nil] at h
  | cons s rest ih =>
    cases s with
    | html text =>
      show joinHtml a (joinHtml (b ++ text) rest) = joinHtml (a ++ b ++ text) rest
      rw [ih, String.append_assoc]
    | marker m =>
      show joinHtml a (htmlSegments b ++ .marker m :: joinHtml "" rest)
        = htmlSegments (a ++ b) ++ .marker m :: joinHtml "" rest
      rw [joinHtml_htmlSegments, joinHtml, ih, String.empty_append]

/-- A fragment with no empty text and no two texts side by side. -/
def IsJoined (f : Fragment) : Prop := ofSegments f.segments = f

theorem isJoined_ofSegments (segments : List Segment) : (ofSegments segments).IsJoined := by
  show ofSegments (joinHtml "" segments) = ofSegments segments
  rw [ofSegments, joinHtml_joinHtml, String.empty_append]
  rfl

/-! ## Rendering -/

theorem map_render_htmlSegments (before : String) (rest : List Segment) :
    String.join ((htmlSegments before ++ rest).map Segment.render) =
      before ++ String.join (rest.map Segment.render) := by
  unfold htmlSegments
  split
  · next hempty =>
    have hbefore : before = "" := by simpa using hempty
    rw [hbefore, List.nil_append, String.empty_append]
  · exact String.join_cons

theorem map_render_joinHtml (before : String) (segments : List Segment) :
    String.join ((joinHtml before segments).map Segment.render) =
      before ++ String.join (segments.map Segment.render) := by
  induction segments generalizing before with
  | nil =>
    have h := map_render_htmlSegments before []
    rwa [List.append_nil] at h
  | cons s rest ih =>
    cases s with
    | html t => rw [joinHtml, ih, List.map_cons, String.join_cons, String.append_assoc]; rfl
    | marker m =>
      rw [joinHtml, map_render_htmlSegments, List.map_cons, String.join_cons, ih,
        String.empty_append, List.map_cons, String.join_cons]

theorem render_ofSegments (segments : List Segment) :
    (ofSegments segments).render = String.join (segments.map Segment.render) := by
  rw [ofSegments, render, map_render_joinHtml, String.empty_append]

/-- Without markers there is one text, or none. -/
theorem joinHtml_of_markers_nil {segments : List Segment}
    (h : segments.filterMap Segment.marker? = []) (before : String) :
    joinHtml before segments = htmlSegments (before ++ String.join (segments.map Segment.render)) := by
  induction segments generalizing before with
  | nil => rw [joinHtml, List.map_nil, String.join_nil, String.append_empty]
  | cons s rest ih =>
    cases s with
    | html t => rw [joinHtml, ih h, List.map_cons, String.join_cons, String.append_assoc]; rfl
    | marker m => cases h

theorem segments_of_markers_nil {f : Fragment} (hf : f.IsJoined) (h : f.markers = []) :
    f.segments = htmlSegments f.render := by
  have hjoined := joinHtml_of_markers_nil h ""
  rw [String.empty_append] at hjoined
  exact (congrArg segments hf).symm.trans hjoined

/-! ## References and slots -/

theorem mem_references {f : Fragment} {ref : Reference} :
    ref ∈ f.references ↔ .splice ref ∈ f.markers := by
  rw [references, List.mem_filterMap]
  constructor
  · rintro ⟨m, hm, href⟩
    cases m with
    | slot s => cases href
    | splice r =>
      cases href
      exact hm
  · exact fun h => ⟨_, h, rfl⟩

theorem markers_eq_nil {f : Fragment} (hslots : f.slots = []) (hrefs : f.references = []) :
    f.markers = [] := by
  rw [List.eq_nil_iff_forall_not_mem]
  intro m hm
  cases m with
  | slot s =>
    have hs : s ∈ f.slots := List.mem_filterMap.2 ⟨_, hm, rfl⟩
    rw [hslots] at hs
    cases hs
  | splice ref =>
    have hr := mem_references.2 hm
    rw [hrefs] at hr
    cases hr

theorem markers_withoutSlots (f : Fragment) :
    f.withoutSlots.markers = f.markers.filter fun m => m.slot?.isNone := by
  rw [withoutSlots, markers_ofSegments, markers, List.filterMap_filter, List.filter_filterMap]
  congr 1
  funext s
  cases s with
  | html text => rfl
  | marker m => cases m <;> rfl

theorem slots_withoutSlots (f : Fragment) : f.withoutSlots.slots = [] := by
  rw [slots, markers_withoutSlots, List.filterMap_filter, List.filterMap_eq_nil_iff]
  intro m _
  cases m <;> rfl

theorem references_withoutSlots (f : Fragment) : f.withoutSlots.references = f.references := by
  rw [references, markers_withoutSlots, List.filterMap_filter, references]
  congr 1
  funext m
  cases m <;> rfl

/-- Nothing is left of a fragment without references when its slots are dropped. -/
theorem markers_withoutSlots_eq_nil {f : Fragment} (h : f.references = []) :
    f.withoutSlots.markers = [] :=
  markers_eq_nil f.slots_withoutSlots (f.references_withoutSlots.trans h)

/-! ## Cutting -/

theorem markers_dropStart? {start : String} {f g : Fragment} (h : f.dropStart? start = some g) :
    g.markers = f.markers := by
  unfold dropStart? at h
  split at h
  · next text rest hsegments =>
    obtain ⟨left, -, rfl⟩ := Option.map_eq_some_iff.1 h
    rw [markers_ofSegments, markers, hsegments]
    rfl
  · cases h

theorem markers_dropEnd? {last : String} {f g : Fragment} (h : f.dropEnd? last = some g) :
    g.markers = f.markers := by
  unfold dropEnd? at h
  split at h
  · next text hlast =>
    -- Only the text at the end changes; the markers stand before it.
    obtain ⟨left, -, rfl⟩ := Option.map_eq_some_iff.1 h
    obtain ⟨before, hsegments⟩ := List.getLast?_eq_some_iff.1 hlast
    rw [markers_ofSegments, markers, hsegments, List.dropLast_concat]
    simp only [List.filterMap_append]
    rfl
  · cases h

/-! ## Filling -/

/-- The segments before and after a marker, with the marker between them. -/
theorem of_cutAtMarker {target : Marker} {segments before after : List Segment}
    (h : cutAtMarker target segments = some (before, after)) :
    segments = before ++ .marker target :: after := by
  induction segments generalizing before with
  | nil => cases h
  | cons s rest ih =>
    unfold cutAtMarker at h
    split at h
    · next hs =>
      cases h
      rw [hs]
      rfl
    · obtain ⟨⟨before', after'⟩, hcut, hpair⟩ := Option.map_eq_some_iff.1 h
      cases hpair
      rw [ih hcut]
      rfl

/-- The content takes the place of the marker. -/
theorem markers_replaceFirst? {target : Marker} {f content g : Fragment}
    (h : f.replaceFirst? target content = some g) :
    ∃ before after, f.markers = before ++ target :: after ∧
      g.markers = before ++ content.markers ++ after := by
  obtain ⟨⟨before, after⟩, hcut, rfl⟩ := Option.map_eq_some_iff.1 h
  refine ⟨before.filterMap Segment.marker?, after.filterMap Segment.marker?, ?_, ?_⟩
  · rw [markers, of_cutAtMarker hcut, List.filterMap_append]
    rfl
  · rw [markers_ofSegments, List.filterMap_append, List.filterMap_append]
    rfl

/-- A segment where some markers are filled. -/
def fillSegment (content : Marker → Option Fragment) : Segment → List Segment
  | .html text => [.html text]
  | .marker m => ((content m).map (·.segments)).getD [.marker m]

/-- The fragment with the given contents in the place of its markers. -/
def filled (f : Fragment) (content : Marker → Option Fragment) : Fragment :=
  ofSegments (f.segments.flatMap (fillSegment content))

section Known

variable {n : Type → Type} [Monad n] [LawfulMonad n] {fill : Marker → n (Option Fragment)}
variable {content : Marker → Option Fragment}

theorem fillSegments_pure {segments : List Segment}
    (h : ∀ m ∈ segments.filterMap Segment.marker?, fill m = pure (content m)) :
    fillSegments fill segments = pure (segments.flatMap (fillSegment content)) := by
  induction segments with
  | nil => rfl
  | cons s rest ih =>
    cases s with
    | html text =>
      rw [fillSegments, ih h, pure_bind]
      rfl
    | marker m =>
      obtain ⟨hm, hrest⟩ := List.forall_mem_cons.1 h
      rw [fillSegments, hm, ih hrest, pure_bind, pure_bind, List.flatMap_cons, fillSegment]
      cases content m <;> rfl

/-- Filling where the answer for every marker is known. -/
theorem substitute_pure {f : Fragment} (h : ∀ m ∈ f.markers, fill m = pure (content m)) :
    f.substitute fill = pure (f.filled content) := by
  rw [substitute, fillSegments_pure h, pure_bind]
  rfl

end Known

section MayFail

variable {ε : Type} {fill : Marker → Except ε (Option Fragment)}

theorem fillSegments_eq_ok {segments out : List Segment}
    (h : fillSegments fill segments = .ok out) :
    (∀ m ∈ segments.filterMap Segment.marker?, ∃ answer, fill m = .ok answer) ∧
      out = segments.flatMap (fillSegment fun m => (fill m).toOption.join) := by
  induction segments generalizing out with
  | nil =>
    cases h
    exact ⟨fun m hm => (List.not_mem_nil hm).elim, rfl⟩
  | cons s rest ih =>
    cases s with
    | html text =>
      obtain ⟨after, hafter, h⟩ := Except.bind_eq_ok h
      cases h
      obtain ⟨hanswers, rfl⟩ := ih hafter
      exact ⟨hanswers, rfl⟩
    | marker m =>
      obtain ⟨answer, hanswer, h⟩ := Except.bind_eq_ok h
      obtain ⟨after, hafter, h⟩ := Except.bind_eq_ok h
      cases h
      obtain ⟨hanswers, rfl⟩ := ih hafter
      refine ⟨List.forall_mem_cons.2 ⟨⟨answer, hanswer⟩, hanswers⟩, ?_⟩
      rw [List.flatMap_cons, fillSegment, hanswer]
      cases answer <;> rfl

/-- Filling that does not fail has an answer for every marker and puts it in its place. -/
theorem substitute_eq_ok {f g : Fragment} (h : f.substitute fill = .ok g) :
    (∀ m ∈ f.markers, ∃ answer, fill m = .ok answer) ∧
      g = f.filled fun m => (fill m).toOption.join := by
  obtain ⟨out, hout, h⟩ := Except.bind_eq_ok h
  cases h
  obtain ⟨hanswers, rfl⟩ := fillSegments_eq_ok hout
  exact ⟨hanswers, rfl⟩

theorem fillSegments_eq_error {segments : List Segment} {e : ε}
    (h : fillSegments fill segments = .error e) : ∃ m, fill m = .error e := by
  induction segments with
  | nil => cases h
  | cons s rest ih =>
    cases s with
    | html text =>
      obtain hrest | ⟨_, _, h⟩ := Except.bind_eq_error h
      · exact ih hrest
      · cases h
    | marker m =>
      obtain hm | ⟨_, _, h⟩ := Except.bind_eq_error h
      · exact ⟨m, hm⟩
      · obtain hrest | ⟨_, _, h⟩ := Except.bind_eq_error h
        · exact ih hrest
        · cases h

/-- Filling fails only where the answer for a marker does. -/
theorem substitute_eq_error {f : Fragment} {e : ε} (h : f.substitute fill = .error e) :
    ∃ m, fill m = .error e := by
  obtain h | ⟨_, _, h⟩ := Except.bind_eq_error h
  · exact fillSegments_eq_error h
  · cases h

end MayFail

theorem markers_filled (f : Fragment) (content : Marker → Option Fragment) :
    (f.filled content).markers
      = f.markers.flatMap fun m => ((content m).map (·.markers)).getD [m] := by
  rw [filled, markers_ofSegments, markers]
  induction f.segments with
  | nil => rfl
  | cons s rest ih =>
    rw [List.flatMap_cons, List.filterMap_append, ih]
    cases s with
    | html text => rfl
    | marker m =>
      rw [List.filterMap_cons]
      simp only [fillSegment, Segment.marker?, List.flatMap_cons]
      cases content m <;> rfl

/-- No reference is left where every reference is filled and no content has one. -/
theorem references_filled_eq_nil {f : Fragment} {content : Marker → Option Fragment}
    (hnone : ∀ m ∈ f.markers, content m = none → m.reference? = none)
    (hsome : ∀ m ∈ f.markers, ∀ g, content m = some g → g.references = []) :
    (f.filled content).references = [] := by
  rw [references, markers_filled, List.filterMap_flatMap, List.flatMap_eq_nil_iff]
  intro m hm
  cases hcontent : content m with
  | none =>
    rw [Option.map_none, Option.getD_none, List.filterMap_cons, hnone m hm hcontent]
    rfl
  | some g => exact hsome m hm g hcontent

theorem flatMap_fillSegment_of_forall_none {content : Marker → Option Fragment}
    {segments : List Segment} (h : ∀ m ∈ segments.filterMap Segment.marker?, content m = none) :
    segments.flatMap (fillSegment content) = segments := by
  induction segments with
  | nil => rfl
  | cons s rest ih =>
    cases s with
    | html text =>
      rw [List.flatMap_cons, ih h]
      rfl
    | marker m =>
      have hm : content m = none := h m List.mem_cons_self
      rw [List.flatMap_cons, ih fun m' hm' => h m' (List.mem_cons_of_mem _ hm'), fillSegment, hm]
      rfl

/-- A joined fragment where nothing is filled stays as it is. -/
theorem filled_of_forall_none {f : Fragment} (hf : f.IsJoined) {content : Marker → Option Fragment}
    (h : ∀ m ∈ f.markers, content m = none) : f.filled content = f := by
  rw [filled, flatMap_fillSegment_of_forall_none h]
  exact hf

end Fragment

/-! ## Reading -/

theorem extract_isJoined (role : Role) (doc : Html.Document) :
    (extract role doc).fragment.IsJoined :=
  Fragment.isJoined_ofSegments _

/-- The markers of a file are those of its document. -/
theorem markers_extract (role : Role) (doc : Html.Document) :
    (extract role doc).fragment.markers = (documentPieces doc).filterMap Piece.marker? := by
  show (Fragment.ofSegments ((documentPieces doc).filterMap Piece.segment?)).markers = _
  rw [Fragment.markers_ofSegments, List.filterMap_filterMap]
  congr 1
  funext p
  cases p <;> rfl

/-- The descriptor of a file lists the references of its fragment. -/
theorem extract_references (role : Role) (doc : Html.Document) :
    (extract role doc).descriptor.references = (extract role doc).fragment.references := by
  -- A role leaves out slots only.
  have hkeeps (m : Marker) : (if role.keeps m then m.reference? else none) = m.reference? := by
    cases m with
    | slot s => exact ite_self none
    | splice ref => cases role <;> rfl
  show (((documentPieces doc).filterMap Piece.marker?).filter role.keeps).filterMap _ = _
  rw [Fragment.references, markers_extract, List.filterMap_filter]
  simp only [hkeeps]

/-- What a text is read as. -/
def fragmentOf (text : String) : Fragment := (extract .page (.parse text)).fragment

theorem fragmentOf_eq (text : String) : fragmentOf text = (extract .page (.parse text)).fragment :=
  rfl

-- Most proofs hold whatever the reader does with a text; they are not to look into it.
attribute [irreducible] fragmentOf

theorem fragmentOf_isJoined (text : String) : (fragmentOf text).IsJoined := by
  rw [fragmentOf_eq]
  exact extract_isJoined _ _

theorem references_of_text (text : String) :
    (extract .page (.parse text)).descriptor.references = (fragmentOf text).references := by
  rw [fragmentOf_eq, extract_references]

end StaticSite.Template
