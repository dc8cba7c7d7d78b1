/-
  Fragments as sequences of characters and markers.

  The segments of a fragment are only one way to write `Fragment.flat`: in a canonical
  fragment no text is empty and no two texts stand side by side, so the sequence decides
  the segments (`Fragment.eq_of_flat`).  Every operation joins what it builds, so every
  fragment that can be made is canonical, and each operation is told by what it does to the
  sequence.  Looking for a text at the end of a fragment looks at one segment only, which
  is enough because the fragment is canonical.  `Fragment.Made.laws` has all of it.
-/

import StaticSite.Proofs.Markers

namespace StaticSite.Template

namespace Fragment

/-! ## The sequence decides the segments -/

def isHtml : Segment → Prop
  | .html _ => True
  | .marker _ => False

/-- Whether two neighbours are not both texts. -/
def Apart (s t : Segment) : Prop := ¬ (isHtml s ∧ isHtml t)

/-- No text is empty, and no two texts stand side by side. -/
structure IsCanonical (f : Fragment) : Prop where
  nonempty : ∀ text, .html text ∈ f.segments → text ≠ ""
  apart : f.segments.IsChain Apart

/-- The characters of a text in a sequence. -/
def chars (text : String) : List (Char ⊕ Marker) := text.toList.map .inl

@[simp]
theorem chars_empty : chars "" = [] := rfl

@[simp]
theorem chars_append (a b : String) : chars (a ++ b) = chars a ++ chars b := by
  rw [chars, String.toList_append, List.map_append]
  rfl

theorem chars_eq_nil {text : String} : chars text = [] ↔ text = "" := by
  rw [chars, List.map_eq_nil_iff, String.toList_eq_nil_iff]

/-- The characters and markers of some segments. -/
def flatten (segments : List Segment) : List (Char ⊕ Marker) := segments.flatMap flatSegment

theorem flat_eq (f : Fragment) : f.flat = flatten f.segments := rfl

@[simp]
theorem flatten_nil : flatten [] = [] := rfl

@[simp]
theorem flatten_html (text : String) (rest : List Segment) :
    flatten (.html text :: rest) = chars text ++ flatten rest := rfl

@[simp]
theorem flatten_marker (m : Marker) (rest : List Segment) :
    flatten (.marker m :: rest) = .inr m :: flatten rest := rfl

@[simp]
theorem flatten_append (a b : List Segment) : flatten (a ++ b) = flatten a ++ flatten b :=
  List.flatMap_append

theorem flatten_htmlSegments (text : String) : flatten (htmlSegments text) = chars text := by
  unfold htmlSegments
  split
  · next hempty =>
    have htext : text = "" := by simpa using hempty
    rw [htext]
    rfl
  · rw [flatten_html, flatten_nil, List.append_nil]

/-- Joining texts keeps the sequence. -/
theorem flatten_joinHtml (before : String) (segments : List Segment) :
    flatten (joinHtml before segments) = chars before ++ flatten segments := by
  induction segments generalizing before with
  | nil => rw [joinHtml, flatten_htmlSegments, flatten_nil, List.append_nil]
  | cons s rest ih =>
    cases s with
    | html text => rw [joinHtml, ih, chars_append, flatten_html, List.append_assoc]
    | marker m =>
      rw [joinHtml, flatten_append, flatten_htmlSegments, flatten_marker, ih, chars_empty,
        List.nil_append, flatten_marker]

@[simp]
theorem flat_ofSegments (segments : List Segment) :
    (ofSegments segments).flat = flatten segments := by
  rw [flat_eq, ofSegments, flatten_joinHtml, chars_empty, List.nil_append]

/-- The segments that a sequence is written with; `before` is the text read so far. -/
def segmentsFrom (before : String) : List (Char ⊕ Marker) → List Segment
  | [] => htmlSegments before
  | .inl c :: rest => segmentsFrom (before.push c) rest
  | .inr m :: rest => htmlSegments before ++ .marker m :: segmentsFrom "" rest

theorem segmentsFrom_chars (before text : String) (rest : List (Char ⊕ Marker)) :
    segmentsFrom before (chars text ++ rest) = segmentsFrom (before ++ text) rest := by
  obtain ⟨cs, rfl⟩ : ∃ cs, text = String.ofList cs := ⟨text.toList, String.ofList_toList.symm⟩
  rw [chars, String.toList_ofList]
  induction cs generalizing before with
  | nil => rw [String.ofList_nil, String.append_empty]; rfl
  | cons c cs ih =>
    have hpush : before.push c ++ String.ofList cs = before ++ String.ofList (c :: cs) := by
      simp [String.ext_iff]
    rw [← hpush]
    exact ih (before.push c)

/-- What is joined depends on the sequence alone. -/
theorem joinHtml_eq_segmentsFrom (before : String) (segments : List Segment) :
    joinHtml before segments = segmentsFrom before (flatten segments) := by
  induction segments generalizing before with
  | nil => rfl
  | cons s rest ih =>
    cases s with
    | html text => rw [joinHtml, ih, flatten_html, segmentsFrom_chars]
    | marker m => rw [joinHtml, ih, flatten_marker, segmentsFrom]

/-- Two joined fragments with the same characters and markers are equal. -/
theorem eq_of_flat {f g : Fragment} (hf : f.IsJoined) (hg : g.IsJoined) (h : f.flat = g.flat) :
    f = g := by
  rw [← hf, ← hg, ofSegments, ofSegments, joinHtml_eq_segmentsFrom, joinHtml_eq_segmentsFrom,
    ← flat_eq, ← flat_eq, h]

/-- Every sequence is that of a joined fragment. -/
theorem exists_of_flat (sequence : List (Char ⊕ Marker)) : ∃ f : Fragment, f.IsJoined ∧
    f.flat = sequence := by
  let segment : Char ⊕ Marker → Segment := Sum.elim (fun c => .html (String.singleton c)) .marker
  refine ⟨ofSegments (sequence.map segment), isJoined_ofSegments _, ?_⟩
  rw [flat_ofSegments]
  induction sequence with
  | nil => rfl
  | cons x rest ih =>
    rw [List.map_cons]
    cases x with
    | inl c =>
      have hchars : chars (String.singleton c) = [.inl c] := by simp [chars]
      show flatten (.html (String.singleton c) :: _) = _
      rw [flatten_html, ih, hchars]
      rfl
    | inr m =>
      show flatten (.marker m :: _) = _
      rw [flatten_marker, ih]

/-! ## Joined fragments are canonical -/

theorem htmlSegments_of_ne {text : String} (h : text ≠ "") : htmlSegments text = [.html text] := by
  have hempty : text.isEmpty = false := by simpa using h
  rw [htmlSegments, hempty]
  rfl

theorem mem_htmlSegments {before text : String} (h : .html text ∈ htmlSegments before) :
    text ≠ "" := by
  by_cases hbefore : before = ""
  · rw [hbefore] at h
    cases h
  · rw [htmlSegments_of_ne hbefore, List.mem_singleton] at h
    cases h
    exact hbefore

theorem mem_joinHtml {before : String} {segments : List Segment} {text : String}
    (h : .html text ∈ joinHtml before segments) : text ≠ "" := by
  induction segments generalizing before with
  | nil => exact mem_htmlSegments h
  | cons s rest ih =>
    cases s with
    | html _ => exact ih h
    | marker m =>
      rw [joinHtml, List.mem_append, List.mem_cons] at h
      obtain h | h | h := h
      · exact mem_htmlSegments h
      · cases h
      · exact ih h

theorem isChain_joinHtml (before : String) (segments : List Segment) :
    (joinHtml before segments).IsChain Apart := by
  induction segments generalizing before with
  | nil =>
    rw [joinHtml]
    by_cases hbefore : before = ""
    · rw [hbefore]
      exact .nil
    · rw [htmlSegments_of_ne hbefore]
      exact .singleton _
  | cons s rest ih =>
    cases s with
    | html text => exact ih (before ++ text)
    | marker m =>
      -- The marker stands between the text before it and whatever comes after.
      have hafter : (.marker m :: joinHtml "" rest).IsChain Apart :=
        List.isChain_cons.2 ⟨fun _ _ h => h.1, ih ""⟩
      rw [joinHtml]
      by_cases hbefore : before = ""
      · rw [hbefore]
        exact hafter
      · rw [htmlSegments_of_ne hbefore]
        exact .cons_cons (fun h => h.2) hafter

theorem IsJoined.isCanonical {f : Fragment} (h : f.IsJoined) : f.IsCanonical := by
  rw [← h]
  exact ⟨fun _ => mem_joinHtml, isChain_joinHtml "" _⟩

theorem IsCanonical.isJoined {f : Fragment} (h : f.IsCanonical) : f.IsJoined := by
  obtain ⟨segments⟩ := f
  obtain ⟨hnonempty, hapart⟩ := h
  show ofSegments segments = _
  rw [ofSegments]
  congr 1
  simp only at hnonempty hapart
  induction segments with
  | nil => rfl
  | cons s rest ih =>
    have hrest := ih (fun text htext => hnonempty text (List.mem_cons_of_mem _ htext))
      hapart.tail
    cases s with
    | marker m =>
      rw [joinHtml, hrest]
      rfl
    | html text =>
      have htext := hnonempty text List.mem_cons_self
      -- What follows a text is the end or a marker, and neither adds to the text.
      cases rest with
      | nil => rw [joinHtml, joinHtml, String.empty_append, htmlSegments_of_ne htext]
      | cons t more =>
        cases t with
        | html other => exact absurd ⟨trivial, trivial⟩ (List.isChain_cons_cons.1 hapart).1
        | marker m =>
          rw [joinHtml] at hrest
          have hmore : joinHtml "" more = more := by
            simpa [htmlSegments] using hrest
          rw [joinHtml, String.empty_append, joinHtml, htmlSegments_of_ne htext, hmore]
          rfl

/-! ## Pushing -/

theorem flat_pushHtml (f : Fragment) (text : String) :
    (f.pushHtml text).flat = f.flat ++ chars text := by
  rw [pushHtml, flat_ofSegments, flatten_append, flatten_html, flatten_nil, List.append_nil, flat_eq]

theorem flat_pushMarker (f : Fragment) (m : Marker) :
    (f.pushMarker m).flat = f.flat ++ [.inr m] := by
  rw [pushMarker, flat_ofSegments, flatten_append, flatten_marker, flatten_nil, flat_eq]

theorem map_inl_prefix {cs text : List Char} {rest : List (Char ⊕ Marker)}
    (hrest : ∀ c, rest.head? ≠ some (.inl c)) (h : cs.map Sum.inl <+: text.map Sum.inl ++ rest) :
    cs <+: text := by
  induction cs generalizing text with
  | nil => exact List.nil_prefix
  | cons c cs ih =>
    cases text with
    | nil =>
      -- The text is used up, and what follows it is no character.
      obtain ⟨after, hafter⟩ := h
      rw [List.map_nil, List.nil_append] at hafter
      rw [← hafter] at hrest
      exact absurd rfl (hrest c)
    | cons d text =>
      rw [List.map_cons, List.map_cons, List.cons_append, List.cons_prefix_cons] at h
      obtain ⟨hc, h⟩ := h
      cases hc
      exact List.cons_prefix_cons.2 ⟨rfl, ih h⟩

theorem map_inl_suffix {cs text : List Char} {rest : List (Char ⊕ Marker)}
    (hrest : ∀ c, rest.getLast? ≠ some (.inl c))
    (h : cs.map Sum.inl <:+ rest ++ text.map Sum.inl) : cs <:+ text := by
  rw [← List.reverse_prefix, List.reverse_append, ← List.map_reverse, ← List.map_reverse] at h
  rw [← List.reverse_prefix]
  refine map_inl_prefix (fun c => ?_) h
  rw [List.head?_reverse]
  exact hrest c

theorem head?_flatten_ne {text : String} {rest : List Segment}
    (h : IsCanonical ⟨.html text :: rest⟩) (c : Char) : (flatten rest).head? ≠ some (.inl c) := by
  cases rest with
  | nil => simp
  | cons s more =>
    cases s with
    | html other => exact absurd ⟨trivial, trivial⟩ (List.isChain_cons_cons.1 h.apart).1
    | marker m => simp

theorem getLast?_flatten_ne {text : String} {before : List Segment}
    (h : IsCanonical ⟨before ++ [.html text]⟩) (c : Char) :
    (flatten before).getLast? ≠ some (.inl c) := by
  obtain rfl | ⟨more, s, rfl⟩ := List.eq_nil_or_concat' before
  · simp
  · cases s with
    | html other =>
      have hapart : ((more ++ [Segment.html other]) ++ [Segment.html text]).IsChain Apart :=
        h.apart
      rw [List.append_assoc] at hapart
      exact absurd ⟨trivial, trivial⟩ (List.isChain_pair.1 hapart.right_of_append)
    | marker m => simp

/-- What follows a text that a fragment starts with. -/
theorem dropStart?_eq_some {f g : Fragment} {start : String} (hf : f.IsCanonical)
    (hstart : start ≠ "") :
    f.dropStart? start = some g ↔ g.IsCanonical ∧ f.flat = chars start ++ g.flat := by
  constructor
  · intro h
    unfold dropStart? at h
    split at h
    · next text rest hsegments =>
      obtain ⟨left, hleft, rfl⟩ := Option.map_eq_some_iff.1 h
      rw [List.isPrefixOf?_eq_some_iff_append_eq] at hleft
      refine ⟨(isJoined_ofSegments _).isCanonical, ?_⟩
      rw [flat_eq, hsegments, flat_ofSegments, flatten_html, flatten_html, ← List.append_assoc,
        ← chars_append]
      have htext : text = start ++ String.ofList left := by
        rw [← String.toList_inj, String.toList_append, String.toList_ofList, hleft]
      rw [htext]
    · cases h
  · rintro ⟨hg, hflat⟩
    obtain ⟨segments⟩ := f
    -- The first segment holds the first character, so it is a text.
    obtain ⟨c, cs, hcs⟩ := List.exists_cons_of_ne_nil fun h => hstart (String.toList_eq_nil_iff.1 h)
    have hchars : chars start = .inl c :: cs.map .inl := by rw [chars, hcs, List.map_cons]
    rw [flat_eq, hchars, List.cons_append] at hflat
    cases segments with
    | nil => cases hflat
    | cons s rest =>
      cases s with
      | marker m => cases hflat
      | html text =>
        have hprefix : start.toList <+: text.toList := by
          refine map_inl_prefix (head?_flatten_ne hf) ⟨g.flat, ?_⟩
          rw [hcs]
          exact hflat.symm
        obtain ⟨left, hleft⟩ := hprefix
        have hsome := List.isPrefixOf?_eq_some_iff_append_eq.2 hleft
        have hdrop : dropStart? start ⟨.html text :: rest⟩ =
            some (ofSegments (.html (String.ofList left) :: rest)) := by
          unfold dropStart?
          simp only [hsome, Option.map_some]
        rw [hdrop]
        refine congrArg some (eq_of_flat (isJoined_ofSegments _) hg.isJoined ?_)
        -- Both are what the fragment has after the text.
        have htext : text = start ++ String.ofList left := by
          rw [← String.toList_inj, String.toList_append, String.toList_ofList, hleft]
        rw [flat_ofSegments, flatten_html]
        rw [flatten_html, htext, chars_append, hchars, List.append_assoc, List.cons_append] at hflat
        exact List.append_cancel_left (List.cons.inj hflat).2

/-- What comes before a text that a fragment ends with. -/
theorem dropEnd?_eq_some {f g : Fragment} {last : String} (hf : f.IsCanonical)
    (hlast : last ≠ "") :
    f.dropEnd? last = some g ↔ g.IsCanonical ∧ f.flat = g.flat ++ chars last := by
  constructor
  · intro h
    unfold dropEnd? at h
    split at h
    · next text hend =>
      obtain ⟨left, hleft, rfl⟩ := Option.map_eq_some_iff.1 h
      rw [List.isSuffixOf?_eq_some_iff_append_eq] at hleft
      obtain ⟨before, hsegments⟩ := List.getLast?_eq_some_iff.1 hend
      refine ⟨(isJoined_ofSegments _).isCanonical, ?_⟩
      have htext : text = String.ofList left ++ last := by
        rw [← String.toList_inj, String.toList_append, String.toList_ofList, hleft]
      rw [flat_eq, hsegments, List.dropLast_concat, flat_ofSegments]
      simp only [flatten_append, flatten_html, flatten_nil, List.append_nil, htext, chars_append,
        List.append_assoc]
    · cases h
  · rintro ⟨hg, hflat⟩
    obtain ⟨segments⟩ := f
    -- The last segment holds the last character, so it is a text.
    have hne : last.toList ≠ [] := fun h => hlast (String.toList_eq_nil_iff.1 h)
    obtain ⟨cs, c, hcs⟩ : ∃ cs c, last.toList = cs ++ [c] :=
      ⟨_, _, (List.dropLast_append_getLast hne).symm⟩
    have hchars : chars last = cs.map .inl ++ [.inl c] := by
      rw [chars, hcs, List.map_append, List.map_singleton]
    rw [flat_eq] at hflat
    obtain rfl | ⟨before, s, rfl⟩ := List.eq_nil_or_concat' segments
    · have hempty : chars last = [] := (List.append_eq_nil_iff.1 hflat.symm).2
      exact absurd (chars_eq_nil.1 hempty) hlast
    · rw [flatten_append] at hflat
      cases s with
      | marker m =>
        rw [flatten_marker, flatten_nil, hchars, ← List.append_assoc] at hflat
        have hends := List.append_inj_right' hflat rfl
        cases hends
      | html text =>
        have hsuffix : last.toList <:+ text.toList := by
          refine map_inl_suffix (getLast?_flatten_ne hf) ⟨g.flat, ?_⟩
          rw [flatten_html, flatten_nil, List.append_nil] at hflat
          exact hflat.symm
        obtain ⟨left, hleft⟩ := hsuffix
        have hsome := List.isSuffixOf?_eq_some_iff_append_eq.2 hleft
        have hdrop : dropEnd? last ⟨before ++ [.html text]⟩ =
            some (ofSegments (before ++ [.html (String.ofList left)])) := by
          unfold dropEnd?
          simp only [List.getLast?_concat, hsome, Option.map_some, List.dropLast_concat]
        rw [hdrop]
        refine congrArg some (eq_of_flat (isJoined_ofSegments _) hg.isJoined ?_)
        have htext : text = String.ofList left ++ last := by
          rw [← String.toList_inj, String.toList_append, String.toList_ofList, hleft]
        rw [flatten_html, flatten_nil, List.append_nil, htext, chars_append,
          ← List.append_assoc] at hflat
        rw [flat_ofSegments, flatten_append, flatten_html, flatten_nil, List.append_nil]
        exact List.append_cancel_right hflat

theorem isSome_dropStart? {f : Fragment} {start : String} (hf : f.IsCanonical)
    (hstart : start ≠ "") : (f.dropStart? start).isSome ↔ chars start <+: f.flat := by
  rw [Option.isSome_iff_exists]
  constructor
  · rintro ⟨g, hg⟩
    exact ⟨g.flat, ((dropStart?_eq_some hf hstart).1 hg).2.symm⟩
  · rintro ⟨rest, hrest⟩
    obtain ⟨g, hg, rfl⟩ := exists_of_flat rest
    exact ⟨g, (dropStart?_eq_some hf hstart).2 ⟨hg.isCanonical, hrest.symm⟩⟩

theorem isSome_dropEnd? {f : Fragment} {last : String} (hf : f.IsCanonical)
    (hlast : last ≠ "") : (f.dropEnd? last).isSome ↔ chars last <:+ f.flat := by
  rw [Option.isSome_iff_exists]
  constructor
  · rintro ⟨g, hg⟩
    exact ⟨g.flat, ((dropEnd?_eq_some hf hlast).1 hg).2.symm⟩
  · rintro ⟨before, hbefore⟩
    obtain ⟨g, hg, rfl⟩ := exists_of_flat before
    exact ⟨g, (dropEnd?_eq_some hf hlast).2 ⟨hg.isCanonical, hbefore.symm⟩⟩

/-! ## Markers and slots -/

section Filling

variable {ε σ : Type} {fill : Marker → ExceptT ε (StateM σ) (Option Fragment)}

variable (fill) in
/-- Some markers are asked for one after the other, each once, and all of them are answered. -/
inductive Asked : List Marker → σ → List (Option Fragment) → σ → Prop where
  | nil (s : σ) : Asked [] s [] s
  | cons {m : Marker} {rest : List Marker} {answer : Option Fragment}
    {answers : List (Option Fragment)} {s s₁ s₂ : σ} (hfirst : (fill m).run.run s = (.ok answer, s₁))
    (hrest : Asked rest s₁ answers s₂) : Asked (m :: rest) s (answer :: answers) s₂

/-- The sequence where each marker is replaced by its answer, or kept. -/
def fillFlat : List (Char ⊕ Marker) → List (Option Fragment) → List (Char ⊕ Marker)
  | [], _ => []
  | .inl c :: rest, answers => .inl c :: fillFlat rest answers
  | .inr m :: rest, [] => .inr m :: fillFlat rest []
  | .inr m :: rest, answer :: answers =>
    ((answer.map flat).getD [.inr m]) ++ fillFlat rest answers

theorem fillFlat_chars (text : String) (rest : List (Char ⊕ Marker))
    (answers : List (Option Fragment)) :
    fillFlat (chars text ++ rest) answers = chars text ++ fillFlat rest answers := by
  rw [chars]
  induction text.toList with
  | nil => rfl
  | cons c cs ih => exact congrArg (Sum.inl c :: ·) ih

/-- One step of a run, and what follows it. -/
theorem run_bind_eq {α β : Type} (x : ExceptT ε (StateM σ) α) (f : α → ExceptT ε (StateM σ) β)
    (s : σ) : (x >>= f).run.run s =
      match x.run.run s with
      | (.ok a, s₁) => (f a).run.run s₁
      | (.error e, s₁) => (.error e, s₁) := by
  have hrun : (x >>= f).run.run s
      = (ExceptT.bindCont f (x.run.run s).1).run (x.run.run s).2 := rfl
  rw [hrun]
  generalize x.run.run s = p
  obtain ⟨r, s₁⟩ := p
  cases r <;> rfl

/-- Filling asks for the markers in order until one fails. -/
theorem fillSegments_run (segments : List Segment) (s : σ) :
    (∃ answers s' out, Asked fill (segments.filterMap Segment.marker?) s answers s' ∧
      flatten out = fillFlat (flatten segments) answers ∧
      (fillSegments fill segments).run.run s = (.ok out, s')) ∨
    ∃ before m after answers s₁ e s', segments.filterMap Segment.marker? = before ++ m :: after ∧
      Asked fill before s answers s₁ ∧ (fill m).run.run s₁ = (.error e, s') ∧
      (fillSegments fill segments).run.run s = (.error e, s') := by
  induction segments generalizing s with
  | nil => exact .inl ⟨[], s, [], .nil s, rfl, rfl⟩
  | cons seg rest ih =>
    cases seg with
    | html text =>
      rw [fillSegments, run_bind_eq]
      obtain ⟨answers, s', out, hasked, hflat, hrun⟩ |
        ⟨before, m, after, answers, s₁, e, s', hmarkers, hasked, hm, hrun⟩ := ih s
      · refine .inl ⟨answers, s', .html text :: out, hasked, ?_, by rw [hrun]; rfl⟩
        rw [flatten_html, flatten_html, hflat, fillFlat_chars]
      · exact .inr ⟨before, m, after, answers, s₁, e, s', hmarkers, hasked, hm, by rw [hrun]⟩
    | marker m =>
      rw [fillSegments, run_bind_eq]
      cases hfirst : (fill m).run.run s with
      | mk result s₁ =>
        cases result with
        | error e =>
          -- The first marker fails, and nothing else is asked for.
          exact .inr ⟨[], m, rest.filterMap Segment.marker?, [], s, e, s₁, rfl, .nil s, hfirst, rfl⟩
        | ok answer =>
          obtain ⟨answers, s', out, hasked, hflat, hrun⟩ |
            ⟨before, m', after, answers, s₂, e, s', hmarkers, hasked, hm, hrun⟩ := ih s₁
          · refine .inl ⟨answer :: answers, s',
              (answer.map Fragment.segments).getD [.marker m] ++ out,
              .cons hfirst hasked, ?_, ?_⟩
            · rw [flatten_append, hflat, flatten_marker, fillFlat]
              cases answer <;> rfl
            · simp only [run_bind_eq, hrun]
              cases answer <;> rfl
          · refine .inr ⟨m :: before, m', after, answer :: answers, s₂, e, s', ?_,
              .cons hfirst hasked, hm, ?_⟩
            · rw [List.cons_append, ← hmarkers]
              rfl
            · simp only [run_bind_eq, hrun]

/-- Filling a fragment: either all markers are answered, or one fails and no later one is asked. -/
theorem substitute_run (f : Fragment) (s : σ) :
    (∃ answers s' g, Asked fill f.markers s answers s' ∧ g.IsCanonical ∧
      g.flat = fillFlat f.flat answers ∧ (f.substitute fill).run.run s = (.ok g, s')) ∨
    ∃ before m after answers s₁ e s', f.markers = before ++ m :: after ∧
      Asked fill before s answers s₁ ∧ (fill m).run.run s₁ = (.error e, s') ∧
      (f.substitute fill).run.run s = (.error e, s') := by
  obtain ⟨answers, s', out, hasked, hflat, hrun⟩ |
    ⟨before, m, after, answers, s₁, e, s', hmarkers, hasked, hm, hrun⟩ :=
      @fillSegments_run ε σ fill f.segments s
  · refine .inl ⟨answers, s', ofSegments out, hasked, (isJoined_ofSegments out).isCanonical, ?_, ?_⟩
    · rw [flat_ofSegments, hflat, flat_eq]
    · rw [substitute, run_bind_eq, hrun]
      rfl
  · refine .inr ⟨before, m, after, answers, s₁, e, s', hmarkers, hasked, hm, ?_⟩
    rw [substitute, run_bind_eq, hrun]

end Filling

/-! ## Fragments that can be made -/

/-- The fragments that reading and the operations make. -/
inductive Made : Fragment → Prop where
  | new : Made {}
  | ofHtml (text : String) : Made (ofHtml text)
  | extract (role : Role) (doc : Html.Document) : Made (Template.extract role doc).fragment
  | pushHtml {f : Fragment} (hf : Made f) (text : String) : Made (f.pushHtml text)
  | pushMarker {f : Fragment} (hf : Made f) (m : Marker) : Made (f.pushMarker m)
  | append {f g : Fragment} (hf : Made f) (hg : Made g) : Made (f ++ g)
  | dropStart {f g : Fragment} {start : String} (hf : Made f) (h : f.dropStart? start = some g) :
    Made g
  | dropEnd {f g : Fragment} {last : String} (hf : Made f) (h : f.dropEnd? last = some g) : Made g
  | replaceFirst {f g content : Fragment} {target : Marker} (hf : Made f) (hcontent : Made content)
    (h : f.replaceFirst? target content = some g) : Made g
  | withoutSlots {f : Fragment} (hf : Made f) : Made f.withoutSlots
  | substitute {ε σ : Type} {fill : Marker → ExceptT ε (StateM σ) (Option Fragment)}
    {f g : Fragment} {s s' : σ} (hf : Made f)
    (hfill : ∀ m s content s', (fill m).run.run s = (.ok (some content), s') → Made content)
    (h : (f.substitute fill).run.run s = (.ok g, s')) : Made g

theorem isJoined_dropStart? {f g : Fragment} {start : String} (h : f.dropStart? start = some g) :
    g.IsJoined := by
  unfold dropStart? at h
  split at h
  · obtain ⟨left, -, rfl⟩ := Option.map_eq_some_iff.1 h
    exact isJoined_ofSegments _
  · cases h

theorem isJoined_dropEnd? {f g : Fragment} {last : String} (h : f.dropEnd? last = some g) :
    g.IsJoined := by
  unfold dropEnd? at h
  split at h
  · obtain ⟨left, -, rfl⟩ := Option.map_eq_some_iff.1 h
    exact isJoined_ofSegments _
  · cases h

theorem Made.isCanonical {f : Fragment} (h : Made f) : f.IsCanonical := by
  cases h with
  | new => exact IsJoined.isCanonical rfl
  | ofHtml text => exact (isJoined_ofSegments _).isCanonical
  | extract role doc => exact (extract_isJoined role doc).isCanonical
  | pushHtml _ text => exact (isJoined_ofSegments _).isCanonical
  | pushMarker _ m => exact (isJoined_ofSegments _).isCanonical
  | append _ _ => exact (isJoined_ofSegments _).isCanonical
  | dropStart _ h => exact (isJoined_dropStart? h).isCanonical
  | dropEnd _ h => exact (isJoined_dropEnd? h).isCanonical
  | replaceFirst _ _ h =>
    obtain ⟨_, -, rfl⟩ := Option.map_eq_some_iff.1 h
    exact (isJoined_ofSegments _).isCanonical
  | withoutSlots _ => exact (isJoined_ofSegments _).isCanonical
  | @substitute ε σ fill f g s s' _ _ h =>
    obtain ⟨_, _, g', -, hg', -, hrun⟩ | ⟨_, _, _, _, _, _, _, -, -, -, hrun⟩ :=
      @substitute_run ε σ fill f s
    · rw [hrun] at h
      cases h
      exact hg'
    · rw [hrun] at h
      cases h

/-- A paragraph around the content of a page, with a second place for it. -/
def framed : Fragment :=
  (((ofHtml "<p>").pushMarker (.slot .page)).pushHtml "</p>").pushMarker (.slot .page)

end Fragment

end StaticSite.Template
