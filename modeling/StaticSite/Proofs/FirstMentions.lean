/-
  The first mention of each place.

  A set of resources is filled by requests: one mention, or all mentions of a descriptor.
  What it holds can be told of the whole sequence of mentions: those of them whose place no
  earlier one has, in their order (`ofRequests_items`).  A ledger that looks up the places it
  has seen, in a table beside its items, stays in step with the set (`InStep.note`), and says
  of every mention whether its place is new.  Places of references are clean, so two of them
  are the same text exactly if they are the same place (`Location.same_ofReference`).
-/

import Mathlib
import StaticSite.AssetUrl
import StaticSite.Proofs.Components

namespace StaticSite

/-! ## Places of references -/

namespace Path

theorem current_not_mem_cleanComponents (p : Path) : .current ∉ cleanComponents p.components := by
  intro hmem
  cases habs : p.isAbsolute with
  | true =>
    obtain ⟨names, hnames, heq⟩ := cleanComponents_of_isAbsolute habs
    rw [heq] at hmem
    obtain h | h := List.mem_cons.1 hmem
    · cases h
    · exact (hnames _ h).2
  | false => exact isStep_cleanComponents habs _ hmem

/-- Clean paths with the same components are the same text. -/
theorem clean_same (p q : Path) : p.clean.same q.clean ↔ p.clean = q.clean := by
  rw [same, beq_iff_eq]
  refine ⟨fun h => ?_, fun h => by rw [h]⟩
  have hp := current_not_mem_cleanComponents p
  have hq := current_not_mem_cleanComponents q
  rw [components_clean, components_clean] at h
  unfold clean
  -- A path of which nothing is left is a dot, and no other clean path is.
  cases hcs : cleanComponents p.components with
  | nil =>
    cases hds : cleanComponents q.components with
    | nil => rfl
    | cons d ds =>
      have hdot : [.current] = d :: ds := by rwa [hcs, hds] at h
      rw [hds, ← hdot] at hq
      exact absurd (List.mem_singleton_self _) hq
  | cons c cs =>
    cases hds : cleanComponents q.components with
    | nil =>
      have hdot : c :: cs = [.current] := by rwa [hcs, hds] at h
      rw [hcs, hdot] at hp
      exact absurd (List.mem_singleton_self _) hp
    | cons d ds =>
      have hsame : c :: cs = d :: ds := by rwa [hcs, hds] at h
      exact congrArg ofComponents hsame

end Path

/-- Whether two locations are the same place: paths by their components, URLs by their text. -/
def Location.same : Location → Location → Bool
  | .file p, .file q => p.same q
  | .url s, .url t => s == t
  | _, _ => false

theorem exists_resolve_eq_clean (root base : Path) (reference : String) :
    ∃ p : Path, resolve root base reference = p.clean := by
  unfold resolve
  split <;> exact ⟨_, rfl⟩

/-- A location is a URL as it stands or a clean path. -/
def Location.IsClean : Location → Prop
  | .file path => ∃ p : Path, path = p.clean
  | .url _ => True

theorem Location.isClean_ofReference (root base : Path) (reference : String) :
    (Location.ofReference root base reference).IsClean := by
  unfold ofReference
  split
  · trivial
  · exact exists_resolve_eq_clean root base reference

theorem Location.IsClean.same_iff {a b : Location} (ha : a.IsClean) (hb : b.IsClean) :
    a.same b ↔ a = b := by
  cases a with
  | url s =>
    cases b with
    | url t => simp [same]
    | file q => simp [same]
  | file p =>
    cases b with
    | url t => simp [same]
    | file q =>
      obtain ⟨p, rfl⟩ := ha
      obtain ⟨q, rfl⟩ := hb
      rw [same, Path.clean_same, Location.file.injEq]

namespace ResourceSet

/-! ## Requests -/

/-- What is asked of a set. -/
inductive Request where
  | mention (root base : Path) (m : Mention)
  | descriptor (root base : Path) (d : Template.Descriptor)

/-- The resources of a request, in order. -/
def Request.resources : Request → List Resource
  | .mention root base m => [⟨m.kind, .ofReference root base m.reference⟩]
  | .descriptor root base d =>
    d.css.map (fun r => ⟨.styleSheet, .ofReference root base r⟩)
      ++ d.js.map (fun r => ⟨.ofScript r, .ofReference root base r⟩)
      ++ d.modules.map (fun r => ⟨.moduleScript, .ofReference root base r⟩)

def serve (set : ResourceSet) : Request → ResourceSet
  | .mention root base m => set.add root base m
  | .descriptor root base d => set.addAll root base d.mentions

/-- The set that some requests fill. -/
def ofRequests (requests : List Request) : ResourceSet := requests.foldl serve {}

/-- All resources that some requests mention, in order. -/
def mentioned (requests : List Request) : List Resource := requests.flatMap Request.resources

theorem addAll_eq (root base : Path) (set : ResourceSet) (ms : List Mention) :
    set.addAll root base ms = (ms.map (resourceOf root base)).foldl insert set := by
  rw [addAll, List.foldl_map]
  rfl

theorem serve_eq (set : ResourceSet) (request : Request) :
    set.serve request = request.resources.foldl insert set := by
  cases request with
  | mention root base m => rfl
  | descriptor root base d =>
    rw [serve, addAll_eq, Template.Descriptor.mentions, Request.resources, List.map_append,
      List.map_append, List.map_map, List.map_map, List.map_map]
    rfl

theorem ofRequests_eq (requests : List Request) :
    ofRequests requests = (mentioned requests).foldl insert {} := by
  have hserve (set : ResourceSet) :
      requests.foldl serve set = (mentioned requests).foldl insert set := by
    induction requests generalizing set with
    | nil => rfl
    | cons request rest ih =>
      rw [List.foldl_cons, ih, serve_eq, mentioned, mentioned, List.flatMap_cons, List.foldl_append]
  exact hserve {}

theorem isClean_of_mem_mentioned {requests : List Request} {r : Resource}
    (h : r ∈ mentioned requests) : r.location.IsClean := by
  obtain ⟨request, -, hr⟩ := List.mem_flatMap.1 h
  cases request with
  | mention root base m =>
    rw [List.mem_singleton.1 hr]
    exact Location.isClean_ofReference ..
  | descriptor root base d =>
    simp only [Request.resources, List.mem_append, List.mem_map] at hr
    obtain (⟨_, _, rfl⟩ | ⟨_, _, rfl⟩) | ⟨_, _, rfl⟩ := hr <;>
      exact Location.isClean_ofReference ..

/-! ## First mentions -/

theorem contains_iff {set : ResourceSet} {place : Location} :
    set.contains place ↔ place ∈ set.items.map (·.location) := by
  simp [contains, List.any_eq_true]

theorem contains_insert (set : ResourceSet) (r : Resource) (place : Location) :
    (set.insert r).contains place ↔ set.contains place ∨ r.location = place := by
  unfold insert
  split
  · next hknown =>
    constructor
    · exact .inl
    · rintro (h | rfl)
      · exact h
      · exact hknown
  · rw [contains_iff, contains_iff, List.map_append, List.mem_append, List.map_singleton,
      List.mem_singleton, @eq_comm _ place]

/-- Whether two resources have the same place. -/
def shared (r s : Resource) : Bool := r.location.same s.location

/-- A set grows by the first mention of each place that it does not have. -/
theorem foldl_insert_items (set : ResourceSet) {rs : List Resource}
    (hclean : ∀ r ∈ rs, r.location.IsClean) :
    (rs.foldl insert set).items =
      set.items ++ (rs.filter fun r => !set.contains r.location).eraseDupsBy shared := by
  induction rs generalizing set with
  | nil => simp
  | cons r rest ih =>
    have hrest : ∀ s ∈ rest, s.location.IsClean := fun s hs => hclean s (List.mem_cons_of_mem _ hs)
    rw [List.foldl_cons, ih _ hrest]
    by_cases hknown : set.contains r.location
    · rw [insert, if_pos hknown, List.filter_cons_of_neg (by simp [hknown])]
    · have hnew : (!set.contains r.location) = true := by simp [hknown]
      have hitems : (set.insert r).items = set.items ++ [r] := by rw [insert, if_neg hknown]
      -- Of the mentions that follow, those of the new place go too.
      have hlater (s : Resource) (hs : s ∈ rest) : (!(set.insert r).contains s.location) =
          (!shared s r && !set.contains s.location) := by
        have hsame := (hrest s hs).same_iff (hclean r List.mem_cons_self)
        have hgrown := contains_insert set r s.location
        rw [@eq_comm _ r.location, ← hsame] at hgrown
        rw [Bool.eq_iff_iff, Bool.and_eq_true, Bool.not_eq_true', Bool.not_eq_true',
          Bool.not_eq_true', ← Bool.not_eq_true, hgrown, not_or, and_comm, Bool.not_eq_true,
          Bool.not_eq_true]
        rfl
      rw [@List.filter_cons_of_pos _ (fun r => !set.contains r.location) r rest hnew,
        List.eraseDupsBy_cons, List.filter_filter, List.filter_congr hlater, hitems,
        List.append_assoc, List.singleton_append]
      simp only [Bool.decide_eq_false]

/-- A set holds the first mention of each place, in order. -/
theorem ofRequests_items (requests : List Request) :
    (ofRequests requests).items = (mentioned requests).eraseDupsBy shared := by
  have hall : (mentioned requests).filter (fun r => !contains {} r.location) =
      mentioned requests := List.filter_eq_self.2 fun _ _ => rfl
  rw [ofRequests_eq, foldl_insert_items {} fun r hr => isClean_of_mem_mentioned hr, hall]
  rfl

/-- How a set stands to the resources that were put into it. -/
structure Holds (set : ResourceSet) (rs : List Resource) : Prop where
  distinct : (set.items.map (·.location)).Nodup
  places (place : Location) : set.contains place ↔ ∃ r ∈ rs, r.location = place

theorem holds_empty : Holds {} [] := ⟨List.nodup_nil, fun _ => by simp [contains]⟩

theorem Holds.insert {set : ResourceSet} {rs : List Resource} (h : set.Holds rs) (r : Resource) :
    (set.insert r).Holds (rs ++ [r]) := by
  constructor
  · unfold ResourceSet.insert
    split
    · exact h.distinct
    · next hnew =>
      rw [List.map_append, List.map_singleton, List.nodup_append]
      refine ⟨h.distinct, List.nodup_singleton _, fun place hplace other hother => ?_⟩
      rw [List.mem_singleton.1 hother]
      rintro rfl
      exact hnew (contains_iff.2 hplace)
  · intro place
    rw [contains_insert, h.places]
    simp [or_and_right, exists_or]

theorem Holds.foldl {set : ResourceSet} {before : List Resource} (h : set.Holds before)
    (rs : List Resource) : (rs.foldl ResourceSet.insert set).Holds (before ++ rs) := by
  induction rs generalizing set before with
  | nil => rwa [List.append_nil]
  | cons r rest ih =>
    rw [List.foldl_cons, List.append_cons]
    exact ih (h.insert r)

theorem holds_ofRequests (requests : List Request) :
    (ofRequests requests).Holds (mentioned requests) := by
  rw [ofRequests_eq]
  exact holds_empty.foldl _

theorem isClean_of_mem_items {requests : List Request} {r : Resource}
    (h : r ∈ (ofRequests requests).items) : r.location.IsClean := by
  have hplace := contains_iff.2 (List.mem_map_of_mem h)
  obtain ⟨s, hs, heq⟩ := ((holds_ofRequests requests).places r.location).1 hplace
  exact heq ▸ isClean_of_mem_mentioned hs

/-- Resources whose places are there already change nothing. -/
theorem foldl_insert_of_contains {set : ResourceSet} {rs : List Resource}
    (h : ∀ r ∈ rs, set.contains r.location) : rs.foldl insert set = set := by
  induction rs with
  | nil => rfl
  | cons r rest ih =>
    have hsame : set.insert r = set := if_pos (h r List.mem_cons_self)
    rw [List.foldl_cons, hsame]
    exact ih fun s hs => h s (List.mem_cons_of_mem _ hs)

theorem serve_of_mem {requests : List Request} {request : Request} (h : request ∈ requests) :
    (ofRequests requests).serve request = ofRequests requests := by
  rw [serve_eq]
  exact foldl_insert_of_contains fun r hr =>
    ((holds_ofRequests requests).places _).2 ⟨r, List.mem_flatMap.2 ⟨request, h, hr⟩, rfl⟩

end ResourceSet

/-! ## A table of places -/

deriving instance Hashable for Path, Location

/-- Resources in order, with a table of their places beside them. -/
structure Roster where
  items : List Resource := []
  seen : Std.HashSet Location := {}

namespace Roster

open ResourceSet (Request resourceOf)

/-- Adds a resource if its place is not in the table; the result says whether it was added. -/
def note (roster : Roster) (r : Resource) : Bool × Roster :=
  match roster.seen.containsThenInsert r.location with
  | (true, seen) => (false, { roster with seen })
  | (false, seen) => (true, { items := roster.items ++ [r], seen })

def add (root base : Path) (roster : Roster) (m : Mention) : Bool × Roster :=
  roster.note (resourceOf root base m)

/-- Adds mentions of one kind, whatever comes of each. -/
def addEach (root base : Path) (kind : String → ResourceKind) (roster : Roster)
    (references : List String) : Roster :=
  references.foldl (fun roster r => (roster.add root base ⟨kind r, r⟩).2) roster

def serve (roster : Roster) : Request → Roster
  | .mention root base m => (roster.add root base m).2
  | .descriptor root base d =>
    let withStyle := roster.addEach root base (fun _ => .styleSheet) d.css
    let withScripts := withStyle.addEach root base .ofScript d.js
    withScripts.addEach root base (fun _ => .moduleScript) d.modules

/-- The roster that some requests fill. -/
def ofRequests (requests : List Request) : Roster := requests.foldl serve {}

/-- A roster and a set with the same items, and a table that knows their places. -/
structure InStep (roster : Roster) (set : ResourceSet) : Prop where
  items : roster.items = set.items
  seen (place : Location) : place ∈ roster.seen ↔ set.contains place

theorem inStep_empty : InStep {} {} := ⟨rfl, fun place => by simp [ResourceSet.contains]⟩

/-- A resource is added exactly if its place is new, and the table stays in step. -/
theorem InStep.note {roster : Roster} {set : ResourceSet} (h : roster.InStep set) (r : Resource) :
    (roster.note r).1 = !set.contains r.location ∧ (roster.note r).2.InStep (set.insert r) := by
  have hknown : roster.seen.contains r.location = set.contains r.location := by
    rw [Bool.eq_iff_iff]
    exact h.seen r.location
  have hseen (place : Location) :
      place ∈ roster.seen.insert r.location ↔ (set.insert r).contains place := by
    rw [Std.HashSet.mem_insert, ResourceSet.contains_insert, h.seen, beq_iff_eq, or_comm]
  have hsplit : roster.seen.containsThenInsert r.location =
      (set.contains r.location, roster.seen.insert r.location) := by
    rw [← hknown]
    exact Prod.ext Std.HashSet.containsThenInsert_fst Std.HashSet.containsThenInsert_snd
  unfold Roster.note
  rw [hsplit]
  cases hplace : set.contains r.location with
  | true => exact ⟨rfl, by rw [ResourceSet.insert, if_pos hplace, h.items], hseen⟩
  | false =>
    have hnew : ¬ set.contains r.location := by rw [hplace]; exact Bool.false_ne_true
    exact ⟨rfl, by rw [ResourceSet.insert, if_neg hnew, h.items], hseen⟩

theorem InStep.foldl {roster : Roster} {set : ResourceSet} (h : roster.InStep set)
    (rs : List Resource) : (rs.foldl (fun roster r => (roster.note r).2) roster).InStep
      (rs.foldl ResourceSet.insert set) := by
  induction rs generalizing roster set with
  | nil => exact h
  | cons r rest ih => exact ih (h.note r).2

theorem serve_eq (roster : Roster) (request : Request) :
    roster.serve request = request.resources.foldl (fun roster r => (roster.note r).2) roster := by
  cases request with
  | mention root base m => rfl
  | descriptor root base d =>
    rw [Request.resources, List.foldl_append, List.foldl_append, List.foldl_map, List.foldl_map,
      List.foldl_map]
    rfl

theorem InStep.serve {roster : Roster} {set : ResourceSet} (h : roster.InStep set)
    (request : Request) : (roster.serve request).InStep (set.serve request) := by
  rw [serve_eq, ResourceSet.serve_eq]
  exact h.foldl _

theorem inStep_ofRequests (requests : List Request) :
    (ofRequests requests).InStep (.ofRequests requests) := by
  have hserve {roster : Roster} {set : ResourceSet} (h : roster.InStep set) :
      (requests.foldl Roster.serve roster).InStep (requests.foldl ResourceSet.serve set) := by
    induction requests generalizing roster set with
    | nil => exact h
    | cons request rest ih => exact ih (h.serve request)
  exact hserve inStep_empty

end Roster

/-! ## Markup -/

namespace AssetUrls

theorem count_escape (url : String) : (escape url).toList.count '<' = 0 := by
  have hchar (c : Char) : '<' ∉ escapeChar c := by
    unfold escapeChar
    split_ifs with h₁ h₂ h₃ h₄
    · decide
    · decide
    · decide
    · decide
    · rw [List.mem_singleton]
      rintro rfl
      exact h₂ rfl
  rw [List.count_eq_zero, escape, String.toList_ofList, List.mem_flatMap]
  rintro ⟨c, -, hmem⟩
  exact hchar c hmem

/-- How many tags link a resource: a style sheet one, a script a start and an end tag. -/
def tagCount (kind : ResourceKind) : Nat := if kind == .styleSheet then 1 else 2

theorem count_linkTag (kind : ResourceKind) (url : String) :
    (linkTag kind url).toList.count '<' = tagCount kind := by
  have hquoted (before after : String) :
      (before ++ escape url ++ after).toList.count '<' =
        before.toList.count '<' + after.toList.count '<' := by
    rw [String.toList_append, String.toList_append, List.count_append, List.count_append,
      count_escape, Nat.add_zero]
  cases kind with
  | styleSheet => exact hquoted "<link rel=\"stylesheet\" href=\"" "\">"
  | script => exact hquoted "<script src=\"" "\"></script>"
  | moduleScript => exact hquoted "<script type=\"module\" src=\"" "\"></script>"

/-- Nothing between the tags starts a tag. -/
theorem count_markup (u : AssetUrls) (items : List Resource) :
    (u.markup items).toList.count '<' = (items.map fun r => tagCount r.kind).sum := by
  have hlines (tags : List String) :
      ("\n".intercalate tags).toList.count '<' = (tags.map (·.toList.count '<')).sum := by
    induction tags with
    | nil => rfl
    | cons tag rest ih =>
      cases rest with
      | nil => simp
      | cons next rest =>
        rw [String.intercalate_cons_cons, String.toList_append, String.toList_append,
          List.count_append, List.count_append, ih]
        simp
  rw [markup, hlines, List.map_map]
  exact congrArg List.sum (List.map_congr_left fun r _ => count_linkTag r.kind _)

theorem count_markup_filter (u : AssetUrls) (items : List Resource) {wanted : ResourceKind → Bool}
    {tags : Nat} (h : ∀ kind, wanted kind → tagCount kind = tags) :
    (u.markup (items.filter (wanted ·.kind))).toList.count '<' =
      tags * items.countP (wanted ·.kind) := by
  have hkinds : ∀ r ∈ items.filter (wanted ·.kind), tagCount r.kind = tags := fun r hr =>
    h r.kind (List.mem_filter.1 hr).2
  rw [count_markup, List.map_congr_left hkinds, List.map_const', List.sum_replicate, smul_eq_mul,
    List.countP_eq_length_filter, Nat.mul_comm]

end AssetUrls

/-! ## What requests come to -/

namespace ResourceSet

/-- What a set has become by some requests, and how it is linked. -/
structure Collected (requests : List Request) : Prop where
  /-- The items are the first mentions of their places, with the kinds of these mentions. -/
  items : (ofRequests requests).items = (mentioned requests).eraseDupsBy shared
  apart : (ofRequests requests).items.Pairwise fun r s => ¬ r.location.same s.location
  length : (ofRequests requests).items.length =
    ((mentioned requests).map (·.location)).toFinset.card
  /-- The items with a table of their places beside them are these items and their places. -/
  roster : (Roster.ofRequests requests).InStep (ofRequests requests)
  /-- A mention is added exactly if no mention before it has its place. -/
  added (root base : Path) (m : Mention) : ((Roster.ofRequests requests).add root base m).1 ↔
    ∀ r ∈ mentioned requests, ¬ (Location.ofReference root base m.reference).same r.location
  /-- What is not added is told as a duplicate, and nothing else is. -/
  told (root base : Path) (m : Mention) : (ofRequests requests).addNotices root base [m] =
    if ((Roster.ofRequests requests).add root base m).1 then []
    else [.duplicateResource m.reference]
  repeated (request : Request) : request ∈ requests →
    (ofRequests requests).serve request = ofRequests requests ∧
      ((Roster.ofRequests requests).serve request).InStep (ofRequests requests)
  styles (u : AssetUrls) : u.cssMarkup (ofRequests requests) = "\n".intercalate
    (((ofRequests requests).items.filter fun r => r.kind == .styleSheet).map
      fun r => AssetUrls.linkTag r.kind (u.urlFor r))
  scripts (u : AssetUrls) : u.jsMarkup (ofRequests requests) = "\n".intercalate
    (((ofRequests requests).items.filter fun r => r.kind != .styleSheet).map
      fun r => AssetUrls.linkTag r.kind (u.urlFor r))
  /-- Every item is linked in one of the two. -/
  linked : (((ofRequests requests).items.filter fun r => r.kind == .styleSheet)
    ++ (ofRequests requests).items.filter fun r => r.kind != .styleSheet).Perm
      (ofRequests requests).items
  /-- Whatever the URLs are, the tags are those of the items: a start tag for a style sheet, and
  a start and an end tag for a script. -/
  styleTags (u : AssetUrls) : (u.cssMarkup (ofRequests requests)).toList.count '<' =
    (ofRequests requests).items.countP fun r => r.kind == .styleSheet
  scriptTags (u : AssetUrls) : (u.jsMarkup (ofRequests requests)).toList.count '<' =
    2 * (ofRequests requests).items.countP fun r => r.kind != .styleSheet

/-- A set is what its requests mention, each place once, however the requests mix mentions and
descriptors, directories, kinds and spellings of a place. -/
theorem collected_ofRequests (requests : List Request) : Collected requests := by
  have hholds := holds_ofRequests requests
  have hstep := Roster.inStep_ofRequests requests
  constructor
  case items => exact ofRequests_items requests
  case apart =>
    have hdistinct := List.pairwise_map.1 hholds.distinct
    refine hdistinct.imp_of_mem fun {r s} hr hs hne hsame => hne ?_
    exact ((isClean_of_mem_items hr).same_iff (isClean_of_mem_items hs)).1 hsame
  case length =>
    have hplaces : ((ofRequests requests).items.map (·.location)).toFinset =
        ((mentioned requests).map (·.location)).toFinset := by
      ext place
      rw [List.mem_toFinset, List.mem_toFinset, ← contains_iff, hholds.places, List.mem_map]
    rw [← hplaces, List.toFinset_card_of_nodup hholds.distinct, List.length_map]
  case roster => exact hstep
  case added =>
    intro root base m
    have hnew := (hstep.note (resourceOf root base m)).1
    rw [Roster.add, hnew, Bool.not_eq_true', ← Bool.not_eq_true, hholds.places, not_exists]
    refine forall_congr' fun r => ?_
    rw [not_and]
    refine forall_congr' fun hr => not_congr ?_
    rw [(Location.isClean_ofReference ..).same_iff (isClean_of_mem_mentioned hr), eq_comm]
    rfl
  case told =>
    intro root base m
    have hnew := (hstep.note (resourceOf root base m)).1
    rw [Roster.add, hnew, addNotices, addNotices]
    cases (ofRequests requests).contains (resourceOf root base m).location <;> rfl
  case repeated =>
    intro request hmem
    have hserve := hstep.serve request
    rw [serve_of_mem hmem] at hserve
    exact ⟨serve_of_mem hmem, hserve⟩
  case styles => exact fun u => rfl
  case scripts => exact fun u => rfl
  case linked => exact List.filter_append_perm _ _
  case styleTags =>
    intro u
    have hone : ∀ kind : ResourceKind, kind == .styleSheet → AssetUrls.tagCount kind = 1 :=
      fun kind h => if_pos h
    rw [AssetUrls.cssMarkup, AssetUrls.count_markup_filter u _ hone, Nat.one_mul]
  case scriptTags =>
    intro u
    have htwo : ∀ kind : ResourceKind, kind != .styleSheet → AssetUrls.tagCount kind = 2 :=
      fun kind h => if_neg fun heq => bne_iff_ne.1 h (beq_iff_eq.1 heq)
    rw [AssetUrls.jsMarkup, AssetUrls.count_markup_filter u _ htwo]

end ResourceSet

end StaticSite
