/-
  The walk that writes both views of a file.

  A file can be read in one walk over its tree that carries what it has written so far: the
  fragment with the HTML since its last marker, and beside it the descriptor with its own
  list of markers.  Every step adds to both, or leaves a whole subtree out of both.  Such a
  walk is a fold over the pieces of the tree, so it comes to the two views of these pieces
  (`Walker.run_eq`).
-/

import StaticSite.Proofs.Canonical

namespace StaticSite.Template

open Html (Tag Node Document)

/-- What a walk over a tree has written so far. -/
structure Walker where
  fragment : Fragment := {}
  /-- The HTML since the last marker. -/
  buffer : String := ""
  descriptor : Descriptor := {}
  notices : List Notice := []

namespace Walker

/-! ## The walk -/

def flush (w : Walker) : Walker :=
  { w with fragment := w.fragment.pushHtml w.buffer, buffer := "" }

def write (w : Walker) (text : String) : Walker := { w with buffer := w.buffer ++ text }

def tell (w : Walker) (notice : Notice) : Walker := { w with notices := w.notices ++ [notice] }

def overlay (w : Walker) (s : Settings) : Walker :=
  { w with descriptor := w.descriptor.overlay s }

section Role

variable (role : Role)

/-- A marker goes into the fragment, and on the list of the descriptor if the role keeps it. -/
def put (w : Walker) (m : Marker) : Walker :=
  { w.flush with
    fragment := w.flush.fragment.pushMarker m
    descriptor :=
      if role.keeps m then { w.descriptor with markers := w.descriptor.markers ++ [m] }
      else w.descriptor }

def configure (w : Walker) (tag : Tag) : Walker :=
  match tag.attr? settingsAttribute with
  | none => w
  | some json =>
    match Settings.parse json with
    | .ok s => w.overlay <| role.admit s
    | .error cause => w.tell (.malformedSettings cause)

/-- A marker element; what is in it is not walked. -/
def mark (w : Walker) (tag : Tag) : MarkerKind → Walker
  | .slot s => w.put role (.slot s)
  | .splice =>
    match tag.attr? "src" with
    | none | some "" => w.tell .referenceWithoutSrc
    | some src => w.put role (.splice { src, replace := tag.attr? replaceAttribute })

mutual

def node (raw : Bool) (w : Walker) : Node → Walker
  | .element tag children =>
    if tag.hasClass removalClass then w
    else
      match markerKind? tag with
      | some kind => (w.configure role tag).mark role tag kind
      | none =>
        (nodes tag.hasRawText
          ((w.configure role tag).write ((writtenTag tag).renderStart children)) children).write
            tag.renderEnd
  | .text text => w.write (Html.renderText raw text)
  | .comment text => w.write (Node.render raw (.comment text))
  | .doctype name => w.write (Node.render raw (.doctype name))

def nodes (raw : Bool) (w : Walker) : List Node → Walker
  | [] => w
  | n :: rest => nodes raw (node raw w n) rest

end

/-- Reads a file in one walk. -/
def run (doc : Document) : Extraction :=
  let w := (nodes role false {} doc.nodes).flush
  { fragment := w.fragment, descriptor := w.descriptor, notices := w.notices }

/-! ## The walk is a fold -/

/-- What a walk does at a piece. -/
def step (w : Walker) : Piece → Walker
  | .html text => w.write text
  | .marker m => w.put role m
  | .settings s => w.overlay <| role.admit s
  | .notice n => w.tell n

theorem configure_eq (w : Walker) (tag : Tag) :
    w.configure role tag = (settingsPieces tag).foldl (step role) w := by
  unfold configure settingsPieces
  cases tag.attr? settingsAttribute with
  | none => rfl
  | some json =>
    dsimp only
    cases Settings.parse json <;> rfl

theorem mark_eq (w : Walker) (tag : Tag) (kind : MarkerKind) :
    w.mark role tag kind = step role w (markerPiece tag kind) := by
  cases kind with
  | slot s => rfl
  | splice =>
    simp only [mark, markerPiece]
    split <;> simp_all [step]

mutual

theorem node_eq (raw : Bool) (w : Walker) (n : Node) :
    node role raw w n = (nodePieces raw n).foldl (step role) w := by
  match n with
  | .text _ | .comment _ | .doctype _ =>
    rw [node, nodePieces]
    rfl
  | .element tag children =>
    rw [node, nodePieces]
    split
    · rfl
    · -- The settings of an element are read before it is known what the element is.
      rw [List.foldl_append, ← configure_eq]
      cases markerKind? tag with
      | some kind => exact mark_eq role _ tag kind
      | none =>
        dsimp only
        rw [nodes_eq, List.foldl_append]
        rfl

theorem nodes_eq (raw : Bool) (w : Walker) (ns : List Node) :
    nodes role raw w ns = (nodesPieces raw ns).foldl (step role) w := by
  match ns with
  | [] => rw [nodes, nodesPieces, List.foldl_nil]
  | n :: rest => rw [nodes, nodesPieces, List.foldl_append, nodes_eq, node_eq]

end

/-! ## What the fold comes to -/

open Fragment (flatten flat_pushHtml flat_pushMarker flat_ofSegments isJoined_ofSegments eq_of_flat)

/-- A step adds the segment of its piece to what is written, if it has one. -/
theorem flat_step (w : Walker) (p : Piece) : (step role w p).flush.fragment.flat =
    w.flush.fragment.flat ++ flatten p.segment?.toList := by
  cases p with
  | html text => simp [step, write, flush, flat_pushHtml, Piece.segment?]
  | marker m => simp [step, put, flush, flat_pushHtml, flat_pushMarker, Piece.segment?]
  | settings s => simp [step, overlay, flush, Piece.segment?]
  | notice n => simp [step, tell, flush, Piece.segment?]

theorem flat_foldl (pieces : List Piece) (w : Walker) :
    (pieces.foldl (step role) w).flush.fragment.flat =
      w.flush.fragment.flat ++ flatten (pieces.filterMap Piece.segment?) := by
  induction pieces generalizing w with
  | nil => simp
  | cons p rest ih =>
    rw [List.foldl_cons, ih, flat_step, List.append_assoc, ← Fragment.flatten_append]
    cases p <;> rfl

theorem foldl_overlay_markers (settings : List Settings) (d : Descriptor) (markers : List Marker) :
    settings.foldl Descriptor.overlay { d with markers } =
      { settings.foldl Descriptor.overlay d with markers } := by
  induction settings generalizing d with
  | nil => rfl
  | cons s rest ih => exact ih (d.overlay s)

/-- A descriptor with the settings and the markers of some pieces added to it. -/
def described (d : Descriptor) (pieces : List Piece) : Descriptor :=
  { ((pieces.filterMap Piece.settings?).map role.admit).foldl Descriptor.overlay d with
    markers := d.markers ++ (pieces.filterMap Piece.marker?).filter role.keeps }

theorem descriptor_foldl (pieces : List Piece) (w : Walker) :
    (pieces.foldl (step role) w).descriptor = described role w.descriptor pieces := by
  induction pieces generalizing w with
  | nil =>
    rw [described, List.filterMap_nil, List.filterMap_nil, List.filter_nil, List.append_nil]
    rfl
  | cons p rest ih =>
    rw [List.foldl_cons, ih]
    cases p with
    | html text => rfl
    | notice n => rfl
    | settings s => rfl
    | marker m =>
      -- What is put on the list stands before all that follows, and no settings touch the list.
      have hmarkers : (Piece.marker m :: rest).filterMap Piece.marker? =
          m :: rest.filterMap Piece.marker? := rfl
      have hsettings : (Piece.marker m :: rest).filterMap Piece.settings? =
          rest.filterMap Piece.settings? := rfl
      by_cases hkeeps : role.keeps m
      · have hstep : (step role w (.marker m)).descriptor =
            { w.descriptor with markers := w.descriptor.markers ++ [m] } := if_pos hkeeps
        rw [hstep, described, described, hmarkers, hsettings, List.filter_cons_of_pos hkeeps,
          foldl_overlay_markers, List.append_assoc]
        rfl
      · have hstep : (step role w (.marker m)).descriptor = w.descriptor := if_neg hkeeps
        rw [hstep, described, described, hmarkers, hsettings, List.filter_cons_of_neg hkeeps]

theorem notices_foldl (pieces : List Piece) (w : Walker) :
    (pieces.foldl (step role) w).notices = w.notices ++ pieces.filterMap Piece.notice? := by
  induction pieces generalizing w with
  | nil => exact (List.append_nil _).symm
  | cons p rest ih =>
    rw [List.foldl_cons, ih]
    cases p with
    | notice n => exact List.append_assoc _ [n] _
    | _ => rfl

/-- The walk reads a file as its pieces do, in either role. -/
theorem run_eq (doc : Document) : run role doc = extract role doc := by
  have hfragment : (nodes role false {} doc.nodes).flush.fragment =
      .ofSegments ((documentPieces doc).filterMap Piece.segment?) := by
    -- Fragments without an empty or a split text are known by what they write.
    refine eq_of_flat (isJoined_ofSegments _) (isJoined_ofSegments _) ?_
    rw [nodes_eq, flat_foldl, flat_ofSegments]
    rfl
  have hdescriptor : (nodes role false {} doc.nodes).flush.descriptor =
      describe role (documentPieces doc) := by
    show (nodes role false {} doc.nodes).descriptor = _
    rw [nodes_eq, descriptor_foldl]
    rfl
  have hnotices : (nodes role false {} doc.nodes).flush.notices =
      (documentPieces doc).filterMap Piece.notice? := by
    show (nodes role false {} doc.nodes).notices = _
    rw [nodes_eq, notices_foldl]
    rfl
  rw [run, hfragment, hdescriptor, hnotices]
  rfl

end Role

end Walker

end StaticSite.Template
