/-
  The names in a document that was read.

  The reader takes a name up to where its tag goes on or ends, so none of the characters that
  end it is in it, whatever state the reader is in (`Reader.IsPlain`).  So all names in the
  document of a text are plain (`Document.parse_arePlain`).
-/

import StaticSite.Html.Reader
import StaticSite.Proofs.PlainNames

namespace StaticSite.Html

/-! ## Readers -/

/-- The name of an end tag names no element. -/
def TagDraft.isPlain (tag : TagDraft) : Bool := tag.isEnd || isPlainName tag.name

def Doctype.isPlain (d : Doctype) : Bool := d.name.all isPlainType

def RefPlace.isPlain : RefPlace → Bool
  | .value tag _ _ _ => tag.isPlain
  | _ => true

/-- Whether the names that were read so far are plain. -/
def State.isPlain : State → Bool
  | .charRef place _ => place.isPlain
  | .tagName tag | .beforeAttr tag | .attrName tag _ | .afterAttrName tag _
  | .beforeAttrValue tag _ | .attrValue tag _ _ _ | .afterAttrValue tag
  | .selfClosing tag => tag.isPlain
  | .doctypeName _ name => isPlainType name
  | .afterDoctypeName d _ | .beforeDoctypeId d _ | .doctypeId d _ _ _ | .afterDoctypeId d _
  | .bogusDoctype d => d.isPlain
  | _ => true

def Reader.IsPlain (r : Reader) : Prop := r.builder.IsPlain ∧ r.state.isPlain

/-- Reading a character of a name changes letters only. -/
theorem visible_toLower_ne {c d : Char} (hd : d = '/' ∨ d = '>') (h : (c == d) = false) :
    (Reader.visible c.toLower == d) = false := by
  rw [beq_eq_false_iff_ne] at h ⊢
  unfold Reader.visible
  split
  · rcases hd with rfl | rfl <;> decide
  · by_cases hupper : c.isUpper
    · -- A letter in lower case is none of the two.
      have hletter : c.toLower.isLower := by simp [Char.isAlpha, hupper]
      intro heq
      rw [heq] at hletter
      rcases hd with rfl | rfl <;> exact absurd hletter (by decide)
    · rwa [Char.toLower_eq_of_not_isUpper hupper]

@[simp]
theorem isPlainName_push (name : String) (c : Char) :
    isPlainName (name.push c) = (isPlainName name && (c != '/' && c != '>')) := by
  simp [isPlainName]

@[simp]
theorem isPlainType_push (name : String) (c : Char) :
    isPlainType (name.push c) = (isPlainType name && c != '>') := by
  simp [isPlainType]

@[simp]
theorem isPlain_draftPush (tag : TagDraft) (name value : String) :
    (tag.push name value).isPlain = tag.isPlain := by
  unfold TagDraft.push
  split <;> rfl

namespace Reader

variable {r : Reader}

@[simp]
theorem isPlain_goto (s : State) : (r.goto s).IsPlain ↔ r.builder.IsPlain ∧ s.isPlain := Iff.rfl

@[simp]
theorem builder_goto (s : State) : (r.goto s).builder = r.builder := rfl

@[simp]
theorem builder_noteDamage : r.noteDamage.builder.IsPlain ↔ r.builder.IsPlain := Iff.rfl

@[simp]
theorem builder_emitChar (h : r.builder.IsPlain) (c : Char) : (r.emitChar c).builder.IsPlain :=
  h.accept rfl

@[simp]
theorem builder_emitChars (h : r.builder.IsPlain) (cs : List Char) :
    (r.emitChars cs).builder.IsPlain := by
  unfold Reader.emitChars
  induction cs generalizing r with
  | nil => exact h
  | cons c rest ih => exact ih (builder_emitChar h c)

@[simp]
theorem state_emitChars (cs : List Char) : (r.emitChars cs).state = r.state := by
  unfold Reader.emitChars
  induction cs generalizing r with
  | nil => rfl
  | cons c rest ih => exact ih

theorem isPlain_withId {d : Doctype} (hd : d.isPlain) (isPublic : Bool) (id : String) :
    (withId d isPublic id).isPlain := by
  cases isPublic <;> exact hd

namespace IsPlain

variable (h : r.IsPlain)

include h

/-! ### Emitting -/

@[simp]
theorem emitChar (c : Char) : (r.emitChar c).IsPlain := ⟨builder_emitChar h.1 c, h.2⟩

@[simp]
theorem emitChars (cs : List Char) : (r.emitChars cs).IsPlain :=
  ⟨builder_emitChars h.1 cs, by rw [state_emitChars]; exact h.2⟩

@[simp]
theorem emitTag {tag : TagDraft} (htag : tag.isPlain) (selfClosing : Bool) :
    (r.emitTag tag selfClosing).IsPlain := by
  have hstate (raw : Option RawText) : (stateFor raw).isPlain := by
    cases raw with
    | none => rfl
    | some kind => cases kind <;> rfl
  unfold Reader.emitTag
  split
  · exact ⟨h.1.accept rfl, rfl⟩
  · next hstart =>
    have hname : isPlainName tag.name := by simpa [TagDraft.isPlain, hstart] using htag
    let start : StartTag := { name := tag.name, attrs := tag.attrs, selfClosing }
    exact ⟨h.1.accept (show (Token.startTag start).isPlain from hname), hstate _⟩

@[simp]
theorem emitComment (s : String) : (r.emitComment s).IsPlain := ⟨h.1.accept rfl, rfl⟩

@[simp]
theorem emitDoctype {d : Doctype} (hd : d.isPlain) : (r.emitDoctype d).IsPlain :=
  ⟨h.1.accept (show (Token.doctype d).isPlain from hd), rfl⟩

/-! ### Text -/

@[simp]
theorem data (c : Char) : (r.data c).IsPlain := by
  unfold Reader.data
  split_ifs <;> simp [h.1, State.isPlain, RefPlace.isPlain]

@[simp]
theorem escapable (c : Char) : (r.escapable c).IsPlain := by
  unfold Reader.escapable
  split_ifs <;> simp [h.1, State.isPlain, RefPlace.isPlain]

@[simp]
theorem raw (kind : RawState) (c : Char) : (r.raw kind c).IsPlain := by
  cases kind with
  | escapable => exact h.escapable c
  | _ =>
    unfold Reader.raw
    dsimp only
    split_ifs <;> simp [h.1, State.isPlain]

/-! ### Attributes -/

theorem attrValue {tag : TagDraft} (htag : tag.isPlain) (name value : String) (quoting : Quoting)
    (c : Char) : (r.attrValue tag name value quoting c).IsPlain := by
  cases quoting <;> unfold Reader.attrValue <;> dsimp only <;> split_ifs <;>
    simp [h, h.1, htag, State.isPlain, RefPlace.isPlain]

theorem putRef {place : RefPlace} (hplace : place.isPlain) (text : List Char) :
    (r.putRef text place).IsPlain := by
  cases place with
  | value tag name value quoting => exact ⟨h.1, hplace⟩
  | _ => simp [Reader.putRef, h.1, State.isPlain]

theorem readAt (place : RefPlace) (c : Char) : (r.readAt place c).IsPlain := by
  unfold Reader.readAt
  split
  · exact h.data c
  · exact h.escapable c
  · next tag name value quoting hstate =>
    have htag : tag.isPlain := by
      have hplain := h.2
      rw [hstate] at hplain
      exact hplain
    exact h.attrValue htag name value quoting c
  · exact h

theorem charRef {place : RefPlace} (hplace : place.isPlain) (ref : CharRef) (c : Char) :
    (r.charRef place ref c).IsPlain := by
  unfold Reader.charRef
  split
  · exact ⟨h.1, hplace⟩
  · next text again unclosed _ =>
    have hput : ((if unclosed then r.noteDamage else r).putRef text place).IsPlain := by
      split
      · exact putRef (r := r.noteDamage) h hplace text
      · exact h.putRef hplace text
    dsimp only
    split
    · exact hput.readAt place c
    · exact hput

@[simp]
theorem beforeAttr {tag : TagDraft} (htag : tag.isPlain) (c : Char) :
    (r.beforeAttr tag c).IsPlain := by
  unfold Reader.beforeAttr
  split_ifs <;> simp [h, h.1, htag, State.isPlain]

theorem tagName {tag : TagDraft} (htag : tag.isPlain) (c : Char) : (r.tagName tag c).IsPlain := by
  unfold Reader.tagName
  split_ifs with hblank hslash hend
  · exact ⟨h.1, htag⟩
  · exact ⟨h.1, htag⟩
  · exact h.emitTag htag false
  · refine ⟨h.1, ?_⟩
    have hread : (visible c.toLower == '/') = false ∧ (visible c.toLower == '>') = false :=
      ⟨visible_toLower_ne (.inl rfl) (by simpa using hslash),
        visible_toLower_ne (.inr rfl) (by simpa using hend)⟩
    show (tag.isEnd || isPlainName (tag.name.push (visible c.toLower))) = true
    rw [isPlainName_push, bne, bne, hread.1, hread.2]
    simpa [TagDraft.isPlain] using htag

theorem attrName {tag : TagDraft} (htag : tag.isPlain) (name : String) (c : Char) :
    (r.attrName tag name c).IsPlain := by
  unfold Reader.attrName
  split_ifs <;> simp [h, h.1, htag, State.isPlain]

theorem afterAttrName {tag : TagDraft} (htag : tag.isPlain) (name : String) (c : Char) :
    (r.afterAttrName tag name c).IsPlain := by
  unfold Reader.afterAttrName
  split_ifs <;> simp [h, h.1, htag, State.isPlain]

theorem beforeAttrValue {tag : TagDraft} (htag : tag.isPlain) (name : String) (c : Char) :
    (r.beforeAttrValue tag name c).IsPlain := by
  have hvalue := h.attrValue htag name "" .unquoted c
  unfold Reader.beforeAttrValue
  split_ifs <;> simp [h, h.1, htag, hvalue, State.isPlain]

theorem selfClosing {tag : TagDraft} (htag : tag.isPlain) (c : Char) :
    (r.selfClosing tag c).IsPlain := by
  unfold Reader.selfClosing
  split_ifs <;> simp [h, htag]

/-! ### Comments and declarations -/

@[simp]
theorem bogusComment (s : String) (c : Char) : (r.bogusComment s c).IsPlain := by
  unfold Reader.bogusComment
  split_ifs <;> simp [h, h.1, State.isPlain]

@[simp]
theorem comment (s : String) (c : Char) : (r.comment s c).IsPlain := by
  unfold Reader.comment
  split_ifs <;> simp [h.1, State.isPlain]

@[simp]
theorem bogusDoctype {d : Doctype} (hd : d.isPlain) (c : Char) : (r.bogusDoctype d c).IsPlain := by
  unfold Reader.bogusDoctype
  split_ifs <;> simp [h, h.1, hd, State.isPlain]

theorem beforeDoctypeName (c : Char) : (r.beforeDoctypeName c).IsPlain := by
  unfold Reader.beforeDoctypeName
  split_ifs with hblank hend
  · exact ⟨h.1, rfl⟩
  · exact h.emitDoctype rfl
  · have hread := @visible_toLower_ne c '>' (.inr rfl) (by simpa using hend)
    refine ⟨h.1, ?_⟩
    show isPlainType (String.singleton (visible c.toLower)) = true
    simp [isPlainType, bne, hread]

theorem doctypeName {name : String} (hname : isPlainType name) (d : Doctype) (c : Char) :
    (r.doctypeName d name c).IsPlain := by
  unfold Reader.doctypeName
  split_ifs with hblank hend
  · exact ⟨h.1, hname⟩
  · exact h.emitDoctype hname
  · have hread := @visible_toLower_ne c '>' (.inr rfl) (by simpa using hend)
    refine ⟨h.1, ?_⟩
    show isPlainType (name.push (visible c.toLower)) = true
    rw [isPlainType_push, bne, hread, hname]
    rfl

theorem afterDoctypeName {d : Doctype} (hd : d.isPlain) (seen : String) (c : Char) :
    (r.afterDoctypeName d seen c).IsPlain := by
  have hmalformed : { d with malformed := true }.isPlain := hd
  unfold Reader.afterDoctypeName
  dsimp only
  split_ifs <;> simp [h, h.1, hd, hmalformed, State.isPlain]

theorem beforeDoctypeId {d : Doctype} (hd : d.isPlain) (isPublic : Bool) (c : Char) :
    (r.beforeDoctypeId d isPublic c).IsPlain := by
  have hmalformed : { d with malformed := true }.isPlain := hd
  unfold Reader.beforeDoctypeId
  split_ifs <;> simp [h, h.1, hd, hmalformed, State.isPlain]

theorem doctypeId {d : Doctype} (hd : d.isPlain) (isPublic : Bool) (id : String) (quote c : Char) :
    (r.doctypeId d isPublic id quote c).IsPlain := by
  have hfilled := isPlain_withId hd isPublic id
  have hmalformed : { Reader.withId d isPublic id with malformed := true }.isPlain := hfilled
  unfold Reader.doctypeId
  split_ifs <;> simp [h, h.1, hd, hfilled, hmalformed, State.isPlain]

theorem afterDoctypeId {d : Doctype} (hd : d.isPlain) (isPublic : Bool) (c : Char) :
    (r.afterDoctypeId d isPublic c).IsPlain := by
  have hmalformed : { d with malformed := true }.isPlain := hd
  unfold Reader.afterDoctypeId
  split_ifs <;> simp [h, h.1, hd, hmalformed, State.isPlain]

theorem declaration (seen : String) (c : Char) : (r.declaration seen c).IsPlain := by
  unfold Reader.declaration
  dsimp only
  split_ifs <;> simp [h, h.1, State.isPlain]

/-! ### Markup and raw text -/

theorem tagOpen (c : Char) : (r.tagOpen c).IsPlain := by
  have hname (hletter : c.isAlpha) : isPlainName (String.singleton c.toLower) := by
    have hlower : c.toLower.isLower := by simpa using hletter
    have hne (d : Char) (hd : d.isLower = false) : c.toLower ≠ d := by
      rintro rfl
      simp [hd] at hlower
    simp [isPlainName, hne '/' (by decide), hne '>' (by decide)]
  unfold Reader.tagOpen
  split_ifs <;> simp_all [h.1, State.isPlain, TagDraft.isPlain]

theorem endTagOpen (c : Char) : (r.endTagOpen c).IsPlain := by
  unfold Reader.endTagOpen
  split_ifs <;> simp [h, h.1, State.isPlain, TagDraft.isPlain]

theorem rawLess (kind : RawState) (c : Char) : (r.rawLess kind c).IsPlain := by
  cases kind <;> unfold Reader.rawLess <;> dsimp only <;> split_ifs <;>
    simp [h, h.1, State.isPlain]

theorem rawEndOpen (kind : RawState) (c : Char) : (r.rawEndOpen kind c).IsPlain := by
  unfold Reader.rawEndOpen
  split_ifs <;> simp [h, h.1, State.isPlain]

theorem rawEndName (kind : RawState) (letters : String) (c : Char) :
    (r.rawEndName kind letters c).IsPlain := by
  unfold Reader.rawEndName
  dsimp only
  split_ifs <;> simp [h, h.1, State.isPlain, TagDraft.isPlain]

/-- What a reader of scripts or of literal text is in the middle of holds no name. -/
theorem escapes (c : Char) (double : Bool) (letters : String) :
    (r.escapeStart c).IsPlain ∧ (r.escapeStartDash c).IsPlain ∧ (r.escapedDash double c).IsPlain ∧
    (r.escapedDashDash double c).IsPlain ∧ (r.doubleEscapeStart letters c).IsPlain ∧
    (r.doubleEscapeEnd letters c).IsPlain := by
  unfold Reader.escapeStart Reader.escapeStartDash Reader.escapedDash Reader.escapedDashDash
    Reader.doubleEscapeStart Reader.doubleEscapeEnd
  refine ⟨?_, ?_, ?_, ?_, ?_, ?_⟩ <;> split_ifs <;> simp [h, h.1, State.isPlain]

theorem literal (c : Char) :
    (r.cdata c).IsPlain ∧ (r.cdataBracket c).IsPlain ∧ (r.cdataEnd c).IsPlain := by
  have hcdata {r : Reader} (h : r.IsPlain) : (r.cdata c).IsPlain := by
    unfold Reader.cdata
    split_ifs <;> simp [h.1, State.isPlain]
  refine ⟨hcdata h, ?_, ?_⟩
  · unfold Reader.cdataBracket
    split
    · exact ⟨h.1, rfl⟩
    · exact hcdata (h.emitChar _)
  · unfold Reader.cdataEnd
    split_ifs
    · exact h.emitChar _
    · exact ⟨h.1, rfl⟩
    · exact hcdata (h.emitChars _)

theorem comments (s : String) (c : Char) :
    (r.commentStart c).IsPlain ∧ (r.commentStartDash c).IsPlain ∧ (r.commentEndDash s c).IsPlain ∧
    (r.commentEnd s c).IsPlain ∧ (r.commentEndBang s c).IsPlain := by
  unfold Reader.commentStart Reader.commentStartDash Reader.commentEndDash Reader.commentEnd
    Reader.commentEndBang
  refine ⟨?_, ?_, ?_, ?_, ?_⟩ <;> split_ifs <;> simp [h, h.1, State.isPlain]

/-! ### All states -/

theorem read (c : Char) : (r.read c).IsPlain := by
  have hstate := h.2
  unfold Reader.read
  split <;> simp only [*] at hstate
  · exact h.data c
  · exact h.emitChar _
  · exact h.raw _ c
  · exact h.charRef hstate _ c
  · exact h.tagOpen c
  · exact h.endTagOpen c
  · exact h.tagName hstate c
  · exact h.rawLess _ c
  · exact h.rawEndOpen _ c
  · exact h.rawEndName _ _ c
  · exact (h.escapes c false "").1
  · exact (h.escapes c false "").2.1
  · exact (h.escapes c _ "").2.2.1
  · exact (h.escapes c _ "").2.2.2.1
  · exact (h.escapes c false _).2.2.2.2.1
  · exact (h.escapes c false _).2.2.2.2.2
  · exact h.beforeAttr hstate c
  · exact h.attrName hstate _ c
  · exact h.afterAttrName hstate _ c
  · exact h.beforeAttrValue hstate _ c
  · exact h.attrValue hstate _ _ _ c
  · exact h.beforeAttr hstate c
  · exact h.selfClosing hstate c
  · exact h.declaration _ c
  · exact h.bogusComment _ c
  · exact (h.comments "" c).1
  · exact (h.comments "" c).2.1
  · exact h.comment _ c
  · exact (h.comments _ c).2.2.1
  · exact (h.comments _ c).2.2.2.1
  · exact (h.comments _ c).2.2.2.2
  · exact h.beforeDoctypeName c
  · exact h.doctypeName hstate _ c
  · exact h.afterDoctypeName hstate _ c
  · exact h.beforeDoctypeId hstate _ c
  · exact h.doctypeId hstate _ _ _ c
  · exact h.afterDoctypeId hstate _ c
  · exact h.bogusDoctype hstate c
  · exact (h.literal c).1
  · exact (h.literal c).2.1
  · exact (h.literal c).2.2

theorem step (c : Char) : (r.step c).IsPlain := by
  unfold Reader.step
  split
  · have hbegun : { r with atChunkStart := false }.IsPlain := h
    dsimp only
    split
    · exact hbegun
    · exact hbegun.read c
  · exact h.read c

theorem run (cs : List Char) : (r.run cs).IsPlain := by
  unfold Reader.run
  induction cs generalizing r with
  | nil => exact h
  | cons c rest ih => exact ih (h.step c)

theorem flush : r.flush.IsPlain := by
  have hstate := h.2
  have hnoted (p : Bool) : (if p then r.noteDamage else r).IsPlain := by
    cases p <;> exact h
  have hcut (d : Doctype) (hd : d.isPlain) : (r.emitDoctype { d with malformed := true }).IsPlain :=
    h.emitDoctype hd
  unfold Reader.flush
  split <;> try simp only [*] at hstate
  · exact (hnoted _).emitChars _
  · exact (hnoted _).emitChars _
  · exact h.emitChar _
  · exact h.emitChars _
  · split
    · exact h
    · exact h.emitChar _
  · exact h.emitChars _
  · exact h.emitChars _
  · exact h.emitComment _
  · exact h.emitComment _
  · exact h.emitComment _
  · exact h.emitComment _
  · exact h.emitComment _
  · exact h.emitComment _
  · exact h.emitComment _
  · exact h.emitComment _
  · exact h.emitDoctype rfl
  · exact h.emitDoctype hstate
  · exact hcut _ hstate
  · exact hcut _ hstate
  · exact hcut _ (isPlain_withId hstate _ _)
  · exact hcut _ hstate
  · exact h.emitDoctype hstate
  · exact h.emitChar _
  · exact h.emitChars _
  · exact h

/-- All names in the document are plain. -/
theorem document : Node.arePlain r.document.nodes := by
  have hend : (r.flush.emit .eof).builder.IsPlain := h.flush.1.accept rfl
  exact Node.arePlain_of_forall fun n hn => by
    obtain ⟨id, -, hread⟩ := List.mem_filterMap.1 hn
    exact hend.1.node? _ hread

end IsPlain

end Reader

/-- Whatever a text is, all names in its document are plain. -/
theorem Document.parse_arePlain (html : String) : Node.arePlain (Document.parse html).nodes := by
  have hstart : ({} : Reader).IsPlain :=
    ⟨⟨by simp [Arena.IsPlain, Arena.empty, Content.isPlain], nofun⟩, rfl⟩
  exact (hstart.run _).document

end StaticSite.Html
