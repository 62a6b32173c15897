import DataJuicer.Annotation.SegmentMoves
import DataJuicer.Annotation.Traces

/-! # The segment state machine

The skip columns and the submitted revision of a segment follow its status, and its status
changes only along the state machine, as long as no skipped segment is submitted:
`submit_segment` is the one operation that does not look at the status of its segment.
-/

namespace DataJuicer.Annotation

open Transaction

/-- The columns of a segment agree with its status. -/
structure SegmentSound (w : Workflow) (s : SegmentRow) : Prop where
  skipped : s.status = .skipped ↔ s.skipRestoreStatus ≠ none
  columns : s.status ≠ .skipped → s.skipReasonCode = none ∧ s.skipNote = none ∧
    s.skipRestoreStatus = none ∧ s.skipRestoreSubmittedRevision = none
  unsubmitted : s.submittedRevision = none ↔
    s.status = SegmentStatus.pendingInitialAnnotation ∨ s.status = .draft ∨ s.status = .skipped
  revision : ∀ n, s.submittedRevision = some n →
    ∃ r ∈ w.revisions, r.segmentRef = s.segmentRef ∧ r.revisionNumber = n

structure RestoreSound (w : Workflow) (s : SegmentRow) : Prop where
  revision : ∀ n, s.skipRestoreSubmittedRevision = some n →
    ∃ r ∈ w.revisions, r.segmentRef = s.segmentRef ∧ r.revisionNumber = n
  undrafted : s.status = SegmentStatus.pendingInitialAnnotation ∨
    s.skipRestoreStatus = some SegmentStatus.pendingInitialAnnotation →
      ∀ d ∈ w.drafts, d.segmentRef ≠ s.segmentRef

/-- The statuses in which an annotator works on a segment. -/
def SegmentStatus.Initial (s : SegmentStatus) : Prop :=
  s = SegmentStatus.pendingInitialAnnotation ∨ s = .draft ∨ s = .submitted ∨ s = .skipped

structure SegmentsInvariant (w : Workflow) : Prop where
  sound : ∀ s ∈ w.segments, SegmentSound w s
  restore : ∀ s ∈ w.segments, RestoreSound w s
  drafted : ∀ d ∈ w.drafts, ∃ s ∈ w.segments, s.segmentRef = d.segmentRef
  waiting : ∀ j ∈ w.jobs, j.status = JobStatus.waitingInitialAnnotation →
    ∀ s ∈ w.segments, s.jobRef = j.jobRef → s.status.Initial
  first : ∀ s ∈ w.segments, ∃ s' ∈ w.segments, s'.jobRef = s.jobRef ∧ s'.ordinal = 1

theorem segmentsInvariant_initial : SegmentsInvariant Database.initial.toWorkflow :=
  ⟨fun _ h => absurd h (Table.not_mem_empty _), fun _ h => absurd h (Table.not_mem_empty _),
    fun _ h => absurd h (Table.not_mem_empty _), fun _ h => absurd h (Table.not_mem_empty _),
    fun _ h => absurd h (Table.not_mem_empty _)⟩

/-- The steps that a status takes and the revisions that stay. -/
structure SegmentsFollow (w w' : Workflow) : Prop where
  step : ∀ s ∈ w.segments, ∃ s' ∈ w'.segments, s'.segmentRef = s.segmentRef ∧
    StatusStep s s'.status
  immutable : ∀ r ∈ w.revisions, r ∈ w'.revisions

section Rows

variable {w w' : Workflow} {s s' : SegmentRow}

structure SameColumns (s s' : SegmentRow) : Prop where
  ref : s'.segmentRef = s.segmentRef
  job : s'.jobRef = s.jobRef
  ordinal : s'.ordinal = s.ordinal
  submitted : s'.submittedRevision = s.submittedRevision
  reason : s'.skipReasonCode = s.skipReasonCode
  note : s'.skipNote = s.skipNote
  restore : s'.skipRestoreStatus = s.skipRestoreStatus
  restoreRevision : s'.skipRestoreSubmittedRevision = s.skipRestoreSubmittedRevision

theorem SegmentSound.of_worked (h : SegmentSound w s) (hs : s.status.Worked)
    (hs' : s'.status.Worked) (hc : SameColumns s s') (hrev : w'.revisions = w.revisions) :
    SegmentSound w' s' := by
  obtain ⟨hpending, hdraft, hskipped⟩ := hs
  obtain ⟨hpending', hdraft', hskipped'⟩ := hs'
  obtain ⟨hreason, hnote, hrestore, hrestoreRev⟩ := h.columns hskipped
  constructor
  · rw [hc.restore, hrestore]
    simp [hskipped']
  · intro _
    rw [hc.reason, hc.note, hc.restore, hc.restoreRevision]
    exact ⟨hreason, hnote, hrestore, hrestoreRev⟩
  · rw [hc.submitted, h.unsubmitted]
    simp [hpending, hdraft, hskipped, hpending', hdraft', hskipped']
  · rw [hc.submitted, hc.ref, hrev]
    exact h.revision

theorem SegmentSound.mono (h : SegmentSound w s) (hrev : ∀ r ∈ w.revisions, r ∈ w'.revisions) :
    SegmentSound w' s :=
  ⟨h.skipped, h.columns, h.unsubmitted, fun n hn => by
    obtain ⟨r, hr, hrn⟩ := h.revision n hn
    exact ⟨r, hrev r hr, hrn⟩⟩

theorem RestoreSound.of_worked (h : RestoreSound w s) (hs' : s'.status.Worked)
    (hc : SameColumns s s') (hrev : w'.revisions = w.revisions) (hdrafts : w'.drafts = w.drafts) :
    RestoreSound w' s' := by
  constructor
  · rw [hc.restoreRevision, hc.ref, hrev]
    exact h.revision
  · rw [hc.restore, hc.ref, hdrafts]
    rintro (hpending | hrestore)
    · exact absurd hpending hs'.1
    · exact h.undrafted (.inr hrestore)

end Rows

section SetSegment

variable {now : Timestamp} {w w' : Workflow} {f : SegmentRow → SegmentRow} {ref : String}

/-- The segments of `w'` are those of `w` after a write to one of them. -/
def WritesSegment (ref : String) (f : SegmentRow → SegmentRow) (w w' : Workflow) : Prop :=
  w'.segments.rows = w.segments.rows.map fun s => if s.segmentRef = ref then f s else s

theorem WritesSegment.cases {s' : SegmentRow} (h : WritesSegment ref f w w')
    (hs : s' ∈ w'.segments) :
    s' ∈ w.segments ∧ s'.segmentRef ≠ ref ∨ ∃ s ∈ w.segments, s.segmentRef = ref ∧ s' = f s :=
  Table.mem_of_rows_map h hs

theorem WritesSegment.mem {s : SegmentRow} (h : WritesSegment ref f w w') (hs : s ∈ w.segments) :
    (if s.segmentRef = ref then f s else s) ∈ w'.segments := by
  unfold WritesSegment at h
  have hmem := Table.mem_of_map_mem h hs
  exact hmem

theorem SegmentsInvariant.write {jobRef : String} {s₀ : SegmentRow} (h : SegmentsInvariant w)
    (hseg : WaitingSegment w jobRef ref s₀) (hwrite : WritesSegment ref f w w')
    (hrefs : ∀ s, (f s).segmentRef = s.segmentRef ∧ (f s).jobRef = s.jobRef ∧
      (f s).ordinal = s.ordinal)
    (hjobs : WaitingKept w w') (hrev : ∀ r ∈ w.revisions, r ∈ w'.revisions)
    (hdrafts : ∀ d ∈ w'.drafts, d ∈ w.drafts ∨ d.segmentRef = ref)
    (hsound : SegmentSound w' (f s₀)) (hrestore : RestoreSound w' (f s₀))
    (hinitial : (f s₀).status.Initial) : SegmentsInvariant w' := by
  have honly : ∀ s ∈ w.segments, s.segmentRef = ref → s = s₀ := fun s hs href =>
    Table.eq_of_key hs hseg.mem (href.trans hseg.ref.symm)
  constructor
  · intro s' hs'
    rcases hwrite.cases hs' with ⟨hs, -⟩ | ⟨s, hs, href, rfl⟩
    · exact (h.sound s' hs).mono hrev
    · exact honly s hs href ▸ hsound
  · intro s' hs'
    rcases hwrite.cases hs' with ⟨hs, hne⟩ | ⟨s, hs, href, rfl⟩
    · refine ⟨fun n hn => ?_, fun hpending d hd hof => ?_⟩
      · obtain ⟨r, hr, hrn⟩ := (h.restore s' hs).revision n hn
        exact ⟨r, hrev r hr, hrn⟩
      · rcases hdrafts d hd with hold | hnew
        · exact (h.restore s' hs).undrafted hpending d hold hof
        · exact hne (hof.symm.trans hnew)
    · exact honly s hs href ▸ hrestore
  · intro d hd
    have hex : ∃ s ∈ w.segments, s.segmentRef = d.segmentRef := by
      rcases hdrafts d hd with hold | hnew
      · exact h.drafted d hold
      · exact ⟨s₀, hseg.mem, hseg.ref.trans hnew.symm⟩
    obtain ⟨s, hs, hsRef⟩ := hex
    refine ⟨_, hwrite.mem hs, ?_⟩
    split
    · exact (hrefs s).1.trans hsRef
    · exact hsRef
  · intro j' hj' hwait s' hs' hof
    obtain ⟨j, hj, hjRef, hjWait⟩ := hjobs j' hj' hwait
    rcases hwrite.cases hs' with ⟨hs, -⟩ | ⟨s, hs, href, rfl⟩
    · exact h.waiting j hj hjWait s' hs (hof.trans hjRef.symm)
    · exact honly s hs href ▸ hinitial
  · intro s' hs'
    have hex : ∃ s ∈ w.segments, s.jobRef = s'.jobRef := by
      rcases hwrite.cases hs' with ⟨hs, -⟩ | ⟨s, hs, -, rfl⟩
      · exact ⟨s', hs, rfl⟩
      · exact ⟨s, hs, (hrefs s).2.1.symm⟩
    obtain ⟨s, hs, hsJob⟩ := hex
    obtain ⟨s₁, hs₁, hjob, hfirst⟩ := h.first s hs
    refine ⟨_, hwrite.mem hs₁, ?_⟩
    split
    · exact ⟨(hrefs s₁).2.1.trans (hjob.trans hsJob), (hrefs s₁).2.2.trans hfirst⟩
    · exact ⟨hjob.trans hsJob, hfirst⟩

theorem SegmentsFollow.write {jobRef : String} {s₀ : SegmentRow}
    (hseg : WaitingSegment w jobRef ref s₀) (hwrite : WritesSegment ref f w w')
    (hrefs : ∀ s, (f s).segmentRef = s.segmentRef)
    (hrev : ∀ r ∈ w.revisions, r ∈ w'.revisions) (hstep : StatusStep s₀ (f s₀).status) :
    SegmentsFollow w w' := by
  refine ⟨fun s hs => ⟨_, hwrite.mem hs, ?_⟩, hrev⟩
  split
  next href =>
    obtain rfl : s = s₀ := Table.eq_of_key hs hseg.mem (href.trans hseg.ref.symm)
    exact ⟨hrefs s, hstep⟩
  next => exact ⟨rfl, .inl rfl⟩

end SetSegment

/-- A segment as `complete_prepare` inserts it. -/
structure NewSegment (jobRef : String) (s : SegmentRow) : Prop where
  job : s.jobRef = jobRef
  status : s.status = SegmentStatus.pendingInitialAnnotation
  submitted : s.submittedRevision = none
  columns : s.skipReasonCode = none ∧ s.skipNote = none ∧ s.skipRestoreStatus = none ∧
    s.skipRestoreSubmittedRevision = none

/-- The loop keeps the rows and adds new ones; the first takes its ordinal. -/
theorem insertSegments_ok {now : Timestamp} {jobRef : String} {segmentRef : ℕ → String}
    {items : List PreparedSegment} {n : ℕ} {t t' : Table SegmentRow}
    (h : insertSegments now jobRef segmentRef n items t = .ok t') :
    (∀ s ∈ t, s ∈ t') ∧
      (∀ s' ∈ t', s' ∈ t ∨ NewSegment jobRef s' ∧ ∀ s ∈ t, s.segmentRef ≠ s'.segmentRef) ∧
        (items ≠ [] → (∃ s' ∈ t', s'.jobRef = jobRef ∧ s'.ordinal = n) ∧
          ∀ s ∈ t, s.jobRef = jobRef → s.ordinal ≠ n) := by
  induction items generalizing n t with
  | nil =>
    obtain rfl := Except.ok.inj h
    exact ⟨fun _ hs => hs, fun _ hs => .inl hs, fun hne => absurd rfl hne⟩
  | cons item rest ih =>
    obtain ⟨t₁, hone, h⟩ := bind_eq_ok.1 h
    obtain ⟨_, hunique, hone⟩ := bind_eq_ok.1 hone
    have hinsert := orRaise_eq_ok.1 hone
    have hunique := raiseIf_eq_ok.1 hunique
    obtain ⟨hkeep, hnew, -⟩ := ih h
    have hmem : item.row now jobRef (segmentRef n) n ∈ t₁ :=
      (Table.mem_insert? hinsert).2 (.inr rfl)
    have hold : ∀ s ∈ t, s ∈ t₁ := fun s hs => (Table.mem_insert? hinsert).2 (.inl hs)
    refine ⟨fun s hs => hkeep s (hold s hs), fun s' hs' => ?_, fun _ => ⟨?_, fun s hs hof hn => ?_⟩⟩
    · rcases hnew s' hs' with hs' | ⟨hnew, hfresh⟩
      · rcases (Table.mem_insert? hinsert).1 hs' with hs' | rfl
        · exact .inl hs'
        · refine .inr ⟨⟨rfl, rfl, rfl, rfl, rfl, rfl, rfl⟩, ?_⟩
          exact Table.insert?_fresh hinsert
      · exact .inr ⟨hnew, fun s hs => hfresh s (hold s hs)⟩
    · exact ⟨_, hkeep _ hmem, rfl, rfl⟩
    · exact hunique ⟨s, hs, hof, .inl hn⟩

def NotSkipped (w : Workflow) (a : Change) : Prop :=
  ∀ ref, a = .submit ref → ∀ s ∈ w.segments, s.segmentRef = ref → s.status ≠ .skipped

section Step

variable {now : Timestamp} {w w' : Workflow} {a : Change}

theorem SegmentsInvariant.still (h : SegmentsInvariant w) (hsegments : w'.segments = w.segments)
    (hdrafts : w'.drafts = w.drafts) (hrev : w'.revisions = w.revisions)
    (hwait : WaitingKept w w') : SegmentsInvariant w' := by
  constructor
  · intro s hs
    exact (h.sound s (hsegments ▸ hs)).mono fun r hr => hrev ▸ hr
  · intro s hs
    obtain ⟨hrevision, hundrafted⟩ := h.restore s (hsegments ▸ hs)
    exact ⟨hrev ▸ hrevision, hdrafts ▸ hundrafted⟩
  · rw [hdrafts, hsegments]
    exact h.drafted
  · intro j' hj' hjWait s hs hof
    obtain ⟨j, hj, hjRef, hjWait⟩ := hwait j' hj' hjWait
    exact h.waiting j hj hjWait s (hsegments ▸ hs) (hof.trans hjRef.symm)
  · rw [hsegments]
    exact h.first

theorem SegmentsInvariant.moved {jobRef : String} {pre : SegmentStatus → Prop} [DecidablePred pre]
    {status : SegmentStatus} (h : SegmentsInvariant w)
    (hsegments : w'.segments = (w.moveSegments now jobRef pre status).segments)
    (hdrafts : w'.drafts = w.drafts) (hrev : w'.revisions = w.revisions)
    (hwait : WaitingKept w w') (hleft : NotWaiting jobRef w') (hworked : ∀ x, pre x → x.Worked)
    (hbecomes : status.Worked) : SegmentsInvariant w' := by
  have hcases : ∀ s' ∈ w'.segments, s' ∈ w.segments ∧ ¬ (s'.jobRef = jobRef ∧ pre s'.status) ∨
      ∃ s ∈ w.segments, (s.jobRef = jobRef ∧ pre s.status) ∧ s' =
        { s with status, stateRevision := s.stateRevision + 1, updatedAt := now } := by
    intro s' hs'
    exact Table.mem_of_rows_map (congrArg Table.rows hsegments) hs'
  have hmem : ∀ s ∈ w.segments, ∃ s' ∈ w'.segments, s'.segmentRef = s.segmentRef ∧
      s'.jobRef = s.jobRef ∧ s'.ordinal = s.ordinal := by
    intro s hs
    refine ⟨_, Table.mem_of_map_mem (congrArg Table.rows hsegments) hs, ?_⟩
    split <;> exact ⟨rfl, rfl, rfl⟩
  constructor
  · intro s' hs'
    rcases hcases s' hs' with ⟨hs, -⟩ | ⟨s, hs, ⟨-, hpre⟩, rfl⟩
    · exact (h.sound s' hs).mono fun r hr => hrev ▸ hr
    · exact (h.sound s hs).of_worked (hworked _ hpre) hbecomes
        ⟨rfl, rfl, rfl, rfl, rfl, rfl, rfl, rfl⟩ hrev
  · intro s' hs'
    rcases hcases s' hs' with ⟨hs, -⟩ | ⟨s, hs, -, rfl⟩
    · obtain ⟨hrevision, hundrafted⟩ := h.restore s' hs
      exact ⟨hrev ▸ hrevision, hdrafts ▸ hundrafted⟩
    · exact (h.restore s hs).of_worked hbecomes
        ⟨rfl, rfl, rfl, rfl, rfl, rfl, rfl, rfl⟩ hrev hdrafts
  · intro d hd
    obtain ⟨s, hs, href⟩ := h.drafted d (hdrafts ▸ hd)
    obtain ⟨s', hs', href', -⟩ := hmem s hs
    exact ⟨s', hs', href'.trans href⟩
  · intro j' hj' hjWait s' hs' hof
    obtain ⟨j, hj, hjRef, hjWait'⟩ := hwait j' hj' hjWait
    rcases hcases s' hs' with ⟨hs, -⟩ | ⟨s, -, ⟨hsJob, -⟩, rfl⟩
    · exact h.waiting j hj hjWait' s' hs (hof.trans hjRef.symm)
    · exact absurd hjWait (hleft j' hj' (hof.symm.trans hsJob))
  · intro s' hs'
    obtain ⟨s, hs, hjob⟩ : ∃ s ∈ w.segments, s.jobRef = s'.jobRef := by
      rcases hcases s' hs' with ⟨hs, -⟩ | ⟨s, hs, -, rfl⟩
      · exact ⟨s', hs, rfl⟩
      · exact ⟨s, hs, rfl⟩
    obtain ⟨s₁, hs₁, hjob₁, hfirst⟩ := h.first s hs
    obtain ⟨s₁', hs₁', -, hjob₁', hordinal⟩ := hmem s₁ hs₁
    exact ⟨s₁', hs₁', hjob₁'.trans (hjob₁.trans hjob), hordinal.trans hfirst⟩

theorem SegmentsInvariant.inserted {jobRef : String} {items : List PreparedSegment}
    {segmentRef : ℕ → String} (h : SegmentsInvariant w) (hnonempty : items ≠ [])
    (hinsert : insertSegments now jobRef segmentRef 1 items w.segments = .ok w'.segments)
    (hdrafts : w'.drafts = w.drafts) (hrev : w'.revisions = w.revisions)
    (hwait : ∀ j' ∈ w'.jobs, j'.status = JobStatus.waitingInitialAnnotation → j'.jobRef ≠ jobRef →
      ∃ j ∈ w.jobs, j.jobRef = j'.jobRef ∧ j.status = JobStatus.waitingInitialAnnotation) :
    SegmentsInvariant w' := by
  obtain ⟨hkeep, hnew, hfirst⟩ := insertSegments_ok hinsert
  obtain ⟨⟨s₁, hs₁, hjob₁, hordinal₁⟩, hnone⟩ := hfirst hnonempty
  have hempty : ∀ s ∈ w.segments, s.jobRef ≠ jobRef := by
    intro s hs hof
    obtain ⟨s', hs', hjob, hordinal⟩ := h.first s hs
    exact hnone s' hs' (hjob.trans hof) hordinal
  constructor
  · intro s' hs'
    rcases hnew s' hs' with hs | ⟨⟨-, hstatus, hsubmitted, hcolumns⟩, -⟩
    · exact (h.sound s' hs).mono fun r hr => hrev ▸ hr
    · refine ⟨?_, fun _ => hcolumns, ?_, ?_⟩
      · simp [hstatus, hcolumns.2.2.1]
      · simp [hstatus, hsubmitted]
      · simp [hsubmitted]
  · intro s' hs'
    rcases hnew s' hs' with hs | ⟨⟨-, -, -, hcolumns⟩, hfresh⟩
    · obtain ⟨hrevision, hundrafted⟩ := h.restore s' hs
      exact ⟨hrev ▸ hrevision, hdrafts ▸ hundrafted⟩
    · refine ⟨by simp [hcolumns.2.2.2], fun _ d hd hof => ?_⟩
      obtain ⟨s, hs, href⟩ := h.drafted d (hdrafts ▸ hd)
      exact hfresh s hs (href.trans hof)
  · intro d hd
    obtain ⟨s, hs, href⟩ := h.drafted d (hdrafts ▸ hd)
    exact ⟨s, hkeep s hs, href⟩
  · intro j' hj' hjWait s' hs' hof
    rcases hnew s' hs' with hs | ⟨⟨-, hstatus, -, -⟩, -⟩
    · have hne : j'.jobRef ≠ jobRef := hof ▸ hempty s' hs
      obtain ⟨j, hj, hjRef, hjWait'⟩ := hwait j' hj' hjWait hne
      exact h.waiting j hj hjWait' s' hs (hof.trans hjRef.symm)
    · exact .inl hstatus
  · intro s' hs'
    rcases hnew s' hs' with hs | ⟨⟨hjob, -, -, -⟩, -⟩
    · obtain ⟨s'', hs'', hjob'', hfirst''⟩ := h.first s' hs
      exact ⟨s'', hkeep s'' hs'', hjob'', hfirst''⟩
    · exact ⟨s₁, hs₁, hjob₁.trans hjob.symm, hordinal₁⟩

def SegmentRow.drafted (now : Timestamp) (draftRevision : ℕ) (s : SegmentRow) : SegmentRow :=
  { s with
    status := .draft
    draftRevision
    submittedRevision := none
    stateRevision := s.stateRevision + 1
    updatedAt := now }

def SegmentRow.submittedAs (now : Timestamp) (revisionNumber : ℕ) (s : SegmentRow) : SegmentRow :=
  { s with
    status := .submitted
    submittedRevision := some revisionNumber
    stateRevision := s.stateRevision + 1
    updatedAt := now }

/-- The row that `segment_action` writes this target to. -/
def SegmentRow.acted (now : Timestamp) (t : SegmentTarget) (s : SegmentRow) : SegmentRow :=
  { s with
    status := t.status
    submittedRevision := t.submittedRevision
    skipReasonCode := t.skipReasonCode
    skipNote := t.skipNote
    skipRestoreStatus := t.skipRestoreStatus
    skipRestoreSubmittedRevision := t.skipRestoreSubmittedRevision
    stateRevision := s.stateRevision + 1
    updatedAt := now }

/-- A target of `segment_action` for a sound segment is sound, and a step of its status. -/
theorem segmentTarget_sound {q : SegmentRequest} {s : SegmentRow} {t : SegmentTarget}
    (h : SegmentSound w s) (hr : RestoreSound w s) (ht : segmentTarget s q = .ok t) :
    SegmentSound w (s.acted now t) ∧ RestoreSound w (s.acted now t) ∧ t.status.Initial ∧
      StatusStep s t.status := by
  unfold segmentTarget at ht
  split at ht
  next =>
    obtain ⟨_, hsubmitted, ht⟩ := bind_eq_ok.1 ht
    obtain rfl := Except.ok.inj ht
    have hsubmitted := not_not.1 (raiseIf_eq_ok.1 hsubmitted)
    refine ⟨⟨?_, fun _ => ⟨rfl, rfl, rfl, rfl⟩, ?_, ?_⟩, ⟨?_, ?_⟩, .inr (.inl rfl),
      .inr (.reopen hsubmitted)⟩ <;> simp [SegmentRow.acted]
  next =>
    obtain ⟨_, hrestorable, ht⟩ := bind_eq_ok.1 ht
    obtain rfl := Except.ok.inj ht
    have hrestorable := not_not.1 (raiseIf_eq_ok.1 hrestorable)
    refine ⟨⟨?_, fun hne => absurd rfl hne, ?_, ?_⟩, ⟨fun n hn => ?_, ?_⟩,
      .inr (.inr (.inr rfl)), .inr (.skip hrestorable)⟩
    · simp [SegmentRow.acted]
    · simp [SegmentRow.acted]
    · simp [SegmentRow.acted]
    · simp only [SegmentRow.acted] at hn ⊢
      split at hn
      · exact h.revision n hn
      · cases hn
    · rintro (hpending | hpending)
      · cases hpending
      · exact hr.undrafted (.inl (Option.some.inj hpending))
  next =>
    obtain ⟨_, hskipped, ht⟩ := bind_eq_ok.1 ht
    obtain ⟨next, hnext, ht⟩ := bind_eq_ok.1 ht
    obtain ⟨_, hlacks, ht⟩ := bind_eq_ok.1 ht
    obtain rfl := Except.ok.inj ht
    have hskipped := not_not.1 (raiseIf_eq_ok.1 hskipped)
    obtain ⟨hown, hrestorable⟩ := Option.filter_eq_some_iff.1 (orRaise_eq_ok.1 hnext)
    have hrestorable : next.Restorable := of_decide_eq_true hrestorable
    have hlacks := raiseIf_eq_ok.1 hlacks
    refine ⟨⟨?_, fun _ => ⟨rfl, rfl, rfl, rfl⟩, ?_, fun n hn => ?_⟩, ⟨?_, ?_⟩, ?_,
      .inr (.unskip hskipped hown)⟩
    · rcases hrestorable with rfl | rfl | rfl <;> simp [SegmentRow.acted]
    · rcases hrestorable with rfl | rfl | rfl
      · simp [SegmentRow.acted]
      · simp [SegmentRow.acted]
      · simpa [SegmentRow.acted] using hlacks
    · simp only [SegmentRow.acted] at hn ⊢
      split at hn
      · exact hr.revision n hn
      · cases hn
    · simp [SegmentRow.acted]
    · rintro (hpending | hpending)
      · exact hr.undrafted (.inr (hown.trans (congrArg some hpending)))
      · cases hpending
    · rcases hrestorable with rfl | rfl | rfl
      · exact .inl rfl
      · exact .inr (.inl rfl)
      · exact .inr (.inr (.inl rfl))

theorem waitingKept_touchJob (jobRef : String) (h : w'.jobs = (w.touchJob now jobRef).jobs) :
    WaitingKept w w' :=
  .of_write (f := fun j => { j with stateRevision := j.stateRevision + 1, updatedAt := now })
    (congrArg Table.rows h) (fun _ => rfl) fun _ hwait => hwait

theorem mem_upsertDraft {draft d : DraftRow} {drafts : Table DraftRow}
    (h : d ∈ upsertDraft draft drafts) : d ∈ drafts ∨ d.segmentRef = draft.segmentRef := by
  unfold upsertDraft at h
  cases hi : drafts.insert? draft with
  | none =>
    rw [hi] at h
    rcases Table.mem_of_rows_map (t := drafts) rfl h with ⟨hold, -⟩ | ⟨r, -, hr, rfl⟩
    · exact .inl hold
    · exact .inr hr
  | some t =>
    rw [hi] at h
    rcases (Table.mem_insert? hi).1 h with hold | rfl
    · exact .inl hold
    · exact .inr rfl

theorem SegmentMove.keeps (hm : SegmentMove now w a w') (h : SegmentsInvariant w)
    (hok : NotSkipped w a) : SegmentsInvariant w' ∧ SegmentsFollow w w' := by
  cases hm with
  | still segments drafts revisions waiting =>
    refine ⟨h.still segments drafts revisions waiting, fun s hs => ?_, fun r hr => ?_⟩
    · exact ⟨s, segments ▸ hs, rfl, .inl rfl⟩
    · exact revisions ▸ hr
  | moved jobRef pre status segments drafts revisions waiting left worked becomes step =>
    refine ⟨h.moved segments drafts revisions waiting left worked becomes, fun s hs => ?_,
      fun r hr => revisions ▸ hr⟩
    refine ⟨_, Table.mem_of_map_mem (congrArg Table.rows segments) hs, ?_⟩
    split
    next hpre => exact ⟨rfl, step s hpre.2⟩
    next => exact ⟨rfl, .inl rfl⟩
  | inserted nonempty segments drafts revisions waiting =>
    refine ⟨h.inserted nonempty segments drafts revisions waiting, fun s hs => ?_,
      fun r hr => revisions ▸ hr⟩
    exact ⟨s, (insertSegments_ok segments).1 s hs, rfl, .inl rfl⟩
  | @drafted _ jobRef s draft segment editable result =>
    subst result
    have hs := h.sound s segment.mem
    have hunskipped : s.status ≠ .skipped := by
      rcases editable with he | he <;> rw [he] <;> decide
    have hcolumns := hs.columns hunskipped
    have hwrite : WritesSegment draft.segmentRef (SegmentRow.drafted now draft.draftRevision) w
        (w.draftSegment now jobRef draft) := rfl
    refine ⟨h.write segment hwrite (fun _ => ⟨rfl, rfl, rfl⟩) ?_ (fun r hr => hr) ?_ ?_ ?_
      (.inr (.inl rfl)), .write segment hwrite (fun _ => rfl) (fun r hr => hr)
      (.inr (.draft editable))⟩
    · exact waitingKept_touchJob jobRef rfl
    · exact fun d hd => mem_upsertDraft hd
    · refine ⟨?_, fun _ => hcolumns, ?_, ?_⟩ <;> simp [SegmentRow.drafted, hcolumns.2.2.1]
    · refine ⟨?_, ?_⟩ <;> simp [SegmentRow.drafted, hcolumns.2.2]
  | @submitted _ jobRef segmentRef s draft revisions segment drafted draftRef revision result =>
    obtain ⟨handoffs, rfl⟩ := result
    have hs := h.sound s segment.mem
    have hunskipped := hok segmentRef rfl s segment.mem segment.ref
    have hcolumns := hs.columns hunskipped
    have hrev : ∀ r ∈ w.revisions, r ∈ revisions := fun r hr =>
      (Table.mem_insert? revision).2 (.inl hr)
    have hpending : s.status ≠ SegmentStatus.pendingInitialAnnotation := fun hp =>
      (h.restore s segment.mem).undrafted (.inl hp) draft drafted (draftRef.trans segment.ref.symm)
    have hfrom : s.status = .draft ∨ s.status = .submitted := by
      obtain ⟨j, hj, hjRef, hjWait⟩ := segment.waiting
      rcases h.waiting j hj hjWait s segment.mem (segment.ofJob.trans hjRef.symm) with
        hp | hd | hsub | hsk
      · exact absurd hp hpending
      · exact .inl hd
      · exact .inr hsub
      · exact absurd hsk hunskipped
    refine ⟨h.write (f := SegmentRow.submittedAs now (w.nextRevision segmentRef)) segment rfl
      (fun _ => ⟨rfl, rfl, rfl⟩) ?_ hrev (fun d hd => .inl hd) ?_ ?_ (.inr (.inr (.inl rfl))),
      .write (f := SegmentRow.submittedAs now (w.nextRevision segmentRef)) segment rfl
        (fun _ => rfl) hrev (.inr (.submit hfrom))⟩
    · exact waitingKept_touchJob jobRef rfl
    · refine ⟨?_, fun _ => hcolumns, ?_, ?_⟩
      · simp [SegmentRow.submittedAs, hcolumns.2.2.1]
      · simp [SegmentRow.submittedAs]
      · rintro n ⟨⟩
        exact ⟨_, (Table.mem_insert? revision).2 (.inr rfl), segment.ref.symm, rfl⟩
    · refine ⟨?_, ?_⟩ <;> simp [SegmentRow.submittedAs, hcolumns.2.2]
  | @acted _ q s t segment target result =>
    subst result
    obtain ⟨hsound, hrestore, hinitial, hstep⟩ := segmentTarget_sound
      (h.sound s segment.mem) (h.restore s segment.mem) target
    have hwrite : WritesSegment q.segmentRef (SegmentRow.acted now t) w
        (w.actOn now q.jobRef q.segmentRef t) := rfl
    refine ⟨h.write segment hwrite (fun _ => ⟨rfl, rfl, rfl⟩) ?_ (fun r hr => hr)
      (fun d hd => .inl hd) ⟨hsound.skipped, hsound.columns, hsound.unsubmitted, hsound.revision⟩
      ⟨hrestore.revision, hrestore.undrafted⟩ hinitial,
      .write segment hwrite (fun _ => rfl) (fun r hr => hr) hstep⟩
    exact waitingKept_touchJob q.jobRef rfl

/-- The failure of an interrupted run moves segments from postprocessing to its failure only. -/
def SegmentsStopped (w w' : Workflow) : Prop :=
  (∀ s ∈ w.segments, ∃ s' ∈ w'.segments, s'.segmentRef = s.segmentRef ∧
    (s'.status = s.status ∨
      s.status = .postprocessing ∧ s'.status = .postprocessingFailed)) ∧
    ∀ r ∈ w.revisions, r ∈ w'.revisions

theorem SegmentsStopped.same (hsegments : w'.segments = w.segments)
    (hrevisions : w'.revisions = w.revisions) : SegmentsStopped w w' := by
  refine ⟨fun s hs => ⟨s, hsegments ▸ hs, rfl, .inl rfl⟩, fun r hr => ?_⟩
  rw [hrevisions]
  exact hr

theorem SegmentsStopped.trans {w'' : Workflow} (h : SegmentsStopped w w')
    (h' : SegmentsStopped w' w'') : SegmentsStopped w w'' := by
  refine ⟨fun s hs => ?_, fun r hr => h'.2 r (h.2 r hr)⟩
  obtain ⟨s₁, hs₁, href₁, hstatus₁⟩ := h.1 s hs
  obtain ⟨s₂, hs₂, href₂, hstatus₂⟩ := h'.1 s₁ hs₁
  refine ⟨s₂, hs₂, href₂.trans href₁, ?_⟩
  rcases hstatus₁ with h₁ | ⟨hpost, h₁⟩
  · rw [h₁] at hstatus₂
    exact hstatus₂
  · rcases hstatus₂ with h₂ | ⟨hpost₂, -⟩
    · exact .inr ⟨hpost, h₂.trans h₁⟩
    · rw [h₁] at hpost₂
      cases hpost₂

theorem Effect.segmentsStopped {q : RunFailure} (h : Effect now w (.stop q) w') :
    SegmentsStopped w w' := by
  cases h with
  | same | closed | publicationFailed | fixFailed | cancelledJobRunFailed | jobRunFailed =>
    exact .same rfl rfl
  | postprocessingFailed by' run ref uncancelled kind kept emission =>
    obtain ⟨handoffs, rfl⟩ := failureEmission_eq emission
    refine ⟨fun s hs => ⟨_, Table.mem_of_map_mem rfl hs, ?_⟩, fun r hr => hr⟩
    split
    next hpre => exact ⟨rfl, .inr ⟨hpre.2, rfl⟩⟩
    next => exact ⟨rfl, .inl rfl⟩

theorem SegmentsStopped.follow (h : SegmentsStopped w w') : SegmentsFollow w w' := by
  refine ⟨fun s hs => ?_, h.2⟩
  obtain ⟨s', hs', href, hstatus | ⟨hpost, hstatus⟩⟩ := h.1 s hs
  · exact ⟨s', hs', href, .inl hstatus⟩
  · refine ⟨s', hs', href, .inr ?_⟩
    rw [hstatus]
    exact .fail hpost

end Step

/-- A `submit_segment` that gets past its guards for a segment that is skipped. -/
def SubmitsSkipped (s : System) (e : Event) : Prop :=
  ∃ q ref key, e = .call (.submitSegment q ref key) ∧ SubmitAccepted s.store.db q key ∧
    ∃ g ∈ s.workflow.segments, g.segmentRef = q.segmentRef ∧ g.status = .skipped

theorem notSkipped_of_makes {s : System} {e : Event} {a : Change} (h : ¬ SubmitsSkipped s e)
    (ha : e.Makes s a) : NotSkipped s.workflow a := by
  rintro ref rfl g hg href hskipped
  cases ha with
  | call makes =>
    cases makes with
    | submit accepted => exact h ⟨_, _, _, rfl, accepted, g, hg, href, hskipped⟩

theorem notSkipped_stop (w : Workflow) (runRef : String) :
    NotSkipped w (.stop (interruption runRef)) := by
  rintro ref ⟨⟩

theorem System.Step.segmentsFollow {s t : System} {e : Event} (h : s.Step e t)
    (hs : SegmentsInvariant s.workflow) (hok : ¬ SubmitsSkipped s e) :
    SegmentsFollow s.workflow t.workflow := by
  rcases h.effect with ⟨a, hmakes, heffect⟩ | ⟨l, hrun, hlabels⟩
  · exact (heffect.segmentMove.keeps hs (notSkipped_of_makes hok hmakes)).2
  · refine SegmentsStopped.follow ?_
    have hstopped : ∀ x ∈ l, ∃ runRef, x.label = .stop (interruption runRef) := by
      intro x hx
      obtain ⟨runRef, hlabel, -⟩ := hlabels x hx
      exact ⟨runRef, hlabel⟩
    refine (hrun.invariant (SegmentsStopped.same rfl rfl) hstopped fun x hinv hx hstep => ?_).1
    obtain ⟨runRef, hlabel⟩ := hx
    rw [hlabel] at hstep
    exact hinv.trans hstep.segmentsStopped

/-- The segments of every state are sound, and every step follows their state machine, in runs
that submit no skipped segment. -/
theorem segments_follow_state_machine {l : List (Transition System Event)} {s : System}
    (h : SystemRun l s) (hl : ∀ x ∈ l, ¬ SubmitsSkipped x.pre x.label) :
    (∀ g ∈ s.workflow.segments, SegmentSound s.workflow g) ∧
      ∀ x ∈ l, (∀ g ∈ x.post.workflow.segments, SegmentSound x.post.workflow g) ∧
        SegmentsFollow x.pre.workflow x.post.workflow := by
  obtain ⟨hlast, hall⟩ := h.keeps segmentsInvariant_initial notSkipped_stop
    (fun x hx a ha => notSkipped_of_makes (hl x hx) ha)
    fun now w a w' hw hok heffect => (heffect.segmentMove.keeps hw hok).1
  refine ⟨hlast.sound, fun x hx => ⟨(hall x hx).2.sound, ?_⟩⟩
  exact (h.step_of_mem hx).segmentsFollow (hall x hx).1 (hl x hx)

namespace Sample

/-- A segment is drafted and submitted. -/
def submission : List Event :=
  prepare "job_1" "run_1" "2026-01-01" ["clip_a"] ++
    [draft "job_1" "job_1_segment_1", submit "job_1" "job_1_segment_1" 1]

/-- A segment is drafted, skipped and then submitted. -/
def skippedSubmission : List Event :=
  prepare "job_1" "run_1" "2026-01-01" ["clip_a"] ++
    [draft "job_1" "job_1_segment_1", skip "job_1" "job_1_segment_1" 1,
      submit "job_1" "job_1_segment_1" 2]

theorem run_skippedSubmission : SystemRun (System.initial.trace skippedSubmission)
    (System.initial.after skippedSubmission) :=
  System.run_trace _ _ (by decide)

end Sample

theorem submission_follows_state_machine :
    ∃ g ∈ (System.initial.after Sample.submission).workflow.segments, g.status = .submitted ∧
      SegmentSound (System.initial.after Sample.submission).workflow g := by
  have hrun : SystemRun (System.initial.trace Sample.submission)
      (System.initial.after Sample.submission) := System.run_trace _ _ (by decide)
  have hunskipped : ∀ x ∈ System.initial.trace Sample.submission,
      ∀ g ∈ x.pre.workflow.segments, g.status ≠ .skipped := by decide
  have hsound := (segments_follow_state_machine hrun fun x hx ⟨_, _, _, _, _, g, hg, _, hs⟩ =>
    hunskipped x hx g hg hs).1
  have hsubmitted : ∃ g ∈ (System.initial.after Sample.submission).workflow.segments,
      g.status = .submitted := by decide
  obtain ⟨g, hg, hstatus⟩ := hsubmitted
  exact ⟨g, hg, hstatus, hsound g hg⟩

theorem skipped_segment_is_submitted :
    ¬ ∀ (l : List (Transition System Event)) (s : System), SystemRun l s →
      (∀ g ∈ s.workflow.segments, SegmentSound s.workflow g) ∧
        ∀ x ∈ l, (∀ g ∈ x.post.workflow.segments, SegmentSound x.post.workflow g) ∧
          SegmentsFollow x.pre.workflow x.post.workflow := by
  intro h
  have hmixed : ∃ g ∈ (System.initial.after Sample.skippedSubmission).workflow.segments,
      g.status = .submitted ∧ g.skipRestoreStatus = some .draft := by decide
  obtain ⟨g, hg, hstatus, hrestore⟩ := hmixed
  have hsound := (h _ _ Sample.run_skippedSubmission).1 g hg
  have hskipped := hsound.skipped.2 (by simp [hrestore])
  rw [hstatus] at hskipped
  cases hskipped

end DataJuicer.Annotation
