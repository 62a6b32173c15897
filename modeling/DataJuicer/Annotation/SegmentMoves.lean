import DataJuicer.Annotation.SystemEffects

/-! # What effects do to the segments

An effect leaves the segments as they are, changes one of them for its annotator, moves those
of a job together or inserts those of a job. Only jobs that are prepared come to wait for
their initial annotation.
-/

namespace DataJuicer.Annotation

open Transaction

section Tables

variable {now : Timestamp} {jobRef : String} {w w' : Workflow}

/-- The jobs of `w'` are those of `w` after a write to one of them. -/
def WritesJob (jobRef : String) (f : JobRow → JobRow) (w w' : Workflow) : Prop :=
  w'.jobs.rows = w.jobs.rows.map fun j => if j.jobRef = jobRef then f j else j

/-- A job after a write is another job, or the one that was written. -/
theorem WritesJob.cases {f : JobRow → JobRow} {j' : JobRow} (h : WritesJob jobRef f w w')
    (hj : j' ∈ w'.jobs) :
    j' ∈ w.jobs ∧ j'.jobRef ≠ jobRef ∨ ∃ j ∈ w.jobs, j.jobRef = jobRef ∧ j' = f j :=
  Table.mem_of_rows_map h hj

theorem Emits.eq {handoff : HandoffRow} (h : Emits handoff w w') :
    ∃ handoffs, w' = { w with handoffs } := by
  obtain ⟨handoffs, -, rfl⟩ := h
  exact ⟨handoffs, rfl⟩

theorem Queued.eq {runRef : String} {kind : RunKind} (h : Queued now jobRef runRef kind w w') :
    ∃ runs, w' = { w with runs } := by
  obtain ⟨runs, -, rfl⟩ := h
  exact ⟨runs, rfl⟩

theorem restart_ok {runRef : String} (h : w.restart now jobRef runRef = .ok w') :
    Queued now jobRef runRef (w.lastKind jobRef)
      ((w.setJob now jobRef fun j =>
        { j with
          status := (w.lastKind jobRef).resumed
          failureCode := none
          failureMessage := none
          failureRef := none
          privateFailureDetail := none
          failureRetryable := false
          cancelRequested := false
          cancelRequestedAt := none }).resumeSegments now jobRef (w.lastKind jobRef)) w' :=
  enqueueRun_eq_ok.1 h

theorem insertClips_eq {c : JobCreation} {ordinal : ℕ} {clips : List String}
    (h : insertClips now c ordinal clips w = .ok w') :
    ∃ clips sourceLeases, w' = { w with clips, sourceLeases } := by
  induction clips generalizing ordinal w with
  | nil =>
    obtain rfl := Except.ok.inj h
    exact ⟨w.clips, w.sourceLeases, rfl⟩
  | cons clip rest ih =>
    obtain ⟨w₁, hone, h⟩ := bind_eq_ok.1 h
    obtain ⟨clips₁, -, hone⟩ := bind_eq_ok.1 hone
    obtain ⟨leases₁, -, hone⟩ := bind_eq_ok.1 hone
    obtain rfl := Except.ok.inj hone
    obtain ⟨clips₂, leases₂, rfl⟩ := ih h
    exact ⟨clips₂, leases₂, rfl⟩

end Tables

def SegmentStatus.Worked (s : SegmentStatus) : Prop :=
  s ≠ SegmentStatus.pendingInitialAnnotation ∧ s ≠ .draft ∧ s ≠ .skipped

instance : DecidablePred SegmentStatus.Worked := fun _ => inferInstanceAs (Decidable (_ ∧ _ ∧ _))

inductive StatusChange (s : SegmentRow) : SegmentStatus → Prop
  | draft (from' : s.status = SegmentStatus.pendingInitialAnnotation ∨ s.status = .draft) :
      StatusChange s .draft
  | submit (from' : s.status = .draft ∨ s.status = .submitted) : StatusChange s .submitted
  | reopen (from' : s.status = .submitted) : StatusChange s .draft
  | skip (from' : s.status.Restorable) : StatusChange s .skipped
  | unskip {t : SegmentStatus} (from' : s.status = .skipped) (own : s.skipRestoreStatus = some t) :
      StatusChange s t
  | track (from' : s.status = .submitted) : StatusChange s .tracking
  | complete (from' : s.status = .tracking) : StatusChange s .tracked
  | postprocess (from' : s.status = .tracked ∨ s.status = .postprocessingFailed) :
      StatusChange s .postprocessing
  | annotate (from' : s.status = .postprocessing) : StatusChange s .annotated
  | fail (from' : s.status = .postprocessing) : StatusChange s .postprocessingFailed

/-- The status is kept, or changed along the state machine. -/
def StatusStep (s : SegmentRow) (t : SegmentStatus) : Prop := t = s.status ∨ StatusChange s t

/-- No job comes to wait for its initial annotation. -/
def WaitingKept (w w' : Workflow) : Prop :=
  ∀ j' ∈ w'.jobs, j'.status = JobStatus.waitingInitialAnnotation →
    ∃ j ∈ w.jobs, j.jobRef = j'.jobRef ∧ j.status = JobStatus.waitingInitialAnnotation

theorem WaitingKept.of_jobs {w w' : Workflow} (h : w'.jobs = w.jobs) : WaitingKept w w' := by
  intro j hj hwait
  rw [h] at hj
  exact ⟨j, hj, rfl, hwait⟩

theorem WaitingKept.of_write {jobRef : String} {w w' : Workflow} {f : JobRow → JobRow}
    (h : WritesJob jobRef f w w') (hf : ∀ j, (f j).jobRef = j.jobRef)
    (hkeep : ∀ j, (f j).status = JobStatus.waitingInitialAnnotation →
      j.status = JobStatus.waitingInitialAnnotation) :
    WaitingKept w w' := by
  intro j' hj' hwait
  rcases h.cases hj' with ⟨hold, -⟩ | ⟨j, hj, -, rfl⟩
  · exact ⟨j', hold, rfl, hwait⟩
  · exact ⟨j, hj, (hf j).symm, hkeep j hwait⟩

def NotWaiting (jobRef : String) (w : Workflow) : Prop :=
  ∀ j ∈ w.jobs, j.jobRef = jobRef → j.status ≠ JobStatus.waitingInitialAnnotation

theorem NotWaiting.of_write {jobRef : String} {w w' : Workflow} {f : JobRow → JobRow}
    (h : WritesJob jobRef f w w') (hstatus : ∀ j,
      (f j).status ≠ JobStatus.waitingInitialAnnotation) :
    NotWaiting jobRef w' := by
  intro j' hj' href
  rcases h.cases hj' with ⟨-, hne⟩ | ⟨j, -, -, rfl⟩
  · exact absurd href hne
  · exact hstatus j

/-- What an effect does to the segments, their drafts and their revisions. -/
inductive SegmentMove (now : Timestamp) (w : Workflow) : Change → Workflow → Prop
  | still {a : Change} {w' : Workflow} (segments : w'.segments = w.segments)
      (drafts : w'.drafts = w.drafts) (revisions : w'.revisions = w.revisions)
      (waiting : WaitingKept w w') : SegmentMove now w a w'
  | moved {a : Change} {w' : Workflow} (jobRef : String) (pre : SegmentStatus → Prop)
      [DecidablePred pre] (status : SegmentStatus)
      (segments : w'.segments = (w.moveSegments now jobRef pre status).segments)
      (drafts : w'.drafts = w.drafts) (revisions : w'.revisions = w.revisions)
      (waiting : WaitingKept w w') (left : NotWaiting jobRef w')
      (worked : ∀ x, pre x → x.Worked) (becomes : status.Worked)
      (step : ∀ s : SegmentRow, pre s.status → StatusStep s status) : SegmentMove now w a w'
  | inserted {a : Change} {w' : Workflow} {jobRef : String} {items : List PreparedSegment}
      {segmentRef : ℕ → String} (nonempty : items ≠ [])
      (segments : insertSegments now jobRef segmentRef 1 items w.segments = .ok w'.segments)
      (drafts : w'.drafts = w.drafts) (revisions : w'.revisions = w.revisions)
      (waiting : ∀ j' ∈ w'.jobs, j'.status = JobStatus.waitingInitialAnnotation →
        j'.jobRef ≠ jobRef →
        ∃ j ∈ w.jobs, j.jobRef = j'.jobRef ∧ j.status = JobStatus.waitingInitialAnnotation) :
      SegmentMove now w a w'
  | drafted {w' : Workflow} {jobRef : String} {s : SegmentRow} {draft : DraftRow}
      (segment : WaitingSegment w jobRef draft.segmentRef s)
      (editable : s.status = SegmentStatus.pendingInitialAnnotation ∨ s.status = .draft)
      (result : w' = w.draftSegment now jobRef draft) : SegmentMove now w .other w'
  | submitted {w' : Workflow} {jobRef segmentRef : String} {s : SegmentRow} {draft : DraftRow}
      {revisions : Table RevisionRow} (segment : WaitingSegment w jobRef segmentRef s)
      (drafted : draft ∈ w.drafts) (draftRef : draft.segmentRef = segmentRef)
      (revision : w.revisions.insert? ⟨segmentRef, w.nextRevision segmentRef, draft.targets,
        draft.contentSha256, now⟩ = some revisions)
      (result : ∃ handoffs, w' = { ({ w with revisions }.submitAs now jobRef segmentRef
        (w.nextRevision segmentRef)) with handoffs }) : SegmentMove now w (.submit segmentRef) w'
  | acted {w' : Workflow} {q : SegmentRequest} {s : SegmentRow} {t : SegmentTarget}
      (segment : WaitingSegment w q.jobRef q.segmentRef s) (target : segmentTarget s q = .ok t)
      (result : w' = w.actOn now q.jobRef q.segmentRef t) :
      SegmentMove now w (.act q.operation q.segmentRef) w'

theorem SubmittedEmission.eq {now : Timestamp} {handoffRef jobRef : String} {w w' : Workflow}
    (h : SubmittedEmission now handoffRef jobRef w w') : ∃ handoffs, w' = { w with handoffs } := by
  unfold SubmittedEmission at h
  split at h
  · exact h.eq
  · exact ⟨w.handoffs, h⟩

theorem failureEmission_eq {w w' : Workflow} {kind : HandoffKind}
    (h : w' = w ∨ ∃ handoff : HandoffRow, handoff.kind = kind ∧ Emits handoff w w') :
    ∃ handoffs, w' = { w with handoffs } := by
  rcases h with rfl | ⟨handoff, -, h⟩
  · exact ⟨w'.handoffs, rfl⟩
  · exact h.eq

theorem restart_move {now : Timestamp} {a : Change} {w w' : Workflow} {jobRef runRef : String}
    (h : w.restart now jobRef runRef = .ok w') : SegmentMove now w a w' := by
  have hresumed : (w.lastKind jobRef).resumed ≠ JobStatus.waitingInitialAnnotation := by
    cases w.lastKind jobRef <;> decide
  obtain ⟨runs, rfl⟩ := (restart_ok h).eq
  cases hk : w.lastKind jobRef with
  | tracking =>
    rw [hk] at hresumed
    refine .moved jobRef (fun s => s = .submitted ∨ s = .tracking) .tracking rfl rfl rfl
      (.of_write rfl (fun _ => rfl) fun _ hwait => absurd hwait hresumed)
      (.of_write rfl fun _ => hresumed) ?_ ?_ ?_
    · rintro x (rfl | rfl) <;> decide
    · decide
    · rintro s (hs | hs)
      · exact .inr (.track hs)
      · exact .inl hs.symm
  | postprocessing =>
    rw [hk] at hresumed
    refine .moved jobRef (fun s => s = .tracked ∨ s = .postprocessing ∨ s = .postprocessingFailed)
      .postprocessing rfl rfl rfl (.of_write rfl (fun _ => rfl) fun _ hwait => absurd
        hwait hresumed)
      (.of_write rfl fun _ => hresumed) ?_ ?_ ?_
    · rintro x (rfl | rfl | rfl) <;> decide
    · decide
    · rintro s (hs | hs | hs)
      · exact .inr (.postprocess (.inl hs))
      · exact .inl hs.symm
      · exact .inr (.postprocess (.inr hs))
  | prepare | fix | compatibilityPublish =>
    rw [hk] at hresumed
    exact .still rfl rfl rfl (.of_write rfl (fun _ => rfl) fun _ hwait => absurd hwait hresumed)

theorem Effect.segmentMove {now : Timestamp} {w w' : Workflow} {a : Change}
    (h : Effect now w a w') : SegmentMove now w a w' := by
  cases h with
  | same => exact .still rfl rfl rfl (.of_jobs rfl)
  | created free job clips run =>
    obtain ⟨runs, rfl⟩ := run.eq
    obtain ⟨clips', leases', rfl⟩ := insertClips_eq clips
    refine .still rfl rfl rfl fun j' hj' hwait => ?_
    rcases (Table.mem_insert? job).1 hj' with hold | rfl
    · exact ⟨j', hold, rfl, hwait⟩
    · cases hwait
  | drafted draft segment editable => exact .drafted segment editable rfl
  | submitted segment drafted draftRef revision emission =>
    exact .submitted segment drafted draftRef revision emission.eq
  | acted segment target => exact .acted segment target rfl
  | trackingStarted job waiting resolved processable run =>
    obtain ⟨runs, rfl⟩ := run.eq
    refine .moved _ (· = .submitted) .tracking rfl rfl rfl
      (.of_write rfl (fun _ => rfl) fun _ h => by cases h)
      (.of_write rfl fun _ h => by cases h) ?_ ?_
      fun s hs => .inr (.track hs)
    · rintro x rfl
      decide
    · decide
  | cancelled | abandoned =>
    exact .still rfl rfl rfl (.of_write rfl (fun _ => rfl) fun _ h => by cases h)
  | cancelRequested => exact .still rfl rfl rfl (.of_write rfl (fun _ => rfl) fun _ h => h)
  | retried job failed retryable restart => exact restart_move restart
  | recovered job quarantined idle restart => exact restart_move restart
  | postprocessingStarted job tracked ready run =>
    obtain ⟨runs, rfl⟩ := run.eq
    refine .moved _ (· = .tracked) .postprocessing rfl rfl rfl
      (.of_write rfl (fun _ => rfl) fun _ h => by cases h)
      (.of_write rfl fun _ h => by cases h) ?_ ?_
      fun s hs => .inr (.postprocess (.inl hs))
    · rintro x rfl
      decide
    · decide
  | fixQueued run =>
    obtain ⟨runs, rfl⟩ := run.eq
    exact .still rfl rfl rfl (.of_jobs rfl)
  | publicationQueued run queued failureCode publication =>
    obtain ⟨runs, rfl⟩ := run.eq
    exact .still rfl rfl rfl (.of_jobs rfl)
  | prepared run running preparing nonempty inserted ready emits =>
    obtain ⟨handoffs, rfl⟩ := emits.eq
    refine .inserted nonempty inserted rfl rfl fun j' hj' hwait hne => ?_
    rcases Table.mem_of_rows_map (t := w.jobs) rfl hj' with ⟨hold, -⟩ | ⟨j, -, href, rfl⟩
    · exact ⟨j', hold, rfl, hwait⟩
    · exact absurd href hne
  | closed => exact .still rfl rfl rfl (.of_write rfl (fun _ => rfl) fun _ h => by cases h)
  | tracked run running tracking completed emits =>
    obtain ⟨handoffs, rfl⟩ := emits.eq
    refine .moved _ (· = .tracking) .tracked rfl rfl rfl
      (.of_write rfl (fun _ => rfl) fun _ h => by cases h)
      (.of_write rfl fun _ h => by cases h) ?_ ?_
      fun s hs => .inr (.complete hs)
    · rintro x rfl
      decide
    · decide
  | postprocessed run kind active postprocessing readyKind completedKind emitsReady
      emitsCompleted =>
    obtain ⟨handoffs, rfl⟩ := emitsReady.eq
    obtain ⟨handoffs', rfl⟩ := emitsCompleted.eq
    refine .moved _ (· = .postprocessing) .annotated rfl rfl rfl
      (.of_write rfl (fun _ => rfl) fun _ h => by cases h)
      (.of_write rfl fun _ h => by cases h) ?_ ?_
      fun s hs => .inr (.annotate hs)
    · rintro x rfl
      decide
    · decide
  | fixed run running kind submitted emits =>
    obtain ⟨handoffs, rfl⟩ := emits.eq
    exact .still rfl rfl rfl (.of_jobs rfl)
  | published key run running kind succeeded completed emits =>
    obtain ⟨handoffs, rfl⟩ := emits.eq
    exact .still rfl rfl rfl (.of_jobs rfl)
  | decided kind emits =>
    obtain ⟨handoffs, rfl⟩ := emits.eq
    exact .still rfl rfl rfl (.of_jobs rfl)
  | publicationFailed | fixFailed | cancelledJobRunFailed =>
    exact .still rfl rfl rfl (.of_jobs rfl)
  | jobRunFailed => exact .still rfl rfl rfl (.of_write rfl (fun _ => rfl) fun _ h => by cases h)
  | postprocessingFailed by' run ref uncancelled kind kept emission =>
    obtain ⟨handoffs, rfl⟩ := failureEmission_eq emission
    refine .moved _ (· = .postprocessing) .postprocessingFailed rfl rfl rfl
      (.of_write rfl (fun _ => rfl) fun _ h => by cases h)
      (.of_write rfl fun _ h => by cases h) ?_ ?_
      fun s hs => .inr (.fail hs)
    · rintro x rfl
      decide
    · decide
  | claimed run queued startable uninterrupted unquarantined leaseKey leaseRun leased publication =>
    rcases publication with rfl | ⟨-, ref, rfl⟩ <;> exact .still rfl rfl rfl (.of_jobs rfl)
  | leasesExpired | renewed | reset => exact .still rfl rfl rfl (.of_jobs rfl)

end DataJuicer.Annotation
