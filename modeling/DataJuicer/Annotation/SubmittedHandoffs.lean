import DataJuicer.Annotation.SegmentStates

/-! # The handoff to Tracking

A job that becomes ready for Tracking by a submission is handed over, and no job is handed over
twice. A skip or an unskip can also be the last step of the annotation, and emits nothing.
-/

namespace DataJuicer.Annotation

open Transaction

variable {now : Timestamp} {w w' : Workflow} {a : Change}

theorem resolved_iff {jobRef : String} :
    w.Resolved jobRef ↔
      (∀ s ∈ w.segments, s.jobRef = jobRef → s.status = .submitted ∨ s.status = .skipped) ∧
        ∃ s ∈ w.segments, s.jobRef = jobRef ∧ s.status = .submitted := by
  unfold Workflow.Resolved Workflow.segmentCount Table.rowcount
  rw [List.length_eq_zero_iff, List.length_pos_iff_exists_mem, List.eq_nil_iff_forall_not_mem]
  simp only [Table.mem_select, not_and, Classical.not_not, or_iff_not_imp_left]

def SameSegments (jobRef : String) (w w' : Workflow) : Prop :=
  ∀ s, s.jobRef = jobRef → (s ∈ w'.segments ↔ s ∈ w.segments)

theorem SameSegments.resolved {jobRef : String} (h : SameSegments jobRef w w')
    (hw : w'.Resolved jobRef) : w.Resolved jobRef := by
  obtain ⟨hall, s, hs, hof, hsub⟩ := resolved_iff.1 hw
  exact resolved_iff.2
    ⟨fun s hs hof => hall s ((h s hof).2 hs) hof, s, (h s hof).1 hs, hof, hsub⟩

theorem SameSegments.of_map {jobRef ref : String} {p : SegmentRow → Prop} [DecidablePred p]
    {f : SegmentRow → SegmentRow}
    (h : w'.segments.rows = w.segments.rows.map fun s => if p s then f s else s)
    (hp : ∀ s ∈ w.segments, p s → s.jobRef = ref) (hf : ∀ s, (f s).jobRef = s.jobRef)
    (hne : jobRef ≠ ref) : SameSegments jobRef w w' := by
  intro s hof
  constructor
  · intro hs
    rcases Table.mem_of_rows_map h hs with ⟨hold, -⟩ | ⟨s₁, hs₁, hps, rfl⟩
    · exact hold
    · exact absurd (hof.symm.trans ((hf s₁).trans (hp s₁ hs₁ hps))) hne
  · intro hs
    have hnot : ¬ p s := fun hps => hne (hof.symm.trans (hp s hs hps))
    have hmem := Table.mem_of_map_mem h hs
    rwa [if_neg hnot] at hmem

/-- `ready_for_tracking` of the projection is that the job waits and its segments are resolved. -/
theorem readyForTracking_iff (db : Database) (j : JobRow) :
    (jobView db j).readyForTracking = true ↔
      j.status = JobStatus.waitingInitialAnnotation ∧ db.toWorkflow.Resolved j.jobRef := by
  have hcount : ∀ (l : List SegmentView),
      (countOf l .submitted + countOf l .skipped = l.length ↔
        ∀ v ∈ l, v.status = .submitted ∨ v.status = .skipped) ∧
      countOf l .submitted + countOf l .skipped ≤ l.length := by
    intro l
    induction l with
    | nil => simp [countOf]
    | cons v l ih =>
      obtain ⟨hiff, hle⟩ := ih
      unfold countOf at hiff hle ⊢
      rw [List.forall_mem_cons, ← hiff]
      cases hv : v.status <;> simp [hv] <;> omega
  have hmem : ∀ s, s ∈ segmentsOf db.toWorkflow j.jobRef ↔
      s ∈ db.toWorkflow.segments ∧ s.jobRef = j.jobRef := by
    intro s
    unfold segmentsOf
    rw [List.mem_insertionSort, Table.mem_select]
  by_cases hwait : j.status = JobStatus.waitingInitialAnnotation
  · have hview : ∀ s, (segmentView db false j.status s).status = s.status := by
      intro s
      simp [segmentView, projectedStatus, hwait]
    simp only [jobView, readyForTracking, decide_eq_true_eq, hwait, true_and]
    rw [← hwait, (hcount _).1, resolved_iff]
    constructor
    · rintro ⟨⟨-, hall⟩, hpos⟩
      obtain ⟨v, hv⟩ := List.length_pos_iff_exists_mem.1 hpos
      obtain ⟨hv, hsub⟩ := List.mem_filter.1 hv
      obtain ⟨s, hs, rfl⟩ := List.mem_map.1 hv
      refine ⟨fun s hs hof => ?_, s, ((hmem s).1 hs).1, ((hmem s).1 hs).2, ?_⟩
      · simpa only [hview] using hall _ (List.mem_map_of_mem ((hmem s).2 ⟨hs, hof⟩))
      · simpa only [hview, decide_eq_true_eq] using hsub
    · rintro ⟨hall, s, hs, hof, hsub⟩
      have hin := List.mem_map_of_mem (f := segmentView db false j.status) ((hmem s).2 ⟨hs, hof⟩)
      refine ⟨⟨List.length_pos_of_mem hin, fun v hv => ?_⟩, ?_⟩
      · obtain ⟨s, hs, rfl⟩ := List.mem_map.1 hv
        rw [hview]
        exact hall s ((hmem s).1 hs).1 ((hmem s).1 hs).2
      · exact List.length_pos_of_mem (List.mem_filter.2 ⟨hin, by simp [hview, hsub]⟩)
  · simp [jobView, readyForTracking, hwait]

/-- Handoffs are only added, and a job gets its handoff to Tracking once. -/
inductive Sends : Table HandoffRow → Table HandoffRow → Prop
  | none (t : Table HandoffRow) : Sends t t
  | other {t t' : Table HandoffRow} {h : HandoffRow} (kind : h.kind ≠ .initialAnnotationSubmitted)
      (insert : t.insert? h = some t') : Sends t t'
  | first {t t' : Table HandoffRow} {h : HandoffRow}
      (fresh : ∀ x ∈ t, x.jobRef = h.jobRef → x.kind ≠ .initialAnnotationSubmitted)
      (insert : t.insert? h = some t') : Sends t t'
  | trans {t t' t'' : Table HandoffRow} (left : Sends t t') (right : Sends t' t'') : Sends t t''

/-- No job has two handoffs to Tracking. -/
def HandedOverOnce (w : Workflow) : Prop :=
  ∀ h ∈ w.handoffs, h.kind = .initialAnnotationSubmitted → ∀ h' ∈ w.handoffs,
    h'.kind = .initialAnnotationSubmitted → h'.jobRef = h.jobRef → h' = h

theorem Sends.mem {t t' : Table HandoffRow} {h : HandoffRow} (hsend : Sends t t') (hh : h ∈ t) :
    h ∈ t' := by
  induction hsend with
  | none => exact hh
  | other _ insert | first _ insert => exact (Table.mem_insert? insert).2 (.inl hh)
  | trans _ _ ih ih' => exact ih' (ih hh)

theorem Sends.once {t t' : Table HandoffRow} (hsend : Sends t t')
    (ht : ∀ h ∈ t, h.kind = .initialAnnotationSubmitted → ∀ h' ∈ t,
      h'.kind = .initialAnnotationSubmitted → h'.jobRef = h.jobRef → h' = h) :
    ∀ h ∈ t', h.kind = .initialAnnotationSubmitted → ∀ h' ∈ t',
      h'.kind = .initialAnnotationSubmitted → h'.jobRef = h.jobRef → h' = h := by
  induction hsend with
  | none => exact ht
  | other hkind insert =>
    intro h hh hk h' hh' hk' hof
    rcases (Table.mem_insert? insert).1 hh with hh | rfl
    · rcases (Table.mem_insert? insert).1 hh' with hh' | rfl
      · exact ht h hh hk h' hh' hk' hof
      · exact absurd hk' hkind
    · exact absurd hk hkind
  | first fresh insert =>
    intro h hh hk h' hh' hk' hof
    rcases (Table.mem_insert? insert).1 hh with hh | rfl
    · rcases (Table.mem_insert? insert).1 hh' with hh' | rfl
      · exact ht h hh hk h' hh' hk' hof
      · exact absurd hk (fresh h hh hof.symm)
    · rcases (Table.mem_insert? insert).1 hh' with hh' | rfl
      · exact absurd hk' (fresh h' hh' hof)
      · rfl
  | trans _ _ ih ih' => exact ih' (ih ht)

theorem Emits.sends {h : HandoffRow} (hemits : Emits h w w')
    (hkind : h.kind ≠ .initialAnnotationSubmitted) : Sends w.handoffs w'.handoffs := by
  obtain ⟨handoffs, hinsert, rfl⟩ := hemits
  exact .other hkind hinsert

theorem SubmittedEmission.sends {handoffRef jobRef : String}
    (h : SubmittedEmission now handoffRef jobRef w w') : Sends w.handoffs w'.handoffs := by
  unfold SubmittedEmission at h
  split at h
  next hdue =>
    obtain ⟨handoffs, hinsert, rfl⟩ := h
    exact .first (fun x hx hof hkind => hdue.2 ⟨x, hx, hof, hkind⟩) hinsert
  next =>
    rw [h]
    exact .none _

theorem SubmittedEmission.emitted {handoffRef jobRef : String}
    (h : SubmittedEmission now handoffRef jobRef w w') (hw : w'.Resolved jobRef) :
    w'.Emitted jobRef .initialAnnotationSubmitted := by
  obtain ⟨handoffs, hw'⟩ := h.eq
  have hresolved : w.Resolved jobRef := by
    rw [hw'] at hw
    exact hw
  unfold SubmittedEmission at h
  split at h
  next =>
    obtain ⟨_, hinsert, rfl⟩ := h
    exact ⟨_, (Table.mem_insert? hinsert).2 (.inr rfl), rfl, rfl⟩
  next hnot =>
    rw [h]
    by_contra hsilent
    exact hnot ⟨hresolved, hsilent⟩

theorem HandoffKind.Fix.ne_submitted {k : HandoffKind} (h : k.Fix) :
    k ≠ .initialAnnotationSubmitted := by
  rintro rfl
  simp [HandoffKind.Fix] at h

theorem Effect.sends (h : Effect now w a w') : Sends w.handoffs w'.handoffs := by
  cases h with
  | same | drafted | acted | cancelled | abandoned | cancelRequested | closed | publicationFailed
    | fixFailed | cancelledJobRunFailed | jobRunFailed | leasesExpired | renewed | reset =>
    exact .none _
  | created free job clips run =>
    obtain ⟨runs, rfl⟩ := run.eq
    obtain ⟨clips', leases', rfl⟩ := insertClips_eq clips
    exact .none _
  | submitted segment drafted draftRef revision emission => exact emission.sends
  | trackingStarted job waiting resolved processable run =>
    obtain ⟨runs, rfl⟩ := run.eq
    exact .none _
  | retried job failed retryable restart | recovered job quarantined idle restart =>
    obtain ⟨runs, rfl⟩ := (restart_ok restart).eq
    cases w.lastKind _ <;> exact .none _
  | postprocessingStarted job tracked ready run =>
    obtain ⟨runs, rfl⟩ := run.eq
    exact .none _
  | fixQueued run =>
    obtain ⟨runs, rfl⟩ := run.eq
    exact .none _
  | publicationQueued run queued failureCode publication =>
    obtain ⟨runs, rfl⟩ := run.eq
    exact .none _
  | prepared run running preparing nonempty inserted ready emits =>
    exact emits.sends (by simp [ready])
  | tracked run running tracking completed emits => exact emits.sends (by simp [completed])
  | postprocessed run kind active postprocessing readyKind completedKind emitsReady
      emitsCompleted =>
    exact .trans (emitsReady.sends (by simp [readyKind]))
      (emitsCompleted.sends (by simp [completedKind]))
  | fixed run running kind submitted emits => exact emits.sends submitted.ne_submitted
  | published key run running kind succeeded completed emits =>
    exact emits.sends completed.ne_submitted
  | decided kind emits => exact emits.sends kind.ne_submitted
  | postprocessingFailed by' run ref uncancelled kind kept emission =>
    rcases emission with rfl | ⟨handoff, hkind, emits⟩
    · exact .none _
    · exact emits.sends (by simp [hkind])
  | claimed run queued startable uninterrupted unquarantined leaseKey leaseRun leased publication =>
    rcases publication with rfl | ⟨-, ref, rfl⟩ <;> exact .none _

def HandedOver (w : Workflow) : Prop :=
  ∀ j ∈ w.jobs, j.status = JobStatus.waitingInitialAnnotation → w.Resolved j.jobRef →
    w.Emitted j.jobRef .initialAnnotationSubmitted

/-- A skip or an unskip of this segment resolves its job, which has no handoff. -/
structure ResolvesSilently (w : Workflow) (operation : SegmentAction) (segmentRef : String) :
    Prop where
  segment : ∃ g ∈ w.segments, g.segmentRef = segmentRef ∧
    (∀ s ∈ w.segments, s.jobRef = g.jobRef → s.segmentRef ≠ segmentRef →
      s.status = .submitted ∨ s.status = .skipped) ∧
    (operation = .skip ∧ (∃ s ∈ w.segments, s.jobRef = g.jobRef ∧ s.segmentRef ≠ segmentRef ∧
        s.status = .submitted) ∨
      operation = .unskip ∧ g.skipRestoreStatus = some .submitted) ∧
    ¬ w.Emitted g.jobRef .initialAnnotationSubmitted

def Announces (w : Workflow) (a : Change) : Prop :=
  ∀ operation ref, a = .act operation ref → ¬ ResolvesSilently w operation ref

theorem HandedOver.of_same (h : HandedOver w) (hsends : Sends w.handoffs w'.handoffs)
    {j' : JobRow} (hwait : ∃ j ∈ w.jobs, j.jobRef = j'.jobRef ∧
      j.status = JobStatus.waitingInitialAnnotation) (hsame : SameSegments j'.jobRef w w')
    (hresolved : w'.Resolved j'.jobRef) :
    w'.Emitted j'.jobRef .initialAnnotationSubmitted := by
  obtain ⟨j, hj, href, hjwait⟩ := hwait
  have hw := hsame.resolved hresolved
  rw [← href] at hw ⊢
  obtain ⟨x, hx, hof, hkind⟩ := h j hj hjwait hw
  exact ⟨x, hsends.mem hx, hof, hkind⟩

theorem actOn_resolved {q : SegmentRequest} {s : SegmentRow} {t : SegmentTarget}
    (hseg : WaitingSegment w q.jobRef q.segmentRef s) (ht : segmentTarget s q = .ok t)
    (hok : ¬ ResolvesSilently w q.operation q.segmentRef)
    (hresolved : (w.actOn now q.jobRef q.segmentRef t).Resolved q.jobRef) :
    w.Emitted q.jobRef .initialAnnotationSubmitted := by
  have hwrite : WritesSegment q.segmentRef _ w (w.actOn now q.jobRef q.segmentRef t) := rfl
  obtain ⟨hall, s₁, hs₁, hof₁, hsub₁⟩ := resolved_iff.1 hresolved
  have hothers : ∀ g ∈ w.segments, g.jobRef = s.jobRef → g.segmentRef ≠ q.segmentRef →
      g.status = .submitted ∨ g.status = .skipped := by
    intro g hg hof hne
    have hmem := hwrite.mem hg
    rw [if_neg hne] at hmem
    exact hall g hmem (hof.trans hseg.ofJob)
  have htarget : t.status = .submitted ∨ t.status = .skipped := by
    have hmem := hwrite.mem hseg.mem
    rw [if_pos hseg.ref] at hmem
    exact hall _ hmem hseg.ofJob
  by_contra hsilent
  rw [← hseg.ofJob] at hsilent
  refine hok ⟨s, hseg.mem, hseg.ref, hothers, ?_, hsilent⟩
  unfold segmentTarget at ht
  split at ht
  next =>
    obtain ⟨_, -, ht⟩ := bind_eq_ok.1 ht
    obtain rfl := Except.ok.inj ht
    simp at htarget
  next hop =>
    obtain ⟨_, -, ht⟩ := bind_eq_ok.1 ht
    obtain rfl := Except.ok.inj ht
    rcases hwrite.cases hs₁ with ⟨hold, hne⟩ | ⟨g, -, -, rfl⟩
    · exact .inl ⟨hop, s₁, hold, hof₁.trans hseg.ofJob.symm, hne, hsub₁⟩
    · cases hsub₁
  next hop =>
    obtain ⟨_, -, ht⟩ := bind_eq_ok.1 ht
    obtain ⟨next, hnext, ht⟩ := bind_eq_ok.1 ht
    obtain ⟨_, -, ht⟩ := bind_eq_ok.1 ht
    obtain rfl := Except.ok.inj ht
    obtain ⟨hrestore, hrestorable⟩ := Option.filter_eq_some_iff.1 (orRaise_eq_ok.1 hnext)
    refine .inr ⟨hop, ?_⟩
    rcases htarget with hsub | hskip
    · rw [hrestore, ← hsub]
    · have hnext : next = .skipped := hskip
      subst hnext
      simp [SegmentStatus.Restorable] at hrestorable

theorem WritesSegment.same {jobRef ref segmentRef : String} {f : SegmentRow → SegmentRow}
    {s : SegmentRow} (h : WritesSegment segmentRef f w w')
    (hseg : WaitingSegment w jobRef segmentRef s) (hf : ∀ g, (f g).jobRef = g.jobRef)
    (hne : ref ≠ jobRef) : SameSegments ref w w' := by
  refine .of_map h (fun g hg hgRef => ?_) hf hne
  obtain rfl : g = s := Table.eq_of_key hg hseg.mem (hgRef.trans hseg.ref.symm)
  exact hseg.ofJob

theorem HandedOver.submitted {jobRef segmentRef handoffRef : String} {s : SegmentRow}
    {revisions : Table RevisionRow} {n : ℕ} (hw : HandedOver w)
    (hseg : WaitingSegment w jobRef segmentRef s)
    (hemission : SubmittedEmission now handoffRef jobRef
      ({ w with revisions }.submitAs now jobRef segmentRef n) w')
    (hsends : Sends w.handoffs w'.handoffs) : HandedOver w' := by
  intro j' hj' hwait hresolved
  by_cases hof : j'.jobRef = jobRef
  · rw [hof] at hresolved ⊢
    exact hemission.emitted hresolved
  · obtain ⟨handoffs, rfl⟩ := hemission.eq
    have hkept : WaitingKept w { ({ w with revisions }.submitAs now jobRef segmentRef n) with
        handoffs } := .of_write rfl (fun _ => rfl) fun _ h => h
    have hwrite : WritesSegment segmentRef _ w { ({ w with revisions }.submitAs now jobRef
      segmentRef n) with handoffs } := rfl
    exact hw.of_same hsends (hkept j' hj' hwait) (hwrite.same hseg (fun _ => rfl) hof) hresolved

/-- Each effect hands a job over that it resolves, unless it is a skip or an unskip. -/
theorem Effect.handedOver (h : Effect now w a w') (hw : HandedOver w) (hok : Announces w a) :
    HandedOver w' := by
  have hsends := h.sends
  by_cases hsubmit : ∃ ref, a = .submit ref
  · obtain ⟨ref, rfl⟩ := hsubmit
    cases h with
    | same => exact hw
    | submitted segment drafted draftRef revision emission =>
      exact hw.submitted segment emission hsends
    | closed by' =>
      rcases by' with h | ⟨q, h | h, -⟩ <;> cases h
    | publicationFailed by' | fixFailed by' | cancelledJobRunFailed by' | jobRunFailed by'
      | postprocessingFailed by' => rcases by' with h | ⟨h, -⟩ <;> cases h
  · intro j' hj' hwait hresolved
    cases h.segmentMove with
    | still segments drafts revisions waiting =>
      refine hw.of_same hsends (waiting j' hj' hwait) (fun s _ => ?_) hresolved
      rw [segments]
    | moved jobRef pre status segments drafts revisions waiting left worked becomes step =>
      exact hw.of_same hsends (waiting j' hj' hwait)
        (.of_map (congrArg Table.rows segments) (fun s _ hp => hp.1) (fun _ => rfl)
          fun href => left j' hj' href hwait) hresolved
    | @inserted _ _ jobRef items segmentRef nonempty segments drafts revisions waiting =>
      obtain ⟨hkeep, hnew, hfirst⟩ := insertSegments_ok segments
      by_cases hof : j'.jobRef = jobRef
      · obtain ⟨⟨s, hs, hsof, hordinal⟩, hnone⟩ := hfirst nonempty
        have hstatus : s.status = SegmentStatus.pendingInitialAnnotation := by
          rcases hnew s hs with hold | ⟨hnew, -⟩
          · exact absurd hordinal (hnone s hold hsof)
          · exact hnew.status
        have hall := (resolved_iff.1 hresolved).1 s hs (hsof.trans hof.symm)
        simp [hstatus] at hall
      · refine hw.of_same hsends (waiting j' hj' hwait hof)
          (fun s hsof => ⟨fun hs => ?_, hkeep s⟩) hresolved
        rcases hnew s hs with hold | ⟨hnew, -⟩
        · exact hold
        · exact absurd (hsof.symm.trans hnew.job) hof
    | @drafted _ jobRef s draft segment editable result =>
      subst result
      have hkept : WaitingKept w (w.draftSegment now jobRef draft) :=
        .of_write rfl (fun _ => rfl) fun _ h => h
      have hwrite : WritesSegment draft.segmentRef _ w (w.draftSegment now jobRef draft) := rfl
      by_cases hof : j'.jobRef = jobRef
      · have hmem := hwrite.mem segment.mem
        rw [if_pos segment.ref] at hmem
        have hall := (resolved_iff.1 hresolved).1 _ hmem (segment.ofJob.trans hof.symm)
        rcases hall with hstatus | hstatus <;> cases hstatus
      · exact hw.of_same hsends (hkept j' hj' hwait) (hwrite.same segment (fun _ => rfl) hof)
          hresolved
    | submitted => exact absurd ⟨_, rfl⟩ hsubmit
    | @acted _ q s t segment target result =>
      subst result
      have hkept : WaitingKept w (w.actOn now q.jobRef q.segmentRef t) :=
        .of_write rfl (fun _ => rfl) fun _ h => h
      have hwrite : WritesSegment q.segmentRef _ w (w.actOn now q.jobRef q.segmentRef t) := rfl
      by_cases hof : j'.jobRef = q.jobRef
      · rw [hof] at hresolved ⊢
        have hemitted : w.Emitted q.jobRef .initialAnnotationSubmitted :=
          actOn_resolved segment target (hok _ _ rfl) hresolved
        exact hemitted
      · exact hw.of_same hsends (hkept j' hj' hwait) (hwrite.same segment (fun _ => rfl) hof)
          hresolved

/-- A `segment_action` that gets past its guards and resolves its job, which has no handoff. -/
def ActsSilently (s : System) (e : Event) : Prop :=
  ∃ q key, e = .call (.segmentAction q key) ∧ ActAccepted s.store.db q key ∧
    ResolvesSilently s.workflow q.operation q.segmentRef

theorem announces_of_makes {s : System} {e : Event} (h : ¬ ActsSilently s e)
    (ha : e.Makes s a) : Announces s.workflow a := by
  rintro operation ref rfl hsilent
  cases ha with
  | call makes =>
    cases makes with
    | act accepted => exact h ⟨_, _, rfl, accepted, hsilent⟩

theorem announces_stop (w : Workflow) (runRef : String) :
    Announces w (.stop (interruption runRef)) := by
  rintro operation ref ⟨⟩

/-- A job that its projection calls ready for Tracking has one handoff. -/
def ReadyHandedOver (s : System) : Prop :=
  ∀ j ∈ s.workflow.jobs, (jobView s.store.db j).readyForTracking = true →
    ∃! h, h ∈ s.workflow.handoffs ∧ h.jobRef = j.jobRef ∧ h.kind = .initialAnnotationSubmitted

theorem readyHandedOver_of {s : System} (h : HandedOver s.workflow)
    (honce : HandedOverOnce s.workflow) : ReadyHandedOver s := by
  intro j hj hready
  obtain ⟨hwait, hresolved⟩ := (readyForTracking_iff s.store.db j).1 hready
  obtain ⟨x, hx, hof, hkind⟩ := h j hj hwait hresolved
  refine ⟨x, ⟨hx, hof, hkind⟩, ?_⟩
  rintro y ⟨hy, hof', hkind'⟩
  exact honce x hx hkind y hy hkind' (hof'.trans hof.symm)

theorem SystemRun.handedOverOnce {l : List (Transition System Event)} {s : System}
    (h : SystemRun l s) :
    HandedOverOnce s.workflow ∧ ∀ x ∈ l, HandedOverOnce x.post.workflow := by
  have hstep : ∀ now w a w', HandedOverOnce w → True → Effect now w a w' → HandedOverOnce w' :=
    fun _ _ _ _ hw _ heffect => heffect.sends.once hw
  obtain ⟨hlast, hall⟩ := h.keeps (fun _ hh => absurd hh (Table.not_mem_empty _))
    (fun _ _ => trivial) (fun _ _ _ _ => trivial) hstep
  exact ⟨hlast, fun x hx => (hall x hx).2⟩

/-- No job has two handoffs to Tracking, and each job that is ready for it has one in runs in
which no skip or unskip resolves a job that was not handed over. -/
theorem ready_jobs_handed_over {l : List (Transition System Event)} {s : System}
    (h : SystemRun l s) :
    (HandedOverOnce s.workflow ∧ ∀ x ∈ l, HandedOverOnce x.post.workflow) ∧
      ((∀ x ∈ l, ¬ ActsSilently x.pre x.label) →
        ReadyHandedOver s ∧ ∀ x ∈ l, ReadyHandedOver x.post) := by
  refine ⟨h.handedOverOnce, fun hl => ?_⟩
  obtain ⟨honce, hallOnce⟩ := h.handedOverOnce
  obtain ⟨hlast, hall⟩ := h.keeps (fun _ hj => absurd hj (Table.not_mem_empty _)) announces_stop
    (fun x hx a ha => announces_of_makes (hl x hx) ha)
    fun now w a w' hw hok heffect => heffect.handedOver hw hok
  exact ⟨readyHandedOver_of hlast honce,
    fun x hx => readyHandedOver_of (hall x hx).2 (hallOnce x hx)⟩

namespace Sample

def submittedLast : List Event :=
  prepare "job_1" "run_1" "2026-01-01" ["clip_a", "clip_b"] ++
    [skip "job_1" "job_1_segment_2" 0, draft "job_1" "job_1_segment_1",
      submit "job_1" "job_1_segment_1" 1]

def skippedLast : List Event :=
  prepare "job_1" "run_1" "2026-01-01" ["clip_a", "clip_b"] ++
    [draft "job_1" "job_1_segment_1", submit "job_1" "job_1_segment_1" 1,
      skip "job_1" "job_1_segment_2" 0]

theorem run_submittedLast : SystemRun (System.initial.trace submittedLast)
    (System.initial.after submittedLast) :=
  System.run_trace _ _ (by decide)

theorem run_skippedLast : SystemRun (System.initial.trace skippedLast)
    (System.initial.after skippedLast) :=
  System.run_trace _ _ (by decide)

end Sample

theorem submittedLast_handed_over :
    ∃ j ∈ (System.initial.after Sample.submittedLast).workflow.jobs,
      ∃! h, h ∈ (System.initial.after Sample.submittedLast).workflow.handoffs ∧
        h.jobRef = j.jobRef ∧ h.kind = .initialAnnotationSubmitted := by
  have hpre : ∀ x ∈ System.initial.trace Sample.submittedLast,
      ∀ g ∈ x.pre.workflow.segments, g.status ≠ .submitted ∧
        g.skipRestoreStatus ≠ some .submitted := by decide
  have hready : ∃ j ∈ (System.initial.after Sample.submittedLast).workflow.jobs,
      (jobView (System.initial.after Sample.submittedLast).store.db j).readyForTracking = true := by
    decide
  obtain ⟨j, hj, hready⟩ := hready
  refine ⟨j, hj, ((ready_jobs_handed_over Sample.run_submittedLast).2 ?_).1 j hj hready⟩
  rintro x hx ⟨q, key, -, -, ⟨g, hg, -, -, ⟨-, s, hs, -, -, hsub⟩ | ⟨-, hrestore⟩, -⟩⟩
  · exact (hpre x hx s hs).1 hsub
  · exact (hpre x hx g hg).2 hrestore

theorem skippedLast_not_handed_over :
    ¬ ∀ (l : List (Transition System Event)) (s : System), SystemRun l s →
      (ReadyHandedOver s ∧ HandedOverOnce s.workflow) ∧
        ∀ x ∈ l, ReadyHandedOver x.post ∧ HandedOverOnce x.post.workflow := by
  intro h
  have hready : ∃ j ∈ (System.initial.after Sample.skippedLast).workflow.jobs,
      (jobView (System.initial.after Sample.skippedLast).store.db j).readyForTracking = true := by
    decide
  have hsilent : ∀ x ∈ (System.initial.after Sample.skippedLast).workflow.handoffs,
      x.kind ≠ .initialAnnotationSubmitted := by decide
  obtain ⟨j, hj, hready⟩ := hready
  obtain ⟨x, ⟨hx, -, hkind⟩, -⟩ := (h _ _ Sample.run_skippedLast).1.1 j hj hready
  exact hsilent x hx hkind

end DataJuicer.Annotation
