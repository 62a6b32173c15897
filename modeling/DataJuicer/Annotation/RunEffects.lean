import DataJuicer.Annotation.CallEffects

/-! # The calls of workers and reviewers have their effects -/

namespace DataJuicer.Annotation

open Transaction

variable {now : Timestamp} {db db' : Database}

theorem insertStep_ok {step : StepRow} (h : insertStep step db = .ok db') :
    ∃ steps, db' = { db with steps } := by
  obtain ⟨steps, -, h⟩ := bind_eq_ok.1 h
  exact ⟨steps, (Except.ok.inj h).symm⟩

theorem startRuntimeStep_performs {runRef code : String}
    (h : startRuntimeStep now runRef code db = .ok db') :
    Performs now db (.startRuntimeStep runRef code) db' := by
  obtain ⟨_, -, h⟩ := bind_eq_ok.1 h
  obtain ⟨_, -, h⟩ := bind_eq_ok.1 h
  obtain ⟨_, -, h⟩ := bind_eq_ok.1 h
  obtain ⟨steps, rfl⟩ := insertStep_ok h
  exact .quiet _ rfl rfl

theorem beginPostprocessingPublication_performs {runRef : String}
    (h : (beginPostprocessingPublication now runRef db).map Prod.snd = .ok db') :
    Performs now db (.beginPostprocessingPublication runRef) db' := by
  cases hm : beginPostprocessingPublication now runRef db with
  | error e =>
    rw [hm] at h
    cases h
  | ok x =>
    rw [hm] at h
    obtain rfl : x.2 = db' := Except.ok.inj h
    obtain ⟨r, -, hm⟩ := bind_eq_ok.1 hm
    obtain ⟨_, -, hm⟩ := bind_eq_ok.1 hm
    obtain ⟨j, -, hm⟩ := bind_eq_ok.1 hm
    obtain ⟨_, -, hm⟩ := bind_eq_ok.1 hm
    split at hm
    · obtain rfl := Except.ok.inj hm
      exact .quiet _ rfl rfl
    · obtain ⟨_, -, hm⟩ := bind_eq_ok.1 hm
      obtain ⟨db₁, hstep, hm⟩ := bind_eq_ok.1 hm
      obtain ⟨steps, rfl⟩ := insertStep_ok hstep
      obtain rfl := Except.ok.inj hm
      exact .quiet _ rfl rfl

theorem finishRuntimeStep_performs {runRef code ref : String} {result : StepResult}
    (h : finishRuntimeStep now runRef code result ref db = .ok db') :
    Performs now db (.finishRuntimeStep runRef code result ref) db' := by
  obtain ⟨_, -, h⟩ := bind_eq_ok.1 h
  obtain ⟨_, -, h⟩ := bind_eq_ok.1 h
  obtain ⟨_, -, h⟩ := bind_eq_ok.1 h
  obtain ⟨_, -, h⟩ := bind_eq_ok.1 h
  obtain rfl := Except.ok.inj h
  exact .quiet _ rfl rfl

theorem failActiveRuntimeStep_performs {runRef ref : String} {returnCode : Option ℤ}
    {kind : DiagnosticKind} (h : failActiveRuntimeStep now runRef returnCode kind ref
      db = .ok db') :
    Performs now db (.failActiveRuntimeStep runRef returnCode kind ref) db' := by
  obtain ⟨_, -, h⟩ := bind_eq_ok.1 h
  obtain ⟨_, -, h⟩ := bind_eq_ok.1 h
  split at h
  · obtain rfl := Except.ok.inj h
    exact .quiet _ rfl rfl
  · obtain rfl := Except.ok.inj h
    exact .quiet _ rfl rfl

def OnlyRun (runRef : String) (w w' : Workflow) : Prop :=
  ∀ r, r.runRef ≠ runRef → (r ∈ w'.runs ↔ r ∈ w.runs)

theorem OnlyRun.of_rows {runRef : String} {w w' : Workflow} {f : RunRow → RunRow}
    (h : w'.runs.rows = w.runs.rows.map fun r => if r.runRef = runRef then f r else r)
    (hf : ∀ r, (f r).runRef = r.runRef) : OnlyRun runRef w w' := by
  intro r hr
  change r ∈ w'.runs.rows ↔ r ∈ w.runs.rows
  rw [h, List.mem_map]
  constructor
  · rintro ⟨s, hs, rfl⟩
    split at hr
    next heq =>
      exact absurd ((hf s).trans heq) hr
    next hne =>
      rwa [if_neg hne]
  · exact fun hmem => ⟨r, hmem, if_neg hr⟩

theorem failJobRun_effect {q : RunFailure} {refs : FailureRefs} {a : Change} {r : RunRow}
    {j : JobRow} (ha : FailsBy a q r) (hrun : RunOf db.toWorkflow r j) (href : r.runRef = q.runRef)
    (hkind : r.kind ≠ .fix ∧ r.kind ≠ .compatibilityPublish)
    (hkept : ¬ (r.status = .failed ∧ r.failureCode = some recoveryRequired))
    (h : failJobRun now q refs r j db = .ok db') :
    Effect now db.toWorkflow a db'.toWorkflow ∧ db'.audit = db.audit ∧
      OnlyRun q.runRef db.toWorkflow db'.toWorkflow := by
  unfold failJobRun at h
  dsimp only at h
  split at h
  next hcancelled =>
    obtain rfl := Except.ok.inj h
    exact ⟨.cancelledJobRunFailed ha hrun href hcancelled hkind hkept, rfl,
      .of_rows rfl fun _ => rfl⟩
  next huncancelled =>
    split at h
    next hpost =>
      obtain ⟨db₁, hemit, h⟩ := bind_eq_ok.1 h
      obtain rfl := Except.ok.inj h
      unfold emitPostprocessingFailed at hemit
      split at hemit
      · obtain ⟨_, -, hemit⟩ := bind_eq_ok.1 hemit
        obtain ⟨hemits, haudit⟩ := insertHandoff_ok hemit
        have hruns : db₁.runs = _ := congrArg Workflow.runs hemits.choose_spec.2
        exact ⟨.postprocessingFailed ha hrun href huncancelled hpost hkept
          (.inr ⟨_, rfl, hemits⟩), haudit, .of_rows (congrArg Table.rows hruns) fun _ => rfl⟩
      · obtain rfl := Except.ok.inj hemit
        exact ⟨.postprocessingFailed ha hrun href huncancelled hpost hkept (.inl rfl), rfl,
          .of_rows rfl fun _ => rfl⟩
    next hpost =>
      obtain rfl := Except.ok.inj h
      refine ⟨.jobRunFailed ha hrun href huncancelled ?_ hkept, rfl, .of_rows rfl fun _ => rfl⟩
      cases hk : r.kind with
      | prepare => exact .inl rfl
      | tracking => exact .inr rfl
      | postprocessing => exact absurd hk hpost
      | fix => exact absurd hk hkind.1
      | compatibilityPublish => exact absurd hk hkind.2

/-- What the failure of a run does; it is a failure by `a` as far as the run goes. -/
theorem failRunConn_effect {q : RunFailure} {refs : FailureRefs} {a : Change}
    (h : failRunConn now q refs db = .ok db')
    (ha : ∀ r ∈ db.runs, r.runRef = q.runRef → FailsBy a q r) :
    Effect now db.toWorkflow a db'.toWorkflow ∧ db'.audit = db.audit ∧
      OnlyRun q.runRef db.toWorkflow db'.toWorkflow := by
  obtain ⟨r, hr, h⟩ := bind_eq_ok.1 h
  obtain ⟨j, hj, h⟩ := bind_eq_ok.1 h
  obtain ⟨hmem, href⟩ : r ∈ db.runs ∧ r.runRef = q.runRef :=
    Table.find?_eq_some_iff.1 (orRaise_eq_ok.1 hr)
  obtain ⟨hjob, hjobRef⟩ := jobRow_eq_ok.1 hj
  have hrun : RunOf db.toWorkflow r j := ⟨hmem, hjob, hjobRef⟩
  have ha := ha r hmem href
  split at h
  next hcancel =>
    obtain rfl := Except.ok.inj h
    refine ⟨?_, rfl, .of_rows rfl fun _ => rfl⟩
    rw [← href]
    have hcloses : ClosesBy a r := by
      refine .inr ⟨q, ?_, href.symm, hcancel.1⟩
      rcases ha with ha | ⟨ha, -⟩
      · exact .inl ha
      · exact .inr ha
    exact .closed hcloses hrun hcancel.2.1 (.inr hcancel.2.2)
  next =>
    split at h
    next =>
      obtain rfl := Except.ok.inj h
      exact ⟨.same _ a, rfl, fun _ _ => Iff.rfl⟩
    next hkept =>
      split at h
      next hkind =>
        obtain ⟨link, hlink, h⟩ := bind_eq_ok.1 h
        obtain ⟨p, hp, h⟩ := bind_eq_ok.1 h
        obtain ⟨_, hrunning, h⟩ := bind_eq_ok.1 h
        obtain rfl := Except.ok.inj h
        obtain ⟨hpmem, hpRef⟩ : p ∈ db.publications ∧ p.publicationRef = link.publicationRef :=
          Table.find?_eq_some_iff.1 (orRaise_eq_ok.1 hp)
        refine ⟨?_, rfl, .of_rows rfl fun _ => rfl⟩
        rw [← hpRef]
        exact .publicationFailed ha hrun href hkind hkept hpmem
          (not_not.1 (raiseIf_eq_ok.1 hrunning))
      next hkind =>
        obtain ⟨link, -, h⟩ := bind_eq_ok.1 h
        obtain rfl := Except.ok.inj h
        exact ⟨.fixFailed ha hrun href hkind hkept, rfl, .of_rows rfl fun _ => rfl⟩
      next hpublish hfix =>
        exact failJobRun_effect ha hrun href ⟨hfix, hpublish⟩ hkept h

/-- A failure of a publication run that is not running finds its publication running. -/
theorem failAccepted_of {q : RunFailure} {refs : FailureRefs}
    (h : failRun now q refs db = .ok db') : FailAccepted db q := by
  refine ⟨fun r hr href hstopped hkept hkind => ?_⟩
  obtain ⟨r', hr', h⟩ := bind_eq_ok.1 h
  obtain ⟨j, hj, h⟩ := bind_eq_ok.1 h
  obtain ⟨hmem, href'⟩ : r' ∈ db.runs ∧ r'.runRef = q.runRef :=
    Table.find?_eq_some_iff.1 (orRaise_eq_ok.1 hr')
  obtain rfl : r' = r := Table.eq_of_key hmem hr (href'.trans href.symm)
  split at h
  next hcancel => exact absurd hcancel.2.1 hstopped
  next =>
    rw [hkind] at h
    obtain ⟨link, hlink, h⟩ := bind_eq_ok.1 h
    obtain ⟨p, hp, h⟩ := bind_eq_ok.1 h
    obtain ⟨_, hrunning, -⟩ := bind_eq_ok.1 h
    rw [href]
    exact ⟨link, p, orRaise_eq_ok.1 hlink, orRaise_eq_ok.1 hp,
      not_not.1 (raiseIf_eq_ok.1 hrunning)⟩

theorem failRun_performs {q : RunFailure} {refs : FailureRefs}
    (h : failRun now q refs db = .ok db') : Performs now db (.failRun q refs) db' := by
  obtain ⟨heffect, haudit, -⟩ := failRunConn_effect (a := .fail q) h fun _ _ _ => .inl rfl
  exact ⟨⟨_, .fail (failAccepted_of h), heffect⟩, haudit⟩

theorem mem_segmentsOf {w : Workflow} {jobRef : String} {s : SegmentRow} :
    s ∈ segmentsOf w jobRef ↔ s ∈ w.segments ∧ s.jobRef = jobRef := by
  simp only [segmentsOf, List.mem_insertionSort, Table.mem_select]

theorem completePrepare_performs {q : PrepareResult} {refs : PrepareRefs}
    (h : completePrepare now q refs db = .ok db') :
    Performs now db (.completePrepare q refs) db' := by
  obtain ⟨r, hr, h⟩ := bind_eq_ok.1 h
  obtain ⟨j, hj, h⟩ := bind_eq_ok.1 h
  obtain ⟨⟨hmem, href⟩, hrunning⟩ := runningRun_eq_ok.1 hr
  obtain ⟨hjob, hjobRef⟩ := jobRow_eq_ok.1 hj
  have hrun : RunOf db.toWorkflow r j := ⟨hmem, hjob, hjobRef⟩
  have hstop : ∀ (f : RunFailure), f.runRef = q.runRef →
      ∀ r' ∈ db.runs, r'.runRef = f.runRef → FailsBy (.stop f) f r' := by
    intro f hf r' hr' hr'Ref
    obtain rfl : r' = r := Table.eq_of_key hr' hmem ((hr'Ref.trans hf).trans href.symm)
    exact .inr ⟨rfl, hrunning⟩
  split at h
  next hcancelling =>
    obtain rfl := Except.ok.inj h
    refine ⟨⟨_, .finish rfl, ?_⟩, rfl⟩
    rw [← href]
    exact .closed (.inl rfl) hrun hrunning hcancelling
  next =>
    obtain ⟨_, hpreparing, h⟩ := bind_eq_ok.1 h
    obtain ⟨_, -, h⟩ := bind_eq_ok.1 h
    split at h
    next =>
      obtain ⟨heffect, haudit, -⟩ := failRunConn_effect h (hstop _ rfl)
      exact ⟨⟨_, .noSegments q refs, heffect⟩, haudit⟩
    next hnonempty =>
      split at h
      next =>
        obtain ⟨heffect, haudit, -⟩ := failRunConn_effect h (hstop _ rfl)
        exact ⟨⟨_, .badSegments q refs, heffect⟩, haudit⟩
      next =>
        obtain ⟨segments, hsegments, h⟩ := bind_eq_ok.1 h
        obtain ⟨db₁, hemit, h⟩ := bind_eq_ok.1 h
        obtain rfl := Except.ok.inj h
        obtain ⟨hemits, haudit⟩ := insertHandoff_ok hemit
        refine ⟨⟨_, .finish rfl, ?_⟩, haudit⟩
        rw [← href]
        exact .prepared hrun hrunning (not_not.1 (raiseIf_eq_ok.1 hpreparing)) hnonempty hsegments
          rfl hemits

theorem recordTrackingCheckpoint_performs {q : TrackingCheckpoint}
    (h : recordTrackingCheckpoint now q db = .ok db') :
    Performs now db (.recordTrackingCheckpoint q) db' := by
  obtain ⟨r, -, h⟩ := bind_eq_ok.1 h
  obtain ⟨_, -, h⟩ := bind_eq_ok.1 h
  obtain ⟨j, -, h⟩ := bind_eq_ok.1 h
  obtain ⟨_, -, h⟩ := bind_eq_ok.1 h
  obtain ⟨_, -, h⟩ := bind_eq_ok.1 h
  obtain ⟨s, -, h⟩ := bind_eq_ok.1 h
  obtain ⟨revision, -, h⟩ := bind_eq_ok.1 h
  obtain ⟨_, -, h⟩ := bind_eq_ok.1 h
  dsimp only at h
  split at h
  · obtain ⟨_, -, h⟩ := bind_eq_ok.1 h
    obtain rfl := Except.ok.inj h
    exact .quiet _ rfl rfl
  · obtain ⟨checkpoints, -, h⟩ := bind_eq_ok.1 h
    obtain ⟨steps, rfl⟩ := insertStep_ok h
    exact .quiet _ rfl rfl

theorem completeTracking_performs {runRef ref : String} {commandSteps : Option (List String)}
    (h : completeTracking now runRef commandSteps ref db = .ok db') :
    Performs now db (.completeTracking runRef commandSteps ref) db' := by
  obtain ⟨r, hr, h⟩ := bind_eq_ok.1 h
  obtain ⟨j, hj, h⟩ := bind_eq_ok.1 h
  obtain ⟨⟨hmem, rfl⟩, hrunning⟩ := runningRun_eq_ok.1 hr
  obtain ⟨hjob, hjobRef⟩ := jobRow_eq_ok.1 hj
  have hrun : RunOf db.toWorkflow r j := ⟨hmem, hjob, hjobRef⟩
  split at h
  next hcancelling =>
    obtain rfl := Except.ok.inj h
    exact ⟨⟨_, .finish rfl, .closed (.inl rfl) hrun hrunning hcancelling⟩, rfl⟩
  next =>
    obtain ⟨_, htracking, h⟩ := bind_eq_ok.1 h
    obtain ⟨_, -, h⟩ := bind_eq_ok.1 h
    obtain ⟨_, -, h⟩ := bind_eq_ok.1 h
    obtain ⟨_, -, h⟩ := bind_eq_ok.1 h
    obtain ⟨db₁, hemit, h⟩ := bind_eq_ok.1 h
    obtain rfl := Except.ok.inj h
    obtain ⟨hemits, haudit⟩ := insertHandoff_ok hemit
    exact ⟨⟨_, .finish rfl, .tracked hrun hrunning (not_not.1 (raiseIf_eq_ok.1 htracking)) rfl
      hemits⟩, haudit⟩

theorem completeCancelledRun_performs {runRef : String}
    (h : completeCancelledRun now runRef db = .ok db') :
    Performs now db (.completeCancelledRun runRef) db' := by
  obtain ⟨r, hr, h⟩ := bind_eq_ok.1 h
  obtain ⟨hmem, rfl⟩ : r ∈ db.runs ∧ r.runRef = runRef :=
    Table.find?_eq_some_iff.1 (orRaise_eq_ok.1 hr)
  split at h
  next =>
    obtain rfl := Except.ok.inj h
    exact .quiet _ rfl rfl
  next =>
    obtain ⟨_, hrunning, h⟩ := bind_eq_ok.1 h
    obtain ⟨j, hj, h⟩ := bind_eq_ok.1 h
    obtain ⟨_, hrequest, h⟩ := bind_eq_ok.1 h
    obtain rfl := Except.ok.inj h
    obtain ⟨hjob, hjobRef⟩ := jobRow_eq_ok.1 hj
    have hcancelling : j.Cancelling := .inr (by simpa using raiseIf_eq_ok.1 hrequest)
    exact ⟨⟨_, .finish rfl, .closed (.inl rfl) ⟨hmem, hjob, hjobRef⟩
      (not_not.1 (raiseIf_eq_ok.1 hrunning)) hcancelling⟩, rfl⟩

/-- What the loop writes to a segment that it has a result for. -/
def SegmentRow.annotate (now : Timestamp) (s : SegmentRow) : SegmentRow :=
  { s with status := .annotated, stateRevision := s.stateRevision + 1, updatedAt := now }

theorem SegmentRow.key_annotate (now : Timestamp) (s : SegmentRow) :
    key (s.annotate now) = key s := rfl

def Workflow.withSegments (segments : Table SegmentRow) (w : Workflow) : Workflow :=
  { w with segments }

theorem insertTrajectory_ok {jobRef segmentRef : String} {refs : TrajectoryRefs}
    {item : TrajectoryResult} (h : insertTrajectory now jobRef segmentRef refs item db = .ok db') :
    db'.toWorkflow = db.toWorkflow.withSegments (db.segments.update
      (fun s => s.segmentRef = segmentRef) (SegmentRow.annotate now)
      (SegmentRow.key_annotate now)) ∧
        db'.audit = db.audit := by
  obtain ⟨row, -, h⟩ := bind_eq_ok.1 h
  obtain ⟨trajectories, -, h⟩ := bind_eq_ok.1 h
  obtain ⟨reviews, -, h⟩ := bind_eq_ok.1 h
  obtain rfl := Except.ok.inj h
  exact ⟨rfl, rfl⟩

theorem insertTrajectories_ok {jobRef : String} {refs : ℕ → TrajectoryRefs} {n : ℕ}
    {items : List (String × TrajectoryResult)} (hitems : (items.map Prod.fst).Nodup)
    (h : insertTrajectories now jobRef refs n items db = .ok db') :
    db'.toWorkflow = db.toWorkflow.withSegments (db.segments.update
      (fun s => s.segmentRef ∈ items.map Prod.fst) (SegmentRow.annotate now)
        (SegmentRow.key_annotate now)) ∧ db'.audit = db.audit := by
  induction items generalizing n db with
  | nil =>
    obtain rfl := Except.ok.inj h
    rw [Table.update_eq_self (by simp)]
    exact ⟨rfl, rfl⟩
  | cons item rest ih =>
    obtain ⟨ref, item⟩ := item
    obtain ⟨hfresh, hrest⟩ := List.nodup_cons.1 hitems
    obtain ⟨db₁, hone, h⟩ := bind_eq_ok.1 h
    obtain ⟨hone, hauditOne⟩ := insertTrajectory_ok hone
    obtain ⟨hw, haudit⟩ := ih hrest h
    have hsegments : db₁.segments = db.segments.update (fun s => s.segmentRef = ref)
        (SegmentRow.annotate now) (SegmentRow.key_annotate now) :=
      congrArg Workflow.segments hone
    refine ⟨?_, haudit.trans hauditOne⟩
    rw [hw, hsegments, hone, Table.update_update]
    · have hclause : ∀ s ∈ db.segments, (s.segmentRef = ref ∨ s.segmentRef ∈ rest.map Prod.fst) ↔
          s.segmentRef ∈ ((ref, item) :: rest).map Prod.fst := by simp
      rw [Table.update_congr hclause]
      rfl
    · rintro s - rfl
      exact hfresh

/-- What `_complete_postprocessing_conn` does to the workflow. -/
theorem completePostprocessingConn_ok {jobRef : String} {items : List TrajectoryResult}
    {refs : PostprocessingRefs}
    (h : completePostprocessingConn now jobRef items refs db = .ok db') :
    ∃ w, Emits ⟨refs.fixReadyRef, jobRef, none, .fixReady, .reviewCount jobRef
        (((segmentsOf db.toWorkflow jobRef).filter fun s => s.status = .postprocessing).map
          SegmentRow.segmentRef).length, now⟩
        ((db.toWorkflow.moveSegments now jobRef (· = .postprocessing) .annotated).setJob now jobRef
          fun j => { j with
            status := .annotated, completionOutcome := some "postprocessing_complete" }) w ∧
      Emits ⟨refs.completedRef, jobRef, none, .postprocessingCompleted, .reviewCount jobRef
        (((segmentsOf db.toWorkflow jobRef).filter fun s => s.status = .postprocessing).map
          SegmentRow.segmentRef).length, now⟩ w db'.toWorkflow ∧ db'.audit = db.audit := by
  unfold completePostprocessingConn at h
  dsimp only at h
  set expected := ((segmentsOf db.toWorkflow jobRef).filter fun s =>
    s.status = .postprocessing).map SegmentRow.segmentRef with hexpected
  obtain ⟨_, hscope, h⟩ := bind_eq_ok.1 h
  obtain ⟨db₁, hloop, h⟩ := bind_eq_ok.1 h
  obtain ⟨db₂, hready, h⟩ := bind_eq_ok.1 h
  have hscope := raiseIf_eq_ok.1 hscope
  push Not at hscope
  have hlength : expected.length ≤ items.length := by
    rw [← hscope.2, List.length_map]
  have hfst : (expected.zip items).map Prod.fst = expected := List.map_fst_zip hlength
  have hnodup : expected.Nodup := by
    have hperm : List.Nodup ((segmentsOf db.toWorkflow jobRef).map SegmentRow.segmentRef) := by
      have hsub := (List.filter_sublist (p := fun s => decide (s.jobRef = jobRef))
        (l := db.segments.rows)).map SegmentRow.segmentRef
      have hsel : ((db.segments.select fun s => s.jobRef = jobRef).map
          SegmentRow.segmentRef).Nodup := db.segments.nodup_keys.sublist hsub
      exact ((List.perm_insertionSort _ _).map _).nodup_iff.2 hsel
    exact hperm.sublist (List.filter_sublist.map _)
  obtain ⟨hw, haudit₁⟩ := insertTrajectories_ok (by rwa [hfst]) hloop
  have hmove : db₁.toWorkflow =
      db.toWorkflow.moveSegments now jobRef (· = .postprocessing) .annotated := by
    rw [hw, hfst]
    refine congrArg (Workflow.withSegments · db.toWorkflow) (Table.update_congr fun s hs => ?_)
    simp only [hexpected, List.mem_map, List.mem_filter, mem_segmentsOf, decide_eq_true_eq]
    constructor
    · rintro ⟨s', ⟨⟨hs', hof⟩, hstatus⟩, href⟩
      obtain rfl : s' = s := Table.eq_of_key hs' hs href
      exact ⟨hof, hstatus⟩
    · rintro ⟨hof, hstatus⟩
      exact ⟨s, ⟨⟨hs, hof⟩, hstatus⟩, rfl⟩
  obtain ⟨hemitsReady, haudit₂⟩ := insertHandoff_ok hready
  obtain ⟨hemitsCompleted, haudit₃⟩ := insertHandoff_ok h
  refine ⟨db₂.toWorkflow, ?_, hemitsCompleted, ?_⟩
  · rw [← hmove]
    exact hemitsReady
  · exact haudit₃.trans (haudit₂.trans haudit₁)

theorem completePostprocessingRun_performs {runRef manifest : String}
    {trajectories : List TrajectoryResult} {commandSteps : Option (List String)}
    {refs : PostprocessingRefs}
    (h : completePostprocessingRun now runRef trajectories commandSteps manifest refs db =
      .ok db') :
    Performs now db (.completePostprocessingRun runRef trajectories commandSteps manifest refs)
      db' := by
  obtain ⟨r, hr, h⟩ := bind_eq_ok.1 h
  obtain ⟨_, hkind, h⟩ := bind_eq_ok.1 h
  obtain ⟨j, hj, h⟩ := bind_eq_ok.1 h
  obtain ⟨⟨hmem, rfl⟩, hrunning⟩ := runningRun_eq_ok.1 hr
  obtain ⟨hjob, hjobRef⟩ := jobRow_eq_ok.1 hj
  have hrun : RunOf db.toWorkflow r j := ⟨hmem, hjob, hjobRef⟩
  split at h
  next hcancelling =>
    obtain rfl := Except.ok.inj h
    exact ⟨⟨_, .finish rfl, .closed (.inl rfl) hrun hrunning hcancelling⟩, rfl⟩
  next =>
    obtain ⟨_, hpost, h⟩ := bind_eq_ok.1 h
    obtain ⟨_, -, h⟩ := bind_eq_ok.1 h
    obtain ⟨items, -, h⟩ := bind_eq_ok.1 h
    obtain ⟨db₁, hconn, h⟩ := bind_eq_ok.1 h
    obtain rfl := Except.ok.inj h
    obtain ⟨w, hready, hcompleted, haudit⟩ := completePostprocessingConn_ok hconn
    exact ⟨⟨_, .finish rfl, .postprocessed hrun (not_not.1 (raiseIf_eq_ok.1 hkind))
      (.inr hrunning) (not_not.1 (raiseIf_eq_ok.1 hpost)) rfl rfl hready hcompleted⟩, haudit⟩

theorem postprocessingRun?_ok {w : Workflow} {jobRef : String} {r : RunRow}
    (h : postprocessingRun? w jobRef = some r) :
    r ∈ w.runs ∧ r.jobRef = jobRef ∧ r.kind = .postprocessing :=
  Table.mem_select.1 (List.argmax_mem h)

theorem completePostprocessing_performs {q : PostprocessingResult} {refs : PostprocessingRefs}
    {key : String} (h : (completePostprocessing now q refs key db).map Prod.snd = .ok db') :
    Performs now db (.completePostprocessing q refs key) db' := by
  refine .of_mutate h fun rep db₁ _ h => ?_
  obtain ⟨j, hj, h⟩ := bind_eq_ok.1 h
  obtain ⟨_, hpost, h⟩ := bind_eq_ok.1 h
  obtain ⟨r, hr, h⟩ := bind_eq_ok.1 h
  obtain ⟨db₂, hconn, h⟩ := bind_eq_ok.1 h
  obtain ⟨v, -, h⟩ := bind_eq_ok.1 h
  obtain ⟨rfl, rfl⟩ := Prod.mk.inj (Except.ok.inj h)
  obtain ⟨hjob, hjobRef⟩ := expectedJob_ok hj
  obtain ⟨hfind, hopen⟩ := Option.filter_eq_some_iff.1 (orRaise_eq_ok.1 hr)
  obtain ⟨hmem, hof, hkind⟩ := postprocessingRun?_ok hfind
  obtain ⟨w, hready, hcompleted, haudit⟩ := completePostprocessingConn_ok hconn
  rw [← hof] at hready hcompleted
  have hcompletes : (StoreCall.completePostprocessing q refs key).completes? db =
      some r.runRef := by
    simp only [StoreCall.completes?, hfind, Option.map_some]
  exact ⟨⟨_, .finish hcompletes, .postprocessed ⟨hmem, hjob, hjobRef.trans hof.symm⟩ hkind
    (of_decide_eq_true hopen) (not_not.1 (raiseIf_eq_ok.1 hpost)) rfl rfl hready hcompleted⟩,
    haudit⟩

theorem createFixSession_performs {q : FixSession} {key : String}
    (h : (createFixSession now q key db).map Prod.snd = .ok db') :
    Performs now db (.createFixSession q key) db' := by
  refine .of_mutate h fun rep db₁ _ h => ?_
  obtain ⟨r, -, h⟩ := bind_eq_ok.1 h
  obtain ⟨_, -, h⟩ := bind_eq_ok.1 h
  obtain ⟨jobRef, -, h⟩ := bind_eq_ok.1 h
  obtain ⟨j, -, h⟩ := bind_eq_ok.1 h
  obtain ⟨_, -, h⟩ := bind_eq_ok.1 h
  obtain ⟨_, -, h⟩ := bind_eq_ok.1 h
  obtain ⟨_, -, h⟩ := bind_eq_ok.1 h
  obtain ⟨fixDrafts, -, h⟩ := bind_eq_ok.1 h
  obtain ⟨v, -, h⟩ := bind_eq_ok.1 h
  obtain ⟨rfl, rfl⟩ := Prod.mk.inj (Except.ok.inj h)
  exact .quiet _ rfl rfl

theorem applyFixCommand_performs {q : FixCommand} {key : String}
    (h : (applyFixCommand now q key db).map Prod.snd = .ok db') :
    Performs now db (.applyFixCommand q key) db' := by
  refine .of_mutate h fun rep db₁ _ h => ?_
  obtain ⟨r, -, h⟩ := bind_eq_ok.1 h
  obtain ⟨_, -, h⟩ := bind_eq_ok.1 h
  obtain ⟨_, -, h⟩ := bind_eq_ok.1 h
  obtain ⟨d, -, h⟩ := bind_eq_ok.1 h
  obtain ⟨_, -, h⟩ := bind_eq_ok.1 h
  obtain ⟨_, -, h⟩ := bind_eq_ok.1 h
  obtain ⟨v, -, h⟩ := bind_eq_ok.1 h
  obtain ⟨rfl, rfl⟩ := Prod.mk.inj (Except.ok.inj h)
  exact .quiet _ rfl rfl

theorem createFixRevision_performs {q : FixRevisionRequest} {runRef revisionRef key : String}
    (h : (createFixRevision now q runRef revisionRef key db).map Prod.snd = .ok db') :
    Performs now db (.createFixRevision q runRef revisionRef key) db' := by
  refine .of_mutate h fun rep db₁ hkey h => ?_
  obtain ⟨r, hr, h⟩ := bind_eq_ok.1 h
  obtain ⟨_, hstatus, h⟩ := bind_eq_ok.1 h
  obtain ⟨d, hd, h⟩ := bind_eq_ok.1 h
  obtain ⟨_, hrev, h⟩ := bind_eq_ok.1 h
  obtain ⟨_, hidle, h⟩ := bind_eq_ok.1 h
  obtain ⟨jobRef, hjob, h⟩ := bind_eq_ok.1 h
  obtain ⟨w, hrun, h⟩ := bind_eq_ok.1 h
  obtain ⟨fixLinks, -, h⟩ := bind_eq_ok.1 h
  obtain ⟨v, -, h⟩ := bind_eq_ok.1 h
  obtain ⟨rfl, rfl⟩ := Prod.mk.inj (Except.ok.inj h)
  have hstatus := raiseIf_eq_ok.1 hstatus
  push Not at hstatus
  have haccepted : FixAccepted db q key jobRef :=
    ⟨hkey, ⟨r, d, hr, hstatus.1, hd, not_not.1 (raiseIf_eq_ok.1 hrev), orRaise_eq_ok.1 hjob⟩,
      raiseIf_eq_ok.1 hidle⟩
  exact ⟨⟨_, .fix haccepted, .fixQueued (enqueueRun_eq_ok.1 hrun)⟩, rfl⟩

theorem completeFixRun_performs {q : FixResult} (h : completeFixRun now q db = .ok db') :
    Performs now db (.completeFixRun q) db' := by
  obtain ⟨r, hr, h⟩ := bind_eq_ok.1 h
  obtain ⟨_, hkind, h⟩ := bind_eq_ok.1 h
  obtain ⟨link, -, h⟩ := bind_eq_ok.1 h
  obtain ⟨review, -, h⟩ := bind_eq_ok.1 h
  obtain ⟨draft, -, h⟩ := bind_eq_ok.1 h
  obtain ⟨_, -, h⟩ := bind_eq_ok.1 h
  obtain ⟨_, -, h⟩ := bind_eq_ok.1 h
  obtain ⟨_, -, h⟩ := bind_eq_ok.1 h
  obtain ⟨fixRevisions, -, h⟩ := bind_eq_ok.1 h
  obtain ⟨db₁, hemit, h⟩ := bind_eq_ok.1 h
  obtain rfl := Except.ok.inj h
  obtain ⟨⟨hmem, href⟩, hrunning⟩ := runningRun_eq_ok.1 hr
  obtain ⟨hemits, haudit⟩ := insertHandoff_ok hemit
  refine ⟨⟨_, .finish rfl, ?_⟩, haudit⟩
  rw [← href]
  exact .fixed hmem hrunning (not_not.1 (raiseIf_eq_ok.1 hkind)) (.inl rfl) hemits

theorem decideReview_performs {q : DecisionRequest} {ref key : String}
    (h : (decideReview now q ref key db).map Prod.snd = .ok db') :
    Performs now db (.decideReview q ref key) db' := by
  refine .of_mutate h fun rep db₁ _ h => ?_
  obtain ⟨r, -, h⟩ := bind_eq_ok.1 h
  obtain ⟨_, -, h⟩ := bind_eq_ok.1 h
  obtain ⟨_, -, h⟩ := bind_eq_ok.1 h
  obtain ⟨jobRef, -, h⟩ := bind_eq_ok.1 h
  obtain ⟨db₂, hemit, h⟩ := bind_eq_ok.1 h
  obtain ⟨v, -, h⟩ := bind_eq_ok.1 h
  obtain ⟨rfl, rfl⟩ := Prod.mk.inj (Except.ok.inj h)
  obtain ⟨hemits, haudit⟩ := insertHandoff_ok hemit
  have hkind : q.operation.handoffKind.Fix := by
    cases q.operation with
    | returned => exact .inr (.inl rfl)
    | discarded => exact .inr (.inr rfl)
  exact ⟨⟨.other, .other rfl, .decided hkind hemits⟩, haudit⟩

theorem resumeReturnedReview_performs {q : ResumeRequest} {key : String}
    (h : (resumeReturnedReview now q key db).map Prod.snd = .ok db') :
    Performs now db (.resumeReturnedReview q key) db' := by
  refine .of_mutate h fun rep db₁ _ h => ?_
  obtain ⟨r, -, h⟩ := bind_eq_ok.1 h
  obtain ⟨_, -, h⟩ := bind_eq_ok.1 h
  obtain ⟨v, -, h⟩ := bind_eq_ok.1 h
  obtain ⟨rfl, rfl⟩ := Prod.mk.inj (Except.ok.inj h)
  exact .quiet _ rfl rfl

/-- What `_enqueue_compatibility_publication` does to the workflow. -/
theorem enqueueCompatibilityPublication_ok {jobRef reviewRef fixRevisionRef : String}
    {refs : PublicationRefs}
    (h : enqueueCompatibilityPublication now jobRef reviewRef fixRevisionRef refs db = .ok db') :
    Effect now db.toWorkflow (.publish jobRef fixRevisionRef) db'.toWorkflow ∧
      db'.audit = db.audit := by
  obtain ⟨w, hrun, h⟩ := bind_eq_ok.1 h
  obtain ⟨publications, hpublication, h⟩ := bind_eq_ok.1 h
  obtain ⟨links, -, h⟩ := bind_eq_ok.1 h
  obtain rfl := Except.ok.inj h
  have hqueued := enqueueRun_eq_ok.1 hrun
  obtain ⟨runs, -, rfl⟩ := id hqueued
  exact ⟨.publicationQueued hqueued rfl rfl (orRaise_eq_ok.1 hpublication), rfl⟩

theorem approveFixRevision_performs {q : ApproveRequest} {refs : PublicationRefs} {key : String}
    (h : (approveFixRevision now q refs key db).map Prod.snd = .ok db') :
    Performs now db (.approveFixRevision q refs key) db' := by
  refine .of_mutate h fun rep db₁ hkey h => ?_
  obtain ⟨r, hr, h⟩ := bind_eq_ok.1 h
  obtain ⟨_, hidle, h⟩ := bind_eq_ok.1 h
  obtain ⟨_, hstatus, h⟩ := bind_eq_ok.1 h
  obtain ⟨f, hf, h⟩ := bind_eq_ok.1 h
  obtain ⟨jobRef, hjob, h⟩ := bind_eq_ok.1 h
  obtain ⟨_, hstale, h⟩ := bind_eq_ok.1 h
  obtain ⟨_, hactive, h⟩ := bind_eq_ok.1 h
  obtain ⟨db₂, hpublish, h⟩ := bind_eq_ok.1 h
  obtain ⟨v, -, h⟩ := bind_eq_ok.1 h
  obtain ⟨rfl, rfl⟩ := Prod.mk.inj (Except.ok.inj h)
  obtain ⟨hfind, href⟩ := Option.filter_eq_some_iff.1 (orRaise_eq_ok.1 hf)
  have hstatus' : r.status = .inProgress ∨ r.status = .returned := by
    have hnot := raiseIf_eq_ok.1 hstatus
    tauto
  have haccepted : ApproveAccepted db q key jobRef :=
    ⟨hkey, raiseIf_eq_ok.1 hidle, ⟨r, f, hr, hstatus', hfind, of_decide_eq_true href,
      orRaise_eq_ok.1 hjob, not_not.1 (raiseIf_eq_ok.1 hstale)⟩, raiseIf_eq_ok.1 hactive⟩
  obtain ⟨heffect, haudit⟩ := enqueueCompatibilityPublication_ok hpublish
  exact ⟨⟨_, .approve haccepted, heffect⟩, haudit⟩

theorem retryCompatibilityPublication_performs {q : RetryPublication} {refs : PublicationRefs}
    {key : String} (h : (retryCompatibilityPublication now q refs key db).map Prod.snd = .ok db') :
    Performs now db (.retryCompatibilityPublication q refs key) db' := by
  refine .of_mutate h fun rep db₁ hkey h => ?_
  obtain ⟨r, hr, h⟩ := bind_eq_ok.1 h
  obtain ⟨_, hstatus, h⟩ := bind_eq_ok.1 h
  obtain ⟨p, hp, h⟩ := bind_eq_ok.1 h
  obtain ⟨f, hf, h⟩ := bind_eq_ok.1 h
  obtain ⟨jobRef, hjob, h⟩ := bind_eq_ok.1 h
  obtain ⟨db₂, hpublish, h⟩ := bind_eq_ok.1 h
  obtain ⟨v, -, h⟩ := bind_eq_ok.1 h
  obtain ⟨rfl, rfl⟩ := Prod.mk.inj (Except.ok.inj h)
  obtain ⟨hlatest, hfailed⟩ := Option.filter_eq_some_iff.1 (orRaise_eq_ok.1 hp)
  obtain ⟨hfailed, hrevision⟩ := of_decide_eq_true hfailed
  have hstatus := raiseIf_eq_ok.1 hstatus
  push Not at hstatus
  have haccepted : RepublishAccepted db q key jobRef p.fixRevisionRef :=
    ⟨hkey, r, p, f, hr, hstatus.1, hlatest, hfailed, rfl, hrevision.symm, orRaise_eq_ok.1 hf,
      orRaise_eq_ok.1 hjob⟩
  obtain ⟨heffect, haudit⟩ := enqueueCompatibilityPublication_ok hpublish
  exact ⟨⟨_, .republish haccepted, heffect⟩, haudit⟩

theorem completeCompatibilityPublication_performs {q : PublicationResult}
    (h : completeCompatibilityPublication now q db = .ok db') :
    Performs now db (.completeCompatibilityPublication q) db' := by
  obtain ⟨r, hr, h⟩ := bind_eq_ok.1 h
  obtain ⟨_, hkind, h⟩ := bind_eq_ok.1 h
  obtain ⟨link, -, h⟩ := bind_eq_ok.1 h
  obtain ⟨p, -, h⟩ := bind_eq_ok.1 h
  obtain ⟨review, -, h⟩ := bind_eq_ok.1 h
  obtain ⟨f, -, h⟩ := bind_eq_ok.1 h
  obtain ⟨trajectory, -, h⟩ := bind_eq_ok.1 h
  obtain ⟨_, -, h⟩ := bind_eq_ok.1 h
  obtain ⟨_, -, h⟩ := bind_eq_ok.1 h
  obtain ⟨_, -, h⟩ := bind_eq_ok.1 h
  obtain ⟨db₁, hemit, h⟩ := bind_eq_ok.1 h
  obtain rfl := Except.ok.inj h
  obtain ⟨⟨hmem, href⟩, hrunning⟩ := runningRun_eq_ok.1 hr
  obtain ⟨hemits, haudit⟩ := insertHandoff_ok hemit
  refine ⟨⟨_, .finish rfl, ?_⟩, haudit⟩
  rw [← href]
  refine .published ?_ hmem hrunning (not_not.1 (raiseIf_eq_ok.1 hkind)) ?_ (.inr (.inr rfl)) hemits
  · exact fun _ => rfl
  · exact fun _ => rfl

theorem resetUnreleasedDataset_performs {datasetDate ref key : String}
    (h : (resetUnreleasedDataset now datasetDate ref key db).map Prod.snd = .ok db') :
    Performs now db (.resetUnreleasedDataset datasetDate ref key) db' := by
  refine .of_mutate h fun rep db₁ _ h => ?_
  obtain ⟨counts, hready, h⟩ := bind_eq_ok.1 h
  obtain ⟨rfl, rfl⟩ := Prod.mk.inj (Except.ok.inj h)
  obtain ⟨_, -, hready⟩ := bind_eq_ok.1 hready
  obtain ⟨_, -, hready⟩ := bind_eq_ok.1 hready
  obtain ⟨_, hbusy, hready⟩ := bind_eq_ok.1 hready
  obtain ⟨_, hruns, hready⟩ := bind_eq_ok.1 hready
  have hbusy := raiseIf_eq_ok.1 hbusy
  have hruns := raiseIf_eq_ok.1 hruns
  push Not at hbusy hruns
  exact ⟨⟨_, .reset _ _ _, .reset hbusy hruns⟩, rfl⟩

theorem assignProcessingAuthority_ok {jobRef linkRef : String}
    (h : assignProcessingAuthority now jobRef linkRef db = .ok db') :
    db'.toWorkflow = db.toWorkflow ∧ db'.audit = db.audit := by
  obtain ⟨authorities, -, h⟩ := bind_eq_ok.1 h
  obtain rfl := Except.ok.inj h
  exact ⟨rfl, rfl⟩

theorem insertTaskLink_ok {q : TaskLinkRequest} {linkRef : String}
    (h : insertTaskLink now q linkRef db = .ok db') :
    db'.toWorkflow = db.toWorkflow ∧ db'.audit = db.audit := by
  obtain ⟨_, -, h⟩ := bind_eq_ok.1 h
  obtain ⟨links, -, h⟩ := bind_eq_ok.1 h
  split at h
  · obtain ⟨hw, haudit⟩ := assignProcessingAuthority_ok h
    exact ⟨hw, haudit⟩
  · obtain rfl := Except.ok.inj h
    exact ⟨rfl, rfl⟩

theorem linkNavigationTask_performs {q : TaskLinkRequest} {linkRef key : String}
    (h : (linkNavigationTask now q linkRef key db).map Prod.snd = .ok db') :
    Performs now db (.linkNavigationTask q linkRef key) db' := by
  have hmutate : (mutate now key (.linkNavigationTask q.jobRef q.reviewRef q.navigationTaskRef
      q.parentNavigationTaskRef q.linkKind) .datapilot (linkNavigationTaskIn now q linkRef)
      db).map Prod.snd = .ok db' := by
    unfold linkNavigationTask at h
    unfold raiseIf at h
    split at h
    · cases h
    · exact h
  refine .of_mutate hmutate fun rep db₁ _ h => ?_
  obtain ⟨j, -, h⟩ := bind_eq_ok.1 h
  obtain ⟨_, -, h⟩ := bind_eq_ok.1 h
  split at h
  · obtain ⟨_, -, h⟩ := bind_eq_ok.1 h
    obtain ⟨db₂, hassign, h⟩ := bind_eq_ok.1 h
    obtain ⟨rfl, rfl⟩ := Prod.mk.inj (Except.ok.inj h)
    exact .quiet _ (assignProcessingAuthority_ok hassign).1 (assignProcessingAuthority_ok hassign).2
  · obtain ⟨db₂, hinsert, h⟩ := bind_eq_ok.1 h
    obtain ⟨rfl, rfl⟩ := Prod.mk.inj (Except.ok.inj h)
    exact .quiet _ (insertTaskLink_ok hinsert).1 (insertTaskLink_ok hinsert).2

theorem claimWorkflowHandoffDelivery_performs {workerId : String} {leaseMs : ℕ}
    (h : (claimWorkflowHandoffDelivery now workerId leaseMs db).map Prod.snd = .ok db') :
    Performs now db (.claimWorkflowHandoffDelivery workerId leaseMs) db' := by
  cases hm : claimWorkflowHandoffDelivery now workerId leaseMs db with
  | error e =>
    rw [hm] at h
    cases h
  | ok x =>
    rw [hm] at h
    obtain rfl : x.2 = db' := Except.ok.inj h
    obtain ⟨_, -, hm⟩ := bind_eq_ok.1 hm
    split at hm
    · obtain rfl := Except.ok.inj hm
      exact .quiet _ rfl rfl
    · obtain ⟨j, -, hm⟩ := bind_eq_ok.1 hm
      obtain rfl := Except.ok.inj hm
      exact .quiet _ rfl rfl

theorem completeWorkflowHandoffDelivery_performs {q : Settlement}
    (h : completeWorkflowHandoffDelivery now q db = .ok db') :
    Performs now db (.completeWorkflowHandoffDelivery q) db' := by
  obtain ⟨d, -, h⟩ := bind_eq_ok.1 h
  split at h
  · obtain rfl := Except.ok.inj h
    exact .quiet _ rfl rfl
  · obtain ⟨_, -, h⟩ := bind_eq_ok.1 h
    obtain rfl := Except.ok.inj h
    exact .quiet _ rfl rfl

theorem perform_performs {c : StoreCall} (h : perform now db c = .ok db') :
    Performs now db c db' := by
  cases c with
  | createJob => exact createJob_performs h
  | saveDraft => exact saveDraft_performs h
  | submitSegment => exact submitSegment_performs h
  | segmentAction => exact segmentAction_performs h
  | startTracking => exact startTracking_performs h
  | completeNoProcessableTargets => exact completeNoProcessableTargets_performs h
  | cancelJob => exact cancelJob_performs h
  | retryJob => exact retryJob_performs h
  | beginPostprocessing => exact beginPostprocessing_performs h
  | startRuntimeStep => exact startRuntimeStep_performs h
  | beginPostprocessingPublication => exact beginPostprocessingPublication_performs h
  | finishRuntimeStep => exact finishRuntimeStep_performs h
  | failActiveRuntimeStep => exact failActiveRuntimeStep_performs h
  | failRun => exact failRun_performs h
  | renewRunLease runRef workerId leaseMs =>
    obtain rfl := Except.ok.inj h
    exact ⟨⟨_, .renew runRef workerId leaseMs, .renewed runRef workerId leaseMs⟩, rfl⟩
  | completePrepare => exact completePrepare_performs h
  | recordTrackingCheckpoint => exact recordTrackingCheckpoint_performs h
  | completeTracking => exact completeTracking_performs h
  | completeCancelledRun => exact completeCancelledRun_performs h
  | completePostprocessingRun => exact completePostprocessingRun_performs h
  | completePostprocessing => exact completePostprocessing_performs h
  | createFixSession => exact createFixSession_performs h
  | applyFixCommand => exact applyFixCommand_performs h
  | createFixRevision => exact createFixRevision_performs h
  | completeFixRun => exact completeFixRun_performs h
  | decideReview => exact decideReview_performs h
  | resumeReturnedReview => exact resumeReturnedReview_performs h
  | approveFixRevision => exact approveFixRevision_performs h
  | retryCompatibilityPublication => exact retryCompatibilityPublication_performs h
  | completeCompatibilityPublication => exact completeCompatibilityPublication_performs h
  | resetUnreleasedDataset => exact resetUnreleasedDataset_performs h
  | linkNavigationTask => exact linkNavigationTask_performs h
  | claimWorkflowHandoffDelivery => exact claimWorkflowHandoffDelivery_performs h
  | completeWorkflowHandoffDelivery => exact completeWorkflowHandoffDelivery_performs h

end DataJuicer.Annotation
