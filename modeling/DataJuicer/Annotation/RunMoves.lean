import DataJuicer.Annotation.SegmentMoves

/-! # What effects do to the runs and their leases

An effect leaves a run as it is, ends it, or takes it from the queue; one run is claimed at a
time, while the key of the writer's lease is free. A run that has lost its lease does not get it
back, unless its worker renews the lease.
-/

namespace DataJuicer.Annotation

open Transaction

variable {now : Timestamp} {w w' : Workflow} {a : Change}

/-- The columns of a run that no effect changes. -/
structure SameRun (r r' : RunRow) : Prop where
  ref : r'.runRef = r.runRef
  job : r'.jobRef = r.jobRef
  kind : r'.kind = r.kind

theorem SameRun.refl (r : RunRow) : SameRun r r := ⟨rfl, rfl, rfl⟩

inductive RunStep (w : Workflow) (a : Change) (r r' : RunRow) : Prop
  | still (eq : r' = r)
  | succeeded (finish : a = .finish r.runRef) (active : r.status.Open)
      (status : r'.status = .succeeded)
  | closed (by' : ClosesBy a r) (running : r.status = .running) (status : r'.status = .cancelled)
  | dequeued (queued : r.status = .queued) (status : r'.status = .cancelled)
  | failed {q : RunFailure} {failureRef : String} {j : JobRow} (by' : FailsBy a q r)
      (run : RunOf w r j) (ref : r.runRef = q.runRef)
      (kept : ¬ (r.status = .failed ∧ r.failureCode = some recoveryRequired))
      (status : r'.status = .failed) (code : r'.failureCode = some q.code)
      (errorRef : r'.failureRef = some failureRef)

/-- No lease that a claim sees has the key of the writer's lease. -/
structure WriterFree (now : Timestamp) (w : Workflow) : Prop where
  uninterrupted : ∃ epoch, NoneInterrupted now epoch w
  unleased : ∀ l ∈ w.unexpiredLeases now, l.leaseKey ≠ writerLeaseKey

inductive NewWork (w : Workflow) (a : Change) (jobRef : String) : Prop
  | created (fresh : ∀ j ∈ w.jobs, j.jobRef ≠ jobRef)
  | tracking {j : JobRow} (job : j ∈ w.jobs) (ref : j.jobRef = jobRef)
      (waiting : j.status = JobStatus.waitingInitialAnnotation)
  | started (starts : a.Starts jobRef)

inductive RunMove (now : Timestamp) (w : Workflow) (a : Change) (w' : Workflow) : Prop
  | mapped (f : RunRow → RunRow) (rows : w'.runs.rows = w.runs.rows.map f)
      (same : ∀ r, SameRun r (f r)) (step : ∀ r ∈ w.runs, RunStep w a r (f r))
  | queued {r : RunRow} (insert : w.runs.insert? r = some w'.runs) (status : r.status = .queued)
      (work : NewWork w a r.jobRef)
  | claimed {r : RunRow} {j : JobRow} (f : RunRow → RunRow) (run : RunOf w r j)
      (waiting : r.status = .queued) (startable : r.kind.StartsIn j.status)
      (free : WriterFree now w)
      (rows : w'.runs.rows = w.runs.rows.map fun s => if s.runRef = r.runRef then f s else s)
      (same : ∀ s, SameRun s (f s)) (status : ∀ s, (f s).status = .running)

theorem RunMove.still (h : w'.runs = w.runs) : RunMove now w a w' := by
  refine .mapped id ?_ SameRun.refl fun _ _ => .still rfl
  rw [h, List.map_id]

theorem RunMove.write {runRef : String} {f : RunRow → RunRow}
    (h : w'.runs.rows = w.runs.rows.map fun r => if r.runRef = runRef then f r else r)
    (hsame : ∀ r, SameRun r (f r)) (hstep : ∀ r ∈ w.runs, r.runRef = runRef → RunStep w a r (f r)) :
    RunMove now w a w' := by
  refine .mapped _ h (fun r => ?_) fun r hr => ?_
  · split
    · exact hsame r
    · exact .refl r
  · split
    next href => exact hstep r hr href
    next => exact .still rfl

theorem Queued.runMove {w₀ : Workflow} {jobRef runRef : String} {kind : RunKind}
    (h : Queued now jobRef runRef kind w₀ w') (hruns : w₀.runs = w.runs)
    (hwork : NewWork w a jobRef) : RunMove now w a w' := by
  obtain ⟨runs, hinsert, rfl⟩ := h
  rw [hruns] at hinsert
  exact .queued hinsert rfl hwork

/-- The run that an effect is about. -/
theorem RunOf.eq {r r' : RunRow} {j : JobRow} (h : RunOf w r j) (hr : r' ∈ w.runs)
    (href : r'.runRef = r.runRef) : r' = r :=
  Table.eq_of_key hr h.run href

theorem RunMove.finish {r : RunRow} (hr : r ∈ w.runs) (hopen : r.status.Open)
    (h : w'.runs = w.runs) :
    RunMove now w (.finish r.runRef) (w'.finishRun now r.runRef .succeeded) := by
  have hrows : (w'.finishRun now r.runRef .succeeded).runs.rows = w.runs.rows.map fun s =>
      if s.runRef = r.runRef then
        { s with status := .succeeded, finishedAt := some now, updatedAt := now } else s := by
    rw [← h]
    rfl
  refine .write hrows (fun _ => ⟨rfl, rfl, rfl⟩) fun s hs href => ?_
  obtain rfl : s = r := Table.eq_of_key hs hr href
  exact .succeeded rfl hopen rfl

theorem RunMove.fail {q : RunFailure} {failureRef : String} {r : RunRow} {j : JobRow}
    (hby : FailsBy a q r) (hrun : RunOf w r j) (href : r.runRef = q.runRef)
    (hkept : ¬ (r.status = .failed ∧ r.failureCode = some recoveryRequired))
    (h : w'.runs = (w.failRunRow now q failureRef).runs) : RunMove now w a w' := by
  refine .write (congrArg Table.rows h) (fun _ => ⟨rfl, rfl, rfl⟩) fun s hs hsRef => ?_
  obtain rfl : s = r := hrun.eq hs (hsRef.trans href.symm)
  exact .failed hby hrun href hkept rfl rfl rfl

theorem RunMove.dequeue {jobRef : String} (h : w'.runs = (w.cancelQueuedRuns now jobRef).runs) :
    RunMove now w a w' := by
  refine .mapped _ (congrArg Table.rows h) (fun r => ?_) fun r _ => ?_
  · split
    · exact ⟨rfl, rfl, rfl⟩
    · exact .refl r
  · split
    next hqueued => exact .dequeued hqueued.2 rfl
    next => exact .still rfl

theorem Effect.runMove (h : Effect now w a w') : RunMove now w a w' := by
  cases h with
  | same | drafted | acted | leasesExpired | renewed | reset => exact .still rfl
  | created free job clips run =>
    obtain ⟨clips', leases', rfl⟩ := insertClips_eq clips
    exact run.runMove rfl (.created (Table.insert?_fresh job))
  | submitted segment drafted draftRef revision emission =>
    obtain ⟨handoffs, rfl⟩ := emission.eq
    exact .still rfl
  | trackingStarted job waiting resolved processable run =>
    exact run.runMove rfl (.tracking job rfl waiting)
  | cancelled | abandoned | cancelRequested => exact .dequeue rfl
  | retried job failed retryable restart | recovered job quarantined idle restart =>
    refine (restart_ok restart).runMove ?_ (.started (.restart _))
    cases w.lastKind _ <;> rfl
  | postprocessingStarted job tracked ready run => exact run.runMove rfl (.started .queue)
  | fixQueued run => exact run.runMove rfl (.started .queue)
  | publicationQueued run queued failureCode publication =>
    obtain ⟨runs, hinsert, rfl⟩ := run
    exact .queued hinsert rfl (.started (.publish _))
  | prepared run running preparing nonempty inserted ready emits =>
    obtain ⟨handoffs, rfl⟩ := emits.eq
    exact .finish run.run (.inr running) rfl
  | closed by' run running cancelling =>
    refine .write rfl (fun _ => ⟨rfl, rfl, rfl⟩) fun s hs href => ?_
    obtain rfl := run.eq hs href
    exact .closed by' running rfl
  | tracked run running tracking completed emits =>
    obtain ⟨handoffs, rfl⟩ := emits.eq
    exact .finish run.run (.inr running) rfl
  | postprocessed run kind active postprocessing readyKind completedKind emitsReady
      emitsCompleted =>
    obtain ⟨handoffs, rfl⟩ := emitsReady.eq
    obtain ⟨handoffs', rfl⟩ := emitsCompleted.eq
    exact .finish run.run active rfl
  | fixed run running kind submitted emits =>
    obtain ⟨handoffs, rfl⟩ := emits.eq
    exact .finish run (.inr running) rfl
  | published key run running kind succeeded completed emits =>
    obtain ⟨handoffs, rfl⟩ := emits.eq
    exact .finish run (.inr running) rfl
  | decided kind emits =>
    obtain ⟨handoffs, rfl⟩ := emits.eq
    exact .still rfl
  | publicationFailed by' run ref kind kept | fixFailed by' run ref kind kept =>
    exact .fail by' run ref kept rfl
  | cancelledJobRunFailed by' run ref cancelled kind kept => exact .fail by' run ref kept rfl
  | jobRunFailed by' run ref uncancelled kind kept => exact .fail by' run ref kept rfl
  | postprocessingFailed by' run ref uncancelled kind kept emission =>
    obtain ⟨handoffs, rfl⟩ := failureEmission_eq emission
    exact .fail by' run ref kept rfl
  | claimed run queued startable uninterrupted unquarantined leaseKey leaseRun leased publication =>
    have hfree : WriterFree now w :=
      ⟨⟨_, uninterrupted⟩, fun l hl hkey =>
        Table.insert?_fresh leased l hl (hkey.trans leaseKey.symm)⟩
    rcases publication with rfl | ⟨-, ref, rfl⟩
    · exact .claimed _ run queued startable hfree rfl (fun _ => ⟨rfl, rfl, rfl⟩) fun _ => rfl
    · exact .claimed _ run queued startable hfree rfl (fun _ => ⟨rfl, rfl, rfl⟩) fun _ => rfl

/-- Where a run after an effect comes from. -/
inductive RunFrom (now : Timestamp) (w : Workflow) (a : Change) (r' : RunRow) : Prop
  | queued (status : r'.status = .queued) (fresh : ∀ r ∈ w.runs, r.runRef ≠ r'.runRef)
      (work : NewWork w a r'.jobRef)
  | changed {r : RunRow} (run : r ∈ w.runs) (same : SameRun r r') (step : RunStep w a r r')
  | claimed {r : RunRow} {j : JobRow} (run : RunOf w r j) (same : SameRun r r')
      (waiting : r.status = .queued) (status : r'.status = .running)
      (startable : r.kind.StartsIn j.status) (free : WriterFree now w)

theorem RunMove.cases {r' : RunRow} (h : RunMove now w a w') (hr' : r' ∈ w'.runs) :
    RunFrom now w a r' := by
  cases h with
  | mapped f rows same step =>
    change r' ∈ w'.runs.rows at hr'
    rw [rows] at hr'
    obtain ⟨r, hr, rfl⟩ := List.mem_map.1 hr'
    exact .changed hr (same r) (step r hr)
  | queued insert status work =>
    rcases (Table.mem_insert? insert).1 hr' with hold | rfl
    · exact .changed hold (.refl r') (.still rfl)
    · exact .queued status (Table.insert?_fresh insert) work
  | claimed f run waiting startable free rows same status =>
    rcases Table.mem_of_rows_map rows hr' with ⟨hold, -⟩ | ⟨s, hs, href, rfl⟩
    · exact .changed hold (.refl r') (.still rfl)
    · obtain rfl := run.eq hs href
      exact .claimed run (same s) waiting (status s) startable free

theorem RunMove.forward {r : RunRow} (h : RunMove now w a w') (hr : r ∈ w.runs) :
    ∃ r' ∈ w'.runs, SameRun r r' ∧
      (RunStep w a r r' ∨ r.status = .queued ∧ r'.status = .running) := by
  cases h with
  | mapped f rows same step =>
    exact ⟨f r, Table.mem_of_map_mem rows hr, same r, .inl (step r hr)⟩
  | queued insert status work =>
    exact ⟨r, (Table.mem_insert? insert).2 (.inl hr), .refl r, .inl (.still rfl)⟩
  | @claimed r₀ j f run waiting startable free rows same status =>
    by_cases href : r.runRef = r₀.runRef
    · obtain rfl := run.eq hr href
      have hmem := Table.mem_of_map_mem rows hr
      rw [if_pos rfl] at hmem
      exact ⟨f r, hmem, same r, .inr ⟨waiting, status r⟩⟩
    · have hmem := Table.mem_of_map_mem rows hr
      rw [if_neg href] at hmem
      exact ⟨r, hmem, .refl r, .inl (.still rfl)⟩

theorem RunStep.running {r r' : RunRow} (h : RunStep w a r r') (hr' : r'.status = .running) :
    r' = r := by
  cases h with
  | still eq => exact eq
  | succeeded _ _ status | closed _ _ status | dequeued _ status | failed _ _ _ _ status =>
    rw [status] at hr'
    cases hr'

def SingleRun (w : Workflow) : Prop :=
  ∀ r ∈ w.runs, r.status = .running → ∀ r' ∈ w.runs, r'.status = .running → r' = r

def WriterLeases (w : Workflow) : Prop := ∀ l ∈ w.runtimeLeases, l.leaseKey = writerLeaseKey

theorem WriterFree.idle (h : WriterFree now w) (hkeys : WriterLeases w) :
    ∀ r ∈ w.runs, r.status ≠ .running := by
  intro r hr hrunning
  obtain ⟨epoch, hnone⟩ := h.uninterrupted
  have hheld := hnone r hr hrunning
  unfold LeaseLost at hheld
  push Not at hheld
  obtain ⟨⟨l, hl, href⟩, hall⟩ := hheld
  have hunexpired : l ∈ w.unexpiredLeases now :=
    Table.mem_delete.2 ⟨hl, not_le.2 (hall l hl href).1⟩
  exact h.unleased l hunexpired (hkeys l hl)

theorem RunMove.single (h : RunMove now w a w') (hw : SingleRun w) (hkeys : WriterLeases w) :
    SingleRun w' := by
  intro r₁' hr₁' hrunning₁ r₂' hr₂' hrunning₂
  cases h.cases hr₁' with
  | queued status =>
    rw [status] at hrunning₁
    cases hrunning₁
  | changed hr₁ _ hstep₁ =>
    obtain rfl := hstep₁.running hrunning₁
    cases h.cases hr₂' with
    | queued status =>
      rw [status] at hrunning₂
      cases hrunning₂
    | changed hr₂ _ hstep₂ =>
      obtain rfl := hstep₂.running hrunning₂
      exact hw _ hr₁ hrunning₁ _ hr₂ hrunning₂
    | claimed _ _ _ _ _ free => exact absurd hrunning₁ (free.idle hkeys _ hr₁)
  | claimed _ _ _ _ _ hfree =>
    have hidle := hfree.idle hkeys
    cases h with
    | mapped f rows same step =>
      change r₁' ∈ w'.runs.rows at hr₁'
      rw [rows] at hr₁'
      obtain ⟨s, hs, rfl⟩ := List.mem_map.1 hr₁'
      obtain hs' := (step s hs).running hrunning₁
      rw [hs'] at hrunning₁
      exact absurd hrunning₁ (hidle s hs)
    | queued insert status work =>
      rcases (Table.mem_insert? insert).1 hr₁' with hold | rfl
      · exact absurd hrunning₁ (hidle _ hold)
      · rw [status] at hrunning₁
        cases hrunning₁
    | claimed f run waiting startable free rows same status =>
      rcases Table.mem_of_rows_map rows hr₁' with ⟨hold, -⟩ | ⟨s₁, hs₁, href₁, rfl⟩
      · exact absurd hrunning₁ (hidle _ hold)
      · rcases Table.mem_of_rows_map rows hr₂' with ⟨hold, -⟩ | ⟨s₂, hs₂, href₂, rfl⟩
        · exact absurd hrunning₂ (hidle _ hold)
        · rw [Table.eq_of_key hs₁ hs₂ (href₁.trans href₂.symm)]

/-- Where a lease after an effect comes from. -/
inductive LeaseFrom (now : Timestamp) (w : Workflow) (a : Change) (l' : RuntimeLeaseRow) : Prop
  | kept (mem : l' ∈ w.runtimeLeases)
  | claimed {r : RunRow} (run : r ∈ w.runs) (queued : r.status = .queued)
      (ref : l'.runRef = r.runRef) (key : l'.leaseKey = writerLeaseKey)
  | renewed {l : RuntimeLeaseRow} {leaseMs : ℕ} (mem : l ∈ w.runtimeLeases)
      (renew : a = .renew l.runRef l.workerId leaseMs)
      (eq : l' = { l with expiresAt := now + leaseMs })

theorem LeaseFrom.deleted {l' : RuntimeLeaseRow} {p : RuntimeLeaseRow → Prop} [DecidablePred p]
    (h : l' ∈ w.runtimeLeases.delete p) : LeaseFrom now w a l' :=
  .kept (Table.mem_delete.1 h).1

theorem Effect.leaseFrom {l' : RuntimeLeaseRow} (h : Effect now w a w')
    (hl : l' ∈ w'.runtimeLeases) : LeaseFrom now w a l' := by
  cases h with
  | same | drafted | acted | reset | cancelRequested => exact .kept hl
  | created free job clips run =>
    obtain ⟨runs, rfl⟩ := run.eq
    obtain ⟨clips', leases', rfl⟩ := insertClips_eq clips
    exact .kept hl
  | submitted segment drafted draftRef revision emission =>
    obtain ⟨handoffs, rfl⟩ := emission.eq
    exact .kept hl
  | trackingStarted job waiting resolved processable run =>
    obtain ⟨runs, rfl⟩ := run.eq
    exact .kept hl
  | cancelled | abandoned => exact .kept hl
  | @retried _ j _ job failed retryable restart | @recovered _ j _ job quarantined idle restart =>
    obtain ⟨runs, rfl⟩ := (restart_ok restart).eq
    refine .kept ?_
    revert hl
    cases w.lastKind j.jobRef <;> exact id
  | postprocessingStarted job tracked ready run =>
    obtain ⟨runs, rfl⟩ := run.eq
    exact .kept hl
  | fixQueued run =>
    obtain ⟨runs, rfl⟩ := run.eq
    exact .kept hl
  | publicationQueued run queued failureCode publication =>
    obtain ⟨runs, rfl⟩ := run.eq
    exact .kept hl
  | prepared run running preparing nonempty inserted ready emits =>
    obtain ⟨handoffs, rfl⟩ := emits.eq
    exact .deleted hl
  | closed => exact .deleted hl
  | tracked run running tracking completed emits =>
    obtain ⟨handoffs, rfl⟩ := emits.eq
    exact .deleted hl
  | postprocessed run kind active postprocessing readyKind completedKind emitsReady
      emitsCompleted =>
    obtain ⟨handoffs, rfl⟩ := emitsReady.eq
    obtain ⟨handoffs', rfl⟩ := emitsCompleted.eq
    exact .deleted hl
  | fixed run running kind submitted emits =>
    obtain ⟨handoffs, rfl⟩ := emits.eq
    exact .deleted hl
  | published key run running kind succeeded completed emits =>
    obtain ⟨handoffs, rfl⟩ := emits.eq
    exact .deleted hl
  | decided kind emits =>
    obtain ⟨handoffs, rfl⟩ := emits.eq
    exact .kept hl
  | publicationFailed | fixFailed | cancelledJobRunFailed | jobRunFailed => exact .deleted hl
  | postprocessingFailed by' run ref uncancelled kind kept emission =>
    obtain ⟨handoffs, rfl⟩ := failureEmission_eq emission
    exact .deleted hl
  | claimed run queued startable uninterrupted unquarantined leaseKey leaseRun leased publication =>
    rcases publication with rfl | ⟨-, ref, rfl⟩
    · rcases (Table.mem_insert? leased).1 hl with hold | rfl
      · exact .deleted hold
      · exact .claimed run.run queued leaseRun leaseKey
    · rcases (Table.mem_insert? leased).1 hl with hold | rfl
      · exact .deleted hold
      · exact .claimed run.run queued leaseRun leaseKey
  | leasesExpired => exact .deleted hl
  | renewed runRef workerId leaseMs =>
    rcases Table.mem_of_rows_map (t := w.runtimeLeases) rfl hl with
      ⟨hold, -⟩ | ⟨l, hmem, ⟨rfl, rfl⟩, rfl⟩
    · exact .kept hold
    · exact .renewed hmem rfl rfl

theorem Effect.writerLeases (h : Effect now w a w') (hw : WriterLeases w) : WriterLeases w' := by
  intro l' hl'
  cases h.leaseFrom hl' with
  | kept mem => exact hw l' mem
  | claimed run queued ref key => exact key
  | renewed mem renew eq =>
    have hkey := hw _ mem
    rw [eq]
    exact hkey

def Expired (now : Timestamp) (w : Workflow) (runRef : String) : Prop :=
  ∀ l ∈ w.runtimeLeases, l.runRef = runRef → l.expiresAt ≤ now

theorem expired_iff_leaseLost {runRef : String} (hw : WriterLeases w) :
    Expired now w runRef ↔ LeaseLost now none w runRef := by
  unfold Expired LeaseLost
  constructor
  · intro h
    by_cases hex : ∃ l ∈ w.runtimeLeases, l.runRef = runRef
    · obtain ⟨l, hl, href⟩ := hex
      exact .inr ⟨l, hl, href, .inl (h l hl href)⟩
    · push Not at hex
      exact .inl hex
  · rintro (hnone | ⟨l, hl, href, hlost⟩) l' hl' href'
    · exact absurd href' (hnone l' hl')
    · obtain rfl : l' = l := Table.eq_of_key hl' hl ((hw l' hl').trans (hw l hl).symm)
      exact hlost.resolve_right fun h => h.1 rfl

/-- A running run does not get a lease back that it has lost, unless its worker renews it. -/
theorem Effect.expired {r : RunRow} (h : Effect now w a w') (hr : r ∈ w.runs)
    (hrunning : r.status = .running) (hlost : Expired now w r.runRef)
    (hrenew : ∀ l ∈ w.runtimeLeases, l.runRef = r.runRef → ∀ leaseMs,
      a = .renew l.runRef l.workerId leaseMs → leaseMs = 0) : Expired now w' r.runRef := by
  intro l' hl' href
  cases h.leaseFrom hl' with
  | kept mem => exact hlost l' mem href
  | @claimed r₀ run queued ref key =>
    obtain rfl : r₀ = r := Table.eq_of_key run hr (ref.symm.trans href)
    rw [queued] at hrunning
    cases hrunning
  | renewed mem renew eq =>
    rw [eq] at href ⊢
    rw [hrenew _ mem href _ renew]
    exact le_refl _

end DataJuicer.Annotation
