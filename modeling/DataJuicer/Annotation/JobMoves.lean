import DataJuicer.Annotation.RunMoves

/-! # What effects do to the jobs and their source scopes

A job advances, fails, is taken up again or is cancelled, and its dataset date stays. Source
leases are taken when a job is created; they are dropped when a job is cancelled and when its
dataset is reset.
-/

namespace DataJuicer.Annotation

open Transaction

variable {now : Timestamp} {w w' : Workflow} {a : Change}

/-- The columns of a job that no effect changes. -/
structure SameJob (j j' : JobRow) : Prop where
  ref : j'.jobRef = j.jobRef
  date : j'.datasetDate = j.datasetDate

theorem SameJob.refl (j : JobRow) : SameJob j j := ⟨rfl, rfl⟩

structure SameStanding (j j' : JobRow) : Prop where
  status : j'.status = j.status
  code : j'.failureCode = j.failureCode
  failureRef : j'.failureRef = j.failureRef
  retryable : j'.failureRetryable = j.failureRetryable

theorem SameStanding.refl (j : JobRow) : SameStanding j j := ⟨rfl, rfl, rfl, rfl⟩

inductive Advance (a : Change) (jobRef : String) : JobStatus → JobStatus → Prop
  | prepared : Advance a jobRef .preparing JobStatus.waitingInitialAnnotation
  | tracking : Advance a jobRef JobStatus.waitingInitialAnnotation .tracking
  | tracked : Advance a jobRef .tracking .tracked
  | postprocessing (queue : a = .queue jobRef) : Advance a jobRef .tracked .postprocessing
  | annotated : Advance a jobRef .postprocessing .annotated

inductive Cancels (w : Workflow) (a : Change) (j : JobRow) : Prop
  | ordinary (ordinary : ¬ j.Quarantined) (idle : Idle w j.jobRef)
  | abandoned (abandon : a = .abandon j.jobRef) (idle : Idle w j.jobRef)
  | closed {r : RunRow} (by' : ClosesBy a r) (run : RunOf w r j) (running : r.status = .running)

inductive JobStep (w : Workflow) (a : Change) (j j' : JobRow) : Prop
  | still (standing : SameStanding j j')
  | advanced (advance : Advance a j.jobRef j.status j'.status)
      (code : j'.failureCode = j.failureCode)
  | cancelled (cancels : Cancels w a j) (status : j'.status = .cancelled)
  | restarted {confirmed : Bool} {kind : RunKind} (restart : a = .restart j.jobRef confirmed)
      (failed : j.status = .failed) (ordinary : confirmed = false → j.failureRetryable)
      (status : j'.status = kind.resumed) (code : j'.failureCode = none)
  | failed {q : RunFailure} {failureRef : String} {r : RunRow} (by' : FailsBy a q r)
      (run : RunOf w r j) (ref : r.runRef = q.runRef) (uncancelled : j.status ≠ .cancelled)
      (kind : r.kind ≠ .fix ∧ r.kind ≠ .compatibilityPublish)
      (kept : ¬ (r.status = .failed ∧ r.failureCode = some recoveryRequired))
      (status : j'.status = .failed) (code : j'.failureCode = some q.code)
      (errorRef : j'.failureRef = some failureRef) (retryable : j'.failureRetryable = q.retryable)

inductive JobMove (now : Timestamp) (w : Workflow) (a : Change) (w' : Workflow) : Prop
  | mapped (f : JobRow → JobRow) (rows : w'.jobs.rows = w.jobs.rows.map f)
      (same : ∀ j, SameJob j (f j)) (step : ∀ j ∈ w.jobs, JobStep w a j (f j))
  | created {c : JobCreation} (insert : w.jobs.insert? (c.row now) = some w'.jobs)

theorem JobMove.still (h : w'.jobs = w.jobs) : JobMove now w a w' := by
  refine .mapped id ?_ SameJob.refl fun j _ => .still (.refl j)
  rw [h, List.map_id]

theorem JobMove.write {jobRef : String} {f : JobRow → JobRow} (h : WritesJob jobRef f w w')
    (hsame : ∀ j, SameJob j (f j)) (hstep : ∀ j ∈ w.jobs, j.jobRef = jobRef → JobStep w a j (f j)) :
    JobMove now w a w' := by
  refine .mapped _ h (fun j => ?_) fun j hj => ?_
  · split
    · exact hsame j
    · exact .refl j
  · split
    next href => exact hstep j hj href
    next => exact .still (.refl j)

/-- A write to the job that an effect is about. -/
theorem JobMove.one {j : JobRow} {f : JobRow → JobRow} (hj : j ∈ w.jobs)
    (h : WritesJob j.jobRef f w w') (hsame : ∀ j, SameJob j (f j)) (hstep : JobStep w a j (f j)) :
    JobMove now w a w' := by
  refine .write h hsame fun j' hj' href => ?_
  obtain rfl : j' = j := Table.eq_of_key hj' hj href
  exact hstep

theorem JobMove.touch {jobRef : String} {f : JobRow → JobRow} (h : WritesJob jobRef f w w')
    (hsame : ∀ j, SameJob j (f j)) (hstanding : ∀ j, SameStanding j (f j)) : JobMove now w a w' :=
  .write h hsame fun j _ _ => .still (hstanding j)

theorem JobMove.cancel {j : JobRow} {outcome : String} (hj : j ∈ w.jobs) (hcancels : Cancels w a j)
    (h : w'.jobs = (w.finalizeCancelledJob now j.jobRef outcome).jobs) : JobMove now w a w' :=
  .one hj (congrArg Table.rows h) (fun _ => ⟨rfl, rfl⟩) (.cancelled hcancels rfl)

theorem resumeSegments_jobs {jobRef : String} (kind : RunKind) :
    (w.resumeSegments now jobRef kind).jobs = w.jobs := by
  cases kind <;> rfl

theorem JobMove.restart {j : JobRow} {runRef : String} {confirmed : Bool} (hj : j ∈ w.jobs)
    (hfailed : j.status = .failed) (hordinary : confirmed = false → j.failureRetryable)
    (h : w.restart now j.jobRef runRef = .ok w') :
    JobMove now w (.restart j.jobRef confirmed) w' := by
  obtain ⟨runs, rfl⟩ := (restart_ok h).eq
  exact .one hj (congrArg Table.rows (resumeSegments_jobs _)) (fun _ => ⟨rfl, rfl⟩)
    (.restarted rfl hfailed hordinary rfl rfl)

theorem JobMove.fail {q : RunFailure} {failureRef : String} {r : RunRow} {j : JobRow}
    (hby : FailsBy a q r) (hrun : RunOf w r j) (href : r.runRef = q.runRef)
    (huncancelled : j.status ≠ .cancelled)
    (hkind : r.kind ≠ .fix ∧ r.kind ≠ .compatibilityPublish)
    (hkept : ¬ (r.status = .failed ∧ r.failureCode = some recoveryRequired))
    (h : w'.jobs = (w.failJob now q failureRef r.jobRef).jobs) : JobMove now w a w' := by
  rw [← hrun.ref] at h
  exact .one hrun.job (congrArg Table.rows h) (fun _ => ⟨rfl, rfl⟩)
    (.failed hby hrun href huncancelled hkind hkept rfl rfl rfl rfl)

theorem RunOf.one {r : RunRow} {j : JobRow} {f : JobRow → JobRow} (h : RunOf w r j)
    (hw : WritesJob r.jobRef f w w') (hsame : ∀ j, SameJob j (f j)) (hstep : JobStep w a j (f j)) :
    JobMove now w a w' := by
  rw [← h.ref] at hw
  exact .one h.job hw hsame hstep

theorem Effect.jobMove (h : Effect now w a w') : JobMove now w a w' := by
  cases h with
  | same | leasesExpired | renewed | reset => exact .still rfl
  | created free job clips run =>
    obtain ⟨runs, rfl⟩ := run.eq
    obtain ⟨clips', leases', rfl⟩ := insertClips_eq clips
    exact .created job
  | drafted => exact .touch rfl (fun _ => ⟨rfl, rfl⟩) fun _ => ⟨rfl, rfl, rfl, rfl⟩
  | submitted segment drafted draftRef revision emission =>
    obtain ⟨handoffs, rfl⟩ := emission.eq
    exact .touch rfl (fun _ => ⟨rfl, rfl⟩) fun _ => ⟨rfl, rfl, rfl, rfl⟩
  | acted => exact .touch rfl (fun _ => ⟨rfl, rfl⟩) fun _ => ⟨rfl, rfl, rfl, rfl⟩
  | trackingStarted job waiting resolved processable run =>
    obtain ⟨runs, rfl⟩ := run.eq
    exact .one job rfl (fun _ => ⟨rfl, rfl⟩) (.advanced (waiting ▸ .tracking) rfl)
  | cancelled outcome job status ordinary idle => exact .cancel job (.ordinary ordinary idle) rfl
  | abandoned outcome job quarantined idle => exact .cancel job (.abandoned rfl idle) rfl
  | cancelRequested => exact .touch rfl (fun _ => ⟨rfl, rfl⟩) fun _ => ⟨rfl, rfl, rfl, rfl⟩
  | retried job failed retryable restart => exact .restart job failed (fun _ => retryable) restart
  | recovered job quarantined idle restart =>
    exact .restart job quarantined.1 (fun h => absurd h nofun) restart
  | postprocessingStarted job tracked ready run =>
    obtain ⟨runs, rfl⟩ := run.eq
    exact .one job rfl (fun _ => ⟨rfl, rfl⟩) (.advanced (tracked ▸ .postprocessing rfl) rfl)
  | fixQueued run =>
    obtain ⟨runs, rfl⟩ := run.eq
    exact .still rfl
  | publicationQueued run queued failureCode publication =>
    obtain ⟨runs, rfl⟩ := run.eq
    exact .still rfl
  | prepared run running preparing nonempty inserted ready emits =>
    obtain ⟨handoffs, rfl⟩ := emits.eq
    exact run.one rfl (fun _ => ⟨rfl, rfl⟩) (.advanced (preparing ▸ .prepared) rfl)
  | closed by' run running cancelling =>
    have hcancels : Cancels w a _ := .closed by' run running
    rw [← run.ref]
    exact .cancel run.job hcancels rfl
  | tracked run running tracking completed emits =>
    obtain ⟨handoffs, rfl⟩ := emits.eq
    exact run.one rfl (fun _ => ⟨rfl, rfl⟩) (.advanced (tracking ▸ .tracked) rfl)
  | postprocessed run kind active postprocessing readyKind completedKind emitsReady
      emitsCompleted =>
    obtain ⟨handoffs, rfl⟩ := emitsReady.eq
    obtain ⟨handoffs', rfl⟩ := emitsCompleted.eq
    exact run.one rfl (fun _ => ⟨rfl, rfl⟩) (.advanced (postprocessing ▸ .annotated) rfl)
  | fixed run running kind submitted emits =>
    obtain ⟨handoffs, rfl⟩ := emits.eq
    exact .still rfl
  | published key run running kind succeeded completed emits =>
    obtain ⟨handoffs, rfl⟩ := emits.eq
    exact .still rfl
  | decided kind emits =>
    obtain ⟨handoffs, rfl⟩ := emits.eq
    exact .still rfl
  | publicationFailed | fixFailed | cancelledJobRunFailed => exact .still rfl
  | jobRunFailed by' run ref uncancelled kind kept =>
    have hkind := kind
    refine .fail by' run ref uncancelled ?_ kept rfl
    rcases kind with h | h <;> rw [h] <;> exact ⟨nofun, nofun⟩
  | postprocessingFailed by' run ref uncancelled kind kept emission =>
    obtain ⟨handoffs, rfl⟩ := failureEmission_eq emission
    refine .fail by' run ref uncancelled ?_ kept rfl
    rw [kind]
    exact ⟨nofun, nofun⟩
  | claimed run queued startable uninterrupted unquarantined leaseKey leaseRun leased publication =>
    rcases publication with rfl | ⟨-, ref, rfl⟩ <;> exact .still rfl

structure ClipsInserted (c : JobCreation) (w w' : Workflow) : Prop where
  clips : ∀ x ∈ w'.clips, x ∈ w.clips ∨ x.jobRef = c.jobRef ∧ ∃ l ∈ w'.sourceLeases,
    l.datasetDate = c.datasetDate ∧ l.sourceClip = x.sourceClip ∧ l.jobRef = c.jobRef
  keptClips : ∀ x ∈ w.clips, x ∈ w'.clips
  leases : ∀ l ∈ w'.sourceLeases,
    l ∈ w.sourceLeases ∨ l.jobRef = c.jobRef ∧ l.datasetDate = c.datasetDate
  kept : ∀ l ∈ w.sourceLeases, l ∈ w'.sourceLeases

theorem insertClips_inserted {c : JobCreation} {ordinal : ℕ} {clips : List String}
    (h : insertClips now c ordinal clips w = .ok w') : ClipsInserted c w w' := by
  induction clips generalizing ordinal w with
  | nil =>
    obtain rfl := Except.ok.inj h
    exact ⟨fun _ hx => .inl hx, fun _ hx => hx, fun _ hl => .inl hl, fun _ hl => hl⟩
  | cons clip rest ih =>
    obtain ⟨w₁, hone, h⟩ := bind_eq_ok.1 h
    obtain ⟨clips₁, hclips, hone⟩ := bind_eq_ok.1 hone
    obtain ⟨leases₁, hleases, hone⟩ := bind_eq_ok.1 hone
    obtain rfl := Except.ok.inj hone
    have hclips := orRaise_eq_ok.1 hclips
    have hleases := orRaise_eq_ok.1 hleases
    obtain ⟨hnew, hkeptClips, hnewLeases, hkept⟩ := ih h
    constructor
    · intro x hx
      rcases hnew x hx with hx | hx
      · rcases (Table.mem_insert? hclips).1 hx with hx | rfl
        · exact .inl hx
        · exact .inr ⟨rfl, _, hkept _ ((Table.mem_insert? hleases).2 (.inr rfl)), rfl, rfl, rfl⟩
      · exact .inr hx
    · exact fun x hx => hkeptClips x ((Table.mem_insert? hclips).2 (.inl hx))
    · intro l hl
      rcases hnewLeases l hl with hl | hl
      · rcases (Table.mem_insert? hleases).1 hl with hl | rfl
        · exact .inl hl
        · exact .inr ⟨rfl, rfl⟩
      · exact .inr hl
    · exact fun l hl => hkept l ((Table.mem_insert? hleases).2 (.inl hl))

/-- No job is inserted and none comes to be cancelled. -/
def JobsKept (w w' : Workflow) : Prop :=
  ∀ j' ∈ w'.jobs, ∃ j ∈ w.jobs, SameJob j j' ∧ (j'.status = .cancelled → j.status = .cancelled)

theorem JobsKept.of_jobs (h : w'.jobs = w.jobs) : JobsKept w w' := by
  intro j hj
  rw [h] at hj
  exact ⟨j, hj, .refl j, id⟩

theorem JobsKept.of_write {jobRef : String} {f : JobRow → JobRow} (h : WritesJob jobRef f w w')
    (hsame : ∀ j, SameJob j (f j)) (hkeep : ∀ j, (f j).status = .cancelled →
      j.status = .cancelled) :
    JobsKept w w' := by
  intro j' hj'
  rcases h.cases hj' with ⟨hold, -⟩ | ⟨j, hj, -, rfl⟩
  · exact ⟨j', hold, .refl j', id⟩
  · exact ⟨j, hj, hsame j, hkeep j⟩

/-- What an effect does to the clips and their leases. -/
inductive ScopeMove (now : Timestamp) (w : Workflow) (a : Change) (w' : Workflow) : Prop
  | still (clips : w'.clips = w.clips) (leases : w'.sourceLeases = w.sourceLeases)
      (jobs : JobsKept w w')
  | dropped {j : JobRow} (job : j ∈ w.jobs) (clips : w'.clips = w.clips)
      (leases : w'.sourceLeases = w.sourceLeases.delete fun l => l.jobRef = j.jobRef)
      (jobs : ∀ j' ∈ w'.jobs,
        j' ∈ w.jobs ∧ j'.jobRef ≠ j.jobRef ∨ SameJob j j' ∧ j'.status = .cancelled)
      (idle : SingleRun w → Idle w' j.jobRef)
  | reset {datasetDate : String} (reset : a = .reset datasetDate) (clips : w'.clips = w.clips)
      (leases : w'.sourceLeases = w.sourceLeases.delete fun l => l.datasetDate = datasetDate)
      (jobs : w'.jobs = w.jobs) (runs : w'.runs = w.runs)
      (quiet : ∀ j ∈ w.jobs, LeasedIn w datasetDate j.jobRef → ¬ BusyStatus j.status)
      (closed : ∀ r ∈ w.runs, LeasedIn w datasetDate r.jobRef → ¬ r.status.Open)
  | created {c : JobCreation} (insert : w.jobs.insert? (c.row now) = some w'.jobs)
      (inserted : ClipsInserted c w w')

theorem ScopeMove.write {jobRef : String} {f : JobRow → JobRow} (h : WritesJob jobRef f w w')
    (hsame : ∀ j, SameJob j (f j)) (hkeep : ∀ j, (f j).status = .cancelled → j.status = .cancelled)
    (hclips : w'.clips = w.clips) (hleases : w'.sourceLeases = w.sourceLeases) :
    ScopeMove now w a w' :=
  .still hclips hleases (.of_write h hsame hkeep)

theorem ScopeMove.same (hjobs : w'.jobs = w.jobs) (hclips : w'.clips = w.clips)
    (hleases : w'.sourceLeases = w.sourceLeases) : ScopeMove now w a w' :=
  .still hclips hleases (.of_jobs hjobs)

theorem ScopeMove.cancel {j : JobRow} {outcome : String} {w₁ : Workflow} (hj : j ∈ w.jobs)
    (hidle : SingleRun w → Idle w₁ j.jobRef) (hjobs : w₁.jobs = w.jobs)
    (hclips : w₁.clips = w.clips)
    (hleases : w₁.sourceLeases = w.sourceLeases) :
    ScopeMove now w a (w₁.finalizeCancelledJob now j.jobRef outcome) := by
  refine .dropped hj hclips (congrArg (fun t => t.delete fun l => l.jobRef = j.jobRef) hleases)
    ?_ hidle
  intro j' hj'
  rcases Table.mem_of_rows_map (t := w₁.jobs) rfl hj' with ⟨hold, hne⟩ | ⟨j₁, hj₁, href, rfl⟩
  · exact .inl ⟨hjobs ▸ hold, hne⟩
  · obtain rfl : j₁ = j := Table.eq_of_key (hjobs ▸ hj₁) hj href
    exact .inr ⟨⟨rfl, rfl⟩, rfl⟩

theorem idle_cancelQueuedRuns {jobRef : String} (h : Idle w jobRef) :
    Idle (w.cancelQueuedRuns now jobRef) jobRef := by
  intro r' hr' hof
  rcases Table.mem_of_rows_map (t := w.runs) rfl hr' with ⟨hr, -⟩ | ⟨r, -, -, rfl⟩
  · exact h r' hr hof
  · exact nofun

theorem idle_finishRun {r : RunRow} {j : JobRow} (hrun : RunOf w r j)
    (hrunning : r.status = .running) (hsingle : SingleRun w) :
    Idle (w.finishRun now r.runRef .cancelled) j.jobRef := by
  intro r' hr' hof hrunning'
  rcases Table.mem_of_rows_map (t := w.runs) rfl hr' with ⟨hr, hne⟩ | ⟨r₁, -, -, rfl⟩
  · exact hne (congrArg RunRow.runRef (hsingle r hrun.run hrunning r' hr hrunning'))
  · cases hrunning'

theorem Effect.scopeMove (h : Effect now w a w') : ScopeMove now w a w' := by
  cases h with
  | same | leasesExpired | renewed | publicationFailed | fixFailed | cancelledJobRunFailed =>
    exact .same rfl rfl rfl
  | drafted | acted | cancelRequested =>
    exact .write rfl (fun _ => ⟨rfl, rfl⟩) (fun _ h => h) rfl rfl
  | jobRunFailed => exact .write rfl (fun _ => ⟨rfl, rfl⟩) (fun _ h => by cases h) rfl rfl
  | reset quiet closed => exact .reset rfl rfl rfl rfl rfl quiet closed
  | created free job clips run =>
    obtain ⟨runs, rfl⟩ := run.eq
    have hinserted := insertClips_inserted clips
    obtain ⟨clips', leases', rfl⟩ := insertClips_eq clips
    exact .created job ⟨hinserted.clips, hinserted.keptClips, hinserted.leases, hinserted.kept⟩
  | submitted segment drafted draftRef revision emission =>
    obtain ⟨handoffs, rfl⟩ := emission.eq
    exact .write rfl (fun _ => ⟨rfl, rfl⟩) (fun _ h => h) rfl rfl
  | trackingStarted job waiting resolved processable run =>
    obtain ⟨runs, rfl⟩ := run.eq
    exact .write rfl (fun _ => ⟨rfl, rfl⟩) (fun _ h => by cases h) rfl rfl
  | cancelled outcome job status ordinary idle =>
    exact .cancel job (fun _ => idle_cancelQueuedRuns idle) rfl rfl rfl
  | abandoned outcome job quarantined idle =>
    exact .cancel job (fun _ => idle_cancelQueuedRuns idle) rfl rfl rfl
  | @retried _ j _ job failed retryable restart | @recovered _ j _ job quarantined idle restart =>
    obtain ⟨runs, rfl⟩ := (restart_ok restart).eq
    have hresumed : (w.lastKind j.jobRef).resumed ≠ .cancelled := by
      cases w.lastKind j.jobRef <;> exact nofun
    refine .write (congrArg Table.rows (resumeSegments_jobs _)) (fun _ => ⟨rfl, rfl⟩)
      (fun _ h => absurd h hresumed) ?_ ?_ <;> cases w.lastKind j.jobRef <;> rfl
  | postprocessingStarted job tracked ready run =>
    obtain ⟨runs, rfl⟩ := run.eq
    exact .write rfl (fun _ => ⟨rfl, rfl⟩) (fun _ h => by cases h) rfl rfl
  | fixQueued run =>
    obtain ⟨runs, rfl⟩ := run.eq
    exact .same rfl rfl rfl
  | publicationQueued run queued failureCode publication =>
    obtain ⟨runs, rfl⟩ := run.eq
    exact .same rfl rfl rfl
  | prepared run running preparing nonempty inserted ready emits =>
    obtain ⟨handoffs, rfl⟩ := emits.eq
    exact .write rfl (fun _ => ⟨rfl, rfl⟩) (fun _ h => by cases h) rfl rfl
  | closed by' run running cancelling =>
    rw [← run.ref]
    exact .cancel run.job (idle_finishRun run running) rfl rfl rfl
  | tracked run running tracking completed emits =>
    obtain ⟨handoffs, rfl⟩ := emits.eq
    exact .write rfl (fun _ => ⟨rfl, rfl⟩) (fun _ h => by cases h) rfl rfl
  | postprocessed run kind active postprocessing readyKind completedKind emitsReady
      emitsCompleted =>
    obtain ⟨handoffs, rfl⟩ := emitsReady.eq
    obtain ⟨handoffs', rfl⟩ := emitsCompleted.eq
    exact .write rfl (fun _ => ⟨rfl, rfl⟩) (fun _ h => by cases h) rfl rfl
  | fixed run running kind submitted emits =>
    obtain ⟨handoffs, rfl⟩ := emits.eq
    exact .same rfl rfl rfl
  | published key run running kind succeeded completed emits =>
    obtain ⟨handoffs, rfl⟩ := emits.eq
    exact .same rfl rfl rfl
  | decided kind emits =>
    obtain ⟨handoffs, rfl⟩ := emits.eq
    exact .same rfl rfl rfl
  | postprocessingFailed by' run ref uncancelled kind kept emission =>
    obtain ⟨handoffs, rfl⟩ := failureEmission_eq emission
    exact .write rfl (fun _ => ⟨rfl, rfl⟩) (fun _ h => by cases h) rfl rfl
  | claimed run queued startable uninterrupted unquarantined leaseKey leaseRun leased publication =>
    rcases publication with rfl | ⟨-, ref, rfl⟩ <;> exact .same rfl rfl rfl

end DataJuicer.Annotation
