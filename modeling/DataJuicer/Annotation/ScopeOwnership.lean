import DataJuicer.Annotation.SourceScopes
import DataJuicer.Annotation.Traces

/-! # Who owns a source scope

A job that is neither cancelled nor retired by a reset holds the leases of its clips, in every
state that the system reaches. Work for a job that does not hold them begins only with a request
that looks at statuses and revisions; without such requests no two jobs process one clip.
-/

namespace DataJuicer.Annotation

/-- The event gets past the guards of a request that takes up work for the job. -/
inductive StartsWork (s : System) : Event → String → Prop
  | retry {q runRef key} (accepted : RetryAccepted s.store.db q key) :
      StartsWork s (.call (.retryJob q runRef key)) q.jobRef
  | postprocess {q specRef runRef key} (accepted : PostprocessingAccepted s.store.db q key) :
      StartsWork s (.call (.beginPostprocessing q specRef runRef key)) q.jobRef
  | fix {q runRef revisionRef key jobRef} (accepted : FixAccepted s.store.db q key jobRef) :
      StartsWork s (.call (.createFixRevision q runRef revisionRef key)) jobRef
  | approve {q refs key jobRef} (accepted : ApproveAccepted s.store.db q key jobRef) :
      StartsWork s (.call (.approveFixRevision q refs key)) jobRef
  | republish {q refs key jobRef fixRevisionRef}
      (accepted : RepublishAccepted s.store.db q key jobRef fixRevisionRef) :
      StartsWork s (.call (.retryCompatibilityPublication q refs key)) jobRef
  | confirm {n runRef q} (accepted : ConfirmAccepted s n q) (retry : q.disposition = .retry) :
      StartsWork s (.commit n runRef) q.jobRef

/-- The event takes up work for a job that does not hold its scope. -/
def StartsUnheld (s : System) (e : Event) : Prop :=
  ∃ jobRef, StartsWork s e jobRef ∧
    ∃ j ∈ s.workflow.jobs, j.jobRef = jobRef ∧ ¬ HoldsAll s.workflow j

theorem Event.Makes.starts {s : System} {e : Event} {a : Change} {jobRef : String}
    (h : e.Makes s a) (hstarts : a.Starts jobRef) : StartsWork s e jobRef := by
  cases h with
  | call makes =>
    cases makes with
    | retry accepted =>
      cases hstarts
      exact .retry accepted
    | postprocess accepted =>
      cases hstarts
      exact .postprocess accepted
    | fix accepted =>
      cases hstarts
      exact .fix accepted
    | approve accepted =>
      cases hstarts
      exact .approve accepted
    | republish accepted =>
      cases hstarts
      exact .republish accepted
    | submit | act | fail | finish | renew | noSegments | badSegments | reset | nothing | other =>
      cases hstarts
  | restart accepted retry =>
    cases hstarts
    exact .confirm accepted retry
  | abandon | claimStop | recoverStop | claim | nothing => cases hstarts

theorem startsHeld_of_makes {s : System} {e : Event} {a : Change} (h : ¬ StartsUnheld s e)
    (ha : e.Makes s a) : StartsHeld s.workflow a := by
  intro jobRef hstarts j hj href
  by_contra hnot
  exact h ⟨jobRef, ha.starts hstarts, j, hj, href, hnot⟩

/-- A reset among these transitions dropped the leases of the job. -/
def Retired (l : List (Transition System Event)) (jobRef : String) : Prop :=
  ∃ x ∈ l, (∃ datasetDate resetRef key,
      x.label = .call (.resetUnreleasedDataset datasetDate resetRef key)) ∧
    (∃ lease ∈ x.pre.workflow.sourceLeases, lease.jobRef = jobRef) ∧
      ∀ lease ∈ x.post.workflow.sourceLeases, lease.jobRef ≠ jobRef

/-- A job has its scope until it is cancelled or retired. -/
structure ScopesTaken (l : List (Transition System Event)) (s : System) : Prop where
  held : ∀ j ∈ s.workflow.jobs, j.status ≠ .cancelled → ¬ Retired l j.jobRef →
    HoldsAll s.workflow j
  dropped : ∀ j ∈ s.workflow.jobs, j.status = .cancelled ∨ Retired l j.jobRef →
    HoldsNone s.workflow j

theorem SystemRun.scopeInvariant {l : List (Transition System Event)} {s : System}
    (h : SystemRun l s) : ScopeInvariant s.workflow ∧ ∀ x ∈ l, ScopeInvariant x.pre.workflow ∧
      ScopeInvariant x.post.workflow := by
  have hstep : ∀ now w a w', ScopeInvariant w → True → Effect now w a w' → ScopeInvariant w' :=
    fun _ _ _ _ hw _ heffect => heffect.scopeInvariant hw
  exact h.keeps scopeInvariant_initial (fun _ _ => trivial) (fun _ _ _ _ => trivial) hstep

/-- The jobs that were not retired hold their scopes until they are cancelled. -/
def HeldOutside (l : List (Transition System Event)) (w : Workflow) : Prop :=
  ∀ j ∈ w.jobs, j.status ≠ .cancelled → ¬ Retired l j.jobRef → HoldsAll w j

structure ScopesHeld (l : List (Transition System Event)) (w : Workflow) : Prop where
  scope : ScopeInvariant w
  held : HeldOutside l w

/-- The jobs outside this set keep their scopes, when it has the jobs that a reset retires. -/
theorem Effect.held {now : Timestamp} {w w' : Workflow} {a : Change} {p : String → Prop}
    (heffect : Effect now w a w') (h : ScopeInvariant w)
    (hheld : ∀ j ∈ w.jobs, j.status ≠ .cancelled → ¬ p j.jobRef → HoldsAll w j)
    (hreset : ∀ j, ResetLeases w a w' j → p j.jobRef) :
    ∀ j ∈ w'.jobs, j.status ≠ .cancelled → ¬ p j.jobRef → HoldsAll w' j := by
  intro j' hj' hstatus hnot
  by_cases hnew : ∀ j ∈ w.jobs, j.jobRef ≠ j'.jobRef
  · exact heffect.holdsAll_new h hj' hnew
  push Not at hnew
  obtain ⟨j, hj, hsame, hstep⟩ := heffect.jobMove.old hj' hnew
  have hnot' : ¬ p j.jobRef := hsame.ref ▸ hnot
  have hall := hheld j hj (fun hc => hstatus (hstep.cancelled_stays hc)) hnot'
  rcases heffect.holdsAll h hj hj' hsame hall with hall | hcancelled | hlost
  · exact hall
  · exact absurd hcancelled hstatus
  · exact absurd (hreset j hlost) hnot'

theorem Event.Makes.reset {s : System} {e : Event} {datasetDate : String}
    (h : e.Makes s (.reset datasetDate)) :
    ∃ resetRef key, e = .call (.resetUnreleasedDataset datasetDate resetRef key) := by
  cases h with
  | call makes =>
    cases makes with
    | reset datasetDate ref key => exact ⟨ref, key, rfl⟩

theorem Retired.append {l m : List (Transition System Event)} {jobRef : String}
    (h : Retired l jobRef) : Retired (l ++ m) jobRef := by
  obtain ⟨x, hx, hretired⟩ := h
  exact ⟨x, List.mem_append_left _ hx, hretired⟩

theorem held_step {m : List (Transition System Event)} {x : Transition System Event}
    (h : SystemRun m x.pre) (hstep : System.Step x.pre x.label x.post)
    (hheld : HeldOutside m x.pre.workflow) : HeldOutside (m ++ [x]) x.post.workflow := by
  have hscope := h.scopeInvariant.1
  have hbefore : HeldOutside (m ++ [x]) x.pre.workflow :=
    fun j hj hstatus hnot => hheld j hj hstatus fun hr => hnot hr.append
  rcases hstep.effect with ⟨a, hmakes, heffect⟩ | ⟨effects, hrun, hlabels⟩
  · refine heffect.held hscope hbefore fun j hlost => ?_
    obtain ⟨datasetDate, rfl⟩ := hlost.reset
    obtain ⟨resetRef, key, hlabel⟩ := hmakes.reset
    exact ⟨x, List.mem_concat_self, ⟨_, _, _, hlabel⟩, hlost.leased, hlost.dropped⟩
  · have hboth : ScopesHeld (m ++ [x]) x.pre.workflow := ⟨hscope, hbefore⟩
    refine (hrun.invariant hboth hlabels fun y hinv hstops heffect => ?_).1.held
    refine ⟨heffect.scopeInvariant hinv.scope, heffect.held hinv.scope hinv.held fun j hlost => ?_⟩
    obtain ⟨datasetDate, hreset⟩ := hlost.reset
    obtain ⟨runRef, hstop, -⟩ := hstops
    rw [hstop] at hreset
    cases hreset

def Released (jobRef : String) (w : Workflow) : Prop :=
  (∃ j ∈ w.jobs, j.jobRef = jobRef) ∧ ∀ l ∈ w.sourceLeases, l.jobRef ≠ jobRef

theorem Effect.released {now : Timestamp} {w w' : Workflow} {a : Change} {jobRef : String}
    (heffect : Effect now w a w') (h : Released jobRef w) : Released jobRef w' := by
  obtain ⟨⟨j, hj, rfl⟩, hnone⟩ := h
  obtain ⟨j', hj', hsame, -⟩ := heffect.jobMove.forward hj
  refine ⟨⟨j', hj', hsame.ref⟩, fun l hl hof => ?_⟩
  exact hnone l (heffect.sourceLeases hj hl hof) hof

theorem released_of_retired {l : List (Transition System Event)} {s : System} {jobRef : String}
    (h : SystemRun l s) (hretired : Retired l jobRef) : Released jobRef s.workflow := by
  obtain ⟨x, hx, -, ⟨lease, hlease, hof⟩, hnone⟩ := hretired
  have hscope := (h.scopeInvariant.2 x hx).1
  obtain ⟨l₁, l₂, rfl⟩ := List.append_of_mem hx
  obtain ⟨-, hstep, hrest⟩ := h.split
  obtain ⟨j, hj, href, -⟩ := hscope.owned lease hlease
  have hjobs : ∀ now w a w', (∃ j' ∈ w.jobs, j'.jobRef = jobRef) → True → Effect now w a w' →
      ∃ j' ∈ w'.jobs, j'.jobRef = jobRef := by
    rintro now w a w' ⟨j₁, hj₁, rfl⟩ - heffect
    obtain ⟨j', hj', hsame, -⟩ := heffect.jobMove.forward hj₁
    exact ⟨j', hj', hsame.ref⟩
  have hbefore : ∃ j' ∈ x.pre.workflow.jobs, j'.jobRef = jobRef := ⟨j, hj, href.trans hof⟩
  have hthere : ∃ j' ∈ x.post.workflow.jobs, j'.jobRef = jobRef :=
    hstep.keeps hbefore (fun _ _ => trivial) (fun _ _ => trivial) hjobs
  have hreleased : ∀ now w a w', Released jobRef w → True → Effect now w a w' →
      Released jobRef w' := fun _ _ _ _ hrel _ heffect => heffect.released hrel
  refine hrest.keeps (Q := fun t => Released jobRef t.workflow) ⟨hthere, hnone⟩ fun y hy hrel => ?_
  exact (hrest.step_of_mem hy).keeps hrel (fun _ _ => trivial) (fun _ _ => trivial) hreleased

theorem scopesTaken {l : List (Transition System Event)} {s : System} (h : SystemRun l s) :
    ScopesTaken l s := by
  constructor
  · have hinitial : HeldOutside [] System.initial.workflow :=
      fun _ hj => absurd hj (Table.not_mem_empty _)
    have hstep : ∀ m (x : Transition System Event), SystemRun m x.pre →
        HeldOutside m x.pre.workflow → System.Step x.pre x.label x.post →
          HeldOutside (m ++ [x]) x.post.workflow := fun _ _ hm hheld hx => held_step hm hx hheld
    exact h.history (Q := fun m t => HeldOutside m t.workflow) hinitial hstep
  · rintro j hj (hcancelled | hretired)
    · exact h.scopeInvariant.1.dropped j hj hcancelled
    · exact (released_of_retired h hretired).2

def publicationJob? (db : Database) (p : PublicationRow) : Option String :=
  (db.fixRevisions.find? p.fixRevisionRef).bind (fixRevisionJob? db)

/-- A job that does not hold its scope gets no open run and no publication. -/
def OnlyHeldWork (x : Transition System Event) : Prop :=
  ∀ j ∈ x.pre.workflow.jobs, ¬ HoldsAll x.pre.workflow j →
    (∀ r ∈ x.post.workflow.runs, r.jobRef = j.jobRef → r.status.Open → r ∈ x.pre.workflow.runs) ∧
      ∀ p ∈ x.post.workflow.publications, ¬ PublicationIn p.publicationRef x.pre.workflow →
        publicationJob? x.pre.store.db p ≠ some j.jobRef

/-- The job is processed, or has a run that is running or may be claimed. -/
def Works (w : Workflow) (j : JobRow) : Prop :=
  BusyStatus j.status ∨ ∃ r ∈ w.runs, r.jobRef = j.jobRef ∧
    (r.status = .running ∨ r.status = .queued ∧ j.status ≠ .cancelled)

/-- No clip of a dataset is worked on by two jobs. -/
def NoSharedWork (w : Workflow) : Prop :=
  ∀ j ∈ w.jobs, ∀ j' ∈ w.jobs, Works w j → Works w j' → j'.datasetDate = j.datasetDate →
    ∀ x ∈ w.clips, ∀ x' ∈ w.clips, x.jobRef = j.jobRef → x'.jobRef = j'.jobRef →
      x'.sourceClip = x.sourceClip → j' = j

theorem WorkHeld.works {w : Workflow} {j : JobRow} (h : WorkHeld w) (hj : j ∈ w.jobs)
    (hworks : Works w j) : HoldsAll w j := by
  rcases hworks with hbusy | ⟨r, hr, hof, hrunning | ⟨hqueued, hstatus⟩⟩
  · exact h.busy j hj hbusy
  · have hactive := h.active j hj r hr hof (.inr hrunning)
    refine hactive.1 fun hcancelled => ?_
    rw [hactive.2 hcancelled] at hrunning
    cases hrunning
  · exact (h.active j hj r hr hof (.inl hqueued)).1 hstatus

theorem WorkHeld.noSharedWork {w : Workflow} (h : WorkHeld w) : NoSharedWork w := by
  intro j hj j' hj' hworks hworks' hdate x hx x' hx' hof hof' hclip
  obtain ⟨l, hl, hldate, hlclip, href⟩ := h.works hj hworks x hx hof
  obtain ⟨l', hl', hldate', hlclip', href'⟩ := h.works hj' hworks' x' hx' hof'
  have hsame := oneOwner w l hl l' hl' (hldate'.trans (hdate.trans hldate.symm))
    (hlclip'.trans (hclip.trans hlclip.symm))
  exact Table.eq_of_key hj' hj (href'.symm.trans (hsame.trans href))

/-- What is kept under the condition that work is taken up for jobs that hold their scopes. -/
structure HeldInvariant (w : Workflow) : Prop extends WriterInvariant w, ScopeInvariant w,
  WorkHeld w

theorem HeldInvariant.step {now : Timestamp} {w w' : Workflow} {a : Change} (h : HeldInvariant w)
    (hok : StartsHeld w a) (heffect : Effect now w a w') : HeldInvariant w' where
  single := heffect.runMove.single h.single h.leases
  leases := heffect.writerLeases h.leases
  toScopeInvariant := heffect.scopeInvariant h.toScopeInvariant
  toWorkHeld := h.toWorkHeld.step h.toScopeInvariant h.single hok heffect

theorem startsHeld_stop (w : Workflow) (q : RunFailure) : StartsHeld w (.stop q) := by
  intro jobRef hstarts
  cases hstarts

theorem SystemRun.heldInvariant {l : List (Transition System Event)} {s : System}
    (h : SystemRun l s) (hl : ∀ x ∈ l, ¬ StartsUnheld x.pre x.label) :
    HeldInvariant s.workflow ∧ ∀ x ∈ l, HeldInvariant x.pre.workflow ∧
      HeldInvariant x.post.workflow := by
  have hwriter : WriterInvariant Database.initial.toWorkflow :=
    ⟨fun _ hr => absurd hr (Table.not_mem_empty _), fun _ hl => absurd hl (Table.not_mem_empty _)⟩
  have hwork : WorkHeld Database.initial.toWorkflow :=
    ⟨fun _ hj => absurd hj (Table.not_mem_empty _), fun _ hj => absurd hj (Table.not_mem_empty _)⟩
  have hinitial : HeldInvariant Database.initial.toWorkflow :=
    ⟨hwriter, scopeInvariant_initial, hwork⟩
  exact h.keeps hinitial (fun w _ => startsHeld_stop w _)
    (fun x hx a ha => startsHeld_of_makes (hl x hx) ha) fun _ _ _ _ hw hok heffect =>
      hw.step hok heffect

/-- The job does not hold its scope, and its open runs are among these. -/
structure NoNewRuns (rows : Table RunRow) (jobRef : String) (w : Workflow) : Prop where
  unheld : ∃ j ∈ w.jobs, j.jobRef = jobRef ∧ ¬ HoldsAll w j
  runs : ∀ r ∈ w.runs, r.jobRef = jobRef → r.status.Open → r ∈ rows

theorem NoNewRuns.step {now : Timestamp} {w w' : Workflow} {a : Change} {rows : Table RunRow}
    {jobRef : String} (h : NoNewRuns rows jobRef w) (hw : HeldInvariant w) (hok : StartsHeld w a)
    (heffect : Effect now w a w') : NoNewRuns rows jobRef w' := by
  obtain ⟨⟨j, hj, rfl, hunheld⟩, hruns⟩ := h
  obtain ⟨j', hj', hsame, -⟩ := heffect.jobMove.forward hj
  refine ⟨⟨j', hj', hsame.ref, fun hall => hunheld (heffect.holdsAll_old hj hsame hall)⟩, ?_⟩
  intro r' hr' hof hopen
  rcases heffect.runMove.open hr' hopen with
    hold | ⟨-, hwork⟩ | ⟨r, j₁, hrun, hsameRun, hq, hstatus⟩
  · exact hruns r' hold hof hopen
  · exact absurd ((hof ▸ hwork).holdsAll hw.toWorkHeld hok hj) hunheld
  · have hofOld : r.jobRef = j.jobRef := hsameRun.job.symm.trans hof
    obtain rfl : j₁ = j := Table.eq_of_key hrun.job hj (hrun.ref.trans hofOld)
    exact absurd ((hw.active _ hj r hrun.run hofOld (.inl hq)).1 hstatus) hunheld

/-- What a step of interrupted runs keeps. -/
structure HeldRuns (rows : Table RunRow) (jobRef : String) (w : Workflow) : Prop where
  inv : HeldInvariant w
  runs : NoNewRuns rows jobRef w

theorem newRuns_of_step {x : Transition System Event}
    (hstep : System.Step x.pre x.label x.post) (hinv : HeldInvariant x.pre.workflow)
    (hok : ¬ StartsUnheld x.pre x.label) {j : JobRow} (hj : j ∈ x.pre.workflow.jobs)
    (hunheld : ¬ HoldsAll x.pre.workflow j) :
    NoNewRuns x.pre.workflow.runs j.jobRef x.post.workflow := by
  have hbefore : HeldRuns x.pre.workflow.runs j.jobRef x.pre.workflow :=
    ⟨hinv, ⟨j, hj, rfl, hunheld⟩, fun _ hr _ _ => hr⟩
  have hkeep : ∀ now w a w', HeldRuns x.pre.workflow.runs j.jobRef w → StartsHeld w a →
      Effect now w a w' → HeldRuns x.pre.workflow.runs j.jobRef w' :=
    fun _ _ _ _ hw hok heffect => ⟨hw.inv.step hok heffect, hw.runs.step hw.inv hok heffect⟩
  exact (hstep.keeps hbefore (fun w _ => startsHeld_stop w _)
    (fun a ha => startsHeld_of_makes hok ha) hkeep).runs

theorem Event.Makes.publishes {s : System} {e : Event} {jobRef fixRevisionRef : String}
    (h : e.Makes s (.publish jobRef fixRevisionRef)) :
    ∃ f, s.store.db.fixRevisions.find? fixRevisionRef = some f ∧
      fixRevisionJob? s.store.db f = some jobRef := by
  cases h with
  | call makes =>
    cases makes with
    | approve accepted =>
      obtain ⟨r, f, -, -, hf, -, hjob, -⟩ := accepted.review
      exact ⟨f, hf, hjob⟩
    | republish accepted =>
      obtain ⟨r, p, f, -, -, -, -, -, -, hf, hjob⟩ := accepted.review
      exact ⟨f, hf, hjob⟩

theorem newPublication_starts {x : Transition System Event} {p : PublicationRow} {jobRef : String}
    (hstep : System.Step x.pre x.label x.post) (hp : p ∈ x.post.workflow.publications)
    (hnew : ¬ PublicationIn p.publicationRef x.pre.workflow)
    (hjob : publicationJob? x.pre.store.db p = some jobRef) :
    StartsWork x.pre x.label jobRef := by
  rcases hstep.effect with ⟨a, hmakes, heffect⟩ | ⟨effects, hrun, hlabels⟩
  · rcases heffect.publications hp with hold | ⟨jobRef', rfl⟩
    · exact absurd hold hnew
    · obtain ⟨f, hf, hjob'⟩ := hmakes.publishes
      have hsame : some jobRef' = some jobRef := by
        rw [← hjob', ← hjob, publicationJob?, hf]
        rfl
      rw [← Option.some.inj hsame]
      exact hmakes.starts (.publish _)
  · have hall : ∀ p ∈ x.post.workflow.publications,
        PublicationIn p.publicationRef x.pre.workflow := by
      refine hrun.keeps (Q := fun w => ∀ p ∈ w.publications,
        PublicationIn p.publicationRef x.pre.workflow) (fun p hp => ⟨p, hp, rfl⟩) ?_
      intro y hy hpre p hp
      rcases (hrun.step_of_mem hy).publications hp with ⟨p₀, hp₀, href⟩ | ⟨jobRef', hpublish⟩
      · exact href ▸ hpre p₀ hp₀
      · obtain ⟨runRef, hstop, -⟩ := hlabels y hy
        rw [hstop] at hpublish
        cases hpublish
    exact absurd (hall p hp) hnew

theorem onlyHeldWork_of_step {x : Transition System Event}
    (hstep : System.Step x.pre x.label x.post) (hinv : HeldInvariant x.pre.workflow)
    (hok : ¬ StartsUnheld x.pre x.label) : OnlyHeldWork x := by
  intro j hj hunheld
  refine ⟨(newRuns_of_step hstep hinv hok hj hunheld).runs, fun p hp hnew hjob => ?_⟩
  exact hok ⟨j.jobRef, newPublication_starts hstep hp hnew hjob, j, hj, rfl, hunheld⟩

/-- A clip is leased by one job, a job has its scope until it is cancelled or retired, and, in
runs where work is taken up for jobs that hold their scopes only, no other job gets runs or
publications and no clip is worked on by two jobs. -/
theorem source_scopes_owned {l : List (Transition System Event)} {s : System}
    (h : SystemRun l s) :
    OneOwner s.workflow ∧ ScopesTaken l s ∧
      ((∀ x ∈ l, ¬ StartsUnheld x.pre x.label) →
        (∀ x ∈ l, OnlyHeldWork x) ∧ NoSharedWork s.workflow) := by
  refine ⟨oneOwner _, scopesTaken h, fun hl => ?_⟩
  obtain ⟨hlast, hall⟩ := h.heldInvariant hl
  exact ⟨fun x hx => onlyHeldWork_of_step (h.step_of_mem hx) (hall x hx).1 (hl x hx),
    hlast.noSharedWork⟩

namespace Sample

def failPrepare : Event :=
  .call (.failRun ⟨"run_1", "annotation_runtime_error", "The runtime failed.", true, none⟩
    failureRefs)

/-- The first job fails, is retried while it holds its clip and is cancelled; a second job then
takes the clip. -/
def retriedScope : List Event :=
  [.call (.createJob (job "job_1" "2026-01-01" ["clip_a"]) "run_1" "create_job_1"), claim,
    failPrepare, .call (.retryJob ⟨"job_1", 1⟩ "run_2" "retry_job_1"),
    .call (.cancelJob ⟨"job_1", 2⟩ "cancel_job_1"),
    .call (.createJob (job "job_2" "2026-01-01" ["clip_a"]) "run_3" "create_job_2")]

/-- The first job fails and loses its clip in a reset; it is retried when a second job has taken
the clip. -/
def retiredScope : List Event :=
  [.call (.createJob (job "job_1" "2026-01-01" ["clip_a"]) "run_1" "create_job_1"), claim,
    failPrepare, .call (.resetUnreleasedDataset "2026-01-01" "reset_1" "reset"),
    .call (.createJob (job "job_2" "2026-01-01" ["clip_a"]) "run_2" "create_job_2"),
    .call (.retryJob ⟨"job_1", 1⟩ "run_3" "retry_job_1")]

theorem run_retriedScope : SystemRun (System.initial.trace retriedScope)
    (System.initial.after retriedScope) :=
  System.run_trace _ _ (by decide)

theorem run_retiredScope : SystemRun (System.initial.trace retiredScope)
    (System.initial.after retiredScope) :=
  System.run_trace _ _ (by decide)

def startsWork (x : Transition System Event) : Bool :=
  match x.label with
  | .call (.retryJob ..) | .call (.beginPostprocessing ..) | .call (.createFixRevision ..)
  | .call (.approveFixRevision ..) | .call (.retryCompatibilityPublication ..) | .commit .. => true
  | _ => false

end Sample

theorem retriedScope_owned :
    (∀ x ∈ System.initial.trace Sample.retriedScope, OnlyHeldWork x) ∧
      NoSharedWork (System.initial.after Sample.retriedScope).workflow := by
  have hheld : ∀ x ∈ System.initial.trace Sample.retriedScope, Sample.startsWork x = true →
      ∀ j ∈ x.pre.workflow.jobs, ∀ c ∈ x.pre.workflow.clips, c.jobRef = j.jobRef →
        ∃ l ∈ x.pre.workflow.sourceLeases, l.datasetDate = j.datasetDate ∧
          l.sourceClip = c.sourceClip ∧ l.jobRef = j.jobRef := by
    decide
  obtain ⟨-, -, hwork⟩ := source_scopes_owned Sample.run_retriedScope
  refine hwork ?_
  rintro x hx ⟨jobRef, hstarts, j, hj, -, hunheld⟩
  have hstarts' : Sample.startsWork x = true := by
    unfold Sample.startsWork
    generalize x.label = e at hstarts
    cases hstarts <;> rfl
  exact hunheld (hheld x hx hstarts' j hj)

theorem retiredScope_shared :
    ¬ ∀ (l : List (Transition System Event)) (s : System), SystemRun l s →
      OneOwner s.workflow ∧ ScopesTaken l s ∧ (∀ x ∈ l, OnlyHeldWork x) ∧
        NoSharedWork s.workflow := by
  intro h
  have hshared : ∃ j ∈ (System.initial.after Sample.retiredScope).workflow.jobs,
      ∃ j' ∈ (System.initial.after Sample.retiredScope).workflow.jobs,
        j.status = .preparing ∧ j'.status = .preparing ∧ j'.datasetDate = j.datasetDate ∧
          ∃ x ∈ (System.initial.after Sample.retiredScope).workflow.clips,
            ∃ x' ∈ (System.initial.after Sample.retiredScope).workflow.clips,
              x.jobRef = j.jobRef ∧ x'.jobRef = j'.jobRef ∧ x'.sourceClip = x.sourceClip ∧
                j' ≠ j := by
    decide
  obtain ⟨j, hj, j', hj', hbusy, hbusy', hdate, x, hx, x', hx', hof, hof', hclip, hne⟩ := hshared
  obtain ⟨-, -, -, hnone⟩ := h _ _ Sample.run_retiredScope
  exact hne (hnone j hj j' hj' (.inl (.inl hbusy)) (.inl (.inl hbusy')) hdate x hx x' hx' hof hof'
    hclip)

end DataJuicer.Annotation
