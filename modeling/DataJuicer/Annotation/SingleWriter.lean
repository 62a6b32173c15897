import DataJuicer.Annotation.RunMoves
import DataJuicer.Annotation.Traces

/-! # One writer at a time

At most one run is running, because each has a lease under the one key of the writer, and a
claim hands out nothing while a running run holds it or has lost it. What a late worker does to
a run that has ended is up to `fail_run`, which looks only for the decision of a recovery.
-/

namespace DataJuicer.Annotation

open Transaction

variable {now : Timestamp} {w w' : Workflow} {a : Change}

/-- The run failed and waits for an operator, and its marker keeps the writers away. -/
def FailedClosed (s : Store) (runRef : String) : Prop :=
  ∃ r ∈ s.db.runs, r.runRef = runRef ∧ r.status = .failed ∧
    r.failureCode = some recoveryRequired ∧ ∃ failureRef, r.failureRef = some failureRef ∧
      ∃ m ∈ s.markers, m.name = quarantineMarkerName failureRef

theorem mem_ensureQuarantine (recoveryRef token : String) (markers : List Marker) :
    (∀ m ∈ markers, m ∈ ensureQuarantine recoveryRef token markers) ∧
      ∃ m ∈ ensureQuarantine recoveryRef token markers,
        m.name = quarantineMarkerName recoveryRef := by
  unfold ensureQuarantine
  split
  next hex => exact ⟨fun _ hm => hm, hex⟩
  next =>
    refine ⟨fun m hm => List.mem_append_left _ hm, ⟨_, List.mem_concat_self, rfl⟩⟩

theorem mem_quarantineAll (d : RecoveryRefs) (rows : List RunRow) (markers : List Marker) :
    (∀ m ∈ markers, m ∈ quarantineAll d rows markers) ∧
      ∀ r ∈ rows, ∃ m ∈ quarantineAll d rows markers,
        m.name = quarantineMarkerName (d.failureRef r.runRef) := by
  unfold quarantineAll
  induction rows generalizing markers with
  | nil => exact ⟨fun _ hm => hm, by simp⟩
  | cons r rest ih =>
    obtain ⟨hkeep, hnew⟩ := mem_ensureQuarantine (d.failureRef r.runRef) (d.token r.runRef) markers
    obtain ⟨hkeep', hnew'⟩ := ih (ensureQuarantine (d.failureRef r.runRef) (d.token r.runRef)
      markers)
    refine ⟨fun m hm => hkeep' m (hkeep m hm), ?_⟩
    intro r' hr'
    rcases List.mem_cons.1 hr' with rfl | hr'
    · obtain ⟨m, hm, hname⟩ := hnew
      exact ⟨m, hkeep' m hm, hname⟩
    · exact hnew' r' hr'

theorem failRunConn_runs {db db' : Database} {r : RunRow} {refs : FailureRefs}
    (h : failRunConn now (interruption r.runRef) refs db = .ok db') (hr : r ∈ db.runs)
    (hrunning : r.status = .running) :
    db'.runs = (db.toWorkflow.failRunRow now (interruption r.runRef) refs.failureRef).runs := by
  obtain ⟨r', hr', h⟩ := bind_eq_ok.1 h
  obtain ⟨j, -, h⟩ := bind_eq_ok.1 h
  obtain ⟨hmem, href⟩ : r' ∈ db.runs ∧ r'.runRef = r.runRef :=
    Table.find?_eq_some_iff.1 (orRaise_eq_ok.1 hr')
  obtain rfl : r' = r := Table.eq_of_key hmem hr href
  rw [if_neg (fun hcode => hcode.1 rfl), if_neg (by simp [hrunning])] at h
  split at h
  · obtain ⟨link, -, h⟩ := bind_eq_ok.1 h
    obtain ⟨p, -, h⟩ := bind_eq_ok.1 h
    obtain ⟨_, -, h⟩ := bind_eq_ok.1 h
    obtain rfl := Except.ok.inj h
    rfl
  · obtain ⟨link, -, h⟩ := bind_eq_ok.1 h
    obtain rfl := Except.ok.inj h
    rfl
  · unfold failJobRun at h
    dsimp only at h
    split at h
    · obtain rfl := Except.ok.inj h
      rfl
    · split at h
      · obtain ⟨db₁, hemit, h⟩ := bind_eq_ok.1 h
        obtain rfl := Except.ok.inj h
        unfold emitPostprocessingFailed at hemit
        rw [if_pos hrunning] at hemit
        obtain ⟨_, -, hemit⟩ := bind_eq_ok.1 hemit
        obtain ⟨handoffs, hw⟩ := (insertHandoff_ok hemit).1.eq
        have hruns : db₁.runs = _ := congrArg Workflow.runs hw
        exact hruns
      · obtain rfl := Except.ok.inj h
        rfl

/-- The loop of a recovery fails each of its runs, under the reference of its marker. -/
theorem failAll_fails {db db' : Database} {d : RecoveryRefs} {rows : List RunRow}
    (hrows : RunningRows db.toWorkflow rows) (h : failAll now d rows db = .ok db') :
    (∀ r ∈ rows, ∃ r' ∈ db'.runs, r'.runRef = r.runRef ∧ r'.status = .failed ∧
      r'.failureCode = some recoveryRequired ∧ r'.failureRef = some (d.failureRef r.runRef)) ∧
        ∀ r, r.runRef ∉ rows.map RunRow.runRef → (r ∈ db'.runs ↔ r ∈ db.runs) := by
  induction rows generalizing db with
  | nil =>
    obtain rfl := Except.ok.inj h
    exact ⟨by simp, fun _ _ => Iff.rfl⟩
  | cons r rest ih =>
    obtain ⟨hrunning, hdistinct⟩ := hrows
    obtain ⟨hfresh, hrest⟩ := List.nodup_cons.1 hdistinct
    obtain ⟨hmem, hstatus⟩ := hrunning r List.mem_cons_self
    obtain ⟨db₁, hone, h⟩ := bind_eq_ok.1 h
    have hruns := failRunConn_runs hone hmem hstatus
    have honly : OnlyRun r.runRef db.toWorkflow db₁.toWorkflow :=
      .of_rows (congrArg Table.rows hruns) fun _ => rfl
    have hrunning' : RunningRows db₁.toWorkflow rest := by
      refine ⟨fun r' hr' => ?_, hrest⟩
      obtain ⟨hmem', hstatus'⟩ := hrunning r' (List.mem_cons_of_mem _ hr')
      have hne : r'.runRef ≠ r.runRef := fun he => hfresh (he ▸ List.mem_map_of_mem hr')
      exact ⟨(honly r' hne).2 hmem', hstatus'⟩
    obtain ⟨hfailed, hothers⟩ := ih hrunning' h
    constructor
    · intro r' hr'
      rcases List.mem_cons.1 hr' with rfl | hr'
      · have hrow := Table.mem_of_map_mem (congrArg Table.rows hruns) hmem
        rw [if_pos (show r'.runRef = (interruption r'.runRef).runRef from rfl)] at hrow
        refine ⟨_, (hothers _ ?_).2 hrow, rfl, rfl, rfl, rfl⟩
        exact hfresh
      · exact hfailed r' hr'
    · intro r' hr'
      rw [List.map_cons, List.mem_cons, not_or] at hr'
      exact (hothers r' hr'.2).trans (honly r' hr'.1)

theorem recoverRuns_closes {coordinated : Bool} {d : RecoveryRefs} {rows : List RunRow} {s : Store}
    (hrows : RunningRows s.db.toWorkflow rows) :
    (recoverRuns now coordinated d rows s).2.db = s.db ∨
      ∀ r ∈ rows, FailedClosed (recoverRuns now coordinated d rows s).2 r.runRef := by
  unfold recoverRuns
  cases coordinated with
  | false => exact .inl rfl
  | true =>
    dsimp only
    rw [if_pos rfl]
    cases hall : failAll now d rows s.db with
    | error e => exact .inl rfl
    | ok db =>
      refine .inr fun r hr => ?_
      obtain ⟨r', hr', href, hstatus, hcode, hfailureRef⟩ := (failAll_fails hrows hall).1 r hr
      obtain ⟨m, hm, hname⟩ := (mem_quarantineAll d rows s.markers).2 r hr
      exact ⟨r', hr', href, hstatus, hcode, _, hfailureRef, m, hm, hname⟩

def Event.Recovers (epoch : Option String) (e : Event) : Prop :=
  (∃ c d, e = .claim c d ∧ c.ownerEpoch = epoch) ∨ ∃ coordinated d, e = .recover epoch coordinated d

def System.HandsOut (s : System) (e : Event) : Prop :=
  ∃ c d claimed, e = .claim c d ∧ (claimNextRun s.clock c d s.store).1 = .ok (some claimed)

theorem System.act_recovers {s : System} {e : Event} {epoch : Option String}
    (he : e.Recovers epoch) (hlost : interruptedRuns s.clock epoch s.workflow ≠ []) :
    ¬ s.HandsOut e ∧ ((s.act e).store.db = s.store.db ∨
      ∀ r ∈ interruptedRuns s.clock epoch s.workflow, FailedClosed (s.act e).store r.runRef) := by
  have hrunning := interruptedRuns_running s.clock epoch s.workflow
  obtain ⟨r, rest, hrows⟩ := List.exists_cons_of_ne_nil hlost
  rw [hrows] at hrunning
  rcases he with ⟨c, d, rfl, rfl⟩ | ⟨coordinated, d, rfl⟩
  · have hclaim : claimNextRun s.clock c d s.store =
        ((recoverRuns s.clock c.coordinated d (r :: rest) s.store).1.map fun _ => none,
          (recoverRuns s.clock c.coordinated d (r :: rest) s.store).2) := by
      unfold claimNextRun
      rw [hrows]
    constructor
    · rintro ⟨c', d', claimed, he, hout⟩
      cases he
      rw [hclaim] at hout
      cases hrec : (recoverRuns s.clock c.coordinated d (r :: rest) s.store).1 with
      | error err =>
        rw [hrec] at hout
        cases hout
      | ok n =>
        rw [hrec] at hout
        cases hout
    · simp only [act, hclaim, hrows]
      exact recoverRuns_closes hrunning
  · have hnone : ¬ s.HandsOut (.recover epoch coordinated d) := by
      rintro ⟨c', d', claimed, he, -⟩
      cases he
    refine ⟨hnone, ?_⟩
    have hrecover : recoverInterruptedRuns s.clock epoch coordinated d s.store =
        recoverRuns s.clock coordinated d (r :: rest) s.store := by
      unfold recoverInterruptedRuns
      rw [hrows]
    simp only [act, hrecover, hrows]
    exact recoverRuns_closes hrunning

theorem System.HandsOut.idle {s : System} {e : Event} (h : s.HandsOut e)
    (hkeys : WriterLeases s.workflow) : ∀ r ∈ s.workflow.runs, r.status ≠ .running := by
  obtain ⟨c, d, claimed, rfl, hout⟩ := h
  unfold claimNextRun at hout
  cases hrows : interruptedRuns s.clock c.ownerEpoch s.workflow with
  | cons r rest =>
    have hlost : interruptedRuns s.clock c.ownerEpoch s.workflow ≠ [] := by simp [hrows]
    exact absurd ⟨c, d, claimed, rfl, by unfold claimNextRun; exact hout⟩
      (act_recovers (.inl ⟨c, d, rfl, rfl⟩) hlost).1
  | nil =>
    rw [hrows] at hout
    dsimp only at hout
    split at hout
    next => cases hout
    next =>
      have hfree : WriterFree s.clock s.workflow := by
        refine ⟨⟨_, noneInterrupted_of hrows⟩, fun l hl hkey => ?_⟩
        have hclaim : claimQueued s.clock c s.store.db =
            .ok (none, dropExpiredLeases s.clock s.store.db) := by
          unfold claimQueued
          dsimp only
          split
          next => rfl
          next => rw [if_pos ⟨l, hl, hkey⟩]
        rw [hclaim] at hout
        cases hout
      exact hfree.idle hkeys

def SameFailure (q : RunFailure) (r : RunRow) (j : JobRow) : Prop :=
  r.status = .failed ∧ r.failureCode = some q.code ∧
    (r.kind = .fix ∨ r.kind = .compatibilityPublish ∨ j.status = .failed ∨ j.status = .cancelled)

/-- A failure of a run that has ended changes nothing that is seen of it. -/
def KeepsEnded (w : Workflow) (a : Change) : Prop :=
  ∀ q, a = .fail q → ∀ r j, RunOf w r j → r.runRef = q.runRef → r.status.Terminal →
    ¬ (r.status = .failed ∧ r.failureCode = some recoveryRequired) → SameFailure q r j

theorem RunStatus.Terminal.not_open {x : RunStatus} (h : x.Terminal) : ¬ x.Open := by
  rintro (rfl | rfl) <;> simp [RunStatus.Terminal] at h

def RunIn (runRef : String) (status : RunStatus) (code : Option String) (w : Workflow) : Prop :=
  ∃ r ∈ w.runs, r.runRef = runRef ∧ r.status = status ∧ r.failureCode = code

theorem runIn_of_mem {r : RunRow} (hr : r ∈ w.runs) :
    RunIn r.runRef r.status r.failureCode w := ⟨r, hr, rfl, rfl, rfl⟩

theorem Effect.runIn {runRef : String} {status : RunStatus} {code : Option String}
    (h : Effect now w a w') (hok : KeepsEnded w a) (hterminal : status.Terminal)
    (hw : RunIn runRef status code w) : RunIn runRef status code w' := by
  obtain ⟨r, hr, rfl, rfl, rfl⟩ := hw
  have hopen := hterminal.not_open
  obtain ⟨r', hr', hsame, hstep | ⟨hqueued, -⟩⟩ := h.runMove.forward hr
  · refine ⟨r', hr', hsame.ref, ?_⟩
    cases hstep with
    | still eq =>
      subst eq
      exact ⟨rfl, rfl⟩
    | succeeded finish active => exact absurd active hopen
    | closed by' running => exact absurd (.inr running) hopen
    | dequeued queued => exact absurd (.inl queued) hopen
    | failed by' run ref kept hstatus hcode =>
      rcases by' with ha | ⟨-, hrunning⟩
      · obtain ⟨hfailed, hsameCode, -⟩ := hok _ ha r _ run ref hterminal kept
        exact ⟨hstatus.trans hfailed.symm, hcode.trans hsameCode.symm⟩
      · exact absurd (.inr hrunning) hopen
  · exact absurd (.inl hqueued) hopen

inductive Change.About (runRef : String) : Change → Prop
  | nothing : About runRef .nothing
  | finish {ref : String} (eq : ref = runRef) : About runRef (.finish ref)
  | renew {ref workerId : String} {leaseMs : ℕ} (eq : ref = runRef) :
      About runRef (.renew ref workerId leaseMs)
  | fail {q : RunFailure} (ref : q.runRef = runRef) : About runRef (.fail q)
  | stop {q : RunFailure} (ref : q.runRef = runRef) : About runRef (.stop q)

def JobIn (jobRef : String) (status : JobStatus) (w : Workflow) : Prop :=
  ∃ j ∈ w.jobs, j.jobRef = jobRef ∧ j.status = status

theorem ClosesBy.ref {runRef : String} {r : RunRow} (h : ClosesBy a r) (ha : a.About runRef) :
    r.runRef = runRef := by
  rcases h with rfl | ⟨q, rfl | rfl, href, -⟩
  · cases ha with
    | finish eq => exact eq
  · cases ha with
    | fail ref => exact href.symm.trans ref
  · cases ha with
    | stop ref => exact href.symm.trans ref

theorem FailsBy.ref {runRef : String} {q : RunFailure} {r : RunRow} (h : FailsBy a q r)
    (ha : a.About runRef) : q.runRef = runRef := by
  rcases h with rfl | ⟨rfl, -⟩
  · cases ha with
    | fail ref => exact ref
  · cases ha with
    | stop ref => exact ref

theorem failJob_jobIn {q : RunFailure} {failureRef : String} {r : RunRow} {j : JobRow}
    (hby : FailsBy a q r) (hrun : RunOf w r j) (href : r.runRef = q.runRef)
    (hkind : r.kind ≠ .fix ∧ r.kind ≠ .compatibilityPublish) (huncancelled : j.status ≠ .cancelled)
    (hkept : ¬ (r.status = .failed ∧ r.failureCode = some recoveryRequired))
    (hterminal : r.status.Terminal) (hok : KeepsEnded w a) {status : JobStatus}
    (hjob : JobIn r.jobRef status w)
    (hw' : w'.jobs = (w.failJob now q failureRef r.jobRef).jobs) : JobIn r.jobRef status w' := by
  obtain ⟨j₁, hj₁, hj₁Ref, rfl⟩ := hjob
  obtain rfl : j₁ = j := Table.eq_of_key hj₁ hrun.job (hj₁Ref.trans hrun.ref.symm)
  rcases hby with ha | ⟨-, hrunning⟩
  · obtain ⟨-, -, hfix | hpublish | hfailed | hcancelled⟩ := hok q ha r _ hrun href hterminal hkept
    · exact absurd hfix hkind.1
    · exact absurd hpublish hkind.2
    · have hmem := Table.mem_of_map_mem (congrArg Table.rows hw') hj₁
      rw [if_pos hj₁Ref] at hmem
      exact ⟨_, hmem, hj₁Ref, hfailed.symm⟩
    · exact absurd hcancelled huncancelled
  · exact absurd (.inr hrunning) hterminal.not_open

theorem Effect.jobIn {r : RunRow} {status : JobStatus} (h : Effect now w a w')
    (ha : a.About r.runRef) (hok : KeepsEnded w a) (hr : r ∈ w.runs)
    (hterminal : r.status.Terminal) (hjob : JobIn r.jobRef status w) :
    JobIn r.jobRef status w' := by
  have hnot : ∀ {r₀ : RunRow}, r₀ ∈ w.runs → r₀.runRef = r.runRef → ¬ r₀.status.Open := by
    intro r₀ hr₀ href
    obtain rfl := Table.eq_of_key hr₀ hr href
    exact hterminal.not_open
  cases h with
  | same => exact hjob
  | created | drafted | submitted | acted | trackingStarted | cancelled | abandoned
    | cancelRequested | retried | recovered | postprocessingStarted | fixQueued
    | publicationQueued | decided | claimed | leasesExpired | reset => cases ha
  | renewed => exact hjob
  | closed by' run running => exact absurd (.inr running) (hnot run.run (by'.ref ha))
  | prepared run running =>
    cases ha with
    | finish eq => exact absurd (.inr running) (hnot run.run eq)
  | tracked run running =>
    cases ha with
    | finish eq => exact absurd (.inr running) (hnot run.run eq)
  | postprocessed run kind active =>
    cases ha with
    | finish eq => exact absurd active (hnot run.run eq)
  | fixed run running | published key run running =>
    cases ha with
    | finish eq => exact absurd (.inr running) (hnot run eq)
  | publicationFailed | fixFailed | cancelledJobRunFailed => exact hjob
  | jobRunFailed by' run ref uncancelled kind kept =>
    obtain rfl := run.eq hr ((by'.ref ha).symm.trans ref.symm)
    have hkind : r.kind ≠ .fix ∧ r.kind ≠ .compatibilityPublish := by
      rcases kind with h | h <;> rw [h] <;> exact ⟨nofun, nofun⟩
    exact failJob_jobIn by' run ref hkind uncancelled kept hterminal hok hjob rfl
  | postprocessingFailed by' run ref uncancelled kind kept emission =>
    obtain rfl := run.eq hr ((by'.ref ha).symm.trans ref.symm)
    obtain ⟨handoffs, rfl⟩ := failureEmission_eq emission
    have hkind : r.kind ≠ .fix ∧ r.kind ≠ .compatibilityPublish := by
      rw [kind]
      exact ⟨nofun, nofun⟩
    exact failJob_jobIn by' run ref hkind uncancelled kept hterminal hok hjob rfl

/-- A `fail_run` gets past its guards for a run that has ended, and what is seen of the run or
its job changes. -/
def FailsEnded (s : System) (e : Event) : Prop :=
  ∃ q refs r j, e = .call (.failRun q refs) ∧ RunOf s.workflow r j ∧ r.runRef = q.runRef ∧
    r.status.Terminal ∧ ¬ (r.status = .failed ∧ r.failureCode = some recoveryRequired) ∧
      (r.kind = .compatibilityPublish → ∃ l p, s.store.db.publicationLinks.find? r.runRef = some l ∧
        s.store.db.publications.find? l.publicationRef = some p ∧ p.status = .running) ∧
          ¬ SameFailure q r j

theorem keepsEnded_of_makes {s : System} {e : Event} (h : ¬ FailsEnded s e)
    (ha : e.Makes s a) : KeepsEnded s.workflow a := by
  rintro q rfl r j hrun href hterminal hkept
  cases ha with
  | call makes =>
    cases makes with
    | fail accepted =>
      by_contra hchanges
      have hstopped : r.status ≠ .running := fun hr => hterminal.not_open (.inr hr)
      exact h ⟨q, _, r, j, rfl, hrun, href, hterminal, hkept,
        accepted.publishing r hrun.run href hstopped hkept, hchanges⟩

theorem keepsEnded_stop (w : Workflow) (runRef : String) :
    KeepsEnded w (.stop (interruption runRef)) := by
  rintro q ⟨⟩

theorem StoreCall.Makes.about {db : Database} {c : StoreCall} {runRef : String}
    (h : c.Makes db a) (hrun : c.run? db = some runRef) : a.About runRef := by
  cases h with
  | submit | act | retry | postprocess | fix | approve | republish | reset => cases hrun
  | fail accepted => exact .fail (Option.some.inj hrun)
  | noSegments q refs | badSegments q refs => exact .stop (Option.some.inj hrun)
  | @finish c ref completes =>
    have hsome : c.run? db = some ref := by
      cases c <;> first | exact completes | cases completes
    exact .finish (Option.some.inj (hsome.symm.trans hrun))
  | renew ref workerId leaseMs => exact .renew (Option.some.inj hrun)
  | nothing => exact .nothing
  | other unnamed =>
    rw [unnamed] at hrun
    cases hrun

/-- The runs that have ended stay as they are, and so does the status of their jobs when a
worker reports about them. -/
def EndedRunsKept (x : Transition System Event) : Prop :=
  ∀ r ∈ x.pre.workflow.runs, r.status.Terminal →
    RunIn r.runRef r.status r.failureCode x.post.workflow ∧
      ∀ c, x.label = .call c → c.run? x.pre.store.db = some r.runRef →
        ∀ j ∈ x.pre.workflow.jobs, j.jobRef = r.jobRef →
          JobIn j.jobRef j.status x.post.workflow

theorem endedRunsKept_of {x : Transition System Event} (h : System.Step x.pre x.label x.post)
    (hok : ¬ FailsEnded x.pre x.label) : EndedRunsKept x := by
  intro r hr hterminal
  refine ⟨?_, ?_⟩
  · exact h.keeps (runIn_of_mem hr) keepsEnded_stop (fun a ha => keepsEnded_of_makes hok ha)
      fun _ _ _ _ hinv hkeeps heffect => heffect.runIn hkeeps hterminal hinv
  · intro c hc hrun j hj href
    obtain ⟨hpost, -⟩ := h
    rw [hpost, hc]
    rcases x.pre.act_call c with hsame | ⟨a, hmakes, heffect, -⟩
    · refine ⟨j, ?_, rfl, rfl⟩
      change j ∈ (x.pre.act (.call c)).workflow.jobs
      rw [hsame]
      exact hj
    · have hmakes' : x.label.Makes x.pre a := hc ▸ .call hmakes
      have hjob : JobIn r.jobRef j.status x.pre.workflow := ⟨j, hj, href, rfl⟩
      rw [href]
      exact heffect.jobIn (hmakes.about hrun) (keepsEnded_of_makes hok hmakes') hr hterminal hjob

/-- A worker's call commits for a run that is running after it lost its lease. -/
def OutlivesLease (s : System) (e : Event) : Prop :=
  ∃ c r, e = .call c ∧ c.run? s.store.db = some r.runRef ∧ r ∈ s.workflow.runs ∧
    r.status = .running ∧ LeaseLost s.clock none s.workflow r.runRef ∧
      (∃ db, perform s.clock s.store.db c = .ok db) ∧
        ∀ runRef workerId leaseMs, c = .renewRunLease runRef workerId leaseMs → 0 < leaseMs ∧
          ∃ l ∈ s.workflow.runtimeLeases, l.runRef = runRef ∧ l.workerId = workerId

def LostRun (runRef : String) (s : System) : Prop :=
  ∃ r ∈ s.workflow.runs, r.runRef = runRef ∧ r.status = .running ∧
    LeaseLost s.clock none s.workflow runRef

theorem Effect.lostRun {r : RunRow} (h : Effect now w a w') (hkeys : WriterLeases w)
    (hr : r ∈ w.runs) (hrunning : r.status = .running) (hlost : LeaseLost now none w r.runRef)
    (hnot : a.About r.runRef → a = .nothing ∨ ∃ workerId leaseMs,
      a = .renew r.runRef workerId leaseMs ∧
        ∀ l ∈ w.runtimeLeases, l.runRef = r.runRef → l.workerId = workerId → leaseMs = 0) :
    r ∈ w'.runs ∧ LeaseLost now none w' r.runRef := by
  have hended : ∀ b, a = b → b.About r.runRef → b ≠ .nothing →
      (∀ workerId leaseMs, b ≠ .renew r.runRef workerId leaseMs) → False := by
    rintro b rfl hb hne hrenew
    rcases hnot hb with h | ⟨workerId, leaseMs, h, -⟩
    · exact hne h
    · exact hrenew workerId leaseMs h
  constructor
  · obtain ⟨r', hr', hsame, hstep | ⟨hqueued, -⟩⟩ := h.runMove.forward hr
    · cases hstep with
      | still eq => exact eq ▸ hr'
      | succeeded finish active => exact (hended _ finish (.finish rfl) nofun nofun).elim
      | closed by' running =>
        rcases by' with ha | ⟨q, ha | ha, href, -⟩
        · exact (hended _ ha (.finish rfl) nofun nofun).elim
        · exact (hended _ ha (.fail href) nofun nofun).elim
        · exact (hended _ ha (.stop href) nofun nofun).elim
      | dequeued queued =>
        rw [queued] at hrunning
        cases hrunning
      | failed by' run ref =>
        rcases by' with ha | ⟨ha, -⟩
        · exact (hended _ ha (.fail ref.symm) nofun nofun).elim
        · exact (hended _ ha (.stop ref.symm) nofun nofun).elim
    · rw [hqueued] at hrunning
      cases hrunning
  · rw [← expired_iff_leaseLost hkeys] at hlost
    rw [← expired_iff_leaseLost (h.writerLeases hkeys)]
    refine h.expired hr hrunning hlost fun l hl href leaseMs ha => ?_
    subst ha
    rcases hnot (.renew href) with ha | ⟨workerId, leaseMs', ha, hzero⟩
    · cases ha
    · injection ha with _ hworker hms
      rw [hms]
      exact hzero l hl href hworker

theorem LeaseLost.mono {now now' : Timestamp} {runRef : String} (hle : now ≤ now')
    (h : LeaseLost now none w runRef) : LeaseLost now' none w runRef := by
  rcases h with h | ⟨l, hl, href, hexpired | ⟨hne, -⟩⟩
  · exact .inl h
  · exact .inr ⟨l, hl, href, .inl (hexpired.trans hle)⟩
  · exact absurd rfl hne

theorem StoreCall.Makes.run?_eq {db : Database} {c : StoreCall} {runRef : String}
    (h : c.Makes db a) (ha : a.About runRef) (hne : a ≠ .nothing) : c.run? db = some runRef := by
  cases ha with
  | nothing => exact absurd rfl hne
  | finish eq =>
    cases h with
    | finish completes => cases c <;> first | exact eq ▸ completes | cases completes
  | renew eq =>
    cases h with
    | renew => exact congrArg some eq
  | fail ref =>
    cases h with
    | fail => exact congrArg some ref
  | stop ref =>
    cases h with
    | noSegments | badSegments => exact congrArg some ref

theorem lostRun_act_call {s : System} {c : StoreCall} {runRef : String}
    (hkeys : WriterLeases s.workflow) (hok : ¬ OutlivesLease s (.call c))
    (h : LostRun runRef s) : LostRun runRef (s.act (.call c)) := by
  obtain ⟨r, hr, rfl, hrunning, hlost⟩ := h
  rcases s.act_call c with hsame | ⟨a, hmakes, heffect, hcommit⟩
  · rw [hsame]
    exact ⟨r, hr, rfl, hrunning, hlost⟩
  · have hclock : (s.act (.call c)).clock = s.clock := by
      simp only [System.act]
      split <;> rfl
    have hstays := heffect.lostRun hkeys hr hrunning hlost fun ha => by
      by_cases hne : a = .nothing
      · exact .inl hne
      · have hrun := hmakes.run?_eq ha hne
        by_cases hrenews : ∃ ref workerId leaseMs, c = .renewRunLease ref workerId leaseMs
        · obtain ⟨ref, workerId, leaseMs, rfl⟩ := hrenews
          obtain rfl : ref = r.runRef := Option.some.inj hrun
          have ha' : a = .renew r.runRef workerId leaseMs := by
            cases hmakes with
            | finish completes => cases completes
            | renew => rfl
            | nothing => exact absurd rfl hne
            | other unnamed => cases unnamed
          refine .inr ⟨workerId, leaseMs, ha', fun l hl href hworker => ?_⟩
          by_contra hpos
          refine hok ⟨_, r, rfl, hrun, hr, hrunning, hlost, hcommit, fun _ _ _ heq => ?_⟩
          cases heq
          exact ⟨Nat.pos_of_ne_zero hpos, l, hl, href, hworker⟩
        · exact (hok ⟨c, r, rfl, hrun, hr, hrunning, hlost, hcommit,
            fun ref workerId leaseMs heq => absurd ⟨ref, workerId, leaseMs, heq⟩ hrenews⟩).elim
    exact ⟨r, hstays.1, rfl, hrunning, hclock ▸ hstays.2⟩

theorem System.Step.lostRun {s t : System} {e : Event} {runRef : String} (h : s.Step e t)
    (hkeys : WriterLeases s.workflow) (hok : ¬ OutlivesLease s e) (hlost : LostRun runRef s) :
    LostRun runRef t ∨ FailedClosed t.store runRef := by
  obtain ⟨rfl, -⟩ := h
  have hclock := s.clock_le_act e
  by_cases hcall : ∃ c, e = .call c
  · obtain ⟨c, rfl⟩ := hcall
    exact .inl (lostRun_act_call hkeys hok hlost)
  obtain ⟨r, hr, rfl, hrunning, hlease⟩ := hlost
  by_cases hrecovers : ∃ epoch, e.Recovers epoch
  · obtain ⟨epoch, hrecovers⟩ := hrecovers
    have hmem : r ∈ interruptedRuns s.clock epoch s.workflow := by
      refine Table.mem_select.2 ⟨hr, hrunning, ?_⟩
      rcases hlease with h | ⟨l, hl, href, hexpired | ⟨hne, -⟩⟩
      · exact .inl h
      · exact .inr ⟨l, hl, href, .inl hexpired⟩
      · exact absurd rfl hne
    obtain ⟨-, hsame | hclosed⟩ := System.act_recovers hrecovers (List.ne_nil_of_mem hmem)
    · have hw : (s.act e).workflow = s.workflow := by
        unfold System.workflow
        rw [hsame]
      exact .inl ⟨r, hw ▸ hr, rfl, hrunning, (hw ▸ hlease).mono hclock⟩
    · exact .inr (hclosed r hmem)
  left
  have hmakes : ∀ a, e.Makes s a → a.About r.runRef → a = .nothing := by
    intro a ha habout
    cases ha with
    | call => exact absurd ⟨_, rfl⟩ hcall
    | restart | abandon | claim => cases habout
    | claimStop => exact absurd ⟨_, .inl ⟨_, _, rfl, rfl⟩⟩ hrecovers
    | recoverStop => exact absurd ⟨_, .inr ⟨_, _, rfl⟩⟩ hrecovers
    | nothing => rfl
  rcases s.act_effect e with ⟨a, ha, heffect⟩ | ⟨l, hrun, hlabels⟩
  · obtain ⟨hr', hlost'⟩ := heffect.lostRun hkeys hr hrunning hlease fun habout =>
      .inl (hmakes a ha habout)
    exact ⟨r, hr', rfl, hrunning, hlost'.mono hclock⟩
  · cases l with
    | nil =>
      have hw : s.workflow = (s.act e).workflow := hrun.eq_of_nil
      exact ⟨r, hw ▸ hr, rfl, hrunning, (hw ▸ hlease).mono hclock⟩
    | cons x l =>
      obtain ⟨ref, hlabel, ha⟩ := hlabels x List.mem_cons_self
      rw [hlabel] at ha
      cases ha with
      | call => exact absurd ⟨_, rfl⟩ hcall
      | claimStop => exact absurd ⟨_, .inl ⟨_, _, rfl, rfl⟩⟩ hrecovers
      | recoverStop => exact absurd ⟨_, .inr ⟨_, _, rfl⟩⟩ hrecovers

structure WriterInvariant (w : Workflow) : Prop where
  single : SingleRun w
  leases : WriterLeases w

theorem SystemRun.writerInvariant {l : List (Transition System Event)} {s : System}
    (h : SystemRun l s) :
    WriterInvariant s.workflow ∧
      ∀ x ∈ l, WriterInvariant x.pre.workflow ∧ WriterInvariant x.post.workflow := by
  have hinitial : WriterInvariant Database.initial.toWorkflow :=
    ⟨fun _ hr => absurd hr (Table.not_mem_empty _), fun _ hl => absurd hl (Table.not_mem_empty _)⟩
  have hstep : ∀ now w a w', WriterInvariant w → True → Effect now w a w' → WriterInvariant w' :=
    fun _ _ _ _ hw _ heffect =>
      ⟨heffect.runMove.single hw.single hw.leases, heffect.writerLeases hw.leases⟩
  exact h.keeps hinitial (fun _ _ => trivial) (fun _ _ _ _ => trivial) hstep

/-- A claim or a recovery that finds interrupted runs hands out nothing, and fails them closed
or leaves the database as it is. -/
def RecoversFirst (x : Transition System Event) : Prop :=
  ∀ epoch, x.label.Recovers epoch → interruptedRuns x.pre.clock epoch x.pre.workflow ≠ [] →
    ¬ x.pre.HandsOut x.label ∧ (x.post.store.db = x.pre.store.db ∨
      ∀ r ∈ interruptedRuns x.pre.clock epoch x.pre.workflow, FailedClosed x.post.store r.runRef)

/-- A run that lost its lease while it was running is failed closed before a run is claimed. -/
def LostRunsFailClosed (l : List (Transition System Event)) : Prop :=
  ∀ (l₁ l₂ l₃ : List (Transition System Event)) (x y : Transition System Event),
    l = l₁ ++ x :: (l₂ ++ y :: l₃) → y.pre.HandsOut y.label →
      ∀ runRef, LostRun runRef x.pre → ∃ z ∈ x :: l₂, FailedClosed z.post.store runRef

theorem lostRunsFailClosed_of {l : List (Transition System Event)} {s : System}
    (h : SystemRun l s) (hl : ∀ x ∈ l, ¬ OutlivesLease x.pre x.label) : LostRunsFailClosed l := by
  rintro l₁ l₂ l₃ x y rfl hout runRef hlost
  obtain ⟨-, hall⟩ := h.writerInvariant
  obtain ⟨hpre, hx, hrest⟩ := h.split
  obtain ⟨hmid, -, -⟩ := hrest.split
  have hrun : Run System.Step x.pre (x :: l₂) y.pre := (Run.single hx).append hmid
  have hleft : ¬ LostRun runRef y.pre := by
    rintro ⟨r, hr, -, hrunning, -⟩
    have hy : WriterInvariant y.pre.workflow := (hall y (by simp)).1
    exact hout.idle hy.leases r hr hrunning
  obtain ⟨z, hz, hpreLost, hpostLost⟩ := (hrun.caused (Q := fun t => ¬ LostRun runRef t)
    (not_not.2 hlost) hleft)
  have hzl : z ∈ l₁ ++ x :: (l₂ ++ y :: l₃) := by
    rcases List.mem_cons.1 hz with rfl | hz
    · simp
    · simp [hz]
  refine ⟨z, hz, ?_⟩
  rcases (h.step_of_mem hzl).lostRun (hall z hzl).1.leases (hl z hzl) (not_not.1 hpreLost) with
    hlost | hclosed
  · exact absurd hlost hpostLost
  · exact hclosed

/-- One run is running at a time, a claim recovers the runs that were interrupted before it hands
out another, and, in runs without late failures and without calls of workers that lost their
lease, runs that have ended are kept and lost runs are failed closed before the next claim. -/
theorem annotation_writer_single {l : List (Transition System Event)} {s : System}
    (h : SystemRun l s) :
    (SingleRun s.workflow ∧ ∀ x ∈ l, SingleRun x.post.workflow) ∧
      (∀ x ∈ l, RecoversFirst x ∧
        (x.pre.HandsOut x.label → ∀ r ∈ x.pre.workflow.runs, r.status ≠ .running)) ∧
      ((∀ x ∈ l, ¬ FailsEnded x.pre x.label) → ∀ x ∈ l, EndedRunsKept x) ∧
      ((∀ x ∈ l, ¬ OutlivesLease x.pre x.label) → LostRunsFailClosed l) := by
  obtain ⟨hlast, hall⟩ := h.writerInvariant
  refine ⟨⟨hlast.single, fun x hx => (hall x hx).2.single⟩, fun x hx => ⟨?_, ?_⟩, ?_, ?_⟩
  · intro epoch hrecovers hinterrupted
    obtain ⟨hpost, -⟩ := h.step_of_mem hx
    rw [hpost]
    exact System.act_recovers hrecovers hinterrupted
  · exact fun hout => hout.idle (hall x hx).1.leases
  · exact fun hl x hx => endedRunsKept_of (h.step_of_mem hx) (hl x hx)
  · exact lostRunsFailClosed_of h

namespace Sample

/-- A worker whose run was prepared reports its failure late. -/
def lateFailure : List Event :=
  prepare "job_1" "run_1" "2026-01-01" ["clip_a"] ++
    [.call (.failRun ⟨"run_1", "annotation_runtime_error", "The runtime failed.", true, none⟩
      failureRefs)]

def clearMarkers : List Event :=
  [.observeClear 0
      ⟨"all_navigation_annotation_writer_process_groups_absent", "operator_1", "clear_1"⟩,
    .record 0 "action_1", .enter 0, .commit 0 "", .remove 0, .remove 0]

def confirmRetry (jobRef runRef : String) : List Event :=
  [.observeConfirm 1 ⟨jobRef, 1, "old_process_group_absent", "operator_1", "confirm_1",
      "action_1", .retry⟩,
    .enter 1, .commit 1 runRef]

/-- The first run is reported by its worker. The second loses its lease; the recovery is confirmed,
and the run of the retry is claimed. -/
def expiredLease : List Event :=
  prepare "job_1" "run_1" "2026-01-01" ["clip_a"] ++
    [.call (.createJob (job "job_2" "2026-01-02" ["clip_a"]) "run_2" "create_job_2"), claim,
      .tick 120000, claim] ++
    clearMarkers ++ confirmRetry "job_2" "run_3" ++ [claim]

theorem run_lateFailure : SystemRun (System.initial.trace lateFailure)
    (System.initial.after lateFailure) :=
  System.run_trace _ _ (by decide)

theorem run_expiredLease : SystemRun (System.initial.trace expiredLease)
    (System.initial.after expiredLease) :=
  System.run_trace _ _ (by decide)

def reportsFailure (x : Transition System Event) : Bool :=
  match x.label with
  | .call (.failRun ..) => true
  | _ => false

/-- A call about a run whose lease is lost. -/
def reportsLate (x : Transition System Event) : Bool :=
  match x.label with
  | .call c => (c.run? x.pre.store.db).any fun runRef =>
      decide (LeaseLost x.pre.clock none x.pre.workflow runRef)
  | _ => false

end Sample

theorem expiredLease_single_writer :
    (∀ x ∈ System.initial.trace Sample.expiredLease, EndedRunsKept x) ∧
      LostRunsFailClosed (System.initial.trace Sample.expiredLease) ∧
        (System.initial.after Sample.expiredLease).workflow.runs.rows.map
            (fun r => (r.runRef, r.status, r.failureCode)) =
          [("run_1", .succeeded, none), ("run_2", .failed, some recoveryRequired),
            ("run_3", .running, none)] := by
  have hfailures : ∀ x ∈ System.initial.trace Sample.expiredLease,
      Sample.reportsFailure x = false := by
    decide
  have hlate : ∀ x ∈ System.initial.trace Sample.expiredLease,
      Sample.reportsLate x = false := by
    decide
  obtain ⟨-, -, hended, hlost⟩ := annotation_writer_single Sample.run_expiredLease
  refine ⟨hended ?_, hlost ?_, by decide⟩
  · rintro x hx ⟨q, refs, r, j, hcall, -⟩
    have hquiet := hfailures x hx
    simp [Sample.reportsFailure, hcall] at hquiet
  · rintro x hx ⟨c, r, hcall, hrun, -, -, hexpired, -⟩
    have hquiet := hlate x hx
    simp only [Sample.reportsLate, hcall, hrun, Option.any_some, decide_eq_false_iff_not] at hquiet
    exact hquiet hexpired

theorem lateFailure_changes_ended_run :
    ¬ ∀ (l : List (Transition System Event)) (s : System), SystemRun l s →
      (∀ x ∈ l, SingleRun x.post.workflow) ∧ LostRunsFailClosed l ∧
        ∀ x ∈ l, EndedRunsKept x := by
  intro h
  have hchanged : ∃ x ∈ System.initial.trace Sample.lateFailure, ∃ r ∈ x.pre.workflow.runs,
      r.status = .succeeded ∧ ∀ r' ∈ x.post.workflow.runs, r'.status ≠ .succeeded := by
    decide
  obtain ⟨x, hx, r, hr, hstatus, hnone⟩ := hchanged
  have hterminal : r.status.Terminal := .inl hstatus
  obtain ⟨r', hr', -, hkept, -⟩ :=
    ((h _ _ Sample.run_lateFailure).2.2 x hx r hr hterminal).1
  exact hnone r' hr' (hkept.trans hstatus)

end DataJuicer.Annotation
