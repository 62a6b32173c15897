import DataJuicer.Annotation.JobMoves
import DataJuicer.Annotation.SingleWriter

/-! # Source scopes

A clip of a dataset is leased by one job, and a job holds the leases of all its clips until it is
cancelled or its dataset is reset. What takes up work again for a job (a retry, postprocessing, a
Fix revision, a publication) looks at statuses and revisions only, so it also serves a job whose
leases a reset has dropped.
-/

namespace DataJuicer.Annotation

open Transaction

variable {now : Timestamp} {w w' : Workflow} {a : Change}

def HoldsAll (w : Workflow) (j : JobRow) : Prop :=
  ∀ x ∈ w.clips, x.jobRef = j.jobRef → ∃ l ∈ w.sourceLeases,
    l.datasetDate = j.datasetDate ∧ l.sourceClip = x.sourceClip ∧ l.jobRef = j.jobRef

/-- No source clip is leased by the job. -/
def HoldsNone (w : Workflow) (j : JobRow) : Prop := ∀ l ∈ w.sourceLeases, l.jobRef ≠ j.jobRef

/-- A clip of a dataset is leased by one job. -/
def OneOwner (w : Workflow) : Prop :=
  ∀ l ∈ w.sourceLeases, ∀ l' ∈ w.sourceLeases, l'.datasetDate = l.datasetDate →
    l'.sourceClip = l.sourceClip → l'.jobRef = l.jobRef

theorem oneOwner (w : Workflow) : OneOwner w := by
  intro l hl l' hl' hdate hclip
  have hkey : key l' = key l := Prod.ext hdate hclip
  rw [Table.eq_of_key hl' hl hkey]

/-- The leases and the clips belong to jobs, and a job holds all of its leases or none. -/
structure ScopeInvariant (w : Workflow) : Prop where
  owned : ∀ l ∈ w.sourceLeases, ∃ j ∈ w.jobs, j.jobRef = l.jobRef ∧ j.datasetDate = l.datasetDate
  clips : ∀ x ∈ w.clips, ∃ j ∈ w.jobs, j.jobRef = x.jobRef
  allOrNone : ∀ j ∈ w.jobs, HoldsAll w j ∨ HoldsNone w j
  dropped : ∀ j ∈ w.jobs, j.status = .cancelled → HoldsNone w j

theorem scopeInvariant_initial : ScopeInvariant Database.initial.toWorkflow :=
  ⟨fun _ h => absurd h (Table.not_mem_empty _), fun _ h => absurd h (Table.not_mem_empty _),
    fun _ h => absurd h (Table.not_mem_empty _), fun _ h => absurd h (Table.not_mem_empty _)⟩

theorem Advance.ne_cancelled {x y : JobStatus} {jobRef : String} (h : Advance a jobRef x y) :
    x ≠ .cancelled ∧ y ≠ .cancelled := by
  cases h <;> exact ⟨nofun, nofun⟩

theorem JobStep.cancelled_stays {j j' : JobRow} (h : JobStep w a j j')
    (hj : j.status = .cancelled) : j'.status = .cancelled := by
  cases h with
  | still standing => exact standing.status.trans hj
  | advanced advance => exact absurd hj advance.ne_cancelled.1
  | cancelled cancels status => exact status
  | restarted kind failed =>
    rw [hj] at failed
    cases failed
  | failed by' run ref uncancelled => exact absurd hj uncancelled

/-- Where a job after an effect comes from. -/
theorem JobMove.cases {j' : JobRow} (h : JobMove now w a w') (hj' : j' ∈ w'.jobs) :
    (∃ j ∈ w.jobs, SameJob j j' ∧ JobStep w a j j') ∨
      ∃ c : JobCreation, w.jobs.insert? (c.row now) = some w'.jobs ∧
        (j' ∈ w.jobs ∨ j' = c.row now) := by
  cases h with
  | mapped f rows same step =>
    change j' ∈ w'.jobs.rows at hj'
    rw [rows] at hj'
    obtain ⟨j, hj, rfl⟩ := List.mem_map.1 hj'
    exact .inl ⟨j, hj, same j, step j hj⟩
  | created insert => exact .inr ⟨_, insert, (Table.mem_insert? insert).1 hj'⟩

theorem JobMove.forward {j : JobRow} (h : JobMove now w a w') (hj : j ∈ w.jobs) :
    ∃ j' ∈ w'.jobs, SameJob j j' ∧ JobStep w a j j' := by
  cases h with
  | mapped f rows same step => exact ⟨f j, Table.mem_of_map_mem rows hj, same j, step j hj⟩
  | created insert =>
    exact ⟨j, (Table.mem_insert? insert).2 (.inl hj), .refl j, .still (.refl j)⟩

/-- A job after an effect that creates no job has a row before. -/
theorem JobMove.old {j' : JobRow} (h : JobMove now w a w') (hj' : j' ∈ w'.jobs)
    (hold : ∃ j ∈ w.jobs, j.jobRef = j'.jobRef) :
    ∃ j ∈ w.jobs, SameJob j j' ∧ JobStep w a j j' := by
  rcases h.cases hj' with hold' | ⟨c, hinsert, hmem | rfl⟩
  · exact hold'
  · exact ⟨j', hmem, .refl j', .still (.refl j')⟩
  · obtain ⟨j, hj, href⟩ := hold
    exact absurd href (Table.insert?_fresh hinsert j hj)

theorem SameJob.holdsAll {j j' : JobRow} (hsame : SameJob j j') (h : HoldsAll w j)
    (hclips : w'.clips = w.clips)
    (hleases : ∀ l ∈ w.sourceLeases, l.jobRef = j.jobRef → l ∈ w'.sourceLeases) :
    HoldsAll w' j' := by
  intro x hx hof
  obtain ⟨l, hl, hdate, hclip, href⟩ := h x (hclips ▸ hx) (hof.trans hsame.ref)
  exact ⟨l, hleases l hl href, hdate.trans hsame.date.symm, hclip, href.trans hsame.ref.symm⟩

theorem SameJob.holdsNone {j j' : JobRow} (hsame : SameJob j j') (h : HoldsNone w j)
    (hleases : ∀ l ∈ w'.sourceLeases, l ∈ w.sourceLeases) : HoldsNone w' j' := by
  intro l hl hof
  exact h l (hleases l hl) (hof.trans hsame.ref)

theorem ScopeInvariant.delete {p : SourceLeaseRow → Prop} [DecidablePred p] (h : ScopeInvariant w)
    (hclips : w'.clips = w.clips) (hleases : w'.sourceLeases = w.sourceLeases.delete p)
    (hjobs : ∀ j' ∈ w'.jobs, ∃ j ∈ w.jobs, SameJob j j' ∧
      ((∀ l ∈ w.sourceLeases, l.jobRef = j.jobRef → p l) ∨
        (j'.status = .cancelled → j.status = .cancelled) ∧
          ∀ l ∈ w.sourceLeases, l.jobRef = j.jobRef → ¬ p l))
    (hforward : ∀ j ∈ w.jobs, ∃ j' ∈ w'.jobs, SameJob j j') : ScopeInvariant w' := by
  have hmem : ∀ l ∈ w'.sourceLeases, l ∈ w.sourceLeases ∧ ¬ p l := by
    intro l hl
    rw [hleases] at hl
    exact Table.mem_delete.1 hl
  constructor
  · intro l hl
    obtain ⟨j, hj, href, hdate⟩ := h.owned l (hmem l hl).1
    obtain ⟨j', hj', hsame⟩ := hforward j hj
    exact ⟨j', hj', hsame.ref.trans href, hsame.date.trans hdate⟩
  · intro x hx
    obtain ⟨j, hj, href⟩ := h.clips x (hclips ▸ hx)
    obtain ⟨j', hj', hsame⟩ := hforward j hj
    exact ⟨j', hj', hsame.ref.trans href⟩
  · intro j' hj'
    obtain ⟨j, hj, hsame, hlost | ⟨-, hkept⟩⟩ := hjobs j' hj'
    · exact .inr fun l hl hof => (hmem l hl).2 (hlost l (hmem l hl).1 (hof.trans hsame.ref))
    · rcases h.allOrNone j hj with hall | hnone
      · refine .inl (hsame.holdsAll hall hclips fun l hl hof => ?_)
        rw [hleases]
        exact Table.mem_delete.2 ⟨hl, hkept l hl hof⟩
      · exact .inr (hsame.holdsNone hnone fun l hl => (hmem l hl).1)
  · intro j' hj' hstatus
    obtain ⟨j, hj, hsame, hlost | ⟨hcancelled, -⟩⟩ := hjobs j' hj'
    · exact fun l hl hof => (hmem l hl).2 (hlost l (hmem l hl).1 (hof.trans hsame.ref))
    · exact hsame.holdsNone (h.dropped j hj (hcancelled hstatus)) fun l hl => (hmem l hl).1

theorem ScopeInvariant.date {j : JobRow} {l : SourceLeaseRow} (h : ScopeInvariant w)
    (hj : j ∈ w.jobs) (hl : l ∈ w.sourceLeases) (hof : l.jobRef = j.jobRef) :
    l.datasetDate = j.datasetDate := by
  obtain ⟨j₁, hj₁, href, hdate⟩ := h.owned l hl
  obtain rfl : j₁ = j := Table.eq_of_key hj₁ hj (href.trans hof)
  exact hdate.symm

theorem ScopeInvariant.created {c : JobCreation} (h : ScopeInvariant w)
    (hinsert : w.jobs.insert? (c.row now) = some w'.jobs) (hin : ClipsInserted c w w') :
    ScopeInvariant w' := by
  have hfresh : ∀ j ∈ w.jobs, j.jobRef ≠ c.jobRef := Table.insert?_fresh hinsert
  have hmem := fun {j : JobRow} => Table.mem_insert? (s := j) hinsert
  constructor
  · intro l hl
    rcases hin.leases l hl with hold | ⟨href, hdate⟩
    · obtain ⟨j, hj, hj'⟩ := h.owned l hold
      exact ⟨j, hmem.2 (.inl hj), hj'⟩
    · exact ⟨_, hmem.2 (.inr rfl), href.symm, hdate.symm⟩
  · intro x hx
    rcases hin.clips x hx with hold | ⟨href, -⟩
    · obtain ⟨j, hj, hj'⟩ := h.clips x hold
      exact ⟨j, hmem.2 (.inl hj), hj'⟩
    · exact ⟨_, hmem.2 (.inr rfl), href.symm⟩
  · intro j' hj'
    rcases hmem.1 hj' with hold | rfl
    · rcases h.allOrNone j' hold with hall | hnone
      · refine .inl fun x hx hof => ?_
        rcases hin.clips x hx with hx | ⟨href, -⟩
        · obtain ⟨l, hl, hl'⟩ := hall x hx hof
          exact ⟨l, hin.kept l hl, hl'⟩
        · exact absurd (hof.symm.trans href) (hfresh j' hold)
      · refine .inr fun l hl hof => ?_
        rcases hin.leases l hl with hl | ⟨href, -⟩
        · exact hnone l hl hof
        · exact hfresh j' hold (hof.symm.trans href)
    · refine .inl fun x hx hof => ?_
      rcases hin.clips x hx with hx | ⟨-, hlease⟩
      · obtain ⟨j, hj, href⟩ := h.clips x hx
        exact absurd (href.trans hof) (hfresh j hj)
      · exact hlease
  · intro j' hj' hstatus
    rcases hmem.1 hj' with hold | rfl
    · intro l hl hof
      rcases hin.leases l hl with hl | ⟨href, -⟩
      · exact h.dropped j' hold hstatus l hl hof
      · exact hfresh j' hold (hof.symm.trans href)
    · cases hstatus

theorem ScopeInvariant.reset_cases {j : JobRow} (h : ScopeInvariant w) (hj : j ∈ w.jobs)
    (datasetDate : String) :
    (∀ l ∈ w.sourceLeases, l.jobRef = j.jobRef → l.datasetDate = datasetDate) ∨
      ∀ l ∈ w.sourceLeases, l.jobRef = j.jobRef → ¬ l.datasetDate = datasetDate := by
  by_cases hdate : j.datasetDate = datasetDate
  · exact .inl fun l hl hof => (h.date hj hl hof).trans hdate
  · exact .inr fun l hl hof hl' => hdate ((h.date hj hl hof).symm.trans hl')

theorem Effect.scopeInvariant (heffect : Effect now w a w') (h : ScopeInvariant w) :
    ScopeInvariant w' := by
  have hforward : ∀ j ∈ w.jobs, ∃ j' ∈ w'.jobs, SameJob j j' := by
    intro j hj
    obtain ⟨j', hj', hsame, -⟩ := heffect.jobMove.forward hj
    exact ⟨j', hj', hsame⟩
  cases heffect.scopeMove with
  | still clips leases jobs =>
    have hleases : w'.sourceLeases = w.sourceLeases.delete fun _ => False := by
      rw [leases]
      simp [Table.delete]
    refine h.delete clips hleases (fun j' hj' => ?_) hforward
    obtain ⟨j, hj, hsame, hcancelled⟩ := jobs j' hj'
    exact ⟨j, hj, hsame, .inr ⟨hcancelled, fun _ _ _ => id⟩⟩
  | @dropped j job clips leases jobs idle =>
    refine h.delete clips leases (fun j' hj' => ?_) hforward
    rcases jobs j' hj' with ⟨hold, hne⟩ | ⟨hsame, -⟩
    · exact ⟨j', hold, .refl j', .inr ⟨id, fun l _ hof hl => hne (hof.symm.trans hl)⟩⟩
    · exact ⟨j, job, hsame, .inl fun l _ hof => hof⟩
  | @reset datasetDate reset clips leases jobs runs quiet closed =>
    refine h.delete clips leases (fun j' hj' => ?_) hforward
    have hold : j' ∈ w.jobs := jobs ▸ hj'
    refine ⟨j', hold, .refl j', ?_⟩
    rcases h.reset_cases hold datasetDate with hall | hnone
    · exact .inl hall
    · exact .inr ⟨id, hnone⟩
  | created insert inserted => exact h.created insert inserted

structure ResetLeases (w : Workflow) (a : Change) (w' : Workflow) (j : JobRow) : Prop where
  reset : ∃ datasetDate, a = .reset datasetDate
  leased : ∃ l ∈ w.sourceLeases, l.jobRef = j.jobRef
  dropped : HoldsNone w' j
  quiet : ¬ BusyStatus j.status
  closed : ∀ r ∈ w.runs, r.jobRef = j.jobRef → ¬ r.status.Open

inductive ScopeStep (w : Workflow) (a : Change) (w' : Workflow) (j j' : JobRow) : Prop
  | kept (uncancelled : j'.status = .cancelled → j.status = .cancelled)
      (leases : ∀ l ∈ w.sourceLeases, l.jobRef = j.jobRef → l ∈ w'.sourceLeases)
  | cancelled (status : j'.status = .cancelled) (idle : SingleRun w → Idle w' j.jobRef)
  | reset (still : j' = j) (reset : ResetLeases w a w' j)

theorem Effect.scopeStep {j j' : JobRow} (heffect : Effect now w a w') (h : ScopeInvariant w)
    (hj : j ∈ w.jobs) (hj' : j' ∈ w'.jobs) (hsame : SameJob j j') :
    ScopeStep w a w' j j' := by
  have hkept : JobsKept w w' → j'.status = .cancelled → j.status = .cancelled := by
    intro hjobs hstatus
    obtain ⟨j₁, hj₁, hsame₁, hcancelled⟩ := hjobs j' hj'
    obtain rfl : j₁ = j := Table.eq_of_key hj₁ hj (hsame₁.ref.symm.trans hsame.ref)
    exact hcancelled hstatus
  cases heffect.scopeMove with
  | still clips leases jobs => exact .kept (hkept jobs) fun l hl _ => leases ▸ hl
  | @dropped j₀ job clips leases jobs idle =>
    rcases jobs j' hj' with ⟨hold, hne⟩ | ⟨hsame₀, hstatus⟩
    · refine .kept (fun hstatus => ?_) fun l hl hof => ?_
      · obtain rfl : j' = j := Table.eq_of_key hold hj hsame.ref
        exact hstatus
      · rw [leases]
        exact Table.mem_delete.2 ⟨hl, fun hl₀ => hne (hsame.ref.trans (hof.symm.trans hl₀))⟩
    · obtain rfl : j = j₀ := Table.eq_of_key hj job (hsame.ref.symm.trans hsame₀.ref)
      exact .cancelled hstatus idle
  | @reset datasetDate reset clips leases jobs runs quiet closed =>
    obtain rfl : j' = j := Table.eq_of_key (jobs ▸ hj') hj hsame.ref
    by_cases hleased : ∃ l ∈ w.sourceLeases, l.jobRef = j'.jobRef ∧ l.datasetDate = datasetDate
    · obtain ⟨l, hl, hof, hdate⟩ := hleased
      have hin : LeasedIn w datasetDate j'.jobRef := ⟨l, hl, hdate, hof⟩
      refine .reset rfl ⟨⟨_, reset⟩, ⟨l, hl, hof⟩, fun l' hl' hof' => ?_, quiet j' hj hin,
        fun r hr hr' => closed r hr (hr' ▸ hin)⟩
      rw [leases] at hl'
      obtain ⟨hold, hne⟩ := Table.mem_delete.1 hl'
      exact hne ((h.date hj hold hof').trans ((h.date hj hl hof).symm.trans hdate))
    · refine .kept id fun l hl hof => ?_
      rw [leases]
      exact Table.mem_delete.2 ⟨hl, fun hdate => hleased ⟨l, hl, hof, hdate⟩⟩
  | created insert inserted =>
    have hold : j' = j := Table.eq_of_key hj' ((Table.mem_insert? insert).2 (.inl hj)) hsame.ref
    exact .kept (fun hstatus => hold ▸ hstatus) fun l hl _ => inserted.kept l hl

theorem Effect.clips {j : JobRow} {x : ClipRow} (heffect : Effect now w a w') (hj : j ∈ w.jobs)
    (hof : x.jobRef = j.jobRef) : x ∈ w'.clips ↔ x ∈ w.clips := by
  cases heffect.scopeMove with
  | still clips | dropped job clips | reset reset clips => rw [clips]
  | created insert inserted =>
    refine ⟨fun hx => ?_, inserted.keptClips x⟩
    rcases inserted.clips x hx with hx | ⟨href, -⟩
    · exact hx
    · exact absurd (hof.symm.trans href) (Table.insert?_fresh insert j hj)

theorem Effect.sourceLeases {j : JobRow} {l : SourceLeaseRow} (heffect : Effect now w a w')
    (hj : j ∈ w.jobs) (hl : l ∈ w'.sourceLeases) (hof : l.jobRef = j.jobRef) :
    l ∈ w.sourceLeases := by
  cases heffect.scopeMove with
  | still clips leases => exact leases ▸ hl
  | dropped job clips leases | reset reset clips leases =>
    rw [leases] at hl
    exact (Table.mem_delete.1 hl).1
  | created insert inserted =>
    rcases inserted.leases l hl with hl | ⟨href, -⟩
    · exact hl
    · exact absurd (hof.symm.trans href) (Table.insert?_fresh insert j hj)

/-- A job that does not hold its scope does not come to hold it. -/
theorem Effect.holdsAll_old {j j' : JobRow} (heffect : Effect now w a w') (hj : j ∈ w.jobs)
    (hsame : SameJob j j') (h : HoldsAll w' j') : HoldsAll w j := by
  intro x hx hof
  obtain ⟨l, hl, hdate, hclip, href⟩ :=
    h x ((heffect.clips hj hof).2 hx) (hof.trans hsame.ref.symm)
  have href' := href.trans hsame.ref
  exact ⟨l, heffect.sourceLeases hj hl href', hdate.trans hsame.date, hclip, href'⟩

theorem Effect.holdsAll {j j' : JobRow} (heffect : Effect now w a w') (h : ScopeInvariant w)
    (hj : j ∈ w.jobs) (hj' : j' ∈ w'.jobs) (hsame : SameJob j j') (hall : HoldsAll w j) :
    HoldsAll w' j' ∨ j'.status = .cancelled ∨ ResetLeases w a w' j := by
  cases heffect.scopeStep h hj hj' hsame with
  | kept uncancelled leases =>
    refine .inl fun x hx hof => ?_
    have hof' := hof.trans hsame.ref
    obtain ⟨l, hl, hdate, hclip, href⟩ := hall x ((heffect.clips hj hof').1 hx) hof'
    exact ⟨l, leases l hl href, hdate.trans hsame.date.symm, hclip, href.trans hsame.ref.symm⟩
  | cancelled status => exact .inr (.inl status)
  | reset still reset => exact .inr (.inr reset)

theorem Effect.holdsAll_new {j' : JobRow} (heffect : Effect now w a w') (h : ScopeInvariant w)
    (hj' : j' ∈ w'.jobs) (hnew : ∀ j ∈ w.jobs, j.jobRef ≠ j'.jobRef) : HoldsAll w' j' := by
  have hold : ∀ {j}, j ∈ w.jobs → ¬ SameJob j j' := fun hj hsame => hnew _ hj hsame.ref.symm
  cases heffect.scopeMove with
  | still clips leases jobs =>
    obtain ⟨j, hj, hsame, -⟩ := jobs j' hj'
    exact absurd hsame (hold hj)
  | dropped job clips leases jobs =>
    rcases jobs j' hj' with ⟨hj, -⟩ | ⟨hsame, -⟩
    · exact absurd rfl (hnew j' hj)
    · exact absurd hsame (hold job)
  | reset reset clips leases jobs => exact absurd rfl (hnew j' (jobs ▸ hj'))
  | created insert inserted =>
    rcases (Table.mem_insert? insert).1 hj' with hj | rfl
    · exact absurd rfl (hnew j' hj)
    · intro x hx hof
      rcases inserted.clips x hx with hx | ⟨-, hlease⟩
      · obtain ⟨j, hj, href⟩ := h.clips x hx
        exact absurd (href.trans hof) (hnew j hj)
      · exact hlease

/-- Jobs hold their scopes while they are processed. A queued run of a cancelled job is left. -/
structure WorkHeld (w : Workflow) : Prop where
  busy : ∀ j ∈ w.jobs, BusyStatus j.status → HoldsAll w j
  active : ∀ j ∈ w.jobs, ∀ r ∈ w.runs, r.jobRef = j.jobRef → r.status.Open →
    (j.status ≠ .cancelled → HoldsAll w j) ∧ (j.status = .cancelled → r.status = .queued)

/-- The job that the change takes up work for holds its scope. -/
def StartsHeld (w : Workflow) (a : Change) : Prop :=
  ∀ jobRef, a.Starts jobRef → ∀ j ∈ w.jobs, j.jobRef = jobRef → HoldsAll w j

theorem JobStep.busy {j j' : JobRow} (h : JobStep w a j j') (hbusy : BusyStatus j'.status) :
    BusyStatus j.status ∨ a.Starts j.jobRef := by
  cases h with
  | still standing => exact .inl (standing.status ▸ hbusy)
  | advanced advance =>
    revert hbusy
    generalize j'.status = y at advance
    generalize j.status = x at advance
    cases advance with
    | postprocessing queue => exact fun _ => .inr (queue ▸ .queue)
    | prepared | tracking | tracked | annotated => exact fun _ => .inl (by simp [BusyStatus])
  | cancelled cancels status => simp [BusyStatus, status] at hbusy
  | restarted restart => exact .inr (restart ▸ .restart _)
  | failed by' run ref uncancelled kind kept status => simp [BusyStatus, status] at hbusy

theorem ResetLeases.not_starts {j : JobRow} {jobRef : String} (h : ResetLeases w a w' j) :
    ¬ a.Starts jobRef := by
  obtain ⟨datasetDate, rfl⟩ := h.reset
  nofun

theorem BusyStatus.ne_cancelled {x : JobStatus} (h : BusyStatus x) : x ≠ .cancelled := by
  rintro rfl
  simp [BusyStatus] at h

theorem WorkHeld.busy_step (h : WorkHeld w) (hw : ScopeInvariant w) (hok : StartsHeld w a)
    (heffect : Effect now w a w') : ∀ j ∈ w'.jobs, BusyStatus j.status → HoldsAll w' j := by
  intro j' hj' hbusy
  by_cases hnew : ∀ j ∈ w.jobs, j.jobRef ≠ j'.jobRef
  · exact heffect.holdsAll_new hw hj' hnew
  push Not at hnew
  obtain ⟨j, hj, hsame, hstep⟩ := heffect.jobMove.old hj' hnew
  have hall : HoldsAll w j := by
    rcases hstep.busy hbusy with hbusy | hstarts
    · exact h.busy j hj hbusy
    · exact hok _ hstarts j hj rfl
  rcases heffect.holdsAll hw hj hj' hsame hall with hall | hcancelled | hreset
  · exact hall
  · exact absurd hcancelled hbusy.ne_cancelled
  · rcases hstep.busy hbusy with hbusy | hstarts
    · exact absurd hbusy hreset.quiet
    · exact absurd hstarts hreset.not_starts

theorem Effect.cancelled_idle {j j' : JobRow} (heffect : Effect now w a w')
    (h : ScopeInvariant w) (hsingle : SingleRun w) (hj : j ∈ w.jobs) (hj' : j' ∈ w'.jobs)
    (hsame : SameJob j j') (hopen : j.status ≠ .cancelled) (hcancelled : j'.status = .cancelled) :
    Idle w' j.jobRef := by
  cases heffect.scopeStep h hj hj' hsame with
  | kept uncancelled leases => exact absurd (uncancelled hcancelled) hopen
  | cancelled status idle => exact idle hsingle
  | reset still reset => exact absurd (still ▸ hcancelled) hopen

theorem queued_of_idle {r : RunRow} {jobRef : String} (h : Idle w jobRef) (hr : r ∈ w.runs)
    (hof : r.jobRef = jobRef) (hopen : r.status.Open) : r.status = .queued := by
  rcases hopen with hqueued | hrunning
  · exact hqueued
  · exact absurd hrunning (h r hr hof)

/-- Where an open run after an effect comes from: it was so, it is new work of its job, or it
starts for a job that is not cancelled. -/
theorem RunMove.open {r' : RunRow} (h : RunMove now w a w') (hr' : r' ∈ w'.runs)
    (hopen : r'.status.Open) :
    r' ∈ w.runs ∨ r'.status = .queued ∧ NewWork w a r'.jobRef ∨
      ∃ r j, RunOf w r j ∧ SameRun r r' ∧ r.status = .queued ∧ j.status ≠ .cancelled := by
  cases h.cases hr' with
  | queued status fresh work => exact .inr (.inl ⟨status, work⟩)
  | changed run same step =>
    cases step with
    | still eq => exact .inl (eq ▸ run)
    | succeeded _ _ status | closed _ _ status | dequeued _ status | failed _ _ _ _ status =>
      rw [status] at hopen
      rcases hopen with h | h <;> cases h
  | @claimed r j run same waiting status startable free =>
    refine .inr (.inr ⟨r, j, run, same, waiting, ?_⟩)
    intro hcancelled
    rw [hcancelled] at startable
    cases hk : r.kind <;> rw [hk] at startable <;> cases startable

theorem NewWork.holdsAll {j : JobRow} (h : NewWork w a j.jobRef) (hw : WorkHeld w)
    (hok : StartsHeld w a) (hj : j ∈ w.jobs) : HoldsAll w j := by
  cases h with
  | created fresh => exact absurd rfl (fresh j hj)
  | @tracking j₁ job ref waiting =>
    obtain rfl : j₁ = j := Table.eq_of_key job hj ref
    exact hw.busy _ hj (by simp [BusyStatus, waiting])
  | started starts => exact hok _ starts j hj rfl

theorem WorkHeld.active_step (h : WorkHeld w) (hw : ScopeInvariant w) (hsingle : SingleRun w)
    (hok : StartsHeld w a) (heffect : Effect now w a w') :
    ∀ j ∈ w'.jobs, ∀ r ∈ w'.runs, r.jobRef = j.jobRef → r.status.Open →
      (j.status ≠ .cancelled → HoldsAll w' j) ∧ (j.status = .cancelled → r.status = .queued) := by
  intro j' hj' r' hr' hof hopen
  by_cases hnew : ∀ j ∈ w.jobs, j.jobRef ≠ j'.jobRef
  · refine ⟨fun _ => heffect.holdsAll_new hw hj' hnew, fun hcancelled => ?_⟩
    rcases heffect.jobMove.cases hj' with ⟨j, hj, hsame, -⟩ | ⟨c, -, hold | rfl⟩
    · exact absurd hsame.ref.symm (hnew j hj)
    · exact absurd rfl (hnew j' hold)
    · cases hcancelled
  push Not at hnew
  obtain ⟨j, hj, hsame, hstep⟩ := heffect.jobMove.old hj' hnew
  have hofOld : r'.jobRef = j.jobRef := hof.trans hsame.ref
  have hrun := heffect.runMove.open hr' hopen
  -- The scope that the job held before, unless it is cancelled.
  have hheld : j.status ≠ .cancelled → HoldsAll w j := by
    intro huncancelled
    rcases hrun with hold | ⟨-, hwork⟩ | ⟨r, j₁, hrunOf, hsameRun, hqueued, -⟩
    · exact (h.active j hj r' hold hofOld hopen).1 huncancelled
    · exact (hofOld ▸ hwork).holdsAll h hok hj
    · exact (h.active j hj r hrunOf.run (hsameRun.job.symm.trans hofOld) (.inl hqueued)).1
        huncancelled
  constructor
  · intro huncancelled
    have hbefore : j.status ≠ .cancelled := fun hc => huncancelled (hstep.cancelled_stays hc)
    rcases heffect.holdsAll hw hj hj' hsame (hheld hbefore) with hall | hcancelled | hreset
    · exact hall
    · exact absurd hcancelled huncancelled
    · rcases hrun with hold | ⟨-, hwork⟩ | ⟨r, j₁, hrunOf, hsameRun, hqueued, -⟩
      · exact absurd hopen (hreset.closed r' hold hofOld)
      · rw [hofOld] at hwork
        cases hwork with
        | created fresh => exact absurd rfl (fresh j hj)
        | @tracking j₁ job ref waiting =>
          obtain rfl : j₁ = j := Table.eq_of_key job hj ref
          exact absurd (by simp [BusyStatus, waiting]) hreset.quiet
        | started starts => exact absurd starts hreset.not_starts
      · exact absurd (.inl hqueued)
          (hreset.closed r hrunOf.run (hsameRun.job.symm.trans hofOld))
  · intro hcancelled
    by_cases hbefore : j.status = .cancelled
    · rcases hrun with hold | ⟨hqueued, -⟩ | ⟨r, j₁, hrunOf, hsameRun, -, hstarts⟩
      · exact (h.active j hj r' hold hofOld hopen).2 hbefore
      · exact hqueued
      · have href : j₁.jobRef = j.jobRef := hrunOf.ref.trans (hsameRun.job.symm.trans hofOld)
        obtain rfl : j₁ = j := Table.eq_of_key hrunOf.job hj href
        exact absurd hbefore hstarts
    · exact queued_of_idle
        (heffect.cancelled_idle hw hsingle hj hj' hsame hbefore hcancelled) hr' hofOld hopen

theorem WorkHeld.step (h : WorkHeld w) (hw : ScopeInvariant w) (hsingle : SingleRun w)
    (hok : StartsHeld w a) (heffect : Effect now w a w') : WorkHeld w' :=
  ⟨h.busy_step hw hok heffect, h.active_step hw hsingle hok heffect⟩

def PublicationIn (publicationRef : String) (w : Workflow) : Prop :=
  ∃ p ∈ w.publications, p.publicationRef = publicationRef

theorem publicationIn_of_rows {publicationRef : String} {f : PublicationRow → PublicationRow}
    (hrows : w'.publications.rows = w.publications.rows.map fun p =>
      if p.publicationRef = publicationRef then f p else p)
    (hkey : ∀ p, (f p).publicationRef = p.publicationRef) {p' : PublicationRow}
    (hp' : p' ∈ w'.publications) : PublicationIn p'.publicationRef w := by
  rcases Table.mem_of_rows_map hrows hp' with ⟨hold, -⟩ | ⟨p, hp, -, rfl⟩
  · exact ⟨p', hold, rfl⟩
  · exact ⟨p, hp, (hkey p).symm⟩

theorem Effect.publications {p' : PublicationRow} (heffect : Effect now w a w')
    (hp' : p' ∈ w'.publications) :
    PublicationIn p'.publicationRef w ∨ ∃ jobRef, a = .publish jobRef p'.fixRevisionRef := by
  have hsame : p' ∈ w.publications → PublicationIn p'.publicationRef w ∨
      ∃ jobRef, a = .publish jobRef p'.fixRevisionRef := fun hold => .inl ⟨p', hold, rfl⟩
  cases heffect with
  | same | drafted | acted | leasesExpired | renewed | reset | closed | fixFailed
    | cancelledJobRunFailed | jobRunFailed | cancelled | abandoned | cancelRequested =>
    exact hsame hp'
  | created free job clips run =>
    obtain ⟨runs, rfl⟩ := run.eq
    obtain ⟨clips', leases', rfl⟩ := insertClips_eq clips
    exact hsame hp'
  | submitted segment drafted draftRef revision emission =>
    obtain ⟨handoffs, rfl⟩ := emission.eq
    exact hsame hp'
  | trackingStarted job waiting resolved processable run =>
    obtain ⟨runs, rfl⟩ := run.eq
    exact hsame hp'
  | @retried _ j _ job failed retryable restart | @recovered _ j _ job quarantined idle restart =>
    obtain ⟨runs, rfl⟩ := (restart_ok restart).eq
    refine hsame ?_
    revert hp'
    cases w.lastKind j.jobRef <;> exact id
  | postprocessingStarted job tracked ready run =>
    obtain ⟨runs, rfl⟩ := run.eq
    exact hsame hp'
  | fixQueued run =>
    obtain ⟨runs, rfl⟩ := run.eq
    exact hsame hp'
  | publicationQueued run queued failureCode publication =>
    obtain ⟨runs, rfl⟩ := run.eq
    rcases (Table.mem_insert? publication).1 hp' with hold | rfl
    · exact hsame hold
    · exact .inr ⟨_, rfl⟩
  | prepared run running preparing nonempty inserted ready emits =>
    obtain ⟨handoffs, rfl⟩ := emits.eq
    exact hsame hp'
  | tracked run running tracking completed emits =>
    obtain ⟨handoffs, rfl⟩ := emits.eq
    exact hsame hp'
  | postprocessed run kind active postprocessing readyKind completedKind emitsReady
      emitsCompleted =>
    obtain ⟨handoffs, rfl⟩ := emitsReady.eq
    obtain ⟨handoffs', rfl⟩ := emitsCompleted.eq
    exact hsame hp'
  | fixed run running kind submitted emits =>
    obtain ⟨handoffs, rfl⟩ := emits.eq
    exact hsame hp'
  | published key run running kind succeeded completed emits =>
    obtain ⟨handoffs, rfl⟩ := emits.eq
    exact .inl (publicationIn_of_rows rfl key hp')
  | decided kind emits =>
    obtain ⟨handoffs, rfl⟩ := emits.eq
    exact hsame hp'
  | publicationFailed => exact .inl (publicationIn_of_rows rfl (by intro p; rfl) hp')
  | postprocessingFailed by' run ref uncancelled kind kept emission =>
    obtain ⟨handoffs, rfl⟩ := failureEmission_eq emission
    exact hsame hp'
  | claimed run queued startable uninterrupted unquarantined leaseKey leaseRun leased publication =>
    rcases publication with rfl | ⟨-, ref, rfl⟩
    · exact hsame hp'
    · exact .inl (publicationIn_of_rows rfl (by intro p; rfl) hp')

end DataJuicer.Annotation
