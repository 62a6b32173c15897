import DataJuicer.Annotation.Receipts
import DataJuicer.Annotation.SegmentStates

/-! # Skip and unskip, and mutations under a key

In runs that submit no skipped segment, unskip takes a segment back to what it was before it
was skipped. A mutation that is repeated under its key is answered by its receipt.
-/

namespace DataJuicer.Annotation

open Transaction

/-- The segment without its revision and its time. -/
def SegmentRow.content (s : SegmentRow) : SegmentRow :=
  { s with stateRevision := 0, updatedAt := 0 }

/-- The job without its revision and its time. -/
def JobRow.content (j : JobRow) : JobRow := { j with stateRevision := 0, updatedAt := 0 }

/-- The databases differ in the revisions and times of segments and jobs, and in receipts. -/
structure Restored (db db' : Database) : Prop where
  segments : db'.segments.rows.map SegmentRow.content = db.segments.rows.map SegmentRow.content
  jobs : db'.jobs.rows.map JobRow.content = db.jobs.rows.map JobRow.content
  rest : db' = { db with
    toWorkflow := { db.toWorkflow with segments := db'.segments, jobs := db'.jobs }
    receipts := db'.receipts }

/-- A skip that is accepted can be taken back, and then the segment is as it was. -/
def SkipsUndone (db : Database) : Prop :=
  ∀ (now : Timestamp) (skip : SegmentRequest) (key : String) (rep : Reply) (db₁ : Database),
    skip.operation = .skip → db.receipts.find? key = none →
    segmentAction now skip key db = .ok (rep, db₁) →
    ∀ (now' : Timestamp) (unskip : SegmentRequest) (key' : String), unskip.operation = .unskip →
      unskip.jobRef = skip.jobRef → unskip.segmentRef = skip.segmentRef →
      unskip.expectedSegmentRevision = skip.expectedSegmentRevision + 1 →
      ¬ (key'.length = 0 ∨ 200 < key'.length) → db₁.receipts.find? key' = none →
      ∃ rep' db₂, segmentAction now' unskip key' db₁ = .ok (rep', db₂) ∧ Restored db db₂

section Actions

variable {now : Timestamp} {db : Database} {q : SegmentRequest} {s : SegmentRow}
  {t : SegmentTarget}

theorem segmentActionIn_ok {x : Reply × Database} (h : segmentActionIn now q db = .ok x) :
    ∃ s t, WaitingSegment db.toWorkflow q.jobRef q.segmentRef s ∧
      s.stateRevision = q.expectedSegmentRevision ∧ segmentTarget s q = .ok t ∧
        x.2 = { db with toWorkflow := db.toWorkflow.actOn now q.jobRef q.segmentRef t } := by
  obtain ⟨j, hj, h⟩ := bind_eq_ok.1 h
  obtain ⟨s, hs, h⟩ := bind_eq_ok.1 h
  obtain ⟨_, hrev, h⟩ := bind_eq_ok.1 h
  obtain ⟨t, ht, h⟩ := bind_eq_ok.1 h
  obtain ⟨v, -, h⟩ := bind_eq_ok.1 h
  obtain rfl := Except.ok.inj h
  exact ⟨s, t, waitingSegment_of hj hs, not_not.1 (raiseIf_eq_ok.1 hrev), ht, rfl⟩

theorem WaitingSegment.job {w : Workflow} {jobRef segmentRef : String}
    (h : WaitingSegment w jobRef segmentRef s) : ∃ j, mutableWaitingJob w jobRef = .ok j := by
  obtain ⟨j, hj, href, hwait⟩ := h.waiting
  refine ⟨j, bind_eq_ok.2 ⟨j, jobRow_eq_ok.2 ⟨hj, href⟩, bind_eq_ok.2 ⟨⟨⟩, ?_, rfl⟩⟩⟩
  exact raiseIf_eq_ok.2 (not_not.2 hwait)

theorem WaitingSegment.row {w : Workflow} {jobRef segmentRef : String}
    (h : WaitingSegment w jobRef segmentRef s) : segmentRow w jobRef segmentRef = .ok s :=
  segmentRow_eq_ok.2 ⟨⟨h.mem, h.ref⟩, h.ofJob⟩

theorem actOn_segments (jobRef segmentRef : String) (w : Workflow) :
    (w.actOn now jobRef segmentRef t).segments.rows =
      w.segments.rows.map fun s => if s.segmentRef = segmentRef then s.acted now t else s := rfl

def JobRow.touched (now : Timestamp) (j : JobRow) : JobRow :=
  { j with stateRevision := j.stateRevision + 1, updatedAt := now }

theorem actOn_jobs (jobRef segmentRef : String) (w : Workflow) :
    (w.actOn now jobRef segmentRef t).jobs.rows =
      w.jobs.rows.map fun j => if j.jobRef = jobRef then j.touched now else j := rfl

theorem actOn_jobs_content (jobRef segmentRef : String) (w : Workflow) :
    (w.actOn now jobRef segmentRef t).jobs.rows.map JobRow.content =
      w.jobs.rows.map JobRow.content := by
  rw [actOn_jobs, List.map_map]
  refine List.map_congr_left fun j _ => ?_
  dsimp only [Function.comp_apply]
  split <;> rfl

theorem WaitingSegment.acted {w : Workflow} {jobRef segmentRef : String}
    (h : WaitingSegment w jobRef segmentRef s) :
    WaitingSegment (w.actOn now jobRef segmentRef t) jobRef segmentRef (s.acted now t) := by
  obtain ⟨j, hj, href, hwait⟩ := h.waiting
  constructor
  · have hrows : (w.actOn now jobRef segmentRef t).jobs.rows =
        w.jobs.rows.map fun j => if j.jobRef = jobRef then j.touched now else j :=
      actOn_jobs jobRef segmentRef w
    have hmem := Table.mem_of_map_mem hrows hj
    rw [if_pos href] at hmem
    exact ⟨j.touched now, hmem, href, hwait⟩
  · have hrows : (w.actOn now jobRef segmentRef t).segments.rows =
        w.segments.rows.map fun s => if s.segmentRef = segmentRef then s.acted now t else s :=
      actOn_segments jobRef segmentRef w
    have hmem := Table.mem_of_map_mem hrows h.mem
    rwa [if_pos h.ref] at hmem
  · exact h.ref
  · exact h.ofJob

theorem segmentActionIn_of (h : WaitingSegment db.toWorkflow q.jobRef q.segmentRef s)
    (hrev : s.stateRevision = q.expectedSegmentRevision) (ht : segmentTarget s q = .ok t) :
    ∃ rep, segmentActionIn now q db = .ok (rep,
      { db with toWorkflow := db.toWorkflow.actOn now q.jobRef q.segmentRef t }) := by
  obtain ⟨j, hj⟩ := h.job
  have hacted : WaitingSegment (db.toWorkflow.actOn now q.jobRef q.segmentRef t) q.jobRef
      q.segmentRef (s.acted now t) := h.acted
  obtain ⟨j', hj'⟩ := hacted.job
  obtain ⟨hmem', href', -⟩ := mutableWaitingJob_ok hj'
  refine ⟨_, bind_eq_ok.2 ⟨j, hj, bind_eq_ok.2 ⟨s, h.row, bind_eq_ok.2 ⟨⟨⟩, ?_,
    bind_eq_ok.2 ⟨t, ht, bind_eq_ok.2 ⟨_, bind_eq_ok.2 ⟨j', ?_, bind_eq_ok.2 ⟨_, hacted.row, rfl⟩⟩,
      rfl⟩⟩⟩⟩⟩⟩
  · exact raiseIf_eq_ok.2 (not_not.2 hrev)
  · exact jobRow_eq_ok.2 ⟨hmem', href'⟩

theorem mutate_fresh {key : String} {request : Request} {actor : ActorKind}
    {callback : Database → Except AnnotationError (Reply × Database)} {x : Reply × Database}
    (hfresh : db.receipts.find? key = none)
    (h : mutate now key request actor callback db = .ok x) :
    ∃ db₁ receipts, callback db = .ok (x.1, db₁) ∧ x.2 = { db₁ with receipts } := by
  obtain ⟨_, -, h⟩ := bind_eq_ok.1 h
  rw [hfresh] at h
  obtain ⟨y, hcall, h⟩ := bind_eq_ok.1 h
  obtain ⟨receipts, -, h⟩ := bind_eq_ok.1 h
  obtain rfl := Except.ok.inj h
  exact ⟨y.2, receipts, hcall, rfl⟩

theorem mutate_runs {key : String} {request : Request} {actor : ActorKind}
    {callback : Database → Except AnnotationError (Reply × Database)} {rep : Reply}
    {db₁ : Database} (hvalid : ¬ (key.length = 0 ∨ 200 < key.length))
    (hfresh : db.receipts.find? key = none) (hcall : callback db = .ok (rep, db₁))
    (hkept : db₁.receipts = db.receipts) :
    ∃ receipts, mutate now key request actor callback db = .ok (rep, { db₁ with receipts }) := by
  obtain ⟨receipts, hinsert⟩ := Table.insert?_isSome (t := db₁.receipts)
    (r := ⟨key, request, rep, actor, now⟩) (hkept ▸ Table.find?_eq_none_iff.1 hfresh)
  refine ⟨receipts, ?_⟩
  unfold mutate
  rw [hfresh]
  exact bind_eq_ok.2 ⟨⟨⟩, raiseIf_eq_ok.2 hvalid, bind_eq_ok.2 ⟨_, hcall,
    bind_eq_ok.2 ⟨receipts, orRaise_eq_ok.2 hinsert, rfl⟩⟩⟩

def SegmentRow.skipTarget (s : SegmentRow) (q : SegmentRequest) : SegmentTarget :=
  ⟨.skipped, none, q.reasonCode, q.note, some s.status,
    if s.status = .submitted then s.submittedRevision else none⟩

/-- What unskip writes to a segment that was as `s` when it was skipped. -/
def SegmentRow.restoreTarget (s : SegmentRow) : SegmentTarget :=
  ⟨s.status, s.submittedRevision, none, none, none, none⟩

theorem segmentTarget_skip (hop : q.operation = .skip) (ht : segmentTarget s q = .ok t) :
    s.status.Restorable ∧ t = s.skipTarget q := by
  unfold segmentTarget at ht
  rw [hop] at ht
  obtain ⟨_, hrestorable, ht⟩ := bind_eq_ok.1 ht
  exact ⟨not_not.1 (raiseIf_eq_ok.1 hrestorable), (Except.ok.inj ht).symm⟩

theorem SegmentSound.restorable {w : Workflow} (h : SegmentSound w s)
    (hrestorable : s.status.Restorable) : (s.skipReasonCode = none ∧ s.skipNote = none ∧
      s.skipRestoreStatus = none ∧ s.skipRestoreSubmittedRevision = none) ∧
        (if s.status = .submitted then s.submittedRevision else none) = s.submittedRevision ∧
          (s.status = .submitted → s.submittedRevision ≠ none) := by
  have hunskipped : s.status ≠ .skipped := by
    rcases hrestorable with he | he | he <;> rw [he] <;> decide
  refine ⟨h.columns hunskipped, ?_, fun hsubmitted hnone => ?_⟩
  · split
    · rfl
    · refine (h.unsubmitted.2 ?_).symm
      rcases hrestorable with he | he | he
      · exact .inl he
      · exact .inr (.inl he)
      · contradiction
  · rcases h.unsubmitted.1 hnone with he | he | he <;> rw [hsubmitted] at he <;> cases he

theorem segmentTarget_unskip {w : Workflow} {u : SegmentRequest} (h : SegmentSound w s)
    (hrestorable : s.status.Restorable) (hop : u.operation = .unskip) :
    segmentTarget (s.acted now (s.skipTarget q)) u = .ok s.restoreTarget := by
  obtain ⟨-, hsame, hsubmitted⟩ := h.restorable hrestorable
  have hrestore : (s.acted now (s.skipTarget q)).skipRestoreSubmittedRevision =
      s.submittedRevision := hsame
  unfold segmentTarget
  rw [hop]
  refine bind_eq_ok.2 ⟨⟨⟩, raiseIf_eq_ok.2 (not_not.2 rfl), bind_eq_ok.2 ⟨s.status, ?_,
    bind_eq_ok.2 ⟨⟨⟩, ?_, ?_⟩⟩⟩
  · rw [orRaise_eq_ok]
    simp [SegmentRow.acted, SegmentRow.skipTarget, hrestorable]
  · rw [raiseIf_eq_ok, hrestore, hsame]
    exact fun hnone => hsubmitted hnone.1 hnone.2
  · rw [hrestore, hsame]
    rfl

theorem acted_acted_content {now' : Timestamp} {w : Workflow} (h : SegmentSound w s)
    (hrestorable : s.status.Restorable) :
    ((s.acted now (s.skipTarget q)).acted now' s.restoreTarget).content = s.content := by
  obtain ⟨⟨hreason, hnote, hrestore, hrevision⟩, -, -⟩ := h.restorable hrestorable
  simp only [SegmentRow.content, SegmentRow.acted, SegmentRow.restoreTarget, hreason, hnote,
    hrestore, hrevision]

/-- Both actions write to the one segment, and leave the others alone. -/
theorem actOn_actOn_segments {now' : Timestamp} {w : Workflow} {jobRef segmentRef : String}
    (hs : WaitingSegment w jobRef segmentRef s) (h : SegmentSound w s)
    (hrestorable : s.status.Restorable) :
    ((w.actOn now jobRef segmentRef (s.skipTarget q)).actOn now' jobRef segmentRef
      s.restoreTarget).segments.rows.map SegmentRow.content =
        w.segments.rows.map SegmentRow.content := by
  rw [actOn_segments, actOn_segments, List.map_map, List.map_map]
  refine List.map_congr_left fun g hg => ?_
  dsimp only [Function.comp_apply]
  by_cases href : g.segmentRef = segmentRef
  · obtain rfl : g = s := Table.eq_of_key hg hs.mem (href.trans hs.ref.symm)
    have href' : (g.acted now (g.skipTarget q)).segmentRef = segmentRef := href
    rw [if_pos href, if_pos href']
    exact acted_acted_content h hrestorable
  · rw [if_neg href, if_neg href]

theorem skipsUndone_of_sound (h : ∀ g ∈ db.segments, SegmentSound db.toWorkflow g) :
    SkipsUndone db := by
  intro now skip key rep db₁ hskip hfresh hone now' unskip key' hunskip hjob hsegment hrev hvalid
    hfresh'
  obtain ⟨d, receipts, hcall, hdb₁⟩ := mutate_fresh hfresh hone
  obtain ⟨s, t, hs, hsrev, ht, hd⟩ := segmentActionIn_ok hcall
  obtain ⟨hrestorable, rfl⟩ := segmentTarget_skip hskip ht
  have hdb₁ : db₁ = { db with
      toWorkflow := db.toWorkflow.actOn now skip.jobRef skip.segmentRef (s.skipTarget skip)
      receipts } := by
    rw [show db₁ = { d with receipts } from hdb₁, show d = _ from hd]
  have hw : db₁.toWorkflow =
      db.toWorkflow.actOn now skip.jobRef skip.segmentRef (s.skipTarget skip) := by rw [hdb₁]
  have hsound := h s hs.mem
  have hacted : WaitingSegment db₁.toWorkflow unskip.jobRef unskip.segmentRef
      (s.acted now (s.skipTarget skip)) := by
    rw [hw, hjob, hsegment]
    exact hs.acted
  have hrev' : (s.acted now (s.skipTarget skip)).stateRevision =
      unskip.expectedSegmentRevision := by
    rw [hrev, ← hsrev]
    rfl
  obtain ⟨rep', hcall'⟩ : ∃ rep, segmentActionIn now' unskip db₁ = .ok (rep, { db₁ with
      toWorkflow := db₁.toWorkflow.actOn now' unskip.jobRef unskip.segmentRef s.restoreTarget }) :=
    segmentActionIn_of hacted hrev' (segmentTarget_unskip hsound hrestorable hunskip)
  obtain ⟨receipts', hmutate⟩ := mutate_runs hvalid hfresh' hcall' rfl
  refine ⟨rep', _, hmutate, ?_, ?_, ?_⟩
  · change (db₁.toWorkflow.actOn now' unskip.jobRef unskip.segmentRef
      s.restoreTarget).segments.rows.map SegmentRow.content = _
    rw [hw, hjob, hsegment]
    exact actOn_actOn_segments hs hsound hrestorable
  · change (db₁.toWorkflow.actOn now' unskip.jobRef unskip.segmentRef
      s.restoreTarget).jobs.rows.map JobRow.content = _
    rw [actOn_jobs_content, hw, actOn_jobs_content]
  · rw [hdb₁]
    rfl

end Actions

/-- What a mutation promises from the system `s` on, for any request, callback and actor. -/
structure MutationsIdempotent (s : System) : Prop where
  /-- A repeated call is answered as before and a different one is refused, whatever ran between. -/
  replayed : ∀ (now : Timestamp) (key : String) (request : Request) (actor : ActorKind)
    (callback : Database → Except AnnotationError (Reply × Database)) (rep : Reply) (db : Database),
    mutate now key request actor callback s.store.db = .ok (rep, db) →
    ∀ (l : List (Transition System Event)) (t : System), Run System.Step (s.setDb db) l t →
    ∀ (now' : Timestamp) (actor' : ActorKind)
      (callback' : Database → Except AnnotationError (Reply × Database)),
      mutate now' key request actor' callback' t.store.db = .ok (rep, t.store.db) ∧
        ∀ other, other ≠ request →
          mutate now' key other actor' callback' t.store.db = .error idempotencyKeyReused
  /-- A callback that raises leaves its key to the next call. -/
  raised : ∀ (now : Timestamp) (key : String) (request : Request) (actor : ActorKind)
    (callback : Database → Except AnnotationError (Reply × Database)) (e : AnnotationError),
    ¬ (key.length = 0 ∨ 200 < key.length) → s.store.db.receipts.find? key = none →
    callback s.store.db = .error e →
    mutate now key request actor callback s.store.db = .error e ∧
      ∀ (now' : Timestamp) (request' : Request) (actor' : ActorKind)
        (callback' : Database → Except AnnotationError (Reply × Database)) (rep : Reply)
        (db : Database), callback' s.store.db = .ok (rep, db) →
        db.receipts = s.store.db.receipts →
        ∃ receipts, mutate now' key request' actor' callback' s.store.db =
          .ok (rep, { db with receipts })
  /-- A call that raises changes nothing. -/
  unchanged : ∀ (c : StoreCall) (e : AnnotationError), perform s.clock s.store.db c = .error e →
    s.act (.call c) = s

theorem mutationsIdempotent (s : System) : MutationsIdempotent s := by
  constructor
  · intro now key request actor callback rep db h l t hrun now' actor' callback'
    obtain ⟨r, hr, hkey, hrequest, hresponse⟩ := mutate_receipt h
    have hkept : r ∈ t.store.db.receipts := System.receiptsKept_of_run hrun r hr
    have hused : ∀ q, mutate now' key q actor' callback' t.store.db =
        if r.request = q then .ok (r.response, t.store.db) else .error idempotencyKeyReused :=
      fun q => mutate_used hkept hkey (mutate_valid h)
    constructor
    · rw [hused, if_pos hrequest, hresponse]
    · intro other hother
      rw [hused, if_neg fun hsame => hother (hsame.symm.trans hrequest)]
  · intro now key request actor callback e hvalid hfresh hraise
    refine ⟨mutate_raises hvalid hfresh hraise, ?_⟩
    intro now' request' actor' callback' rep db hcall hkept
    exact mutate_runs hvalid hfresh hcall hkept
  · intro c e h
    simp only [System.act, h]

/-- Mutations are idempotent in every state, and every skip can be undone in runs that submit no
skipped segment. -/
theorem skips_undone_and_mutations_idempotent {l : List (Transition System Event)} {s : System}
    (h : SystemRun l s) : MutationsIdempotent s ∧
      ((∀ x ∈ l, ¬ SubmitsSkipped x.pre x.label) → SkipsUndone s.store.db) :=
  ⟨mutationsIdempotent s, fun hl =>
    skipsUndone_of_sound (segments_follow_state_machine h hl).1⟩

namespace Sample

/-- Skip or unskip of the one segment of the sample job. -/
def action (operation : SegmentAction) (revision : ℕ) : SegmentRequest :=
  ⟨operation, "job_1", "job_1_segment_1", revision, some "no_target", none⟩

def skipAndUnskip (revision : ℕ) (db : Database) : Except AnnotationError Database := do
  let skipped ← segmentAction 0 (action .skip revision) "skip_again" db
  let restored ← segmentAction 0 (action .unskip (revision + 1)) "unskip_again" skipped.2
  return restored.2

end Sample

theorem SkipsUndone.restored {db : Database} {revision : ℕ} (h : SkipsUndone db)
    (hfresh : db.receipts.find? "skip_again" = none)
    (hskip : ∃ x, segmentAction 0 (Sample.action .skip revision) "skip_again" db = .ok x ∧
      x.2.receipts.find? "unskip_again" = none) :
    ∃ db', Sample.skipAndUnskip revision db = .ok db' ∧ Restored db db' := by
  obtain ⟨x, hskip, hfresh'⟩ := hskip
  obtain ⟨rep, db', hunskip, hrestored⟩ := h 0 _ _ x.1 x.2 rfl hfresh hskip 0
    (Sample.action .unskip (revision + 1)) "unskip_again" rfl rfl rfl rfl (by decide) hfresh'
  exact ⟨db', bind_eq_ok.2 ⟨x, hskip, bind_eq_ok.2 ⟨(rep, db'), hunskip, rfl⟩⟩, hrestored⟩

/-- A submitted segment is skipped and restored. -/
theorem submission_skip_undone :
    SkipsUndone (System.initial.after Sample.submission).store.db ∧
      (Sample.skipAndUnskip 2 (System.initial.after Sample.submission).store.db).isOk = true := by
  have hrun : SystemRun (System.initial.trace Sample.submission)
      (System.initial.after Sample.submission) := System.run_trace _ _ (by decide)
  have hunskipped : ∀ x ∈ System.initial.trace Sample.submission,
      ∀ g ∈ x.pre.workflow.segments, g.status ≠ .skipped := by decide
  exact ⟨(skips_undone_and_mutations_idempotent hrun).2
    fun x hx ⟨_, _, _, _, _, g, hg, _, hs⟩ => hunskipped x hx g hg hs, by decide⟩

/-- A segment that was submitted while it was skipped is not restored. -/
theorem skippedSubmission_not_undone :
    ¬ ∀ (l : List (Transition System Event)) (s : System), SystemRun l s →
      MutationsIdempotent s ∧ SkipsUndone s.store.db := by
  intro h
  have hundone := (h _ _ Sample.run_skippedSubmission).2
  have hstale : ∃ g ∈ (System.initial.after Sample.skippedSubmission).workflow.segments,
      g.skipRestoreStatus = some .draft := by decide
  have hfresh : (System.initial.after Sample.skippedSubmission).store.db.receipts.find?
      "skip_again" = none := by decide
  have haccepted : ((segmentAction 0 (Sample.action .skip 3) "skip_again"
      (System.initial.after Sample.skippedSubmission).store.db).toOption.any fun x =>
        decide (x.2.receipts.find? "unskip_again" = none)) = true := by decide
  have hcleared : ((Sample.skipAndUnskip 3
      (System.initial.after Sample.skippedSubmission).store.db).toOption.all fun db =>
        decide (∀ g ∈ db.segments, g.skipRestoreStatus = none)) = true := by decide
  have hskip : ∃ x, segmentAction 0 (Sample.action .skip 3) "skip_again"
      (System.initial.after Sample.skippedSubmission).store.db = .ok x ∧
        x.2.receipts.find? "unskip_again" = none := by
    revert haccepted
    cases segmentAction 0 (Sample.action .skip 3) "skip_again"
      (System.initial.after Sample.skippedSubmission).store.db with
    | error e => exact nofun
    | ok x => exact fun hx => ⟨x, rfl, of_decide_eq_true hx⟩
  obtain ⟨db', hdone, hrestored⟩ := hundone.restored hfresh hskip
  rw [hdone] at hcleared
  obtain ⟨g, hg, hg'⟩ := hstale
  have hcontent : g.content ∈ db'.segments.rows.map SegmentRow.content :=
    hrestored.segments ▸ List.mem_map_of_mem hg
  obtain ⟨g₂, hg₂, hsame⟩ := List.mem_map.1 hcontent
  have hnone := of_decide_eq_true hcleared g₂ hg₂
  have hrestore : g₂.content.skipRestoreStatus = g.content.skipRestoreStatus := by rw [hsame]
  change g₂.skipRestoreStatus = g.skipRestoreStatus at hrestore
  rw [hnone, hg'] at hrestore
  cases hrestore

end DataJuicer.Annotation
