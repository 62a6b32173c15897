import DataJuicer.TrainingNodes.ModelInvariant
import DataJuicer.TrainingNodes.RunMoves

/-! # Only verified configurations train

A model is verified by the last report on its current revision, whatever edits, late reports and
expired leases come before it, and `create_run` looks at the model in its own transaction. A
model has one open request at most; an edit does not close it, so a request that was made for an
earlier revision can refuse the next one.
-/

namespace DataJuicer.TrainingNodes

open Training (Timestamp RunRow)
open Transaction Table

variable {c c' : Centre} {op : Op} {r : Reply} {t : ModelTables} {m : ModelRow}
  {v w : VerificationRow}

structure Accepts (x : Transition Centre Event) (q : VerificationReport) (v : VerificationRow) :
    Prop where
  label : ∃ now, x.label = (.finishVerification now q, .ok (.verification q.status))
  request : v ∈ x.pre.verifications
  reference : v.verificationRef = q.commandRef

/-- The step accepts a report on this configuration. -/
def ReportsOn (x : Transition Centre Event) (revisionRef : String) : Prop :=
  ∃ q v, Accepts x q v ∧ v.revisionRef = revisionRef

def HandsOut (x : Transition Centre Event) (verificationRef : String)
    (payload : VerificationPayload) (workerInstanceId : String) : Prop :=
  ∃ now nodeRef, x.label = (.claimVerification now nodeRef workerInstanceId,
    .ok (.command (some ⟨verificationRef, payload⟩)))

/--
The last report on the configuration says that a Worker has verified this payload, which it got
from an earlier step.
-/
structure LastReport (l : List (Transition Centre Event)) (revisionRef : String)
    (payload : VerificationPayload) (q : VerificationReport) : Prop where
  succeeded : q.succeeded = true
  accepted : ∃ l₁ x l₂ v, l = l₁ ++ x :: l₂ ∧ Accepts x q v ∧ v.revisionRef = revisionRef ∧
    (∃ y ∈ l₁, HandsOut y v.verificationRef payload q.workerInstanceId) ∧
    ∀ z ∈ l₂, ¬ ReportsOn z revisionRef

theorem LastReport.snoc {l : List (Transition Centre Event)} {x : Transition Centre Event}
    {revisionRef : String} {payload : VerificationPayload} {q : VerificationReport}
    (h : LastReport l revisionRef payload q) (hx : ¬ ReportsOn x revisionRef) :
    LastReport (l ++ [x]) revisionRef payload q := by
  obtain ⟨l₁, y, l₂, v, rfl, hy, href, hout, hlast⟩ := h.accepted
  refine ⟨h.succeeded, l₁, y, l₂ ++ [x], v, by simp, hy, href, hout, ?_⟩
  intro z hz
  rcases List.mem_append.1 hz with hz | hz
  · exact hlast z hz
  · rw [List.mem_singleton.1 hz]
    exact hx

/-- A model is verified by the last report on its current revision. -/
def VerifiedBy (l : List (Transition Centre Event)) (c : Centre) (m : ModelRow) : Prop :=
  ∃ s ∈ c.revisions, s.modelRef = m.modelRef ∧ s.revisionNumber = m.currentRevision ∧
    ∃ q, LastReport l s.revisionRef (s.launchTemplate.payload m.familyRef) q

/-- What a history tells of the requests and of the models. -/
structure Witnessed (l : List (Transition Centre Event)) (c : Centre) : Prop where
  claimed : ∀ v ∈ c.verifications, v.status = .running →
    ∃ w ∈ v.workerInstanceId, ∃ y ∈ l, HandsOut y v.verificationRef v.request w
  verified : ∀ m ∈ c.models, m.status = .verified → VerifiedBy l c m

variable {l : List (Transition Centre Event)} {x : Transition Centre Event}

theorem not_reportsOn {revisionRef : String} (h : ∀ now q, x.label.1 ≠ .finishVerification now q) :
    ¬ ReportsOn x revisionRef := by
  rintro ⟨q, v, ⟨⟨now, hlabel⟩, -, -⟩, -⟩
  exact h now q (by rw [hlabel])

/-- A report on one request is about no other configuration. -/
theorem Accepts.unique {q q' : VerificationReport} (h : Accepts x q v) (h' : Accepts x q' w) :
    q = q' ∧ v = w := by
  obtain ⟨_, hl⟩ := h.label
  obtain ⟨_, hl'⟩ := h'.label
  have heq := hl.symm.trans hl'
  cases heq
  exact ⟨rfl, eq_of_key h.request h'.request (h.reference.trans h'.reference.symm)⟩

theorem VerifiedBy.snoc (h : VerifiedBy l c m) (hrev : ∀ s ∈ c.revisions, s ∈ c'.revisions)
    (hx : ∀ s ∈ c.revisions, s.modelRef = m.modelRef → s.revisionNumber = m.currentRevision →
      ¬ ReportsOn x s.revisionRef) : VerifiedBy (l ++ [x]) c' m := by
  obtain ⟨s, hs, hm, hnum, q, hq⟩ := h
  exact ⟨s, hrev s hs, hm, hnum, q, hq.snoc (hx s hs hm hnum)⟩

/-- The requests that a Worker holds were handed out to it. -/
def Claimed (l : List (Transition Centre Event)) (verifications : Table VerificationRow) : Prop :=
  ∀ v ∈ verifications, v.status = .running →
    ∃ w ∈ v.workerInstanceId, ∃ y ∈ l, HandsOut y v.verificationRef v.request w

theorem Claimed.mono {verifications : Table VerificationRow} (h : Claimed l verifications) :
    Claimed (l ++ [x]) verifications := by
  intro v hv hrun
  obtain ⟨w, hw, y, hy, hout⟩ := h v hv hrun
  exact ⟨w, hw, y, List.mem_append_left _ hy, hout⟩

theorem Claimed.update {verifications : Table VerificationRow} {p : VerificationRow → Prop}
    [DecidablePred p] {f : VerificationRow → VerificationRow} (hf : KeepsRequest f)
    (h : Claimed l verifications) (hnot : ∀ v, (f v).status ≠ .running) :
    Claimed l (verifications.update p f hf.reference) := by
  intro v hv hrun
  rcases mem_update_cases hv with ⟨hv, -⟩ | ⟨w, -, -, rfl⟩
  · exact h v hv hrun
  · exact absurd hrun (hnot w)

theorem claimed_of_move (hmove : ModelMove x.pre op r t) (hlabel : x.label = (op, .ok r))
    (h : Claimed l x.pre.verifications) : Claimed (l ++ [x]) t.verifications := by
  have hrequeued : ∀ now nodeRef, Claimed (l ++ [x]) (requeued now nodeRef x.pre) :=
    fun now nodeRef => h.mono.update (p := VerificationRow.Expired now nodeRef)
      keepsRequest_requeue fun _ => by simp [VerificationRow.requeue]
  have hfinished : ∀ now q v, Claimed (l ++ [x]) (finishedVerifications now q v x.pre) := by
    refine fun now q v => h.mono.update (p := fun x => x.verificationRef = v.verificationRef)
      keepsRequest_finish fun _ hrun => ?_
    exact not_open_status q (.inr hrun)
  cases hmove with
  | same | created | edited | refused => exact h.mono
  | requested _ _ _ hinsert =>
    intro v hv hrun
    rcases (mem_insert? hinsert).1 hv with hv | rfl
    · exact h.mono v hv hrun
    · cases hrun
  | idle => exact hrequeued _ _
  | @claimed now nodeRef workerId v hv hqueued =>
    intro w hw hrun
    change w ∈ (requeued now nodeRef x.pre).update
      (fun x => x.verificationRef = v.verificationRef ∧ x.status = .queued)
      (VerificationRow.claim now workerId) (fun _ => rfl) at hw
    rcases mem_update_cases hw with ⟨hw, -⟩ | ⟨u, hu, ⟨href, -⟩, rfl⟩
    · exact hrequeued _ _ w hw hrun
    · obtain rfl : u = v := eq_of_key hu hv href
      exact ⟨workerId, rfl, x, List.mem_concat_self, now, nodeRef, hlabel⟩
  | judged | recorded => exact hfinished _ _ _
  | @abandoned now nodeRef =>
    refine h.mono.update (p := fun v => v.nodeRef = some nodeRef) keepsRequest_abandon
      fun v hrun => ?_
    unfold VerificationRow.abandon at hrun
    split at hrun
    · cases hrun
    · next hclosed => exact hclosed (.inr hrun)

theorem not_reportsOn_of_model {q : VerificationReport} (hwf : x.pre.modelTables.Wf)
    (hv : Accepts x q v) {s : RevisionRow} (hs : s ∈ x.pre.revisions)
    (hm : s.modelRef ≠ v.modelRef) : ¬ ReportsOn x s.revisionRef := by
  rintro ⟨_, w, hw, href⟩
  obtain ⟨-, rfl⟩ := hv.unique hw
  obtain ⟨_, -, -, s', hs', href', hmodel, -⟩ := hwf.requests v hv.request
  obtain rfl : s = s' := eq_of_key hs hs' (href.symm.trans href'.symm)
  exact hm hmodel

theorem currentFor_of_mem (hwf : c.modelTables.Wf) {s : RevisionRow} (hs : s ∈ c.revisions)
    (hm : s.modelRef = m.modelRef) (hnum : s.revisionNumber = m.currentRevision)
    (href : v.revisionRef = s.revisionRef) : CurrentFor v m c := by
  cases hf : revision? m.modelRef m.currentRevision c with
  | none => exact absurd (List.find?_eq_none.1 hf s hs) (by simp [hm, hnum])
  | some s' =>
    obtain ⟨hs', hm', hnum'⟩ := revision?_eq_some hf
    obtain rfl := hwf.numbers s hs s' hs' (hm.trans hm'.symm) (hnum.trans hnum'.symm)
    exact ⟨s, hf, href.symm⟩

theorem verified_of_judged {now : Timestamp} {q : VerificationReport} (hwf : x.pre.modelTables.Wf)
    (h : Witnessed l x.pre) (hv : Accepts x q v) (hq : Reported q v m x.pre)
    (hcurrent : CurrentFor v m x.pre) {m' : ModelRow} (hm' : m' ∈ judgedModels now q m x.pre)
    (hverified : m'.status = .verified) (hrev : x.post.revisions = x.pre.revisions) :
    VerifiedBy (l ++ [x]) x.post m' := by
  rcases mem_update_cases hm' with ⟨hm', hne⟩ | ⟨m₀, hm₀, href, rfl⟩
  · refine (h.verified m' hm' hverified).snoc (fun s hs => hrev ▸ hs) fun s hs hm _ => ?_
    refine not_reportsOn_of_model hwf hv hs ?_
    rw [hm, ← hq.model_ref]
    exact hne
  · obtain rfl : m₀ = m := eq_of_key hm₀ hq.model href
    have hsucc : q.succeeded = true := by
      by_contra hfail
      simp [ModelRow.judged, hfail] at hverified
    obtain ⟨s, hs, hsref⟩ := hcurrent
    obtain ⟨hs, hsm, hnum⟩ := revision?_eq_some hs
    obtain ⟨m₁, hm₁, hm₁ref, s₁, hs₁, hs₁ref, -, hpayload⟩ := hwf.requests v hq.request
    obtain rfl : m₀ = m₁ := eq_of_key hm₀ hm₁ (hq.model_ref.trans hm₁ref.symm)
    obtain rfl : s = s₁ := eq_of_key hs hs₁ (hsref.trans hs₁ref.symm)
    obtain ⟨w, hw, y, hy, hout⟩ := h.claimed v hq.request hq.running
    obtain rfl := Option.some.inj (hq.claimed.symm.trans hw)
    refine ⟨s, hrev ▸ hs, hsm, hnum, q, hsucc, l, x, [], v, rfl, hv, hsref.symm, ⟨y, hy, ?_⟩, ?_⟩
    · rw [hpayload] at hout
      exact hout
    · simp

theorem verified_of_recorded {q : VerificationReport} (hwf : x.pre.modelTables.Wf)
    (h : Witnessed l x.pre) (hv : Accepts x q v) (hq : Reported q v m x.pre)
    (hpast : ¬ (CurrentFor v m x.pre ∧ m.status ≠ .disabled)) {m' : ModelRow}
    (hm' : m' ∈ x.pre.models) (hverified : m'.status = .verified)
    (hrev : x.post.revisions = x.pre.revisions) : VerifiedBy (l ++ [x]) x.post m' := by
  refine (h.verified m' hm' hverified).snoc (fun s hs => hrev ▸ hs) fun s hs hm hnum => ?_
  by_cases hmodel : m'.modelRef = m.modelRef
  · obtain rfl : m' = m := eq_of_key hm' hq.model hmodel
    rintro ⟨_, w, hw, href⟩
    obtain ⟨-, rfl⟩ := hv.unique hw
    exact hpast ⟨currentFor_of_mem hwf hs hm hnum href, by simp [hverified]⟩
  · refine not_reportsOn_of_model hwf hv hs ?_
    rw [hm, ← hq.model_ref]
    exact hmodel

theorem Reported.accepts {now : Timestamp} {q : VerificationReport} (h : Reported q v m x.pre)
    (hlabel : x.label = (.finishVerification now q, .ok (.verification q.status))) :
    Accepts x q v :=
  ⟨⟨now, hlabel⟩, h.request, h.command_ref⟩

theorem verified_of_move (hmove : ModelMove x.pre op r x.post.modelTables)
    (hlabel : x.label = (op, .ok r)) (hwf : x.pre.modelTables.Wf) (h : Witnessed l x.pre) :
    ∀ m ∈ x.post.models, m.status = .verified → VerifiedBy (l ++ [x]) x.post m := by
  generalize ht : x.post.modelTables = t at hmove
  have hmodels : x.post.models = t.models := congrArg ModelTables.models ht
  have hrev : x.post.revisions = t.revisions := congrArg ModelTables.revisions ht
  intro m hm hverified
  -- Without a report, a model that stays verified is verified by the same report.
  have hkept : (∀ now q, op ≠ .finishVerification now q) → m ∈ x.pre.models →
      (∀ s ∈ x.pre.revisions, s ∈ x.post.revisions) → VerifiedBy (l ++ [x]) x.post m := by
    intro hop hm hsub
    refine (h.verified m hm hverified).snoc hsub fun _ _ _ _ => not_reportsOn fun now q => ?_
    rw [hlabel]
    exact hop now q
  rw [hmodels] at hm
  cases hmove with
  | same hop =>
    refine hkept (fun now q hq => hop (by rw [hq]; trivial)) hm ?_
    exact fun s hs => hrev ▸ hs
  | created hn =>
    rcases (mem_insert? hn.model).1 hm with hm | rfl
    · exact hkept (by simp) hm fun s hs => hrev ▸ (mem_insert? hn.revision).2 (.inl hs)
    · cases hverified
  | @edited now familyRef rev revisionRef d _ m₀ revisions _ _ hrevision =>
    change m ∈ x.pre.models.update (fun y => y.modelRef = m₀.modelRef)
      (ModelRow.edited now (rev + 1) d) (fun _ => rfl) at hm
    rcases mem_update_cases hm with ⟨hm, -⟩ | ⟨_, -, -, rfl⟩
    · exact hkept (by simp) hm fun s hs => hrev ▸ (mem_insert? hrevision).2 (.inl hs)
    · cases hverified
  | requested | refused | idle | claimed | abandoned =>
    exact hkept (by simp) hm fun s hs => hrev ▸ hs
  | judged hq hcurrent =>
    exact verified_of_judged hwf h (hq.accepts hlabel) hq hcurrent hm hverified hrev
  | recorded hq hpast =>
    exact verified_of_recorded hwf h (hq.accepts hlabel) hq hpast hm hverified hrev

theorem witnessed_of_step (hstep : Step x.pre x.label x.post) (hwf : x.pre.modelTables.Wf)
    (h : Witnessed l x.pre) : Witnessed (l ++ [x]) x.post := by
  rcases step_iff.1 hstep with ⟨r, hp, hr⟩ | ⟨e, -, hr, hpost⟩
  · have hmove := modelMove_of_perform hp
    have hlabel : x.label = (x.label.1, .ok r) := by rw [← hr]
    exact ⟨claimed_of_move hmove hlabel h.claimed, verified_of_move hmove hlabel hwf h⟩
  · have hsilent : ∀ ref, ¬ ReportsOn x ref := by
      rintro ref ⟨q, v, ⟨⟨now, hlabel⟩, -, -⟩, -⟩
      rw [hlabel] at hr
      cases hr
    rw [hpost]
    refine ⟨Claimed.mono h.claimed, fun m hm hverified => ?_⟩
    exact (h.verified m hm hverified).snoc (fun _ => id) fun s _ _ _ => hsilent s.revisionRef

theorem witnessed_of_run {registry : Training.Registry} (h : Run Step (.initial registry) l c) :
    Witnessed l c := by
  refine h.history (Q := Witnessed) ⟨?_, ?_⟩ fun l x hr hl hstep => ?_
  · exact fun _ hv => absurd hv (not_mem_empty _)
  · exact fun _ hm => absurd hm (not_mem_empty _)
  · exact witnessed_of_step hstep (wf_of_run hr) hl

/-- The step refuses a verification because another one is in progress. -/
def RefusesInProgress (x : Transition Centre Event) (familyRef : String) (rev : ℕ) : Prop :=
  ∃ now verificationRef message current,
    x.label = (.requestVerification now familyRef rev verificationRef,
      .error (.conflict "model_verification_in_progress" message current))

/-- The projection of the model shows an open verification of its current revision. -/
def ShowsOpen (familyRef : String) (c : Centre) : Prop :=
  ∃ view, getModel familyRef c = .ok view ∧ ∃ w ∈ view.verification, w.status.Open

/-- The model has an open request, which the projection shows when it is on the current revision. -/
def HasOpen (familyRef : String) (c : Centre) : Prop :=
  ∃ m, currentModel? familyRef c = some m ∧ ∃ v ∈ c.verifications, v.modelRef = m.modelRef ∧
    v.status.Open ∧ (CurrentFor v m c → ShowsOpen familyRef c)

theorem verifyingNode_ne_inProgress {now : Timestamp} {s : RevisionRow} {message : String}
    {current : Option Current} :
    verifyingNode now s c ≠ .error (.conflict "model_verification_in_progress" message
      current) := by
  intro h
  rcases bind_eq_error.1 h with h | ⟨_, -, h⟩
  · simp at h
  · rcases bind_eq_error.1 h with h | ⟨_, -, h⟩
    · simp at h
    · cases h

theorem withModel_ne_conflict {familyRef code message : String} {current : Option Current} :
    withModel familyRef c ≠ .error (.conflict code message current) := by
  intro h
  rcases bind_eq_error.1 h with h | ⟨_, -, h⟩
  · rcases bind_eq_error.1 h with h | ⟨_, -, h⟩
    · simp [modelNotFound] at h
    · rcases bind_eq_error.1 h with h | ⟨_, -, h⟩
      · simp [modelNotFound] at h
      · rcases bind_eq_error.1 h with h | ⟨_, -, h⟩
        · simp at h
        · cases h
  · cases h

theorem verifiableModel_inProgress {familyRef : String} {rev : ℕ} {message : String}
    {current : Option Current} (h : verifiableModel familyRef rev c =
      .error (.conflict "model_verification_in_progress" message current)) :
    ∃ m v, Expected familyRef rev m c ∧ openVerification? m.modelRef c = some v := by
  rcases bind_eq_error.1 h with h | ⟨m, hm, h⟩
  · simp [modelNotFound] at h
  rcases bind_eq_error.1 h with h | ⟨_, hrev, h⟩
  · simp [editConflict] at h
  rcases bind_eq_error.1 h with h | ⟨_, -, h⟩
  · simp at h
  cases hopen : openVerification? m.modelRef c with
  | none =>
    rw [hopen] at h
    cases h
  | some v =>
    exact ⟨m, v, ⟨orRaise_eq_ok.1 hm, not_not.1 (raiseIf_eq_ok.1 hrev)⟩, hopen⟩

theorem requestModelVerification_inProgress {now : Timestamp} {familyRef verificationRef : String}
    {rev : ℕ} {message : String} {current : Option Current}
    (h : requestModelVerification now familyRef rev verificationRef c =
      .error (.conflict "model_verification_in_progress" message current)) :
    ∃ m v, Expected familyRef rev m c ∧ openVerification? m.modelRef c = some v := by
  rcases bind_eq_error.1 h with h | ⟨m, -, h⟩
  · exact verifiableModel_inProgress h
  rcases bind_eq_error.1 h with h | ⟨s, -, h⟩
  · simp at h
  rcases bind_eq_error.1 h with h | ⟨n, -, h⟩
  · exact absurd h verifyingNode_ne_inProgress
  rcases bind_eq_error.1 h with h | ⟨verifications, -, h⟩
  · simp at h
  · exact absurd h withModel_ne_conflict

theorem showsOpen_of_currentFor {familyRef : String} (hwf : c.modelTables.Wf)
    (hm : currentModel? familyRef c = some m) (hv : v ∈ c.verifications)
    (hmodel : v.modelRef = m.modelRef) (hopen : v.status.Open) (hcurrent : CurrentFor v m c) :
    ShowsOpen familyRef c := by
  obtain ⟨f, hf, hm'⟩ := Option.bind_eq_some_iff.1 hm
  obtain ⟨s, hs, href⟩ := hcurrent
  have hget : getModel familyRef c = .ok (modelView f m s c) :=
    bind_eq_ok.2 ⟨f, orRaise_eq_ok.2 hf, bind_eq_ok.2 ⟨m, orRaise_eq_ok.2 hm',
      bind_eq_ok.2 ⟨s, orRaise_eq_ok.2 hs, rfl⟩⟩⟩
  obtain ⟨hsmem, -, hnum⟩ := revision?_eq_some hs
  have hlast : latestVerification? m c = some v := by
    refine hwf.closed.getLast?_select hv ⟨hmodel, s, hsmem, href, hnum⟩ fun w _ hw hvw => ?_
    exact hvw (hmodel.trans hw.1.symm) hopen
  refine ⟨_, hget, v.view, ?_, hopen⟩
  simp [modelView, hlast]

theorem hasOpen_of_refused {familyRef : String} {rev : ℕ} (hwf : x.pre.modelTables.Wf)
    (hstep : Step x.pre x.label x.post) (h : RefusesInProgress x familyRef rev) :
    HasOpen familyRef x.pre := by
  obtain ⟨now, ref, message, current, hlabel⟩ := h
  rw [hlabel] at hstep
  rcases step_iff.1 hstep with ⟨_, -, ⟨⟩⟩ | ⟨e, hp, ⟨⟩, -⟩
  have herror : requestModelVerification now familyRef rev ref x.pre =
      .error (.conflict "model_verification_in_progress" message current) := by
    cases hr : requestModelVerification now familyRef rev ref x.pre with
    | ok a => simp [perform, answer, hr, Except.map] at hp
    | error e => simpa [perform, answer, hr, Except.map] using hp
  obtain ⟨m, v, hm, hv⟩ := requestModelVerification_inProgress herror
  obtain ⟨hmem, hmodel, hopen⟩ := mem_select.1 (List.mem_of_getLast? hv)
  exact ⟨m, hm.current, v, hmem, hmodel, hopen,
    showsOpen_of_currentFor hwf hm.current hmem hmodel hopen⟩

/-- What a history of the registry keeps; `refusal` is what a refused verification tells. -/
structure OnlyVerifiedTrain (refusal : String → Centre → Prop)
    (l : List (Transition Centre Event)) (c : Centre) : Prop where
  verified : ∀ m ∈ c.models, m.status = .verified → VerifiedBy l c m
  past : ∀ x ∈ l, ∀ q v, Accepts x q v → ∀ s ∈ x.pre.revisions, s.revisionRef = v.revisionRef →
    ∀ m ∈ x.pre.models, m.modelRef = v.modelRef → s.revisionNumber ≠ m.currentRevision →
      x.post.models = x.pre.models
  runs : ∀ x ∈ l, ∀ run ∈ x.post.runTables.runs, run.executionMode = .real →
    (∀ old ∈ x.pre.runTables.runs, old.runRef ≠ run.runRef) →
      ∃ m s, TrainsVerified run m s x.pre
  one_open : ∀ v ∈ c.verifications, ∀ w ∈ c.verifications, v.modelRef = w.modelRef →
    v.status.Open → w.status.Open → v = w
  refusals : ∀ x ∈ l, ∀ familyRef rev m, RefusesInProgress x familyRef rev →
    Expected familyRef rev m x.pre → refusal familyRef x.pre

theorem past_report_ignored {q : VerificationReport} (hstep : Step x.pre x.label x.post)
    (hv : Accepts x q v) {s : RevisionRow} (hs : s ∈ x.pre.revisions)
    (href : s.revisionRef = v.revisionRef) (hm : m ∈ x.pre.models)
    (hmodel : m.modelRef = v.modelRef) (hnum : s.revisionNumber ≠ m.currentRevision) :
    x.post.models = x.pre.models := by
  obtain ⟨now, hlabel⟩ := hv.label
  rw [hlabel] at hstep
  rcases step_iff.1 hstep with ⟨r, hp, -⟩ | ⟨_, -, ⟨⟩, -⟩
  have hmove := modelMove_of_perform hp
  generalize ht : x.post.modelTables = t at hmove
  have hmodels : x.post.models = t.models := congrArg ModelTables.models ht
  rw [hmodels]
  cases hmove with
  | same hop => exact absurd trivial hop
  | recorded => rfl
  | @judged _ _ v' m' hq hcurrent =>
    obtain rfl : v' = v :=
      eq_of_key hq.request hv.request (hq.command_ref.trans hv.reference.symm)
    obtain rfl : m = m' := eq_of_key hm hq.model (hmodel.trans hq.model_ref.symm)
    obtain ⟨s', hs', href'⟩ := hcurrent
    obtain ⟨hs', -, hnum'⟩ := revision?_eq_some hs'
    obtain rfl : s = s' := eq_of_key hs hs' (href.trans href'.symm)
    exact absurd hnum' hnum

theorem new_run_verified (hstep : Step x.pre x.label x.post) {run : RunRow}
    (hrun : run ∈ x.post.runTables.runs) (hreal : run.executionMode = .real)
    (hnew : ∀ old ∈ x.pre.runTables.runs, old.runRef ≠ run.runRef) :
    ∃ m s, TrainsVerified run m s x.pre := by
  cases runOrigin_of_step hstep run hrun with
  | kept hmem href => exact absurd href (hnew _ hmem)
  | created _ _ hverified => exact hverified hreal

theorem only_verified_train {registry : Training.Registry} {l : List (Transition Centre Event)}
    {c : Centre} (h : Run Step (.initial registry) l c) : OnlyVerifiedTrain HasOpen l c where
  verified := (witnessed_of_run h).verified
  past := by
    intro x hx q v hv s hs href m hm hmodel hnum
    exact past_report_ignored (h.step_of_mem hx) hv hs href hm hmodel hnum
  runs := fun _ hx _ hrun hreal hnew => new_run_verified (h.step_of_mem hx) hrun hreal hnew
  one_open := fun _ hv _ hw hm hvo hwo => (wf_of_run h).one_open hv hw hm hvo hwo
  refusals := by
    intro x hx familyRef rev m hrefused _
    obtain ⟨l₁, l₂, rfl⟩ := List.append_of_mem hx
    obtain ⟨hpre, hstep, -⟩ := h.split
    exact hasOpen_of_refused (wf_of_run hpre) hstep hrefused

namespace Sample

def template : LaunchTemplate where
  domain := "vla"
  serverRef := "node"
  workingDirectory := "/work"
  executable := "python"
  entrypoint := "train.py"
  outputRoot := "/output/"
  fixedArgv := []
  runtimeEnvironment := none

def model : ModelData where
  familyName := "Family"
  description := none
  launchTemplate := template
  parameterDefinitions := "[]"
  dataAccessMode := none

def token (ref : String) (rev : ℕ) : TokenRequest where
  nodeRef := "node"
  expectedRevision := rev
  expiresInSeconds := 600
  actor := "actor"
  token := ref
  tokenRef := ref

def enrollment (token workerToken : String) : Enrollment where
  enrollmentToken := token
  workerInstanceId := "worker"
  workerVersion := "1"
  protocolVersion := 1
  capabilities := ⟨true, []⟩
  workerToken := workerToken

/-- A node with its Worker. -/
def enrolled : List Op :=
  [.createNode 1 "node" ⟨"Node", none, "address", none, none⟩,
   .createEnrollmentToken 2 (token "token" 1), .enrollNode 3 (enrollment "token" "credential")]

def registry : Training.Registry := ⟨.empty, .empty, .empty, .empty⟩

end Sample

/-- The model is edited while its first revision waits for a Worker. -/
def editedWhileQueued : List Op :=
  Sample.enrolled ++ [.createModel 4 ⟨"family", "model", "revision"⟩ Sample.model,
    .requestVerification 5 "family" 1 "verify", .updateModel 6 "family" 1 "second" Sample.model]

/-- A verification of the second revision. -/
def secondRequest : Op := .requestVerification 7 "family" 2 "again"

theorem refusal_not_shown : ∃ l c, Run Step (.initial Sample.registry) l c ∧
    ¬ OnlyVerifiedTrain ShowsOpen l c := by
  let c := store.final (.initial Sample.registry) editedWhileQueued
  have hrun := store.serve_run (.initial Sample.registry) editedWhileQueued
  refine ⟨_, _, hrun.snoc (store.step_exec c secondRequest), fun h => ?_⟩
  have hcode : (match (store.exec secondRequest c).1 with
      | .error (.conflict code _ _) => some code
      | _ => none) = some "model_verification_in_progress" := by decide +kernel
  have hmodel : ∃ m ∈ currentModel? "family" c, m.currentRevision = 2 := by decide +kernel
  have hhidden : (match getModel "family" c with
      | .ok view => view.verification.isNone
      | .error _ => true) = true := by decide +kernel
  obtain ⟨m, hm, hnum⟩ := hmodel
  have hrefused : RefusesInProgress ⟨c, (secondRequest, (store.exec secondRequest c).1),
      (store.exec secondRequest c).2⟩ "family" 2 := by
    split at hcode
    · next message current he =>
      cases hcode
      exact ⟨7, "again", message, current, congrArg (Prod.mk secondRequest) he⟩
    · cases hcode
  obtain ⟨view, hview, w, hw, -⟩ := h.refusals _ List.mem_concat_self "family" 2 m hrefused
    ⟨hm, hnum⟩
  change getModel "family" c = .ok view at hview
  rw [hview] at hhidden
  simp [Option.mem_def.1 hw] at hhidden

def verifiedRun : List Op :=
  Sample.enrolled ++ [.createModel 4 ⟨"family", "model", "revision"⟩ Sample.model,
    .requestVerification 5 "family" 1 "verify", .claimVerification 6 "node" "worker",
    .finishVerification 7 ⟨"node", "credential", "worker", "verify", true, "[]"⟩,
    .createRun 8 (Training.Sample.creation "real" "run" ["a"])]

theorem only_verified_train_verifiedRun : ∃ l c, Run Step (.initial Sample.registry) l c ∧
    (∃ m ∈ c.models, m.status = .verified) ∧
    (∃ run ∈ c.runTables.runs, run.executionMode = .real) ∧ OnlyVerifiedTrain HasOpen l c := by
  have hverified : ∃ m ∈ (store.final (.initial Sample.registry) verifiedRun).models,
      m.status = .verified := by decide +kernel
  have hreal : ∃ run ∈ (store.final (.initial Sample.registry) verifiedRun).runTables.runs,
      run.executionMode = .real := by decide +kernel
  have hrun := store.serve_run (.initial Sample.registry) verifiedRun
  exact ⟨_, _, hrun, hverified, hreal, only_verified_train hrun⟩

end DataJuicer.TrainingNodes
