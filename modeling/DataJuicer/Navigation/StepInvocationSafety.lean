import DataJuicer.Navigation.StepReadiness

/-! # Plan steps are entered once

However the calls of any number of sessions interleave with each other and with other requests,
the processing function of a step is called at most once, by the call that claimed the step, and
only when the steps before it and its dependencies are completed.
-/

namespace DataJuicer.Navigation

structure InvocationWorld.Known (w : InvocationWorld) : Prop where
  ledger : LedgerSound w.db
  taken : ∀ planId stepId t, w.claimedBy (planId, stepId) = some t → StepTaken w.db planId stepId
  claimed : ∀ key ∈ w.entered, ∃ t, w.claimedBy key = some t
  once : w.entered.Nodup

/-- What a call relies on: its claims stay its own, and no other call enters its steps. -/
structure InvocationRely (t : ℕ) (w w' : InvocationWorld) : Prop where
  known : w.Known → w'.Known
  ready : w.Known → ∀ planId stepId, StepReady w.db planId stepId → StepReady w'.db planId stepId
  own : w.Known → ∀ key, w.claimedBy key = some t → w'.claimedBy key = some t
  entered : w.Known → ∀ key, w.claimedBy key = some t → key ∈ w'.entered → key ∈ w.entered

/-- A call claims steps that are ready, and enters steps that it has claimed. -/
def InvocationGuarantee (t : ℕ) (w : InvocationWorld) : InvokeOp → Prop
  | .enter planId stepId => w.claimedBy (planId, stepId) = some t ∧
      (planId, stepId) ∉ w.entered ∧ StepReady w.db planId stepId
  | .store _ (.claimStep planId stepId _) => StepReady w.db planId stepId
  | _ => True

def invocationContract (t : ℕ) : Contract InvocationWorld InvokeOp.Answer where
  exec := InvocationWorld.exec t
  rely := InvocationRely t
  guar w op _ _ := InvocationGuarantee t w op

/-- What an operation does to the shared state. -/
inductive InvocationChange (t : ℕ) (w : InvocationWorld) :
    (op : InvokeOp) → op.Answer → InvocationWorld → Prop
  | same {op : InvokeOp} (hop : ∀ planId stepId, op ≠ .enter planId stepId) (a : op.Answer) :
      InvocationChange t w op a w
  | served {s : Session} {r : StoreOp} (a : (InvokeOp.store s r).Answer) (request : Op) :
      InvocationChange t w (.store s r) a { w with db := (execute request w.db).2 }
  | claimed {s : Session} {planId stepId action : String} {now : Timestamp} (request : Op)
      (hopen : StepOpen w.db planId stepId)
      (htaken : StepTaken (execute request w.db).2 planId stepId) :
      InvocationChange t w (.store s (.claimStep planId stepId action))
        (some (now, .ok (.claim .claimed))) { w with
          db := (execute request w.db).2
          claimedBy := Function.update w.claimedBy (planId, stepId) (some t) }
  | entered (planId stepId : String) : InvocationChange t w (.enter planId stepId) ()
      { w with entered := w.entered ++ [(planId, stepId)] }

section

variable {t u : ℕ} {w w' : InvocationWorld} {op : InvokeOp} {a : op.Answer}

theorem exec_change (h : w.exec t op a = some w') : InvocationChange t w op a w' := by
  have hsame : (∀ planId stepId, op ≠ .enter planId stepId) → w = w' →
      InvocationChange t w op a w' := by
    rintro hop rfl
    exact .same hop a
  cases op with
  | snapshot =>
    cases a with
    | none => exact hsame (fun _ _ h => nomatch h) (Option.some.inj h)
    | some a => exact hsame (fun _ _ h => nomatch h) (Option.ite_some_none_eq_some.1 h).2
  | terminalizationSnapshot =>
    cases a with
    | none => exact hsame (fun _ _ h => nomatch h) (Option.some.inj h)
    | some a => exact hsame (fun _ _ h => nomatch h) (Option.ite_some_none_eq_some.1 h).2
  | stagedStepResult =>
    cases a with
    | none => exact hsame (fun _ _ h => nomatch h) (Option.some.inj h)
    | some a => exact hsame (fun _ _ h => nomatch h) (Option.ite_some_none_eq_some.1 h).2
  | currentStep =>
    cases a with
    | none => exact hsame (fun _ _ h => nomatch h) (Option.some.inj h)
    | some a => exact hsame (fun _ _ h => nomatch h) (Option.ite_some_none_eq_some.1 h).2
  | cancelled | calibrationInventory | preconditions | evidence | arguments | result =>
    exact hsame (fun _ _ h => nomatch h) (Option.some.inj h)
  | enter planId stepId =>
    obtain rfl := Option.some.inj h
    exact .entered planId stepId
  | store s request =>
    cases a with
    | none => exact hsame (fun _ _ h => nomatch h) (Option.some.inj h)
    | some a =>
      obtain ⟨now, answer⟩ := a
      obtain ⟨hanswer, rfl⟩ := Option.ite_some_none_eq_some.1 h
      cases hclaim : claimedStep? request answer with
      | none => exact .served _ _
      | some key =>
        unfold claimedStep? at hclaim
        split at hclaim
        · obtain rfl := Option.some.inj hclaim
          obtain ⟨hopen, htaken⟩ := execute_claimed hanswer
          exact .claimed _ hopen htaken
        · cases hclaim

theorem InvocationWorld.Known.not_claimed {planId stepId : String} (h : w.Known)
    (hopen : StepOpen w.db planId stepId) : w.claimedBy (planId, stepId) = none := by
  cases hclaim : w.claimedBy (planId, stepId) with
  | none => rfl
  | some t => exact absurd (h.taken planId stepId t hclaim) hopen.not_taken

theorem InvocationWorld.Known.not_entered {planId stepId : String} (h : w.Known)
    (hopen : StepOpen w.db planId stepId) : (planId, stepId) ∉ w.entered := by
  intro hmem
  obtain ⟨t, ht⟩ := h.claimed _ hmem
  rw [h.not_claimed hopen] at ht
  cases ht

theorem InvocationWorld.Known.serve (h : w.Known) (request : Op) :
    InvocationWorld.Known { w with db := (execute request w.db).2 } :=
  ⟨h.ledger.execute request, fun planId stepId t ht => (h.taken planId stepId t ht).execute request,
    h.claimed, h.once⟩

theorem InvocationChange.known (h : InvocationChange t w op a w') (hknown : w.Known)
    (hguarantee : InvocationGuarantee t w op) : w'.Known := by
  cases h with
  | same => exact hknown
  | served _ request => exact hknown.serve request
  | @claimed s planId stepId action now request hopen htaken =>
    have hserved := hknown.serve request
    refine ⟨hserved.ledger, fun planId' stepId' t' ht' => ?_, fun key hkey => ?_, hserved.once⟩
    · by_cases hkey : (planId', stepId') = (planId, stepId)
      · obtain ⟨rfl, rfl⟩ := Prod.mk.inj hkey
        exact htaken
      · dsimp only at ht'
        rw [Function.update_of_ne hkey] at ht'
        exact hserved.taken planId' stepId' t' ht'
    · by_cases hself : key = (planId, stepId)
      · exact ⟨t, by rw [hself]; exact Function.update_self _ _ _⟩
      · obtain ⟨t', ht'⟩ := hserved.claimed key hkey
        exact ⟨t', (Function.update_of_ne hself _ _).trans ht'⟩
  | entered planId stepId =>
    obtain ⟨hown, hfresh, -⟩ := hguarantee
    refine ⟨hknown.ledger, hknown.taken, fun key hkey => ?_, ?_⟩
    · rcases List.mem_append.1 hkey with hkey | hkey
      · exact hknown.claimed key hkey
      · rw [List.mem_singleton.1 hkey]
        exact ⟨t, hown⟩
    · exact List.nodup_append.2 ⟨hknown.once, List.nodup_singleton _, fun a ha b hb =>
        fun hab => hfresh (List.mem_singleton.1 hb ▸ hab ▸ ha)⟩

theorem InvocationChange.ready (h : InvocationChange t w op a w') (hknown : w.Known)
    {planId stepId : String} (hready : StepReady w.db planId stepId) :
    StepReady w'.db planId stepId := by
  cases h with
  | same | entered => exact hready
  | served _ request | claimed request => exact hready.execute hknown.ledger.consistent request

/-- What one call does is what the others may rely on. -/
theorem InvocationChange.rely (h : InvocationChange t w op a w')
    (hguarantee : InvocationGuarantee t w op) (hne : t ≠ u) : InvocationRely u w w' := by
  refine ⟨fun hknown => h.known hknown hguarantee, fun hknown _ _ => h.ready hknown, ?_, ?_⟩
  · intro hknown key hkey
    cases h with
    | same | served | entered => exact hkey
    | @claimed s planId stepId action now request hopen htaken =>
      have hother : key ≠ (planId, stepId) := by
        rintro rfl
        rw [hknown.not_claimed hopen] at hkey
        cases hkey
      exact (Function.update_of_ne hother _ _).trans hkey
  · intro hknown key hkey hmem
    cases h with
    | same | served | claimed => exact hmem
    | entered planId stepId =>
      refine (List.mem_append.1 hmem).resolve_right fun hlast => ?_
      rw [List.mem_singleton.1 hlast, hguarantee.1] at hkey
      exact hne (Option.some.inj hkey)

theorem outside_rely {n : InvocationOutside} (h : w.outside n = some w') :
    InvocationRely t w w' := by
  cases n with
  | serve request =>
    obtain rfl := Option.some.inj h
    exact ⟨fun hknown => hknown.serve request,
      fun hknown _ _ hready => hready.execute hknown.ledger.consistent request,
      fun _ _ hkey => hkey, fun _ _ _ hmem => hmem⟩
  | crash ended =>
    obtain rfl := Option.some.inj h
    exact ⟨id, fun _ _ _ => id, fun _ _ => id, fun _ _ _ => id⟩

end

/-- The operation neither claims nor enters a step. -/
def InvokeOp.Quiet : InvokeOp → Prop
  | .enter _ _ | .store _ (.claimStep _ _ _) => False
  | _ => True

theorem InvokeOp.Quiet.guarantee {op : InvokeOp} (h : op.Quiet) (t : ℕ) (w : InvocationWorld) :
    InvocationGuarantee t w op := by
  unfold InvocationGuarantee
  split
  · exact h.elim
  · exact h.elim
  · trivial

section Quiet

open Prog

theorem perform_quiet {op : InvokeOp} (h : op.Quiet) :
    (InvokeOp.perform op).AllOps InvokeOp.Quiet :=
  ⟨h, fun _ => trivial⟩

theorem orFailed_quiet {α : Type} (a : Option α) : (orFailed a).AllOps InvokeOp.Quiet := by
  cases a <;> trivial

theorem request_quiet (s : Session) {op : StoreOp} (h : (InvokeOp.store s op).Quiet) :
    (request s op).AllOps InvokeOp.Quiet := by
  refine (perform_quiet h).bind fun a => (orFailed_quiet a).bind fun answer => ?_
  obtain ⟨now, e | answer⟩ := answer <;> trivial

theorem evidence_quiet (op : EvidenceOp) : (evidence op).AllOps InvokeOp.Quiet :=
  (perform_quiet (by trivial)).bind fun a => orFailed_quiet a

theorem raiseIfCancelled_quiet : raiseIfCancelled.AllOps InvokeOp.Quiet := by
  refine (perform_quiet (by trivial)).bind fun cancelled => ?_
  cases cancelled <;> trivial

theorem readCurrentStep_quiet (planId : String) :
    (readCurrentStep planId).AllOps InvokeOp.Quiet := by
  refine (perform_quiet (by trivial)).bind fun a => (orFailed_quiet a).bind fun r => ?_
  cases r <;> trivial

theorem terminalError_quiet (planId : String) : (terminalError planId).AllOps InvokeOp.Quiet :=
  (readCurrentStep_quiet planId).bind fun _ => trivial

theorem evidenceFailed_quiet (taskId : String) (written : Bool) (e : InvokeError) :
    (evidenceFailed taskId written e).AllOps InvokeOp.Quiet := by
  unfold evidenceFailed
  cases written with
  | false => trivial
  | true => exact (evidence_quiet _).bind fun _ => trivial

theorem writeEvidence_quiet (taskId resultRef : String) :
    (writeEvidence taskId resultRef).AllOps InvokeOp.Quiet := by
  refine (evidence_quiet _).bind fun there => ?_
  cases there with
  | true => trivial
  | false => exact (evidence_quiet _).bind fun _ => trivial

theorem attachEvidence_quiet (c : StepCall) (resultRef : String) (written : Bool) :
    (attachEvidence c resultRef written).AllOps InvokeOp.Quiet := by
  refine (request_quiet _ (by trivial)).bind fun answer => ?_
  split
  · trivial
  · cases written with
    | false => trivial
    | true => exact (evidence_quiet _).bind fun _ => trivial

theorem finalizeStep_quiet (c : StepCall) (staged : OutboxRow) :
    (finalizeStep c staged).AllOps InvokeOp.Quiet := by
  refine (request_quiet _ (by trivial)).attempt.bind fun answer => ?_
  split
  · split_ifs
    · exact (readCurrentStep_quiet _).bind fun _ => trivial
    · trivial
  · trivial

theorem finalizeStagedResult_quiet (c : StepCall) :
    (finalizeStagedResult c).AllOps InvokeOp.Quiet := by
  refine (perform_quiet (by trivial)).bind fun a => (orFailed_quiet a).bind fun staged => ?_
  cases staged with
  | none => trivial
  | some staged =>
    refine (writeEvidence_quiet _ _).attempt.bind fun written => ?_
    cases written with
    | error e => exact evidenceFailed_quiet _ _ _
    | ok written =>
      refine (attachEvidence_quiet _ _ _).attempt.bind fun attached => ?_
      rcases attached with e | (_ | response)
      · exact evidenceFailed_quiet _ _ _
      · exact finalizeStep_quiet _ _
      · trivial

theorem recoverRunning_quiet (c : StepCall) : (recoverRunning c).AllOps InvokeOp.Quiet := by
  refine (request_quiet _ (by trivial)).attempt.bind fun answer => ?_
  split
  · trivial
  · exact terminalError_quiet _
  · trivial
  · trivial

theorem recordChangedPreconditions_quiet (c : StepCall) :
    (recordChangedPreconditions c).AllOps InvokeOp.Quiet := by
  refine (evidence_quiet _).bind fun _ => (request_quiet _ (by trivial)).attempt.bind
    fun answer => ?_
  split
  · trivial
  · exact (evidence_quiet _).bind fun _ => terminalError_quiet _
  · refine (evidence_quiet _).bind fun _ => ?_
    split_ifs <;> trivial

theorem stageInterrupted_quiet (c : StepCall) : (stageInterrupted c).AllOps InvokeOp.Quiet := by
  refine ((request_quiet c.session (by trivial)).bind fun _ =>
    finalizeStagedResult_quiet c).attempt.bind fun staged => ?_
  cases staged with
  | ok => trivial
  | error => exact (request_quiet _ (by trivial)).bind fun _ => trivial

theorem stagePayload_quiet (c : StepCall) (p : ActionPayload) :
    (stagePayload c p).AllOps InvokeOp.Quiet := by
  refine (request_quiet _ (by trivial)).attempt.bind fun staged => ?_
  cases staged with
  | error => exact (request_quiet _ (by trivial)).bind fun _ => trivial
  | ok =>
    refine (finalizeStagedResult_quiet c).bind fun response => ?_
    split_ifs
    · exact (request_quiet _ (by trivial)).bind fun _ => trivial
    · trivial

theorem notClaimed_quiet (c : StepCall) : (notClaimed c).AllOps InvokeOp.Quiet := by
  refine (perform_quiet (by trivial)).bind fun a => (orFailed_quiet a).bind fun snapshot => ?_
  cases snapshot with
  | none => trivial
  | some => exact terminalError_quiet _

end Quiet

/-- The gate lets a staged result through, or a step that is ready. -/
def Gated (c : StepCall) (snapshot : ExecutionSnapshot) (w : InvocationWorld) : Prop :=
  snapshot.stagedResult.isSome = true ∨ ∀ plan step,
    gateSnapshot c snapshot = .ok (plan, step) → StepReady w.db c.planId c.stepId

def ReadyFor (c : StepCall) (w : InvocationWorld) : Prop :=
  w.Known ∧ StepReady w.db c.planId c.stepId

structure MayEnter (t : ℕ) (c : StepCall) (w : InvocationWorld) : Prop where
  known : w.Known
  ready : StepReady w.db c.planId c.stepId
  own : w.claimedBy (c.planId, c.stepId) = some t
  fresh : (c.planId, c.stepId) ∉ w.entered

section Calls

open Prog

variable {t : ℕ} {c : StepCall} {w w' : InvocationWorld} {α : Type}

theorem stable_known : (invocationContract t).Stable InvocationWorld.Known :=
  fun _ _ h hrely => hrely.known h

theorem stable_gated (c : StepCall) (snapshot : ExecutionSnapshot) :
    (invocationContract t).Stable fun w => w.Known ∧ Gated c snapshot w := by
  rintro w w' ⟨hknown, hgated⟩ hrely
  refine ⟨hrely.known hknown, hgated.imp_right fun h plan step hgate => ?_⟩
  exact hrely.ready hknown _ _ (h plan step hgate)

theorem stable_readyFor : (invocationContract t).Stable (ReadyFor c) :=
  fun _ _ h hrely => ⟨hrely.known h.1, hrely.ready h.1 _ _ h.2⟩

theorem stable_mayEnter : (invocationContract t).Stable (MayEnter t c) :=
  fun _ _ h hrely => ⟨hrely.known h.known, hrely.ready h.known _ _ h.ready,
    hrely.own h.known _ h.own, fun hmem => h.fresh (hrely.entered h.known _ h.own hmem)⟩

/-- An operation that neither claims nor enters keeps what is known, and what is ready. -/
theorem Quiet.exec {op : InvokeOp} (hop : op.Quiet) {a : op.Answer} (h : w.exec t op a = some w')
    (hknown : w.Known) : w'.Known ∧ ∀ planId stepId, StepReady w.db planId stepId →
      StepReady w'.db planId stepId :=
  ⟨(exec_change h).known hknown (hop.guarantee t w), fun _ _ => (exec_change h).ready hknown⟩

theorem quiet_meets {p : InvokeProg α} (hp : p.AllOps InvokeOp.Quiet) (h : w.Known) :
    p.Meets (invocationContract t) (fun _ w => w.Known) w :=
  hp.keeps (fun _ hop _ _ _ hknown hexec => ⟨(Quiet.exec hop hexec hknown).1, hop.guarantee _ _⟩)
    stable_known h

theorem quiet_meets_ready {p : InvokeProg α} (hp : p.AllOps InvokeOp.Quiet) (h : ReadyFor c w) :
    p.Meets (invocationContract t) (fun _ w => ReadyFor c w) w := by
  refine hp.keeps (fun _ hop _ _ _ hready hexec => ⟨?_, hop.guarantee _ _⟩) stable_readyFor h
  obtain ⟨hknown, hkept⟩ := Quiet.exec hop hexec hready.1
  exact ⟨hknown, hkept _ _ hready.2⟩

theorem quiet_end {p : InvokeProg α} (hp : p.AllOps InvokeOp.Quiet) (h : w.Known) :
    p.Meets (invocationContract t) (fun _ _ => True) w :=
  (quiet_meets hp h).mono fun _ _ _ => trivial

theorem runAction_meets (h : MayEnter t c w) :
    (runAction c).Meets (invocationContract t) (fun _ w => w.Known) w := by
  refine meets_act stable_mayEnter h fun w a w' hw hexec => ⟨trivial, ?_⟩
  obtain rfl := Option.some.inj hexec
  cases a with
  | some raised => exact meets_done stable_known hw.known fun _ h => h
  | none =>
    refine meets_act stable_mayEnter hw fun w a w' hw hexec => ⟨trivial, ?_⟩
    obtain rfl := Option.some.inj hexec
    cases a with
    | true => exact meets_done stable_known hw.known fun _ h => h
    | false =>
      refine meets_act stable_mayEnter hw fun w a w' hw hexec => ?_
      have hguarantee : InvocationGuarantee t w (.enter c.planId c.stepId) :=
        ⟨hw.own, hw.fresh, hw.ready⟩
      have hchange : InvocationChange t w (.enter c.planId c.stepId) a w' := exec_change hexec
      exact ⟨hguarantee, quiet_meets (perform_quiet (by trivial))
        (hchange.known hw.known hguarantee)⟩

theorem processClaimed_meets (h : MayEnter t c w) :
    (processClaimed c).Meets (invocationContract t) (fun _ _ => True) w := by
  refine (runAction_meets h).bind (fun result w hw => ?_) fun _ _ _ => trivial
  cases result with
  | cancelled => exact quiet_end (stageInterrupted_quiet c) hw
  | payload p => exact quiet_end (stagePayload_quiet c p) hw

theorem mayEnter_of_claim {now : Timestamp} (h : ReadyFor c w)
    (hexec : w.exec t (.store c.session (.claimStep c.planId c.stepId c.action))
      (some (now, .ok (.claim .claimed))) = some w') : MayEnter t c w' := by
  have hchange := exec_change hexec
  have hknown := hchange.known h.1 h.2
  have hready := hchange.ready h.1 h.2
  obtain ⟨hanswer, rfl⟩ := Option.ite_some_none_eq_some.1 hexec
  obtain ⟨hopen, -⟩ := execute_claimed hanswer
  exact ⟨hknown, hready, Function.update_self _ _ _, h.1.not_entered hopen⟩

theorem claimAndProcess_meets (h : ReadyFor c w) :
    (claimAndProcess c).Meets (invocationContract t) (fun _ _ => True) w := by
  refine meets_act stable_readyFor h fun w a w' hw hexec => ⟨hw.2, ?_⟩
  have hknown := (exec_change hexec).known hw.1 hw.2
  rcases a with _ | ⟨now, e | outcome | b | _⟩
  · exact meets_done stable_known hknown fun _ _ => trivial
  · exact meets_done stable_known hknown fun _ _ => trivial
  · cases outcome with
    | claimed => exact processClaimed_meets (mayEnter_of_claim hw hexec)
    | navigationDataBusy => exact meets_done stable_known hknown fun _ _ => trivial
    | notClaimable => exact quiet_end (notClaimed_quiet c) hknown
  · exact quiet_end (notClaimed_quiet c) hknown
  · exact quiet_end (notClaimed_quiet c) hknown

/-- The snapshot of a call, when it has one, has a staged result or shows whether it is ready. -/
theorem readSnapshot_meets (h : w.Known) :
    (readSnapshot c).Meets (invocationContract t)
      (fun r w => w.Known ∧ ∀ snapshot, r = .ok (some snapshot) → Gated c snapshot w) w := by
  refine meets_act stable_known h fun w a w' hw hexec => ⟨trivial, ?_⟩
  have hknown := (exec_change hexec).known hw trivial
  rcases a with _ | _ | snapshot
  · exact meets_done stable_known hknown fun _ h => ⟨h, fun _ hr => nomatch hr⟩
  · refine meets_act stable_known hknown fun w a w' hw hexec => ⟨trivial, ?_⟩
    have hknown := (exec_change hexec).known hw trivial
    cases a with
    | none => exact meets_done stable_known hknown fun _ h => ⟨h, fun _ hr => nomatch hr⟩
    | some claimed =>
      refine meets_done stable_known hknown fun _ h => ⟨h, fun snapshot hr => .inl ?_⟩
      obtain ⟨hclaimed, -⟩ := Option.filter_eq_some_iff.1 (Except.ok.inj hr)
      obtain ⟨hread, -⟩ := Option.ite_some_none_eq_some.1 hexec
      exact stagedResult_of_terminalization (hread.trans (congrArg Except.ok hclaimed))
  · obtain ⟨hread, rfl⟩ := Option.ite_some_none_eq_some.1 hexec
    have hgated : Gated c snapshot w := .inr fun _ _ hgate => stepReady_of_gate
      hknown.ledger hread hgate
    refine meets_done (stable_gated c snapshot) ⟨hknown, hgated⟩ fun _ h => ⟨h.1, fun _ hr => ?_⟩
    obtain rfl := Option.some.inj (Except.ok.inj hr)
    exact h.2

theorem gateStep_meets (h : w.Known) :
    (gateStep c).Meets (invocationContract t) (fun r w => w.Known ∧ ∀ plan step snapshot,
      r = .ok (.ok (plan, step, snapshot)) →
        snapshot.stagedResult.isSome = true ∨ StepReady w.db c.planId c.stepId) w := by
  refine (readSnapshot_meets h).bind (fun read w hw => ?_)
    fun e w hw => ⟨hw.1, fun _ _ _ hr => nomatch hr⟩
  cases read with
  | none => exact meets_done stable_known hw.1 fun _ h => ⟨h, fun _ _ _ hr => nomatch hr⟩
  | some snapshot =>
    have hgated := hw.2 snapshot rfl
    dsimp only
    cases hgate : gateSnapshot c snapshot with
    | error e => exact meets_done stable_known hw.1 fun _ h => ⟨h, fun _ _ _ hr => nomatch hr⟩
    | ok passed =>
      obtain ⟨plan, step⟩ := passed
      have hdone : ∀ {w : InvocationWorld}, w.Known → Gated c snapshot w →
          (pure (.ok (plan, step, snapshot)) :
            InvokeProg (Except StepResponse (PlanRow × PlanStep × ExecutionSnapshot))).Meets
            (invocationContract t) (fun r w => w.Known ∧ ∀ plan step snapshot,
              r = .ok (.ok (plan, step, snapshot)) → snapshot.stagedResult.isSome = true ∨
                StepReady w.db c.planId c.stepId) w := by
        intro w hknown hgated
        refine meets_done (stable_gated c snapshot) ⟨hknown, hgated⟩ fun w h => ⟨h.1, ?_⟩
        intro plan' step' snapshot' hr
        obtain ⟨-, hpair⟩ := Prod.mk.inj (Except.ok.inj (Except.ok.inj hr))
        obtain ⟨-, rfl⟩ := Prod.mk.inj hpair
        exact h.2.imp_right fun h => h plan step hgate
      dsimp only
      split_ifs
      · refine meets_act (stable_gated c snapshot) ⟨hw.1, hgated⟩ fun w a w' hw hexec =>
          ⟨trivial, ?_⟩
        obtain rfl := Option.some.inj hexec
        rcases a with _ | invalid
        · exact meets_done stable_known hw.1 fun _ h => ⟨h, fun _ _ _ hr => nomatch hr⟩
        · cases invalid with
          | true => exact meets_done stable_known hw.1 fun _ h => ⟨h, fun _ _ _ hr => nomatch hr⟩
          | false => exact hdone hw.1 hw.2
      · exact hdone hw.1 hgated

theorem invokePlanStep_meets (c : StepCall) (h : w.Known) :
    (invokePlanStep c).Meets (invocationContract t) (fun _ _ => True) w := by
  refine (quiet_meets raiseIfCancelled_quiet h).bind (fun _ w hknown => ?_) fun _ _ _ => trivial
  refine (gateStep_meets hknown).bind (fun gate w hw => ?_) fun _ _ _ => trivial
  rcases gate with response | ⟨plan, step, snapshot⟩
  · exact meets_done stable_known hw.1 fun _ _ => trivial
  · dsimp only
    split_ifs with hstaged hrunning
    · exact quiet_end (finalizeStagedResult_quiet c) hw.1
    · exact quiet_end (recoverRunning_quiet c) hw.1
    · have hready : ReadyFor c w := ⟨hw.1, (hw.2 plan step snapshot rfl).resolve_left hstaged⟩
      refine (quiet_meets_ready (perform_quiet (by trivial)) hready).bind (fun a w hw => ?_)
        fun _ _ _ => trivial
      refine (quiet_meets_ready (orFailed_quiet a) hw).bind (fun changed w hw => ?_)
        fun _ _ _ => trivial
      cases changed with
      | true => exact quiet_end (recordChangedPreconditions_quiet c) hw.1
      | false => exact claimAndProcess_meets hw

end Calls

theorem InvocationPool.known_initial (calls : ℕ → StepCall) :
    (InvocationPool.initial calls).shared.Known :=
  ⟨LedgerSound.initial, fun _ _ _ h => (nomatch h), fun _ h => (nomatch h), List.nodup_nil⟩

/-- All calls meet their contracts at the start. -/
theorem calls_sound (calls : ℕ → StepCall) :
    invocationMachine.Sound InvocationRely (fun t w op _ _ => InvocationGuarantee t w op)
      (InvocationPool.initial calls) := by
  intro t q hq
  obtain rfl := Option.some.inj hq
  exact invokePlanStep_meets (calls t) (InvocationPool.known_initial calls)

def Enters (x : InvocationTransition) (t : ℕ) (planId stepId : String) : Prop :=
  x.label = .act t (.enter planId stepId) ()

def Claims (x : InvocationTransition) (t : ℕ) (planId stepId : String) : Prop :=
  ∃ s action now, x.label =
    .act t (.store s (.claimStep planId stepId action)) (some (now, .ok (.claim .claimed)))

def enteredStep? : PoolEvent ℕ InvocationOutside InvokeOp.Answer → Option (String × String)
  | .act _ (.enter planId stepId) _ => some (planId, stepId)
  | _ => none

def ClaimedIn (m : List InvocationTransition) (t : ℕ) (planId stepId : String) : Prop :=
  ∃ y ∈ m, Claims y t planId stepId ∧ StepOpen y.pre.shared.db planId stepId ∧
    StepReady y.pre.shared.db planId stepId

/-- The shared state remembers what was claimed and entered in a run. -/
structure Recorded (m : List InvocationTransition) (p : InvocationPool) : Prop where
  known : p.shared.Known
  entered : p.shared.entered = m.filterMap fun x => enteredStep? x.label
  claimed : ∀ planId stepId t, p.shared.claimedBy (planId, stepId) = some t →
    ClaimedIn m t planId stepId

theorem calls_guarantee {calls : ℕ → StepCall} {p : InvocationPool}
    {xs : List InvocationTransition}
    (h : Run invocationMachine.Step (InvocationPool.initial calls) xs p) :
    ∀ x ∈ xs, ∀ t op a, x.label = .act t op a → InvocationGuarantee t x.pre.shared op :=
  (calls_sound calls).run h (fun _ _ _ _ _ _ hne hexec hguarantee =>
    (exec_change hexec).rely hguarantee hne) fun _ _ _ _ _ hout => outside_rely hout

theorem ClaimedIn.mono {m m' : List InvocationTransition} {t : ℕ} {planId stepId : String}
    (h : ClaimedIn m t planId stepId) (hsub : m ⊆ m') : ClaimedIn m' t planId stepId := by
  obtain ⟨y, hy, hclaim⟩ := h
  exact ⟨y, hsub hy, hclaim⟩

section

variable {t u : ℕ} {w w' : InvocationWorld} {op : InvokeOp} {a : op.Answer}

theorem InvocationChange.entered_eq (h : InvocationChange t w op a w') :
    w'.entered = w.entered ++ (enteredStep? (.act t op a)).toList := by
  cases h with
  | same hop =>
    have hnone : enteredStep? (.act t op a) = none := by
      unfold enteredStep?
      split
      · next planId stepId _ heq =>
        cases heq
        exact absurd rfl (hop planId stepId)
      · rfl
    rw [hnone]
    exact (List.append_nil _).symm
  | served | claimed => exact (List.append_nil _).symm
  | entered => rfl

theorem InvocationChange.claimedBy_cases (h : InvocationChange t w op a w') {planId stepId : String}
    (hclaim : w'.claimedBy (planId, stepId) = some u) :
    w.claimedBy (planId, stepId) = some u ∨ u = t ∧ StepOpen w.db planId stepId ∧
      ∃ s action now, (.act t op a : PoolEvent ℕ InvocationOutside InvokeOp.Answer) =
        .act t (.store s (.claimStep planId stepId action))
          (some (now, .ok (.claim .claimed))) := by
  cases h with
  | same | served | entered => exact .inl hclaim
  | @claimed s planId' stepId' action now request hopen =>
    by_cases hkey : (planId, stepId) = (planId', stepId')
    · obtain ⟨rfl, rfl⟩ := Prod.mk.inj hkey
      have hself := (Function.update_self (planId, stepId) (some t) w.claimedBy).symm.trans hclaim
      exact .inr ⟨(Option.some.inj hself).symm, hopen, s, action, now, rfl⟩
    · exact .inl ((Function.update_of_ne hkey (some t) w.claimedBy).symm.trans hclaim)

end

theorem Recorded.step {m : List InvocationTransition} {x : InvocationTransition}
    (h : Recorded m x.pre) (hstep : invocationMachine.Step x.pre x.label x.post)
    (hguarantee : ∀ t op a, x.label = .act t op a → InvocationGuarantee t x.pre.shared op) :
    Recorded (m ++ [x]) x.post := by
  have hkept : ∀ planId stepId t, x.pre.shared.claimedBy (planId, stepId) = some t →
      ClaimedIn (m ++ [x]) t planId stepId :=
    fun _ _ _ hclaim => (h.claimed _ _ _ hclaim).mono (List.subset_append_left m [x])
  have hlast : (m ++ [x]).filterMap (fun x => enteredStep? x.label) =
      x.pre.shared.entered ++ (enteredStep? x.label).toList := by
    rw [List.filterMap_append, h.entered]
    cases hx : enteredStep? x.label <;> simp [hx]
  obtain ⟨pre, label, post⟩ := x
  cases label with
  | outside n =>
    obtain ⟨hout, -⟩ := Machine.step_outside_iff.1 hstep
    have hknown := (outside_rely (t := 0) hout).known h.known
    have hsame : post.shared.entered = pre.shared.entered ∧
        post.shared.claimedBy = pre.shared.claimedBy := by
      cases n with
      | serve request => exact Option.some.inj hout ▸ ⟨rfl, rfl⟩
      | crash ended => exact Option.some.inj hout ▸ ⟨rfl, rfl⟩
    refine ⟨hknown, ?_, fun planId stepId t hclaim => hkept planId stepId t ?_⟩
    · rw [hlast, hsame.1]
      exact (List.append_nil _).symm
    · rw [← hsame.2]
      exact hclaim
  | act t op a =>
    obtain ⟨-, -, hexec, -⟩ := Machine.step_act_iff.1 hstep
    have hchange := exec_change hexec
    have hop := hguarantee t op a rfl
    refine ⟨hchange.known h.known hop, ?_, fun planId stepId u hclaim => ?_⟩
    · rw [hlast]
      exact hchange.entered_eq
    · rcases hchange.claimedBy_cases hclaim with hclaim | ⟨rfl, hopen, s, action, now, hlabel⟩
      · exact hkept planId stepId u hclaim
      · refine ⟨_, List.mem_append_right m List.mem_cons_self, ⟨s, action, now, hlabel⟩, hopen, ?_⟩
        cases hlabel
        exact hop

/--
A step is entered at most once, however calls and requests interleave, and it is entered by the
call that claimed it, when it was ready and its plan was active.
-/
theorem plan_steps_entered_once {calls : ℕ → StepCall} {p : InvocationPool}
    {xs : List InvocationTransition}
    (h : Run invocationMachine.Step (InvocationPool.initial calls) xs p) :
    (xs.filterMap fun x => enteredStep? x.label).Nodup ∧
      ∀ before x after, xs = before ++ x :: after → ∀ t planId stepId, Enters x t planId stepId →
        StepReady x.pre.shared.db planId stepId ∧ ClaimedIn before t planId stepId := by
  have hrecorded : ∀ {m q}, Run invocationMachine.Step (InvocationPool.initial calls) m q →
      Recorded m q := by
    intro m q hrun
    refine hrun.history ⟨InvocationPool.known_initial calls, rfl, fun _ _ _ hc => nomatch hc⟩ ?_
    intro m x hpre hq hstep
    exact hq.step hstep (calls_guarantee (hpre.snoc hstep) x List.mem_concat_self)
  constructor
  · have hp := hrecorded h
    rw [← hp.entered]
    exact hp.known.once
  · rintro before x after rfl t planId stepId henters
    obtain ⟨hpre, -, -⟩ := h.split
    have hmem : x ∈ before ++ x :: after := List.mem_append_right _ List.mem_cons_self
    obtain ⟨hown, -, hready⟩ := calls_guarantee h x hmem t _ _ henters
    exact ⟨hready, (hrecorded hpre).claimed planId stepId t hown⟩

namespace RaceSample

def calls (_ : ℕ) : StepCall :=
  ⟨⟨some "web-a", some "agent-a"⟩, "a", "p", "confirm", "confirm_navigation_calibration_params"⟩

def activated : NavigationDb := stores.final .initial Sample.setup

def upToClaim (t : ℕ) : List (PoolEvent ℕ InvocationOutside InvokeOp.Answer) :=
  [.act t .cancelled false,
    .act t (.snapshot (calls t).session (some "a"))
      (readExecutionSnapshot activated (calls t).session (some "a")).toOption,
    .act t (.calibrationInventory "p") (some false),
    .act t (.preconditions "p" "confirm") (some false)]

def claim (t : ℕ) (now : Timestamp) (outcome : StepClaimOutcome) :
    PoolEvent ℕ InvocationOutside InvokeOp.Answer :=
  .act t (.store (calls t).session
    (.claimStep "p" "confirm" "confirm_navigation_calibration_params"))
    (some (now, .ok (.claim outcome)))

/-- Two calls pass the gate before one of them claims the step. -/
def race : List (PoolEvent ℕ InvocationOutside InvokeOp.Answer) :=
  Sample.setup.map (fun op => .outside (.serve op)) ++ upToClaim 0 ++ upToClaim 1 ++
    [claim 1 2 .claimed, claim 0 3 .notClaimable, .act 1 (.arguments "p" "confirm") none,
      .act 1 .cancelled false, .act 1 (.enter "p" "confirm") ()]

theorem plan_steps_entered_once_race : ∃ xs p,
    Run invocationMachine.Step (InvocationPool.initial calls) xs p ∧
      ∃ before x after t, xs = before ++ x :: after ∧ Enters x t "p" "confirm" ∧
        StepReady x.pre.shared.db "p" "confirm" ∧ ClaimedIn before t "p" "confirm" := by
  have hplayed : ((invocationMachine.play (InvocationPool.initial calls) race).map fun out =>
      out.1.filterMap fun x => enteredStep? x.label) = some [("p", "confirm")] := by
    decide +kernel
  obtain ⟨⟨xs, p⟩, hplay, hentered⟩ := Option.map_eq_some_iff.1 hplayed
  have hrun := Machine.run_of_play hplay
  have hmem : ("p", "confirm") ∈ xs.filterMap fun x => enteredStep? x.label := by
    rw [hentered]
    exact List.mem_cons_self
  obtain ⟨x, hx, hlabel⟩ := List.mem_filterMap.1 hmem
  obtain ⟨before, after, hxs⟩ := List.append_of_mem hx
  obtain ⟨t, henters⟩ : ∃ t, Enters x t "p" "confirm" := by
    unfold enteredStep? at hlabel
    split at hlabel
    · next t planId stepId _ heq =>
      obtain ⟨rfl, rfl⟩ := Prod.mk.inj (Option.some.inj hlabel)
      exact ⟨t, heq⟩
    · cases hlabel
  obtain ⟨hready, hclaimed⟩ :=
    (plan_steps_entered_once hrun).2 before x after hxs t "p" "confirm" henters
  exact ⟨xs, p, hrun, before, x, after, t, hxs, henters, hready, hclaimed⟩

end RaceSample

end DataJuicer.Navigation
