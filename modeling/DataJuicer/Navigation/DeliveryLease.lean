import DataJuicer.Navigation.HandoffMoves

/-! # At most one delivery under a lease

A decision is staged once for its step, so a delivery is claimed again only after it was given
back with the current token. A handoff that a request anchor stands for is never claimed, but
when it is consumed and acknowledged the decision of its step can still be staged and claimed.
-/

namespace DataJuicer.Navigation

open Table Transaction

/-- The two status columns of a handoff agree. -/
def HandoffRow.Agrees (h : HandoffRow) : Prop :=
  (h.status = .recoveryRequired ↔ h.deliveryStatus = .recoveryRequired) ∧
    (h.status = .quarantined ↔ h.deliveryStatus = .quarantined)

/-- The decision was staged, and its delivery is not over. -/
def HandoffRow.Open (h : HandoffRow) : Prop :=
  h.deliveryStatus = .pending ∨ h.deliveryStatus = .delivering

/-- A step that is never started again. -/
def StepStatus.Settled (s : StepStatus) : Prop := s = completed ∨ s = failed ∨ s = needsReplan

def DecisionSpent (db : NavigationDb) (planId stepId : String) : Prop :=
  ∃ s ∈ db.steps, s.Is planId stepId ∧ (s.status.Settled ∨
    (∃ o ∈ db.outbox, o.planId = planId ∧ o.stepId = stepId) ∨
    ∀ p ∈ db.plans, p.planId = planId → p.status ≠ .active)

variable {db db' mid : NavigationDb} {op : Op} {planId stepId : String} {r : Reply}

theorem StepStatus.Settled.not_expectable {s : StepStatus} (h : s.Settled) : ¬ s.Expectable := by
  rcases h with rfl | rfl | rfl <;> rintro (h | h | h) <;> cases h

theorem StepWrite.settled (hc : Consistent db) {s : StepRow} {st : StepStatus}
    (h : StepWrite db op s st) (hs : s.status.Settled) : st.Settled := by
  cases h with
  | claimed h => exact absurd (.inr (.inl h.pending)) hs.not_expectable
  | waited h => exact absurd (.inr (.inl h.at_pending.2.2.2)) hs.not_expectable
  | resumed h => exact absurd (.inr (.inr h.waiting)) hs.not_expectable
  | workflowWaited h =>
    rcases h.status with h | h
    · exact absurd (.inr (.inl h)) hs.not_expectable
    · exact absurd (.inl h) hs.not_expectable
  | finished h => exact absurd (hc.outbox_expected _ h.staged_mem _ h.expected) hs.not_expectable
  | recovered | replanned | terminalized | quarantined => exact .inr (.inr rfl)
  | reset => exact .inr (.inl rfl)

/-- A staged result is kept, or its step is settled, or its plan is given up. -/
theorem LedgerMove.outbox_post {l : Ledger} (hc : Consistent db) (h : LedgerMove db op l)
    {o : OutboxRow} (ho : o ∈ db.outbox) {s : StepRow} (hs : s ∈ l.steps)
    (hid : s.Is o.planId o.stepId) (htask : s.taskId = o.taskId) :
    (∃ o' ∈ l.outbox, o'.planId = o.planId ∧ o'.stepId = o.stepId) ∨ s.status.Settled ∨
      ∀ p ∈ db.plans, p.planId = o.planId → p.status ≠ .active := by
  have hkept : ∀ (q : OutboxRow → Prop) [DecidablePred q], o ∈ db.outbox.delete q ∨ q o := by
    intro q _
    by_cases hq : q o
    · exact .inr hq
    · exact .inl (mem_delete.2 ⟨ho, hq⟩)
  cases h with
  | same | activated | invalidated | claimed | waited | resumed | workflowWaited | recovered
  | replanned | terminalized | acknowledged | handoffUpdated | anchored =>
    exact .inl ⟨o, ho, rfl, rfl⟩
  | staged _ _ _ _ _ houtbox => exact .inl ⟨o, (mem_insert? houtbox).2 (.inl ho), rfl, rfl⟩
  | handoffStaged _ _ _ _ _ houtbox =>
    exact .inl ⟨o, (mem_insert? houtbox).2 (.inl ho), rfl, rfl⟩
  | attached =>
    refine .inl ⟨_, List.mem_map.2 ⟨o, ho, rfl⟩, ?_⟩
    split_ifs <;> exact ⟨rfl, rfl⟩
  | @deleted call taskId rev hnone =>
    have hkept := hkept fun r => r.taskId = taskId ∨ ∃ p ∈ db.plans, p.taskId = taskId ∧
      p.planId = r.planId
    rcases hkept with hkept | hgone | ⟨p, hp, hptask, hpid⟩
    · exact .inl ⟨o, hkept, rfl, rfl⟩
    · exact absurd (htask.trans hgone) (hnone s hs)
    · obtain ⟨q, hq, hqid, hqtask, _⟩ := hc.step_plan s hs
      obtain rfl := eq_of_key hp hq (hpid.trans (hid.1.symm.trans hqid.symm))
      exact absurd (hqtask.symm.trans hptask) (hnone s hs)
  | @reset now date resetRef =>
    rcases hkept fun r => r.taskId ∈ nonterminalTaskIds db date with hkept | hids
    · exact .inl ⟨o, hkept, rfl, rfl⟩
    · refine .inr ?_
      obtain ⟨r, hr, rfl⟩ := List.mem_map.1 hs
      split_ifs at hid htask ⊢ with hmoved
      · exact .inl (.inr (.inl rfl))
      · by_cases hdone : r.status = .completed
        · exact .inl (.inl hdone)
        · refine .inr fun p hp hpid hactive => hmoved ⟨htask ▸ hids, hdone, p, hp, ?_, hactive⟩
          exact hpid.trans hid.1.symm
  | @finished call planId stepId action v staged h l hl =>
    have hsteps : l.steps = (db.ledger.finish staged call.now).steps := by
      rcases hl with ⟨rfl, _⟩ | ⟨rfl, _⟩ <;> rfl
    have houtbox : l.outbox = db.outbox := by rcases hl with ⟨rfl, _⟩ | ⟨rfl, _⟩ <;> rfl
    rcases hkept fun r => r.planId = planId ∧ r.stepId = stepId with hkept | hown
    · refine .inl ⟨o, ?_, rfl, rfl⟩
      unfold Ledger.removeOutbox
      rw [houtbox]
      exact hkept
    · have hs : s ∈ l.steps := hs
      rw [hsteps] at hs
      obtain ⟨r, hr, rfl⟩ := List.mem_map.1 hs
      split_ifs at hid ⊢ with hfin
      · refine .inr (.inl ?_)
        change staged.targetStatus.toStep.Settled
        cases staged.targetStatus
        · exact .inl rfl
        · exact .inr (.inl rfl)
      · refine absurd ?_ hfin
        exact ⟨hid.1.trans (hown.1.trans h.staged_id.1.symm),
          hid.2.trans (hown.2.trans h.staged_id.2.symm)⟩
  | @quarantined now web planId stepId reason h hq =>
    rcases hkept fun r => r.planId = h.planId ∧ r.stepId = h.stepId with hkept | hown
    · exact .inl ⟨o, hkept, rfl, rfl⟩
    · have hs : s ∈ (db.ledger.stepsNeedReplan h.planId now).steps := hs
      obtain ⟨r, hr, rfl⟩ := List.mem_map.1 hs
      refine .inr (.inl ?_)
      split_ifs at hid ⊢ with hmoved
      · exact .inr (.inr rfl)
      · exact .inl (by_contra fun h => hmoved ⟨hid.1.trans hown.1, h⟩)

theorem DecisionSpent.commit (hc : Consistent db) (hspent : DecisionSpent db planId stepId)
    (h : Commits db op db') : DecisionSpent db' planId stepId := by
  obtain ⟨s, hs, hid, hcase⟩ := hspent
  have hrows := h.ledger.rowsMove
  obtain ⟨s', hs', hsame, hmove⟩ := hrows.step_post hs
  have hid' : s'.Is planId stepId := ⟨hsame.planId.trans hid.1, hsame.stepId.trans hid.2⟩
  have hclosed : (∀ p ∈ db.plans, p.planId = planId → p.status ≠ .active) →
      ∀ p ∈ db'.plans, p.planId = planId → p.status ≠ .active := by
    intro hclosed p' hp' hpid hactive
    rcases hrows.active_pre hp' hactive with ⟨p, hp, hpsame, hpactive⟩ | ha
    · exact hclosed p hp (hpsame.planId.symm.trans hpid) hpactive
    · obtain ⟨p, hp, hpof⟩ := hc.step_plan s hs
      cases ha with
      | intro _ _ _ _ hrecord hnew =>
        rw [hrecord] at hpid
        exact hnew p hp (hpof.1.trans (hid.1.trans hpid.symm))
  refine ⟨s', hs', hid', ?_⟩
  rcases hcase with hsettled | ⟨o, ho, hoid⟩ | hplan
  · rcases hmove with heq | hw
    · exact .inl (heq ▸ hsettled)
    · exact .inl (hw.settled hc hsettled)
  · obtain ⟨s₁, hs₁, hid₁, htask⟩ := hc.outbox_step o ho
    obtain rfl := eq_of_key hs hs₁ (Prod.ext (hid.1.trans (hoid.1.symm.trans hid₁.1.symm))
      (hid.2.trans (hoid.2.symm.trans hid₁.2.symm)))
    rcases h.ledger.outbox_post hc ho hs' ⟨hid'.1.trans hoid.1.symm, hid'.2.trans hoid.2.symm⟩
      (hsame.taskId.trans htask) with ⟨o', ho', hoid'⟩ | hsettled | hplan
    · exact .inr (.inl ⟨o', ho', hoid'.1.trans hoid.1, hoid'.2.trans hoid.2⟩)
    · exact .inl hsettled
    · exact .inr (.inr (hclosed (hoid.1 ▸ hplan)))
  · exact .inr (.inr (hclosed hplan))

theorem stageHumanDecisionHandoff_created {call : Call} {d : HumanDecision}
    (h : stageHumanDecisionHandoff call planId stepId d db = .ok (.created, db')) :
    db.handoffs.find? (planId, stepId) = none ∧ ¬ DecisionSpent db planId stepId ∧
      DecisionSpent db' planId stepId := by
  obtain ⟨_, _, h⟩ := bind_eq_ok.1 h
  obtain ⟨_, _, h⟩ := bind_eq_ok.1 h
  obtain ⟨_, _, h⟩ := bind_eq_ok.1 h
  obtain ⟨_, _, h⟩ := bind_eq_ok.1 h
  split at h
  · split_ifs at h <;> cases h
  · rename_i hnone
    split at h
    · cases h
    · rename_i v hv
      obtain ⟨hv, _, hactive⟩ := confirmationView?_joins hv
      split_ifs at h with hstatus
      · cases h
      · simp only [not_and_or, not_not] at hstatus
        obtain ⟨ref, _, h⟩ := bind_eq_ok.1 h
        obtain ⟨d₁, hd₁, h⟩ := bind_eq_ok.1 h
        obtain ⟨d₂, hd₂, h⟩ := bind_eq_ok.1 h
        cases h
        obtain ⟨handoffs, hhandoffs, rfl⟩ := Option.map_eq_some_iff.1 (constrained_eq_ok.1 hd₁)
        obtain ⟨outbox, houtbox, rfl⟩ := Option.map_eq_some_iff.1 (constrained_eq_ok.1 hd₂)
        refine ⟨hnone, ?_, v.step, hv.step_mem, ⟨hv.step_planId, hv.step_stepId⟩, .inr (.inl ?_)⟩
        · rintro ⟨s, hs, hid, hsettled | ⟨o, ho, hoid⟩ | hclosed⟩
          · rw [hv.eq_step hs hid] at hsettled
            exact hsettled.not_expectable (.inr hstatus)
          · refine insert?_fresh houtbox o ho (Prod.ext ?_ ?_)
            · exact hoid.1.trans hv.step_planId.symm
            · exact hoid.2.trans hv.step_stepId.symm
          · exact hclosed _ hv.plan_mem hv.plan_planId hactive
        · exact ⟨_, (mem_insert? houtbox).2 (.inr rfl), hv.step_planId, hv.step_stepId⟩

/-- What a request does to the handoff of a step, whether it commits or raises. -/
theorem HandoffMove.of_step {e : Event} (hc : Consistent db) (h : Step db e db') :
    HandoffMove planId stepId e (db.handoffs.find? (planId, stepId))
      (db'.handoffs.find? (planId, stepId)) := by
  obtain ⟨op, reply⟩ := e
  rcases step_iff.1 h with ⟨r, hr, hreply⟩ | ⟨_, _, _, hkeep⟩
  · obtain rfl := hreply
    exact perform_handoff hc hr
  · rw [hkeep]
    exact .kept _

theorem decisionStaged_created {e : Event} (h : Step db e db')
    (he : DecisionStaged planId stepId e) :
    db.handoffs.find? (planId, stepId) = none ∧ ¬ DecisionSpent db planId stepId ∧
      DecisionSpent db' planId stepId := by
  obtain ⟨op, reply⟩ := e
  rcases step_iff.1 h with ⟨r, hr, hreply⟩ | ⟨_, _, hreply, _⟩
  · obtain rfl := hreply
    unfold DecisionStaged at he
    split at he
    · rename_i heq
      obtain ⟨rfl, rfl⟩ := he
      cases heq
      obtain ⟨a, ha, hanswer⟩ := answer_eq_ok.1 hr
      cases hanswer
      exact stageHumanDecisionHandoff_created ha
    · exact he.elim
  · obtain rfl := hreply
    unfold DecisionStaged at he
    split at he
    · rename_i heq
      cases heq
    · exact he.elim

theorem deliveryClaimed_claimed {e : Event} {token : String} (h : Step db e db')
    (he : DeliveryClaimed planId stepId token e) :
    ∃ h h', db.handoffs.find? (planId, stepId) = some h ∧ h.Claimable ∧
      db'.handoffs.find? (planId, stepId) = some h' ∧ h'.status = .pending ∧
      h'.deliveryStatus = .delivering ∧ h'.deliveryToken = some token := by
  obtain ⟨op, reply⟩ := e
  unfold DeliveryClaimed at he
  split at he
  · rename_i heq
    obtain ⟨rfl, rfl, rfl⟩ := he
    cases heq
    rcases step_iff.1 h with ⟨r, hr, hreply⟩ | ⟨_, _, hreply, _⟩
    · cases hreply
      obtain ⟨a, ha, hanswer⟩ := answer_eq_ok.1 hr
      cases hanswer
      exact claimHumanDecisionDelivery_claimed ha
    · cases hreply
  · exact he.elim

structure HandoffSound (db : NavigationDb) (planId stepId : String) : Prop where
  agrees : ∀ h, db.handoffs.find? (planId, stepId) = some h → h.Agrees
  spent : ∀ h, db.handoffs.find? (planId, stepId) = some h → h.Open →
    DecisionSpent db planId stepId

theorem HandoffRow.Claimable.pending {h : HandoffRow} (hfree : h.Claimable) (hagrees : h.Agrees) :
    h.deliveryStatus = .pending := by
  obtain ⟨hst, hdelivered, hdelivering⟩ := hfree
  cases hd : h.deliveryStatus with
  | pending => rfl
  | delivering => exact absurd hd hdelivering
  | delivered => exact absurd hd hdelivered
  | recoveryRequired => rw [hagrees.1.2 hd] at hst; cases hst
  | quarantined => rw [hagrees.2.2 hd] at hst; cases hst

theorem DecisionSpent.step {e : Event} (hc : Consistent db)
    (hspent : DecisionSpent db planId stepId) (h : Step db e db') :
    DecisionSpent db' planId stepId := by
  rcases step_iff.1 h with ⟨r, hr, _⟩ | ⟨_, _, _, hkeep⟩
  · exact hspent.commit hc (perform_commits hr)
  · rw [hkeep]
    exact hspent

theorem HandoffSound.step {e : Event} (hc : Consistent db) (hs : HandoffSound db planId stepId)
    (h : Step db e db') : HandoffSound db' planId stepId := by
  have hmove : HandoffMove planId stepId e _ _ := HandoffMove.of_step hc h
  generalize hpre : db.handoffs.find? (planId, stepId) = pre at hmove
  constructor
  · intro h' hpost
    rw [hpost] at hmove
    cases hmove with
    | kept => exact hs.agrees h' hpre
    | staged _ hst hd => unfold HandoffRow.Agrees; rw [hst, hd]; decide
    | anchored hst hd => unfold HandoffRow.Agrees; rw [hst, hd]; decide
    | claimed _ _ hst hd _ => unfold HandoffRow.Agrees; rw [hst, hd]; decide
    | recovering _ hst hd => unfold HandoffRow.Agrees; rw [hst, hd]; decide
    | quarantined hst hd => unfold HandoffRow.Agrees; rw [hst, hd]; decide
    | @returned h _ _ _ hst hd _ hd' =>
      have hagrees := hs.agrees h hpre
      unfold HandoffRow.Agrees at hagrees ⊢
      rw [hst, hd']
      simpa [hd] using hagrees
    | @delivered h _ hst hd' =>
      rcases hst with hst | ⟨hst, hd⟩
      · unfold HandoffRow.Agrees
        rw [hst, hd']
        decide
      · have hagrees := hs.agrees h hpre
        unfold HandoffRow.Agrees at hagrees ⊢
        rw [hst, hd']
        simpa [hd] using hagrees
  · intro h' hpost hopen
    rw [hpost] at hmove
    cases hmove with
    | kept => exact (hs.spent h' hpre hopen).step hc h
    | staged he => exact (decisionStaged_created h he).2.2
    | claimed _ hfree =>
      exact (hs.spent _ hpre (.inl (hfree.pending (hs.agrees _ hpre)))).step hc h
    | returned _ _ hd => exact (hs.spent _ hpre (.inr hd)).step hc h
    | anchored _ hd | recovering _ _ hd | quarantined _ hd | delivered _ hd =>
      rcases hopen with hopen | hopen <;> rw [hd] at hopen <;> cases hopen

theorem HandoffSound.of_run {l : List (Transition NavigationDb Event)}
    (h : Run Step .initial l db) (planId stepId : String) :
    HandoffSound db planId stepId ∧ ∀ x ∈ l, HandoffSound x.pre planId stepId := by
  let inv := fun d : NavigationDb => HandoffSound d planId stepId
  have hstart : inv .initial := by
    constructor <;> intro _ hfind <;> cases hfind
  have hok : ∀ x ∈ l, Consistent x.pre := fun x hx => ((Consistent.of_run h).2 x hx).1
  have hstep : ∀ x : Transition NavigationDb Event, inv x.pre → Consistent x.pre →
      Step x.pre x.label x.post → inv x.post := fun _ hs hc hx => hs.step hc hx
  obtain ⟨hlast, hall⟩ := h.invariant hstart hok hstep
  exact ⟨hlast, fun x hx => (hall x hx).1⟩

section Segments

variable {m : List (Transition NavigationDb Event)} {token : String}

def SoundSteps (m : List (Transition NavigationDb Event)) (planId stepId : String) : Prop :=
  ∀ x ∈ m, Consistent x.pre ∧ HandoffSound x.pre planId stepId

theorem handoff_invariant (inv : Option HandoffRow → Prop) (h : Run Step mid m db)
    (hm : SoundSteps m planId stepId) (hstart : inv (mid.handoffs.find? (planId, stepId)))
    (hmove : ∀ x ∈ m, ∀ pre post, HandoffMove planId stepId x.label pre post →
      (∀ r, pre = some r → r.Agrees) → inv pre → inv post) :
    inv (db.handoffs.find? (planId, stepId)) := by
  let good := fun d : NavigationDb => inv (d.handoffs.find? (planId, stepId))
  have hstep : ∀ x : Transition NavigationDb Event, good x.pre → x ∈ m →
      Step x.pre x.label x.post → good x.post := by
    intro x hinv hmem hx
    obtain ⟨hc, hs⟩ := hm x hmem
    exact hmove x hmem _ _ (HandoffMove.of_step hc hx) hs.agrees hinv
  exact (h.invariant hstart (fun _ hx => hx) hstep).1

theorem never_staged (h : Run Step mid m db) (hm : SoundSteps m planId stepId)
    (hspent : DecisionSpent mid planId stepId) :
    ∀ x ∈ m, ¬ DecisionStaged planId stepId x.label := by
  let spent := fun d : NavigationDb => DecisionSpent d planId stepId
  have hstep : ∀ x : Transition NavigationDb Event, spent x.pre → Consistent x.pre →
      Step x.pre x.label x.post → spent x.post := fun _ hspent hc hx => hspent.step hc hx
  obtain ⟨_, hall⟩ := h.invariant hspent (fun x hx => (hm x hx).1) hstep
  exact fun x hx he => (decisionStaged_created (h.step_of_mem hx) he).2.1 (hall x hx).1

theorem token_kept (h : Run Step mid m db) (hm : SoundSteps m planId stepId)
    (hclaim : ∀ x ∈ m, ∀ t, ¬ DeliveryClaimed planId stepId t x.label)
    (hheld : ∀ r, mid.handoffs.find? (planId, stepId) = some r → r.deliveryStatus = .delivering →
      r.deliveryToken = some token) :
    ∀ r, db.handoffs.find? (planId, stepId) = some r → r.deliveryStatus = .delivering →
      r.deliveryToken = some token := by
  refine handoff_invariant (fun row => ∀ r, row = some r → r.deliveryStatus = .delivering →
    r.deliveryToken = some token) h hm hheld ?_
  rintro x hx pre _ hmove _ hinv r rfl hd
  cases hmove with
  | kept => exact hinv r rfl hd
  | claimed he => exact absurd he (hclaim x hx _)
  | staged _ _ hd' | anchored _ hd' | returned _ _ _ _ hd' | delivered _ hd'
  | recovering _ _ hd' | quarantined _ hd' => rw [hd] at hd'; cases hd'

/-- Unless it is returned, a delivery that was claimed never becomes free. -/
theorem claimed_kept (h : Run Step mid m db) (hm : SoundSteps m planId stepId)
    (hclaim : ∀ x ∈ m, ∀ t, ¬ DeliveryClaimed planId stepId t x.label)
    (hreturn : ∀ x ∈ m, ¬ DeliveryReturned planId stepId token x.label)
    (hspent : DecisionSpent mid planId stepId)
    (hheld : ∀ r, mid.handoffs.find? (planId, stepId) = some r → r.deliveryStatus ≠ .pending ∧
      (r.deliveryStatus = .delivering → r.deliveryToken = some token)) :
    ∀ r, db.handoffs.find? (planId, stepId) = some r → r.deliveryStatus ≠ .pending := by
  have hstaged := never_staged h hm hspent
  have hkept := handoff_invariant (fun row => ∀ r, row = some r →
    r.deliveryStatus ≠ .pending ∧ (r.deliveryStatus = .delivering → r.deliveryToken = some token))
    h hm hheld ?_
  · exact fun r hr => (hkept r hr).1
  rintro x hx pre _ hmove _ hinv r rfl
  cases hmove with
  | kept => exact hinv r rfl
  | staged he => exact absurd he (hstaged x hx)
  | claimed he => exact absurd he (hclaim x hx _)
  | returned he _ hd ht =>
    have heq := Option.some.inj (ht.symm.trans ((hinv _ rfl).2 hd))
    exact absurd (heq ▸ he) (hreturn x hx)
  | anchored _ hd | delivered _ hd | recovering _ _ hd | quarantined _ hd =>
    rw [hd]
    exact ⟨by decide, fun h => by cases h⟩

theorem closed_kept (h : Run Step mid m db) (hm : SoundSteps m planId stepId)
    (hstaged : ∀ x ∈ m, ¬ DecisionStaged planId stepId x.label)
    (hclosed : ∀ r, mid.handoffs.find? (planId, stepId) = some r → ¬ r.Open) :
    ∀ r, db.handoffs.find? (planId, stepId) = some r → ¬ r.Open := by
  refine handoff_invariant (fun row => ∀ r, row = some r → ¬ r.Open) h hm hclosed ?_
  rintro x hx pre _ hmove hagrees hinv r rfl
  cases hmove with
  | kept => exact hinv r rfl
  | staged he => exact absurd he (hstaged x hx)
  | claimed _ hfree => exact absurd (.inl (hfree.pending (hagrees _ rfl))) (hinv _ rfl)
  | returned _ _ hd => exact absurd (.inr hd) (hinv _ rfl)
  | anchored _ hd | delivered _ hd | recovering _ _ hd | quarantined _ hd =>
    rintro (hopen | hopen) <;> rw [hd] at hopen <;> cases hopen

theorem handoff_kept (h : Run Step mid m db) (hm : SoundSteps m planId stepId)
    (hack : ∀ x ∈ m, ¬ HandoffAcknowledged planId stepId x.label)
    (hsome : mid.handoffs.find? (planId, stepId) ≠ none) :
    db.handoffs.find? (planId, stepId) ≠ none := by
  refine handoff_invariant (fun row => row ≠ none) h hm hsome ?_
  rintro x hx pre post hmove _ hinv
  cases hmove with
  | kept => exact hinv
  | acknowledged he => exact absurd he (hack x hx)
  | _ => exact Option.some_ne_none _

end Segments

def DeliveryFinishes (db : NavigationDb) (planId stepId token : String) : Prop :=
  ∃ call decisionKey delivered, (execute
    (.finishHumanDecisionDelivery call planId stepId decisionKey token delivered) db).1 =
      .ok (.flag true)

theorem DeliveryFinishes.held {token : String} (h : DeliveryFinishes db planId stepId token) :
    ∃ r, db.handoffs.find? (planId, stepId) = some r ∧ r.deliveryStatus = .delivering ∧
      r.deliveryToken = some token := by
  obtain ⟨call, decisionKey, delivered, h⟩ := h
  obtain ⟨_, hr⟩ := perform_of_execute h
  obtain ⟨a, ha, hanswer⟩ := answer_eq_ok.1 hr
  cases hanswer
  obtain ⟨_, _, ha⟩ := bind_eq_ok.1 ha
  obtain ⟨hcount, _⟩ := Prod.mk.inj (Except.ok.inj ha)
  obtain ⟨row, hrow, hheld⟩ := (rowcount_eq_one_iff (k := (planId, stepId))
    fun row _ hrow => Prod.ext hrow.1 hrow.2.1).1 (of_decide_eq_true hcount)
  exact ⟨row, find?_eq_some_iff.2 ⟨hrow, Prod.ext hheld.1 hheld.2.1⟩, hheld.2.2.2.1, hheld.2.2.2.2⟩

structure LeaseSafe (l : List (Transition NavigationDb Event)) (db : NavigationDb)
    (planId stepId : String) : Prop where
  /-- At most one token can still finish the delivery. -/
  one_token : ∀ t t', DeliveryFinishes db planId stepId t →
    DeliveryFinishes db planId stepId t' → t = t'
  /-- It is the token that was handed out last. -/
  last_token : ∀ (l₁ : List (Transition NavigationDb Event)) (x : Transition NavigationDb Event)
    (l₂ : List (Transition NavigationDb Event)) (t t' : String), l = l₁ ++ x :: l₂ →
    DeliveryClaimed planId stepId t x.label →
    (∀ y ∈ l₂, ∀ t, ¬ DeliveryClaimed planId stepId t y.label) →
    DeliveryFinishes db planId stepId t' → t' = t
  /-- A delivery is claimed again only after its holder gave it back. -/
  reclaimed : ∀ (l₁ : List (Transition NavigationDb Event)) (x : Transition NavigationDb Event)
    (l₂ : List (Transition NavigationDb Event)) (y : Transition NavigationDb Event)
    (l₃ : List (Transition NavigationDb Event)) (t t' : String), l = l₁ ++ x :: (l₂ ++ y :: l₃) →
    DeliveryClaimed planId stepId t x.label →
    (∀ z ∈ l₂, ∀ t, ¬ DeliveryClaimed planId stepId t z.label) →
    DeliveryClaimed planId stepId t' y.label → ∃ z ∈ l₂, DeliveryReturned planId stepId t z.label
  /-- A claim of a lapsed lease leads to recovery. -/
  lapsed : ∀ h, db.handoffs.find? (planId, stepId) = some h → h.deliveryStatus = .delivering →
    ∀ call owner token r db', ¬ h.Leased call.now → claimHumanDecisionDelivery call planId stepId
      h.decisionKey owner token db = .ok (r, db') → r = .recoveryRequired ∧
      ∃ h', db'.handoffs.find? (planId, stepId) = some h' ∧ h'.deliveryStatus = .recoveryRequired
  /-- A delivered handoff is acknowledged and a decision is staged before the next claim. -/
  delivered : ∀ (l₁ : List (Transition NavigationDb Event)) (x : Transition NavigationDb Event)
    (l₂ : List (Transition NavigationDb Event)) (y : Transition NavigationDb Event)
    (l₃ : List (Transition NavigationDb Event)) (h : HandoffRow) (t : String),
    l = l₁ ++ x :: (l₂ ++ y :: l₃) →
    x.post.handoffs.find? (planId, stepId) = some h → h.deliveryStatus = .delivered →
    DeliveryClaimed planId stepId t y.label →
    ∃ (m₁ : List (Transition NavigationDb Event)) (z : Transition NavigationDb Event)
      (m₂ : List (Transition NavigationDb Event)) (w : Transition NavigationDb Event)
      (m₃ : List (Transition NavigationDb Event)), l₂ = m₁ ++ z :: (m₂ ++ w :: m₃) ∧
      HandoffAcknowledged planId stepId z.label ∧ DecisionStaged planId stepId w.label
  agrees : ∀ h, db.handoffs.find? (planId, stepId) = some h → h.Agrees

theorem HandoffRow.Agrees.pending {h : HandoffRow} (hagrees : h.Agrees)
    (hd : h.deliveryStatus = .delivering) : h.status = .pending := by
  refine HandoffStatus.eq_pending (fun hst => ?_) fun hst => ?_
  · have := hagrees.2.1 hst
    rw [hd] at this
    cases this
  · have := hagrees.1.1 hst
    rw [hd] at this
    cases this

/-- A lapsed lease is not taken over. -/
theorem lapsed_recovers (hs : HandoffSound db planId stepId) {h : HandoffRow}
    (hfind : db.handoffs.find? (planId, stepId) = some h) (hd : h.deliveryStatus = .delivering)
    {call : Call} {owner token : String} {r : DeliveryClaim} (hlapsed : ¬ h.Leased call.now)
    (hclaim : claimHumanDecisionDelivery call planId stepId h.decisionKey owner token db =
      .ok (r, db')) : r = .recoveryRequired ∧
      ∃ h', db'.handoffs.find? (planId, stepId) = some h' ∧
        h'.deliveryStatus = .recoveryRequired := by
  have hst := (hs.agrees h hfind).pending hd
  obtain ⟨hh, hk⟩ := find?_eq_some_iff.1 hfind
  obtain ⟨v, hv, hclaim⟩ := bind_eq_ok.1 hclaim
  obtain ⟨hv, _⟩ := authorizeHandoffTerminalization_ok hv
  obtain rfl := eq_of_key hh hv.handoff_mem
    (hk.trans (Prod.ext hv.handoff_planId hv.handoff_stepId).symm)
  dsimp only at hclaim
  rw [if_neg (by simp), if_neg (by rw [hst]; decide), if_neg (by rw [hst]; decide),
    if_neg (by rw [hd]; decide), if_neg hlapsed, if_pos hd] at hclaim
  cases hclaim
  refine ⟨rfl, _, find?_eq_some_iff.2 ⟨List.mem_map.2 ⟨v.handoff, hh, if_pos ?_⟩, ?_⟩, rfl⟩
  · exact ⟨⟨hv.handoff_planId, hv.handoff_stepId, rfl⟩, hst, hd⟩
  · exact hk

/-- The delivery of the decision of a step is safe over every run. -/
theorem human_decision_delivery {l : List (Transition NavigationDb Event)}
    (h : Run Step .initial l db) (planId stepId : String) : LeaseSafe l db planId stepId := by
  have hsteps : SoundSteps l planId stepId :=
    fun x hx => ⟨((Consistent.of_run h).2 x hx).1, (HandoffSound.of_run h planId stepId).2 x hx⟩
  have hsound := (HandoffSound.of_run h planId stepId).1
  constructor
  case one_token =>
    intro t t' ht ht'
    obtain ⟨r, hr, _, hrt⟩ := ht.held
    obtain ⟨r', hr', _, hrt'⟩ := ht'.held
    obtain rfl := Option.some.inj (hr.symm.trans hr')
    exact Option.some.inj (hrt.symm.trans hrt')
  case last_token =>
    intro l₁ x l₂ t t' hl hclaimed hnone hfinishes
    subst hl
    obtain ⟨_, hx, hrun⟩ := h.split
    obtain ⟨_, h', _, _, hpost, _, _, htoken⟩ := deliveryClaimed_claimed hx hclaimed
    have hm : SoundSteps l₂ planId stepId := fun z hz =>
      hsteps z (List.mem_append_right _ (List.mem_cons_of_mem _ hz))
    obtain ⟨r, hr, hd, hrt⟩ := hfinishes.held
    have hkept := token_kept hrun hm hnone fun r hr _ => by
      obtain rfl := Option.some.inj (hr.symm.trans hpost)
      exact htoken
    exact Option.some.inj (hrt.symm.trans (hkept r hr hd))
  case reclaimed =>
    intro l₁ x l₂ y l₃ t t' hl hclaimed hnone hclaimed'
    subst hl
    by_contra hreturn
    simp only [not_exists, not_and] at hreturn
    obtain ⟨_, hx, hrun⟩ := h.split
    obtain ⟨hrun, hy, _⟩ := hrun.split
    obtain ⟨hc, hs⟩ := hsteps x (by simp)
    obtain ⟨_, h', _, _, hpost, _, hd, htoken⟩ := deliveryClaimed_claimed hx hclaimed
    have hm : SoundSteps l₂ planId stepId := fun z hz => hsteps z (by simp [hz])
    have hkept := claimed_kept hrun hm hnone hreturn ((hs.step hc hx).spent h' hpost (.inr hd))
      fun r hr => by
        obtain rfl := Option.some.inj (hr.symm.trans hpost)
        exact ⟨by rw [hd]; decide, fun _ => htoken⟩
    obtain ⟨r, _, hr, hfree, _⟩ := deliveryClaimed_claimed hy hclaimed'
    exact hkept r hr (hfree.pending ((hsteps y (by simp)).2.agrees r hr))
  case lapsed => exact fun h hfind hd call owner token r db' => lapsed_recovers hsound hfind hd
  case delivered =>
    intro l₁ x l₂ y l₃ r t hl hpost hdelivered hclaimed
    subst hl
    obtain ⟨_, hx, hrun⟩ := h.split
    obtain ⟨hrun, hy, _⟩ := hrun.split
    have hm : SoundSteps l₂ planId stepId := fun z hz => hsteps z (by simp [hz])
    have hstaged : ∃ w ∈ l₂, DecisionStaged planId stepId w.label := by
      by_contra hstaged
      simp only [not_exists, not_and] at hstaged
      have hkept := closed_kept hrun hm hstaged fun r' hr' => by
        obtain rfl := Option.some.inj (hr'.symm.trans hpost)
        rintro (hopen | hopen) <;> rw [hdelivered] at hopen <;> cases hopen
      obtain ⟨r', _, hr', hfree, _⟩ := deliveryClaimed_claimed hy hclaimed
      exact hkept r' hr' (.inl (hfree.pending ((hsteps y (by simp)).2.agrees r' hr')))
    obtain ⟨w, hw, hwstaged⟩ := hstaged
    obtain ⟨m, m₃, rfl⟩ := List.append_of_mem hw
    obtain ⟨hrun, hwstep, _⟩ := hrun.split
    have hack : ∃ z ∈ m, HandoffAcknowledged planId stepId z.label := by
      by_contra hack
      simp only [not_exists, not_and] at hack
      refine handoff_kept hrun (fun z hz => hm z (List.mem_append_left _ hz)) hack ?_
        (decisionStaged_created hwstep hwstaged).1
      rw [hpost]
      exact Option.some_ne_none r
    obtain ⟨z, hz, hzack⟩ := hack
    obtain ⟨m₁, m₂, rfl⟩ := List.append_of_mem hz
    exact ⟨m₁, z, m₂, w, m₃, by simp, hzack, hwstaged⟩
  case agrees => exact hsound.agrees

/-- The user confirms the calibration parameters. -/
def calibration : HumanDecision := ⟨"key", "confirmed", .completed, "{}", "{}"⟩

def consumedAnchor : List Op := Sample.setup ++
  [.markWaitingUser (Sample.alice 2) "p" "confirm" "confirm_navigation_calibration_params",
   .markHumanDecisionRecoveryRequired (Sample.alice 3) "p" "confirm" "ambiguous" (some "anchor"),
   .markConsumedHumanDecisionDelivery (Sample.alice 4) "p" "confirm" (Sha256.hexdigest "anchor")]

def consumedDb : NavigationDb := stores.final .initial consumedAnchor

/-- It is acknowledged, and the decision of the step is staged and claimed. -/
def restaged : List Op :=
  [.acknowledgeHumanDecisionHandoff (Sample.alice 5) "p" "confirm" (Sha256.hexdigest "anchor"),
   .stageHumanDecisionHandoff (Sample.alice 6) "p" "confirm" calibration,
   .claimHumanDecisionDelivery (Sample.alice 7) "p" "confirm" "key" "owner" "token"]

instance (planId stepId token : String) : DecidablePred (DeliveryClaimed planId stepId token) :=
  fun e => by
    unfold DeliveryClaimed
    split <;> infer_instance

/-- The handoff of the step was delivered, and then its delivery is claimed. -/
theorem restaged_claimed :
    Run Step .initial (stores.serve .initial consumedAnchor) consumedDb ∧
      (∃ h ∈ consumedDb.handoffs, h.planId = "p" ∧ h.stepId = "confirm" ∧
        h.deliveryStatus = .delivered) ∧
      Run Step consumedDb (stores.serve consumedDb restaged) (stores.final consumedDb restaged) ∧
      ∃ x ∈ stores.serve consumedDb restaged, DeliveryClaimed "p" "confirm" "token" x.label :=
  ⟨stores.serve_run _ _, by decide +kernel, stores.serve_run _ _, by decide +kernel⟩

/-- A delivery is claimed, given back and claimed again. -/
def redelivered : List Op := Sample.setup ++
  [.markWaitingUser (Sample.alice 2) "p" "confirm" "confirm_navigation_calibration_params",
   .stageHumanDecisionHandoff (Sample.alice 3) "p" "confirm" calibration,
   .claimHumanDecisionDelivery (Sample.alice 4) "p" "confirm" "key" "owner" "first",
   .finishHumanDecisionDelivery (Sample.alice 5) "p" "confirm" "key" "first" false,
   .claimHumanDecisionDelivery (Sample.alice 6) "p" "confirm" "key" "owner" "second"]

theorem redelivered_safe :
    LeaseSafe (stores.serve .initial redelivered) (stores.final .initial redelivered) "p"
      "confirm" :=
  human_decision_delivery (stores.serve_run _ _) "p" "confirm"

end DataJuicer.Navigation
