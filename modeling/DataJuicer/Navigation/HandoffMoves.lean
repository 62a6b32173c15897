import DataJuicer.Navigation.Consistency

/-! # What a request does to a handoff

The handoff of one step, as each operation leaves it, with the answers that the delivery
protocol is about: a decision is staged, its delivery is claimed with a token and returned with
this token, and the delivered handoff is acknowledged.
-/

namespace DataJuicer.Navigation

open Table Transaction

def DecisionStaged (planId stepId : String) : Event → Prop
  | (.stageHumanDecisionHandoff _ p s _, .ok (.handoff .created)) => p = planId ∧ s = stepId
  | _ => False

def DeliveryClaimed (planId stepId token : String) : Event → Prop
  | (.claimHumanDecisionDelivery _ p s _ _ _, .ok (.delivery (.claimed t))) =>
    p = planId ∧ s = stepId ∧ t = token
  | _ => False

def DeliveryReturned (planId stepId token : String) : Event → Prop
  | (.finishHumanDecisionDelivery _ p s _ t false, .ok (.flag true)) =>
    p = planId ∧ s = stepId ∧ t = token
  | _ => False

def HandoffAcknowledged (planId stepId : String) : Event → Prop
  | (.acknowledgeHumanDecisionHandoff _ p s _, .ok (.flag true)) => p = planId ∧ s = stepId
  | _ => False

theorem HandoffStatus.eq_pending {s : HandoffStatus} (hq : s ≠ .quarantined)
    (hr : s ≠ .recoveryRequired) : s = .pending := by
  cases s with
  | pending => rfl
  | recoveryRequired => exact absurd rfl hr
  | quarantined => exact absurd rfl hq

/-- The delivery of the decision can be claimed. -/
def HandoffRow.Claimable (h : HandoffRow) : Prop :=
  h.status = .pending ∧ h.deliveryStatus ≠ .delivered ∧ h.deliveryStatus ≠ .delivering

inductive HandoffMove (planId stepId : String) (e : Event) :
    Option HandoffRow → Option HandoffRow → Prop
  | kept (h : Option HandoffRow) : HandoffMove planId stepId e h h
  | staged {h : HandoffRow} (he : DecisionStaged planId stepId e) (hs : h.status = .pending)
      (hd : h.deliveryStatus = .pending) : HandoffMove planId stepId e none (some h)
  | anchored {h : HandoffRow} (hs : h.status = .recoveryRequired)
      (hd : h.deliveryStatus = .recoveryRequired) : HandoffMove planId stepId e none (some h)
  | acknowledged {h : HandoffRow} (he : HandoffAcknowledged planId stepId e) :
      HandoffMove planId stepId e (some h) none
  | claimed {h h' : HandoffRow} {token : String} (he : DeliveryClaimed planId stepId token e)
      (hfree : h.Claimable) (hs : h'.status = .pending) (hd : h'.deliveryStatus = .delivering)
      (ht : h'.deliveryToken = some token) : HandoffMove planId stepId e (some h) (some h')
  | returned {h h' : HandoffRow} {token : String} (he : DeliveryReturned planId stepId token e)
      (hs : h'.status = h.status) (hd : h.deliveryStatus = .delivering)
      (ht : h.deliveryToken = some token) (hd' : h'.deliveryStatus = .pending) :
      HandoffMove planId stepId e (some h) (some h')
  | delivered {h h' : HandoffRow}
      (hs : h'.status = .pending ∨ h'.status = h.status ∧ h.deliveryStatus = .delivering)
      (hd : h'.deliveryStatus = .delivered) : HandoffMove planId stepId e (some h) (some h')
  | recovering {h h' : HandoffRow} (hd : h.deliveryStatus ≠ .delivered)
      (hs' : h'.status = .recoveryRequired) (hd' : h'.deliveryStatus = .recoveryRequired) :
      HandoffMove planId stepId e (some h) (some h')
  | quarantined {h h' : HandoffRow} (hs' : h'.status = .quarantined)
      (hd' : h'.deliveryStatus = .quarantined) : HandoffMove planId stepId e (some h) (some h')

/-- The operations that change handoffs other than with their plan. -/
def Op.HandlesHandoff : Op → Prop
  | .stageHumanDecisionHandoff .. | .acknowledgeHumanDecisionHandoff .. => True
  | op => op.Delivers

variable {db db' : NavigationDb} {op : Op} {planId stepId : String} {r : Reply}

namespace HandoffMove

variable {e : Event} {t t' : Table HandoffRow} {p : HandoffRow → Prop} [DecidablePred p]

theorem of_update {f : HandoffRow → HandoffRow} (hf : ∀ r, key (f r) = key r)
    (hmove : ∀ h ∈ t, h.planId = planId → h.stepId = stepId → p h →
      HandoffMove planId stepId e (some h) (some (f h))) :
    HandoffMove planId stepId e (t.find? (planId, stepId))
      ((t.update p f hf).find? (planId, stepId)) := by
  have hcases := find?_update_cases (t := t) (p := p) (f := f) (planId, stepId)
  rcases hcases hf with hkept | ⟨h, hfind, hp, hpost⟩
  · rw [hkept]
    exact .kept _
  · obtain ⟨hh, hk⟩ := find?_eq_some_iff.1 hfind
    obtain ⟨h₁, h₂⟩ := Prod.mk.inj hk
    rw [hfind, hpost]
    exact hmove h hh h₁ h₂ hp

theorem of_delete (hmove : ∀ h ∈ t, h.planId = planId → h.stepId = stepId → p h →
      HandoffMove planId stepId e (some h) none) :
    HandoffMove planId stepId e (t.find? (planId, stepId))
      ((t.delete p).find? (planId, stepId)) := by
  rcases find?_delete_cases (t := t) (p := p) (planId, stepId) with hkept | ⟨h, hfind, hp, hpost⟩
  · rw [hkept]
    exact .kept _
  · obtain ⟨hh, hk⟩ := find?_eq_some_iff.1 hfind
    obtain ⟨h₁, h₂⟩ := Prod.mk.inj hk
    rw [hfind, hpost]
    exact hmove h hh h₁ h₂ hp

theorem of_insert {h : HandoffRow} (hins : t.insert? h = some t')
    (hmove : h.planId = planId → h.stepId = stepId → HandoffMove planId stepId e none (some h)) :
    HandoffMove planId stepId e (t.find? (planId, stepId)) (t'.find? (planId, stepId)) := by
  rcases find?_insert?_cases hins (planId, stepId) with hkept | ⟨hk, hfind, hpost⟩
  · rw [hkept]
    exact .kept _
  · obtain ⟨h₁, h₂⟩ := Prod.mk.inj hk
    rw [hfind, hpost]
    exact hmove h₁ h₂

end HandoffMove

theorem LedgerMove.handoff {l : Ledger} (hc : Consistent db) (h : LedgerMove db op l)
    (hop : ¬ op.HandlesHandoff) {e : Event} :
    HandoffMove planId stepId e (db.handoffs.find? (planId, stepId))
      (l.handoffs.find? (planId, stepId)) := by
  cases h with
  | same | activated | invalidated | claimed | waited | resumed | workflowWaited | staged
  | attached | recovered | replanned | terminalized => exact .kept _
  | handoffStaged | acknowledged | anchored => exact absurd trivial hop
  | handoffUpdated hdeliver =>
    refine absurd ?_ hop
    cases op <;> first | exact hdeliver | exact trivial
  | deleted hnone =>
    refine HandoffMove.of_delete fun h hh _ _ hgone => ?_
    obtain ⟨s, hs, hid, htask⟩ := hc.handoff_step h hh
    refine absurd ?_ (hnone s hs)
    rcases hgone with hgone | ⟨p, hp, hptask, hpid⟩
    · exact htask.trans hgone
    · obtain ⟨q, hq, hqid, hqtask, _⟩ := hc.step_plan s hs
      obtain rfl := eq_of_key hp hq (hpid.trans (hid.1.symm.trans hqid.symm))
      exact hqtask.symm.trans hptask
  | reset =>
    exact HandoffMove.of_update (by exact fun _ => rfl) fun h _ _ _ _ => .quarantined rfl rfl
  | quarantined =>
    exact HandoffMove.of_update (by exact fun _ => rfl) fun h _ _ _ _ => .quarantined rfl rfl
  | finished _ l hl => rcases hl with ⟨rfl, _⟩ | ⟨rfl, _⟩ <;> exact .kept _

section Operations

variable {call : Call} {decisionKey token : String}

theorem stageHumanDecisionHandoff_handoff {d : HumanDecision} {p s : String} {r : HandoffStage}
    (h : stageHumanDecisionHandoff call p s d db = .ok (r, db')) :
    HandoffMove planId stepId (.stageHumanDecisionHandoff call p s d, .ok (.handoff r))
      (db.handoffs.find? (planId, stepId)) (db'.handoffs.find? (planId, stepId)) := by
  obtain ⟨_, _, h⟩ := bind_eq_ok.1 h
  obtain ⟨_, _, h⟩ := bind_eq_ok.1 h
  obtain ⟨_, _, h⟩ := bind_eq_ok.1 h
  obtain ⟨_, _, h⟩ := bind_eq_ok.1 h
  split at h
  · cases h; exact .kept _
  · split at h
    · cases h; exact .kept _
    · rename_i v hv
      obtain ⟨hv, _⟩ := confirmationView?_joins hv
      split_ifs at h
      · cases h; exact .kept _
      · obtain ⟨ref, _, h⟩ := bind_eq_ok.1 h
        obtain ⟨d₁, hd₁, h⟩ := bind_eq_ok.1 h
        obtain ⟨d₂, hd₂, h⟩ := bind_eq_ok.1 h
        cases h
        obtain ⟨handoffs, hhandoffs, rfl⟩ := Option.map_eq_some_iff.1 (constrained_eq_ok.1 hd₁)
        obtain ⟨outbox, _, rfl⟩ := Option.map_eq_some_iff.1 (constrained_eq_ok.1 hd₂)
        refine HandoffMove.of_insert hhandoffs fun h₁ h₂ => .staged ?_ rfl rfl
        exact ⟨hv.step_planId.symm.trans h₁, hv.step_stepId.symm.trans h₂⟩

theorem rowcount_handoff {p : HandoffRow → Prop} [DecidablePred p] {h : HandoffRow}
    (hh : h ∈ db.handoffs) (hp : p h) (hid : ∀ r, p r → r.planId = planId ∧ r.stepId = stepId) :
    decide (db.handoffs.rowcount p = 1) = true := by
  refine decide_eq_true ((rowcount_eq_one_iff (k := (planId, stepId)) ?_).2 ⟨h, hh, hp⟩)
  exact fun r _ hr => Prod.ext (hid r hr).1 (hid r hr).2

theorem acknowledgeHumanDecisionHandoff_handoff {p s : String} {r : Bool}
    (h : acknowledgeHumanDecisionHandoff call p s decisionKey db = .ok (r, db')) :
    HandoffMove planId stepId (.acknowledgeHumanDecisionHandoff call p s decisionKey, .ok (.flag r))
      (db.handoffs.find? (planId, stepId)) (db'.handoffs.find? (planId, stepId)) := by
  obtain ⟨_, _, h⟩ := bind_eq_ok.1 h
  cases h
  refine HandoffMove.of_delete fun h hh h₁ h₂ hack => .acknowledged ?_
  rw [rowcount_handoff hh hack fun r hr => ⟨hr.1, hr.2.1⟩]
  exact ⟨hack.1.symm.trans h₁, hack.2.1.symm.trans h₂⟩

theorem claimHumanDecisionDelivery_claimed {p s owner t : String}
    (h : claimHumanDecisionDelivery call p s decisionKey owner token db = .ok (.claimed t, db')) :
    ∃ h h', db.handoffs.find? (p, s) = some h ∧ h.Claimable ∧
      db'.handoffs.find? (p, s) = some h' ∧ h'.status = .pending ∧
      h'.deliveryStatus = .delivering ∧ h'.deliveryToken = some t := by
  obtain ⟨v, hv, h⟩ := bind_eq_ok.1 h
  obtain ⟨hv, _⟩ := authorizeHandoffTerminalization_ok hv
  dsimp only at h
  split_ifs at h with hkey hquarantined hrecovery hdelivered hleased hdelivering
  iterate 6 cases h
  have hpending := HandoffStatus.eq_pending hquarantined hrecovery
  cases h
  have hfind : db.handoffs.find? (p, s) = some v.handoff :=
    find?_eq_some_iff.2 ⟨hv.handoff_mem, Prod.ext hv.handoff_planId hv.handoff_stepId⟩
  refine ⟨v.handoff, _, hfind, ⟨hpending, hdelivered, hdelivering⟩,
    find?_eq_some_iff.2 ⟨List.mem_map.2 ⟨v.handoff, hv.handoff_mem, if_pos ?_⟩, ?_⟩, ?_, rfl, rfl⟩
  · exact ⟨hv.handoff_planId, hv.handoff_stepId, not_not.1 hkey⟩
  · exact Prod.ext hv.handoff_planId hv.handoff_stepId
  · exact hpending

theorem claimHumanDecisionDelivery_handoff {p s owner : String} {r : DeliveryClaim}
    (h : claimHumanDecisionDelivery call p s decisionKey owner token db = .ok (r, db')) :
    HandoffMove planId stepId
      (.claimHumanDecisionDelivery call p s decisionKey owner token, .ok (.delivery r))
      (db.handoffs.find? (planId, stepId)) (db'.handoffs.find? (planId, stepId)) := by
  obtain ⟨v, hv, h⟩ := bind_eq_ok.1 h
  obtain ⟨hv, _⟩ := authorizeHandoffTerminalization_ok hv
  dsimp only at h
  split_ifs at h with _ hquarantined hrecovery hdelivered _ hdelivering
  · cases h; exact .kept _
  · cases h; exact .kept _
  · cases h; exact .kept _
  · cases h; exact .kept _
  · cases h; exact .kept _
  · cases h
    refine HandoffMove.of_update (by exact fun _ => rfl) fun h _ _ _ hp => .recovering ?_ rfl rfl
    rw [hp.2.2]
    decide
  · cases h
    refine HandoffMove.of_update (by exact fun _ => rfl) fun h hh h₁ h₂ hp => ?_
    obtain rfl := eq_of_key hh hv.handoff_mem (Prod.ext (hp.1.trans hv.handoff_planId.symm)
      (hp.2.1.trans hv.handoff_stepId.symm))
    have hpending := HandoffStatus.eq_pending hquarantined hrecovery
    exact .claimed ⟨hp.1.symm.trans h₁, hp.2.1.symm.trans h₂, rfl⟩
      ⟨hpending, hdelivered, hdelivering⟩ hpending rfl rfl

theorem markHumanDecisionRecoveryRequired_handoff {p s code : String} {anchor : Option String}
    {r : Bool} (h : markHumanDecisionRecoveryRequired call p s code anchor db = .ok (r, db'))
    (e : Event) : HandoffMove planId stepId e (db.handoffs.find? (planId, stepId))
      (db'.handoffs.find? (planId, stepId)) := by
  unfold markHumanDecisionRecoveryRequired at h
  split at h
  · obtain ⟨_, _, h⟩ := bind_eq_ok.1 h
    split at h
    · cases h; exact .kept _
    · obtain ⟨_, _, h⟩ := bind_eq_ok.1 h
      split at h
      · cases h; exact .kept _
      · split_ifs at h
        · cases h; exact .kept _
        · obtain ⟨d, hd, h⟩ := bind_eq_ok.1 h
          cases h
          obtain ⟨handoffs, hhandoffs, rfl⟩ := Option.map_eq_some_iff.1 (constrained_eq_ok.1 hd)
          exact HandoffMove.of_insert hhandoffs fun _ _ => .anchored rfl rfl
  · obtain ⟨_, _, h⟩ := bind_eq_ok.1 h
    dsimp only at h
    split_ifs at h
    · cases h; exact .kept _
    · cases h; exact .kept _
    · cases h; exact .kept _
    · cases h
      refine HandoffMove.of_update (by exact fun _ => rfl) fun h _ _ _ hp => .recovering ?_ rfl rfl
      rcases hp.2.2.2 with hd | hd <;> rw [hd] <;> decide

theorem finishHumanDecisionDelivery_handoff {p s : String} {delivered r : Bool}
    (h : finishHumanDecisionDelivery call p s decisionKey token delivered db = .ok (r, db')) :
    HandoffMove planId stepId
      (.finishHumanDecisionDelivery call p s decisionKey token delivered, .ok (.flag r))
      (db.handoffs.find? (planId, stepId)) (db'.handoffs.find? (planId, stepId)) := by
  obtain ⟨_, _, h⟩ := bind_eq_ok.1 h
  cases h
  refine HandoffMove.of_update (by exact fun _ => rfl) fun h hh h₁ h₂ hp => ?_
  cases delivered with
  | true => exact .delivered (.inr ⟨rfl, hp.2.2.2.1⟩) rfl
  | false =>
    rw [rowcount_handoff hh hp fun r hr => ⟨hr.1, hr.2.1⟩]
    have he : DeliveryReturned planId stepId token
        (.finishHumanDecisionDelivery call p s decisionKey token false, .ok (.flag true)) :=
      ⟨hp.1.symm.trans h₁, hp.2.1.symm.trans h₂, rfl⟩
    exact .returned he rfl hp.2.2.2.1 hp.2.2.2.2 rfl

theorem markConsumedHumanDecisionDelivery_handoff {p s : String} {r : Bool}
    (h : markConsumedHumanDecisionDelivery call p s decisionKey db = .ok (r, db')) (e : Event) :
    HandoffMove planId stepId e (db.handoffs.find? (planId, stepId))
      (db'.handoffs.find? (planId, stepId)) := by
  obtain ⟨_, _, h⟩ := bind_eq_ok.1 h
  cases h
  exact HandoffMove.of_update (by exact fun _ => rfl) fun h _ _ _ _ => .delivered (.inl rfl) rfl

end Operations

/-- Every request moves the handoff of a step as the delivery protocol says. -/
theorem perform_handoff (hc : Consistent db) (h : perform op db = .ok (r, db')) :
    HandoffMove planId stepId (op, .ok r) (db.handoffs.find? (planId, stepId))
      (db'.handoffs.find? (planId, stepId)) := by
  have hledger := (perform_commits h).ledger
  cases op
  case stageHumanDecisionHandoff =>
    obtain ⟨a, ha, rfl⟩ := answer_eq_ok.1 h
    exact stageHumanDecisionHandoff_handoff ha
  case acknowledgeHumanDecisionHandoff =>
    obtain ⟨a, ha, rfl⟩ := answer_eq_ok.1 h
    exact acknowledgeHumanDecisionHandoff_handoff ha
  case claimHumanDecisionDelivery =>
    obtain ⟨a, ha, rfl⟩ := answer_eq_ok.1 h
    exact claimHumanDecisionDelivery_handoff ha
  case markHumanDecisionRecoveryRequired =>
    obtain ⟨a, ha, rfl⟩ := answer_eq_ok.1 h
    exact markHumanDecisionRecoveryRequired_handoff ha _
  case finishHumanDecisionDelivery =>
    obtain ⟨a, ha, rfl⟩ := answer_eq_ok.1 h
    exact finishHumanDecisionDelivery_handoff ha
  case markConsumedHumanDecisionDelivery =>
    obtain ⟨a, ha, rfl⟩ := answer_eq_ok.1 h
    exact markConsumedHumanDecisionDelivery_handoff ha _
  all_goals exact hledger.handoff hc id

end DataJuicer.Navigation
