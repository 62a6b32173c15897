import DataJuicer.TrainingWorker.Outbox

/-! # Updates are applied once and in order

The centre applies the updates of a run in the order in which the worker has numbered them, each
of them once, and an update leaves the outbox only after it is applied.
-/

namespace DataJuicer.TrainingWorker

open Table Training Transaction

/-- Stored updates and answered requests are what they are said to be. -/
structure OutboxWorld.Known (w : OutboxWorld) : Prop where
  stored : ∀ u ∈ w.ledger.updates, u ∈ w.stored
  answered : ∀ q ∈ w.answered, q.workerSeq ≤ updateSeq w.centre q.runRef

/-- What all threads may rely on. -/
structure OutboxWorld.Grows (w w' : OutboxWorld) : Prop where
  stored : w.stored <+: w'.stored
  seq : ∀ r, updateSeq w.centre r ≤ updateSeq w'.centre r
  known : w.Known → w'.Known

/-- A thread sends what is stored, and removes what is applied. -/
def OutboxGuarantee (w : OutboxWorld) : (op : OutboxOp) → op.Answer → Prop
  | .send q, _ => ∃ u ∈ w.stored, q = u.request
  | .acknowledge runRef _ throughSeq, _ => throughSeq ≤ updateSeq w.centre runRef
  | _, _ => True

def outboxContract : Contract OutboxWorld OutboxOp.Answer where
  exec := OutboxWorld.exec
  rely := OutboxWorld.Grows
  guar w op a _ := OutboxGuarantee w op a

section

variable {w w' : OutboxWorld}

theorem OutboxWorld.Grows.refl (w : OutboxWorld) : w.Grows w :=
  ⟨List.prefix_refl _, fun _ => le_rfl, id⟩

theorem mem_updates_of_store? {l l' : UpdateLedger} {u v : StoredUpdate}
    (h : l.store? u = some l') : v ∈ l'.updates ↔ v ∈ l.updates ∨ v = u := by
  obtain ⟨updates, hupdates, rfl⟩ := Option.map_eq_some_iff.1 h
  exact Table.mem_insert? hupdates

theorem exec_grows {op : OutboxOp} {a : op.Answer} (h : outboxContract.exec w op a = some w') :
    w.Grows w' := by
  cases op with
  | workerSeq runRef =>
    obtain ⟨-, rfl⟩ := Option.ite_some_none_eq_some.1 h
    exact .refl w
  | store u =>
    cases a with
    | true =>
      obtain ⟨l, hl, rfl⟩ := Option.map_eq_some_iff.1 h
      refine ⟨List.prefix_append _ _, fun _ => le_rfl,
        fun hknown => ⟨fun v hv => ?_, hknown.answered⟩⟩
      rcases (mem_updates_of_store? hl).1 hv with hv | rfl
      · exact List.mem_append_left _ (hknown.stored v hv)
      · exact List.mem_append_right _ List.mem_cons_self
    | false =>
      obtain ⟨-, rfl⟩ := Option.ite_some_none_eq_some.1 h
      exact .refl w
  | pendingUpdates runRef limit =>
    obtain ⟨-, rfl⟩ := Option.ite_some_none_eq_some.1 h
    exact .refl w
  | send q =>
    obtain rfl := Option.some.inj h
    exact ⟨List.prefix_refl _, fun _ => le_rfl, fun hknown => ⟨hknown.stored, hknown.answered⟩⟩
  | receive q =>
    cases a with
    | true =>
      obtain ⟨-, rfl⟩ := Option.ite_some_none_eq_some.1 h
      exact .refl w
    | false =>
      obtain rfl := Option.some.inj h
      exact .refl w
  | acknowledge runRef epoch through =>
    obtain rfl := Option.some.inj h
    refine ⟨List.prefix_refl _, fun _ => le_rfl, fun hknown => ⟨fun u hu => ?_, hknown.answered⟩⟩
    exact hknown.stored u (Table.mem_delete.1 hu).1

/-- A request that the centre answers is the last one applied, or it is applied now. -/
theorem updateTrainingRun_seq {now : Timestamp} {worker : WorkerCredential} {refs : ℕ → NewRefs}
    {q : UpdateRequest} {db db' : Database} {view : RunView}
    (h : updateTrainingRun now worker refs q db = .ok (view, db')) :
    (q.workerSeq = updateSeq db q.runRef ∧ db' = db) ∨
      (q.workerSeq = updateSeq db q.runRef + 1 ∧
        ∀ r, updateSeq db' r = if r = q.runRef then q.workerSeq else updateSeq db r) := by
  obtain ⟨_, -, h⟩ := bind_eq_ok.1 h
  exact applyTrainingRunUpdates_seq h

/-- What the delivery of a request does. -/
theorem outside_deliver {now : Timestamp} {worker : WorkerCredential} {refs : ℕ → NewRefs}
    {q : UpdateRequest} (h : w.outside (.deliver now worker refs q) = some w') :
    q ∈ w.sent ∧ (w' = w ∨
      (q.workerSeq = updateSeq w.centre q.runRef ∧
        w' = { w with answered := w.answered ++ [q] }) ∨
      (q.workerSeq = updateSeq w.centre q.runRef + 1 ∧ ∃ centre,
        (∀ r, updateSeq centre r = if r = q.runRef then q.workerSeq else updateSeq w.centre r) ∧
        w' = { w with centre, answered := w.answered ++ [q], applied := w.applied ++ [q] })) := by
  obtain ⟨hsent, h⟩ := Option.ite_none_right_eq_some.1 h
  refine ⟨hsent, ?_⟩
  cases hupdate : updateTrainingRun now worker refs q w.centre with
  | error e =>
    rw [hupdate] at h
    exact .inl (Option.some.inj h).symm
  | ok result =>
    obtain ⟨view, centre⟩ := result
    rw [hupdate] at h
    obtain rfl := Option.some.inj h
    rcases updateTrainingRun_seq hupdate with ⟨hseq, rfl⟩ | ⟨hseq, hcentre⟩
    · refine .inr (.inl ⟨hseq, ?_⟩)
      rw [if_pos rfl]
    · refine .inr (.inr ⟨hseq, centre, hcentre, ?_⟩)
      have hne : updateSeq centre q.runRef ≠ updateSeq w.centre q.runRef := by
        rw [hcentre, if_pos rfl, hseq]
        omega
      rw [if_neg hne]

/-- Other requests leave the sequence numbers alone. -/
theorem outside_serve {op : Training.Op} (h : w.outside (.serve op) = some w') :
    ∃ centre, SeqKept w.centre centre ∧ w' = { w with centre } := by
  by_cases hop : ∃ now worker b, op = .applyTrainingRunUpdates now worker b
  · obtain ⟨now, worker, b, rfl⟩ := hop
    cases h
  · have hother : ∀ now worker b, op ≠ .applyTrainingRunUpdates now worker b :=
      fun now worker b he => hop ⟨now, worker, b, he⟩
    rw [OutboxWorld.outside.eq_3 w op hother] at h
    cases hperform : perform op w.centre with
    | error e =>
      rw [hperform] at h
      obtain rfl := Option.some.inj h
      exact ⟨w.centre, .refl _, rfl⟩
    | ok result =>
      obtain ⟨reply, centre⟩ := result
      rw [hperform] at h
      obtain rfl := Option.some.inj h
      exact ⟨centre, seqKept_perform hother hperform, rfl⟩

theorem outside_grows {n : OutboxOutside} (h : w.outside n = some w') : w.Grows w' := by
  cases n with
  | deliver now worker refs q =>
    obtain ⟨-, rfl | ⟨hseq, rfl⟩ | ⟨hseq, centre, hcentre, rfl⟩⟩ := outside_deliver h
    · exact .refl _
    · refine ⟨List.prefix_refl _, fun _ => le_rfl, fun hknown => ⟨hknown.stored, fun p hp => ?_⟩⟩
      rcases List.mem_append.1 hp with hp | hp
      · exact hknown.answered p hp
      · obtain rfl := List.mem_singleton.1 hp
        exact hseq.le
    · have hle : ∀ r, updateSeq w.centre r ≤ updateSeq centre r := by
        intro r
        rw [hcentre]
        split
        · next hr => rw [hr]; omega
        · exact le_rfl
      refine ⟨List.prefix_refl _, hle, fun hknown => ⟨hknown.stored, fun p hp => ?_⟩⟩
      rcases List.mem_append.1 hp with hp | hp
      · exact (hknown.answered p hp).trans (hle _)
      · obtain rfl := List.mem_singleton.1 hp
        dsimp only
        rw [hcentre, if_pos rfl]
  | serve op =>
    obtain ⟨centre, hkept, rfl⟩ := outside_serve h
    refine ⟨List.prefix_refl _, fun r => (hkept r).ge,
      fun hknown => ⟨hknown.stored, fun q hq => ?_⟩⟩
    exact (hknown.answered q hq).trans (hkept _).ge
  | observe runRef =>
    obtain rfl := Option.some.inj h
    exact ⟨List.prefix_refl _, fun _ => le_rfl, fun hknown => ⟨hknown.stored, hknown.answered⟩⟩
  | crash ended =>
    obtain rfl := Option.some.inj h
    exact .refl w

end

section

variable {w : OutboxWorld} {us : List StoredUpdate}

/-- The updates are stored, and the answers are right. -/
def Publishing (us : List StoredUpdate) (w : OutboxWorld) : Prop :=
  w.Known ∧ ∀ u ∈ us, u ∈ w.stored

theorem stable_publishing (us : List StoredUpdate) : outboxContract.Stable (Publishing us) :=
  fun _ _ h hgrows => ⟨hgrows.known h.1, fun u hu => hgrows.stored.subset (h.2 u hu)⟩

theorem stable_applied (runRef : String) (n : ℕ) :
    outboxContract.Stable fun w => n ≤ updateSeq w.centre runRef :=
  fun _ _ h hgrows => h.trans (hgrows.seq runRef)

theorem publishUpdates_meets (h : Publishing us w) :
    (publishUpdates us).Meets outboxContract (fun _ _ => True) w := by
  induction us generalizing w with
  | nil => exact Prog.meets_done (stable_publishing []) h fun _ _ => trivial
  | cons u us ih =>
    refine Prog.meets_act (stable_publishing (u :: us)) h fun w a w' hw hsend => ?_
    refine ⟨⟨u, hw.2 u List.mem_cons_self, rfl⟩, ?_⟩
    have hw' := stable_publishing _ _ _ hw (exec_grows hsend)
    refine Prog.meets_act (stable_publishing (u :: us)) hw' fun w a w' hw hreceive => ⟨trivial, ?_⟩
    have hw' := stable_publishing _ _ _ hw (exec_grows hreceive)
    cases a with
    | false => exact Prog.meets_done (stable_publishing (u :: us)) hw' fun _ _ => trivial
    | true =>
      obtain ⟨hanswered, rfl⟩ := Option.ite_some_none_eq_some.1 hreceive
      have hseq : u.workerSeq ≤ updateSeq w.centre u.runRef := hw.1.answered u.request hanswered
      refine Prog.meets_act ((stable_publishing (u :: us)).and
        (stable_applied u.runRef u.workerSeq))
        ⟨hw, hseq⟩ fun w a w' hw hacknowledge => ⟨hw.2, ih ?_⟩
      have hw' := stable_publishing _ _ _ hw.1 (exec_grows hacknowledge)
      exact ⟨hw'.1, fun v hv => hw'.2 v (List.mem_cons_of_mem _ hv)⟩

theorem mem_of_pendingUpdates {l : UpdateLedger} {runRef : String} {limit : ℕ} {u : StoredUpdate}
    (h : u ∈ l.pendingUpdates runRef limit) : u ∈ l.updates ∧ u.runRef = runRef := by
  have hmem := List.mem_of_mem_take h
  rw [List.mem_insertionSort] at hmem
  exact Table.mem_select.1 hmem

/-- The operations of `enqueue_update`. -/
def OutboxOp.Enqueues : OutboxOp → Prop
  | .workerSeq _ | .store _ => True
  | _ => False

theorem OutboxOp.Enqueues.guarantee {op : OutboxOp} {a : op.Answer} (h : op.Enqueues) :
    OutboxGuarantee w op a := by
  cases op with
  | workerSeq | store => exact trivial
  | pendingUpdates | send | receive | acknowledge => exact h.elim

theorem enqueueUpdate_ops (runRef : String) (ownerEpoch : ℕ) (payload : Dict) :
    (enqueueUpdate runRef ownerEpoch payload).AllOps OutboxOp.Enqueues := by
  unfold enqueueUpdate
  split
  · exact trivial
  · refine ⟨trivial, fun n => ?_⟩
    cases n with
    | none => exact trivial
    | some n =>
      refine ⟨trivial, fun stored => ?_⟩
      cases stored <;> exact trivial

theorem program_meets (task : OutboxTask) (h : w.Known) :
    task.program.Meets outboxContract (fun _ _ => True) w := by
  have hknown : Publishing [] w := ⟨h, fun _ hu => nomatch hu⟩
  have hstable := stable_publishing []
  cases task with
  | flush runRef =>
    refine Prog.meets_act hstable hknown fun w a w' hw hpending => ⟨trivial, ?_⟩
    obtain ⟨rfl, rfl⟩ := Option.ite_some_none_eq_some.1 hpending
    exact publishUpdates_meets ⟨hw.1, fun u hu => hw.1.stored u (mem_of_pendingUpdates hu).1⟩
  | enqueue runRef ownerEpoch payload =>
    have hops : (enqueueUpdate runRef ownerEpoch payload).AllOps OutboxOp.Enqueues :=
      enqueueUpdate_ops runRef ownerEpoch payload
    have hprogram := hops.bind (f := fun _ => Prog.done (Except.ok ())) fun _ => trivial
    refine (hprogram.keeps (fun op hop w a w' hw hexec => ?_) hstable hknown).mono
      fun _ _ _ => trivial
    exact ⟨hstable w w' hw (exec_grows hexec), hop.guarantee⟩

end

def OutboxWorld.storedOf (w : OutboxWorld) (runRef : String) : List StoredUpdate :=
  w.stored.filter fun u => u.runRef = runRef

def OutboxWorld.appliedOf (w : OutboxWorld) (runRef : String) : List UpdateRequest :=
  w.applied.filter fun q => q.runRef = runRef

structure OutboxWorld.InOrder (w : OutboxWorld) : Prop where
  counter : ∀ r, (w.ledger.workerSeq? r).getD 0 = (w.storedOf r).length
  numbered : ∀ r, (w.storedOf r).map StoredUpdate.workerSeq = List.range' 1 (w.storedOf r).length
  reached : ∀ r, updateSeq w.centre r ≤ (w.storedOf r).length
  applied : ∀ r, w.appliedOf r =
    ((w.storedOf r).take (updateSeq w.centre r)).map StoredUpdate.request
  sent : ∀ q ∈ w.sent, ∃ u ∈ w.stored, q = u.request
  kept : ∀ u ∈ w.stored, updateSeq w.centre u.runRef < u.workerSeq → u ∈ w.ledger.updates

section

variable {w w' : OutboxWorld} {u : StoredUpdate}

theorem workerSeq?_store {l l' : UpdateLedger} (h : l.store? u = some l') (r : String) :
    l'.workerSeq? r =
      if r = u.runRef then (l.workerSeq? r).map fun _ => u.workerSeq else l.workerSeq? r := by
  obtain ⟨updates, -, rfl⟩ := Option.map_eq_some_iff.1 h
  have hkey : ∀ x : LedgerRun, key { x with workerSeq := u.workerSeq } = key x := fun _ => rfl
  have hset : ∀ x ∈ l.runs, key x = u.runRef →
      (if x.runRef = u.runRef then { x with workerSeq := u.workerSeq } else x).workerSeq =
        u.workerSeq := by
    intro x _ hx
    rw [if_pos (show x.runRef = u.runRef from hx)]
  exact @Table.map_find?_update_ref LedgerRun String _ l.runs
    (fun x => x.runRef = u.runRef) _ _ hkey
    _ ℕ LedgerRun.workerSeq (fun _ => u.workerSeq) u.runRef (fun x _ hx => hx) hset r

/-- A run that is inserted has the number zero. -/
theorem workerSeq?_observe (l : UpdateLedger) (runRef r : String) :
    ((l.recordProcessObservation runRef).workerSeq? r).getD 0 = (l.workerSeq? r).getD 0 := by
  unfold UpdateLedger.workerSeq? UpdateLedger.recordProcessObservation Table.insertOrIgnore
  cases hinsert : l.runs.insert? ⟨runRef, 0⟩ with
  | none => rfl
  | some runs =>
    dsimp only [Option.getD_some]
    rcases Table.find?_insert?_cases hinsert r with hfind | ⟨-, hnone, hfind⟩
    · rw [hfind]
    · rw [hfind, hnone]
      rfl

theorem OutboxWorld.mem_storedOf {r : String} : u ∈ w.storedOf r ↔ u ∈ w.stored ∧ u.runRef = r := by
  unfold storedOf
  rw [List.mem_filter, decide_eq_true_eq]

theorem OutboxWorld.InOrder.number (h : w.InOrder) (hu : u ∈ w.stored) :
    1 ≤ u.workerSeq ∧ (w.storedOf u.runRef)[u.workerSeq - 1]? = some u := by
  obtain ⟨i, hi⟩ := List.mem_iff_getElem?.1 (OutboxWorld.mem_storedOf.2 ⟨hu, rfl⟩)
  have hnumber : ((w.storedOf u.runRef).map StoredUpdate.workerSeq)[i]? = some u.workerSeq := by
    rw [List.getElem?_map, hi]
    rfl
  rw [h.numbered, List.getElem?_range' (List.getElem?_eq_some_iff.1 hi).1] at hnumber
  have hseq : u.workerSeq = i + 1 := by
    have := Option.some.inj hnumber
    omega
  rw [hseq, Nat.add_sub_cancel]
  exact ⟨Nat.le_add_left 1 i, hi⟩

theorem OutboxWorld.inOrder_initial {centre : Database} (h : ∀ r, updateSeq centre r = 0) :
    (OutboxWorld.initial centre).InOrder where
  counter _ := rfl
  numbered _ := rfl
  reached r := (h r).le
  applied _ := by
    unfold appliedOf storedOf
    simp [initial]
  sent _ hq := nomatch hq
  kept _ hu := nomatch hu

theorem OutboxWorld.InOrder.store {l : UpdateLedger} {n : ℕ} (h : w.InOrder)
    (hl : w.ledger.store? u = some l) (hn : w.ledger.workerSeq? u.runRef = some n)
    (hseq : u.workerSeq = n + 1) :
    OutboxWorld.InOrder { w with ledger := l, stored := w.stored ++ [u] } := by
  have hlength : n = (w.storedOf u.runRef).length := by
    rw [← h.counter, hn]
    rfl
  have hof : ∀ r, OutboxWorld.storedOf { w with ledger := l, stored := w.stored ++ [u] } r =
      w.storedOf r ++ if u.runRef = r then [u] else [] := by
    intro r
    unfold storedOf
    rw [List.filter_append]
    by_cases hr : u.runRef = r <;> simp [hr]
  constructor
  · intro r
    rw [hof]
    change (l.workerSeq? r).getD 0 = _
    rw [workerSeq?_store hl]
    by_cases hr : r = u.runRef
    · subst hr
      rw [if_pos rfl, if_pos rfl, hn, List.length_append, ← hlength, Option.map_some,
        Option.getD_some, hseq]
      rfl
    · rw [if_neg hr, if_neg (Ne.symm hr), List.append_nil, h.counter]
  · intro r
    rw [hof]
    by_cases hr : u.runRef = r
    · subst hr
      rw [if_pos rfl, List.map_append, List.length_append, h.numbered, List.length_singleton,
        List.range'_concat, ← hlength, Nat.one_mul, Nat.add_comm 1 n, ← hseq]
      rfl
    · rw [if_neg hr, List.append_nil, h.numbered]
  · intro r
    rw [hof, List.length_append]
    exact (h.reached r).trans (Nat.le_add_right _ _)
  · intro r
    rw [hof]
    change w.appliedOf r = _
    rw [List.take_append_of_le_length (h.reached r), h.applied]
  · intro q hq
    obtain ⟨v, hv, rfl⟩ := h.sent q hq
    exact ⟨v, List.mem_append_left _ hv, rfl⟩
  · intro v hv hlt
    rw [mem_updates_of_store? hl]
    rcases List.mem_append.1 hv with hv | hv
    · exact .inl (h.kept v hv hlt)
    · exact .inr (List.mem_singleton.1 hv)

theorem OutboxWorld.InOrder.acknowledge {runRef : String} {ownerEpoch throughSeq : ℕ}
    (h : w.InOrder) (hseq : throughSeq ≤ updateSeq w.centre runRef) :
    OutboxWorld.InOrder
      { w with ledger := w.ledger.acknowledgeUpdates runRef ownerEpoch throughSeq } := by
  refine ⟨h.counter, h.numbered, h.reached, h.applied, h.sent, fun v hv hlt => ?_⟩
  refine Table.mem_delete.2 ⟨h.kept v hv hlt, ?_⟩
  rintro ⟨rfl, -, hle⟩
  exact absurd (hle.trans hseq) (Nat.not_le.2 hlt)

theorem OutboxWorld.InOrder.apply {q : UpdateRequest} {centre : Database} (h : w.InOrder)
    (hsent : q ∈ w.sent) (hseq : q.workerSeq = updateSeq w.centre q.runRef + 1)
    (hcentre : ∀ r, updateSeq centre r = if r = q.runRef then q.workerSeq else
      updateSeq w.centre r) :
    OutboxWorld.InOrder
      { w with centre, answered := w.answered ++ [q], applied := w.applied ++ [q] } := by
  obtain ⟨u, hu, rfl⟩ := h.sent q hsent
  obtain ⟨-, hindex⟩ := h.number hu
  change u.workerSeq = updateSeq w.centre u.runRef + 1 at hseq
  rw [hseq, Nat.add_sub_cancel] at hindex
  refine ⟨h.counter, h.numbered, fun r => ?_, fun r => ?_, h.sent, fun v hv hlt => h.kept v hv ?_⟩
  · rw [hcentre]
    change _ ≤ (w.storedOf r).length
    split
    · next hr =>
      rw [show r = u.runRef from hr]
      have hlt := (List.getElem?_eq_some_iff.1 hindex).1
      change u.workerSeq ≤ _
      omega
    · exact h.reached r
  · have hof : OutboxWorld.appliedOf { w with applied := w.applied ++ [u.request] } r =
        w.appliedOf r ++ if u.runRef = r then [u.request] else [] := by
      unfold appliedOf
      rw [List.filter_append]
      by_cases hr : u.runRef = r <;> simp [StoredUpdate.request, hr]
    change OutboxWorld.appliedOf { w with applied := w.applied ++ [u.request] } r =
      ((w.storedOf r).take (updateSeq centre r)).map StoredUpdate.request
    rw [hof, h.applied, hcentre]
    by_cases hr : u.runRef = r
    · subst hr
      rw [if_pos rfl, if_pos (show u.runRef = u.request.runRef from rfl)]
      change _ = ((w.storedOf u.runRef).take u.workerSeq).map _
      rw [hseq, List.take_add_one, hindex, List.map_append]
      rfl
    · have hne : r ≠ u.request.runRef := fun he => hr he.symm
      rw [if_neg hr, if_neg hne, List.append_nil]
  · rw [hcentre] at hlt
    split at hlt
    · next hr =>
      have hle : updateSeq w.centre v.runRef < u.workerSeq := by
        rw [show v.runRef = u.runRef from hr]
        omega
      exact hle.trans hlt
    · exact hlt

theorem OutboxWorld.InOrder.serve {centre : Database} (h : w.InOrder)
    (hkept : SeqKept w.centre centre) : OutboxWorld.InOrder { w with centre } := by
  refine ⟨h.counter, h.numbered, fun r => (hkept r).trans_le (h.reached r), fun r => ?_, h.sent,
    fun v hv hlt => h.kept v hv ((hkept _).symm.trans_lt hlt)⟩
  change w.appliedOf r = _
  rw [h.applied, hkept]
  rfl

theorem OutboxWorld.InOrder.observe (h : w.InOrder) (runRef : String) :
    OutboxWorld.InOrder { w with ledger := w.ledger.recordProcessObservation runRef } := by
  refine ⟨fun r => ?_, h.numbered, h.reached, h.applied, h.sent, h.kept⟩
  rw [workerSeq?_observe]
  exact h.counter r

end

def storedUpdate? : PoolEvent ℕ OutboxOutside OutboxOp.Answer → Option StoredUpdate
  | .act _ (.store u) true => some u
  | _ => none

/-- A thread stores an update under the number after the one that its run has. -/
def NumberedInTurn (x : OutboxTransition) : Prop :=
  ∀ u ∈ storedUpdate? x.label,
    (x.pre.shared.ledger.workerSeq? u.runRef).map (· + 1) = some u.workerSeq

instance (x : OutboxTransition) : Decidable (NumberedInTurn x) :=
  inferInstanceAs (Decidable (∀ u ∈ storedUpdate? x.label,
    (x.pre.shared.ledger.workerSeq? u.runRef).map (· + 1) = some u.workerSeq))

/-- The updates of the shared state are in order. -/
def OutboxPool.InOrder (p : OutboxPool) : Prop := p.shared.InOrder

structure OutboxWorld.Delivers (w : OutboxWorld) (runRef : String) : Prop where
  reached : updateSeq w.centre runRef ≤ (w.storedOf runRef).length
  inOrder : w.appliedOf runRef =
    ((w.storedOf runRef).take (updateSeq w.centre runRef)).map StoredUpdate.request
  once : (w.appliedOf runRef).Nodup
  kept : ∀ u ∈ w.storedOf runRef, u.request ∉ w.appliedOf runRef → u ∈ w.ledger.updates

theorem OutboxWorld.InOrder.delivers {w : OutboxWorld} (h : w.InOrder) (runRef : String) :
    w.Delivers runRef := by
  refine ⟨h.reached runRef, h.applied runRef, ?_, fun u hu hmissing => ?_⟩
  · have hnodup : ((w.storedOf runRef).map StoredUpdate.workerSeq).Nodup := by
      rw [h.numbered]
      exact List.nodup_range'
    have hrequests : ((w.storedOf runRef).map StoredUpdate.request).Nodup := by
      refine List.Nodup.of_map UpdateRequest.workerSeq ?_
      rw [List.map_map]
      exact hnodup
    rw [h.applied, List.map_take]
    exact hrequests.sublist (List.take_sublist _ _)
  · obtain ⟨hstored, rfl⟩ := OutboxWorld.mem_storedOf.1 hu
    refine h.kept u hstored ?_
    by_contra hreached
    refine hmissing ?_
    obtain ⟨hpos, hindex⟩ := h.number hstored
    rw [h.applied]
    refine List.mem_map_of_mem (List.mem_iff_getElem?.2 ⟨u.workerSeq - 1, ?_⟩)
    rw [List.getElem?_take_of_lt (by omega), hindex]

/-- All threads meet their contracts at the start. -/
theorem sound_initial (task : ℕ → OutboxTask) (centre : Database) :
    outboxMachine.Sound (fun _ => OutboxWorld.Grows) (fun _ w op a _ => OutboxGuarantee w op a)
      (OutboxPool.initial task centre) := by
  intro t q hq
  obtain rfl := Option.some.inj hq
  have hknown : (OutboxWorld.initial centre).Known :=
    ⟨fun _ hu => (nomatch hu), fun _ hq => nomatch hq⟩
  exact program_meets (task t) hknown

theorem OutboxWorld.InOrder.step {x : OutboxTransition} (h : x.pre.shared.InOrder)
    (hstep : outboxMachine.Step x.pre x.label x.post) (hturn : NumberedInTurn x)
    (hguarantee : ∀ t op a, x.label = .act t op a → OutboxGuarantee x.pre.shared op a) :
    x.post.shared.InOrder := by
  obtain ⟨p, e, q⟩ := x
  dsimp only at h hstep hguarantee ⊢
  cases e with
  | outside n =>
    obtain ⟨hout, -⟩ := Machine.step_outside_iff.1 hstep
    cases n with
    | deliver now worker refs req =>
      obtain ⟨hsent, heq | ⟨hseq, heq⟩ | ⟨hseq, centre, hcentre, heq⟩⟩ := outside_deliver hout
      · rw [heq]
        exact h
      · rw [heq]
        exact ⟨h.counter, h.numbered, h.reached, h.applied, h.sent, h.kept⟩
      · rw [heq]
        exact h.apply hsent hseq hcentre
    | serve op =>
      obtain ⟨centre, hkept, heq⟩ := outside_serve hout
      rw [heq]
      exact h.serve hkept
    | observe runRef =>
      rw [← Option.some.inj hout]
      exact h.observe runRef
    | crash ended =>
      rw [← Option.some.inj hout]
      exact h
  | act t op a =>
    obtain ⟨-, -, hexec, -⟩ := Machine.step_act_iff.1 hstep
    cases op with
    | workerSeq runRef =>
      rw [← (Option.ite_some_none_eq_some.1 hexec).2]
      exact h
    | pendingUpdates runRef limit =>
      rw [← (Option.ite_some_none_eq_some.1 hexec).2]
      exact h
    | store u =>
      cases a with
      | true =>
        obtain ⟨l, hl, heq⟩ := Option.map_eq_some_iff.1 hexec
        obtain ⟨n, hn, hseq⟩ := Option.map_eq_some_iff.1 (hturn u rfl)
        rw [← heq]
        exact h.store hl hn hseq.symm
      | false =>
        rw [← (Option.ite_some_none_eq_some.1 hexec).2]
        exact h
    | send req =>
      rw [← Option.some.inj hexec]
      refine ⟨h.counter, h.numbered, h.reached, h.applied, fun r hr => ?_, h.kept⟩
      rcases List.mem_append.1 hr with hr | hr
      · exact h.sent r hr
      · rw [List.mem_singleton.1 hr]
        exact hguarantee t _ _ rfl
    | receive req =>
      cases a with
      | true =>
        rw [← (Option.ite_some_none_eq_some.1 hexec).2]
        exact h
      | false =>
        rw [← Option.some.inj hexec]
        exact h
    | acknowledge runRef ownerEpoch throughSeq =>
      rw [← Option.some.inj hexec]
      exact h.acknowledge (hguarantee t _ _ rfl)

/--
Over any run of threads, network and centre the updates of a run are applied in the order in
which they were stored, each at most once, and none is lost, when no store overtakes another.
-/
theorem updates_delivered {task : ℕ → OutboxTask} {centre : Database} {p : OutboxPool}
    {xs : List OutboxTransition} (hcentre : ∀ r, updateSeq centre r = 0)
    (h : Run outboxMachine.Step (OutboxPool.initial task centre) xs p)
    (hturn : ∀ x ∈ xs, NumberedInTurn x) (runRef : String) : p.shared.Delivers runRef := by
  have hguarantee := (sound_initial task centre).run h
    (fun _ _ _ _ _ _ _ hexec _ => exec_grows hexec) fun _ _ _ _ _ hout => outside_grows hout
  have hok : ∀ x ∈ xs, NumberedInTurn x ∧
      ∀ t op a, x.label = .act t op a → OutboxGuarantee x.pre.shared op a :=
    fun x hx => ⟨hturn x hx, hguarantee x hx⟩
  have hstart : (OutboxPool.initial task centre).InOrder := OutboxWorld.inOrder_initial hcentre
  have hinv := h.invariant hstart hok fun x (hpre : OutboxPool.InOrder x.pre) hx hstep =>
    show OutboxPool.InOrder x.post from OutboxWorld.InOrder.step hpre hstep hx.1 hx.2
  exact hinv.1.delivers runRef

namespace OutboxSample

open Training.Sample

def heartbeat : Dict := [("kind", .str "heartbeat")]

def log : Dict := [("kind", .str "log"), ("stage_ref", .str "a"), ("message", .str "done")]

/-- Two threads enqueue an update, the others publish. -/
def task : ℕ → OutboxTask
  | 0 => .enqueue "run" 1 heartbeat
  | 1 => .enqueue "run" 1 log
  | _ => .flush "run"

def update (seq : ℕ) (payload : Dict) : StoredUpdate := ⟨"run", 1, seq, payload⟩

/-- The run is created and started. -/
def started : List (PoolEvent ℕ OutboxOutside OutboxOp.Answer) :=
  [.outside (.serve (.createRun 1 (creation "real" "run" ["a"]))), .outside (.serve (poll 2)),
    .outside (.observe "run")]

/-- A thread publishes this update, and the request arrives twice. -/
def published (t : ℕ) (u : StoredUpdate) : List (PoolEvent ℕ OutboxOutside OutboxOp.Answer) :=
  [.act t (.pendingUpdates "run" 100) [u], .act t (.send u.request) (),
    .outside (.deliver 3 worker (fun _ => refs "0") u.request),
    .outside (.deliver 4 worker (fun _ => refs "1") u.request),
    .act t (.receive u.request) true, .act t (.acknowledge "run" 1 u.workerSeq) ()]

/-- One update after the other. -/
def inTurn : List (PoolEvent ℕ OutboxOutside OutboxOp.Answer) :=
  started ++ [.act 0 (.workerSeq "run") (some 0), .act 0 (.store (update 1 heartbeat)) true,
    .act 1 (.workerSeq "run") (some 1), .outside (.crash fun t => t = 0)] ++
    published 2 (update 1 heartbeat) ++ [.act 1 (.store (update 2 log)) true] ++
    published 3 (update 2 log)

def centre : Database := .initial registry

theorem updates_delivered_inTurn : ∃ xs p,
    Run outboxMachine.Step (OutboxPool.initial task centre) xs p ∧ p.shared.Delivers "run" ∧
      p.shared.applied.length = 2 := by
  have hplayed : (outboxMachine.play (OutboxPool.initial task centre) inTurn).map (fun out =>
      (out.1.all fun x => decide (NumberedInTurn x), out.2.shared.applied.length)) =
        some (true, 2) := by decide +kernel
  obtain ⟨⟨xs, p⟩, hplay, hout⟩ := Option.map_eq_some_iff.1 hplayed
  obtain ⟨hall, hlength⟩ := Prod.mk.inj hout
  have hrun := Machine.run_of_play hplay
  have hturn : ∀ x ∈ xs, NumberedInTurn x := fun x hx =>
    of_decide_eq_true (List.all_eq_true.1 hall x hx)
  exact ⟨xs, p, hrun, updates_delivered (fun _ => rfl) hrun hturn "run", hlength⟩

/-- Both threads read the number before one of them stores its update. -/
def overlapping : List (PoolEvent ℕ OutboxOutside OutboxOp.Answer) :=
  started ++ [.act 0 (.workerSeq "run") (some 0), .act 1 (.workerSeq "run") (some 0),
    .act 0 (.store (update 1 heartbeat)) true] ++ published 2 (update 1 heartbeat) ++
    [.act 1 (.store (update 1 log)) true] ++ published 3 (update 1 log)

/-- The second update is stored under the number of the first, and the centre drops it. -/
theorem overlapping_loses_update : ∃ xs p,
    Run outboxMachine.Step (OutboxPool.initial task centre) xs p ∧ ¬ p.shared.Delivers "run" := by
  have hplayed : (outboxMachine.play (OutboxPool.initial task centre) overlapping).map (fun out =>
      (decide (update 1 log ∈ out.2.shared.storedOf "run"),
        decide ((update 1 log).request ∈ out.2.shared.appliedOf "run"),
        decide (update 1 log ∈ out.2.shared.ledger.updates.rows))) = some (true, false, false) := by
    decide +kernel
  obtain ⟨⟨xs, p⟩, hplay, hout⟩ := Option.map_eq_some_iff.1 hplayed
  obtain ⟨hstored, hrest⟩ := Prod.mk.inj hout
  obtain ⟨happlied, hkept⟩ := Prod.mk.inj hrest
  refine ⟨xs, p, Machine.run_of_play hplay, fun h => ?_⟩
  exact of_decide_eq_false hkept
    (h.kept _ (of_decide_eq_true hstored) (of_decide_eq_false happlied))

end OutboxSample

end DataJuicer.TrainingWorker
