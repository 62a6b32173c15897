import DataJuicer.TrainingWorker.GpuMetrics
import DataJuicer.TrainingWorker.LogCollection
import DataJuicer.TrainingWorker.Outbox

/-! # Everything the worker emits

What is put into the outbox for a stage is accepted by the centre, apart from values that the two
sides bound differently: the size of a log chunk, the numbers of an event, the path of a
checkpoint and the samples of the GPUs. An update that is refused stays at the head of the
outbox, and nothing behind it is sent.
-/

namespace DataJuicer.TrainingWorker

open Transaction Training

variable {now : Timestamp} {db : Database} {run : RunRow} {stage : StageRow}
  {w : WorkerCredential} {drawn : ℕ → NewRefs}

/-- Where the payloads of a stage come from. -/
inductive Emission
  | launched (p : FloatRepr) (stageNumber : ℕ) (small : stageNumber ≤ 10)
      (selection : GpuSelection) (found : List GpuSample)
  | heartbeat (p : FloatRepr) (selection : GpuSelection) (found : List GpuSample)
  | collected (r : Readers) (present : CheckpointExists) (format : MonitoringFormat)
      (redactions : List String) (raws : List (List UInt8))
  | exited (exitCode : ℤ) (readable : exitCode.natAbs < 10 ^ 4300)
  | cancelled
  | supervisorMissing (childExists : Bool)
  | reconciled (probe : ProbeStatus) (childExists : Bool)

/-- The payloads that are queued for a stage; reading the log may raise, and so may the ledger. -/
def Emission.payloads (ref : String) : Emission → Except ReadError (List Dict)
  | .launched p stageNumber _ selection found =>
    .ok (launchUpdates p ref stageNumber selection.uuids found)
  | .heartbeat p selection found => .ok (heartbeatUpdates p ref selection.uuids found)
  | .collected r present format redactions raws => do
    let (lines, events) ← readLines r present ⟨ref, format, redactions⟩ raws
    return (logUpdates ref lines events).takeWhile fun p => Writable r p
  | .exited exitCode _ => .ok [exitedUpdate ref exitCode]
  | .cancelled => .ok [cancelledUpdate ref]
  | .supervisorMissing childExists => .ok [supervisorMissingUpdate ref childExists]
  | .reconciled probe childExists => .ok [reconciledUpdate ref probe childExists]

/-- The values of an event of the log that the centre takes. -/
def EventFits (now : Timestamp) (db : Database) (run : RunRow) (stage : StageRow) (e : Dict) :
    Prop :=
  if Json.get e "kind" = .str "checkpoint" then
    PathFits ((truthyText (.get e "relative_path")).getD "") ∧ StepFits e
  else MetricFits now db run stage (stepOf e "step") (stepOf e "total_steps")

/-- What the log and the GPUs have to look like for the centre to take what is made of them. -/
def Emission.Fits (now : Timestamp) (db : Database) (run : RunRow) (stage : StageRow) :
    Emission → Prop
  | .collected r present format redactions raws => ∀ lines events,
      readLines r present ⟨stage.stageRef, format, redactions⟩ raws = .ok (lines, events) →
        lines ≠ [] →
          (∀ piece ∈ chunks (maxLogLineBytes - 1) (joinLines lines), utf8Size piece ≤ 16384) ∧
            ∀ e ∈ events.takeWhile (fun e => Writable r e), EventFits now db run stage e
  | .launched _ _ _ selection found | .heartbeat _ selection found =>
    GpuUpdatesFit now db run stage selection.uuids found
  | _ => True

theorem length_of_chunks {n : ℕ} {s : List Char} :
    ∀ piece ∈ chunks n s, piece.toList.length ≤ n + 1 := by
  fun_induction chunks n s with
  | case1 => simp
  | case2 c cs ih =>
    intro piece hpiece
    rcases List.mem_cons.1 hpiece with rfl | hpiece
    · simp only [String.toList_ofList, List.length_cons, List.length_take]
      omega
    · exact ih piece hpiece

theorem accepted_event_iff (h : Delivering w drawn db run stage) {e : Dict} (he : EventShape e) :
    Accepted now w drawn run db (Json.set e "stage_ref" (.str stage.stageRef)) ↔
      EventFits now db run stage e := by
  cases he with
  | @checkpoint path step hsafe hstep =>
    let head : Dict := [("kind", .str "checkpoint"), ("relative_path", .str path)]
    have hset : Json.set (head ++ step) "stage_ref" (.str stage.stageRef) =
        eventPayload "checkpoint" stage.stageRef (("relative_path", .str path) :: step) := by
      rw [set_of_notMem (by rcases hstep with rfl | ⟨n, rfl⟩ <;> simp [head])]
      rfl
    have hget : Json.get (head ++ step) "step" = Json.get step "step" := by
      rw [get_append, if_neg (by simp [head])]
    have hfits : StepFits (head ++ step) ↔ StepFits step := by
      rw [StepFits, hget, StepFits]
    have hkind : Json.get (head ++ step) "kind" = .str "checkpoint" := rfl
    rw [hset, accepted_checkpoint_iff h hsafe hstep, EventFits, if_pos hkind, hfits]
    rfl
  | @metric m hm =>
    have hset : Json.set (("kind", .str "metric") :: m) "stage_ref" (.str stage.stageRef) =
        eventPayload "metric" stage.stageRef m := by
      rw [set_of_notMem]
      · rfl
      · have := hm.notMem (k := "stage_ref") (by decide)
        simpa using this
    have hget : ∀ key, key ≠ "kind" →
        stepOf (("kind", .str "metric") :: m) key = stepOf m key := by
      intro key hkey
      rw [stepOf, Json.get_cons, if_neg hkey, stepOf]
    rw [hset, accepted_metric_iff h hm, EventFits, if_neg (by simp [Json.get_cons]),
      hget "step" (by decide), hget "total_steps" (by decide)]

theorem takeWhile_logUpdates {r : Readers} {ref : Option String} {lines : List String}
    {events : List Dict} (hlines : lines ≠ []) (hevents : ∀ e ∈ events, EventShape e) :
    ((logUpdates ref lines events).takeWhile fun p => Writable r p) =
      (chunks (maxLogLineBytes - 1) (joinLines lines)).map (logUpdate ref) ++
        (events.takeWhile fun e => Writable r e).map
          fun event => Json.set event "stage_ref" (refValue ref) := by
  have hset : ∀ e ∈ events, decide (Writable r (Json.set e "stage_ref" (refValue ref))) =
      decide (Writable r e) := fun e he =>
    decide_eq_decide.2 (writable_set_stageRef (hevents e he) ref)
  unfold logUpdates
  rw [if_neg hlines, List.takeWhile_append_of_pos, List.takeWhile_map]
  · congr 2
    induction events with
    | nil => rfl
    | cons e events ih =>
      rw [List.forall_mem_cons] at hset hevents
      simp only [List.takeWhile_cons, Function.comp_apply, hset.1, ih hevents.2 hset.2]
  · rw [List.forall_mem_map]
    exact fun chunk _ => decide_eq_true (writable_logUpdate ref chunk)

theorem accepted_logUpdates_iff (h : Delivering w drawn db run stage) {lines : List String}
    {events : List Dict} (hevents : ∀ e ∈ events, EventShape e) {r : Readers} :
    (∀ p ∈ (logUpdates stage.stageRef lines events).takeWhile fun p => Writable r p,
        Accepted now w drawn run db p) ↔
      (lines ≠ [] →
        (∀ piece ∈ chunks (maxLogLineBytes - 1) (joinLines lines), utf8Size piece ≤ 16384) ∧
          ∀ e ∈ events.takeWhile (fun e => Writable r e), EventFits now db run stage e) := by
  by_cases hlines : lines = []
  · simp [hlines, logUpdates]
  · rw [takeWhile_logUpdates hlines hevents, List.forall_mem_append, List.forall_mem_map,
      List.forall_mem_map]
    simp only [ne_eq, hlines, not_false_iff, true_implies]
    refine and_congr ?_ ?_
    · refine forall₂_congr fun piece hpiece => accepted_logUpdate_iff h ?_
      exact length_of_chunks piece hpiece
    · refine forall₂_congr fun e he => accepted_event_iff h (hevents e ?_)
      exact List.takeWhile_prefix _ |>.subset he

theorem accepted_exitedUpdate (h : Delivering w drawn db run stage) {exitCode : ℤ}
    (hcode : exitCode.natAbs < 10 ^ 4300) :
    Accepted now w drawn run db (exitedUpdate stage.stageRef exitCode) := by
  have hint := Json.intSize_le (by decide) hcode
  have hmessage := Json.stringSize_le_length
    ("Training process exited with status " ++ Json.intText exitCode ++ ".")
  have hlength : ("Training process exited with status " ++ Json.intText exitCode ++
      ".").toList.length = 37 + Json.intSize exitCode := by
    have hhead : "Training process exited with status ".toList.length = 36 := by decide
    have hdot : ".".toList.length = 1 := by decide
    rw [String.toList_append, String.toList_append, List.length_append, List.length_append,
      Json.length_intText, hhead, hdot]
    omega
  have h₁ : Json.stringSize "status" = 8 := by decide
  have h₂ : Json.stringSize "exit_code" = 11 := by decide
  have h₃ : Json.stringSize "failure_code" = 14 := by decide
  have h₄ : Json.stringSize "failure_message" = 17 := by decide
  have h₅ : Json.stringSize "training_process_exit" = 23 := by decide
  have h₆ : Json.stringSize "succeeded" = 11 := by decide
  have h₇ : Json.stringSize "failed" = 8 := by decide
  unfold exitedUpdate
  rw [List.append_assoc]
  refine accepted_of_plain h (by decide) ?_ ?_
  · split <;> simp
  · split <;> simp only [List.cons_append, List.nil_append, Json.entriesSize, Json.encodedSize,
      h₁, h₂, h₃, h₄, h₅, h₆, h₇] <;> omega

theorem accepted_reconciliationUpdate (h : Delivering w drawn db run stage)
    {status reason : String} (hstatus : status.toList.length ≤ 20)
    (hreason : reason.toList.length ≤ 20) :
    Accepted now w drawn run db (reconciliationUpdate stage.stageRef status reason) := by
  have h₁ := Json.stringSize_le_length status
  have h₂ := Json.stringSize_le_length reason
  have h₃ : Json.stringSize "status" = 8 := by decide
  have h₄ : Json.stringSize "reason" = 8 := by decide
  refine accepted_of_plain h (by decide) (by simp) ?_
  simp only [Json.entriesSize, Json.encodedSize, h₃, h₄]
  omega

theorem accepted_launchUpdates_iff (h : Delivering w drawn db run stage) {p : FloatRepr}
    {stageNumber : ℕ} (hsmall : stageNumber ≤ 10) (selection : GpuSelection)
    (found : List GpuSample) :
    (∀ d ∈ launchUpdates p stage.stageRef stageNumber selection.uuids found,
        Accepted now w drawn run db d) ↔ GpuUpdatesFit now db run stage selection.uuids found := by
  unfold launchUpdates
  rw [List.forall_mem_append, accepted_gpuUpdates_iff h]
  refine and_iff_right ?_
  rw [List.forall_mem_cons, List.forall_mem_singleton]
  refine ⟨accepted_bare h (by decide), ?_⟩
  have h₁ : Json.stringSize "stage_number" = 14 := by decide
  have h₂ := Json.intSize_le (n := stageNumber) (k := 2) (by decide) (by omega)
  refine accepted_of_plain h (by decide) (by simp) ?_
  simp only [Json.entriesSize, Json.encodedSize, h₁]
  omega

theorem accepted_heartbeatUpdates_iff (h : Delivering w drawn db run stage) {p : FloatRepr}
    (selection : GpuSelection) (found : List GpuSample) :
    (∀ d ∈ heartbeatUpdates p stage.stageRef selection.uuids found,
        Accepted now w drawn run db d) ↔ GpuUpdatesFit now db run stage selection.uuids found := by
  unfold heartbeatUpdates
  rw [List.forall_mem_cons, accepted_gpuUpdates_iff h]
  exact and_iff_right (accepted_bare h (by decide))

/-- What the worker emits is accepted exactly when the log and the GPUs fit. -/
theorem accepted_payloads_iff (h : Delivering w drawn db run stage) (source : Emission)
    {payloads : List Dict} (hp : source.payloads stage.stageRef = .ok payloads) :
    (∀ p ∈ payloads, Accepted now w drawn run db p) ↔ source.Fits now db run stage := by
  cases source with
  | launched p stageNumber small selection found =>
    obtain rfl := Except.ok.inj hp
    exact accepted_launchUpdates_iff h small selection found
  | heartbeat p selection found =>
    obtain rfl := Except.ok.inj hp
    exact accepted_heartbeatUpdates_iff h selection found
  | exited exitCode readable =>
    obtain rfl := Except.ok.inj hp
    exact iff_of_true (List.forall_mem_singleton.2 (accepted_exitedUpdate h readable)) trivial
  | cancelled =>
    obtain rfl := Except.ok.inj hp
    refine iff_of_true (List.forall_mem_singleton.2 ?_) trivial
    exact accepted_of_plain h (by decide) (by simp) (by decide)
  | supervisorMissing childExists =>
    obtain rfl := Except.ok.inj hp
    refine iff_of_true (List.forall_mem_singleton.2 ?_) trivial
    exact accepted_reconciliationUpdate h (by cases childExists <;> decide) (by decide)
  | reconciled probe childExists =>
    obtain rfl := Except.ok.inj hp
    refine iff_of_true (List.forall_mem_singleton.2 ?_) trivial
    exact accepted_reconciliationUpdate h (by cases probe <;> cases childExists <;> decide)
      (by cases probe <;> decide)
  | collected r present format redactions raws =>
    obtain ⟨⟨lines, events⟩, hread, hp⟩ := bind_eq_ok.1 hp
    obtain rfl := Except.ok.inj hp
    rw [accepted_logUpdates_iff h (shape_of_readLines hread)]
    constructor
    · intro hfits lines' events' hread'
      rw [hread] at hread'
      cases hread'
      exact hfits
    · exact fun hfits => hfits lines events hread

section Flush

variable (now : Timestamp) (w : WorkerCredential) (refs : UpdateRequest → ℕ → NewRefs)

/-- What an operation answers when nothing is lost. -/
def OutboxWorld.answer (s : OutboxWorld) : (op : OutboxOp) → op.Answer
  | .workerSeq runRef => s.ledger.workerSeq? runRef
  | .store u => (s.ledger.store? u).isSome
  | .pendingUpdates runRef limit => s.ledger.pendingUpdates runRef limit
  | .send _ => ()
  | .receive q => decide (q ∈ s.answered)
  | .acknowledge _ _ _ => ()

/-- The world after an operation; a request that is sent reaches the centre at once. -/
def OutboxWorld.after (s : OutboxWorld) (op : OutboxOp) : OutboxWorld :=
  let s' := (s.exec op (s.answer op)).getD s
  match op with
  | .send q => (s'.outside (.deliver now w (refs q) q)).getD s'
  | _ => s'

def afterAlone (p : OutboxProg Unit) (s : OutboxWorld) : OutboxWorld :=
  (p.runAlone OutboxWorld.answer (OutboxWorld.after now w refs) s).2

def nextUpdate (run : RunRow) (payload : Dict) : StoredUpdate :=
  ⟨run.runRef, run.executionOwnerEpoch, run.executionUpdateSeq + 1, payload⟩

structure AtHead (run : RunRow) (payload : Dict) (s : OutboxWorld) : Prop where
  pending : ∃ us, s.ledger.pendingUpdates run.runRef 100 = nextUpdate run payload :: us
  unanswered : nextRequest run payload ∉ s.answered

variable {now w refs} {s : OutboxWorld} {u : StoredUpdate} {us : List StoredUpdate}

theorem after_send (q : UpdateRequest) : s.after now w refs (.send q) =
    (OutboxWorld.outside { s with sent := s.sent ++ [q] }
      (.deliver now w (refs q) q)).getD { s with sent := s.sent ++ [q] } := rfl

theorem answered_after_send {q : UpdateRequest} (hq : q ∉ s.answered) :
    q ∈ (s.after now w refs (.send q)).answered ↔
      Succeeds (updateTrainingRun now w (refs q) q s.centre) := by
  have hsent : q ∈ s.sent ++ [q] := List.mem_append_right _ (List.mem_singleton_self _)
  rw [after_send]
  unfold OutboxWorld.outside
  dsimp only
  rw [if_pos hsent]
  cases updateTrainingRun now w (refs q) q s.centre with
  | ok result => simp
  | error e => simpa using hq

theorem ledger_after_send (q : UpdateRequest) :
    (s.after now w refs (.send q)).ledger = s.ledger := by
  have hsent : q ∈ s.sent ++ [q] := List.mem_append_right _ (List.mem_singleton_self _)
  rw [after_send]
  unfold OutboxWorld.outside
  dsimp only
  rw [if_pos hsent]
  cases updateTrainingRun now w (refs q) q s.centre <;> rfl

theorem ledger_after_receive (q : UpdateRequest) :
    (s.after now w refs (.receive q)).ledger = s.ledger := by
  unfold OutboxWorld.after OutboxWorld.answer
  by_cases hq : q ∈ s.answered <;> simp [OutboxWorld.exec, hq]

theorem ledger_after_acknowledge (runRef : String) (ownerEpoch throughSeq : ℕ) :
    (s.after now w refs (.acknowledge runRef ownerEpoch throughSeq)).ledger =
      s.ledger.acknowledgeUpdates runRef ownerEpoch throughSeq := rfl

/-- The first update is removed and the rest is published, or nothing more happens. -/
theorem afterAlone_publish_cons : afterAlone now w refs (publishUpdates (u :: us)) s =
    if u.request ∈ (s.after now w refs (.send u.request)).answered then
      afterAlone now w refs (publishUpdates us)
        (((s.after now w refs (.send u.request)).after now w refs (.receive u.request)).after now w
          refs (.acknowledge u.runRef u.ownerEpoch u.workerSeq))
    else (s.after now w refs (.send u.request)).after now w refs (.receive u.request) := by
  have hrun : afterAlone now w refs (publishUpdates (u :: us)) s =
      afterAlone now w refs
        (if decide (u.request ∈ (s.after now w refs (.send u.request)).answered) = true then
          (do
            OutboxOp.perform (.acknowledge u.runRef u.ownerEpoch u.workerSeq)
            publishUpdates us)
        else pure ())
        ((s.after now w refs (.send u.request)).after now w refs (.receive u.request)) := rfl
  rw [hrun]
  by_cases h : u.request ∈ (s.after now w refs (.send u.request)).answered
  · rw [if_pos h, if_pos (decide_eq_true h)]
    rfl
  · rw [if_neg h, if_neg (by simpa using h)]
    rfl

theorem mem_of_publishUpdates {v : StoredUpdate}
    (h : v ∈ (afterAlone now w refs (publishUpdates us) s).ledger.updates) :
    v ∈ s.ledger.updates := by
  induction us generalizing s with
  | nil => exact h
  | cons u us ih =>
    rw [afterAlone_publish_cons] at h
    split at h
    · have hacknowledged := ih h
      rw [ledger_after_acknowledge, ledger_after_receive, ledger_after_send] at hacknowledged
      exact (Table.mem_delete.1 hacknowledged).1
    · rwa [ledger_after_receive, ledger_after_send] at h

/-- A flush gets past the first update exactly when the centre applies it. -/
theorem flushed_iff (hpending : s.ledger.pendingUpdates u.runRef 100 = u :: us)
    (hq : u.request ∉ s.answered) :
    u ∉ (afterAlone now w refs (flushUpdates u.runRef) s).ledger.updates ↔
      Succeeds (updateTrainingRun now w (refs u.request) u.request s.centre) := by
  have hstored : u ∈ s.ledger.updates := by
    have hmem : u ∈ s.ledger.pendingUpdates u.runRef 100 := hpending ▸ List.mem_cons_self
    have hsorted := List.mem_of_mem_take hmem
    exact Table.mem_select.1 ((List.mem_insertionSort _).1 hsorted) |>.1
  have hrun : afterAlone now w refs (flushUpdates u.runRef) s =
      afterAlone now w refs (publishUpdates (s.ledger.pendingUpdates u.runRef 100))
        (s.after now w refs (.pendingUpdates u.runRef 100)) := rfl
  have hsame : s.after now w refs (.pendingUpdates u.runRef 100) = s := by
    unfold OutboxWorld.after OutboxWorld.answer
    simp [OutboxWorld.exec]
  rw [hrun, hsame, hpending, afterAlone_publish_cons, ← answered_after_send hq]
  split
  · next hanswered =>
    refine iff_of_true (fun h => ?_) hanswered
    have hkept := mem_of_publishUpdates h
    rw [ledger_after_acknowledge] at hkept
    exact (Table.mem_delete.1 hkept).2 ⟨rfl, rfl, le_rfl⟩
  · next hanswered =>
    refine iff_of_false (fun h => h ?_) hanswered
    rwa [ledger_after_receive, ledger_after_send]

end Flush

/--
The payloads that the worker emits are all accepted exactly when its log has short chunks of
text, storable numbers and plainly written paths, and its GPUs are sampled as the centre expects.
A flush is blocked by the first update of the outbox exactly when it is not accepted.
-/
theorem emitted_accepted_iff (h : Delivering w drawn db run stage) (source : Emission)
    {payloads : List Dict} (hp : source.payloads stage.stageRef = .ok payloads) :
    ((∀ p ∈ payloads, Accepted now w drawn run db p) ↔ source.Fits now db run stage) ∧
      ∀ p ∈ payloads, ∀ s refs, s.centre = db → refs (nextRequest run p) = drawn →
        AtHead run p s → (nextUpdate run p ∈
          (afterAlone now w refs (flushUpdates run.runRef) s).ledger.updates ↔
            ¬ Accepted now w drawn run db p) := by
  refine ⟨accepted_payloads_iff h source hp, ?_⟩
  rintro p - s refs rfl rfl ⟨⟨us, hpending⟩, hq⟩
  have hflushed : nextUpdate run p ∉
      (afterAlone now w refs (flushUpdates run.runRef) s).ledger.updates ↔
        Accepted now w (refs (nextRequest run p)) run s.centre p := flushed_iff hpending hq
  rw [← hflushed, not_not]

namespace Sample

open Training.Sample

/-- A line of a log whose step is one more than the database takes. -/
def hugeStep : String := "\x7b\"step\":9223372036854775808\x7d"

/-- Readers for ASCII bytes and this line. -/
def readers : Readers where
  decode bytes := String.ofList (bytes.map fun b => Char.ofNat b.toNat)
  loads text :=
    if text = hugeStep then .ok (.obj [("step", .int 9223372036854775808)])
    else .error .malformed
  literalEval _ := .error .malformed
  progress _ := .ok none
  encodable _ := true

def log (line : String) : Emission :=
  .collected readers (fun _ => .ok true) .jsonl [] [line.toList.map fun c => UInt8.ofNat c.toNat]

def stageRef : String := "stage_00000000000000000000000000000000"

/-- The worker has claimed the start of the first stage. -/
def started : Database :=
  centre.final (.initial registry) [.createRun 1 (creation "real" "run" [stageRef]), poll 2]

theorem exists_delivering : ∃ run stage,
    Delivering worker (fun _ => refs "new") started run stage ∧ stage.stageRef = stageRef ∧
      MetricFits 3 started run stage none none := by
  have hrun : ∃ run ∈ started.runs, (run.runRef = "run" ∧ run.serverRef = worker.nodeRef ∧
      run.executionMode = .real ∧ 1 ≤ run.executionOwnerEpoch) ∧
      ∃ stage ∈ started.stages, (stage.runRef = "run" ∧ stage.stageRef = stageRef) ∧
        MetricFits 3 started run stage none none := by
    unfold MetricFits
    decide +kernel
  have hauth : (authenticateWorker started.registry worker).toOption = some ⟨⟩ := by
    decide +kernel
  obtain ⟨run, hrun, ⟨href, hnode, hreal, hepoch⟩, stage, hstage, ⟨hof, hname⟩, hfits⟩ := hrun
  refine ⟨run, stage, ⟨⟨hrun, hstage, hof.trans href.symm, ?_, ?_, ?_, ?_⟩,
    ⟨?_, hnode, hreal, hepoch⟩, ?_⟩, hname, hfits⟩
  · rw [href]
    decide +kernel
  · decide +kernel
  · decide +kernel
  · decide +kernel
  · cases h : authenticateWorker started.registry worker with
    | ok => rfl
    | error e => simp [h, Except.toOption] at hauth
  · rw [hname]
    decide

def floatRepr : FloatRepr := ⟨fun _ => "1.0", fun _ => by decide⟩

/-- A busy GPU, and another one that the run does not use. -/
def gpus : List GpuSample :=
  [⟨"GPU-0", 0, 1073741824, ⟨some 37, "37.0", by decide⟩, ⟨some 60, "60.0", by decide⟩, by
    decide +kernel⟩,
    ⟨"GPU-1", 1, 0, ⟨none, "nan", by decide⟩, ⟨none, "nan", by decide⟩,
      by decide +kernel⟩]

theorem workerRef_gpu : WorkerRef "GPU-0" := by
  refine ⟨by decide, by decide, fun c hc => ?_⟩
  have hall : "GPU-0".toList.all fun c => RefChar c := by decide
  exact of_decide_eq_true (List.all_eq_true.1 hall c hc)

/-- The launch of the first stage on one GPU. -/
def launch : Emission :=
  .launched floatRepr 1 (by decide)
    ⟨["GPU-0"], by decide, by
      rw [List.forall_mem_singleton]
      exact workerRef_gpu⟩ gpus

def outboxOf (u : StoredUpdate) : OutboxWorld :=
  ⟨⟨.empty, ⟨[u], by simp⟩⟩, started, [], [], [u], []⟩

theorem atHead_outboxOf (run : RunRow) (payload : Dict) :
    AtHead run payload (outboxOf (nextUpdate run payload)) := by
  refine ⟨⟨[], ?_⟩, List.not_mem_nil⟩
  simp [UpdateLedger.pendingUpdates, Table.select, outboxOf, nextUpdate]

end Sample

/-- The metric of a huge step stays in the outbox: it is valid but cannot be stored. -/
theorem hugeStep_refused : ∃ run stage payloads,
    Delivering Training.Sample.worker (fun _ => Training.Sample.refs "new") Sample.started run
        stage ∧
      (Sample.log Sample.hugeStep).payloads stage.stageRef = .ok payloads ∧
      ¬ ∀ p ∈ payloads, Accepted 3 Training.Sample.worker
        (fun _ => Training.Sample.refs "new") run Sample.started p := by
  obtain ⟨run, stage, h, hname, -⟩ := Sample.exists_delivering
  let event : Dict := [("kind", .str "metric"), ("step", .int 9223372036854775808)]
  have hread : (readLines Sample.readers (fun _ => .ok true) ⟨Sample.stageRef, .jsonl, []⟩
      [Sample.hugeStep.toList.map fun c => UInt8.ofNat c.toNat]).toOption =
      some ([Sample.hugeStep], [event]) := by decide +kernel
  have hok : readLines Sample.readers (fun _ => .ok true) ⟨Sample.stageRef, .jsonl, []⟩
      [Sample.hugeStep.toList.map fun c => UInt8.ofNat c.toNat] =
      .ok ([Sample.hugeStep], [event]) := by
    revert hread
    cases readLines Sample.readers (fun _ => .ok true) ⟨Sample.stageRef, .jsonl, []⟩
      [Sample.hugeStep.toList.map fun c => UInt8.ofNat c.toNat] <;> simp [Except.toOption]
  refine ⟨run, stage, (logUpdates stage.stageRef [Sample.hugeStep] [event]).takeWhile
    fun p => Writable Sample.readers p, h, ?_, ?_⟩
  · rw [hname, Sample.log, Emission.payloads, hok]
    rfl
  · rw [accepted_logUpdates_iff h (shape_of_readLines hok)]
    intro hfits
    have hevent := (hfits (by simp)).2 event (by decide +kernel)
    have hstep : Storable (9223372036854775808 : ℕ) := hevent.1
    exact absurd hstep.2 (by decide)

/-- What is queued for a launch on one GPU is accepted and leaves the outbox. -/
theorem emitted_accepted_iff_launch : ∃ (run : RunRow) (stage : StageRow) (payloads : List Dict),
    Sample.launch.payloads stage.stageRef = .ok payloads ∧ payloads.length = 3 ∧
      ∀ p ∈ payloads, Accepted 3 Training.Sample.worker (fun _ => Training.Sample.refs "new") run
          Sample.started p ∧
        nextUpdate run p ∉ (afterAlone 3 Training.Sample.worker
          (fun _ _ => Training.Sample.refs "new") (flushUpdates run.runRef)
          (Sample.outboxOf (nextUpdate run p))).ledger.updates := by
  obtain ⟨run, stage, h, -, hfits⟩ := Sample.exists_delivering
  have hiff := @emitted_accepted_iff 3 _ _ _ _ _ h Sample.launch _ rfl
  have haccepted := hiff.1.2 fun _ => ⟨by decide +kernel, hfits⟩
  refine ⟨run, stage, _, rfl, rfl, fun p hp => ⟨haccepted p hp, fun hblocked => ?_⟩⟩
  exact (hiff.2 p hp _ _ rfl rfl (Sample.atHead_outboxOf run p)).1 hblocked (haccepted p hp)

end DataJuicer.TrainingWorker
