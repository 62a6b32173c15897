import DataJuicer.Lib.Json
import DataJuicer.Training.Updates

/-! # Update requests of a Training Worker

`TrainingRunUpdateRequest` checks the updates of a request before the store reads them. The
checks and the reading are both on the dicts that the worker sent.
-/

namespace DataJuicer.Training

open Transaction

/-- A character of a reference after the first. -/
def RefChar (c : Char) : Prop := c.isAlphanum ∨ c = '_' ∨ c = '.' ∨ c = ':' ∨ c = '-'

instance : DecidablePred RefChar := fun _ => inferInstanceAs (Decidable (_ ∨ _ ∨ _ ∨ _ ∨ _))

def SafeRef (s : String) : Prop :=
  ∃ c ∈ s.toList.head?, c.isAlphanum ∧ s.toList.length ≤ 200 ∧ ∀ d ∈ s.toList.tail, RefChar d

instance : DecidablePred SafeRef := fun s =>
  have := List.decidableBAll RefChar s.toList.tail
  Option.decidableExistsMem
    (p := fun c : Char => c.isAlphanum ∧ s.toList.length ≤ 200 ∧ ∀ d ∈ s.toList.tail, RefChar d)
    s.toList.head?

/-- A reference that `new_ref(label)` draws: the label and 32 hexadecimal digits. -/
def DrawnRef (label ref : String) : Prop :=
  ref.toList.length = label.toList.length + 33 ∧ (label ++ "_").toList <+: ref.toList ∧
    ∀ c ∈ ref.toList.drop (label.toList.length + 1), c ∈ "0123456789abcdef".toList

instance (label ref : String) : Decidable (DrawnRef label ref) :=
  have := List.decidableBAll (fun c => c ∈ "0123456789abcdef".toList)
    (ref.toList.drop (label.toList.length + 1))
  inferInstanceAs (Decidable (_ ∧ _ ∧ _))

theorem DrawnRef.safeRef {ref : String} (h : DrawnRef "stage" ref) : SafeRef ref := by
  obtain ⟨hlen, ⟨digits, htext⟩, hdigits⟩ := h
  have hall : "0123456789abcdef".toList.all (RefChar ·) = true := by decide
  have hhex : ∀ c ∈ "0123456789abcdef".toList, RefChar c := fun c hc =>
    of_decide_eq_true (List.all_eq_true.1 hall c hc)
  have hhead : ("stage" ++ "_").toList = ['s', 't', 'a', 'g', 'e', '_'] := by decide
  rw [hhead] at htext
  have hlen' : ref.toList.length = 38 := hlen
  refine ⟨'s', ?_, by decide, by omega, ?_⟩
  · rw [← htext]
    rfl
  · intro c hc
    rw [← htext] at hc hdigits
    simp only [List.cons_append, List.nil_append, List.tail_cons, List.mem_cons] at hc
    rcases hc with rfl | rfl | rfl | rfl | rfl | hc
    · decide
    · decide
    · decide
    · decide
    · decide
    · exact hhex c (hdigits c hc)

def FiniteField : Json → Prop
  | .null => True
  | v => v.Finite

instance : DecidablePred FiniteField := by
  rintro (_ | _) <;> unfold FiniteField <;> infer_instance

/-- A step field that is missing or a natural number. -/
def CountField : Json → Prop
  | .null => True
  | .int n => 0 ≤ n
  | _ => False

instance : DecidablePred CountField := by
  rintro (_ | _) <;> unfold CountField <;> infer_instance

def WithinField (low : ℚ) (high : Option ℚ) : Json → Prop
  | .int n => low ≤ n ∧ ∀ h ∈ high, n ≤ h
  | .float x => ∀ v ∈ x.value, low ≤ v ∧ ∀ h ∈ high, v ≤ h
  | _ => True

instance (low : ℚ) (high : Option ℚ) : DecidablePred (WithinField low high) := by
  rintro (_ | _) <;> unfold WithinField <;> infer_instance

def readLineMessage : Json → Json
  | .obj line => .get line "message"
  | line => line

def lineMessage (line : Json) : Except String String :=
  match readLineMessage line with
  | .str m => .ok m
  | _ => .error "log line must be text"

def logMessages (value : Dict) : Except String (List String) := do
  let first ← match Json.get value "message" with
    | .null => .ok []
    | .str m => .ok [m]
    | _ => .error "log message must be text"
  let lines ← match Json.get value "lines" with
    | .null => .ok []
    | .arr lines =>
      if 200 < lines.length then .error "log lines must contain at most 200 items"
      else lines.mapM lineMessage
    | _ => .error "log lines must contain at most 200 items"
  return first ++ lines

def validateLog (value : Dict) : Except String Unit := do
  let messages ← logMessages value
  raiseIf (200 < messages.length) "log update must contain at most 200 lines"
  raiseIf (messages = [] ∨ ∃ m ∈ messages, 16384 < utf8Size m)
    "log lines must be between 1 and 16384 bytes"
  raiseIf (262144 < (messages.map utf8Size).sum) "log update exceeds the 256 KiB batch limit"

/-- One GPU sample; `seen` are the identities of the samples before it. -/
def validateGpu (seen : List String) : Json → Except String (List String)
  | .obj gpu => do
    raiseIf (∃ e ∈ gpu, e.1 ∉ ["uuid", "index", "utilization_percent", "gpu_memory_mib",
      "temperature_celsius"]) "metric GPU sample has unsupported fields"
    let uuid ← match Json.get gpu "uuid", Json.get gpu "index" with
      | .str uuid, .int index =>
        if ¬ SafeRef uuid ∨ uuid ∈ seen ∨ index < 0 then
          .error "metric GPU sample identity is invalid"
        else .ok uuid
      | _, _ => .error "metric GPU sample identity is invalid"
    raiseIf (∃ field ∈ ["utilization_percent", "gpu_memory_mib", "temperature_celsius"],
      ¬ FiniteField (.get gpu field)) "metric GPU values must be finite numbers"
    raiseIf (¬ WithinField 0 (some 100) (.get gpu "utilization_percent"))
      "metric GPU utilization is outside 0..100"
    raiseIf (¬ WithinField 0 none (.get gpu "gpu_memory_mib"))
      "metric GPU memory must not be negative"
    return uuid :: seen
  | _ => .error "metric GPU sample has unsupported fields"

def validateGpus : List String → List Json → Except String Unit
  | _, [] => .ok ⟨⟩
  | seen, gpu :: gpus => do
    let seen ← validateGpu seen gpu
    validateGpus seen gpus

def metricFields : List String :=
  ["step", "total_steps", "epoch", "loss", "learning_rate", "grad_norm", "elapsed_seconds"]

def validateMetric (value : Dict) : Except String Unit := do
  raiseIf (∃ key ∈ metricFields, ¬ FiniteField (.get value key))
    "metric fields must be finite numbers"
  raiseIf (∃ key ∈ ["step", "total_steps"], ¬ CountField (.get value key))
    "metric step fields must be non-negative integers"
  match (value.lookup "gpus").getD (.arr []) with
  | .arr gpus =>
    raiseIf (8 < gpus.length) "metric GPU samples must contain at most 8 items"
    validateGpus [] gpus
  | _ => .error "metric GPU samples must contain at most 8 items"

def validateCheckpoint (value : Dict) : Except String Unit :=
  match Json.get value "relative_path" with
  | .str path => raiseIf (1024 < path.toList.length) "checkpoint relative_path is invalid"
  | _ => .error "checkpoint relative_path is invalid"

def validateStageRef (value : Dict) : Except String Unit :=
  match Json.get value "stage_ref" with
  | .null => .ok ⟨⟩
  | .str ref => raiseIf (¬ SafeRef ref) "training update contains an invalid stage_ref"
  | _ => .error "training update contains an invalid stage_ref"

def updateKinds : List String :=
  ["accepted", "started", "heartbeat", "log", "metric", "checkpoint", "exited", "reconciliation"]

/-- One turn of the loop of `validate_updates`. -/
def validateUpdate (value : Dict) : Except String Unit :=
  match Json.get value "kind" with
  | .str kind => do
    raiseIf (kind ∉ updateKinds) "training update contains an unsupported kind"
    validateStageRef value
    if kind = "log" then validateLog value
    else if kind = "metric" then validateMetric value
    else if kind = "checkpoint" then validateCheckpoint value
    else return ⟨⟩
  | _ => .error "training update contains an unsupported kind"

def validateUpdates (values : List Dict) : Except String Unit := do
  raiseIf (524288 < Json.encodedSize (.arr (values.map .obj)))
    "training update batch exceeds 512 KiB"
  values.forM validateUpdate

/-- `value or …` for a text; another value that counts as true is the text of no level. -/
def truthyText : Json → Option String
  | .str s => some s
  | .null | .bool false | .int 0 | .arr [] | .obj [] => none
  | _ => some "object"

def naturalField : Json → Option ℕ
  | .int n => some n.toNat
  | _ => none

def integerField : Json → Option ℤ
  | .int n => some n
  | _ => none

/-- The text of a number in `metric_payload_json`. -/
def numberText : Json → Option String
  | .int n => some (toString n)
  | .float x => some x.repr
  | _ => none

def readLogLine (line : Json) : LogLine :=
  match line with
  | .obj line => ⟨truthyText (.get line "message"), truthyText (.get line "level")⟩
  | line => ⟨truthyText line, none⟩

def readExit (value : Dict) : Exit where
  status := truthyText (.get value "status")
  failureCode := truthyText (.get value "failure_code")
  failureMessage := truthyText (.get value "failure_message")

/-- What `_apply_training_update_in` reads of an update. -/
def readBody (value : Dict) : UpdateBody :=
  match Json.get value "kind" with
  | .str "accepted" => .accepted
  | .str "started" => .started
  | .str "log" =>
    let lines := match Json.get value "lines" with
      | .arr lines => lines
      | _ => [.obj value]
    .log (truthyText (.get value "level")) (lines.map readLogLine)
  | .str "metric" =>
    .metric (naturalField (.get value "step")) (naturalField (.get value "total_steps"))
      (metricFields.filterMap fun key => (numberText (.get value key)).map (key, ·))
  | .str "checkpoint" =>
    .checkpoint ((truthyText (.get value "relative_path")).getD "")
      (integerField (.get value "step"))
  | .str "reconciliation" => .reconciliation (readExit value)
  | .str "exited" => .exited (readExit value)
  | _ => .heartbeat

def readUpdate (value : Dict) : TrainingUpdate :=
  ⟨truthyText (.get value "stage_ref"), readBody value⟩

/-- A `TrainingRunUpdateRequest` for a run. -/
structure UpdateRequest where
  runRef : String
  ownerEpoch : ℕ
  workerSeq : ℕ
  updates : List Dict

/-- The fields of a request that is not refused as malformed. -/
def validateRequest (q : UpdateRequest) : Except String Unit := do
  raiseIf (q.ownerEpoch < 1) "owner_epoch must be at least 1"
  raiseIf (q.workerSeq < 1) "worker_seq must be at least 1"
  raiseIf (q.updates = [] ∨ 200 < q.updates.length) "updates must contain 1 to 200 items"
  validateUpdates q.updates

def invalidRequest (message : String) : TrainingError :=
  .validation "request_validation_error" message

/-- The request with the references that the centre draws for its updates. -/
def UpdateRequest.batch (q : UpdateRequest) (refs : ℕ → NewRefs) : UpdateBatch where
  runRef := q.runRef
  ownerEpoch := q.ownerEpoch
  workerSeq := q.workerSeq
  updates := q.updates.mapIdx fun i value => (readUpdate value, refs i)

def updateTrainingRun (now : Timestamp) (w : WorkerCredential) (refs : ℕ → NewRefs)
    (q : UpdateRequest) (db : Database) : Except TrainingError (RunView × Database) := do
  (validateRequest q).mapError invalidRequest
  applyTrainingRunUpdates now w (q.batch refs) db

end DataJuicer.Training
