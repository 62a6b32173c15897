import DataJuicer.Lib.RoundedRationals
import DataJuicer.TrainingWorker.LogEvents

/-! # Update payloads

The dicts that the worker puts into its outbox: what it started, heard from and collected of
a stage, and how the stage ended as far as the worker knows.
-/

namespace DataJuicer.TrainingWorker

def refValue : Option String → Json
  | some ref => .str ref
  | none => .null

/-- The first entries of most payloads. -/
def payloadHead (kind : String) (stageRef : Option String) : Dict :=
  [("kind", .str kind), ("stage_ref", refValue stageRef)]

/-- `repr` of a finite double. -/
structure FloatRepr where
  text : ℚ → String
  text_size : ∀ q, utf8Size (text q) ≤ 24

def FloatRepr.float (p : FloatRepr) (q : ℚ) : PyFloat := ⟨some q, p.text q, p.text_size q⟩

/-- A GPU of the node as the collector samples it; `int` reads at most 4300 digits. -/
structure GpuSample where
  uuid : String
  index : ℤ
  memoryUsedBytes : ℤ
  utilizationPercent : PyFloat
  temperatureCelsius : PyFloat
  index_digits : index.natAbs < 10 ^ 4300

def finiteEntry (key : String) (x : PyFloat) : Dict :=
  if x.value ≠ none then [(key, .float x)] else []

def memoryEntry (p : FloatRepr) (bytes : ℤ) : Dict :=
  if 0 ≤ bytes then [("gpu_memory_mib", .float (p.float (roundRat (bytes / (1024 * 1024)))))]
  else []

/-- An element of `_gpu_samples`. -/
def GpuSample.fields (p : FloatRepr) (g : GpuSample) : Dict :=
  [("uuid", .str g.uuid), ("index", .int g.index)] ++
    (finiteEntry "utilization_percent" g.utilizationPercent ++
      (memoryEntry p g.memoryUsedBytes ++ finiteEntry "temperature_celsius" g.temperatureCelsius))

/-- The GPUs of a run that the collector has found. -/
def requestedGpus (requested : List String) (found : List GpuSample) : List GpuSample :=
  found.filter fun g => g.uuid ∈ requested

/-- `_gpu_samples` of what the collector found. -/
def gpuSamples (p : FloatRepr) (requested : List String) (found : List GpuSample) : List Json :=
  (requestedGpus requested found).map fun g => .obj (g.fields p)

/-- The metric of the GPUs of a run, when there are samples. -/
def gpuUpdates (p : FloatRepr) (stageRef : Option String) (requested : List String)
    (found : List GpuSample) : List Dict :=
  if gpuSamples p requested found = [] then []
  else [payloadHead "metric" stageRef ++ [("gpus", .arr (gpuSamples p requested found))]]

/-- `_queue_launch_started` -/
def launchUpdates (p : FloatRepr) (stageRef : String) (stageNumber : ℕ) (requested : List String)
    (found : List GpuSample) : List Dict :=
  [payloadHead "accepted" stageRef,
    payloadHead "started" stageRef ++ [("stage_number", .int stageNumber)]] ++
    gpuUpdates p stageRef requested found

/-- What a tick queues for a running stage after five seconds. -/
def heartbeatUpdates (p : FloatRepr) (stageRef : Option String) (requested : List String)
    (found : List GpuSample) : List Dict :=
  payloadHead "heartbeat" stageRef :: gpuUpdates p stageRef requested found

def logUpdate (stageRef : Option String) (chunk : String) : Dict :=
  payloadHead "log" stageRef ++ [("level", .str "info"), ("message", .str chunk)]

/-- The payloads of `_collect_log`; nothing is queued when no line is shown. -/
def logUpdates (stageRef : Option String) (lines : List String) (events : List Dict) :
    List Dict :=
  if lines = [] then []
  else (chunks (maxLogLineBytes - 1) (joinLines lines)).map (logUpdate stageRef) ++
    events.map fun event => Json.set event "stage_ref" (refValue stageRef)

def exitedUpdate (stageRef : Option String) (exitCode : ℤ) : Dict :=
  payloadHead "exited" stageRef ++
    [("status", .str (if exitCode = 0 then "succeeded" else "failed")),
      ("exit_code", .int exitCode)] ++
    if exitCode = 0 then []
    else [("failure_code", .str "training_process_exit"),
      ("failure_message",
        .str ("Training process exited with status " ++ Json.intText exitCode ++ "."))]

/-- The end of a stage that was stopped. -/
def cancelledUpdate (stageRef : Option String) : Dict :=
  payloadHead "exited" stageRef ++ [("status", .str "cancelled"), ("exit_code", .null)]

def reconciliationUpdate (stageRef : Option String) (status reason : String) : Dict :=
  payloadHead "reconciliation" stageRef ++ [("status", .str status), ("reason", .str reason)]

/-- What a probe of a process finds. -/
inductive ProbeStatus
  | matched
  | missing
  | mismatch
  | unverifiable

def ProbeStatus.value : ProbeStatus → String
  | .matched => "matched"
  | .missing => "missing"
  | .mismatch => "mismatch"
  | .unverifiable => "unverifiable"

/-- What a restarted worker says about a stage by the probe of its supervisor. -/
def reconciledUpdate (stageRef : Option String) (probe : ProbeStatus) (childExists : Bool) :
    Dict :=
  let status := match probe with
    | .matched => "running"
    | .missing => if childExists then "unresolved" else "lost"
    | _ => "unresolved"
  reconciliationUpdate stageRef status probe.value

def supervisorMissingUpdate (stageRef : Option String) (childExists : Bool) : Dict :=
  reconciliationUpdate stageRef (if childExists then "unresolved" else "lost")
    "supervisor_missing"

end DataJuicer.TrainingWorker
