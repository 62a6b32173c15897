import DataJuicer.Lib.Json

/-! # Events of a training log

The worker reads the log of a training process by lines, shows them as text and takes
metrics and checkpoints from them. The texts that the standard library reads are what
`Readers` makes of them.
-/

namespace DataJuicer.TrainingWorker

inductive MonitoringFormat
  | plain
  | transformers
  | jsonl
  deriving DecidableEq

/-- A reader refuses a text with the error that its caller handles, or raises another one. -/
inductive ReadError
  | malformed
  | raised

/-- What the standard library makes of bytes and texts. -/
structure Readers where
  /-- `bytes.decode("utf-8", errors="replace")` -/
  decode : List UInt8 → String
  /-- `json.loads` -/
  loads : String → Except ReadError Json
  /-- `ast.literal_eval`; a value that JSON does not have is read as `null`. -/
  literalEval : String → Except ReadError Json
  /-- The numbers of the last match of `(?<!\d)(\d+)\s*/\s*(\d+)(?!\d)`, unless `int` raises. -/
  progress : String → Except ReadError (Option (ℕ × ℕ))
  /-- `str.encode("utf-8")` takes the text; one with a lone surrogate is read as another that stands
  for it, which is not taken. -/
  encodable : String → Bool

/-- `_checkpoint_exists`; a path with a lone surrogate makes it raise. -/
abbrev CheckpointExists := Dict → Except ReadError Bool

def maxLogLineBytes : ℕ := 16 * 1024

/-- `str.replace` of a text that is not empty. -/
def replaceAll (old new : List Char) : List Char → List Char
  | [] => []
  | c :: cs =>
    if old.isPrefixOf (c :: cs) then new ++ replaceAll old new (cs.drop (old.length - 1))
    else c :: replaceAll old new cs
  termination_by s => s.length
  decreasing_by all_goals simp only [List.length_cons, List.length_drop]; omega

/-- The secrets of a run are not shown. -/
def redact (redactions : List String) (s : String) : String :=
  redactions.foldl (fun s secret =>
    if secret = "" then s
    else String.ofList (replaceAll secret.toList "********".toList s.toList)) s

def lineText (r : Readers) (redactions : List String) (raw : List UInt8) : String :=
  redact redactions (r.decode ((raw.rdropWhile fun b => b = 13 ∨ b = 10).take maxLogLineBytes))

/-- How much of a terminal control sequence has been read. -/
inductive CsiState
  | text
  | escape
  | parameters
  | intermediates

/-- `_ANSI_CSI.sub("", …)`; `held` is the part of a sequence that has been read. -/
def removeCsi : CsiState → List Char → List Char → List Char
  | _, held, [] => held
  | state, held, c :: cs =>
    if c = '\x1b' then held ++ removeCsi .escape ['\x1b'] cs
    else match state with
      | .text => c :: removeCsi .text [] cs
      | .escape =>
        if c = '[' then removeCsi .parameters (held ++ [c]) cs
        else held ++ c :: removeCsi .text [] cs
      | .parameters =>
        if '0' ≤ c ∧ c ≤ '?' then removeCsi .parameters (held ++ [c]) cs
        else if ' ' ≤ c ∧ c ≤ '/' then removeCsi .intermediates (held ++ [c]) cs
        else if '@' ≤ c ∧ c ≤ '~' then removeCsi .text [] cs
        else held ++ c :: removeCsi .text [] cs
      | .intermediates =>
        if ' ' ≤ c ∧ c ≤ '/' then removeCsi .intermediates (held ++ [c]) cs
        else if '@' ≤ c ∧ c ≤ '~' then removeCsi .text [] cs
        else held ++ c :: removeCsi .text [] cs

def normaliseTerminalRecord (value : String) : String :=
  String.ofList (removeCsi .text [] (value.toList.rtakeWhile (· ≠ '\r')))

/-- The components of a `PurePosixPath`. -/
def posixParts (path : String) : List String :=
  (path.splitOn "/").filter fun part => part ≠ "" ∧ part ≠ "."

def SafeRelativePath (value : String) : Prop :=
  value ≠ "" ∧ '\\' ∉ value.toList ∧ '\x00' ∉ value.toList ∧ value.toList.head? ≠ some '/' ∧
    ∀ part ∈ posixParts value, part ∉ ["", ".", ".."]

instance : DecidablePred SafeRelativePath := fun _ => by
  unfold SafeRelativePath
  infer_instance

/-- The matches of `\{[^{}\r\n]*\}`; `held` is the part of a match that has been read. -/
def embedded : Option (List Char) → List Char → List String
  | _, [] => []
  | held, c :: cs =>
    if c = '{' then embedded (some ['{']) cs
    else match held with
      | none => embedded none cs
      | some h =>
        if c = '}' then String.ofList (h ++ ['}']) :: embedded none cs
        else if c = '\r' ∨ c = '\n' then embedded none cs
        else embedded (some (h ++ [c])) cs

def firstDict (r : Readers) (format : MonitoringFormat) :
    List String → Except ReadError (Option Dict)
  | [] => .ok none
  | item :: items =>
    match r.loads item with
    | .ok (.obj d) => .ok (some d)
    | .ok _ => firstDict r format items
    | .error .raised => .error .raised
    | .error .malformed =>
      if format ≠ .transformers then .ok none
      else match r.literalEval item with
        | .ok (.obj d) => .ok (some d)
        | .error .raised => .error .raised
        | _ => firstDict r format items

/-- The field of an event that is a natural number. -/
def countField (parsed : Dict) (key : String) : Dict :=
  match Json.get parsed key with
  | .int n => if 0 ≤ n then [(key, .int n)] else []
  | _ => []

def checkpointEvent (parsed : Dict) : Option Dict :=
  match Json.get parsed "relative_path" with
  | .str path =>
    if SafeRelativePath path then
      some ([("kind", .str "checkpoint"), ("relative_path", .str path)] ++
        countField parsed "step")
    else none
  | _ => none

/-- The field of an event that is a finite number; `float` raises for a huge integer. -/
def numberField (parsed : Dict) (key : String) : Except ReadError Dict :=
  match Json.get parsed key with
  | .int n => if (Json.int n).Finite then .ok [(key, .int n)] else .error .raised
  | .float x => .ok (if (Json.float x).Finite then [(key, .float x)] else [])
  | _ => .ok []

/-- The step that a progress bar shows, when the event names none. -/
def addProgress (r : Readers) (format : MonitoringFormat) (candidate : String) (metric : Dict) :
    Except ReadError Dict :=
  if format = .transformers ∧ "step" ∉ metric.map Prod.fst then do
    match ← r.progress (String.ofList (candidate.toList.takeWhile (· ≠ '{'))) with
    | some (current, total) =>
      return if current ≤ total then
        Json.set (Json.set metric "step" (.int current)) "total_steps" (.int total)
      else metric
    | none => return metric
  else .ok metric

def metricEvent (r : Readers) (format : MonitoringFormat) (candidate : String) (parsed : Dict) :
    Except ReadError (Option Dict) := do
  let counts := countField parsed "step" ++ countField parsed "total_steps"
  let epoch ← numberField parsed "epoch"
  let loss ← numberField parsed "loss"
  let learningRate ← numberField parsed "learning_rate"
  let gradNorm ← numberField parsed "grad_norm"
  let metric ← addProgress r format candidate
    (counts ++ epoch ++ loss ++ learningRate ++ gradNorm)
  return if metric = [] then none else some (("kind", .str "metric") :: metric)

def eventPrefix : String := "DATAPILOT_EVENT "

def parseEvent (r : Readers) (line : String) (format : MonitoringFormat) :
    Except ReadError (Option Dict) := do
  if format = .plain then return none
  let text := stripText line
  let candidate := if eventPrefix.toList.isPrefixOf text.toList then
    String.ofList (text.toList.drop eventPrefix.length) else text
  let candidates := candidate :: if format = .transformers then
    (embedded none candidate.toList).filter (· ≠ candidate) else []
  match ← firstDict r format candidates with
  | none => return none
  | some parsed =>
    if Json.get parsed "contract" = .str "datapilot_training_event_v1" then
      if Json.get parsed "type" = .str "checkpoint" then return checkpointEvent parsed
      if Json.get parsed "type" ≠ .str "metric" then return none
    metricEvent r format candidate parsed

/-- What a run says about its log. -/
structure LogSource where
  stageRef : Option String
  monitoringFormat : MonitoringFormat
  redactions : List String

def lineEvent (r : Readers) (present : CheckpointExists) (source : LogSource) (text : String) :
    Except ReadError (List Dict) := do
  match ← parseEvent r text source.monitoringFormat with
  | some event =>
    if Json.get event "kind" ≠ .str "checkpoint" then return [event]
    return if ← present event then [event] else []
  | none => return []

def readLines (r : Readers) (present : CheckpointExists) (source : LogSource) :
    List (List UInt8) → Except ReadError (List String × List Dict)
  | [] => .ok ([], [])
  | raw :: rest => do
    let text := lineText r source.redactions raw
    let event ← lineEvent r present source text
    let line := normaliseTerminalRecord text
    let (lines, events) ← readLines r present source rest
    return (if line = "" then lines else line :: lines, event ++ events)

/-- The pieces of at most `n + 1` characters that a text is cut into. -/
def chunks (n : ℕ) : List Char → List String
  | [] => []
  | c :: cs => String.ofList (c :: cs.take n) :: chunks n (cs.drop n)
  termination_by s => s.length
  decreasing_by simp only [List.length_cons, List.length_drop]; omega

def joinLines (lines : List String) : List Char :=
  ['\n'].intercalate (lines.map String.toList)

end DataJuicer.TrainingWorker
