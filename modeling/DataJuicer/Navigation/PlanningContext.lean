import DataJuicer.Lib.Sha256
import DataJuicer.Navigation.TaskStore

/-! # The planning context

A plan is written against a context: the request of the task, its guidance and the facts
observed. The revision of the context is a digest of these, with the keys in order.
-/

namespace DataJuicer.Navigation

open PyStr Transaction

def jsonField (name : String) (value : PyStr) : PyStr := encodeAscii (ofString name) ++ 58 :: value

def jsonText (s : String) : PyStr := encodeAscii (ofString s)

def jsonNull : PyStr := ofString "null"

def jsonSegments : Option (List PyStr) → PyStr
  | none => jsonNull
  | some l => 91 :: List.intercalate [44] (l.map encodeAscii) ++ [93]

def computePlanningContextRevision (task : TaskRow) (observationRevision : ℕ)
    (capabilityRevision : String) : String :=
  let fields := [
    jsonField "capability_revision" (jsonText capabilityRevision),
    jsonField "date" (jsonText task.date),
    jsonField "guidance_revision" (ofString (toString task.guidanceRevision)),
    jsonField "observation_revision" (ofString (toString observationRevision)),
    jsonField "request" (jsonText task.request),
    jsonField "scene_mode" (task.sceneMode.elim jsonNull fun m => jsonText m.value),
    jsonField "segments" (jsonSegments task.segments),
    jsonField "target" (jsonText task.target),
    jsonField "task_id" (jsonText task.taskId)]
  let payload := 123 :: List.intercalate [44] fields ++ [125]
  String.ofList ((Sha256.digest payload).flatMap fun b =>
    [Sha256.hexDigit (b / 16), Sha256.hexDigit (b % 16)])

/-- `MAX(revision)` of the observations of a task. -/
def latestObservation? (db : NavigationDb) (taskId : String) : Option ℕ :=
  ((db.observations.select fun o => o.taskId = taskId).map (·.revision)).max?

/-- The fence of `activate`: the plan was written against the current context. -/
def checkPlanningContext (db : NavigationDb) (task : TaskRow) (observationRevision : ℕ)
    (expected capabilityRevision : Option String) : Except NavigationError Unit :=
  match expected, capabilityRevision with
  | none, _ => .ok ()
  | some _, none => .error (.valueError "capability revision is required for context fencing")
  | some revision, some capability => do
    raiseIf (latestObservation? db task.taskId ≠ some observationRevision)
      (.runtimeError "navigation planning context observation changed")
    raiseIf (computePlanningContextRevision task observationRevision capability ≠ revision)
      (.runtimeError "navigation planning context changed")

end DataJuicer.Navigation
