import DataJuicer.Navigation.TaskStore

/-! # User guidance

`append_user_guidance` of the observation store: it advances the guidance of a task and
records the observation and the evidence of it in one transaction.
-/

namespace DataJuicer.Navigation

open Transaction

def latestRevision? (db : NavigationDb) (taskId : String) : Option NavigationObservationRevision :=
  (db.observations.select fun o => o.taskId = taskId).foldl (fun best o =>
    match best with
    | some b => if o.revision ≤ b.revision then best else some o
    | none => some o) none

/-- What the evidence writer returns for a payload, when it does not raise. -/
structure WrittenEvidence where
  ref : String
  byteSize : ℕ
  createdAt : String

/-- The arguments of `append_user_guidance`. -/
structure UserGuidance where
  taskId : String
  text : String
  sceneMode : Option SceneMode
  expectedStateRevision : ℕ
  /-- The outcome of `evidence_store.write`. -/
  written : Option WrittenEvidence

def guidanceObservation (g : UserGuidance) (guidanceRevision : ℤ)
    (previous : Option NavigationObservationRevision) (ref : String) (now : Timestamp) :
    NavigationObservationRevision :=
  let kinds := previous.elim [] (·.completedKinds)
  { taskId := g.taskId
    revision := previous.elim 1 (·.revision + 1)
    completedKinds :=
      if .userGuidance ∈ kinds then kinds else kinds ++ [.userGuidance]
    payloads := mergePayload (previous.elim [] (·.payloads)) (.userGuidance guidanceRevision g.text)
    evidenceRefs := [ref]
    createdAt := now }

def guidanceDescriptor (o : NavigationObservationRevision) (guidanceRevision : ℤ)
    (w : WrittenEvidence) : EvidenceDescriptor where
  ref := w.ref
  taskId := o.taskId
  observationRevision := o.revision
  kind := "user_guidance"
  summary := "navigation user guidance revision " ++ toString guidanceRevision
  byteSize := w.byteSize
  sourceTool := "record_navigation_user_guidance_tool"
  createdAt := w.createdAt

def appendUserGuidance (call : Call) (g : UserGuidance) (db : NavigationDb) :
    Except NavigationError ((ℤ × NavigationObservationRevision) × NavigationDb) := do
  authorizeNavigationTaskWrite db g.taskId call
  match db.tasks.find? g.taskId with
  | none => .error (.keyError g.taskId)
  | some t =>
    raiseIf (t.stateRevision ≠ g.expectedStateRevision)
      (.taskStateRevision "navigation task state revision changed")
    let guidanceRevision := t.guidanceRevision + 1
    let db := db.updateTasks
      (fun t => t.taskId = g.taskId ∧ t.stateRevision = g.expectedStateRevision) fun t =>
      { t with
        guidanceRevision := guidanceRevision, sceneMode := g.sceneMode.or t.sceneMode
        updatedAt := utcNow call.now, stateRevision := t.stateRevision + 1 }
    match g.written with
    | none => .error .evidenceStore
    | some w =>
      let observation :=
        guidanceObservation g guidanceRevision (latestRevision? db g.taskId) w.ref call.now
      let db ← constrained (db.insertObservation? observation)
      let db ← constrained (db.insertEvidence? (guidanceDescriptor observation guidanceRevision w))
      return ((guidanceRevision, observation), db)

end DataJuicer.Navigation
