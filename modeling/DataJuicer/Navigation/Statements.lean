import DataJuicer.Navigation.Schema

/-! # Statements

The SQL statements of the stores as functions on the database. A statement on a child table
fires the aggregate-revision trigger once for each row it touches.
-/

namespace DataJuicer.Navigation.NavigationDb

variable (db : NavigationDb)

/-- The triggers: one is added to `state_revision` for each child row of a task. -/
def touch (ids : List String) : NavigationDb :=
  { db with tasks := db.tasks.update (fun _ => True) fun t =>
      { t with stateRevision := t.stateRevision + ids.count t.taskId } }

/-- An `UPDATE` of `navigation_tasks`, which has no trigger of its own. -/
def updateTasks (p : TaskRow → Prop) [DecidablePred p] (f : TaskRow → TaskRow)
    (hf : ∀ r, key (f r) = key r := by exact fun _ => rfl) : NavigationDb :=
  { db with tasks := db.tasks.update p f hf }

def updateSteps (p : StepRow → Prop) [DecidablePred p] (f : StepRow → StepRow)
    (hf : ∀ r, key (f r) = key r := by exact fun _ => rfl) : NavigationDb :=
  touch { db with steps := db.steps.update p f hf } ((db.steps.select p).map (·.taskId))

def updatePlans (p : PlanRow → Prop) [DecidablePred p] (f : PlanRow → PlanRow)
    (hf : ∀ r, key (f r) = key r := by exact fun _ => rfl) : NavigationDb :=
  touch { db with plans := db.plans.update p f hf } ((db.plans.select p).map (·.taskId))

def updateOutbox (p : OutboxRow → Prop) [DecidablePred p] (f : OutboxRow → OutboxRow)
    (hf : ∀ r, key (f r) = key r := by exact fun _ => rfl) : NavigationDb :=
  touch { db with outbox := db.outbox.update p f hf } ((db.outbox.select p).map (·.taskId))

def updateHandoffs (p : HandoffRow → Prop) [DecidablePred p] (f : HandoffRow → HandoffRow)
    (hf : ∀ r, key (f r) = key r := by exact fun _ => rfl) : NavigationDb :=
  touch { db with handoffs := db.handoffs.update p f hf }
    ((db.handoffs.select p).map (·.taskId))

def updateOutcomes (p : OutcomeRow → Prop) [DecidablePred p] (f : OutcomeRow → OutcomeRow)
    (hf : ∀ r, key (f r) = key r := by exact fun _ => rfl) : NavigationDb :=
  touch { db with outcomes := db.outcomes.update p f hf }
    ((db.outcomes.select p).map (·.taskId))

def deletePlans (p : PlanRow → Prop) [DecidablePred p] : NavigationDb :=
  touch { db with plans := db.plans.delete p } ((db.plans.select p).map (·.taskId))

def deleteOutbox (p : OutboxRow → Prop) [DecidablePred p] : NavigationDb :=
  touch { db with outbox := db.outbox.delete p } ((db.outbox.select p).map (·.taskId))

def deleteHandoffs (p : HandoffRow → Prop) [DecidablePred p] : NavigationDb :=
  touch { db with handoffs := db.handoffs.delete p } ((db.handoffs.select p).map (·.taskId))

def deleteAttempts (p : AttemptRow → Prop) [DecidablePred p] : NavigationDb :=
  touch { db with attempts := db.attempts.delete p } ((db.attempts.select p).map (·.taskId))

def deleteOutcomes (p : OutcomeRow → Prop) [DecidablePred p] : NavigationDb :=
  touch { db with outcomes := db.outcomes.delete p } ((db.outcomes.select p).map (·.taskId))

def deleteLineage (p : LineageRow → Prop) [DecidablePred p] : NavigationDb :=
  touch { db with lineage := db.lineage.delete p } ((db.lineage.select p).map (·.childTaskId))

def insertTask? (r : TaskRow) : Option NavigationDb :=
  (db.tasks.insert? r).map fun t => { db with tasks := t }

def insertPlan? (r : PlanRow) : Option NavigationDb :=
  (db.plans.insert? r).map fun t => touch { db with plans := t } [r.taskId]

def insertStep? (r : StepRow) : Option NavigationDb :=
  (db.steps.insert? r).map fun t => touch { db with steps := t } [r.taskId]

def insertOutbox? (r : OutboxRow) : Option NavigationDb :=
  (db.outbox.insert? r).map fun t => touch { db with outbox := t } [r.taskId]

def insertHandoff? (r : HandoffRow) : Option NavigationDb :=
  (db.handoffs.insert? r).map fun t => touch { db with handoffs := t } [r.taskId]

def insertAttempt? (r : AttemptRow) : Option NavigationDb :=
  (db.attempts.insert? r).map fun t => touch { db with attempts := t } [r.taskId]

def insertOutcome? (r : OutcomeRow) : Option NavigationDb :=
  (db.outcomes.insert? r).map fun t => touch { db with outcomes := t } [r.taskId]

def insertLineage? (r : LineageRow) : Option NavigationDb :=
  (db.lineage.insert? r).map fun t => touch { db with lineage := t } [r.childTaskId]

def insertObservation? (r : NavigationObservationRevision) : Option NavigationDb :=
  (db.observations.insert? r).map fun t => touch { db with observations := t } [r.taskId]

def insertEvidence? (r : EvidenceDescriptor) : Option NavigationDb :=
  (db.evidence.insert? r).map fun t => touch { db with evidence := t } [r.taskId]

end DataJuicer.Navigation.NavigationDb
