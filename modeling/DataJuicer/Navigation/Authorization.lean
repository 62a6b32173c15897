import DataJuicer.Lib.Transaction
import DataJuicer.Navigation.Statements

/-! # Requests, errors and write authorization

A request carries the time and the session pair of its caller. A write is allowed to the
newest task of exactly that pair; a result of a claimed step and the delivery of a staged
decision are allowed to the owner of the task even when it is no longer the newest.
-/

namespace DataJuicer.Navigation

open Transaction

/-- The exceptions of the stores. -/
inductive NavigationError
  | keyError (name : String)
  | permissionError (message : String)
  | taskNotCurrent (message : String)
  | taskOwnership (taskId : String) (expectedWeb : String) (requestedWeb : Option String)
  | taskStateRevision (message : String)
  | taskTransition (current target : TaskStatus)
  | activePlanExecutionConflict (message : String)
  | valueError (message : String)
  | validationError
  | runtimeError (message : String)
  | integrityError
  | evidenceStore
  deriving DecidableEq

/-- The subclasses of `PermissionError`. -/
def NavigationError.isPermissionError : NavigationError → Bool
  | permissionError _ | taskNotCurrent _ | taskOwnership .. => true
  | _ => false

/-- A statement that a constraint of the schema can refuse. -/
def constrained {α : Type} : Option α → Except NavigationError α
  | some a => .ok a
  | none => .error .integrityError

@[simp] theorem constrained_eq_ok {α : Type} {x : Option α} {a : α} :
    constrained x = .ok a ↔ x = some a := by
  cases x <;> simp [constrained]

/-- The time of a request and the session pair its caller expects to own the task. -/
structure Call where
  now : Timestamp
  web : Option String
  agentscope : Option String

namespace Call

def Owns (c : Call) (t : TaskRow) : Prop :=
  c.web = some t.createdByWebSessionId ∧ c.agentscope = some t.agentscopeSessionId

instance (c : Call) (t : TaskRow) : Decidable (c.Owns t) := instDecidableAnd

/-- Both session ids are non-empty strings. -/
def Identified (c : Call) : Prop :=
  c.web.any (fun s => !isBlank s) ∧ c.agentscope.any (fun s => !isBlank s)

instance (c : Call) : Decidable c.Identified := instDecidableAnd

end Call

def sessionMismatch : String := "navigation task session mismatch"

/-- `ORDER BY created_at DESC, rowid DESC LIMIT 1` over the tasks of a session pair. -/
def newestTask? (db : NavigationDb) (c : Call) : Option TaskRow :=
  db.tasks.rows.foldl (fun best t =>
    if c.Owns t then
      match best with
      | some b => if t.createdAt < b.createdAt then best else some t
      | none => some t
    else best) none

def authorizeNavigationTaskWrite (db : NavigationDb) (taskId : String) (c : Call) :
    Except NavigationError Unit :=
  match db.tasks.find? taskId with
  | none => .ok ()
  | some t => do
    raiseIf (¬ c.Owns t) (.permissionError sessionMismatch)
    raiseIf ((newestTask? db c).map (·.taskId) ≠ some taskId) (.taskNotCurrent sessionMismatch)

def authorizePlanWrite (db : NavigationDb) (planId : String) (c : Call) :
    Except NavigationError Unit :=
  match db.plans.find? planId with
  | none => .ok ()
  | some p => authorizeNavigationTaskWrite db p.taskId c

/-- A ledger step with its plan and its task, as the joins of the queries have them. -/
structure StepView where
  step : StepRow
  plan : PlanRow
  task : TaskRow

/-- The rows that a join on `plan_id` and `task_id` finds for a step. -/
def stepView? (db : NavigationDb) (planId stepId : String) : Option StepView :=
  match db.steps.find? (planId, stepId), db.plans.find? planId with
  | some s, some p => (db.tasks.find? s.taskId).map fun t => ⟨s, p, t⟩
  | _, _ => none

structure StepView.Joins (v : StepView) (db : NavigationDb) (planId stepId : String) : Prop where
  step_mem : v.step ∈ db.steps
  plan_mem : v.plan ∈ db.plans
  task_mem : v.task ∈ db.tasks
  step_planId : v.step.planId = planId
  step_stepId : v.step.stepId = stepId
  plan_planId : v.plan.planId = planId
  task_taskId : v.task.taskId = v.step.taskId

theorem stepView?_eq_some_iff {db : NavigationDb} {planId stepId : String} {v : StepView} :
    stepView? db planId stepId = some v ↔ v.Joins db planId stepId := by
  constructor
  · intro h
    unfold stepView? at h
    split at h
    · rename_i s p hs hp
      obtain ⟨t, ht, rfl⟩ := Option.map_eq_some_iff.1 h
      obtain ⟨hs, hsk⟩ := Table.find?_eq_some_iff.1 hs
      obtain ⟨hp, hpk⟩ := Table.find?_eq_some_iff.1 hp
      obtain ⟨ht, htk⟩ := Table.find?_eq_some_iff.1 ht
      obtain ⟨h₁, h₂⟩ := Prod.mk.inj hsk
      exact ⟨hs, hp, ht, h₁, h₂, hpk, htk⟩
    · cases h
  · rintro ⟨hs, hp, ht, h₁, h₂, h₃, h₄⟩
    have hs' : db.steps.find? (planId, stepId) = some v.step :=
      Table.find?_eq_some_iff.2 ⟨hs, Prod.ext h₁ h₂⟩
    have hp' : db.plans.find? planId = some v.plan := Table.find?_eq_some_iff.2 ⟨hp, h₃⟩
    have ht' : db.tasks.find? v.step.taskId = some v.task := Table.find?_eq_some_iff.2 ⟨ht, h₄⟩
    simp only [stepView?, hs', hp', ht', Option.map_some]

def authorizeClaimTerminalization (db : NavigationDb) (planId stepId action : String)
    (c : Call) : Except NavigationError StepView :=
  if isBlank action ∨ ¬ c.Identified then .error (.permissionError sessionMismatch)
  else match stepView? db planId stepId with
    | none => .error (.permissionError sessionMismatch)
    | some v =>
      if v.step.toolName.name = action ∧ v.plan.status = .active ∧ c.Owns v.task then .ok v
      else .error (.permissionError sessionMismatch)

theorem authorizeClaimTerminalization_eq_ok {db : NavigationDb} {planId stepId action : String}
    {c : Call} {v : StepView} :
    authorizeClaimTerminalization db planId stepId action c = .ok v ↔
      (¬ isBlank action ∧ c.Identified) ∧ v.Joins db planId stepId ∧
        v.step.toolName.name = action ∧ v.plan.status = .active ∧ c.Owns v.task := by
  rw [← stepView?_eq_some_iff]
  unfold authorizeClaimTerminalization
  split
  · rename_i h
    simp only [reduceCtorEq, false_iff]
    rintro ⟨⟨ha, hc⟩, _⟩
    exact h.elim ha fun h => h hc
  · rename_i h
    simp only [not_or, not_not] at h
    split
    · rename_i hv
      simp [hv]
    · rename_i w hw
      split
      · rename_i hg
        constructor
        · rintro ⟨⟩
          exact ⟨h, hw, hg⟩
        · rintro ⟨_, hv, _⟩
          rw [hw] at hv
          cases hv
          rfl
      · rename_i hg
        simp only [reduceCtorEq, false_iff]
        rintro ⟨_, hv, hv'⟩
        rw [hw] at hv
        cases hv
        exact hg hv'

/-- A staged decision with its step and its task. -/
structure HandoffView where
  handoff : HandoffRow
  step : StepRow
  task : TaskRow

def authorizeHandoffTerminalization (db : NavigationDb) (planId stepId : String) (c : Call) :
    Except NavigationError HandoffView :=
  if ¬ c.Identified then .error (.permissionError sessionMismatch)
  else match db.handoffs.find? (planId, stepId), db.steps.find? (planId, stepId) with
    | some h, some s =>
      match db.tasks.find? h.taskId with
      | some t =>
        if c.Owns t then .ok ⟨h, s, t⟩ else .error (.permissionError sessionMismatch)
      | none => .error (.permissionError sessionMismatch)
    | _, _ => .error (.permissionError sessionMismatch)

structure HandoffView.Joins (v : HandoffView) (db : NavigationDb) (planId stepId : String) :
    Prop where
  handoff_mem : v.handoff ∈ db.handoffs
  step_mem : v.step ∈ db.steps
  task_mem : v.task ∈ db.tasks
  handoff_planId : v.handoff.planId = planId
  handoff_stepId : v.handoff.stepId = stepId
  step_planId : v.step.planId = planId
  step_stepId : v.step.stepId = stepId
  task_taskId : v.task.taskId = v.handoff.taskId

theorem authorizeHandoffTerminalization_ok {db : NavigationDb} {planId stepId : String}
    {c : Call} {v : HandoffView} (h : authorizeHandoffTerminalization db planId stepId c = .ok v) :
    v.Joins db planId stepId ∧ c.Identified ∧ c.Owns v.task := by
  unfold authorizeHandoffTerminalization at h
  split at h
  · cases h
  · rename_i hc
    split at h
    · rename_i r s hr hs
      split at h
      · rename_i t ht
        split at h
        · rename_i ho
          cases h
          obtain ⟨hr, hrk⟩ := Table.find?_eq_some_iff.1 hr
          obtain ⟨hs, hsk⟩ := Table.find?_eq_some_iff.1 hs
          obtain ⟨ht, htk⟩ := Table.find?_eq_some_iff.1 ht
          obtain ⟨hr₁, hr₂⟩ := Prod.mk.inj hrk
          obtain ⟨hs₁, hs₂⟩ := Prod.mk.inj hsk
          exact ⟨⟨hr, hs, ht, hr₁, hr₂, hs₁, hs₂, htk⟩, not_not.1 hc, ho⟩
        · cases h
      · cases h
    · cases h

end DataJuicer.Navigation
