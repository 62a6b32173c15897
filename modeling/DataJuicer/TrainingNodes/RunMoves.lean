import DataJuicer.TrainingNodes.Commits

/-! # What one operation does to the runs

Only `create_run` adds a run, and it checks the registry in its own transaction; only the end of a
run writes its status.
-/

namespace DataJuicer.TrainingNodes

open Training (Timestamp RunRow)
open Transaction Table

section Creation

variable {now : Timestamp} {q : Training.RunCreation} {db db' : Training.Database}

theorem runs_insertSnapshot {m : Training.VersionMeta} {spec : Training.RunSpec}
    (h : Training.insertSnapshot now q m spec db = .ok db') : db'.runs = db.runs := by
  unfold Training.insertSnapshot at h
  split at h
  · cases h
    rfl
  · obtain ⟨_, -, h⟩ := bind_eq_ok.1 h
    obtain ⟨_, -, h⟩ := bind_eq_ok.1 h
    cases h
    rfl

theorem runs_insertPortLease {port : Option ℕ}
    (h : Training.insertPortLease now q port db = .ok db') : db'.runs = db.runs := by
  unfold Training.insertPortLease at h
  split at h
  · cases h
    rfl
  · obtain ⟨_, -, h⟩ := bind_eq_ok.1 h
    cases h
    rfl

theorem runs_queueFirstStage {run : RunRow} {stages : List Training.StageRow}
    (h : Training.queueFirstStage now q run stages db = .ok db') : db'.runs = db.runs := by
  unfold Training.queueFirstStage at h
  split at h
  · obtain ⟨_, -, h⟩ := bind_eq_ok.1 h
    obtain ⟨_, -, h⟩ := bind_eq_ok.1 h
    cases h
    rfl
  · cases h
    rfl

theorem runs_insertRun {model : Training.ModelRow} {mode : Training.ExecutionMode}
    {port : Option ℕ} {m : Training.VersionMeta} {spec : Training.RunSpec}
    (h : Training.insertRun now q model mode port m spec db = .ok db') :
    db.runs.insert? (Training.newRun now q mode model spec.stages) = some db'.runs := by
  obtain ⟨runs, hruns, h⟩ := bind_eq_ok.1 h
  obtain ⟨versions, -, h⟩ := bind_eq_ok.1 h
  obtain ⟨db₁, h₁, h⟩ := bind_eq_ok.1 h
  obtain ⟨db₂, h₂, h⟩ := bind_eq_ok.1 h
  obtain ⟨db₃, h₃, h⟩ := bind_eq_ok.1 h
  obtain ⟨db₄, h₄, h⟩ := bind_eq_ok.1 h
  obtain ⟨db₅, h₅, h⟩ := bind_eq_ok.1 h
  have hrun₂ : db₂.runs = runs := by
    refine forEach_keeps (p := fun d => d.runs = runs) h₂ (runs_insertSnapshot h₁) ?_
    intro s _ d d' hd hs
    obtain ⟨_, -, hs⟩ := bind_eq_ok.1 hs
    cases hs
    exact hd
  have hrun₃ : db₃.runs = runs := by
    refine forEach_keeps (p := fun d => d.runs = runs) h₃ hrun₂ ?_
    intro g _ d d' hd hg
    obtain ⟨_, -, hg⟩ := bind_eq_ok.1 hg
    cases hg
    exact hd
  have hrun₅ : db₅.runs = db₄.runs := by
    obtain ⟨_, -, h₅⟩ := bind_eq_ok.1 h₅
    cases h₅
    rfl
  rw [runs_queueFirstStage h, hrun₅, runs_insertPortLease h₄, hrun₃]
  exact orRaise_eq_ok.1 hruns

/-- `create_run` returns an earlier run, or inserts one that it has checked. -/
theorem runs_createRun {view : Training.RunView}
    (h : Training.createRun now q db = .ok (view, db')) :
    db'.runs = db.runs ∨ ∃ model mode stages,
      Training.selectModel db.registry q.data = .ok model ∧
        Training.checkMode now db.registry mode model q.data.serverRef = .ok ⟨⟩ ∧
        db.runs.insert? (Training.newRun now q mode model stages) = some db'.runs := by
  obtain ⟨mode, -, h⟩ := bind_eq_ok.1 h
  split at h
  · obtain ⟨_, -, h⟩ := bind_eq_ok.1 h
    obtain ⟨_, -, h⟩ := bind_eq_ok.1 h
    cases h
    exact .inl rfl
  · obtain ⟨_, -, h⟩ := bind_eq_ok.1 h
    obtain ⟨model, hmodel, h⟩ := bind_eq_ok.1 h
    obtain ⟨_, hmode, h⟩ := bind_eq_ok.1 h
    obtain ⟨_, -, h⟩ := bind_eq_ok.1 h
    obtain ⟨port, -, h⟩ := bind_eq_ok.1 h
    obtain ⟨spec, -, h⟩ := bind_eq_ok.1 h
    obtain ⟨_, -, h⟩ := bind_eq_ok.1 h
    obtain ⟨db₁, hins, h⟩ := bind_eq_ok.1 h
    obtain ⟨_, -, h⟩ := bind_eq_ok.1 h
    cases h
    have hruns := runs_insertRun hins
    exact .inr ⟨model, mode, spec.stages, hmodel, hmode, hruns⟩

end Creation

/-- The registry allows a real run of this configuration. -/
structure TrainsVerified (r : RunRow) (m : ModelRow) (s : RevisionRow) (c : Centre) : Prop where
  model_mem : m ∈ c.models
  model : m.modelRef = r.modelRef
  revision_mem : s ∈ c.revisions
  revision : s.revisionRef = r.revisionRef
  owner : s.modelRef = m.modelRef
  current : s.revisionNumber = m.currentRevision
  verified : m.status = .verified

/-- Where a run of the new database comes from. -/
inductive RunOrigin (c : Centre) (op : Op) (r : RunRow) : Prop
  | kept {r₀ : RunRow} (hmem : r₀ ∈ c.runTables.runs) (href : r₀.runRef = r.runRef)
      (hserver : r₀.serverRef = r.serverRef) (hmode : r₀.executionMode = r.executionMode)
      (hstatus : r.status = r₀.status ∨ r.status.Terminal)
  | created {now : Timestamp} {q : Training.RunCreation} (hop : op = .createRun now q)
      (hserver : r.serverRef = q.data.serverRef)
      (hreal : r.executionMode = .real → ∃ m s, TrainsVerified r m s c)

variable {c c' : Centre} {op : Op}

theorem RunOrigin.self {r : RunRow} (h : r ∈ c.runTables.runs) : RunOrigin c op r :=
  .kept h rfl rfl rfl (.inl rfl)

theorem mem_registry_models {m : Training.ModelRow} :
    m ∈ c.registry.models ↔ ∃ x ∈ c.models, x.forRuns c.families = m :=
  List.mem_map

theorem mem_registry_revisions {s : Training.RevisionRow} :
    s ∈ c.registry.revisions ↔ ∃ x ∈ c.revisions, x.forRuns = s :=
  List.mem_map

theorem selectModel_eq_ok {d : Training.RunData} {m : Training.ModelRow}
    (h : Training.selectModel c.registry d = .ok m) : ∃ x ∈ c.models, ∃ s ∈ c.revisions,
      m = x.forRuns c.families ∧ s.revisionRef = d.revisionRef ∧ s.modelRef = x.modelRef ∧
        s.revisionNumber = x.currentRevision := by
  obtain ⟨m', hm, h⟩ := bind_eq_ok.1 h
  obtain ⟨s', hs, h⟩ := bind_eq_ok.1 h
  obtain ⟨_, hcurrent, h⟩ := bind_eq_ok.1 h
  cases h
  obtain ⟨hm, -⟩ := find?_eq_some_iff.1 (orRaise_eq_ok.1 hm)
  obtain ⟨hs, href⟩ := find?_eq_some_iff.1 (orRaise_eq_ok.1 hs)
  obtain ⟨x, hx, rfl⟩ := mem_registry_models.1 hm
  obtain ⟨s, hmem, rfl⟩ := mem_registry_revisions.1 hs
  have hcurrent := not_or.1 (raiseIf_eq_ok.1 hcurrent)
  exact ⟨x, hx, s, hmem, rfl, href, not_not.1 hcurrent.1, not_not.1 hcurrent.2⟩

theorem runOrigin_createRun {now : Timestamp} {q : Training.RunCreation} {view : Training.RunView}
    (h : createRun now q c = .ok (view, c')) :
    ∀ r ∈ c'.runTables.runs, RunOrigin c (.createRun now q) r := by
  obtain ⟨db, hdb, rfl⟩ := createRun_eq_ok h
  intro r hr
  change r ∈ db.runs at hr
  rcases runs_createRun hdb with he | ⟨model, mode, stages, hmodel, hmode, hins⟩
  · rw [he] at hr
    exact .self hr
  · rcases (mem_insert? hins).1 hr with hr | rfl
    · exact .self hr
    · refine .created rfl rfl fun hreal => ?_
      obtain ⟨x, hx, s, hs, rfl, href, howner, hcurrent⟩ := selectModel_eq_ok hmodel
      refine ⟨x, s, hx, rfl, hs, href, howner, hcurrent, ?_⟩
      obtain rfl : mode = .real := hreal
      obtain ⟨_, hverified, -⟩ := bind_eq_ok.1 hmode
      have hverified := raiseIf_eq_ok.1 hverified
      simpa [ModelRow.forRuns] using hverified

theorem runOrigin_completeRun {now : Timestamp} {runRef : String}
    {status : Training.FinishStatus} {code message : Option String} :
    ∀ r ∈ (completeRun now runRef status code message c).runTables.runs, RunOrigin c op r := by
  intro r hr
  unfold completeRun at hr
  split at hr
  · exact .self hr
  · next run _ =>
    change r ∈ c.runTables.runs.update (fun r => r.runRef = run.runRef)
      (Training.finishRunRow now status code message) (fun _ => rfl) at hr
    rcases mem_update_cases hr with ⟨hr, -⟩ | ⟨r₀, hr₀, -, rfl⟩
    · exact .self hr
    · exact .kept hr₀ rfl rfl rfl (.inr status.terminal)

/-- The operations that write the table of runs. -/
def Op.WritesRuns : Op → Prop
  | .createRun .. | .completeRun .. => True
  | _ => False

theorem runTables_of_perform {r : Reply} (h : perform op c = .ok (r, c'))
    (hop : ¬ op.WritesRuns) : c'.runTables = c.runTables := by
  cases op with
  | createNode =>
    obtain ⟨_, h, -⟩ := answer_eq_ok.1 h
    obtain ⟨nodes, -, rfl⟩ := createNode_eq_ok h
    rfl
  | updateNode =>
    obtain ⟨_, h, -⟩ := answer_eq_ok.1 h
    obtain ⟨n, -, -, rfl, -⟩ := updateNode_eq_ok h
    unfold afterEdit
    split <;> rfl
  | assertIdle =>
    obtain ⟨_, -, h⟩ := bind_eq_ok.1 h
    cases h
    rfl
  | deleteNode =>
    obtain ⟨_, hd, h⟩ := bind_eq_ok.1 h
    cases h
    obtain ⟨-, rfl⟩ := deleteNode_eq_ok hd
    rfl
  | createEnrollmentToken =>
    obtain ⟨_, h, -⟩ := answer_eq_ok.1 h
    obtain ⟨-, _, -, rfl⟩ := createEnrollmentToken_eq_ok h
    rfl
  | invalidateEnrollmentTokens =>
    cases h
    unfold invalidateNodeEnrollmentTokens
    split <;> rfl
  | enrollNode =>
    obtain ⟨_, h, -⟩ := answer_eq_ok.1 h
    obtain ⟨t, n, -, rfl, -⟩ := enrollNode_eq_ok h
    rfl
  | beginDeployment =>
    obtain ⟨_, h, -⟩ := answer_eq_ok.1 h
    obtain ⟨f, hf, -, rfl⟩ := beginNodeDeployment_eq_ok h
    rfl
  | finishDeployment =>
    obtain ⟨_, h, -⟩ := answer_eq_ok.1 h
    obtain ⟨f, hf, -, rfl⟩ := finishNodeDeployment_eq_ok h
    rfl
  | beginRemoval =>
    obtain ⟨_, h, -⟩ := answer_eq_ok.1 h
    obtain ⟨-, rfl⟩ := beginNodeWorkerRemoval_eq_ok h
    rfl
  | finishRemoval =>
    obtain ⟨_, h, -⟩ := answer_eq_ok.1 h
    obtain ⟨f, hf, _, -, rfl⟩ := finishNodeWorkerRemoval_eq_ok h
    rfl
  | heartbeat =>
    obtain ⟨_, h, -⟩ := answer_eq_ok.1 h
    obtain ⟨-, rfl⟩ := recordNodeHeartbeat_eq_ok h
    rfl
  | createModel =>
    obtain ⟨_, h, -⟩ := answer_eq_ok.1 h
    obtain ⟨_, _, _, -, rfl⟩ := createModel_eq_ok h
    rfl
  | updateModel =>
    obtain ⟨_, h, -⟩ := answer_eq_ok.1 h
    obtain ⟨_, _, -, -, -, rfl⟩ := updateModel_eq_ok h
    rfl
  | requestVerification =>
    obtain ⟨_, h, -⟩ := answer_eq_ok.1 h
    obtain ⟨_, _, _, _, -, -, -, -, rfl⟩ := requestModelVerification_eq_ok h
    rfl
  | claimVerification =>
    cases h
    unfold claimModelVerification
    split
    · dsimp only
      split <;> rfl
    · rfl
  | finishVerification =>
    obtain ⟨_, h, -⟩ := answer_eq_ok.1 h
    obtain ⟨_, _, -, -, ⟨-, -, rfl⟩ | ⟨-, rfl⟩⟩ := finishModelVerification_eq_ok h <;> rfl
  | createRun | completeRun => exact absurd trivial hop

theorem runOrigin_of_perform {r : Reply} (h : perform op c = .ok (r, c')) :
    ∀ r ∈ c'.runTables.runs, RunOrigin c op r := by
  by_cases hop : op.WritesRuns
  · cases op with
    | createRun =>
      obtain ⟨_, h, -⟩ := answer_eq_ok.1 h
      exact runOrigin_createRun h
    | completeRun =>
      cases h
      exact runOrigin_completeRun
    | _ => exact hop.elim
  · rw [runTables_of_perform h hop]
    exact fun _ => .self

theorem runOrigin_of_step {e : Event} (h : Step c e c') :
    ∀ r ∈ c'.runTables.runs, RunOrigin c e.1 r := by
  rcases step_iff.1 h with ⟨_, hr, -⟩ | ⟨_, -, -, rfl⟩
  · exact runOrigin_of_perform hr
  · exact fun _ => .self

end DataJuicer.TrainingNodes
