import DataJuicer.Lib.Pointwise
import DataJuicer.RunSpecs.Activation

/-! # Accepted models

What a configuration that has been accepted promises about the definitions that a run reads back:
their names are their own, their conditions form chains, and no flag of theirs is set by the
platform's output flag or by the fixed arguments.
-/

namespace DataJuicer.RunSpecs

open Transaction Models

/-- A definition of a run with the one of the request that it comes from. -/
structure StoredAs (repr : ℤ → String) (a : Api.ParameterDefinition) (d : ParameterDefinition) :
    Prop where
  name : d.name = a.key
  kind : d.kind = a.type
  semanticRole : d.semanticRole = a.semanticRole
  default : d.default = a.default
  sensitive : d.sensitive = a.sensitive
  cliFlag : d.cliFlag = a.flag
  argumentStyle : d.argumentStyle = a.style
  visibleWhen : d.visibleWhen = a.visibleWhen
  style : validateStyle d.kind d.argumentStyle = .ok ()
  stage_input : d.semanticRole = .stageInput → d.kind = .string ∧ d.visibleWhen = none
  normal : ∃ v, normalizeParameterValue repr d d.default = .ok v

section

variable {repr : ℤ → String} {a : Api.ParameterDefinition} {d : ParameterDefinition}

theorem validateDefinition_ok (h : d.validateDefinition repr = .ok ()) :
    validateStyle d.kind d.argumentStyle = .ok () ∧
      (d.semanticRole = .stageInput → d.kind = .string ∧ d.visibleWhen = none) ∧
      ∃ v, normalizeParameterValue repr d d.default = .ok v := by
  unfold ParameterDefinition.validateDefinition at h
  obtain ⟨_, hstring, h⟩ := bind_eq_ok.1 h
  obtain ⟨_, hfree, h⟩ := bind_eq_ok.1 h
  obtain ⟨_, hstyle, h⟩ := bind_eq_ok.1 h
  obtain ⟨_, -, h⟩ := bind_eq_ok.1 h
  obtain ⟨_, -, h⟩ := bind_eq_ok.1 h
  obtain ⟨_, -, h⟩ := bind_eq_ok.1 h
  obtain ⟨_, -, h⟩ := bind_eq_ok.1 h
  rw [raiseIf_eq_ok] at hstring hfree
  refine ⟨hstyle, fun hrole => ⟨?_, ?_⟩, ?_⟩
  · by_contra hkind
    exact hstring ⟨hrole, hkind⟩
  · by_contra hvisible
    exact hfree ⟨hrole, hvisible⟩
  cases hv : normalizeParameterValue repr d d.default with
  | ok v => exact ⟨v, rfl⟩
  | error e => cases e <;> simp [hv] at h

theorem storedAs_of_modelValidate (h : modelValidate repr (adaptDefinition a) = .ok d) :
    StoredAs repr a d := by
  unfold modelValidate at h
  obtain ⟨_, -, h⟩ := bind_eq_ok.1 h
  obtain ⟨_, -, h⟩ := bind_eq_ok.1 h
  obtain ⟨_, -, h⟩ := bind_eq_ok.1 h
  obtain ⟨_, -, h⟩ := bind_eq_ok.1 h
  obtain ⟨_, hvalid, h⟩ := bind_eq_ok.1 h
  cases h
  obtain ⟨hstyle, hrole, hnormal⟩ := validateDefinition_ok hvalid
  exact ⟨rfl, rfl, rfl, rfl, rfl, rfl, rfl, rfl, hstyle, hrole, hnormal⟩

variable {as : List Api.ParameterDefinition} {ds : List ParameterDefinition}

theorem forall₂_storedAs (h : validateStored repr (as.map adaptDefinition) = .ok ds) :
    List.Forall₂ (StoredAs repr) as ds := by
  induction as generalizing ds with
  | nil =>
    cases h
    exact .nil
  | cons a as ih =>
    obtain ⟨d, hd, h⟩ := bind_eq_ok.1 h
    obtain ⟨ds', hds, h⟩ := bind_eq_ok.1 h
    cases h
    exact .cons (storedAs_of_modelValidate hd) (ih hds)

end

section

variable {all as : List Api.ParameterDefinition} {dependencies : Dependencies}

structure Controlled (all : List Api.ParameterDefinition) (a : Api.ParameterDefinition)
    (condition : VisibilityCondition) (controller : Api.ParameterDefinition) : Prop where
  visible : a.visibleWhen = some condition
  mem : controller ∈ all
  key : controller.key = condition.parameterKey
  value : conditionValue a.key controller condition.equals = .ok ()

theorem collectDependencies_ok (h : collectDependencies all as = .ok dependencies) :
    (∀ a ∈ as, ∀ condition, a.visibleWhen = some condition →
      (a.key, condition.parameterKey) ∈ dependencies ∧
        ∃ controller, Controlled all a condition controller) ∧
      ∀ e ∈ dependencies, ∃ a ∈ as, ∃ condition,
        a.visibleWhen = some condition ∧ e = (a.key, condition.parameterKey) := by
  induction as generalizing dependencies with
  | nil =>
    cases h
    simp
  | cons a as ih =>
    unfold collectDependencies at h
    split at h
    · next hnone =>
      obtain ⟨hall, hback⟩ := ih h
      constructor
      · rw [List.forall_mem_cons]
        exact ⟨by simp [hnone], hall⟩
      · intro e he
        obtain ⟨b, hb, hrest⟩ := hback e he
        exact ⟨b, List.mem_cons_of_mem a hb, hrest⟩
    · next condition hsome =>
      obtain ⟨entry, hentry, h⟩ := bind_eq_ok.1 h
      obtain ⟨rest, hrest, h⟩ := bind_eq_ok.1 h
      cases h
      obtain ⟨controller, hfind, hentry⟩ := bind_eq_ok.1 hentry
      obtain ⟨_, -, hentry⟩ := bind_eq_ok.1 hentry
      obtain ⟨_, hvalue, hentry⟩ := bind_eq_ok.1 hentry
      cases hentry
      have hfound := orRaise_eq_ok.1 hfind
      have hkey : controller.key = condition.parameterKey := by
        simpa using List.find?_some hfound
      rw [hkey]
      obtain ⟨hall, hback⟩ := ih hrest
      constructor
      · rw [List.forall_mem_cons]
        constructor
        · intro condition' hcondition
          rw [hsome] at hcondition
          cases hcondition
          exact ⟨List.mem_cons_self, controller, hsome, List.mem_of_find?_eq_some hfound, hkey,
            hvalue⟩
        · intro b hb condition' hcondition
          obtain ⟨hmem, hcontrolled⟩ := hall b hb condition' hcondition
          exact ⟨List.mem_cons_of_mem _ hmem, hcontrolled⟩
      · rw [List.forall_mem_cons]
        refine ⟨⟨a, List.mem_cons_self, condition, hsome, rfl⟩, fun e he => ?_⟩
        obtain ⟨b, hb, hrest⟩ := hback e he
        exact ⟨b, List.mem_cons_of_mem a hb, hrest⟩

theorem walkAll_ok {es : Dependencies} (h : walkAll dependencies es = .ok ()) :
    ∀ e ∈ es, walkDependencies dependencies [] e.1 = .ok () := by
  induction es with
  | nil => simp
  | cons e es ih =>
    obtain ⟨⟨⟩, he, hes⟩ := bind_eq_ok.1 h
    rw [List.forall_mem_cons]
    exact ⟨he, ih hes⟩

end

section

variable {repr : ℤ → String} {as : List Api.ParameterDefinition} {ds : List ParameterDefinition}
  {dependencies : Dependencies}

theorem key_injective (hkeys : (as.map Api.ParameterDefinition.key).Nodup)
    {a b : Api.ParameterDefinition} (ha : a ∈ as) (hb : b ∈ as) (h : a.key = b.key) : a = b :=
  List.inj_on_of_nodup_map hkeys ha hb h

/-- A walk that ends shows a chain. -/
theorem grounded_of_walk (hkeys : (as.map Api.ParameterDefinition.key).Nodup)
    (hstored : List.Forall₂ (StoredAs repr) as ds)
    (hcollect : collectDependencies as as = .ok dependencies) {visited : List String}
    {a : Api.ParameterDefinition} {d : ParameterDefinition} (ha : a ∈ as) (hd : StoredAs repr a d)
    (h : walkDependencies dependencies visited a.key = .ok ()) : ∃ n, Grounded ds n d := by
  obtain ⟨hall, hback⟩ := collectDependencies_ok hcollect
  generalize hkey : a.key = key at h
  fun_induction walkDependencies dependencies visited key generalizing a d with
  | case1 visited current hnone =>
    cases hvisible : a.visibleWhen with
    | none => exact ⟨0, .free (hd.visibleWhen.trans hvisible)⟩
    | some condition =>
      have hmem := (hall a ha condition hvisible).1
      rw [List.lookup_eq_none_iff] at hnone
      exact absurd hkey.symm (by simpa using hnone _ hmem)
  | case2 => cases h
  | case3 visited current next hsome hnew ih =>
    obtain ⟨b, hb, condition, hvisible, hentry⟩ := hback _ (mem_of_lookup hsome)
    rw [Prod.mk.injEq] at hentry
    obtain rfl := key_injective hkeys ha hb (hkey.trans hentry.1)
    obtain ⟨-, controller, hcontrolled⟩ := hall a ha condition hvisible
    obtain ⟨e, he, hstore⟩ := exists_of_forall₂_left hstored hcontrolled.mem
    obtain ⟨n, hground⟩ := ih hcontrolled.mem hstore (hcontrolled.key.trans hentry.2.symm) h
    exact ⟨n + 1, .controlled (hd.visibleWhen.trans hvisible) he
      (hstore.name.trans hcontrolled.key) hground⟩

end

/-- What `reserve_platform_output_flag` and the check of the keys leave to rely on. -/
structure Accepted (c : ModelConfigurationRequest) : Prop where
  keys : (c.parameterDefinitions.map Api.ParameterDefinition.key).Nodup
  output_flag : c.launchTemplate.outputFlag ∉ c.parameterFlags
  fixed_flags : ∀ f ∈ c.parameterFlags, f ∉ c.fixedTokenFlags
  manifest : c.dataAccessMode = .datapilotManaged → datasetManifestFlag ∉ c.parameterFlags ∧
    datasetManifestFlag ∉ c.fixedTokenFlags ∧ c.launchTemplate.outputFlag ≠ datasetManifestFlag
  dependencies : ∃ dependencies,
    collectDependencies c.parameterDefinitions c.parameterDefinitions = .ok dependencies ∧
      walkAll dependencies dependencies = .ok ()

section

variable {casefold : String → String} {c c' : ModelConfigurationRequest} {repr : ℤ → String}
  {ds : List ParameterDefinition}

theorem accepted_of_reserve (hkeys : (c.parameterDefinitions.map Api.ParameterDefinition.key).Nodup)
    (h : c.reservePlatformOutputFlag casefold = .ok ()) : Accepted c := by
  unfold ModelConfigurationRequest.reservePlatformOutputFlag at h
  obtain ⟨_, -, h⟩ := bind_eq_ok.1 h
  obtain ⟨_, -, h⟩ := bind_eq_ok.1 h
  obtain ⟨_, houtput, h⟩ := bind_eq_ok.1 h
  obtain ⟨_, hfixed, h⟩ := bind_eq_ok.1 h
  obtain ⟨_, hmanifest, h⟩ := bind_eq_ok.1 h
  rw [raiseIf_eq_ok] at houtput hfixed hmanifest
  refine ⟨hkeys, houtput, ?_, ?_, bind_eq_ok.1 h⟩
  · intro f hf hmem
    refine hfixed fun hnil => ?_
    have hdup : f ∈ c.duplicateFixedFlags := by
      unfold ModelConfigurationRequest.duplicateFixedFlags
      rw [List.mem_mergeSort, List.mem_filter]
      exact ⟨hf, decide_eq_true hmem⟩
    simp [hnil] at hdup
  · intro hmode
    simp only [hmode, true_and, not_or] at hmanifest
    exact hmanifest

theorem accepted_of_validate (h : c.validate casefold = .ok c') : Accepted c' := by
  unfold ModelConfigurationRequest.validate at h
  obtain ⟨_, -, h⟩ := bind_eq_ok.1 h
  obtain ⟨_, -, h⟩ := bind_eq_ok.1 h
  obtain ⟨_, -, h⟩ := bind_eq_ok.1 h
  obtain ⟨_, hkeys, h⟩ := bind_eq_ok.1 h
  obtain ⟨⟨⟩, hreserve, h⟩ := bind_eq_ok.1 h
  cases h
  exact accepted_of_reserve (by simpa using hkeys) hreserve

/-- The definitions of a run of an accepted model have names and chains. -/
theorem Accepted.wellFormed (h : Accepted c)
    (hstored : List.Forall₂ (StoredAs repr) c.parameterDefinitions ds) : WellFormed ds := by
  obtain ⟨dependencies, hcollect, hwalk⟩ := h.dependencies
  constructor
  · rw [map_eq_of_forall₂ hstored fun _ _ hs => hs.name]
    exact h.keys
  · intro d hd
    obtain ⟨a, ha, hs⟩ := exists_of_forall₂_right hstored hd
    cases hvisible : a.visibleWhen with
    | none => exact ⟨0, .free (hs.visibleWhen.trans hvisible)⟩
    | some condition =>
      have hmem := ((collectDependencies_ok hcollect).1 a ha condition hvisible).1
      exact grounded_of_walk h.keys hstored hcollect ha hs (walkAll_ok hwalk _ hmem)

end

structure Registered (texts : Texts) (platform : Platform) (data : RunRequest)
    (c : ModelConfigurationRequest) : Prop where
  validated : ∃ request : ModelConfigurationRequest, request.validate texts.casefold = .ok c
  stored : ∀ model, platform.getModelRecord data.familyRef = .ok model →
    model.toStoredConfiguration = adaptModel c

def stageContext (p : Prepared) (i : ℕ) (stage : RunStageRequest) : StageContext :=
  ⟨p.texts, p.definitions, stage.stageInputSource, stage.parameters, i + 1⟩

/-- What a preparation has found out about a request for a registered model. -/
structure PreparedFor (texts : Texts) (data : RunRequest) (c : ModelConfigurationRequest)
    (p : Prepared) : Prop where
  same_texts : p.texts = texts
  same_data : p.data = data
  template : p.template = c.launchTemplate
  definitions : validateStored texts.repr (adaptModel c).parameterDefinitions = .ok p.definitions
  stored : List.Forall₂ (StoredAs p.texts.repr) c.parameterDefinitions p.definitions
  stages : normalizeStages p.texts p.definitions data.executionMode 1 data.stages = .ok p.stages
  splits : p.datasetSplits ≠ none ↔ c.dataAccessMode = .datapilotManaged

section

variable {texts : Texts} {platform : Platform} {data : RunRequest} {c : ModelConfigurationRequest}
  {p : Prepared} {ignorePlatformLeases allowRealPreview : Bool}

theorem datasetSplits_ok {model : ModelRecord} {splits : Option Json}
    (h : datasetSplits platform data model = .ok splits) :
    splits ≠ none ↔ model.dataAccessMode = .datapilotManaged := by
  unfold datasetSplits at h
  dsimp only at h
  split at h
  · next hmode =>
    obtain ⟨_, -, h⟩ := bind_eq_ok.1 h
    cases hresolve : platform.resolveDatasetSelection data.serverRef
        (data.datasetSelection.getD ⟨[], []⟩).trainReplicaRefs
        (data.datasetSelection.getD ⟨[], []⟩).testReplicaRefs with
    | error e => simp [hresolve] at h
    | ok s =>
      simp only [hresolve, Except.map_ok, Except.ok.injEq] at h
      simp [← h, hmode]
  · next hmode =>
    obtain ⟨_, -, h⟩ := bind_eq_ok.1 h
    cases h
    simp [hmode]

theorem preparedFor_of_prepare (hregistered : Registered texts platform data c)
    (h : prepare texts platform data ignorePlatformLeases allowRealPreview = .ok p) :
    PreparedFor texts data c p := by
  unfold prepare at h
  obtain ⟨_, -, h⟩ := bind_eq_ok.1 h
  obtain ⟨indexes, -, h⟩ := bind_eq_ok.1 h
  obtain ⟨model, hmodel, h⟩ := bind_eq_ok.1 h
  obtain ⟨_, -, h⟩ := bind_eq_ok.1 h
  obtain ⟨_, -, h⟩ := bind_eq_ok.1 h
  obtain ⟨_, -, h⟩ := bind_eq_ok.1 h
  obtain ⟨splits, hsplits, h⟩ := bind_eq_ok.1 h
  obtain ⟨definitions, hdefinitions, h⟩ := bind_eq_ok.1 h
  obtain ⟨stages, hstages, h⟩ := bind_eq_ok.1 h
  cases h
  have hstored := hregistered.stored model hmodel
  have hvalid : validateStored texts.repr (adaptModel c).parameterDefinitions = .ok
    definitions := by
    rw [congrArg StoredConfiguration.parameterDefinitions hstored] at hdefinitions
    cases hvalid : validateStored texts.repr (adaptModel c).parameterDefinitions with
    | error e => simp [hvalid, Except.mapError] at hdefinitions
    | ok ds =>
      rw [hvalid] at hdefinitions
      exact congrArg Except.ok (Except.ok.inj hdefinitions)
  refine ⟨rfl, rfl, ?_, hvalid, forall₂_storedAs hvalid, hstages, ?_⟩
  · exact congrArg StoredConfiguration.launchTemplate hstored
  · rw [datasetSplits_ok hsplits, congrArg StoredConfiguration.dataAccessMode hstored]
    rfl

theorem Registered.accepted (h : Registered texts platform data c) : Accepted c := by
  obtain ⟨request, hrequest⟩ := h.validated
  exact accepted_of_validate hrequest

theorem normalizeStages_get {definitions : List ParameterDefinition} {mode : ExecutionMode}
    {n : ℕ} {stages : List RunStageRequest} {normalized : List NormalizedStage}
    (h : normalizeStages texts definitions mode n stages = .ok normalized) :
    normalized.length = stages.length ∧ ∀ i stage s, stages[i]? = some stage →
      normalized[i]? = some s → normalizeStage texts definitions mode (n + i) stage = .ok s := by
  induction stages generalizing n normalized with
  | nil =>
    cases h
    simp
  | cons stage stages ih =>
    obtain ⟨s, hs, h⟩ := bind_eq_ok.1 h
    obtain ⟨rest, hrest, h⟩ := bind_eq_ok.1 h
    cases h
    obtain ⟨hlength, hget⟩ := ih hrest
    refine ⟨by simp [hlength], ?_⟩
    intro i stage' s' hi hi'
    cases i with
    | zero =>
      cases hi
      cases hi'
      exact hs
    | succ i =>
      have := hget i stage' s' (by simpa using hi) (by simpa using hi')
      rwa [Nat.add_right_comm] at this

/-- The output of the stage in front of this one. -/
def Prepared.previousOutput (p : Prepared) (runRef : String) (version : VersionMeta) (n : ℕ) :
    Option String :=
  if n = 1 then none else some (p.output runRef version (n - 1))

theorem buildStages_get {runRef : String} {port : Option ℕ} {version : VersionMeta} {n : ℕ}
    {previous : Option String} {stages : List NormalizedStage} {built : List BuiltStage}
    (hn : 1 ≤ n) (hprevious : previous = p.previousOutput runRef version n)
    (h : p.buildStages runRef port version n previous stages = .ok built) :
    built.length = stages.length ∧ ∀ i s b, stages[i]? = some s → built[i]? = some b →
      p.buildStage runRef port version (n + i) (p.previousOutput runRef version (n + i)) s =
        .ok b := by
  induction stages generalizing n previous built with
  | nil =>
    cases h
    simp
  | cons s stages ih =>
    obtain ⟨b, hb, h⟩ := bind_eq_ok.1 h
    obtain ⟨rest, hrest, h⟩ := bind_eq_ok.1 h
    cases h
    have houtput : some b.outputDirectory = p.previousOutput runRef version (n + 1) := by
      unfold Prepared.buildStage at hb
      obtain ⟨parameters, -, hb⟩ := bind_eq_ok.1 hb
      obtain ⟨name, -, hb⟩ := bind_eq_ok.1 hb
      cases hb
      have hne : n + 1 ≠ 1 := by omega
      rw [Prepared.previousOutput, if_neg hne, Nat.add_sub_cancel]
    obtain ⟨hlength, hget⟩ := ih (Nat.le_add_left 1 n) houtput hrest
    refine ⟨by simp [hlength], ?_⟩
    intro i s' b' hi hi'
    cases i with
    | zero =>
      cases hi
      cases hi'
      exact hprevious ▸ hb
    | succ i =>
      have hbuilt := hget i s' b' (by simpa using hi) (by simpa using hi')
      rwa [Nat.add_right_comm] at hbuilt

end

end DataJuicer.RunSpecs
