import DataJuicer.RunSpecs.CommandLines

/-! # Colliding flags

The validators compare the flags of the parameters with the output flag and with the fixed
arguments. Three comparisons are left out: the output flag with the fixed arguments, the flags of
two parameters with each other, and every flag with the options of the launcher.
-/

namespace DataJuicer.RunSpecs

open Transaction Models

/-- In a list without repetition a value is met once, unless another element has it too. -/
theorem count_map_eq_iff {α β : Type} [DecidableEq α] [DecidableEq β] {l : List α} (hl : l.Nodup)
    (g : α → β) (a : α) :
    (l.map g).count (g a) = (if a ∈ l then 1 else 0) ↔ ∀ b ∈ l, b ≠ a → g b ≠ g a := by
  have hself : (l.filter fun b => b = a).countP (fun b => g b == g a) = if a ∈ l then 1 else 0 := by
    rw [← hl.count, List.count_eq_countP, List.countP_filter]
    apply List.countP_congr
    intro b _
    simp only [beq_iff_eq, Bool.and_eq_true, decide_eq_true_eq]
    constructor
    · exact fun h => h.2
    · rintro rfl
      exact ⟨rfl, rfl⟩
  have hsplit : (l.map g).count (g a) = (if a ∈ l then 1 else 0) +
      (l.filter fun b => !decide (b = a)).countP fun b => g b == g a := by
    rw [← hself, List.count_eq_countP, List.countP_map]
    exact List.countP_eq_countP_filter_add l _ _
  rw [hsplit, Nat.add_eq_left, List.countP_eq_zero]
  simp

theorem le_count_map {α β : Type} [DecidableEq α] [DecidableEq β] (l : List α) (g : α → β)
    (a : α) : (if a ∈ l then 1 else 0) ≤ (l.map g).count (g a) := by
  split
  · next ha => exact List.count_pos_iff.2 (List.mem_map_of_mem ha)
  · exact Nat.zero_le _

theorem map_tokenFlag_torchrunOptions (nprocPerNode port : ℕ) :
    (torchrunOptions nprocPerNode port).map tokenFlag = launcherFlags := by
  simp [torchrunOptions, tokenFlag, launcherFlags]

section

variable (p : Prepared) (runRef : String) (port : Option ℕ) (version : VersionMeta)

def Prepared.launcherFlags : List String := if p.usesTorchrun then RunSpecs.launcherFlags else []

def Prepared.manifestFlags : List String :=
  if p.datasetManifestPath runRef version = none then [] else [datasetManifestFlag]

theorem flagsOf_words (text : ParameterDefinition → JsonScalar → String) (n : ℕ)
    (parameters : String → Option JsonScalar) :
    flagsOf (p.words runRef port version text n parameters) =
      p.launcherFlags ++ p.template.fixedArgv.map tokenFlag ++ p.manifestFlags runRef version ++
        (p.definitions.filter fun d => emits parameters d).map ParameterDefinition.cliFlag ++
          [p.template.outputFlag] := by
  have hoptions : ∀ tokens : List String,
      flagsOf (tokens.map fun t => ⟨t, .option⟩) = tokens.map tokenFlag := by
    intro tokens
    simp [flagsOf, Word.flag?, List.filterMap_map, Function.comp_def]
  have hhead : flagsOf (p.headWords port) =
      p.launcherFlags ++ p.template.fixedArgv.map tokenFlag := by
    have hlauncher : (p.launcherTokens port).map tokenFlag = p.launcherFlags := by
      unfold Prepared.launcherTokens Prepared.launcherFlags
      split
      · exact map_tokenFlag_torchrunOptions _ _
      · rfl
    have hprogram : ∀ t words, flagsOf (⟨t, .program⟩ :: words) = flagsOf words := fun _ _ => rfl
    unfold Prepared.headWords
    simp only [List.cons_append, flagsOf_append, hprogram, hoptions, hlauncher]
  have hmanifest : flagsOf (p.manifestWords runRef version) = p.manifestFlags runRef version := by
    unfold Prepared.manifestWords Prepared.manifestFlags
    cases p.datasetManifestPath runRef version <;> rfl
  unfold Prepared.words
  simp only [flagsOf_append, hhead, hmanifest, flagsOf_argumentWords]
  rfl

end

section

variable {texts : Texts} {data : RunRequest} {c : ModelConfigurationRequest} {p : Prepared}
  {runRef : String} {port : Option ℕ} {version : VersionMeta} {i : ℕ} {stage : RunStageRequest}
  {s : NormalizedStage} {b : BuiltStage} {d : ParameterDefinition}

theorem StageContext.style_of_automatic {c : StageContext} (hwf : WellFormed c.definitions)
    (hrole : ∀ d ∈ c.definitions, d.semanticRole = .stageInput →
      d.kind = .string ∧ d.visibleWhen = none)
    (hd : d ∈ c.definitions) (h : c.Automatic d) : d.kind = .string := by
  obtain ⟨-, hany⟩ := h
  obtain ⟨e, he, hname⟩ := Option.any_eq_true _ _ |>.1 hany
  obtain rfl := StageContext.name_injective hwf.names hd (List.mem_of_find?_eq_some he)
    (by simpa using hname)
  exact (hrole d hd (by simpa using List.find?_some he)).1

theorem boolean_of_style (hstyle : validateStyle d.kind d.argumentStyle = .ok ())
    (hflag : d.argumentStyle = .flagWhenTrue) : d.kind = .boolean := by
  by_contra hkind
  simp [validateStyle, hkind, hflag, raiseIf] at hstyle

theorem normalize_boolean {repr : ℤ → String} (hkind : d.kind = .boolean) {v w : JsonScalar}
    (h : normalizeParameterValue repr d v = .ok w) : w = v := by
  unfold normalizeParameterValue at h
  rw [hkind] at h
  cases v with
  | bool b => exact (Except.ok.inj h).symm
  | number x => cases h
  | str s => cases h

theorem emits_iff {c : StageContext} (hwf : WellFormed c.definitions)
    (hrole : ∀ d ∈ c.definitions, d.semanticRole = .stageInput →
      d.kind = .string ∧ d.visibleWhen = none)
    (hstyle : ∀ d ∈ c.definitions, validateStyle d.kind d.argumentStyle = .ok ())
    {previous : Option String} {parameters : String → Option JsonScalar}
    (hb : BuiltFrom c previous parameters) (hd : d ∈ c.definitions) :
    emits parameters d ↔ c.Active d ∧ c.Emitted d := by
  rw [← hb.active d hd, emits, StageContext.Emitted]
  cases hvalue : parameters d.name with
  | none => simp
  | some v =>
    by_cases hflag : d.argumentStyle = .flagWhenTrue
    · have hkind := boolean_of_style (hstyle d hd) hflag
      have hmanual : ¬ c.Automatic d := by
        intro hauto
        rw [StageContext.style_of_automatic hwf hrole hd hauto] at hkind
        cases hkind
      obtain rfl := normalize_boolean hkind (hb.manual d hd hmanual v hvalue)
      simp [hflag]
    · simp [hflag]

theorem owned_words {previous : Option String} {parameters : String → Option JsonScalar}
    (hb : BuiltFrom (stageContext p i stage) previous parameters)
    {text : ParameterDefinition → JsonScalar → String} {n : ℕ} :
    ∀ w ∈ p.words runRef port version text n parameters, ∀ d, w.owner? = some d →
      d ∈ p.definitions ∧ (stageContext p i stage).Active d := by
  intro w hw d hd
  unfold Prepared.words at hw
  rw [List.mem_append, List.mem_append, List.mem_append] at hw
  rcases hw with ((hw | hw) | hw) | hw
  · simp only [Prepared.headWords, List.mem_append, List.mem_cons, List.mem_map] at hw
    rcases hw with (rfl | ⟨t, -, rfl⟩) | rfl | ⟨t, -, rfl⟩ <;> cases hd
  · unfold Prepared.manifestWords at hw
    split at hw
    · simp only [List.mem_cons, List.not_mem_nil, or_false] at hw
      rcases hw with rfl | rfl <;> cases hd
    · simp at hw
  · obtain ⟨e, he, hvalue, howner⟩ := mem_argumentWords hw
    obtain rfl := Option.some.inj (howner.symm.trans hd)
    exact ⟨he, (hb.active _ he).1 hvalue⟩
  · simp only [List.mem_cons, List.not_mem_nil, or_false] at hw
    rcases hw with rfl | rfl <;> cases hd

variable (haccepted : Accepted c) (hp : PreparedFor texts data c p)

include hp

theorem PreparedFor.manifestFlags_eq :
    p.manifestFlags runRef version =
      if c.dataAccessMode = .datapilotManaged then [datasetManifestFlag] else [] := by
  have hsplits := hp.splits
  unfold Prepared.manifestFlags Prepared.datasetManifestPath
  cases hmanifest : p.datasetSplits with
  | none =>
    have hmode : c.dataAccessMode ≠ .datapilotManaged := fun h => hsplits.2 h hmanifest
    simp [hmode]
  | some splits => simp [hsplits.1 (by simp [hmanifest])]

theorem PreparedFor.role : ∀ d ∈ p.definitions, d.semanticRole = .stageInput →
    d.kind = .string ∧ d.visibleWhen = none := by
  intro d hd
  obtain ⟨a, -, hstored⟩ := exists_of_forall₂_right hp.stored hd
  exact hstored.stage_input

theorem PreparedFor.style : ∀ d ∈ p.definitions,
    validateStyle d.kind d.argumentStyle = .ok () := by
  intro d hd
  obtain ⟨a, -, hstored⟩ := exists_of_forall₂_right hp.stored hd
  exact hstored.style

theorem PreparedFor.flag_mem (hd : d ∈ p.definitions) : d.cliFlag ∈ c.parameterFlags := by
  obtain ⟨a, ha, hstored⟩ := exists_of_forall₂_right hp.stored hd
  rw [hstored.cliFlag]
  exact List.mem_map_of_mem ha

include haccepted

theorem count_cliFlag (text : ParameterDefinition → JsonScalar → String) (n : ℕ)
    (parameters : String → Option JsonScalar) (hd : d ∈ p.definitions) :
    (flagsOf (p.words runRef port version text n parameters)).count d.cliFlag =
      p.launcherFlags.count d.cliFlag +
        ((p.definitions.filter fun d => emits parameters d).map
          ParameterDefinition.cliFlag).count d.cliFlag := by
  have hflag := hp.flag_mem hd
  have hfixed : (p.template.fixedArgv.map tokenFlag).count d.cliFlag = 0 := by
    rw [List.count_eq_zero, hp.template]
    exact haccepted.fixed_flags _ hflag
  have hmanifest : (p.manifestFlags runRef version).count d.cliFlag = 0 := by
    rw [List.count_eq_zero, hp.manifestFlags_eq]
    split
    · next hmode =>
      rw [List.mem_singleton]
      rintro heq
      exact (haccepted.manifest hmode).1 (heq ▸ hflag)
    · exact List.not_mem_nil
  have houtput : [p.template.outputFlag].count d.cliFlag = 0 := by
    rw [List.count_eq_zero, List.mem_singleton, hp.template]
    rintro heq
    exact haccepted.output_flag (heq ▸ hflag)
  simp only [flagsOf_words, List.count_append, hfixed, hmanifest, houtput, Nat.add_zero]

/-- The output flag is met once behind the launcher and the fixed arguments. -/
theorem count_outputFlag (text : ParameterDefinition → JsonScalar → String) (n : ℕ)
    (parameters : String → Option JsonScalar) :
    (flagsOf (p.words runRef port version text n parameters)).count p.template.outputFlag =
      p.launcherFlags.count p.template.outputFlag +
        (p.template.fixedArgv.map tokenFlag).count p.template.outputFlag + 1 := by
  have hmanifest : (p.manifestFlags runRef version).count p.template.outputFlag = 0 := by
    rw [List.count_eq_zero, hp.manifestFlags_eq]
    split
    · next hmode =>
      rw [List.mem_singleton, hp.template]
      exact (haccepted.manifest hmode).2.2
    · exact List.not_mem_nil
  have hparameters : ((p.definitions.filter fun d => emits parameters d).map
      ParameterDefinition.cliFlag).count p.template.outputFlag = 0 := by
    rw [List.count_eq_zero, List.mem_map]
    rintro ⟨d, hd, heq⟩
    apply haccepted.output_flag
    rw [← hp.template, ← heq]
    exact hp.flag_mem (List.mem_of_mem_filter hd)
  simp only [flagsOf_words, List.count_append, hmanifest, hparameters, Nat.add_zero,
    List.count_singleton_self]

theorem count_manifestFlag (text : ParameterDefinition → JsonScalar → String) (n : ℕ)
    (parameters : String → Option JsonScalar) (hmode : c.dataAccessMode = .datapilotManaged) :
    (flagsOf (p.words runRef port version text n parameters)).count datasetManifestFlag = 1 := by
  obtain ⟨hparameter, hfixed, houtput⟩ := haccepted.manifest hmode
  have hlauncher : p.launcherFlags.count datasetManifestFlag = 0 := by
    rw [List.count_eq_zero]
    unfold Prepared.launcherFlags
    split
    · decide
    · exact List.not_mem_nil
  have hfixed : (p.template.fixedArgv.map tokenFlag).count datasetManifestFlag = 0 := by
    rw [List.count_eq_zero, hp.template]
    exact hfixed
  have hparameters : ((p.definitions.filter fun d => emits parameters d).map
      ParameterDefinition.cliFlag).count datasetManifestFlag = 0 := by
    rw [List.count_eq_zero, List.mem_map]
    rintro ⟨d, hd, heq⟩
    apply hparameter
    rw [← heq]
    exact hp.flag_mem (List.mem_of_mem_filter hd)
  have houtput : [p.template.outputFlag].count datasetManifestFlag = 0 := by
    rw [List.count_eq_zero, List.mem_singleton, hp.template]
    exact houtput.symm
  simp only [flagsOf_words, List.count_append, hlauncher, hfixed, hparameters, houtput,
    hp.manifestFlags_eq, if_pos hmode, List.count_singleton_self, Nat.add_zero, Nat.zero_add]

theorem count_cliFlag_iff {previous : Option String} {parameters : String → Option JsonScalar}
    (hb : BuiltFrom (stageContext p i stage) previous parameters)
    (text : ParameterDefinition → JsonScalar → String) (n : ℕ) (hd : d ∈ p.definitions)
    (hactive : (stageContext p i stage).Active d) :
    (flagsOf (p.words runRef port version text n parameters)).count d.cliFlag =
        (if (stageContext p i stage).Emitted d then 1 else 0) ↔
      d.cliFlag ∉ p.launcherFlags ∧ ∀ e ∈ p.definitions, (stageContext p i stage).Active e →
        (stageContext p i stage).Emitted e → e ≠ d → e.cliFlag ≠ d.cliFlag := by
  have hwf : WellFormed p.definitions := haccepted.wellFormed hp.stored
  have hmem : ∀ e, e ∈ p.definitions.filter (fun e => emits parameters e) ↔ e ∈ p.definitions ∧
      (stageContext p i stage).Active e ∧ (stageContext p i stage).Emitted e := by
    intro e
    rw [List.mem_filter]
    exact and_congr_right fun he => emits_iff hwf hp.role hp.style hb he
  have hself : (if d ∈ p.definitions.filter (fun e => emits parameters e) then 1 else 0) =
      if (stageContext p i stage).Emitted d then 1 else 0 := by
    simp only [hmem, hd, hactive, true_and]
  have hle := le_count_map (p.definitions.filter fun e => emits parameters e)
    ParameterDefinition.cliFlag d
  have hiff := count_map_eq_iff ((List.Nodup.of_map _ hwf.names).filter fun e => emits parameters e)
    ParameterDefinition.cliFlag d
  rw [hself] at hle hiff
  rw [count_cliFlag haccepted hp text n parameters hd]
  constructor
  · intro hcount
    have hlauncher : p.launcherFlags.count d.cliFlag = 0 := by omega
    refine ⟨List.count_eq_zero.1 hlauncher, fun e he hactive' hemitted => ?_⟩
    exact hiff.1 (by omega) e ((hmem e).2 ⟨he, hactive', hemitted⟩)
  · rintro ⟨hlauncher, hother⟩
    rw [List.count_eq_zero.2 hlauncher, Nat.zero_add, hiff]
    intro e he
    obtain ⟨he, hactive', hemitted⟩ := (hmem e).1 he
    exact hother e he hactive' hemitted

/-- A command line is unambiguous when none of the flags that are not compared collide. -/
theorem unambiguous_iff (hb : BuiltAs p runRef port version (stageContext p i stage) s b) :
    Unambiguous (stageContext p i stage) p runRef port version b
        (p.words runRef port version rendered b.stageNumber b.parameters) ↔
      NoCollision (stageContext p i stage) p := by
  have hparameters := hb.parameters
  have hwf : WellFormed p.definitions := haccepted.wellFormed hp.stored
  constructor
  · intro h
    have houtput := h.output_once
    rw [count_outputFlag haccepted hp] at houtput
    have hcount := fun d hd hactive => (count_cliFlag_iff haccepted hp hparameters rendered
      b.stageNumber hd hactive).1 (h.parameter_once d hd hactive)
    constructor
    · exact fun token htoken => (h.fixed token htoken).1
    · intro htorchrun
      have hlauncher : p.launcherFlags.count p.template.outputFlag = 0 := by omega
      rwa [List.count_eq_zero, Prepared.launcherFlags, if_pos htorchrun] at hlauncher
    · intro htorchrun d hd hactive
      have hlauncher := (hcount d hd hactive).1
      rwa [Prepared.launcherFlags, if_pos htorchrun] at hlauncher
    · intro d hd e he hactive hactive' hne heq hemitted
      exact (hcount e he hactive').2 d hd hactive hemitted hne heq
  · intro h
    have hlauncher : ∀ f, (p.usesTorchrun → f ∉ launcherFlags) → f ∉ p.launcherFlags := by
      intro f hf
      unfold Prepared.launcherFlags
      split
      · next htorchrun => exact hf htorchrun
      · exact List.not_mem_nil
    constructor
    · rw [hb.private_argv, hb.number, Prepared.map_text_words]
    · have hfixed : (p.template.fixedArgv.map tokenFlag).count p.template.outputFlag = 0 := by
        rw [List.count_eq_zero, List.mem_map]
        rintro ⟨token, htoken, heq⟩
        exact h.output_fixed token htoken heq
      rw [count_outputFlag haccepted hp, hfixed,
        List.count_eq_zero.2 (hlauncher _ h.output_launcher)]
    · refine ⟨p.headWords port ++ p.manifestWords runRef version ++
        argumentWords rendered b.parameters p.definitions, ?_⟩
      rw [hb.output, ← hb.number]
      rfl
    · intro path hpath
      have hmode : c.dataAccessMode = .datapilotManaged := by
        rw [← hp.splits]
        intro hnone
        simp [Prepared.datasetManifestPath, hnone] at hpath
      refine ⟨count_manifestFlag haccepted hp rendered _ _ hmode, p.headWords port,
        argumentWords rendered b.parameters p.definitions ++ [⟨p.template.outputFlag, .flag none⟩,
          ⟨p.output runRef version b.stageNumber, .value none⟩], ?_⟩
      simp [Prepared.words, Prepared.manifestWords, hpath]
    · intro d hd hactive
      rw [count_cliFlag_iff haccepted hp hparameters rendered _ hd hactive]
      refine ⟨hlauncher _ fun htorchrun => h.parameter_launcher htorchrun d hd hactive, ?_⟩
      intro e he hactive' hemitted hne heq
      exact h.parameters e he d hd hactive' hactive hne heq hemitted
    · intro d hd hactive hemitted
      have hemits := (emits_iff hwf hp.role hp.style hparameters hd).2 ⟨hactive, hemitted⟩
      unfold Prepared.words
      exact List.mem_append_left _ (List.mem_append_right _ (flag_mem_argumentWords hd hemits))
    · exact owned_words hparameters
    · intro token htoken
      have hmem : tokenFlag token ∈ c.fixedTokenFlags := by
        unfold ModelConfigurationRequest.fixedTokenFlags
        rw [← hp.template]
        exact List.mem_map_of_mem htoken
      refine ⟨h.output_fixed token htoken, ?_, ?_⟩
      · intro hmanifest heq
        have hmode : c.dataAccessMode = .datapilotManaged := by
          rw [← hp.splits]
          intro hnone
          simp [Prepared.datasetManifestPath, hnone] at hmanifest
        exact (haccepted.manifest hmode).2.1 (heq ▸ hmem)
      · intro d hd _ heq
        exact haccepted.fixed_flags _ (hp.flag_mem hd) (heq ▸ hmem)
    · rw [hb.run_spec, ← hb.number]
      exact p.shown_words runRef port version b.stageNumber

end

section

variable {texts : Texts} {platform : Platform} {data : RunRequest} {c : ModelConfigurationRequest}
  {p : Prepared} {ignorePlatformLeases allowRealPreview : Bool} {runRef : String}
  {port : Option ℕ} {version : VersionMeta} {built : List BuiltStage}

def RunUnambiguous (p : Prepared) (runRef : String) (port : Option ℕ) (version : VersionMeta)
    (stages : List RunStageRequest) (built : List BuiltStage) : Prop :=
  ∀ i stage b, stages[i]? = some stage → built[i]? = some b →
    Unambiguous (stageContext p i stage) p runRef port version b
      (p.words runRef port version rendered b.stageNumber b.parameters)

/-- The command lines of a run are unambiguous exactly when the flags that no validator compares
do not collide. -/
theorem runUnambiguous_iff (hregistered : Registered texts platform data c)
    (hprepare : prepare texts platform data ignorePlatformLeases allowRealPreview = .ok p)
    (hbuild : p.build runRef port version = .ok built) :
    RunUnambiguous p runRef port version data.stages built ↔
      ∀ i stage, data.stages[i]? = some stage → NoCollision (stageContext p i stage) p := by
  have haccepted := hregistered.accepted
  have hp := preparedFor_of_prepare hregistered hprepare
  constructor
  · intro h i stage hi
    obtain ⟨s, b, -, hb, hbuilt⟩ := builtAs_of_build haccepted hp hbuild hi
    exact (unambiguous_iff haccepted hp hbuilt).1 (h i stage b hi hb)
  · intro h i stage b hi hb
    obtain ⟨s, b', -, hb', hbuilt⟩ := builtAs_of_build haccepted hp hbuild hi
    obtain rfl := Option.some.inj (hb.symm.trans hb')
    exact (unambiguous_iff haccepted hp hbuilt).2 (h i stage hi)

end

namespace Sample

def texts : Texts where
  casefold := fun s => s.map Char.toLower
  repr := fun n => toString n ++ ".0"
  int := String.toInt?

def steps : Api.ParameterDefinition where
  key := "max_steps"
  label := "Steps"
  type := .integer
  semanticRole := .hyperparameter
  default := .number (.int 20)
  description := none
  minimum := some (.int 1)
  maximum := none
  choices := []
  stringMinLength := none
  stringMaxLength := none
  visibleWhen := none
  display := ⟨none, none, none⟩
  sensitive := false
  cliFlag := none
  argumentStyle := some .value

def configuration (fixedArgv : List String) : ModelConfigurationRequest where
  launchTemplate := {
    domain := "robotics"
    serverRef := "node-1"
    workingDirectory := "/work"
    launcherKind := some .torchrun
    executable := "torchrun"
    entrypoint := "train.py"
    fixedArgv
    outputRoot := "/models"
    outputFlag := "--output_dir"
    runtimeEnvironment := ⟨.system, none⟩
    monitoring := .plain }
  dataAccessMode := .selfManaged
  parameterDefinitions := [steps]

def platform (c : ModelConfigurationRequest) : Platform where
  simulationEnabled := true
  realExecutionEnabled := false
  servers := [("node-1", .simulation)]
  requireAvailable := fun _ _ _ => .ok [0]
  getModelRecord := fun _ => .ok {
    adaptModel c with
    familyRef := "family-1"
    familyName := "Family"
    modelRef := "model-1"
    revisionRef := "revision-1"
    internalRevision := 1
    status := .draft }
  getNode := fun _ => .ok ⟨true, true⟩
  resolveDatasetSelection := fun _ _ _ => .ok (.arr [])

def request (stages : List RunStageRequest) : RunRequest where
  familyRef := "family-1"
  serverRef := "node-1"
  gpuUuids := ["GPU-1"]
  stages
  executionMode := .simulation
  versionDescription := ""
  datasetSelection := none

def version : VersionMeta := ⟨"v1", none⟩

/-- A run of the model with the default of its parameter. -/
def Built (fixedArgv : List String) (p : Prepared) (built : List BuiltStage) : Prop :=
  Registered texts (platform (configuration fixedArgv)) (request [⟨[], .manual⟩])
      (configuration fixedArgv) ∧
    prepare texts (platform (configuration fixedArgv)) (request [⟨[], .manual⟩]) false false =
      .ok p ∧
    p.build "run-1" (some 29500) version = .ok built

theorem registered {c : ModelConfigurationRequest} {data : RunRequest}
    (h : c.validate texts.casefold = .ok c) : Registered texts (platform c) data c := by
  refine ⟨⟨c, h⟩, fun model hmodel => ?_⟩
  cases hmodel
  rfl

theorem exists_ok {ε α : Type} {r : Except ε α} (h : r.toOption.isSome) : ∃ a, r = .ok a := by
  cases r with
  | ok a => exact ⟨a, rfl⟩
  | error e => cases h

theorem ok_of_toOption {ε α : Type} {r : Except ε α} {a : α} (h : r.toOption = some a) :
    r = .ok a := by
  cases r with
  | ok b => exact congrArg Except.ok (Option.some.inj h)
  | error e => cases h

theorem exists_built (c : ModelConfigurationRequest) (data : RunRequest)
    (h : ((prepare texts (platform c) data false false).toOption.any fun p =>
      (p.build "run-1" (some 29500) version).toOption.isSome)) :
    ∃ p built, prepare texts (platform c) data false false = .ok p ∧
      p.build "run-1" (some 29500) version = .ok built := by
  obtain ⟨p, hp, hbuild⟩ := Option.any_eq_true _ _ |>.1 h
  obtain ⟨built, hbuilt⟩ := exists_ok hbuild
  exact ⟨p, built, ok_of_toOption hp, hbuilt⟩

end Sample

/-- Without fixed arguments every flag of the sample is set once. -/
theorem sample_runUnambiguous : ∃ p built, Sample.Built [] p built ∧
    RunUnambiguous p "run-1" (some 29500) Sample.version [⟨[], .manual⟩] built := by
  have hregistered : Registered Sample.texts (Sample.platform (Sample.configuration []))
      (Sample.request [⟨[], .manual⟩]) (Sample.configuration []) :=
    Sample.registered (by decide +kernel)
  obtain ⟨p, built, hprepare, hbuild⟩ := Sample.exists_built (Sample.configuration [])
    (Sample.request [⟨[], .manual⟩]) (by decide +kernel)
  refine ⟨p, built, ⟨hregistered, hprepare, hbuild⟩,
    (runUnambiguous_iff hregistered hprepare hbuild).2 fun i stage hi => ?_⟩
  have hp := preparedFor_of_prepare hregistered hprepare
  constructor
  · rw [hp.template]
    decide
  · intro _
    rw [hp.template]
    decide
  · intro _ d hd _
    have hflag : d.cliFlag ∈ ["--max_steps"] := hp.flag_mem hd
    rw [List.mem_singleton.1 hflag]
    decide
  · intro d hd e he _ _ hne
    have hlength : p.definitions.length = 1 := hp.stored.length_eq.symm
    obtain ⟨e', he'⟩ := List.length_eq_one_iff.1 hlength
    have hd' : d ∈ [e'] := he' ▸ hd
    have he'' : e ∈ [e'] := he' ▸ he
    exact absurd ((List.mem_singleton.1 hd').trans (List.mem_singleton.1 he'').symm) hne

/-- A fixed argument sets the output flag a second time. -/
theorem elsewhere_ambiguous : ∃ p built, Sample.Built ["--output_dir=/elsewhere"] p built ∧
    ¬ RunUnambiguous p "run-1" (some 29500) Sample.version [⟨[], .manual⟩] built := by
  have hregistered : Registered Sample.texts
      (Sample.platform (Sample.configuration ["--output_dir=/elsewhere"]))
      (Sample.request [⟨[], .manual⟩]) (Sample.configuration ["--output_dir=/elsewhere"]) :=
    Sample.registered (by decide +kernel)
  obtain ⟨p, built, hprepare, hbuild⟩ := Sample.exists_built
    (Sample.configuration ["--output_dir=/elsewhere"]) (Sample.request [⟨[], .manual⟩])
    (by decide +kernel)
  refine ⟨p, built, ⟨hregistered, hprepare, hbuild⟩, fun h => ?_⟩
  have hp := preparedFor_of_prepare hregistered hprepare
  have hfirst : (Sample.request [⟨[], .manual⟩]).stages[0]? = some ⟨[], .manual⟩ := rfl
  obtain ⟨s, b, -, hb, -⟩ := builtAs_of_build hregistered.accepted hp hbuild hfirst
  have hfixed := (h 0 _ b rfl hb).fixed
  rw [hp.template] at hfixed
  exact (hfixed "--output_dir=/elsewhere" (by decide)).1 (by decide)

end DataJuicer.RunSpecs
