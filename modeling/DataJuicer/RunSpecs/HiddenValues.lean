import DataJuicer.RunSpecs.FlagCollisions

/-! # What is shown of a run

A preview and a stored stage are projected before they are shown: the values of sensitive parameters
are masked in the parameters and in the command line. Which parameters there are and which flags
stand alone is not masked, so two requests show the same exactly when they agree on both.
-/

namespace DataJuicer.RunSpecs

open Transaction Models

/-- The fields that `_run_spec_projection` keeps. -/
structure RunSpecProjection where
  executionMode : ExecutionMode
  serverRef : String
  gpuUuids : List String
  launcherKind : LauncherKind
  masterAddr : Option String
  masterPort : Option ℕ
  nodeRank : Option ℕ
  nprocPerNode : ℕ
  visibleDevices : String
  runtimeEnvironment : RuntimeEnvironment
  monitoring : MonitoringFormat
  parameters : String → Option JsonScalar
  entrypoint : String
  argv : List String
  outputPreview : String
  datasetManifest : Option String

def runSpecProjection (spec : PublicSpec) : RunSpecProjection where
  executionMode := spec.executionMode
  serverRef := spec.serverRef
  gpuUuids := spec.gpuUuids
  launcherKind := spec.launcherKind
  masterAddr := spec.masterAddr <|>
    if spec.launcherKind = .torchrun then some "127.0.0.1" else none
  masterPort := spec.masterPort
  nodeRank := spec.nodeRank
  nprocPerNode := spec.nprocPerNode
  visibleDevices := spec.visibleDevices
  runtimeEnvironment := spec.runtimeEnvironment
  monitoring := spec.monitoring
  parameters := spec.parameters
  entrypoint := spec.entrypoint
  argv := spec.argv
  outputPreview := spec.outputPreview
  datasetManifest := spec.datasetManifest

def previewCheck (mode : ExecutionMode) : ReadyCheck where
  code := readyCode mode
  message := match mode with
    | .simulation => "All simulation stages and GPU selections are valid."
    | .real => "真实训练预览已生成；未创建任务、GPU 租约、模型版本或进程。"

/-- What `preview_run` returns. -/
structure PreviewRun where
  stages : List BuiltStage
  datasetManifestPreview : Option Json
  datasetManifestPath : Option String
  preflight : ReadyCheck

def previewVersion : VersionMeta := ⟨"preview", none⟩

def previewPort (usesTorchrun : Bool) (found : Except PrepareError ℕ) :
    Except PrepareError (Option ℕ) :=
  if usesTorchrun then some <$> found else .ok none

/-- `preview_run`, with the search for a free port. -/
def previewRun (texts : Texts) (platform : Platform)
    (findAvailablePort : String → Except PrepareError ℕ) (data : RunRequest) :
    Except PrepareError PreviewRun := do
  let p ← prepare texts platform data false true
  let port ← previewPort p.usesTorchrun (findAvailablePort data.serverRef)
  let stages ← p.build "preview" port previewVersion
  return ⟨stages, p.datasetManifest "preview" previewVersion,
    p.datasetManifestPath "preview" previewVersion, previewCheck data.executionMode⟩

structure PreviewStage where
  stageNumber : ℕ
  stageName : String
  stageInputSource : StageInputSource
  parameters : String → Option JsonScalar
  runSpec : RunSpecProjection
  commandPreview : String
  outputDirectory : String
  preflight : ReadyCheck

def previewStage (b : BuiltStage) : PreviewStage where
  stageNumber := b.stageNumber
  stageName := b.stageName
  stageInputSource := b.stageInputSource
  parameters := b.runSpec.parameters
  runSpec := runSpecProjection b.runSpec
  commandPreview := b.commandPreview
  outputDirectory := b.outputDirectory
  preflight := b.preflight

structure PreviewProjection where
  stages : List PreviewStage
  datasetManifestPreview : Option Json
  datasetManifestPath : Option String
  preflight : ReadyCheck

def previewProjection (r : PreviewRun) : PreviewProjection where
  stages := r.stages.map previewStage
  datasetManifestPreview := r.datasetManifestPreview
  datasetManifestPath := r.datasetManifestPath
  preflight := r.preflight

/-- The stages that `create_run` stores under a reference, a port and a version of its own. -/
def createStages (texts : Texts) (platform : Platform) (data : RunRequest) (runRef : String)
    (port : Option ℕ) (version : VersionMeta) : Except PrepareError (List BuiltStage) := do
  let p ← prepare texts platform data true false
  p.build runRef port version

/-- What `_safe_stage` shows of the parameters of a stage. -/
structure SafeStage where
  parameters : String → Option JsonScalar
  runSpec : PublicSpec
  commandPreview : String

/-- `_safe_stage` of the row of a stage -/
def safeStage (b : BuiltStage) : SafeStage where
  parameters := fun key => (b.parameters key).map fun v =>
    if key ∈ b.privateSpec.sensitiveParameters then .str hidden else v
  runSpec := b.privateSpec.publicSpec
  commandPreview := b.privateSpec.safeCommandPreview

/-- Two requests that differ in the values supplied for sensitive parameters at most. -/
structure DifferInSensitive (c : ModelConfigurationRequest) (data data' : RunRequest) : Prop where
  rest : data' = { data with stages := data'.stages }
  stages : List.Forall₂ (fun s s' => s.stageInputSource = s'.stageInputSource ∧
    ∀ key, (∀ d ∈ c.parameterDefinitions, d.key = key → ¬ d.sensitive) →
      s.parameters.lookup key = s'.parameters.lookup key) data.stages data'.stages

/-- Two stages with the same active parameters and the same flags without a value. -/
structure SameActivation (c c' : StageContext) : Prop where
  active : ∀ d ∈ c.definitions, c.Active d ↔ c'.Active d
  flags : ∀ d ∈ c.definitions, c.Active d → d.sensitive → d.argumentStyle = .flagWhenTrue →
    ((c.value d).truthy ↔ (c'.value d).truthy)

def RunsSameActivation (texts : Texts) (definitions : List ParameterDefinition)
    (data data' : RunRequest) : Prop :=
  ∀ i s s', data.stages[i]? = some s → data'.stages[i]? = some s' →
    SameActivation ⟨texts, definitions, s.stageInputSource, s.parameters, i + 1⟩
      ⟨texts, definitions, s'.stageInputSource, s'.parameters, i + 1⟩

/-- The flag of every parameter is in both public command lines or in none. -/
def SameFlags (definitions : List ParameterDefinition) (built built' : List BuiltStage) : Prop :=
  ∀ (i : ℕ) (b b' : BuiltStage), built[i]? = some b → built'[i]? = some b' → ∀ d ∈ definitions,
    (⟨d.cliFlag, .flag (some d)⟩ ∈ argumentWords safeRendered b.parameters definitions ↔
      ⟨d.cliFlag, .flag (some d)⟩ ∈ argumentWords safeRendered b'.parameters definitions)

section

variable {text : ParameterDefinition → JsonScalar → String}
  {parameters parameters' : String → Option JsonScalar} {d : ParameterDefinition}
  {ds : List ParameterDefinition}

def stageTokens (text : ParameterDefinition → JsonScalar → String)
    (parameters : String → Option JsonScalar) (d : ParameterDefinition) : List String :=
  ((parameters d.name).map fun v => parameterTokens d v (text d v)).getD []

theorem argumentTokens_eq_flatMap (ds : List ParameterDefinition) :
    argumentTokens text parameters ds = ds.flatMap (stageTokens text parameters) := by
  induction ds with
  | nil => rfl
  | cons d ds ih =>
    rw [List.flatMap_cons, ← ih, stageTokens]
    cases hv : parameters d.name <;> simp [argumentTokens, hv]

theorem argumentTokens_congr
    (h : ∀ d ∈ ds, stageTokens text parameters d = stageTokens text parameters' d) :
    argumentTokens text parameters ds = argumentTokens text parameters' ds := by
  rw [argumentTokens_eq_flatMap, argumentTokens_eq_flatMap]
  exact List.flatMap_congr h

theorem flag_mem_iff (hd : d ∈ ds) :
    ⟨d.cliFlag, .flag (some d)⟩ ∈ argumentWords text parameters ds ↔ emits parameters d := by
  refine ⟨fun h => ?_, flag_mem_argumentWords hd⟩
  clear hd
  induction ds with
  | nil => simp [argumentWords] at h
  | cons e ds ih =>
    unfold argumentWords at h
    split at h
    · exact ih h
    · next v hsome =>
      rcases List.mem_append.1 h with h | h
      · unfold parameterWords at h
        split at h
        · split at h
          · next htrue =>
            obtain ⟨-, rfl⟩ : d.cliFlag = e.cliFlag ∧ d = e := by simpa using h
            simp [emits, hsome, htrue]
          · simp at h
        · next hstyle =>
          obtain ⟨-, rfl⟩ : d.cliFlag = e.cliFlag ∧ d = e := by simpa using h
          simp [emits, hsome, hstyle]
      · exact ih h

theorem stageTokens_sensitive (hsensitive : d.sensitive)
    (hdefined : parameters d.name ≠ none ↔ parameters' d.name ≠ none)
    (hemits : d.argumentStyle = .flagWhenTrue → (emits parameters d ↔ emits parameters' d)) :
    stageTokens safeRendered parameters d = stageTokens safeRendered parameters' d := by
  unfold stageTokens
  unfold emits at hemits
  cases hv : parameters d.name with
  | none =>
    have hnone : parameters' d.name = none := by simpa [hv] using hdefined
    rw [hnone]
  | some v =>
    obtain ⟨w, hw⟩ : ∃ w, parameters' d.name = some w := by
      rw [← Option.ne_none_iff_exists', ← hdefined, hv]
      simp
    rw [hw]
    rw [hv, hw] at hemits
    by_cases hstyle : d.argumentStyle = .flagWhenTrue
    · have htrue : v.truthy ↔ w.truthy := by simpa [hstyle] using hemits hstyle
      simp [parameterTokens, hstyle, htrue]
    · simp [parameterTokens, hstyle, safeRendered, hsensitive]

/-- In equal command lines a text is as often among the tokens of a parameter, when it is so for
the others. -/
theorem count_stageTokens_eq {f : String} (hnodup : ds.Nodup) (hd : d ∈ ds)
    (hother : ∀ e ∈ ds, e ≠ d →
      (stageTokens text parameters e).count f = (stageTokens text parameters' e).count f)
    (htokens : argumentTokens text parameters ds = argumentTokens text parameters' ds) :
    (stageTokens text parameters d).count f = (stageTokens text parameters' d).count f := by
  obtain ⟨front, back, rfl⟩ := List.append_of_mem hd
  have hne : ∀ e ∈ front ++ back, e ≠ d := by
    rintro e he rfl
    exact (List.nodup_middle.1 hnodup).notMem he
  have hsum : ∀ l ⊆ front ++ back, (l.flatMap (stageTokens text parameters)).count f =
      (l.flatMap (stageTokens text parameters')).count f := by
    intro l hl
    rw [List.count_flatMap, List.count_flatMap]
    congr 1
    apply List.map_congr_left
    intro e he
    refine hother e ?_ (hne e (hl he))
    rcases List.mem_append.1 (hl he) with he | he
    · exact List.mem_append_left _ he
    · exact List.mem_append_right _ (List.mem_cons_of_mem d he)
  have hcount := congrArg (List.count f) htokens
  simp only [argumentTokens_eq_flatMap, List.flatMap_append, List.flatMap_cons,
    List.count_append, hsum front (List.subset_append_left _ _),
    hsum back (List.subset_append_right _ _)] at hcount
  omega

end

def masked (sensitive : List String) (parameters : String → Option JsonScalar) :
    String → Option JsonScalar :=
  fun key => (parameters key).map fun v => if key ∈ sensitive then .str hidden else v

section

variable {c c' : StageContext} {previous : Option String} {s s' : NormalizedStage}
  {parameters parameters' : String → Option JsonScalar} {d : ParameterDefinition}

/-- Two stages of one model that differ in the values of sensitive parameters at most. -/
structure Alike (c c' : StageContext) : Prop where
  rest : c' = { c with supplied := c'.supplied }
  wellFormed : WellFormed c.definitions
  role : ∀ d ∈ c.definitions, d.semanticRole = .stageInput →
    d.kind = .string ∧ d.visibleWhen = none
  style : ∀ d ∈ c.definitions, validateStyle d.kind d.argumentStyle = .ok ()
  value : ∀ d ∈ c.definitions, ¬ d.sensitive → c.value d = c'.value d

theorem Alike.definitions (h : Alike c c') : c'.definitions = c.definitions := by
  rw [h.rest]

theorem Alike.automatic_iff (h : Alike c c') : c.Automatic d ↔ c'.Automatic d := by
  rw [h.rest]
  rfl

theorem Alike.texts (h : Alike c c') : c'.texts = c.texts := by
  rw [h.rest]

theorem Alike.parameter_eq (h : Alike c c') (hb : BuiltFrom c previous parameters)
    (hb' : BuiltFrom c' previous parameters') (hd : d ∈ c.definitions)
    (hactive : c.Active d ↔ c'.Active d) (hvalue : c.value d = c'.value d) :
    parameters d.name = parameters' d.name := by
  have hd' : d ∈ c'.definitions := h.definitions.symm ▸ hd
  cases hv : parameters d.name with
  | none =>
    by_contra hne
    have hactive' := (hb'.active d hd').1 (Ne.symm hne)
    exact (hb.active d hd).2 (hactive.2 hactive') hv
  | some v =>
    have hactive' := hactive.1 ((hb.active d hd).1 (by simp [hv]))
    obtain ⟨w, hw⟩ := Option.ne_none_iff_exists'.1 ((hb'.active d hd').2 hactive')
    have hsame : (Except.ok v : Except ParameterFailure JsonScalar) = .ok w := by
      by_cases hauto : c.Automatic d
      · obtain ⟨path, hpath, hnormal⟩ := hb.automatic d hd hauto v hv
        obtain ⟨path', hpath', hnormal'⟩ := hb'.automatic d hd' (h.automatic_iff.1 hauto) w hw
        obtain rfl := Option.some.inj (hpath.symm.trans hpath')
        rw [← hnormal, ← hnormal', h.texts]
      · have hnormal := hb.manual d hd hauto v hv
        have hnormal' := hb'.manual d hd' (fun hauto' => hauto (h.automatic_iff.2 hauto')) w hw
        rw [← hnormal, ← hnormal', h.texts, hvalue]
    rw [hw, Except.ok.inj hsame]

theorem NormalizedAs.mem_sensitive_iff (hs : NormalizedAs c s) (hd : d ∈ c.definitions) :
    d.name ∈ s.sensitiveParameters ↔ d.sensitive ∧ c.Active d := by
  obtain ⟨state, hdecided, -, hsensitive⟩ := hs.decided
  rw [hsensitive]
  exact hdecided.sensitive d hd

theorem Alike.active_of_masked (h : Alike c c') (hb : BuiltFrom c previous parameters)
    (hb' : BuiltFrom c' previous parameters')
    (hmasked : masked s.sensitiveParameters parameters = masked s'.sensitiveParameters parameters')
    (hd : d ∈ c.definitions) : c.Active d ↔ c'.Active d := by
  have hnone : parameters d.name = none ↔ parameters' d.name = none := by
    have hsame := congrFun hmasked d.name
    unfold masked at hsame
    rw [← Option.map_eq_none_iff, hsame, Option.map_eq_none_iff]
  rw [← hb.active d hd, ← hb'.active d (h.definitions.symm ▸ hd)]
  exact not_congr hnone

theorem Alike.masked_eq (h : Alike c c') (hs : NormalizedAs c s) (hs' : NormalizedAs c' s')
    (hb : BuiltFrom c previous parameters) (hb' : BuiltFrom c' previous parameters')
    (hactive : ∀ d ∈ c.definitions, c.Active d ↔ c'.Active d) :
    masked s.sensitiveParameters parameters = masked s'.sensitiveParameters parameters' := by
  ext1 key
  by_cases hdefined : ∃ d ∈ c.definitions, d.name = key
  · obtain ⟨d, hd, rfl⟩ := hdefined
    have hd' : d ∈ c'.definitions := h.definitions.symm ▸ hd
    unfold masked
    by_cases hlive : c.Active d
    · have hlive' := (hactive d hd).1 hlive
      cases hsensitive : d.sensitive with
      | true =>
        have hmem := (hs.mem_sensitive_iff hd).2 ⟨hsensitive, hlive⟩
        have hmem' := (hs'.mem_sensitive_iff hd').2 ⟨hsensitive, hlive'⟩
        obtain ⟨v, hv⟩ := Option.ne_none_iff_exists'.1 ((hb.active d hd).2 hlive)
        obtain ⟨w, hw⟩ := Option.ne_none_iff_exists'.1 ((hb'.active d hd').2 hlive')
        simp [hv, hw, hmem, hmem']
      | false =>
        have hmem : d.name ∉ s.sensitiveParameters := by simp [hs.mem_sensitive_iff hd, hsensitive]
        have hmem' : d.name ∉ s'.sensitiveParameters := by
          simp [hs'.mem_sensitive_iff hd', hsensitive]
        rw [h.parameter_eq hb hb' hd (hactive d hd) (h.value d hd (by simp [hsensitive]))]
        simp [hmem, hmem']
    · have hnone : parameters d.name = none := by
        by_contra hne
        exact hlive ((hb.active d hd).1 hne)
      have hnone' : parameters' d.name = none := by
        by_contra hne
        exact hlive ((hactive d hd).2 ((hb'.active d hd').1 hne))
      rw [hnone, hnone']
      rfl
  · have hnone : parameters key = none := by
      by_contra hne
      exact hdefined (hb.defined key hne)
    have hnone' : parameters' key = none := by
      by_contra hne
      exact hdefined (h.definitions ▸ hb'.defined key hne)
    simp [masked, hnone, hnone']

theorem Alike.emits_iff (h : Alike c c') (hb : BuiltFrom c previous parameters)
    (hb' : BuiltFrom c' previous parameters') (hd : d ∈ c.definitions) :
    (emits parameters d ↔ c.Active d ∧ c.Emitted d) ∧
      (emits parameters' d ↔ c'.Active d ∧ c'.Emitted d) := by
  constructor
  · exact RunSpecs.emits_iff h.wellFormed h.role h.style hb hd
  · have hd' : d ∈ c'.definitions := h.definitions.symm ▸ hd
    exact RunSpecs.emits_iff (h.definitions.symm ▸ h.wellFormed) (h.definitions.symm ▸ h.role)
      (h.definitions.symm ▸ h.style) hb' hd'

theorem Alike.sameActivation_iff (h : Alike c c') (hs : NormalizedAs c s) (hs' : NormalizedAs c' s')
    (hb : BuiltFrom c previous parameters) (hb' : BuiltFrom c' previous parameters') :
    SameActivation c c' ↔
      masked s.sensitiveParameters parameters = masked s'.sensitiveParameters parameters' ∧
        ∀ d ∈ c.definitions, (emits parameters d ↔ emits parameters' d) := by
  constructor
  · intro hsame
    refine ⟨h.masked_eq hs hs' hb hb' hsame.active, fun d hd => ?_⟩
    obtain ⟨hemits, hemits'⟩ := h.emits_iff hb hb' hd
    cases hsensitive : d.sensitive with
    | false =>
      have heq := h.parameter_eq hb hb' hd (hsame.active d hd) (h.value d hd (by simp [hsensitive]))
      rw [emits, emits, heq]
    | true =>
      rw [hemits, hemits', ← hsame.active d hd]
      refine and_congr_right fun hactive => ?_
      unfold StageContext.Emitted
      exact imp_congr_right fun hstyle => hsame.flags d hd hactive hsensitive hstyle
  · rintro ⟨hmasked, hflags⟩
    have hactive : ∀ d ∈ c.definitions, c.Active d ↔ c'.Active d :=
      fun d hd => h.active_of_masked hb hb' hmasked hd
    refine ⟨hactive, fun d hd hlive _ hstyle => ?_⟩
    obtain ⟨hemits, hemits'⟩ := h.emits_iff hb hb' hd
    have hsame := hflags d hd
    rw [hemits, hemits', ← hactive d hd] at hsame
    simpa [hlive, StageContext.Emitted, hstyle] using hsame

theorem Alike.argumentTokens_eq (h : Alike c c') (hs : NormalizedAs c s) (hs' : NormalizedAs c' s')
    (hb : BuiltFrom c previous parameters) (hb' : BuiltFrom c' previous parameters')
    (hsame : SameActivation c c') :
    argumentTokens safeRendered parameters c.definitions =
      argumentTokens safeRendered parameters' c.definitions := by
  obtain ⟨-, hflags⟩ := (h.sameActivation_iff hs hs' hb hb').1 hsame
  apply argumentTokens_congr
  intro d hd
  cases hsensitive : d.sensitive with
  | false =>
    have heq := h.parameter_eq hb hb' hd (hsame.active d hd) (h.value d hd (by simp [hsensitive]))
    rw [stageTokens, stageTokens, heq]
  | true =>
    refine stageTokens_sensitive hsensitive ?_ fun _ => hflags d hd
    rw [hb.active d hd, hb'.active d (h.definitions.symm ▸ hd)]
    exact hsame.active d hd

theorem Alike.flags_of_tokens (h : Alike c c') (hb : BuiltFrom c previous parameters)
    (hb' : BuiltFrom c' previous parameters')
    (hnodup : (c.definitions.map ParameterDefinition.cliFlag).Nodup)
    (hactive : ∀ d ∈ c.definitions, c.Active d ↔ c'.Active d)
    (htokens : argumentTokens safeRendered parameters c.definitions =
      argumentTokens safeRendered parameters' c.definitions) :
    ∀ d ∈ c.definitions, (emits parameters d ↔ emits parameters' d) := by
  have hdefined : ∀ d ∈ c.definitions, parameters d.name ≠ none ↔ parameters' d.name ≠ none := by
    intro d hd
    rw [hb.active d hd, hb'.active d (h.definitions.symm ▸ hd), hactive d hd]
  have hplain : ∀ d ∈ c.definitions, ¬ d.sensitive → parameters d.name = parameters' d.name :=
    fun d hd hsensitive =>
      h.parameter_eq hb hb' hd (hactive d hd) (h.value d hd hsensitive)
  intro d hd
  by_cases hflag : d.sensitive ∧ d.argumentStyle = .flagWhenTrue
  · obtain ⟨hsensitive, hstyle⟩ := hflag
    have hone : ∀ ps : String → Option JsonScalar,
        (stageTokens safeRendered ps d).count d.cliFlag = if emits ps d then 1 else 0 := by
      intro ps
      unfold stageTokens emits
      cases ps d.name with
      | none => rfl
      | some v => cases htrue : v.truthy <;> simp [parameterTokens, hstyle, htrue]
    have hother : ∀ e ∈ c.definitions, e ≠ d →
        (stageTokens safeRendered parameters e).count d.cliFlag =
          (stageTokens safeRendered parameters' e).count d.cliFlag := by
      intro e he hne
      by_cases hsensitive' : e.sensitive
      · by_cases hstyle' : e.argumentStyle = .flagWhenTrue
        · have hdiffer : e.cliFlag ≠ d.cliFlag :=
            fun heq => hne (List.inj_on_of_nodup_map hnodup he hd heq)
          have hzero : ∀ ps : String → Option JsonScalar,
              (stageTokens safeRendered ps e).count d.cliFlag = 0 := by
            intro ps
            unfold stageTokens
            cases ps e.name with
            | none => rfl
            | some v => cases htrue : v.truthy <;> simp [parameterTokens, hstyle', htrue, hdiffer]
          rw [hzero, hzero]
        · rw [stageTokens_sensitive hsensitive' (hdefined e he) (fun hs => absurd hs hstyle')]
      · rw [stageTokens, stageTokens, hplain e he hsensitive']
    have hcount := count_stageTokens_eq (List.Nodup.of_map _ hnodup) hd hother htokens
    rw [hone, hone] at hcount
    cases hemits : emits parameters d <;> cases hemits' : emits parameters' d <;>
      simp [hemits, hemits'] at hcount ⊢
  · by_cases hsensitive : d.sensitive
    · have hstyle : d.argumentStyle ≠ .flagWhenTrue := fun hs => hflag ⟨hsensitive, hs⟩
      have hsome : ∀ ps : String → Option JsonScalar, emits ps d ↔ ps d.name ≠ none := by
        intro ps
        unfold emits
        cases ps d.name <;> simp [hstyle]
      rw [hsome, hsome]
      exact hdefined d hd
    · rw [emits, emits, hplain d hd hsensitive]

end

theorem map_eq_map_iff_get {α γ : Type} {f : α → γ} {l l' : List α} (h : l.length = l'.length) :
    l.map f = l'.map f ↔ ∀ (i : ℕ) (a a' : α), l[i]? = some a → l'[i]? = some a' → f a = f a' := by
  constructor
  · intro heq i a a' ha ha'
    have hget := congrArg (fun m => m[i]?) heq
    simpa [ha, ha'] using hget
  · intro hall
    apply List.ext_getElem (by simpa using h)
    intro i hi hi'
    rw [List.getElem_map, List.getElem_map]
    apply hall i
    · exact List.getElem?_eq_getElem _
    · exact List.getElem?_eq_getElem _

section

variable {texts : Texts} {platform : Platform} {data data' : RunRequest}
  {c : ModelConfigurationRequest} {p p' : Prepared} {ignorePlatformLeases allowRealPreview : Bool}
  {runRef : String} {port : Option ℕ} {version : VersionMeta} {built built' : List BuiltStage}
  {definitions : List ParameterDefinition}

/-- Two preparations of requests that differ in their stages only. -/
structure Twins (p p' : Prepared) : Prop where
  data : p'.data = { p.data with stages := p'.data.stages }
  prepared : p' = { p with data := p'.data, stages := p'.stages }

theorem twins_of_prepare (hdata : data' = { data with stages := data'.stages })
    (h : prepare texts platform data ignorePlatformLeases allowRealPreview = .ok p)
    (h' : prepare texts platform data' ignorePlatformLeases allowRealPreview = .ok p') :
    Twins p p' := by
  unfold prepare at h h'
  obtain ⟨_, -, h⟩ := bind_eq_ok.1 h
  obtain ⟨indexes, hindexes, h⟩ := bind_eq_ok.1 h
  obtain ⟨model, hmodel, h⟩ := bind_eq_ok.1 h
  obtain ⟨_, -, h⟩ := bind_eq_ok.1 h
  obtain ⟨_, -, h⟩ := bind_eq_ok.1 h
  obtain ⟨_, -, h⟩ := bind_eq_ok.1 h
  obtain ⟨splits, hsplits, h⟩ := bind_eq_ok.1 h
  obtain ⟨definitions, hdefinitions, h⟩ := bind_eq_ok.1 h
  obtain ⟨stages, -, h⟩ := bind_eq_ok.1 h
  cases h
  obtain ⟨_, -, h'⟩ := bind_eq_ok.1 h'
  obtain ⟨indexes', hindexes', h'⟩ := bind_eq_ok.1 h'
  obtain ⟨model', hmodel', h'⟩ := bind_eq_ok.1 h'
  obtain ⟨_, -, h'⟩ := bind_eq_ok.1 h'
  obtain ⟨_, -, h'⟩ := bind_eq_ok.1 h'
  obtain ⟨_, -, h'⟩ := bind_eq_ok.1 h'
  obtain ⟨splits', hsplits', h'⟩ := bind_eq_ok.1 h'
  obtain ⟨definitions', hdefinitions', h'⟩ := bind_eq_ok.1 h'
  obtain ⟨stages', -, h'⟩ := bind_eq_ok.1 h'
  cases h'
  rw [hdata] at hindexes' hmodel' hsplits'
  obtain rfl := Except.ok.inj (hindexes.symm.trans hindexes')
  obtain rfl := Except.ok.inj (hmodel.symm.trans hmodel')
  obtain rfl := Except.ok.inj (hsplits.symm.trans hsplits')
  obtain rfl := Except.ok.inj (hdefinitions.symm.trans hdefinitions')
  exact ⟨hdata, rfl⟩

theorem Twins.publicSpec (h : Twins p p') (n : ℕ) (name : String) (s : NormalizedStage)
    (parameters : String → Option JsonScalar) :
    p'.publicSpec runRef port version n name s parameters =
      p.publicSpec runRef port version n name s parameters := by
  rw [h.prepared, h.data]
  rfl

theorem publicSpec_eq_iff {n : ℕ} {name : String} {s s' : NormalizedStage}
    {parameters parameters' : String → Option JsonScalar} :
    p.publicSpec runRef port version n name s parameters =
        p.publicSpec runRef port version n name s' parameters' ↔
      masked s.sensitiveParameters parameters = masked s'.sensitiveParameters parameters' ∧
        argumentTokens safeRendered parameters p.definitions =
          argumentTokens safeRendered parameters' p.definitions := by
  constructor
  · intro h
    refine ⟨congrArg PublicSpec.parameters h, ?_⟩
    have hargv : p.argv runRef port version safeRendered n parameters =
        p.argv runRef port version safeRendered n parameters' := congrArg PublicSpec.argv h
    unfold Prepared.argv at hargv
    exact List.append_cancel_left (List.append_cancel_right hargv)
  · rintro ⟨hmasked, htokens⟩
    unfold masked at hmasked
    unfold Prepared.publicSpec Prepared.argv
    rw [hmasked, htokens]

/-- What is shown of a stage of either request. -/
structure BuiltTwins (runRef : String) (port : Option ℕ) (version : VersionMeta) (p p' : Prepared)
    (c c' : StageContext) (b b' : BuiltStage) : Prop where
  twins : Twins p p'
  alike : Alike c c'
  definitions : c.definitions = p.definitions
  built : ∃ s, BuiltAs p runRef port version c s b
  built' : ∃ s', BuiltAs p' runRef port version c' s' b'

namespace BuiltTwins

variable {e e' : StageContext} {b b' : BuiltStage}

theorem stageNumber_eq (h : BuiltTwins runRef port version p p' e e' b b') :
    e'.stageNumber = e.stageNumber := by
  rw [h.alike.rest]

theorem builtFrom (h : BuiltTwins runRef port version p p' e e' b b') {s' : NormalizedStage}
    (hb' : BuiltAs p' runRef port version e' s' b') :
    BuiltFrom e' (p.previousOutput runRef version e.stageNumber) b'.parameters := by
  have hprevious := hb'.parameters
  rw [h.stageNumber_eq, h.twins.prepared] at hprevious
  exact hprevious

theorem names_eq (h : BuiltTwins runRef port version p p' e e' b b') :
    b.stageNumber = b'.stageNumber ∧ b.stageName = b'.stageName ∧
      b.stageInputSource = b'.stageInputSource ∧ b.outputDirectory = b'.outputDirectory ∧
        b.preflight = b'.preflight := by
  obtain ⟨s, hb⟩ := h.built
  obtain ⟨s', hb'⟩ := h.built'
  have hnumber := h.stageNumber_eq
  have hsource : e'.source = e.source := by rw [h.alike.rest]
  refine ⟨?_, ?_, ?_, ?_, ?_⟩
  · rw [hb.number, hb'.number, hnumber]
  · have hname := hb'.name
    rw [hnumber, hb.name] at hname
    exact Option.some.inj hname
  · rw [hb.source, hb'.source, hb.normalized.source, hb'.normalized.source, hsource]
  · rw [hb.output, hb'.output, hnumber, h.twins.prepared]
    rfl
  · rw [hb.preflight, hb'.preflight, h.twins.data]

theorem runSpec_eq_iff (h : BuiltTwins runRef port version p p' e e' b b') :
    b.runSpec = b'.runSpec ↔
      b.runSpec.parameters = b'.runSpec.parameters ∧ b.runSpec.argv = b'.runSpec.argv := by
  constructor
  · intro heq
    rw [heq]
    exact ⟨rfl, rfl⟩
  · rintro ⟨hparameters, hargv⟩
    obtain ⟨s, hb⟩ := h.built
    obtain ⟨s', hb'⟩ := h.built'
    rw [hb.run_spec, hb'.run_spec, h.twins.publicSpec, h.stageNumber_eq, ← h.names_eq.2.1]
      at hparameters hargv ⊢
    rw [publicSpec_eq_iff]
    refine ⟨hparameters, ?_⟩
    have hargv : p.argv runRef port version safeRendered e.stageNumber b.parameters =
        p.argv runRef port version safeRendered e.stageNumber b'.parameters := hargv
    unfold Prepared.argv at hargv
    exact List.append_cancel_left (List.append_cancel_right hargv)

def FlagsEq (e : StageContext) (b b' : BuiltStage) : Prop :=
  ∀ d ∈ e.definitions, (emits b.parameters d ↔ emits b'.parameters d)

theorem sameActivation_iff (h : BuiltTwins runRef port version p p' e e' b b') :
    b.runSpec = b'.runSpec ∧ FlagsEq e b b' ↔ SameActivation e e' := by
  obtain ⟨s, hb⟩ := h.built
  obtain ⟨s', hb'⟩ := h.built'
  have hfrom' := h.builtFrom hb'
  have hiff := h.alike.sameActivation_iff hb.normalized hb'.normalized hb.parameters hfrom'
  have hspec : b.runSpec = b'.runSpec ↔
      masked s.sensitiveParameters b.parameters = masked s'.sensitiveParameters b'.parameters ∧
        argumentTokens safeRendered b.parameters p.definitions =
          argumentTokens safeRendered b'.parameters p.definitions := by
    rw [hb.run_spec, hb'.run_spec, h.twins.publicSpec, h.stageNumber_eq, ← h.names_eq.2.1,
      publicSpec_eq_iff]
  rw [hspec, hiff]
  constructor
  · rintro ⟨⟨hmasked, -⟩, hflags⟩
    exact ⟨hmasked, hflags⟩
  · rintro ⟨hmasked, hflags⟩
    refine ⟨⟨hmasked, ?_⟩, hflags⟩
    rw [← h.definitions]
    exact h.alike.argumentTokens_eq hb.normalized hb'.normalized hb.parameters hfrom'
      (hiff.2 ⟨hmasked, hflags⟩)

/-- With flags of their own the shown specification is enough. -/
theorem sameActivation_of_runSpec (h : BuiltTwins runRef port version p p' e e' b b')
    (hnodup : (e.definitions.map ParameterDefinition.cliFlag).Nodup)
    (heq : b.runSpec = b'.runSpec) : SameActivation e e' := by
  rw [← h.sameActivation_iff]
  refine ⟨heq, ?_⟩
  obtain ⟨s, hb⟩ := h.built
  obtain ⟨s', hb'⟩ := h.built'
  have hfrom' := h.builtFrom hb'
  rw [hb.run_spec, hb'.run_spec, h.twins.publicSpec, h.stageNumber_eq, ← h.names_eq.2.1,
    publicSpec_eq_iff] at heq
  rw [← h.definitions] at heq
  exact h.alike.flags_of_tokens hb.parameters hfrom' hnodup
    (fun d hd => h.alike.active_of_masked hb.parameters hfrom' heq.1 hd) heq.2

theorem previewStage_eq_iff (h : BuiltTwins runRef port version p p' e e' b b') :
    previewStage b = previewStage b' ↔ b.runSpec = b'.runSpec := by
  constructor
  · intro heq
    have hspec := congrArg PreviewStage.runSpec heq
    rw [h.runSpec_eq_iff]
    exact ⟨congrArg RunSpecProjection.parameters hspec, congrArg RunSpecProjection.argv hspec⟩
  · intro heq
    obtain ⟨s, hb⟩ := h.built
    obtain ⟨s', hb'⟩ := h.built'
    obtain ⟨hnumber, hname, hsource, houtput, hpreflight⟩ := h.names_eq
    unfold previewStage
    rw [hb.preview, hb'.preview, heq, hnumber, hname, hsource, houtput, hpreflight]

theorem safeStage_eq_iff (h : BuiltTwins runRef port version p p' e e' b b') :
    safeStage b = safeStage b' ↔ b.runSpec = b'.runSpec := by
  obtain ⟨s, hb⟩ := h.built
  obtain ⟨s', hb'⟩ := h.built'
  constructor
  · intro heq
    rw [← hb.public_spec, ← hb'.public_spec]
    exact congrArg SafeStage.runSpec heq
  · intro heq
    have hparameters := congrArg PublicSpec.parameters heq
    rw [hb.run_spec, hb'.run_spec] at hparameters
    have hmasked : (fun key => (b.parameters key).map fun v =>
          if key ∈ s.sensitiveParameters then JsonScalar.str hidden else v) =
        fun key => (b'.parameters key).map fun v =>
          if key ∈ s'.sensitiveParameters then .str hidden else v := hparameters
    unfold safeStage
    rw [hb.safe_preview, hb'.safe_preview, hb.preview, hb'.preview, hb.public_spec,
      hb'.public_spec, hb.sensitive, hb'.sensitive, heq, hmasked]

end BuiltTwins

section

variable (hregistered : Registered texts platform data c) (hdiffer : DifferInSensitive c data data')
  (hdefinitions : validateStored texts.repr (adaptModel c).parameterDefinitions = .ok definitions)
  (h : prepare texts platform data ignorePlatformLeases allowRealPreview = .ok p)
  (h' : prepare texts platform data' ignorePlatformLeases allowRealPreview = .ok p')

include hregistered hdiffer

theorem Registered.of_differ : Registered texts platform data' c := by
  refine ⟨hregistered.validated, fun model hmodel => hregistered.stored model ?_⟩
  rw [hdiffer.rest] at hmodel
  exact hmodel

include h in
theorem alike_of_differ (hp : p'.definitions = p.definitions) (htexts : p'.texts = p.texts) {i : ℕ}
    {s s' : RunStageRequest} (hi : data.stages[i]? = some s) (hi' : data'.stages[i]? = some s') :
    Alike (stageContext p i s) (stageContext p' i s') := by
  have hprepared := preparedFor_of_prepare hregistered h
  have haccepted := hregistered.accepted
  obtain ⟨hlength, hstages⟩ := List.forall₂_iff_get.1 hdiffer.stages
  obtain ⟨hlt, rfl⟩ := List.getElem?_eq_some_iff.1 hi
  obtain ⟨hlt', rfl⟩ := List.getElem?_eq_some_iff.1 hi'
  obtain ⟨hsource, hlookup⟩ := hstages i hlt hlt'
  simp only [List.get_eq_getElem] at hsource hlookup
  refine ⟨?_, haccepted.wellFormed hprepared.stored, hprepared.role, hprepared.style, ?_⟩
  · unfold stageContext
    rw [hp, htexts, hsource]
  · intro d hd hsensitive
    obtain ⟨a, ha, hstored⟩ := exists_of_forall₂_right hprepared.stored hd
    have hkey : ∀ a' ∈ c.parameterDefinitions, a'.key = d.name → ¬ a'.sensitive := by
      intro a' ha' hname
      obtain rfl := key_injective haccepted.keys ha' ha (hname.trans hstored.name)
      rwa [← hstored.sensitive]
    unfold StageContext.value stageContext
    dsimp only
    rw [hlookup d.name hkey]

include h h'

theorem builtTwins_of_differ (hbuild : p.build runRef port version = .ok built)
    (hbuild' : p'.build runRef port version = .ok built') {i : ℕ} {s s' : RunStageRequest}
    (hi : data.stages[i]? = some s) (hi' : data'.stages[i]? = some s') :
    ∃ b b', built[i]? = some b ∧ built'[i]? = some b' ∧
      BuiltTwins runRef port version p p' (stageContext p i s) (stageContext p' i s') b b' := by
  have htwins := twins_of_prepare hdiffer.rest h h'
  have hregistered' := hregistered.of_differ hdiffer
  obtain ⟨n, b, -, hb, hbuilt⟩ := builtAs_of_build hregistered.accepted
    (preparedFor_of_prepare hregistered h) hbuild hi
  obtain ⟨n', b', -, hb', hbuilt'⟩ := builtAs_of_build hregistered'.accepted
    (preparedFor_of_prepare hregistered' h') hbuild' hi'
  refine ⟨b, b', hb, hb', htwins, ?_, rfl, ⟨n, hbuilt⟩, ⟨n', hbuilt'⟩⟩
  exact alike_of_differ hregistered hdiffer h (by rw [htwins.prepared]) (by rw [htwins.prepared])
    hi hi'

include hdefinitions

theorem shown_iff (hbuild : p.build runRef port version = .ok built)
    (hbuild' : p'.build runRef port version = .ok built') {γ : Type} (f : BuiltStage → γ)
    (hf : ∀ e e' b b', BuiltTwins runRef port version p p' e e' b b' →
      (f b = f b' ↔ b.runSpec = b'.runSpec)) :
    (built.map f = built'.map f ∧ SameFlags definitions built built' ↔
        RunsSameActivation texts definitions data data') ∧
      ((definitions.map ParameterDefinition.cliFlag).Nodup → built.map f = built'.map f →
        RunsSameActivation texts definitions data data') := by
  have hp := preparedFor_of_prepare hregistered h
  have hp' := preparedFor_of_prepare (hregistered.of_differ hdiffer) h'
  have hsame : p.definitions = definitions := Except.ok.inj (hp.definitions.symm.trans hdefinitions)
  have hsame' : p'.definitions = definitions :=
    Except.ok.inj (hp'.definitions.symm.trans hdefinitions)
  have htexts : p.texts = texts := hp.same_texts
  have htexts' : p'.texts = texts := hp'.same_texts
  have hlength : data.stages.length = data'.stages.length := hdiffer.stages.length_eq
  have hlength' : built.length = built'.length := by
    rw [length_of_build hp hbuild, length_of_build hp' hbuild', hlength]
  have hmap : built.map f = built'.map f ↔
      ∀ (i : ℕ) (b b' : BuiltStage), built[i]? = some b → built'[i]? = some b' → f b = f b' :=
    map_eq_map_iff_get hlength'
  have hcontext : ∀ i s, stageContext p i s =
      ⟨texts, definitions, s.stageInputSource, s.parameters, i + 1⟩ := by
    intro i s
    rw [stageContext, hsame, htexts]
  have hcontext' : ∀ i s, stageContext p' i s =
      ⟨texts, definitions, s.stageInputSource, s.parameters, i + 1⟩ := by
    intro i s
    rw [stageContext, hsame', htexts']
  constructor
  · constructor
    · rintro ⟨hmapped, hflags⟩ i s s' hi hi'
      obtain ⟨b, b', hb, hb', htwins⟩ :=
        builtTwins_of_differ hregistered hdiffer h h' hbuild hbuild' hi hi'
      rw [← hcontext, ← hcontext', ← htwins.sameActivation_iff]
      refine ⟨(hf _ _ _ _ htwins).1 (hmap.1 hmapped i b b' hb hb'), fun d hd => ?_⟩
      have hd : d ∈ definitions := hsame ▸ hd
      rw [← flag_mem_iff hd, ← flag_mem_iff hd]
      exact hflags i b b' hb hb' d hd
    · intro hall
      have hstage : ∀ (i : ℕ) (b b' : BuiltStage), built[i]? = some b → built'[i]? = some b' →
          f b = f b' ∧ ∀ d ∈ definitions, (emits b.parameters d ↔ emits b'.parameters d) := by
        intro i b b' hb hb'
        have hlt : i < data.stages.length := by
          rw [← length_of_build hp hbuild]
          exact (List.getElem?_eq_some_iff.1 hb).1
        obtain ⟨s, hi⟩ : ∃ s, data.stages[i]? = some s := ⟨_, List.getElem?_eq_getElem hlt⟩
        obtain ⟨s', hi'⟩ : ∃ s', data'.stages[i]? = some s' :=
          ⟨_, List.getElem?_eq_getElem (hlength ▸ hlt)⟩
        obtain ⟨c₁, c₂, hc₁, hc₂, htwins⟩ :=
          builtTwins_of_differ hregistered hdiffer h h' hbuild hbuild' hi hi'
        obtain rfl := Option.some.inj (hb.symm.trans hc₁)
        obtain rfl := Option.some.inj (hb'.symm.trans hc₂)
        have hactivation := hall i s s' hi hi'
        rw [← hcontext, ← hcontext', ← htwins.sameActivation_iff] at hactivation
        refine ⟨(hf _ _ _ _ htwins).2 hactivation.1, ?_⟩
        intro d hd
        rw [← hsame] at hd
        exact hactivation.2 d hd
      refine ⟨hmap.2 fun i b b' hb hb' => (hstage i b b' hb hb').1, fun i b b' hb hb' d hd => ?_⟩
      rw [flag_mem_iff hd, flag_mem_iff hd]
      exact (hstage i b b' hb hb').2 d hd
  · intro hnodup hmapped i s s' hi hi'
    obtain ⟨b, b', hb, hb', htwins⟩ :=
      builtTwins_of_differ hregistered hdiffer h h' hbuild hbuild' hi hi'
    rw [← hcontext, ← hcontext']
    rw [← hsame] at hnodup
    exact htwins.sameActivation_of_runSpec hnodup
      ((hf _ _ _ _ htwins).1 (hmap.1 hmapped i b b' hb hb'))

end

/-- What a preview and the stored stages show is the same, and so is the presence of every flag,
exactly when the active parameters and the values of the sensitive flags are the same. -/
theorem sensitive_values_hidden_iff {findAvailablePort : String → Except PrepareError ℕ}
    (hregistered : Registered texts platform data c) (hdiffer : DifferInSensitive c data data')
    (hdefinitions :
      validateStored texts.repr (adaptModel c).parameterDefinitions = .ok definitions) :
    (∀ r r', previewRun texts platform findAvailablePort data = .ok r →
      previewRun texts platform findAvailablePort data' = .ok r' →
        (previewProjection r = previewProjection r' ∧ SameFlags definitions r.stages r'.stages ↔
          RunsSameActivation texts definitions data data') ∧
        ((definitions.map ParameterDefinition.cliFlag).Nodup →
          previewProjection r = previewProjection r' →
            RunsSameActivation texts definitions data data')) ∧
    ∀ runRef port version built built',
      createStages texts platform data runRef port version = .ok built →
      createStages texts platform data' runRef port version = .ok built' →
        (built.map safeStage = built'.map safeStage ∧ SameFlags definitions built built' ↔
          RunsSameActivation texts definitions data data') ∧
        ((definitions.map ParameterDefinition.cliFlag).Nodup →
          built.map safeStage = built'.map safeStage →
            RunsSameActivation texts definitions data data') := by
  constructor
  · intro r r' hr hr'
    obtain ⟨p, h, hr⟩ := bind_eq_ok.1 hr
    obtain ⟨port, hport, hr⟩ := bind_eq_ok.1 hr
    obtain ⟨built, hbuild, hr⟩ := bind_eq_ok.1 hr
    cases hr
    obtain ⟨p', h', hr'⟩ := bind_eq_ok.1 hr'
    obtain ⟨port', hport', hr'⟩ := bind_eq_ok.1 hr'
    obtain ⟨built', hbuild', hr'⟩ := bind_eq_ok.1 hr'
    cases hr'
    have htwins := twins_of_prepare hdiffer.rest h h'
    have hsame : port' = port := by
      rw [htwins.prepared, hdiffer.rest] at hport'
      exact Except.ok.inj (hport'.symm.trans hport)
    rw [hsame] at hbuild'
    have hprojection : previewProjection ⟨built, p.datasetManifest "preview" previewVersion,
          p.datasetManifestPath "preview" previewVersion, previewCheck data.executionMode⟩ =
        previewProjection ⟨built', p'.datasetManifest "preview" previewVersion,
          p'.datasetManifestPath "preview" previewVersion, previewCheck data'.executionMode⟩ ↔
        built.map previewStage = built'.map previewStage := by
      rw [htwins.prepared, hdiffer.rest]
      constructor
      · exact congrArg PreviewProjection.stages
      · intro hstages
        unfold previewProjection
        rw [hstages]
        rfl
    rw [hprojection]
    exact shown_iff hregistered hdiffer hdefinitions h h' hbuild hbuild' previewStage
      fun _ _ _ _ htwins => htwins.previewStage_eq_iff
  · intro runRef port version built built' hbuilt hbuilt'
    obtain ⟨p, h, hbuild⟩ := bind_eq_ok.1 hbuilt
    obtain ⟨p', h', hbuild'⟩ := bind_eq_ok.1 hbuilt'
    exact shown_iff hregistered hdiffer hdefinitions h h' hbuild hbuild' safeStage
      fun _ _ _ _ htwins => htwins.safeStage_eq_iff

end

namespace Sample

def token : Api.ParameterDefinition :=
  { steps with
    key := "token"
    label := "Token"
    type := .string
    default := .str "none"
    minimum := none
    sensitive := true }

def debug : Api.ParameterDefinition :=
  { steps with
    key := "debug"
    label := "Debug"
    type := .boolean
    default := .bool false
    minimum := none
    sensitive := true
    argumentStyle := some .flagWhenTrue }

/-- A model with a sensitive text and a sensitive flag. -/
def secretConfiguration : ModelConfigurationRequest :=
  { configuration [] with parameterDefinitions := [steps, token, debug] }

def findPort (_serverRef : String) : Except PrepareError ℕ := .ok 29500

def supply (key : String) (value : JsonScalar) : RunRequest := request [⟨[(key, value)], .manual⟩]

theorem differ_supply {key : String} {d : Api.ParameterDefinition}
    (hd : d ∈ secretConfiguration.parameterDefinitions) (hkey : d.key = key)
    (hsensitive : d.sensitive) (v w : JsonScalar) :
    DifferInSensitive secretConfiguration (supply key v) (supply key w) := by
  refine ⟨rfl, .cons ⟨rfl, fun name hname => ?_⟩ .nil⟩
  have hne : name ≠ key := by
    rintro rfl
    exact hname d hd hkey hsensitive
  have hbeq : (name == key) = false := by simpa using hne
  simp [List.lookup_cons, hbeq]

/-- What two previews show of their command lines. -/
def shownArgv (data : RunRequest) : Option (List (List String)) :=
  (previewRun texts (platform secretConfiguration) findPort data).toOption.map fun r =>
    (previewProjection r).stages.map fun s => s.runSpec.argv

end Sample

/-- A preview does not show which text is supplied for a sensitive parameter. -/
theorem sample_token_hidden : ∃ r r',
    previewRun Sample.texts (Sample.platform Sample.secretConfiguration) Sample.findPort
      (Sample.supply "token" (.str "first")) = .ok r ∧
    previewRun Sample.texts (Sample.platform Sample.secretConfiguration) Sample.findPort
      (Sample.supply "token" (.str "second")) = .ok r' ∧
    previewProjection r = previewProjection r' := by
  have hregistered : Registered Sample.texts (Sample.platform Sample.secretConfiguration)
      (Sample.supply "token" (.str "first")) Sample.secretConfiguration :=
    Sample.registered (by decide +kernel)
  have hdiffer := Sample.differ_supply (d := Sample.token) (by decide) rfl rfl (.str "first")
    (.str "second")
  obtain ⟨r, hr⟩ := Sample.exists_ok (r := previewRun Sample.texts
    (Sample.platform Sample.secretConfiguration) Sample.findPort
    (Sample.supply "token" (.str "first"))) (by decide +kernel)
  obtain ⟨r', hr'⟩ := Sample.exists_ok (r := previewRun Sample.texts
    (Sample.platform Sample.secretConfiguration) Sample.findPort
    (Sample.supply "token" (.str "second"))) (by decide +kernel)
  have hall : (validateStored Sample.texts.repr
      (adaptModel Sample.secretConfiguration).parameterDefinitions).toOption.any fun ds =>
        ds.all fun d => d.visibleWhen = none ∧
          (d.argumentStyle = .flagWhenTrue → d.name = "debug") := by
    decide +kernel
  obtain ⟨definitions, hdefinitions, hall⟩ := Option.any_eq_true _ _ |>.1 hall
  have hdefinitions := Sample.ok_of_toOption hdefinitions
  have hdefined : ∀ d ∈ definitions, d.visibleWhen = none ∧
      (d.argumentStyle = .flagWhenTrue → d.name = "debug") :=
    fun d hd => of_decide_eq_true (List.all_eq_true.1 hall d hd)
  refine ⟨r, r', hr, hr', ?_⟩
  refine (((sensitive_values_hidden_iff hregistered hdiffer hdefinitions).1 r r' hr hr').1.2 ?_).1
  intro i s s' hi hi'
  cases i with
  | succ i => cases hi
  | zero =>
    cases hi
    cases hi'
    constructor
    · intro d hd
      have hfree := (hdefined d hd).1
      exact iff_of_true (.free hfree) (.free hfree)
    · intro d hd _ _ hstyle
      have hname := (hdefined d hd).2 hstyle
      unfold StageContext.value
      rw [hname]
      rfl

/-- A preview shows whether a sensitive flag is set. -/
theorem sample_debug_shown : ∃ r r',
    Registered Sample.texts (Sample.platform Sample.secretConfiguration)
      (Sample.supply "debug" (.bool true)) Sample.secretConfiguration ∧
    DifferInSensitive Sample.secretConfiguration (Sample.supply "debug" (.bool true))
      (Sample.supply "debug" (.bool false)) ∧
    previewRun Sample.texts (Sample.platform Sample.secretConfiguration) Sample.findPort
      (Sample.supply "debug" (.bool true)) = .ok r ∧
    previewRun Sample.texts (Sample.platform Sample.secretConfiguration) Sample.findPort
      (Sample.supply "debug" (.bool false)) = .ok r' ∧
    previewProjection r ≠ previewProjection r' := by
  obtain ⟨r, hr⟩ := Sample.exists_ok (r := previewRun Sample.texts
    (Sample.platform Sample.secretConfiguration) Sample.findPort
    (Sample.supply "debug" (.bool true))) (by decide +kernel)
  obtain ⟨r', hr'⟩ := Sample.exists_ok (r := previewRun Sample.texts
    (Sample.platform Sample.secretConfiguration) Sample.findPort
    (Sample.supply "debug" (.bool false))) (by decide +kernel)
  have hne : Sample.shownArgv (Sample.supply "debug" (.bool true)) ≠
      Sample.shownArgv (Sample.supply "debug" (.bool false)) := by
    decide +kernel
  refine ⟨r, r', Sample.registered (by decide +kernel),
    Sample.differ_supply (d := Sample.debug) (by decide) rfl rfl _ _, hr, hr', fun heq => ?_⟩
  apply hne
  rw [Sample.shownArgv, Sample.shownArgv, hr, hr']
  exact congrArg (fun q : PreviewProjection => some (q.stages.map fun s => s.runSpec.argv)) heq

end DataJuicer.RunSpecs
