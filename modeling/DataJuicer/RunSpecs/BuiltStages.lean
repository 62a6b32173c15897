import DataJuicer.RunSpecs.AcceptedModels

/-! # Built stages

What a stage that has been normalised and built is made of: the parameters are the active ones,
each with its normalised value or, for an automatic input, with the output of the previous stage.
-/

namespace DataJuicer.RunSpecs

open Transaction Models

/-- A stage of a request after it has been normalised. -/
structure NormalizedAs (c : StageContext) (s : NormalizedStage) : Prop where
  decided : ∃ state, c.Decided state ∧ s.parameters = state.normalized ∧
    s.sensitiveParameters = state.sensitive
  source : s.stageInputSource = c.source
  registered : c.source = .previousStageOutput → c.stageInput ≠ none
  steps : ∃ state, c.Decided state ∧ stepCount c.texts
    (state.normalized "max_steps") = .ok s.totalSteps

structure BuiltFrom (c : StageContext) (previous : Option String)
    (parameters : String → Option JsonScalar) : Prop where
  active : ∀ d ∈ c.definitions, parameters d.name ≠ none ↔ c.Active d
  manual : ∀ d ∈ c.definitions, ¬ c.Automatic d → ∀ v, parameters d.name = some v →
    normalizeParameterValue c.texts.repr d (c.value d) = .ok v
  automatic : ∀ d ∈ c.definitions, c.Automatic d → ∀ v, parameters d.name = some v →
    ∃ path, previous = some path ∧ normalizeParameterValue c.texts.repr d (.str path) = .ok v
  defined : ∀ n, parameters n ≠ none → ∃ d ∈ c.definitions, d.name = n

section

variable {texts : Texts} {definitions : List ParameterDefinition} {mode : ExecutionMode}

theorem normalizedAs_of_normalizeStage (hwf : WellFormed definitions) {n : ℕ}
    {stage : RunStageRequest} {s : NormalizedStage}
    (h : normalizeStage texts definitions mode n stage = .ok s) :
    NormalizedAs ⟨texts, definitions, stage.stageInputSource, stage.parameters, n⟩ s := by
  unfold normalizeStage at h
  dsimp only at h
  obtain ⟨_, -, h⟩ := bind_eq_ok.1 h
  obtain ⟨_, hregistered, h⟩ := bind_eq_ok.1 h
  obtain ⟨_, -, h⟩ := bind_eq_ok.1 h
  obtain ⟨state, hstate, h⟩ := bind_eq_ok.1 h
  obtain ⟨steps, hsteps, h⟩ := bind_eq_ok.1 h
  obtain ⟨_, -, h⟩ := bind_eq_ok.1 h
  cases h
  have hdecided := StageContext.decided_of_resolveAll hwf hstate
  rw [raiseIf_eq_ok] at hregistered
  exact ⟨⟨state, hdecided, rfl, rfl⟩, rfl, fun hsource hnone => hregistered ⟨hsource, hnone⟩,
    state, hdecided, hsteps⟩

variable {p : Prepared} {c : StageContext} {s : NormalizedStage} {n : ℕ} {previous : Option String}
  {parameters : String → Option JsonScalar}

/-- Without an automatic input the parameters are those of the normalised stage. -/
theorem builtFrom_of_manual (hs : NormalizedAs c s) (hnone : ∀ d, ¬ c.Automatic d) :
    BuiltFrom c previous s.parameters := by
  obtain ⟨state, hdecided, hparameters, -⟩ := hs.decided
  rw [hparameters]
  constructor
  · intro d hd
    rw [Option.ne_none_iff_exists']
    constructor
    · rintro ⟨v, hv⟩
      exact ((hdecided.normalized d hd v).1 hv).1
    · intro hactive
      obtain ⟨v, hv⟩ := hdecided.accepted d hd hactive (hnone d)
      exact ⟨v, (hdecided.normalized d hd v).2 ⟨hactive, hnone d, hv⟩⟩
  · intro d hd _ v hv
    exact ((hdecided.normalized d hd v).1 hv).2.2
  · intro d _ hauto
    exact absurd hauto (hnone d)
  · exact hdecided.defined

theorem builtFrom_of_automatic (hwf : WellFormed c.definitions) (hs : NormalizedAs c s)
    {e : ParameterDefinition} (he : c.stageInput = some e)
    (hsource : c.source = .previousStageOutput) {path : String} {v : JsonScalar}
    (hv : normalizeParameterValue c.texts.repr e (.str path) = .ok v) :
    BuiltFrom c (some path) (Function.update s.parameters e.name (some v)) := by
  obtain ⟨state, hdecided, hparameters, -⟩ := hs.decided
  have hmem : e ∈ c.definitions := List.mem_of_find?_eq_some he
  have hauto : ∀ d, c.Automatic d ↔ d.name = e.name := by
    intro d
    simp [StageContext.Automatic, hsource, he]
  have hself : ∀ d ∈ c.definitions, d.name = e.name → d = e :=
    fun d hd hname => StageContext.name_injective hwf.names hd hmem hname
  rw [hparameters]
  constructor
  · intro d hd
    by_cases hname : d.name = e.name
    · simp [hname, StageContext.Active.automatic ((hauto d).2 hname)]
    · rw [Function.update_of_ne hname, Option.ne_none_iff_exists']
      constructor
      · rintro ⟨w, hw⟩
        exact ((hdecided.normalized d hd w).1 hw).1
      · intro hactive
        have hmanual : ¬ c.Automatic d := fun h => hname ((hauto d).1 h)
        obtain ⟨w, hw⟩ := hdecided.accepted d hd hactive hmanual
        exact ⟨w, (hdecided.normalized d hd w).2 ⟨hactive, hmanual, hw⟩⟩
  · intro d hd hmanual w hw
    have hname : d.name ≠ e.name := fun h => hmanual ((hauto d).2 h)
    rw [Function.update_of_ne hname] at hw
    exact ((hdecided.normalized d hd w).1 hw).2.2
  · intro d hd h w hw
    obtain rfl := hself d hd ((hauto d).1 h)
    rw [Function.update_self, Option.some.injEq] at hw
    exact ⟨path, rfl, hw ▸ hv⟩
  · intro m hm
    by_cases hname : m = e.name
    · exact ⟨e, hmem, hname.symm⟩
    · exact hdecided.defined m (by rwa [Function.update_of_ne hname] at hm)

theorem builtFrom_of_stageParameters (hwf : WellFormed c.definitions)
    (htexts : p.texts = c.texts) (hdefinitions : p.definitions = c.definitions)
    (hs : NormalizedAs c s) (h : p.stageParameters n previous s = .ok parameters) :
    BuiltFrom c previous parameters := by
  have hinput : p.stageInput = c.stageInput := by
    unfold Prepared.stageInput StageContext.stageInput
    rw [hdefinitions]
  unfold Prepared.stageParameters at h
  rw [hs.source, hinput, htexts] at h
  split at h
  · next e hsource he =>
    split at h
    · cases h
    · next path =>
      split at h
      · next v hv =>
        cases h
        exact builtFrom_of_automatic hwf hs he hsource hv
      · cases h
      · cases h
  · next hother =>
    cases h
    refine builtFrom_of_manual hs fun d hauto => ?_
    obtain ⟨e, he⟩ := Option.ne_none_iff_exists'.1 (hs.registered hauto.1)
    exact hother e hauto.1 he

end

section

variable {p : Prepared} {runRef : String} {port : Option ℕ} {version : VersionMeta} {n : ℕ}
  {previous : Option String} {s : NormalizedStage} {b : BuiltStage}

structure BuiltOf (p : Prepared) (runRef : String) (port : Option ℕ) (version : VersionMeta)
    (n : ℕ) (s : NormalizedStage) (b : BuiltStage) : Prop where
  number : b.stageNumber = n
  name : stageNames[n - 1]? = some b.stageName
  source : b.stageInputSource = s.stageInputSource
  output : b.outputDirectory = p.output runRef version n
  private_argv : b.privateSpec.argv = p.argv runRef port version rendered n b.parameters
  run_spec : b.runSpec = p.publicSpec runRef port version n b.stageName s b.parameters
  public_spec : b.privateSpec.publicSpec = b.runSpec
  sensitive : b.privateSpec.sensitiveParameters = s.sensitiveParameters
  preview : b.commandPreview = shlexJoin b.runSpec.argv
  safe_preview : b.privateSpec.safeCommandPreview = b.commandPreview
  preflight : b.preflight = stageCheck p.data.executionMode

structure BuiltAs (p : Prepared) (runRef : String) (port : Option ℕ) (version : VersionMeta)
    (c : StageContext) (s : NormalizedStage) (b : BuiltStage) : Prop
    extends BuiltOf p runRef port version c.stageNumber s b where
  normalized : NormalizedAs c s
  parameters : BuiltFrom c (p.previousOutput runRef version c.stageNumber) b.parameters

theorem buildStage_ok (h : p.buildStage runRef port version n previous s = .ok b) :
    p.stageParameters n previous s = .ok b.parameters ∧ BuiltOf p runRef port version n s b := by
  unfold Prepared.buildStage at h
  obtain ⟨parameters, hparameters, h⟩ := bind_eq_ok.1 h
  obtain ⟨name, hname, h⟩ := bind_eq_ok.1 h
  cases h
  exact ⟨hparameters, rfl, orRaise_eq_ok.1 hname, rfl, rfl, rfl, rfl, rfl, rfl, rfl, rfl, rfl⟩

variable {texts : Texts} {data : RunRequest} {c : ModelConfigurationRequest}
  {built : List BuiltStage}

theorem length_of_build (hp : PreparedFor texts data c p)
    (hbuild : p.build runRef port version = .ok built) : built.length = data.stages.length := by
  obtain ⟨_, -, hbuild⟩ := bind_eq_ok.1 hbuild
  exact (buildStages_get le_rfl rfl hbuild).1.trans (normalizeStages_get hp.stages).1

theorem builtAs_of_build (haccepted : Accepted c) (hp : PreparedFor texts data c p)
    (hbuild : p.build runRef port version = .ok built) {i : ℕ} {stage : RunStageRequest}
    (hi : data.stages[i]? = some stage) : ∃ s b, p.stages[i]? = some s ∧ built[i]? = some b ∧
      BuiltAs p runRef port version (stageContext p i stage) s b := by
  obtain ⟨_, -, hbuild⟩ := bind_eq_ok.1 hbuild
  obtain ⟨hlength, hnormal⟩ := normalizeStages_get hp.stages
  obtain ⟨hlength', hbuilt⟩ := buildStages_get le_rfl rfl hbuild
  have hwf : WellFormed p.definitions := haccepted.wellFormed hp.stored
  have hlt : i < data.stages.length := (List.getElem?_eq_some_iff.1 hi).1
  obtain ⟨s, hs⟩ : ∃ s, p.stages[i]? = some s :=
    ⟨_, List.getElem?_eq_getElem (hlength ▸ hlt)⟩
  obtain ⟨b, hb⟩ : ∃ b, built[i]? = some b :=
    ⟨_, List.getElem?_eq_getElem (hlength' ▸ hlength ▸ hlt)⟩
  have hnormalized := normalizedAs_of_normalizeStage hwf (hnormal i stage s hi hs)
  rw [Nat.add_comm] at hnormalized
  have hstage := hbuilt i s b hs hb
  rw [Nat.add_comm] at hstage
  obtain ⟨hparameters, hof⟩ := buildStage_ok hstage
  refine ⟨s, b, hs, hb, hof, hnormalized, ?_⟩
  exact builtFrom_of_stageParameters (c := stageContext p i stage) hwf rfl rfl hnormalized
    hparameters

end

end DataJuicer.RunSpecs
