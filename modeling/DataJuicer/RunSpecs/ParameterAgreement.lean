import DataJuicer.RunSpecs.BrowserParameters
import DataJuicer.RunSpecs.FlagCollisions

/-! # Agreement on parameters

The platform, the form and the conditions read as they stand find the same parameters of a stage
with manual input, up to comparisons that are not plain. The order of the definitions does not
matter, and the defaults of a model pass.
-/

namespace DataJuicer.RunSpecs

open Transaction Models

section

variable {texts : Texts} {definitions definitions' : List ParameterDefinition}
  {mode : ExecutionMode} {n : ℕ} {stage : RunStageRequest} {s : NormalizedStage}

def manualContext (texts : Texts) (definitions : List ParameterDefinition)
    (supplied : List (String × JsonScalar)) (n : ℕ) : StageContext :=
  ⟨texts, definitions, .manual, supplied, n⟩

theorem normalizeStage_eq (hmanual : stage.stageInputSource = .manual) :
    normalizeStage texts definitions mode n stage = (do
      raiseIf (∃ e ∈ stage.parameters, byName definitions e.1 = none)
        (.validation "unknown_parameter"
          ("Stage " ++ toString n ++ " contains an unknown training parameter."))
      let s ← (manualContext texts definitions stage.parameters n).resolveAll definitions
        (fun _ h => h) .initial
      let totalSteps ← stepCount texts (s.normalized "max_steps")
      raiseIf (totalSteps < 1 ∨ maximumSteps mode < totalSteps)
        (.validation "invalid_max_steps"
          ("max_steps must be between 1 and " ++ toString (maximumSteps mode) ++ "."))
      return ⟨s.normalized, s.sensitive, .manual, totalSteps⟩) := by
  have hfirst : ¬ (n = 1 ∧ stage.stageInputSource ≠ .manual) := fun h => h.2 hmanual
  have hprevious : stage.stageInputSource ≠ .previousStageOutput := by simp [hmanual]
  unfold normalizeStage manualContext
  dsimp only
  rw [raiseIf, if_neg hfirst, raiseIf, if_neg (fun h => hprevious h.1), hmanual]
  rfl

theorem normalizeStage_error (hwf : WellFormed definitions)
    (hmanual : stage.stageInputSource = .manual) {e : PrepareError}
    (h : normalizeStage texts definitions mode n stage = .error e) :
    ((∃ entry ∈ stage.parameters, byName definitions entry.1 = none) ∧
        ∃ message, e = .validation "unknown_parameter" message) ∨
      (manualContext texts definitions stage.parameters n).Refused e ∨
      (∃ state, (manualContext texts definitions stage.parameters n).Decided state ∧
        stepCount texts (state.normalized "max_steps") = .error e) ∨
      ∃ message, e = .validation "invalid_max_steps" message := by
  rw [normalizeStage_eq hmanual] at h
  rcases bind_eq_error.1 h with h | ⟨_, -, h⟩
  · rw [raiseIf_eq_error] at h
    exact .inl ⟨h.1, _, h.2.symm⟩
  rcases bind_eq_error.1 h with h | ⟨state, hstate, h⟩
  · exact .inr (.inl ((StageContext.resolveAll_spec hwf _ (StageContext.resolved_initial _) rfl).2
      e h))
  rcases bind_eq_error.1 h with h | ⟨total, -, h⟩
  · exact .inr (.inr (.inl ⟨state, StageContext.decided_of_resolveAll hwf hstate, h⟩))
  rcases bind_eq_error.1 h with h | ⟨_, -, h⟩
  · rw [raiseIf_eq_error] at h
    exact .inr (.inr (.inr ⟨_, h.2.symm⟩))
  · cases h

theorem stepCount_error {v : Option JsonScalar} {e : PrepareError}
    (h : stepCount texts v = .error e) : e = .raised := by
  unfold stepCount at h
  split at h
  · cases h
  · cases h
  · cases h
  · split at h <;> cases h
    rfl
  · rw [orRaise_eq_error] at h
    exact h.2.symm

theorem normalizeStage_ne_dependency (hwf : WellFormed definitions)
    (hmanual : stage.stageInputSource = .manual) (message : String) :
    normalizeStage texts definitions mode n stage ≠
      .error (.validation "invalid_parameter_dependency" message) := by
  intro h
  rcases normalizeStage_error hwf hmanual h with ⟨-, _, h⟩ | ⟨d, -, -, -, failure, -, h⟩ |
    ⟨_, -, h⟩ | ⟨_, h⟩
  · simp at h
  · cases failure <;> simp at h
  · cases stepCount_error h
  · simp at h

theorem parameters_iff (hwf : WellFormed definitions) (hmanual : stage.stageInputSource = .manual)
    (h : normalizeStage texts definitions mode n stage = .ok s) {d : ParameterDefinition}
    (hd : d ∈ definitions) : s.parameters d.name ≠ none ↔
      ChainHolds definitions (serverTest (manualContext texts definitions stage.parameters n))
        d := by
  have hnormal := normalizedAs_of_normalizeStage hwf h
  rw [hmanual] at hnormal
  have hbuilt : BuiltFrom _ none s.parameters := builtFrom_of_manual hnormal fun d =>
    not_automatic (d := d) rfl
  rw [hbuilt.active d hd]
  exact active_iff_chainHolds rfl

theorem chainHolds_perm (hperm : definitions'.Perm definitions)
    {test : ParameterDefinition → JsonScalar → Prop} {d : ParameterDefinition} :
    ChainHolds definitions' test d ↔ ChainHolds definitions test d := by
  constructor
  · intro h
    induction h with
    | free h => exact .free h
    | controlled h he hname _ htest ih => exact .controlled h (hperm.mem_iff.1 he) hname ih htest
  · intro h
    induction h with
    | free h => exact .free h
    | controlled h he hname _ htest ih => exact .controlled h (hperm.mem_iff.2 he) hname ih htest

theorem wellFormed_perm (hperm : definitions'.Perm definitions) (h : WellFormed definitions) :
    WellFormed definitions' := by
  refine ⟨(hperm.map _).nodup_iff.2 h.names, fun d hd => ?_⟩
  obtain ⟨n, hground⟩ := h.grounded d (hperm.mem_iff.1 hd)
  refine ⟨n, ?_⟩
  clear hd
  induction hground with
  | free h => exact .free h
  | controlled h he hname _ ih => exact .controlled h (hperm.mem_iff.2 he) hname ih

theorem byName_eq_none_iff {name : String} :
    byName definitions name = none ↔ ∀ d ∈ definitions, d.name ≠ name := by
  simp [byName, List.find?_eq_none]

/-- Definitions in another order give the same parameters. -/
theorem normalizeStage_perm (hwf : WellFormed definitions)
    (hperm : definitions'.Perm definitions) (hmanual : stage.stageInputSource = .manual)
    (h : normalizeStage texts definitions mode n stage = .ok s) :
    ∃ s', normalizeStage texts definitions' mode n stage = .ok s' ∧
      s'.parameters = s.parameters := by
  have hwf' := wellFormed_perm hperm hwf
  set c := manualContext texts definitions stage.parameters n with hc
  set c' := manualContext texts definitions' stage.parameters n with hc'
  have hactive : ∀ d, c'.Active d ↔ c.Active d := fun d => by
    rw [active_iff_chainHolds rfl, active_iff_chainHolds rfl]
    exact chainHolds_perm hperm
  rw [normalizeStage_eq hmanual] at h
  obtain ⟨_, hknown, h⟩ := bind_eq_ok.1 h
  obtain ⟨state, hstate, h⟩ := bind_eq_ok.1 h
  obtain ⟨total, htotal, h⟩ := bind_eq_ok.1 h
  obtain ⟨_, hrange, h⟩ := bind_eq_ok.1 h
  cases h
  have hdecided := StageContext.decided_of_resolveAll hwf hstate
  have hspec := StageContext.resolveAll_spec (c := c') hwf' (fun _ h => h)
    (StageContext.resolved_initial c') rfl
  cases hstate' : c'.resolveAll definitions' (fun _ h => h) .initial with
  | error e =>
    obtain ⟨d, hd, hlive, hmanual', failure, hfailure, -⟩ := hspec.2 e hstate'
    obtain ⟨v, hv⟩ := hdecided.accepted d (hperm.mem_iff.1 hd) ((hactive d).1 hlive)
      (not_automatic rfl)
    cases hv.symm.trans hfailure
  | ok state' =>
    have hdecided' := StageContext.decided_of_resolveAll hwf' hstate'
    have hsame : state'.normalized = state.normalized := by
      ext1 name
      by_cases hdefined : ∃ d ∈ definitions, d.name = name
      · obtain ⟨d, hd, rfl⟩ := hdefined
        ext v
        rw [hdecided.normalized d hd, hdecided'.normalized d (hperm.mem_iff.2 hd), hactive,
          and_iff_right (not_automatic (c := c') rfl), and_iff_right (not_automatic rfl)]
        rfl
      · have hnone : state.normalized name = none := by
          by_contra hne
          exact hdefined (hdecided.defined name hne)
        have hnone' : state'.normalized name = none := by
          by_contra hne
          obtain ⟨d, hd, hname⟩ := hdecided'.defined name hne
          exact hdefined ⟨d, hperm.mem_iff.1 hd, hname⟩
        rw [hnone, hnone']
    refine ⟨⟨state'.normalized, state'.sensitive, .manual, total⟩, ?_, hsame⟩
    rw [normalizeStage_eq hmanual, bind_eq_ok]
    refine ⟨⟨⟩, ?_, ?_⟩
    · rw [raiseIf_eq_ok] at hknown ⊢
      rintro ⟨entry, hentry, hnone⟩
      refine hknown ⟨entry, hentry, ?_⟩
      rw [byName_eq_none_iff] at hnone ⊢
      exact fun d hd => hnone d (hperm.mem_iff.2 hd)
    · rw [bind_eq_ok]
      refine ⟨state', hstate', ?_⟩
      rw [hsame, htotal]
      rw [raiseIf_eq_ok] at hrange
      change (raiseIf (total < 1 ∨ maximumSteps mode < total) _ >>= _) = _
      rw [raiseIf, if_neg hrange]
      rfl

/-- Whether the steps of a run with defaults can be read as a number. -/
def StepsReadable (c : StageContext) : Prop :=
  ∀ d ∈ c.definitions, d.name = "max_steps" → c.Active d → ∀ t, d.default = .str t →
    c.texts.int t ≠ none

/-- A stage without supplied values passes, up to the range of its steps. -/
def LaunchesWithDefaults (texts : Texts) (definitions : List ParameterDefinition) (n : ℕ) : Prop :=
  ∀ mode, (∃ s, normalizeStage texts definitions mode n ⟨[], .manual⟩ = .ok s) ∨
    ∃ message, normalizeStage texts definitions mode n ⟨[], .manual⟩ =
      .error (.validation "invalid_max_steps" message)

theorem stepCount_eq_error_iff {c : StageContext} {d : ParameterDefinition} {v w : JsonScalar}
    (h : normalizeParameterValue c.texts.repr d v = .ok w) :
    (∃ e, stepCount c.texts (some w) = .error e) ↔ ∃ t, v = .str t ∧ c.texts.int t = none := by
  rcases normalize_cases h with ⟨-, x, X, rfl, -, hfinite, rfl⟩ | ⟨rfl, hvalue⟩
  · refine iff_of_false ?_ (by simp)
    rintro ⟨e, he⟩
    cases hX : X.value with
    | finite q => simp [stepCount, hX] at he
    | posInf => rw [hX] at hfinite; cases hfinite
    | negInf => rw [hX] at hfinite; cases hfinite
    | nan => rw [hX] at hfinite; cases hfinite
  · rcases hvalue with ⟨-, b, rfl⟩ | ⟨-, m, rfl, -⟩ | ⟨-, t, rfl⟩
    · simp [stepCount]
    · simp [stepCount]
    · simp [stepCount]

theorem launchesWithDefaults_iff (hwf : WellFormed definitions)
    (hdefault : ∀ d ∈ definitions, ∃ v, normalizeParameterValue texts.repr d d.default = .ok v) :
    LaunchesWithDefaults texts definitions n ↔
      StepsReadable (manualContext texts definitions [] n) := by
  set c := manualContext texts definitions [] n with hc
  have hmanual : ∀ d, ¬ c.Automatic d := fun d => not_automatic rfl
  have hnone : ∀ e, ¬ c.Refused e := by
    rintro e ⟨d, hd, -, -, failure, hfailure, -⟩
    obtain ⟨v, hv⟩ := hdefault d hd
    cases hv.symm.trans hfailure
  constructor
  · intro hlaunch d hd hname hactive t ht hunread
    have hstart := hlaunch .simulation
    have hraised : normalizeStage texts definitions .simulation n
      ⟨[], .manual⟩ = .error .raised := by
      rw [normalizeStage_eq rfl, bind_eq_error]
      refine .inr ⟨⟨⟩, raiseIf_eq_ok.2 (by simp), ?_⟩
      cases hstate : c.resolveAll definitions (fun _ h => h) .initial with
      | error e =>
        exact absurd ((StageContext.resolveAll_spec hwf _ (StageContext.resolved_initial _)
          rfl).2 e hstate) (hnone e)
      | ok state =>
        have hdecided := StageContext.decided_of_resolveAll hwf hstate
        obtain ⟨v, hv⟩ := hdefault d hd
        have hnormal := (hdecided.normalized d hd v).2 ⟨hactive, hmanual d, hv⟩
        obtain ⟨e, he⟩ := (stepCount_eq_error_iff (c := c) hv).2 ⟨t, ht, hunread⟩
        obtain rfl := stepCount_error he
        rw [bind_eq_error]
        refine .inr ⟨state, rfl, ?_⟩
        rw [← hname, hnormal, bind_eq_error]
        exact .inl he
    rw [hraised] at hstart
    simp at hstart
  · intro hreadable mode
    cases hresult : normalizeStage texts definitions mode n ⟨[], .manual⟩ with
    | ok s => exact .inl ⟨s, rfl⟩
    | error e =>
      rcases normalizeStage_error hwf rfl hresult with ⟨hunknown, -⟩ | h |
        ⟨state, hdecided, h⟩ | ⟨_, rfl⟩
      · simp at hunknown
      · exact absurd h (hnone e)
      · cases hsteps : state.normalized "max_steps" with
        | none =>
          rw [hsteps] at h
          cases h
        | some v =>
          obtain ⟨d, hd, hname⟩ := hdecided.defined "max_steps" (by simp [hsteps])
          rw [hsteps] at h
          rw [← hname] at hsteps
          obtain ⟨hactive, -, hv⟩ := (hdecided.normalized d hd v).1 hsteps
          obtain ⟨t, ht, hunread⟩ := (stepCount_eq_error_iff (c := c) hv).1 ⟨e, h⟩
          exact absurd hunread (hreadable d hd hname hactive t ht)
      · exact .inr ⟨_, rfl⟩

end

section

variable {repr : ℤ → String} {as : List Api.ParameterDefinition} {ds : List ParameterDefinition}
  {manages : Bool}

theorem projectedAs_of_storedAs {a : Api.ParameterDefinition} {d : ParameterDefinition}
    (h : StoredAs repr a d) : ProjectedAs manages d (projectDefinition (adaptDefinition a)) := by
  refine ⟨h.name.symm, ?_, fun _ => ?_⟩
  · rw [h.visibleWhen]
    rfl
  · rw [h.default]
    rfl

/-- A definition without a hidden condition is projected as it is, up to a masked default. -/
theorem safe_projectedAs {a : Api.ParameterDefinition} {d : ParameterDefinition}
    {keys : List String} (h : StoredAs repr a d)
    (hkeys : ∀ condition, a.visibleWhen = some condition → condition.parameterKey ∉ keys) :
    ProjectedAs false d (safeDefinition keys (adaptDefinition a)) := by
  have hplain : ProjectedAs true d _ := projectedAs_of_storedAs h
  refine ⟨h.name.symm, ?_, fun hsensitive => ?_⟩
  · rw [← hplain.visibleWhen]
    unfold safeDefinition projectDefinition adaptDefinition
    dsimp only
    cases hvisible : a.visibleWhen with
    | none => rfl
    | some condition =>
      exact Option.filter_some_pos (decide_eq_true (hkeys condition hvisible))
  · have hsensitive : ¬ a.sensitive := by
      rw [← h.sensitive]
      simpa using hsensitive
    rw [h.default]
    exact if_neg hsensitive

theorem forall₂_projectedAs (hstored : List.Forall₂ (StoredAs repr) as ds)
    (hhidden : NothingHidden manages (as.map adaptDefinition)) :
    List.Forall₂ (ProjectedAs manages) ds (modelProjection manages (as.map adaptDefinition)) := by
  cases manages with
  | true =>
    unfold modelProjection
    rw [if_pos rfl, List.map_map, List.forall₂_map_right_iff]
    exact hstored.flip.imp fun _ _ h => projectedAs_of_storedAs h
  | false =>
    rw [NothingHidden, or_iff_right Bool.false_ne_true] at hhidden
    unfold modelProjection
    rw [if_neg Bool.false_ne_true, List.map_map, List.forall₂_map_right_iff]
    have hmem := (List.forall₂_and_left (p := (· ∈ as)) as ds).2 ⟨fun _ h => h, hstored⟩
    refine hmem.flip.imp fun d a h => safe_projectedAs h.2 ?_
    intro condition hvisible hkey
    obtain ⟨e, he, hname⟩ := List.mem_map.1 hkey
    rw [List.mem_filter] at he
    exact hhidden (adaptDefinition a) (List.mem_map_of_mem h.1) condition hvisible e he.1 hname he.2

/-- The default of a controller is shown to the viewer. -/
theorem shown_of_nothingHidden (hstored : List.Forall₂ (StoredAs repr) as ds)
    (hhidden : NothingHidden manages (as.map adaptDefinition)) :
    ∀ d ∈ ds, ∀ condition, d.visibleWhen = some condition → ∀ e ∈ ds,
      e.name = condition.parameterKey → manages ∨ ¬ e.sensitive := by
  intro d hd condition hvisible e he hname
  refine hhidden.imp_right fun hall => ?_
  obtain ⟨a, ha, hda⟩ := exists_of_forall₂_right hstored hd
  obtain ⟨b, hb, heb⟩ := exists_of_forall₂_right hstored he
  rw [heb.sensitive]
  exact hall (adaptDefinition a) (List.mem_map_of_mem ha) condition
    (hda.visibleWhen.symm.trans hvisible) (adaptDefinition b) (List.mem_map_of_mem hb)
    (heb.name.symm.trans hname)

/-- The value of a condition has the type of its controller. -/
theorem admits_of_accepted {c : ModelConfigurationRequest} (h : Accepted c)
    (hstored : List.Forall₂ (StoredAs repr) c.parameterDefinitions ds) :
    ∀ d ∈ ds, ∀ condition, d.visibleWhen = some condition → ∀ e ∈ ds,
      e.name = condition.parameterKey → e.kind.admits condition.equals := by
  intro d hd condition hvisible e he hname
  obtain ⟨dependencies, hcollect, -⟩ := h.dependencies
  obtain ⟨a, ha, hda⟩ := exists_of_forall₂_right hstored hd
  obtain ⟨b, hb, heb⟩ := exists_of_forall₂_right hstored he
  obtain ⟨-, controller, hcontrolled⟩ := (collectDependencies_ok hcollect).1 a ha condition
    (hda.visibleWhen.symm.trans hvisible)
  obtain rfl := key_injective h.keys hb hcontrolled.mem
    ((heb.name.symm.trans hname).trans hcontrolled.key.symm)
  obtain ⟨_, hadmits, -⟩ := bind_eq_ok.1 hcontrolled.value
  rw [raiseIf_eq_ok, not_not] at hadmits
  rwa [heb.kind]

end

section

variable {texts : Texts} {c : ModelConfigurationRequest} {definitions : List ParameterDefinition}
  {manages : Bool} {mode : ExecutionMode} {n : ℕ} {stage : RunStageRequest} {s : NormalizedStage}

/-- The parameters of a stage are those whose conditions hold, for the values as they are supplied
or for the form. -/
structure ParametersAgree (definitions : List ParameterDefinition)
    (shown : List TrainingParameterDefinition) (c : StageContext)
    (parameters : String → Option JsonScalar) : Prop where
  values : ∀ d ∈ definitions,
    parameters d.name ≠ none ↔ ChainHolds definitions (valueTest c) d
  form : ∀ d ∈ definitions, parameters d.name ≠ none ↔
    d.name ∈ (enabledTrainingParameters shown (formValues c.supplied)).map
      TrainingParameterDefinition.key

def PlainConditions (c : StageContext) : Prop :=
  ∀ d ∈ c.definitions, ∀ condition, d.visibleWhen = some condition → ∀ e ∈ c.definitions,
    e.name = condition.parameterKey → ChainHolds c.definitions (valueTest c) e →
      PlainComparison c e condition.equals

/-- The form enables the parameters whose conditions hold for it. -/
theorem form_iff {repr : ℤ → String} {as : List Api.ParameterDefinition}
    (hstored : List.Forall₂ (StoredAs repr) as definitions) (hwf : WellFormed definitions)
    (hhidden : NothingHidden manages (as.map adaptDefinition)) (values : List (String × JsValue))
    {d : ParameterDefinition} (hd : d ∈ definitions) :
    d.name ∈ (enabledTrainingParameters (modelProjection manages (as.map adaptDefinition))
        values).map TrainingParameterDefinition.key ↔
      ChainHolds definitions (browserTest values) d := by
  have hprojected := forall₂_projectedAs hstored hhidden
  have hshown := shown_of_nothingHidden hstored hhidden
  obtain ⟨m, hground⟩ := hwf.grounded d hd
  obtain ⟨j, hj, hproject⟩ := exists_of_forall₂_left hprojected hd
  have hempty : ∀ e ∈ definitions, e.name ∈ ([] : List String) →
      ∀ k, Grounded definitions k e → m < k := by simp
  rw [← enabled_iff hprojected hwf.names hshown hground hd hempty, List.mem_map]
  unfold enabledTrainingParameters
  constructor
  · rintro ⟨k, hk, hkey⟩
    rw [List.mem_filter, hkey] at hk
    exact hk.2
  · intro henabled
    refine ⟨j, List.mem_filter.2 ⟨hj, ?_⟩, hproject.key⟩
    rwa [hproject.key]

/-- The value of a parameter whose conditions hold has been accepted. -/
theorem value_of_chainHolds (hwf : WellFormed definitions)
    (hmanual : stage.stageInputSource = .manual)
    (h : normalizeStage texts definitions mode n stage = .ok s) {e : ParameterDefinition}
    (he : e ∈ definitions) (hchain : ChainHolds definitions
      (serverTest (manualContext texts definitions stage.parameters n)) e) :
    ∃ v, normalizeParameterValue texts.repr e
      ((manualContext texts definitions stage.parameters n).value e) = .ok v := by
  obtain ⟨v, hv⟩ := Option.ne_none_iff_exists'.1 ((parameters_iff hwf hmanual h he).2 hchain)
  have hnormal := normalizedAs_of_normalizeStage hwf h
  rw [hmanual] at hnormal
  have hbuilt : BuiltFrom _ none s.parameters :=
    builtFrom_of_manual hnormal fun _ => not_automatic rfl
  exact ⟨v, hbuilt.manual e he (not_automatic rfl) v hv⟩

/-- The parameters agree when the chains of conditions do. -/
theorem parametersAgree_iff_chains {shown : List TrainingParameterDefinition} {ctx : StageContext}
    {parameters : String → Option JsonScalar}
    (hparameters : ∀ d ∈ definitions,
      parameters d.name ≠ none ↔ ChainHolds definitions (serverTest ctx) d)
    (hform : ∀ d ∈ definitions,
      d.name ∈ (enabledTrainingParameters shown (formValues ctx.supplied)).map
        TrainingParameterDefinition.key ↔
          ChainHolds definitions (browserTest (formValues ctx.supplied)) d) :
    ParametersAgree definitions shown ctx parameters ↔
      (∀ d ∈ definitions,
        ChainHolds definitions (serverTest ctx) d ↔ ChainHolds definitions (valueTest ctx) d) ∧
      ∀ d ∈ definitions, ChainHolds definitions (serverTest ctx) d ↔
        ChainHolds definitions (browserTest (formValues ctx.supplied)) d := by
  constructor
  · intro hagree
    refine ⟨fun d hd => ?_, fun d hd => ?_⟩
    · rw [← hparameters d hd]
      exact hagree.values d hd
    · rw [← hparameters d hd, ← hform d hd]
      exact hagree.form d hd
  · rintro ⟨hvalues, hforms⟩
    refine ⟨fun d hd => ?_, fun d hd => ?_⟩
    · rw [hparameters d hd]
      exact hvalues d hd
    · rw [hparameters d hd, hform d hd]
      exact hforms d hd

/-- The chains agree when every condition that is reached is a plain comparison. -/
theorem chains_iff_plain {ctx : StageContext} (hwf : WellFormed ctx.definitions)
    (hreached : ∀ e ∈ ctx.definitions, ChainHolds ctx.definitions (serverTest ctx) e →
      ∃ v, normalizeParameterValue ctx.texts.repr e (ctx.value e) = .ok v)
    (hadmits : ∀ d ∈ ctx.definitions, ∀ condition, d.visibleWhen = some condition →
      ∀ e ∈ ctx.definitions, e.name = condition.parameterKey → e.kind.admits condition.equals) :
    ((∀ d ∈ ctx.definitions, ChainHolds ctx.definitions (serverTest ctx) d ↔
        ChainHolds ctx.definitions (valueTest ctx) d) ∧
      ∀ d ∈ ctx.definitions, ChainHolds ctx.definitions (serverTest ctx) d ↔
        ChainHolds ctx.definitions (browserTest (formValues ctx.supplied)) d) ↔
      PlainConditions ctx := by
  constructor
  · rintro ⟨hvalues, hforms⟩ d hd condition hvisible e he hname hchain
    have hserver := (hvalues e he).2 hchain
    obtain ⟨v, hv⟩ := hreached e he hserver
    rw [← tests_agree_iff hv (hadmits d hd condition hvisible e he hname)]
    constructor
    · exact (chains_agree_iff hwf).1 hvalues d hd condition hvisible e he hname hserver hchain
    · exact (chains_agree_iff hwf).1 hforms d hd condition hvisible e he hname hserver
        ((hforms e he).1 hserver)
  · intro hplain
    have htests : ∀ d ∈ ctx.definitions, ∀ condition, d.visibleWhen = some condition →
        ∀ e ∈ ctx.definitions, e.name = condition.parameterKey →
          ChainHolds ctx.definitions (serverTest ctx) e →
            ChainHolds ctx.definitions (valueTest ctx) e →
              (serverTest ctx e condition.equals ↔ valueTest ctx e condition.equals) ∧
                (serverTest ctx e condition.equals ↔
                  browserTest (formValues ctx.supplied) e condition.equals) := by
      intro d hd condition hvisible e he hname hserver hchain
      obtain ⟨v, hv⟩ := hreached e he hserver
      rw [tests_agree_iff hv (hadmits d hd condition hvisible e he hname)]
      exact hplain d hd condition hvisible e he hname hchain
    have hvalues : ∀ d ∈ ctx.definitions, ChainHolds ctx.definitions (serverTest ctx) d ↔
        ChainHolds ctx.definitions (valueTest ctx) d := by
      rw [chains_agree_iff hwf]
      intro d hd condition hvisible e he hname hserver hchain
      exact (htests d hd condition hvisible e he hname hserver hchain).1
    refine ⟨hvalues, ?_⟩
    rw [chains_agree_iff hwf]
    intro d hd condition hvisible e he hname hserver _
    exact (htests d hd condition hvisible e he hname hserver ((hvalues e he).1 hserver)).2

theorem parametersAgree_iff (haccepted : Accepted c)
    (hstored : List.Forall₂ (StoredAs texts.repr) c.parameterDefinitions definitions)
    (hhidden : NothingHidden manages (adaptModel c).parameterDefinitions)
    (hmanual : stage.stageInputSource = .manual)
    (h : normalizeStage texts definitions mode n stage = .ok s) :
    ParametersAgree definitions (modelProjection manages (adaptModel c).parameterDefinitions)
        (manualContext texts definitions stage.parameters n) s.parameters ↔
      PlainConditions (manualContext texts definitions stage.parameters n) := by
  have hwf : WellFormed definitions := haccepted.wellFormed hstored
  have hchains := parametersAgree_iff_chains (fun d hd => parameters_iff hwf hmanual h hd)
    fun d hd => form_iff hstored hwf hhidden (formValues stage.parameters) hd
  have hplain := @chains_iff_plain (manualContext texts definitions stage.parameters n) hwf
    (fun e he => value_of_chainHolds hwf hmanual h he) (admits_of_accepted haccepted hstored)
  exact hchains.trans hplain

/-- The definitions of an accepted model are accepted again, no stage with manual input is stopped
by a dependency, the order of the definitions does not matter, the parameters agree exactly when
the conditions are plain comparisons, and the defaults launch exactly when the steps can be read. -/
theorem accepted_parameters_agree {request : ModelConfigurationRequest}
    (h : request.validate texts.casefold = .ok c) :
    ∃ definitions, validateStored texts.repr (adaptModel c).parameterDefinitions = .ok definitions ∧
      (∀ mode n stage message, stage.stageInputSource = .manual →
        normalizeStage texts definitions mode n stage ≠
          .error (.validation "invalid_parameter_dependency" message)) ∧
      (∀ definitions' mode n stage s, definitions'.Perm definitions →
        stage.stageInputSource = .manual → normalizeStage texts definitions mode n stage = .ok s →
          ∃ s', normalizeStage texts definitions' mode n stage = .ok s' ∧
            s'.parameters = s.parameters) ∧
      (∀ manages mode n stage s, NothingHidden manages (adaptModel c).parameterDefinitions →
        stage.stageInputSource = .manual → normalizeStage texts definitions mode n stage = .ok s →
          (ParametersAgree definitions
              (modelProjection manages (adaptModel c).parameterDefinitions)
              (manualContext texts definitions stage.parameters n) s.parameters ↔
            PlainConditions (manualContext texts definitions stage.parameters n))) ∧
      ∀ n, LaunchesWithDefaults texts definitions n ↔
        StepsReadable (manualContext texts definitions [] n) := by
  have haccepted := accepted_of_validate h
  obtain ⟨definitions, hdefinitions⟩ := exists_validateStored texts.repr (parsed_of_configuration h)
  have hstored := forall₂_storedAs hdefinitions
  have hwf := haccepted.wellFormed hstored
  refine ⟨definitions, hdefinitions, ?_, ?_, ?_, ?_⟩
  · intro mode n stage message hmanual
    exact normalizeStage_ne_dependency hwf hmanual message
  · intro definitions' mode n stage s hperm hmanual hs
    exact normalizeStage_perm hwf hperm hmanual hs
  · intro manages mode n stage s hhidden hmanual hs
    exact parametersAgree_iff haccepted hstored hhidden hmanual hs
  · intro n
    apply launchesWithDefaults_iff hwf
    intro d hd
    obtain ⟨a, -, hda⟩ := exists_of_forall₂_right hstored hd
    exact hda.normal

end

namespace Sample

def scale : Api.ParameterDefinition :=
  { steps with
    key := "scale"
    label := "Scale"
    type := .number
    default := .number (.int 1)
    minimum := none }

/-- A parameter that one value of the scale enables. -/
def warmup (n : ℤ) : Api.ParameterDefinition :=
  { steps with
    key := "warmup"
    label := "Warmup"
    visibleWhen := some ⟨"scale", .number (.int n)⟩ }

def scaledConfiguration (n : ℤ) : ModelConfigurationRequest :=
  { configuration [] with parameterDefinitions := [steps, scale, warmup n] }

def scaledStage (n : ℤ) : RunStageRequest := ⟨[("scale", .number (.int n))], .manual⟩

theorem nothingHidden (n : ℤ) :
    NothingHidden false (adaptModel (scaledConfiguration n)).parameterDefinitions := by
  right
  intro d _ condition _ e he _
  simp only [adaptModel, scaledConfiguration, List.map_cons, List.map_nil, List.mem_cons,
    List.not_mem_nil, or_false] at he
  rcases he with rfl | rfl | rfl <;> exact Bool.false_ne_true

/-- The parameters of the form for a value of the scale. -/
def enabledFor (n m : ℤ) : List String :=
  (enabledTrainingParameters
    (modelProjection false (adaptModel (scaledConfiguration n)).parameterDefinitions)
    (formValues (scaledStage m).parameters)).map TrainingParameterDefinition.key

def Passes (n m : ℤ) (definitions : List ParameterDefinition) (s : NormalizedStage) : Prop :=
  validateStored texts.repr (adaptModel (scaledConfiguration n)).parameterDefinitions =
      .ok definitions ∧
    normalizeStage texts definitions .simulation 1 (scaledStage m) = .ok s

theorem exists_passes {n m : ℤ} (test : List ParameterDefinition → NormalizedStage → Bool)
    (h : ((validateStored texts.repr
      (adaptModel (scaledConfiguration n)).parameterDefinitions).toOption.any fun definitions =>
        (normalizeStage texts definitions .simulation 1 (scaledStage m)).toOption.any
          (test definitions))) :
    ∃ definitions s, Passes n m definitions s ∧ test definitions s := by
  obtain ⟨definitions, hdefinitions, h⟩ := Option.any_eq_true _ _ |>.1 h
  obtain ⟨s, hs, htest⟩ := Option.any_eq_true _ _ |>.1 h
  exact ⟨definitions, s, ⟨ok_of_toOption hdefinitions, ok_of_toOption hs⟩, htest⟩

end Sample

/-- A small value of the scale is the same number everywhere. -/
theorem sample_parameters_agree : ∃ definitions s, Sample.Passes 2 2 definitions s ∧
    ParametersAgree definitions
      (modelProjection false (adaptModel (Sample.scaledConfiguration 2)).parameterDefinitions)
      (manualContext Sample.texts definitions (Sample.scaledStage 2).parameters 1)
      s.parameters := by
  obtain ⟨definitions, s, hpasses, htest⟩ := Sample.exists_passes (n := 2) (m := 2)
    (fun definitions _ => definitions.all fun d =>
      d.visibleWhen = none ∨ d.visibleWhen = some ⟨"scale", .number (.int 2)⟩) (by decide +kernel)
  have hvalid : (Sample.scaledConfiguration 2).validate Sample.texts.casefold =
      .ok (Sample.scaledConfiguration 2) := by decide +kernel
  obtain ⟨definitions', hstored, -, -, hagree, -⟩ := accepted_parameters_agree hvalid
  obtain rfl : definitions = definitions' := Except.ok.inj (hpasses.1.symm.trans hstored)
  refine ⟨definitions, s, hpasses, ?_⟩
  rw [hagree false _ _ _ _ (Sample.nothingHidden 2) rfl hpasses.2]
  intro d hd condition hvisible e _ hname _
  have hcondition : condition = ⟨"scale", .number (.int 2)⟩ := by
    have hd := of_decide_eq_true (List.all_eq_true.1 htest d hd)
    rw [hvisible] at hd
    simpa using hd
  subst hcondition
  have hsupplied : (Sample.scaledStage 2).parameters.lookup e.name = some (.number (.int 2)) := by
    rw [hname]
    rfl
  constructor
  · intro hnone
    cases hsupplied.symm.trans hnone
  · intro _ _ x y hx hy _
    have hvalue : JsonScalar.number (.int 2) = .number x := by
      rw [← hx, StageContext.value]
      exact (congrArg (fun v => v.getD e.default) hsupplied).symm
    cases hvalue
    cases hy
    decide +kernel

/-- A scale that is not the value of a condition is the same double. -/
theorem large_scale_disagrees : ∃ definitions s,
    (Sample.scaledConfiguration 9007199254740993).validate Sample.texts.casefold =
      .ok (Sample.scaledConfiguration 9007199254740993) ∧
    NothingHidden false
      (adaptModel (Sample.scaledConfiguration 9007199254740993)).parameterDefinitions ∧
    Sample.Passes 9007199254740993 9007199254740992 definitions s ∧
    ¬ ParametersAgree definitions
      (modelProjection false
        (adaptModel (Sample.scaledConfiguration 9007199254740993)).parameterDefinitions)
      (manualContext Sample.texts definitions (Sample.scaledStage 9007199254740992).parameters 1)
      s.parameters := by
  obtain ⟨definitions, s, hpasses, htest⟩ :=
    Sample.exists_passes (n := 9007199254740993) (m := 9007199254740992)
      (fun definitions s => s.parameters "warmup" = none ∧
        definitions.any fun d => d.name = "warmup") (by decide +kernel)
  have henabled : "warmup" ∈ Sample.enabledFor 9007199254740993 9007199254740992 := by
    decide +kernel
  refine ⟨definitions, s, by decide +kernel, Sample.nothingHidden _, hpasses, fun hagree => ?_⟩
  obtain ⟨hnone, hany⟩ := of_decide_eq_true htest
  obtain ⟨d, hd, hname⟩ := List.any_eq_true.1 hany
  have hiff := hagree.form d hd
  rw [of_decide_eq_true hname] at hiff
  exact hiff.2 henabled hnone

end DataJuicer.RunSpecs
