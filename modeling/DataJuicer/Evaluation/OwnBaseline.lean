import DataJuicer.Evaluation.ReportAgreement
import DataJuicer.Evaluation.ReportComparison

/-! # A run and its own baseline

Two reports of a run are compared exactly when its metadata describe it, and then without a change.
Only attempts that time out are a regression, and only attempts with errors are an infrastructure
error.
-/

namespace DataJuicer.Evaluation

open Transaction

/-- Metadata with which a run can be compared. A run whose model no variable names has none. -/
structure Described (metadata : Dict) : Prop where
  version : getD metadata "evaluation_contract_version" (.int 1) ≠ .null
  present : ∀ field ∈ ["cases_sha256", "model", "model_parameters", "agentscope_version"],
    Json.get metadata field ≠ .null
  canonical : ∀ field ∈ allowedMetadata, field ≠ "schema_version" →
    (Json.get metadata field).canonical ≠ none

structure ReportRead (results : List CaseResult) (suite : String) (metadata : Dict)
    (r : NormalizedReport) : Prop where
  suite : r.suite = suite
  cases : ReadAs results r.cases
  metadata : ∀ field ∈ allowedMetadata, r.metadata.lookup field = metadata.lookup field

structure Unchanged (results : List CaseResult) (r : Comparison) : Prop where
  cases : ∀ c ∈ r.cases, c.verdict = .unchanged ∧ c.passRateDelta = 0 ∧
    c.stabilityChanged = false ∧ c.signaturesAdded = [] ∧ c.signaturesRemoved = [] ∧
      c.countChanges = []
  versions : r.versionChanges = []
  regression : r.hasBehaviorRegression = true ↔ ∃ result ∈ results, result.status = .timeout
  infrastructure : r.hasInfrastructureError = true ↔ ∃ result ∈ results, result.status = .error

section

variable {texts : Texts} {suite : String} {results : List CaseResult} {metadata payload : Dict}
  {x y : NormalizedReport} {a b : Json}

theorem ReportOf.readReport (h : ReportOf texts suite results metadata payload) (hne : suite ≠ "")
    (hnames : NamesSuite suite metadata) :
    ∃ r, normalizeReport texts (.obj payload) = .ok r ∧ ReportRead results suite metadata r := by
  obtain ⟨cases, n, hread, hn, hnormalize⟩ := h.normalize
  rw [reportSuite_ok hn hne hnames] at hnormalize
  refine ⟨_, hnormalize, rfl, hread, fun field hfield => ?_⟩
  have hother : field ≠ "suite" := by
    rintro rfl
    exact absurd hfield (by decide)
  dsimp only
  split
  · rfl
  · rw [List.lookup_append]
    cases metadata.lookup field with
    | none =>
      have hbeq : (field == "suite") = false := by simpa using hother
      rw [List.lookup_cons, hbeq]
      rfl
    | some v => rfl

/-- The compared values of a report are those of the metadata of its run. -/
theorem ReportRead.compatibilityValue_eq (hx : ReportRead results suite metadata x)
    {field : String} (hfield : field ∈ compatibilityFields) :
    compatibilityValue x field = compatibilityValue ⟨2, suite, metadata, []⟩ field := by
  have hallowed : ∀ f ∈ compatibilityFields, f = "suite" ∨ f ∈ allowedMetadata := by decide
  unfold compatibilityValue
  rcases hallowed field hfield with rfl | hmem
  · rw [if_pos rfl, if_pos rfl, hx.suite]
  · rw [getD, getD, Json.get, Json.get, hx.metadata field hmem, hx.suite]

theorem ReportRead.get_eq (hx : ReportRead results suite metadata x) {field : String}
    (hfield : field ∈ changeFields) : Json.get x.metadata field = Json.get metadata field := by
  have hallowed : ∀ f ∈ changeFields, f ∈ allowedMetadata := by decide
  rw [Json.get, Json.get, hx.metadata field (hallowed field hfield)]

theorem canonical_version :
    (getD metadata "evaluation_contract_version" (.int 1)).canonical ≠ none ↔
      (Json.get metadata "evaluation_contract_version").canonical ≠ none := by
  rw [getD, Json.get]
  cases metadata.lookup "evaluation_contract_version" with
  | none => decide
  | some v => exact Iff.rfl

theorem Described.agree (hd : Described metadata) {field : String}
    (hfield : field ∈ compatibilityFields) :
    Agree (compatibilityValue ⟨2, suite, metadata, []⟩ field)
      (compatibilityValue ⟨2, suite, metadata, []⟩ field) := by
  suffices h : compatibilityValue ⟨2, suite, metadata, []⟩ field ≠ .null ∧
      (compatibilityValue ⟨2, suite, metadata, []⟩ field).canonical ≠ none
    from ⟨h.1, h.1, h.2, rfl⟩
  have hallowed : ∀ f ∈ compatibilityFields, f = "suite" ∨
      f = "evaluation_contract_version" ∨ f ≠ "suite" ∧ f ≠ "evaluation_contract_version" ∧
        f ∈ ["cases_sha256", "model", "model_parameters", "agentscope_version"] ∧
          f ∈ allowedMetadata ∧ f ≠ "schema_version" := by decide
  unfold compatibilityValue
  rcases hallowed field hfield with rfl | rfl | ⟨hsuite, hversion, hpresent, hmem, hschema⟩
  · rw [if_pos rfl]
    exact ⟨nofun, nofun⟩
  · rw [if_neg (by decide), if_pos rfl]
    exact ⟨hd.version, canonical_version.2 (hd.canonical _ (by decide) (by decide))⟩
  · rw [if_neg hsuite, if_neg hversion]
    exact ⟨hd.present field hpresent, hd.canonical field hmem hschema⟩

theorem described_of_agree (suite : String)
    (h : ∀ field ∈ compatibilityFields, Agree (compatibilityValue ⟨2, suite, metadata, []⟩ field)
      (compatibilityValue ⟨2, suite, metadata, []⟩ field))
    (hchanges : ∀ field ∈ changeFields, (Json.get metadata field).canonical ≠ none) :
    Described metadata := by
  have hversion : compatibilityValue ⟨2, suite, metadata, []⟩ "evaluation_contract_version" =
      getD metadata "evaluation_contract_version" (.int 1) := rfl
  have hplain : ∀ field ∈ ["cases_sha256", "model", "model_parameters", "agentscope_version"],
      field ∈ compatibilityFields ∧
        compatibilityValue ⟨2, suite, metadata, []⟩ field = Json.get metadata field := by
    intro field hfield
    have hother : field ∈ compatibilityFields ∧ field ≠ "suite" ∧
        field ≠ "evaluation_contract_version" := by
      revert field
      decide
    unfold compatibilityValue
    rw [if_neg hother.2.1, if_neg hother.2.2]
    exact ⟨hother.1, rfl⟩
  have hagree := h "evaluation_contract_version" (by decide)
  rw [hversion] at hagree
  constructor
  · exact hagree.1
  · intro field hfield
    obtain ⟨hmem, hvalue⟩ := hplain field hfield
    exact hvalue ▸ (h field hmem).1
  · intro field hfield hschema
    have hkinds : ∀ f ∈ allowedMetadata, f ≠ "schema_version" → f ∈ changeFields ∨
        f = "evaluation_contract_version" ∨
          f ∈ ["cases_sha256", "model", "model_parameters", "agentscope_version"] := by decide
    rcases hkinds field hfield hschema with hchange | rfl | hpresent
    · exact hchanges field hchange
    · exact canonical_version.1 hagree.2.2.1
    · obtain ⟨hmem, hvalue⟩ := hplain field hpresent
      exact hvalue ▸ (h field hmem).2.2.1

theorem compareCase_self (caseId : String) (s : NormalizedCaseSummary) :
    (compareCase caseId s s).verdict = .unchanged ∧ (compareCase caseId s s).passRateDelta = 0 ∧
      (compareCase caseId s s).stabilityChanged = false ∧
      (compareCase caseId s s).signaturesAdded = [] ∧
      (compareCase caseId s s).signaturesRemoved = [] ∧
      (compareCase caseId s s).countChanges = [] := by
  have hnone : (signaturesOf s).filter (fun signature => signature ∉ signaturesOf s) = [] := by simp
  unfold compareCase
  dsimp only
  rw [hnone]
  simp

theorem exists_status (status : EvaluationStatus) (hx : ReadAs results x.cases)
    (hy : ReadAs results y.cases) :
    ((caseIds x).filter fun caseId => (y.cases.lookup caseId).any fun s =>
      decide (0 < s.statusCounts status)) ≠ [] ↔ ∃ result ∈ results, result.status = status := by
  constructor
  · intro hne
    obtain ⟨caseId, hmem⟩ := List.exists_mem_of_ne_nil _ hne
    obtain ⟨-, hany⟩ := List.mem_filter.1 hmem
    rw [hy caseId, casesOf] at hany
    split at hany
    · cases hany
    · obtain ⟨result, hresult, hstatus⟩ := List.mem_map.1
        (List.count_pos_iff.1 (of_decide_eq_true hany))
      exact ⟨result, List.mem_of_mem_filter hresult, hstatus⟩
  · rintro ⟨result, hresult, rfl⟩
    have hattempt : result ∈ results.filter fun r => r.caseId = result.caseId :=
      List.mem_filter.2 ⟨hresult, decide_eq_true rfl⟩
    have hfound : casesOf results result.caseId = some (plainSummary result.caseId
        (results.filter fun r => r.caseId = result.caseId)) :=
      if_neg (List.ne_nil_of_mem hattempt)
    refine List.ne_nil_of_mem (a := result.caseId) (List.mem_filter.2 ⟨?_, ?_⟩)
    · rw [mem_caseIds]
      exact List.mem_map.2 ⟨_, mem_of_lookup ((hx _).trans hfound), rfl⟩
    · rw [hy, hfound]
      exact decide_eq_true (List.count_pos_iff.2 (List.mem_map_of_mem hattempt))

/-- Two reports of a run can be compared exactly when its metadata describe it. -/
theorem compareReports_described (ha : normalizeReport texts a = .ok x)
    (hb : normalizeReport texts b = .ok y) (hx : ReportRead results suite metadata x)
    (hy : ReportRead results suite metadata y) :
    (∃ r, compareReports texts a b = .ok r) ↔ Described metadata := by
  constructor
  · rintro ⟨r, h⟩
    obtain ⟨x', y', changes, hx', hy', hcompatible, hchanges, -⟩ := compareReports_eq_ok.1 h
    obtain rfl := Except.ok.inj (ha.symm.trans hx')
    obtain rfl := Except.ok.inj (hb.symm.trans hy')
    refine described_of_agree suite (fun field hfield => ?_) fun field hfield => ?_
    · have hagree := hcompatible.fields field hfield
      rwa [hx.compatibilityValue_eq hfield, hy.compatibilityValue_eq hfield] at hagree
    · rw [← hx.get_eq hfield]
      exact (succeeds_versionChanges.1 ⟨_, hchanges⟩ field hfield).1
  · intro hd
    have hcompatible : Compatible x y := by
      constructor
      · intro field hfield
        rw [hx.compatibilityValue_eq hfield, hy.compatibilityValue_eq hfield]
        exact hd.agree hfield
      · intro caseId
        rw [← not_iff_not, ← lookup_eq_none, ← lookup_eq_none, hx.cases, hy.cases]
    have hkinds : ∀ f ∈ changeFields, f ∈ allowedMetadata ∧ f ≠ "schema_version" := by decide
    obtain ⟨changes, hchanges⟩ : Succeeds (versionChanges x y) :=
      succeeds_versionChanges.2 fun field hfield => by
        have hcanonical := hd.canonical field (hkinds field hfield).1 (hkinds field hfield).2
        rw [hx.get_eq hfield, hy.get_eq hfield]
        exact ⟨hcanonical, hcanonical⟩
    exact ⟨_, compareReports_eq_ok.2 ⟨x, y, changes, ha, hb, hcompatible, hchanges, rfl⟩⟩

/-- Two reports of a run are compared without a change. -/
theorem compareReports_unchanged {r : Comparison} (ha : normalizeReport texts a = .ok x)
    (hb : normalizeReport texts b = .ok y) (hx : ReportRead results suite metadata x)
    (hy : ReportRead results suite metadata y) (h : compareReports texts a b = .ok r) :
    Unchanged results r := by
  have hd := (compareReports_described ha hb hx hy).1 ⟨r, h⟩
  obtain ⟨x', y', changes, hx', hy', -, hchanges, rfl⟩ := compareReports_eq_ok.1 h
  obtain rfl := Except.ok.inj (ha.symm.trans hx')
  obtain rfl := Except.ok.inj (hb.symm.trans hy')
  have hkinds : ∀ f ∈ changeFields, f ∈ allowedMetadata ∧ f ≠ "schema_version" := by decide
  have hversions : versionChanges x y = .ok [] := by
    refine fieldsWhere_eq_nil.2 fun field hfield => ?_
    have hcanonical := hd.canonical field (hkinds field hfield).1 (hkinds field hfield).2
    dsimp only
    rw [hx.get_eq hfield, hy.get_eq hfield]
    exact differ_self hcanonical
  obtain rfl := Except.ok.inj (hversions.symm.trans hchanges)
  have hregressed : (Comparison.ofCases [] (compareCases x y)).regressedCases = [] := by
    rw [List.eq_nil_iff_forall_not_mem]
    intro caseId hmem
    obtain ⟨s, t, hs, ht, hlt⟩ := mem_regressedCases.1 hmem
    rw [hx.cases] at hs
    rw [hy.cases, hs] at ht
    obtain rfl := Option.some.inj ht
    exact lt_irrefl _ hlt
  constructor
  · intro c hc
    obtain ⟨caseId, s, t, hs, ht, rfl⟩ := mem_compareCases.1 hc
    rw [hx.cases] at hs
    rw [hy.cases, hs] at ht
    obtain rfl := Option.some.inj ht
    exact compareCase_self caseId s
  · rfl
  · rw [hasBehaviorRegression_ofCases, hregressed, candidateTimeoutCases_eq,
      exists_status .timeout hx.cases hy.cases, or_iff_right (not_not.2 rfl)]
  · rw [hasInfrastructureError_ofCases, candidateErrorCases_eq,
      exists_status .error hx.cases hy.cases]

theorem ReportOf.readBaseline (h : ReportOf texts suite results (keptMetadata metadata) payload)
    (hne : suite ≠ "") :
    ∃ r, normalizeReport texts (.obj payload) = .ok r ∧ ReportRead results suite metadata r := by
  obtain ⟨r, hr, hread⟩ := h.readReport hne (namesSuite_keptMetadata _ _)
  refine ⟨r, hr, hread.suite, hread.cases, fun field hfield => ?_⟩
  exact (hread.metadata field hfield).trans
    (lookup_filter_key (p := fun key => decide (key ∈ allowedMetadata)) (decide_eq_true hfield))

/-- The aggregate report and the baseline of a run, with and without their case summaries, are
compared in any order exactly when the metadata of the run describe it and, where one of the two is
the aggregate report, name no other suite. They are compared without a change. A comparison has a
regression exactly when an attempt is timed out, and an infrastructure error exactly when an attempt
has an error. -/
theorem ownReports_unchanged {metadata : Option Dict} (hne : results ≠ [])
    (hproduced : ∀ r ∈ results, Produced texts suite r)
    (hbounded : ∀ r ∈ results, Bounded r) :
    ∃ aggregate baseline,
      buildAggregateReport texts results metadata = .ok aggregate ∧
      buildBaselineReport texts results metadata = .ok baseline ∧
      ∀ report ∈ [aggregate, withoutSummaries aggregate, baseline, withoutSummaries baseline],
        ∀ report' ∈ [aggregate, withoutSummaries aggregate, baseline, withoutSummaries baseline],
          ((∃ r, compareReports texts (.obj report) (.obj report') = .ok r) ↔
            Described (metadata.getD []) ∧ (NamesSuite suite (metadata.getD []) ∨
              report ∈ [baseline, withoutSummaries baseline] ∧
                report' ∈ [baseline, withoutSummaries baseline])) ∧
          ∀ r, compareReports texts (.obj report) (.obj report') = .ok r → Unchanged results r := by
  have hempty := suite_ne_empty hne hproduced
  obtain ⟨aggregate, baseline, haggregate, hbaseline, hfull, hcompact⟩ :=
    @builtReports _ _ _ metadata hne hproduced hbounded
  refine ⟨aggregate, baseline, haggregate, hbaseline, ?_⟩
  -- A report is read as that of the run, or is an aggregate report that names another suite.
  have hkinds : ∀ report ∈ [aggregate, withoutSummaries aggregate] ++
      [baseline, withoutSummaries baseline],
      (NamesSuite suite (metadata.getD []) ∨ report ∈ [baseline, withoutSummaries baseline] ↔
        ∃ r, normalizeReport texts (.obj report) = .ok r) ∧
      ∀ r, normalizeReport texts (.obj report) = .ok r →
        ReportRead results suite (metadata.getD []) r := by
    intro report hreport
    have hcases : report ∈ [baseline, withoutSummaries baseline] ∨
        report ∈ [aggregate, withoutSummaries aggregate] :=
      (List.mem_append.1 hreport).symm
    by_cases hkept : report ∈ [baseline, withoutSummaries baseline]
    · obtain ⟨r, hr, hread⟩ := (hcompact report hkept).readBaseline hempty
      refine ⟨iff_of_true (.inr hkept) ⟨r, hr⟩, fun r' hr' => ?_⟩
      obtain rfl := Except.ok.inj (hr.symm.trans hr')
      exact hread
    · have hof := hfull report (hcases.resolve_left hkept)
      by_cases hnames : NamesSuite suite (metadata.getD [])
      · obtain ⟨r, hr, hread⟩ := hof.readReport hempty hnames
        refine ⟨iff_of_true (.inl hnames) ⟨r, hr⟩, fun r' hr' => ?_⟩
        obtain rfl := Except.ok.inj (hr.symm.trans hr')
        exact hread
      · obtain ⟨message, herror⟩ := hof.rejected hnames
        refine ⟨iff_of_false (not_or.2 ⟨hnames, hkept⟩) ?_, ?_⟩
        · rintro ⟨r, hr⟩
          cases herror.symm.trans hr
        · intro r hr
          cases herror.symm.trans hr
  intro report hreport report' hreport'
  obtain ⟨hiff, hread⟩ := hkinds report hreport
  obtain ⟨hiff', hread'⟩ := hkinds report' hreport'
  refine ⟨?_, fun r h => ?_⟩
  · constructor
    · rintro ⟨r, h⟩
      obtain ⟨x, y, -, hx, hy, -⟩ := compareReports_eq_ok.1 h
      refine ⟨(compareReports_described hx hy (hread x hx) (hread' y hy)).1 ⟨r, h⟩, ?_⟩
      have hreadable := hiff.2 ⟨x, hx⟩
      have hreadable' := hiff'.2 ⟨y, hy⟩
      exact or_and_left.2 ⟨hreadable, hreadable'⟩
    · rintro ⟨hd, hnames⟩
      obtain ⟨x, hx⟩ := hiff.1 (hnames.imp_right And.left)
      obtain ⟨y, hy⟩ := hiff'.1 (hnames.imp_right And.right)
      exact (compareReports_described hx hy (hread x hx) (hread' y hy)).2 hd
  · obtain ⟨x, y, -, hx, hy, -⟩ := compareReports_eq_ok.1 h
    exact compareReports_unchanged hx hy (hread x hx) (hread' y hy) h

end

namespace Sample

def metadata (model : Json) (commit : String) : Dict :=
  [("cases_sha256", .str "c2f1"), ("model", model), ("model_parameters", .obj []),
    ("agentscope_version", .str "1.0"), ("git_commit", .str commit)]

theorem described : Described (metadata (.str "m1") "ab3") where
  version := by decide
  present := by decide
  canonical := by decide

/-- The reports of a run are compared, and not those of a run whose model is not named. -/
theorem ownReports_unchanged_two_attempts :
    (∃ aggregate baseline r,
      buildAggregateReport texts (run true false) (some (metadata (.str "m1") "ab3")) =
        .ok aggregate ∧
      buildBaselineReport texts (run true false) (some (metadata (.str "m1") "ab3")) =
        .ok baseline ∧
      compareReports texts (.obj baseline) (.obj aggregate) = .ok r ∧
      r.hasBehaviorRegression = true ∧ r.hasInfrastructureError = false) ∧
    ∃ aggregate baseline,
      buildAggregateReport texts (run true false) (some (metadata .null "ab3")) = .ok aggregate ∧
      buildBaselineReport texts (run true false) (some (metadata .null "ab3")) = .ok baseline ∧
      ¬ ∃ r, compareReports texts (.obj baseline) (.obj aggregate) = .ok r := by
  constructor
  · obtain ⟨aggregate, baseline, haggregate, hbaseline, hcompare⟩ :=
      @ownReports_unchanged texts _ _ (some (metadata (.str "m1") "ab3")) (List.cons_ne_nil _ _)
        produced bounded
    obtain ⟨hiff, hunchanged⟩ := hcompare baseline (by simp) aggregate (by simp)
    obtain ⟨r, hr⟩ := hiff.2 ⟨described, .inl (.inl (by decide))⟩
    have hu := hunchanged r hr
    refine ⟨aggregate, baseline, r, haggregate, hbaseline, hr, ?_, ?_⟩
    · exact hu.regression.2 ⟨_, List.mem_cons_of_mem _ List.mem_cons_self, rfl⟩
    · rw [Bool.eq_false_iff, ne_eq, hu.infrastructure]
      rintro ⟨result, (_ | ⟨_, _ | ⟨_, hresult⟩⟩), hstatus⟩
      · exact absurd hstatus (by decide)
      · exact absurd hstatus (by decide)
      · cases hresult
  · obtain ⟨aggregate, baseline, haggregate, hbaseline, hcompare⟩ :=
      @ownReports_unchanged texts _ _ (some (metadata .null "ab3")) (List.cons_ne_nil _ _)
        produced bounded
    refine ⟨aggregate, baseline, haggregate, hbaseline, fun h => ?_⟩
    have hd := ((hcompare baseline (by simp) aggregate (by simp)).1.1 h).1
    exact hd.present "model" (by simp) rfl

section

variable {first second first' second' : Bool} {commit commit' : String} {a b : Json}
  {x y : NormalizedReport}

theorem read_baseline (first second : Bool) (commit : String) : ∃ baseline x,
    buildBaselineReport texts (run first second) (some (metadata (.str "m1") commit)) =
      .ok baseline ∧
    normalizeReport texts (.obj baseline) = .ok x ∧
    ReportRead (run first second) "router" (metadata (.str "m1") commit) x := by
  obtain ⟨-, baseline, -, hbaseline, -, hcompact⟩ :=
    @builtReports texts "router" (run first second) (some (metadata (.str "m1") commit))
      (List.cons_ne_nil _ _) produced bounded
  obtain ⟨x, hx, hread⟩ := (hcompact baseline (by simp)).readBaseline (by decide)
  exact ⟨baseline, x, hbaseline, hx, hread⟩

theorem casesOf_run (caseId : String) : casesOf (run first second) caseId =
    if caseId = "greeting" then some (plainSummary caseId (run first second)) else none := by
  have hids : ∀ r ∈ run first second, r.caseId = "greeting" := by
    rintro r (_ | ⟨_, _ | ⟨_, hr⟩⟩)
    · cases first <;> rfl
    · cases second <;> rfl
    · cases hr
  have hne : run first second ≠ [] := List.cons_ne_nil _ _
  unfold casesOf
  by_cases hid : caseId = "greeting"
  · rw [List.filter_eq_self.2 fun r hr => decide_eq_true ((hids r hr).trans hid.symm),
      if_neg hne, if_pos hid]
  · rw [List.filter_eq_nil_iff.2 fun r hr => by simpa [hids r hr] using Ne.symm hid, if_pos rfl,
      if_neg hid]

theorem compared (ha : normalizeReport texts a = .ok x) (hb : normalizeReport texts b = .ok y)
    (hx : ReportRead (run first second) "router" (metadata (.str "m1") commit) x)
    (hy : ReportRead (run first' second') "router" (metadata (.str "m1") commit') y) :
    ∃ changes, compareReports texts a b = .ok (.ofCases changes (compareCases x y)) := by
  have hvalue : ∀ field ∈ compatibilityFields, ∀ commit,
      compatibilityValue ⟨2, "router", metadata (.str "m1") commit, []⟩ field =
        compatibilityValue ⟨2, "router", metadata (.str "m1") "ab3", []⟩ field := by
    simp only [compatibilityFields, List.forall_mem_cons]
    exact ⟨fun _ => rfl, fun _ => rfl, fun _ => rfl, fun _ => rfl, fun _ => rfl, fun _ => rfl,
      nofun⟩
  have hcompatible : Compatible x y := by
    constructor
    · intro field hfield
      rw [hx.compatibilityValue_eq hfield, hy.compatibilityValue_eq hfield, hvalue field hfield,
        hvalue field hfield commit']
      exact described.agree hfield
    · intro caseId
      rw [← not_iff_not, ← lookup_eq_none, ← lookup_eq_none, hx.cases, hy.cases, casesOf_run,
        casesOf_run]
      split <;> simp
  obtain ⟨changes, hchanges⟩ : Succeeds (versionChanges x y) := by
    have hcanonical : ∀ commit, ∀ field ∈ changeFields,
        (Json.get (metadata (.str "m1") commit) field).canonical ≠ none := by
      intro commit
      simp only [changeFields, List.forall_mem_cons]
      exact ⟨nofun, nofun, nofun, nofun⟩
    refine succeeds_versionChanges.2 fun field hfield => ?_
    rw [hx.get_eq hfield, hy.get_eq hfield]
    exact ⟨hcanonical _ field hfield, hcanonical _ field hfield⟩
  exact ⟨changes, compareReports_eq_ok.2 ⟨x, y, changes, ha, hb, hcompatible, hchanges, rfl⟩⟩

/-- The share of the attempts that pass. -/
theorem passRate_run :
    (plainSummary "greeting" (run true true)).passRate = 1 ∧
    (plainSummary "greeting" (run true false)).passRate = 1 / 2 ∧
    (plainSummary "greeting" (run false false)).passRate = 0 := by
  decide +kernel

end

/-- The second run regresses from the first one, and not the other way. -/
theorem compareReports_swap_two_runs : ∃ baseline baseline' r,
    buildBaselineReport texts (run true true) (some (metadata (.str "m1") "ab3")) =
      .ok baseline ∧
    buildBaselineReport texts (run true false) (some (metadata (.str "m1") "cd4")) =
      .ok baseline' ∧
    compareReports texts (.obj baseline) (.obj baseline') = .ok r ∧
    compareReports texts (.obj baseline') (.obj baseline) = .ok r.swap ∧
    "greeting" ∈ r.regressedCases ∧ "greeting" ∉ r.swap.regressedCases := by
  obtain ⟨baseline, x, hbaseline, hx, hread⟩ := read_baseline true true "ab3"
  obtain ⟨baseline', y, hbaseline', hy, hread'⟩ := read_baseline true false "cd4"
  obtain ⟨changes, h⟩ := compared hx hy hread hread'
  obtain ⟨changes', h'⟩ := compared hy hx hread' hread
  have hs := (hread.cases _).trans (casesOf_run "greeting")
  have ht := (hread'.cases _).trans (casesOf_run "greeting")
  have hswap := (compareReports_swap hx hy).1 _ h
  refine ⟨baseline, baseline', _, hbaseline, hbaseline', h, hswap, ?_, ?_⟩
  · refine mem_regressedCases.2 ⟨_, _, hs, ht, ?_⟩
    rw [passRate_run.1, passRate_run.2.1]
    norm_num
  · rw [Except.ok.inj (hswap.symm.trans h'), mem_regressedCases]
    rintro ⟨t, s, ht', hs', hlt⟩
    obtain rfl := Option.some.inj (hs.symm.trans hs')
    obtain rfl := Option.some.inj (ht.symm.trans ht')
    rw [passRate_run.1, passRate_run.2.1] at hlt
    norm_num at hlt

/-- Three runs, each of which regresses from the one before. -/
theorem compareReports_trans_three_runs : ∃ baseline baseline' baseline'' r r' r'',
    buildBaselineReport texts (run true true) (some (metadata (.str "m1") "ab3")) =
      .ok baseline ∧
    buildBaselineReport texts (run true false) (some (metadata (.str "m1") "cd4")) =
      .ok baseline' ∧
    buildBaselineReport texts (run false false) (some (metadata (.str "m1") "ef5")) =
      .ok baseline'' ∧
    compareReports texts (.obj baseline) (.obj baseline') = .ok r ∧
    compareReports texts (.obj baseline') (.obj baseline'') = .ok r' ∧
    compareReports texts (.obj baseline) (.obj baseline'') = .ok r'' ∧
    "greeting" ∈ r''.regressedCases ∧
    r''.candidateTimeoutCases = r'.candidateTimeoutCases := by
  obtain ⟨baseline, x, hbaseline, hx, hread⟩ := read_baseline true true "ab3"
  obtain ⟨baseline', y, hbaseline', hy, hread'⟩ := read_baseline true false "cd4"
  obtain ⟨baseline'', z, hbaseline'', hz, hread''⟩ := read_baseline false false "ef5"
  obtain ⟨changes, h⟩ := compared hx hy hread hread'
  obtain ⟨changes', h'⟩ := compared hy hz hread' hread''
  obtain ⟨changes'', hdirect⟩ := compared hx hz hread hread''
  have hs := (hread.cases _).trans (casesOf_run "greeting")
  have hu := (hread''.cases _).trans (casesOf_run "greeting")
  obtain ⟨r'', hr'', -, htimeouts, -⟩ := compareReports_trans h h'
  refine ⟨baseline, baseline', baseline'', _, _, r'', hbaseline, hbaseline', hbaseline'', h, h',
    hr'', ?_, htimeouts⟩
  rw [Except.ok.inj (hr''.symm.trans hdirect)]
  refine mem_regressedCases.2 ⟨_, _, hs, hu, ?_⟩
  rw [passRate_run.1, passRate_run.2.2]
  norm_num

end Sample

end DataJuicer.Evaluation
