import DataJuicer.Evaluation.ReadCases

/-! # Agreement of reports

The aggregate report and the baseline of a run, with and without their case summaries, are read as
the same cases. Only the suite that the metadata of a run names can keep the aggregate report from
being read.
-/

namespace DataJuicer.Evaluation

open Transaction

def withoutSummaries (report : Dict) : Dict := report.filter fun e => e.1 ≠ "case_summaries"

def NamesSuite (suite : String) (metadata : Dict) : Prop :=
  Json.get metadata "suite" = .null ∨ Json.get metadata "suite" = .str suite

section

variable {suite : String} {named : Json} {n : ℕ}

theorem filterMap_declaredSuite {entries : List Json}
    (h : ∀ v ∈ entries, declaredSuite v = some suite) :
    entries.filterMap declaredSuite = List.replicate entries.length suite := by
  induction entries with
  | nil => rfl
  | cons v entries ih =>
    rw [List.forall_mem_cons] at h
    rw [List.filterMap_cons, h.1, ih h.2]
    rfl

theorem reportSuite_ok (hn : n ≠ 0) (hne : suite ≠ "")
    (h : named = .null ∨ named = .str suite) :
    reportSuite named (List.replicate n suite) = .ok suite := by
  have hsame : ¬ ∃ t ∈ List.replicate n suite, t ≠ suite := by
    rintro ⟨t, ht, hother⟩
    exact hother (List.eq_of_mem_replicate ht)
  have hsuite : (if named = .null ∧ (List.replicate n suite).dedup.length = 1 then
      optional .str (List.replicate n suite).head? else named) = .str suite := by
    rcases h with rfl | rfl
    · rw [List.replicate_dedup hn, if_pos ⟨rfl, rfl⟩, List.head?_replicate, if_neg hn]
      rfl
    · exact if_neg fun h => by cases h.1
  unfold reportSuite
  dsimp only
  rw [hsuite]
  dsimp only
  rw [raiseIf, if_neg hne, raiseIf, if_neg hsame]
  rfl

theorem reportSuite_error (hn : n ≠ 0) (h : ¬ (named = .null ∨ named = .str suite)) :
    ∃ message, reportSuite named (List.replicate n suite) = .error (.reportFormat message) := by
  rw [not_or] at h
  have hnamed : ¬ (named = .null ∧ (List.replicate n suite).dedup.length = 1) := fun hand =>
    h.1 hand.1
  unfold reportSuite
  dsimp only
  rw [if_neg hnamed]
  split
  · next t =>
    by_cases hempty : t = ""
    · rw [raiseIf, if_pos hempty]
      exact ⟨_, rfl⟩
    · have hother : ∃ t' ∈ List.replicate n suite, t' ≠ t := by
        refine ⟨suite, List.mem_replicate.2 ⟨hn, rfl⟩, ?_⟩
        rintro rfl
        exact h.2 rfl
      rw [raiseIf, if_neg hempty, raiseIf, if_pos hother]
      exact ⟨_, rfl⟩
  · exact ⟨_, rfl⟩

end

section

variable {texts : Texts} {suite : String} {results : List CaseResult} {payload metadata : Dict}

structure ReportOf (texts : Texts) (suite : String) (results : List CaseResult)
    (metadata payload : Dict) : Prop where
  version : getD payload "schema_version" (.int 1) = .int 2
  metadata : getD payload "run_metadata" (.obj []) = .obj metadata
  unnamed : Json.get payload "suite" = .null
  readable : ∃ cases, (if v2CaseSummaries payload ≠ .null then
      normalizeV2Cases texts (v2CaseSummaries payload) else normalizeV1Cases texts payload) =
    .ok cases ∧ ReadAs results cases
  entries : ∃ entries, resultEntries payload = .ok entries ∧ entries ≠ [] ∧
    ∀ v ∈ entries ++ summaryEntries (v2CaseSummaries payload), declaredSuite v = some suite

theorem ReportOf.declared (h : ReportOf texts suite results metadata payload) :
    ∃ entries n, resultEntries payload = .ok entries ∧ n ≠ 0 ∧
      (entries ++ summaryEntries (v2CaseSummaries payload)).filterMap declaredSuite =
        List.replicate n suite := by
  obtain ⟨entries, hentries, hne, hsuite⟩ := h.entries
  refine ⟨entries, _, hentries, ?_, filterMap_declaredSuite hsuite⟩
  rw [List.length_append]
  have := List.length_pos_of_ne_nil hne
  omega

theorem ReportOf.normalize (h : ReportOf texts suite results metadata payload) :
    ∃ cases n, ReadAs results cases ∧ n ≠ 0 ∧ normalizeReport texts (.obj payload) =
      (reportSuite (Json.get metadata "suite") (List.replicate n suite)).map fun s =>
        ⟨2, s, if "suite" ∈ metadata.map Prod.fst then metadata
          else metadata ++ [("suite", .str s)], cases⟩ := by
  obtain ⟨cases, hcases, hread⟩ := h.readable
  obtain ⟨entries, n, hentries, hn, hdeclared⟩ := h.declared
  refine ⟨cases, n, hread, hn, ?_⟩
  have hversion : raiseIf ((2 : ℕ) ≠ 1 ∧ (2 : ℕ) ≠ 2) (Failure.reportFormat
      ("unsupported evaluation report schema_version " ++ toString (2 : ℕ))) = .ok () :=
    if_neg (by simp)
  have hinteger : integer (.int 2) "schema_version" = .ok 2 := rfl
  have hnamed : Json.null.or (Json.get metadata "suite") = Json.get metadata "suite" := rfl
  unfold normalizeReport
  dsimp only
  rw [h.version, h.metadata, h.unnamed, hentries, hinteger]
  dsimp only [Bind.bind, Except.bind]
  rw [hversion]
  by_cases hv2 : v2CaseSummaries payload ≠ .null
  · rw [if_pos hv2] at hcases ⊢
    rw [hcases]
    dsimp only
    rw [hdeclared, hnamed]
    cases reportSuite (Json.get metadata "suite") (List.replicate n suite) <;> rfl
  · rw [if_neg hv2] at hcases ⊢
    rw [hcases]
    dsimp only
    rw [hdeclared, hnamed]
    cases reportSuite (Json.get metadata "suite") (List.replicate n suite) <;> rfl

theorem ReportOf.read (h : ReportOf texts suite results metadata payload) (hne : suite ≠ "")
    (hnames : NamesSuite suite metadata) :
    ∃ r, normalizeReport texts (.obj payload) = .ok r ∧ r.suite = suite ∧
      ReadAs results r.cases := by
  obtain ⟨cases, n, hread, hn, hnormalize⟩ := h.normalize
  rw [reportSuite_ok hn hne hnames] at hnormalize
  exact ⟨_, hnormalize, rfl, hread⟩

theorem ReportOf.rejected (h : ReportOf texts suite results metadata payload)
    (hnames : ¬ NamesSuite suite metadata) :
    ∃ message, normalizeReport texts (.obj payload) = .error (.reportFormat message) := by
  obtain ⟨cases, n, -, hn, hnormalize⟩ := h.normalize
  obtain ⟨message, herror⟩ := reportSuite_error hn hnames
  rw [herror] at hnormalize
  exact ⟨message, hnormalize⟩

variable {summaries : List CaseStabilitySummary} {dump : CaseResult → Dict} {summary : Dict}

def reportDict (metadata summary : Dict) (caseSummaries results : List Json) : Dict :=
  [("schema_version", .int 2), ("run_metadata", .obj metadata), ("summary", .obj summary),
    ("case_summaries", .arr caseSummaries), ("results", .arr results)]

theorem declaredSuite_of_get {d : Dict} (h : Json.get d "suite" = .str suite) :
    declaredSuite (.obj d) = some suite := by
  unfold declaredSuite
  dsimp only
  rw [h]

theorem declaredSuite_results (hsuite : ∀ r ∈ results, r.suite = suite)
    (h : ∀ r ∈ results, ReadsAs texts r (dump r)) :
    ∀ v ∈ results.map fun r => Json.obj (dump r), declaredSuite v = some suite := by
  intro v hv
  obtain ⟨r, hr, rfl⟩ := List.mem_map.1 hv
  apply declaredSuite_of_get
  rw [(h r hr).suite, hsuite r hr]

theorem declaredSuite_summaries (hsuite : ∀ r ∈ results, r.suite = suite)
    (h : SummariesOf results summaries) :
    ∀ v ∈ summaries.map fun s => Json.obj (s.modelDump texts), declaredSuite v = some suite := by
  intro v hv
  obtain ⟨s, hs, rfl⟩ := List.mem_map.1 hv
  have hof := h.summary s hs
  obtain ⟨r, hr⟩ := List.exists_mem_of_ne_nil _ hof.ne
  have hsame : s.suite = suite :=
    (hof.suite r hr).symm.trans (hsuite r (List.mem_of_mem_filter hr))
  apply declaredSuite_of_get
  rw [← hsame]
  rfl

theorem reportOf_reportDict (hne : results ≠ []) (hsuite : ∀ r ∈ results, r.suite = suite)
    (hids : ∀ r ∈ results, r.caseId ≠ "") (hread : ∀ r ∈ results, ReadsAs texts r (dump r))
    (h : SummariesOf results summaries) :
    ReportOf texts suite results metadata (reportDict metadata summary
      (summaries.map fun s => .obj (s.modelDump texts)) (results.map fun r => .obj (dump r))) where
  version := rfl
  metadata := rfl
  unnamed := rfl
  readable := normalizeV2Cases_dump h hne hids
  entries := by
    refine ⟨_, rfl, by simpa using hne, fun v hv => ?_⟩
    rcases List.mem_append.1 hv with hv | hv
    · exact declaredSuite_results hsuite hread v hv
    · exact declaredSuite_summaries hsuite h v hv

/-- The same report of the first version. -/
theorem reportOf_withoutSummaries (hne : results ≠ []) (hsuite : ∀ r ∈ results, r.suite = suite)
    (hids : ∀ r ∈ results, r.caseId ≠ "") (hread : ∀ r ∈ results, ReadsAs texts r (dump r))
    (hsummary : Json.get summary "case_summaries" = .null) (caseSummaries : List Json) :
    ReportOf texts suite results metadata (withoutSummaries (reportDict metadata summary
      caseSummaries (results.map fun r => .obj (dump r)))) := by
  have hnone : v2CaseSummaries (withoutSummaries (reportDict metadata summary caseSummaries
      (results.map fun r => .obj (dump r)))) = .null := hsummary
  constructor
  · rfl
  · rfl
  · rfl
  · rw [hnone, if_neg (not_not.2 rfl)]
    exact normalizeV1Cases_dump rfl hne hids hread
  · refine ⟨_, rfl, by simpa using hne, fun v hv => ?_⟩
    have hempty : summaryEntries .null = [] := rfl
    rw [hnone, hempty, List.append_nil] at hv
    exact declaredSuite_results hsuite hread v hv

def keptMetadata (metadata : Dict) : Dict := metadata.filter fun e => e.1 ∈ allowedMetadata

theorem namesSuite_keptMetadata (suite : String) (metadata : Dict) :
    NamesSuite suite (keptMetadata metadata) := by
  left
  have hnone : (keptMetadata metadata).lookup "suite" = none := by
    rw [lookup_eq_none]
    intro hmem
    obtain ⟨e, he, hkey⟩ := List.mem_map.1 hmem
    have hallowed : "suite" ∈ allowedMetadata :=
      hkey ▸ of_decide_eq_true (List.mem_filter.1 he).2
    exact absurd hallowed (by decide)
  rw [Json.get, hnone]
  rfl

theorem builtReports {metadata : Option Dict} (hne : results ≠ [])
    (hproduced : ∀ r ∈ results, Produced texts suite r)
    (hbounded : ∀ r ∈ results, Bounded r) :
    ∃ aggregate baseline,
      buildAggregateReport texts results metadata = .ok aggregate ∧
      buildBaselineReport texts results metadata = .ok baseline ∧
      (∀ report ∈ [aggregate, withoutSummaries aggregate],
        ReportOf texts suite results (metadata.getD []) report) ∧
      ∀ report ∈ [baseline, withoutSummaries baseline],
        ReportOf texts suite results (keptMetadata (metadata.getD [])) report := by
  have hsuite : ∀ r ∈ results, r.suite = suite := fun r hr => (hproduced r hr).suite_eq
  have hgraded : ∀ r ∈ results, WellGraded r := fun r hr => (hproduced r hr).wellGraded
  have hids : ∀ r ∈ results, r.caseId ≠ "" := fun r hr => (hgraded r hr).caseId
  obtain ⟨summaries, hsummaries⟩ := @summarizeResults_ok texts _ _ hsuite hbounded
  have hof := summariesOf_of_ok hsuite hsummaries
  have hfull : ∀ r ∈ results, ReadsAs texts r r.modelDump := fun r hr =>
    readsAs_modelDump (hgraded r hr)
  have hcompact : ∀ r ∈ results, ReadsAs texts r (compactResult r) := fun r hr =>
    readsAs_compactResult (hgraded r hr)
  have htotals : Json.get (totals results summaries) "case_summaries" = .null := rfl
  refine ⟨reportDict (metadata.getD []) (totals results summaries)
      (summaries.map fun s => .obj (s.modelDump texts)) (results.map fun r => .obj r.modelDump),
    reportDict (keptMetadata (metadata.getD [])) (totals results summaries)
      (summaries.map fun s => .obj (s.modelDump texts))
      (results.map fun r => .obj (compactResult r)), ?_, ?_, ?_, ?_⟩
  · unfold buildAggregateReport summaryPayload
    rw [hsummaries]
    rfl
  · unfold buildBaselineReport summaryPayload
    rw [hsummaries]
    rfl
  · rintro report (_ | ⟨_, _ | ⟨_, hreport⟩⟩)
    · exact reportOf_reportDict hne hsuite hids hfull hof
    · exact reportOf_withoutSummaries hne hsuite hids hfull htotals _
    · cases hreport
  · rintro report (_ | ⟨_, _ | ⟨_, hreport⟩⟩)
    · exact reportOf_reportDict hne hsuite hids hcompact hof
    · exact reportOf_withoutSummaries hne hsuite hids hcompact htotals _
    · cases hreport

theorem suite_ne_empty (hne : results ≠ []) (hproduced : ∀ r ∈ results, Produced texts suite r) :
    suite ≠ "" := by
  obtain ⟨r, hr⟩ := List.exists_mem_of_ne_nil _ hne
  exact (hproduced r hr).suite_eq ▸ (hproduced r hr).wellGraded.suite

/-- The reports of the results of a suite are read as the same cases, from the case summaries and
from the results. The baseline is always read; the aggregate report is read exactly when its
metadata name no other suite. -/
theorem reports_agree {metadata : Option Dict} (hne : results ≠ [])
    (hproduced : ∀ r ∈ results, Produced texts suite r)
    (hbounded : ∀ r ∈ results, Bounded r) :
    ∃ aggregate baseline,
      buildAggregateReport texts results metadata = .ok aggregate ∧
      buildBaselineReport texts results metadata = .ok baseline ∧
      (∀ report ∈ [baseline, withoutSummaries baseline], ∃ r,
        normalizeReport texts (.obj report) = .ok r ∧ r.suite = suite ∧ ReadAs results r.cases) ∧
      ∀ report ∈ [aggregate, withoutSummaries aggregate],
        (NamesSuite suite (metadata.getD []) → ∃ r,
          normalizeReport texts (.obj report) = .ok r ∧ r.suite = suite ∧
            ReadAs results r.cases) ∧
        (¬ NamesSuite suite (metadata.getD []) → ∃ message,
          normalizeReport texts (.obj report) = .error (.reportFormat message)) := by
  have hempty := suite_ne_empty hne hproduced
  obtain ⟨aggregate, baseline, haggregate, hbaseline, hfull, hcompact⟩ :=
    @builtReports _ _ _ metadata hne hproduced hbounded
  refine ⟨aggregate, baseline, haggregate, hbaseline, fun report hreport => ?_,
    fun report hreport => ?_⟩
  · exact (hcompact report hreport).read hempty (namesSuite_keptMetadata _ _)
  · exact ⟨(hfull report hreport).read hempty, (hfull report hreport).rejected⟩

end

namespace Sample

theorem toUpper_capital {c : Char} (h : 'A' ≤ c ∧ c ≤ 'Z') : c.toUpper = c := by
  have hcapital : ¬ 'a' ≤ c := not_le.2 (h.2.trans_lt (by decide))
  unfold Char.toUpper
  exact dif_neg fun hlower => hcapital hlower.1

def texts : Texts where
  casefold := String.toLower
  upper := String.toUpper
  upper_capitals s h := by
    apply String.toList_injective
    rw [String.toUpper, String.toList_map]
    exact (List.map_congr_left fun c hc => toUpper_capital (h c hc)).trans (List.map_id _)
  repr
    | .str s => "'" ++ s ++ "'"
    | _ => "None"
  floatRepr q := if q = 0 then "0.0" else if q = 1 then "1.0" else "0.5"
  floatRepr_size q := by
    split
    · decide
    · split <;> decide

def evaluated : EvaluationCase where
  id := "greeting"
  suite := "router"
  limits := ⟨2, 0⟩
  tools := ⟨[], [], 0, none, List.nodup_nil⟩
  response := ⟨some .english, false, [], [], false, none⟩
  id_name := by decide
  suite_name := by decide

def observed : CaseRunObservation :=
  ⟨"Hello", [], [], [], [], [], ⟨20, 5, 25⟩, 1, 300, []⟩

def attempt (passed : Bool) (repeatIndex : ℕ+) : CaseResult :=
  if passed then gradeCase texts evaluated observed repeatIndex
  else { CaseResult.timeout evaluated repeatIndex "worker exceeded 30s timeout" none with
    metrics := [("duration_ms", 30000)] }

def run (first second : Bool) : List CaseResult := [attempt first 1, attempt second 2]

section

variable {first second : Bool}

theorem bounded : ∀ r ∈ run first second, Bounded r := by
  have hsmall : ∀ passed repeatIndex name,
      |metricValue (attempt passed repeatIndex) name| ≤ 30000 := by
    intro passed repeatIndex name
    have hfirst : metricValue (attempt passed repeatIndex) name =
        metricValue (attempt passed 1) name := by
      cases passed <;> rfl
    rw [hfirst]
    cases passed <;> cases name <;> decide
  have hpow : (2 : ℤ) ^ 15 ≤ 2 ^ 1022 := pow_le_pow_right₀ one_le_two (by norm_num)
  rintro r (_ | ⟨_, _ | ⟨_, hr⟩⟩) name
  · exact (hsmall first 1 name).trans (le_trans (by norm_num) hpow)
  · exact (hsmall second 2 name).trans (le_trans (by norm_num) hpow)
  · cases hr

theorem produced : ∀ r ∈ run first second, Produced texts "router" r := by
  have hattempt : ∀ passed repeatIndex, Produced texts "router" (attempt passed repeatIndex) := by
    intro passed repeatIndex
    cases passed
    · exact .timeout repeatIndex _ none _ rfl
    · exact .graded observed repeatIndex rfl
  rintro r (_ | ⟨_, _ | ⟨_, hr⟩⟩)
  · exact hattempt first 1
  · exact hattempt second 2
  · cases hr

end

/-- The metadata of the run name another suite: only the baseline is read. -/
theorem reports_agree_two_attempts : ∃ aggregate baseline,
    buildAggregateReport texts (run true false) (some [("suite", .str "planner")]) =
      .ok aggregate ∧
    buildBaselineReport texts (run true false) (some [("suite", .str "planner")]) =
      .ok baseline ∧
    (∃ r, normalizeReport texts (.obj baseline) = .ok r ∧ ReadAs (run true false) r.cases) ∧
    ∃ message, normalizeReport texts (.obj aggregate) = .error (.reportFormat message) := by
  have hother : ¬ NamesSuite "router" [("suite", .str "planner")] := by
    rintro (h | h) <;> exact absurd h (by decide)
  obtain ⟨aggregate, baseline, haggregate, hbaseline, hread, hrejected⟩ :=
    @reports_agree _ _ _ (some [("suite", .str "planner")]) (List.cons_ne_nil _ _) produced bounded
  obtain ⟨r, hr, -, hcases⟩ := hread baseline (by simp)
  exact ⟨aggregate, baseline, haggregate, hbaseline, ⟨r, hr, hcases⟩,
    (hrejected aggregate (by simp)).2 hother⟩

end Sample

end DataJuicer.Evaluation
