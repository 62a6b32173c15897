import DataJuicer.Evaluation.WrittenCases

/-! # Cases that are read

Both readers find the summary of the attempts of every case.
-/

namespace DataJuicer.Evaluation

open Transaction

def casesOf (results : List CaseResult) (caseId : String) : Option NormalizedCaseSummary :=
  if (results.filter fun r => r.caseId = caseId) = [] then none
  else some (plainSummary caseId (results.filter fun r => r.caseId = caseId))

def ReadAs (results : List CaseResult) (cases : Cases) : Prop :=
  ∀ caseId, cases.lookup caseId = casesOf results caseId

section

variable {texts : Texts} {field : String} {results attempts : List CaseResult}
  {s : CaseStabilitySummary} {summaries : List CaseStabilitySummary}

@[simp] theorem integer_natCast (n : ℕ) (field : String) : integer (.int n) field = .ok n := by
  have hnonneg : ¬ (n : ℤ) < 0 := by omega
  unfold integer
  dsimp only
  rw [raiseIf, if_neg hnonneg]
  rfl

theorem readStatusCounts_dump (counts : EvaluationStatus → ℕ) (field : String) :
    readStatusCounts (countsDump counts) field = .ok counts := by
  have hget : ∀ s : EvaluationStatus, getD (statuses.map fun s => (s.value, .int (counts s)))
      s.value (.int 0) = .int (counts s) := by
    intro s
    cases s <;> rfl
  unfold readStatusCounts countsDump
  simp only [hget, integer_natCast]
  refine congrArg Except.ok ?_
  ext s
  cases s <;> rfl

theorem foldlM_addSignature (signatures parsed : List (String × ℕ))
    (hpos : ∀ e ∈ signatures, 0 < e.2) (hnodup : ((parsed ++ signatures).map Prod.fst).Nodup) :
    (signatures.map fun e => (e.1, Json.int e.2)).foldlM (addSignature field) parsed =
      .ok (parsed ++ signatures) := by
  induction signatures generalizing parsed with
  | nil => simp [pure, Except.pure]
  | cons e signatures ih =>
    obtain ⟨signature, count⟩ := e
    rw [List.forall_mem_cons] at hpos
    have hnew : signature ∉ parsed.map Prod.fst := by
      rw [List.map_append, List.map_cons, List.nodup_append] at hnodup
      intro hmem
      exact hnodup.2.2 _ hmem _ List.mem_cons_self rfl
    have hstep : addSignature field parsed (signature, Json.int count) =
        .ok (parsed ++ [(signature, count)]) := by
      unfold addSignature
      rw [integer_natCast]
      exact congrArg Except.ok ((if_pos hpos.1).trans (upsert_of_new hnew))
    rw [List.map_cons, List.foldlM_cons, hstep]
    have happend : parsed ++ (signature, count) :: signatures =
        (parsed ++ [(signature, count)]) ++ signatures := by simp
    rw [happend] at hnodup ⊢
    exact ih _ hpos.2 hnodup

/-- The signatures are read as they are counted. -/
theorem failureSignatureCounts_dump (attempts : List CaseResult) (field : String) :
    failureSignatureCounts (signatureDump (sortedItems (signatureCounts attempts))) field =
      .ok (sortedItems (signatureCounts attempts)) := by
  have hnodup : ((sortedItems (signatureCounts attempts)).map Prod.fst).Nodup :=
    nodup_sortedItems (nodup_tally _)
  have hpos : ∀ e ∈ sortedItems (signatureCounts attempts), 0 < e.2 := by
    rintro ⟨signature, count⟩ he
    rw [(perm_sortedItems _).mem_iff, signatureCounts, ← lookup_eq_some (nodup_tally _),
      lookup_tally] at he
    split at he
    · cases he
    · next hne =>
      cases he
      exact Nat.pos_of_ne_zero hne
  unfold failureSignatureCounts signatureDump
  dsimp only
  rw [foldlM_addSignature _ [] hpos hnodup]
  exact congrArg Except.ok (sortedItems_sortedItems _)

theorem readRate_float {q : ℚ} (hpos : 0 ≤ q) (hle : q ≤ 1) (caseId : String) :
    readRate texts (texts.float q) caseId = .ok q := by
  have hrange : ¬ (q < 0 ∨ 1 < q) := not_or.2 ⟨not_lt.2 hpos, not_lt.2 hle⟩
  unfold readRate Texts.float
  dsimp only
  rw [raiseIf, if_neg hrange]
  rfl

theorem rateTolerance_nonneg : 0 ≤ rateTolerance := roundRat_nonneg (by positivity)

theorem stability_value_ne (s : StabilityStatus) : s.value ≠ "" := by
  cases s <;> decide

theorem readSummary_modelDump (h : SummaryOf attempts s) :
    readSummary texts s.caseId (s.modelDump texts) = .ok s.normalized := by
  have hnormalized := h.normalized
  unfold CaseStabilitySummary.normalized plainSummary at hnormalized
  injection hnormalized with _ hattempts hcounts hrate hstability hsignatures
  have hlength : 0 < attempts.length := List.length_pos_of_ne_nil h.ne
  have htotal : total s.statusCounts = s.attempts := by
    rw [hcounts, hattempts, total_statusCount]
  have hcalculated : roundRat (s.statusCounts .pass / s.attempts) = s.passRate := by
    rw [hcounts, hattempts, hrate]
  have hexpected : deriveStability s.statusCounts s.attempts = s.stabilityStatus := by
    rw [hcounts, hattempts, hstability]
  obtain ⟨hpos, hle⟩ := share_mem_unit attempts .pass
  have hpos' : 0 ≤ s.passRate := by
    rw [hrate]
    exact roundRat_nonneg hpos
  have hle' : s.passRate ≤ 1 := by
    rw [hrate]
    exact roundRat_le_one hpos hle
  have htolerance : ¬ rateTolerance < |roundRat (s.passRate - s.passRate)| := by
    rw [sub_self, roundRat_zero, abs_zero, not_lt]
    exact rateTolerance_nonneg
  have hattempts' : ¬ (s.attempts = 0 ∨ s.attempts ≠ total s.statusCounts) := by
    rw [htotal, not_or, not_not]
    omega
  have hsome : ¬ someText (.str s.stabilityStatus.value) = none := by
    simp [someText, stability_value_ne]
  have hget : ∀ default,
      getD (s.modelDump texts) "status_counts" default = countsDump s.statusCounts ∧
      getD (s.modelDump texts) "attempts" default = .int s.attempts ∧
      getD (s.modelDump texts) "pass_rate" default = texts.float s.passRate ∧
      getD (s.modelDump texts) "stability_status" default = .str s.stabilityStatus.value ∧
      getD (s.modelDump texts) "failure_signatures" default =
        signatureDump s.failureSignatures := fun _ => ⟨rfl, rfl, rfl, rfl, rfl⟩
  unfold readSummary
  simp only [(hget _).1, (hget _).2.1, (hget _).2.2.1, (hget _).2.2.2.1, (hget _).2.2.2.2,
    readStatusCounts_dump, integer_natCast, readRate_float hpos' hle', bind_eq_ok]
  refine ⟨_, rfl, _, rfl, ⟨⟩, raiseIf_eq_ok.2 hattempts', _, rfl, ⟨⟩, ?_, ⟨⟩,
    raiseIf_eq_ok.2 hsome, ⟨⟩, ?_, s.failureSignatures, ?_, ?_⟩
  · rw [hcalculated]
    exact raiseIf_eq_ok.2 htolerance
  · rw [hexpected]
    exact raiseIf_eq_ok.2 (not_not.2 rfl)
  · rw [hsignatures]
    exact failureSignatureCounts_dump _ _
  · rw [hcalculated, hexpected]
    rfl

theorem or_text {t : String} (h : t ≠ "") (v : Json) : (Json.str t).or v = .str t :=
  if_pos (decide_eq_true h)

theorem addSummary_new {normalized : Cases} (h : SummaryOf attempts s) (hne : s.caseId ≠ "")
    (hnew : s.caseId ∉ normalized.map Prod.fst) :
    addSummary texts normalized (.obj (s.modelDump texts)) =
      .ok (normalized ++ [(s.caseId, s.normalized)]) := by
  have hid : (Json.get (s.modelDump texts) "case_id").or (Json.get (s.modelDump texts) "id") =
      .str s.caseId := or_text hne _
  unfold addSummary
  dsimp only
  rw [hid]
  dsimp only
  rw [raiseIf, if_neg hne, raiseIf, if_neg hnew, readSummary_modelDump h]
  exact congrArg Except.ok (upsert_of_new hnew)

theorem foldlM_addSummary (normalized : Cases)
    (h : ∀ s ∈ summaries, s.caseId ≠ "" ∧ ∃ attempts, SummaryOf attempts s)
    (hnodup : (normalized.map Prod.fst ++ summaries.map CaseStabilitySummary.caseId).Nodup) :
    (summaries.map fun s => Json.obj (s.modelDump texts)).foldlM (addSummary texts) normalized =
      .ok (normalized ++ summaries.map fun s => (s.caseId, s.normalized)) := by
  induction summaries generalizing normalized with
  | nil => simp [pure, Except.pure]
  | cons s summaries ih =>
    rw [List.forall_mem_cons] at h
    obtain ⟨⟨hne, attempts, hof⟩, hrest⟩ := h
    have hnew : s.caseId ∉ normalized.map Prod.fst := by
      rw [List.map_cons, List.nodup_append] at hnodup
      intro hmem
      exact hnodup.2.2 _ hmem _ List.mem_cons_self rfl
    rw [List.map_cons, List.foldlM_cons, addSummary_new hof hne hnew]
    have happend : normalized ++ (s :: summaries).map (fun s => (s.caseId, s.normalized)) =
        (normalized ++ [(s.caseId, s.normalized)]) ++
          summaries.map fun s => (s.caseId, s.normalized) := by simp
    rw [happend]
    apply ih _ hrest
    rw [List.map_append, List.append_assoc]
    exact hnodup

/-- The second version is read as it is written. -/
theorem normalizeV2Cases_dump (h : SummariesOf results summaries) (hne : results ≠ [])
    (hids : ∀ r ∈ results, r.caseId ≠ "") :
    ∃ cases, normalizeV2Cases texts (.arr (summaries.map fun s => .obj (s.modelDump texts))) =
      .ok cases ∧ ReadAs results cases := by
  have hsummaries : ∀ s ∈ summaries, s.caseId ≠ "" ∧ ∃ attempts, SummaryOf attempts s := by
    intro s hs
    have hof := h.summary s hs
    obtain ⟨r, hr⟩ := List.exists_mem_of_ne_nil _ hof.ne
    have hid := hof.caseId r hr
    exact ⟨hid ▸ hids r (List.mem_of_mem_filter hr), _, hof⟩
  have hkeys : ((summaries.map fun s => (s.caseId, s.normalized)).map Prod.fst).Nodup := by
    rw [List.map_map]
    exact h.ids
  refine ⟨summaries.map fun s => (s.caseId, s.normalized), ?_, ?_⟩
  · obtain ⟨r, hr⟩ := List.exists_mem_of_ne_nil _ hne
    obtain ⟨s, hs, -⟩ := h.covered r hr
    have hnonempty : ¬ (summaries.map fun s => (s.caseId, s.normalized)) = [] := by
      rw [List.map_eq_nil_iff]
      exact List.ne_nil_of_mem hs
    unfold normalizeV2Cases
    rw [bind_eq_ok]
    refine ⟨_, rfl, ?_⟩
    dsimp only
    rw [foldlM_addSummary [] hsummaries h.ids, List.nil_append]
    change (raiseIf _ _ >>= _) = _
    rw [raiseIf, if_neg hnonempty]
    rfl
  · intro caseId
    unfold casesOf
    split
    · next hnone =>
      rw [lookup_eq_none, List.map_map]
      intro hmem
      obtain ⟨s, hs, rfl⟩ := List.mem_map.1 hmem
      exact (h.summary s hs).ne hnone
    · next hsome =>
      obtain ⟨r, hr⟩ := List.exists_mem_of_ne_nil _ hsome
      rw [List.mem_filter] at hr
      obtain ⟨s, hs, hid⟩ := h.covered r hr.1
      obtain rfl : s.caseId = caseId := hid.trans (of_decide_eq_true hr.2)
      rw [lookup_eq_some hkeys, ← (h.summary s hs).normalized]
      exact List.mem_map_of_mem (f := fun s => (s.caseId, s.normalized)) hs

end

structure WellGraded (r : CaseResult) : Prop where
  caseId : r.caseId ≠ ""
  suite : r.suite ≠ ""
  names : (r.checks.map GradingCheck.name).Nodup
  named : "" ∉ r.checks.map GradingCheck.name
  failed : r.status = .fail → ∃ c ∈ r.checks, c.passed = false

/-- The results of the evaluation of the cases of a suite. What did not run to its end is reported
with metrics of its own: those of the worker, or the time that the runner has measured. -/
inductive Produced (texts : Texts) (suite : String) : CaseResult → Prop
  | graded {case : EvaluationCase} (o : CaseRunObservation) (repeatIndex : ℕ+)
      (h : case.suite = suite) : Produced texts suite (gradeCase texts case o repeatIndex)
  | timeout {case : EvaluationCase} (repeatIndex : ℕ+) (message : String)
      (o : Option CaseRunObservation) (metrics : List (String × ℤ)) (h : case.suite = suite) :
      Produced texts suite { CaseResult.timeout case repeatIndex message o with metrics }
  | error {case : EvaluationCase} (e : RaisedError) (repeatIndex : ℕ+)
      (o : Option CaseRunObservation) (metrics : List (String × ℤ)) (h : case.suite = suite) :
      Produced texts suite { CaseResult.error case e repeatIndex o with metrics }

theorem ne_of_isCaseName {s : String} (h : isCaseName s) : s ≠ "" := by
  rintro rfl
  cases h

section

variable {texts : Texts} {suite : String} {results : List CaseResult} {r : CaseResult}
  {dump : CaseResult → Dict}

theorem Produced.suite_eq (h : Produced texts suite r) : r.suite = suite := by
  cases h <;> assumption

theorem Produced.wellGraded (h : Produced texts suite r) : WellGraded r := by
  cases h with
  | @graded case o repeatIndex _ =>
    refine ⟨ne_of_isCaseName case.id_name, ne_of_isCaseName case.suite_name, nodup_checkNames,
      empty_notMem_checkNames, fun hfail => ?_⟩
    by_contra hnone
    push Not at hnone
    have hall : (gradingChecks texts case o).all GradingCheck.passed = true := by
      rw [List.all_eq_true]
      exact fun c hc => by simpa using hnone c hc
    have hpass : (gradeCase texts case o repeatIndex).status = .pass := if_pos hall
    rw [hpass] at hfail
    cases hfail
  | @timeout case _ _ _ _ _ =>
    refine ⟨ne_of_isCaseName case.id_name, ne_of_isCaseName case.suite_name, List.nodup_nil,
      List.not_mem_nil, fun hfail => ?_⟩
    cases hfail
  | @error case _ _ _ _ _ =>
    refine ⟨ne_of_isCaseName case.id_name, ne_of_isCaseName case.suite_name, List.nodup_nil,
      List.not_mem_nil, fun hfail => ?_⟩
    cases hfail

structure ReadsAs (texts : Texts) (r : CaseResult) (d : Dict) : Prop where
  caseId : Json.get d "case_id" = .str r.caseId
  suite : Json.get d "suite" = .str r.suite
  status : getD d "status" (.str "") = .str r.status.value
  signatures : (resultFailureSignatures texts d r.status).Perm (failureSignatures r)

theorem readStatus_of_readsAs {d : Dict} (h : ReadsAs texts r d) (caseId : String) :
    readStatus texts caseId d = .ok r.status := by
  have hall : ∀ s : EvaluationStatus,
      (s.value.toList.all fun c => 'A' ≤ c && c ≤ 'Z') = true := by
    intro s
    cases s <;> decide
  have hcapitals : ∀ s : EvaluationStatus, ∀ c ∈ s.value.toList, 'A' ≤ c ∧ c ≤ 'Z' := by
    intro s c hc
    simpa using List.all_eq_true.1 (hall s) c hc
  unfold readStatus
  dsimp only
  rw [h.status, Texts.str, texts.upper_capitals _ (hcapitals r.status)]
  cases r.status <;> rfl

theorem summarizeResultsOf_dump (caseId : String)
    (h : ∀ r ∈ results, ReadsAs texts r (dump r)) :
    summarizeResultsOf texts caseId (results.map dump) = .ok (plainSummary caseId results) := by
  have hfound : (results.map dump).mapM (readStatus texts caseId) =
      .ok (results.map CaseResult.status) := by
    rw [mapM_eq_ok, List.forall₂_map_left_iff, List.forall₂_map_right_iff, List.forall₂_same]
    exact fun r hr => readStatus_of_readsAs (h r hr) caseId
  have hsignatures : (((results.map dump).zip (results.map CaseResult.status)).flatMap fun x =>
      resultFailureSignatures texts x.1 x.2).Perm (results.flatMap failureSignatures) := by
    rw [List.zip_map', List.flatMap_map]
    exact List.Perm.flatMap_left _ fun r hr => (h r hr).signatures
  unfold summarizeResultsOf
  rw [hfound]
  change Except.ok _ = _
  rw [List.length_map, sortedItems_tally_congr hsignatures]
  rfl

theorem normalizeV1Cases_dump {payload : Dict}
    (hpayload : Json.get payload "results" = .arr (results.map fun r => .obj (dump r)))
    (hne : results ≠ []) (hids : ∀ r ∈ results, r.caseId ≠ "")
    (h : ∀ r ∈ results, ReadsAs texts r (dump r)) :
    ∃ cases, normalizeV1Cases texts payload = .ok cases ∧ ReadAs results cases := by
  have hread : (results.map fun r => Json.obj (dump r)).mapM readCase =
      .ok (results.map fun r => (r.caseId, dump r)) := by
    rw [mapM_eq_ok, List.forall₂_map_left_iff, List.forall₂_map_right_iff, List.forall₂_same]
    intro r hr
    unfold readCase
    dsimp only
    rw [(h r hr).caseId]
    dsimp only
    rw [raiseIf, if_neg (hids r hr)]
    rfl
  have hfilter : ∀ caseId, ((results.map fun r => (r.caseId, dump r)).filter fun e =>
      e.1 = caseId) = (results.filter fun r => r.caseId = caseId).map fun r =>
        (r.caseId, dump r) := fun caseId => by
    rw [List.filter_map]
    rfl
  have hnonempty : ¬ (results.map fun r => Json.obj (dump r)) = [] := by
    rwa [List.map_eq_nil_iff]
  refine ⟨(collect Prod.fst (results.map fun r => (r.caseId, dump r))).map fun group =>
    (group.1, plainSummary group.1 (results.filter fun r => r.caseId = group.1)), ?_, ?_⟩
  · unfold normalizeV1Cases
    rw [hpayload]
    dsimp only [itemsOf]
    rw [raiseIf, if_neg hnonempty, hread]
    change (collect Prod.fst _).mapM _ = _
    rw [mapM_eq_ok, List.forall₂_map_right_iff, List.forall₂_same]
    rintro ⟨caseId, group⟩ hgroup
    obtain ⟨hgroup, -⟩ := mem_collect.1 hgroup
    have hmap : group.map Prod.snd = (results.filter fun r => r.caseId = caseId).map dump := by
      rw [hgroup, hfilter, List.map_map]
      rfl
    dsimp only
    rw [hmap, summarizeResultsOf_dump caseId fun r hr => h r (List.mem_of_mem_filter hr)]
    rfl
  · intro caseId
    rw [lookup_map_values (fun caseId _ =>
      plainSummary caseId (results.filter fun r => r.caseId = caseId)), lookup_collect, hfilter]
    unfold casesOf
    simp only [List.map_eq_nil_iff]
    split <;> rfl

theorem filterMap_someText {names : List String} (h : "" ∉ names) :
    (names.map Json.str).filterMap someText = names := by
  rw [List.filterMap_map, List.filterMap_congr (g := some), List.filterMap_some]
  intro name hname
  have hne : name ≠ "" := fun hempty => h (hempty ▸ hname)
  exact if_neg hne

theorem errorType_str (errorType : Option String) :
    texts.str ((optional Json.str errorType).or (.str "EvaluationError")) =
      errorTypeText errorType := by
  cases errorType with
  | none => rfl
  | some s =>
    by_cases hempty : s = ""
    · subst hempty
      rfl
    · change texts.str ((Json.str s).or _) = _
      rw [or_text hempty]
      unfold errorTypeText
      split
      · next h => cases h
      · next h => exact absurd (Option.some.inj h) hempty
      · next h => exact Option.some.inj h

def failedNames (r : CaseResult) : List String :=
  (r.checks.filter fun c => !c.passed).map GradingCheck.name

theorem failedNames_sublist (r : CaseResult) :
    (failedNames r).Sublist (r.checks.map GradingCheck.name) :=
  List.filter_sublist.map _

theorem failedNames_ne_nil (h : WellGraded r) (hfail : r.status = .fail) : failedNames r ≠ [] := by
  obtain ⟨c, hc, hpassed⟩ := h.failed hfail
  have hmem : c ∈ r.checks.filter fun c => !c.passed := by
    rw [List.mem_filter, hpassed]
    exact ⟨hc, rfl⟩
  exact List.ne_nil_of_mem (List.mem_map_of_mem hmem)

theorem failureSignatures_perm (h : WellGraded r) (hfail : r.status = .fail) :
    (failureSignatures r).Perm (failedNames r) := by
  have hnodup : (failedNames r).Nodup := (failedNames_sublist r).nodup h.names
  unfold failureSignatures
  rw [hfail]
  dsimp only
  change ((failedNames r).dedup.insertionSort (· ≤ ·)).Perm _
  rw [hnodup.dedup]
  exact List.perm_insertionSort _ _

theorem filterMap_failedName (checks : List GradingCheck)
    (h : "" ∉ checks.map GradingCheck.name) :
    (checks.map GradingCheck.modelDump).filterMap failedName =
      (checks.filter fun c => !c.passed).map GradingCheck.name := by
  induction checks with
  | nil => rfl
  | cons c checks ih =>
    rw [List.map_cons, List.mem_cons, not_or] at h
    have hname : someText (.str c.name) = some c.name := if_neg (Ne.symm h.1)
    have hfailed : failedName c.modelDump = if c.passed = false then some c.name else none := by
      rw [← hname]
      cases hpassed : c.passed <;> simp [failedName, GradingCheck.modelDump, Json.get_cons, hpassed]
    rw [List.map_cons, List.filterMap_cons, hfailed, ih h.2]
    cases hpassed : c.passed with
    | false => rw [List.filter_cons_of_pos (by simp [hpassed])]; rfl
    | true => rw [List.filter_cons_of_neg (by simp [hpassed])]; rfl

theorem resultFailureSignatures_of_names {d : Dict} {names : List String}
    (h : (itemsOf (Json.get d "checks")).filterMap failedName = names) (hne : names ≠ []) :
    resultFailureSignatures texts d .fail = names := by
  subst h
  exact if_pos hne

theorem resultFailureSignatures_of_recorded {d : Dict} {recorded : List String}
    (hnames : (itemsOf (Json.get d "checks")).filterMap failedName = [])
    (h : (itemsOf (Json.get d "failure_signatures")).filterMap someText = recorded)
    (hne : recorded ≠ []) : resultFailureSignatures texts d .fail = recorded := by
  subst h
  exact (if_neg (not_not.2 hnames)).trans (if_pos hne)

theorem readsAs_modelDump (h : WellGraded r) : ReadsAs texts r r.modelDump := by
  refine ⟨rfl, rfl, rfl, ?_⟩
  cases hstatus : r.status with
  | pass => simp [resultFailureSignatures, failureSignatures, hstatus]
  | timeout => simp [resultFailureSignatures, failureSignatures, hstatus]
  | error =>
    have htype : Json.get r.modelDump "error_type" = optional Json.str r.errorType := rfl
    simp only [resultFailureSignatures, failureSignatures, hstatus, htype, errorType_str]
    exact List.Perm.refl _
  | fail =>
    have hnames : (itemsOf (Json.get r.modelDump "checks")).filterMap failedName =
        failedNames r := filterMap_failedName r.checks h.named
    rw [resultFailureSignatures_of_names hnames (failedNames_ne_nil h hstatus)]
    exact (failureSignatures_perm h hstatus).symm

theorem readsAs_compactResult (h : WellGraded r) : ReadsAs texts r (compactResult r) := by
  refine ⟨rfl, rfl, rfl, ?_⟩
  cases hstatus : r.status with
  | pass => simp [resultFailureSignatures, failureSignatures, hstatus]
  | timeout => simp [resultFailureSignatures, failureSignatures, hstatus]
  | error =>
    have htype : Json.get (compactResult r) "error_type" = optional Json.str r.errorType := rfl
    simp only [resultFailureSignatures, failureSignatures, hstatus, htype, errorType_str]
    exact List.Perm.refl _
  | fail =>
    have hperm := failureSignatures_perm h hstatus
    have hnamed : "" ∉ failureSignatures r := fun hmem =>
      h.named ((failedNames_sublist r).subset (hperm.mem_iff.1 hmem))
    have hne : failureSignatures r ≠ [] := fun hnil =>
      failedNames_ne_nil h hstatus (hnil ▸ hperm).symm.eq_nil
    have hrecorded : (itemsOf (Json.get (compactResult r) "failure_signatures")).filterMap
        someText = failureSignatures r := filterMap_someText hnamed
    rw [resultFailureSignatures_of_recorded rfl hrecorded hne]

end

end DataJuicer.Evaluation
