import DataJuicer.Evaluation.Comparison
import DataJuicer.Evaluation.Grading
import DataJuicer.Lib.Pointwise

/-! # Written cases

What a report tells of a case is the summary of its attempts, in any order: from the summaries that
are written, from the results, and from the compact results of a baseline.
-/

namespace DataJuicer.Evaluation

open Transaction

def plainSummary (caseId : String) (attempts : List CaseResult) : NormalizedCaseSummary where
  caseId
  attempts := attempts.length
  statusCounts := statusCount attempts
  passRate := roundRat (statusCount attempts .pass / attempts.length)
  stabilityStatus := deriveStability (statusCount attempts) attempts.length
  failureSignatures := sortedItems (signatureCounts attempts)

section

variable {texts : Texts} {caseId suite : String} {attempts attempts' : List CaseResult}
  {r : CaseResult}

theorem plainSummary_perm (h : attempts.Perm attempts') :
    plainSummary caseId attempts = plainSummary caseId attempts' := by
  have hcounts : statusCount attempts = statusCount attempts' := by
    ext s
    exact (h.map _).count_eq s
  have hsignatures : sortedItems (signatureCounts attempts) =
      sortedItems (signatureCounts attempts') := sortedItems_tally_congr (h.flatMap_right _)
  simp only [plainSummary, hcounts, hsignatures, h.length_eq]

theorem statusCount_eq_zero {s : EvaluationStatus} :
    statusCount attempts s = 0 ↔ s ∉ attempts.map CaseResult.status := List.count_eq_zero

theorem statusCount_eq_length {s : EvaluationStatus} :
    statusCount attempts s = attempts.length ↔ ∀ t ∈ attempts.map CaseResult.status, t = s := by
  unfold statusCount
  rw [← List.length_map CaseResult.status, List.count_eq_length]
  exact forall₂_congr fun _ _ => eq_comm

/-- The writer and the reader classify alike. -/
theorem classifyStability_eq (h : attempts ≠ []) : classifyStability attempts =
    .ok (deriveStability (statusCount attempts) attempts.length) := by
  unfold classifyStability
  rw [raiseIf, if_neg h]
  refine congrArg Except.ok ?_
  simp only [deriveStability, ne_eq, statusCount_eq_zero, not_not, List.length_map,
    statusCount_eq_length]

theorem total_statusCount (attempts : List CaseResult) :
    total (statusCount attempts) = attempts.length := by
  induction attempts with
  | nil => rfl
  | cons r attempts ih =>
    have hcons : ∀ s, statusCount (r :: attempts) s =
        statusCount attempts s + if r.status = s then 1 else 0 := fun s => by
      simp only [statusCount, List.map_cons, List.count_cons, beq_iff_eq]
    simp only [total, statuses, List.map_cons, List.map_nil, hcons, List.sum_cons, List.sum_nil,
      List.length_cons] at ih ⊢
    cases r.status <;> simp <;> omega

theorem statusCount_le (attempts : List CaseResult) (s : EvaluationStatus) :
    statusCount attempts s ≤ attempts.length :=
  List.count_le_length.trans_eq (List.length_map _)

theorem share_mem_unit (attempts : List CaseResult) (s : EvaluationStatus) :
    (0 : ℚ) ≤ statusCount attempts s / attempts.length ∧
      (statusCount attempts s / attempts.length : ℚ) ≤ 1 := by
  have hle : (statusCount attempts s : ℚ) ≤ attempts.length := by
    exact_mod_cast statusCount_le attempts s
  exact ⟨by positivity, div_le_one_of_le₀ hle (Nat.cast_nonneg _)⟩

theorem trueDivide_share (attempts : List CaseResult) (s : EvaluationStatus) :
    trueDivide (statusCount attempts s) attempts.length =
      .ok (roundRat (statusCount attempts s / attempts.length)) := by
  obtain ⟨hpos, hle⟩ := share_mem_unit attempts s
  have hround := roundRat_le_one hpos hle
  have hlt : |roundRat (statusCount attempts s / attempts.length)| < 2 ^ 1024 := by
    rw [abs_of_nonneg (roundRat_nonneg hpos)]
    exact hround.trans_lt (one_lt_pow₀ (by norm_num) (by norm_num))
  unfold trueDivide
  dsimp only
  rw [Int.cast_natCast, if_pos hlt]

def CaseStabilitySummary.normalized (s : CaseStabilitySummary) : NormalizedCaseSummary :=
  ⟨s.caseId, s.attempts, s.statusCounts, s.passRate, s.stabilityStatus, s.failureSignatures⟩

structure SummaryOf (attempts : List CaseResult) (s : CaseStabilitySummary) : Prop where
  ne : attempts ≠ []
  caseId : ∀ r ∈ attempts, r.caseId = s.caseId
  suite : ∀ r ∈ attempts, r.suite = s.suite
  normalized : s.normalized = plainSummary s.caseId attempts

theorem summaryOf_of_ok {s : CaseStabilitySummary}
    (h : summarizeCaseResults texts attempts = .ok s) : SummaryOf attempts s := by
  cases attempts with
  | nil => cases h
  | cons first rest =>
    unfold summarizeCaseResults at h
    obtain ⟨_, hsame, h⟩ := bind_eq_ok.1 h
    obtain ⟨durationMs, -, h⟩ := bind_eq_ok.1 h
    obtain ⟨inputTokens, -, h⟩ := bind_eq_ok.1 h
    obtain ⟨outputTokens, -, h⟩ := bind_eq_ok.1 h
    obtain ⟨totalTokens, -, h⟩ := bind_eq_ok.1 h
    obtain ⟨stability, hstability, h⟩ := bind_eq_ok.1 h
    obtain ⟨rate, hrate, h⟩ := bind_eq_ok.1 h
    cases h
    rw [classifyStability_eq (List.cons_ne_nil first rest)] at hstability
    rw [trueDivide_share] at hrate
    cases hstability
    cases hrate
    rw [raiseIf_eq_ok] at hsame
    push Not at hsame
    refine ⟨List.cons_ne_nil _ _, ?_, ?_, rfl⟩
    · rintro r (_ | ⟨_, hr⟩)
      · rfl
      · exact (hsame r hr).2
    · rintro r (_ | ⟨_, hr⟩)
      · rfl
      · exact (hsame r hr).1

/-- Metrics whose medians are finite floats. -/
def Bounded (r : CaseResult) : Prop := ∀ name, |metricValue r name| ≤ 2 ^ 1022

theorem trueDivide_two_ok {x y : ℤ} (hx : |x| ≤ 2 ^ 1022) (hy : |y| ≤ 2 ^ 1022) :
    ∃ q, trueDivide (x + y) 2 = .ok q := by
  have hsum : |x + y| ≤ 2 * 2 ^ 1022 :=
    (abs_add_le x y).trans ((add_le_add hx hy).trans_eq (two_mul _).symm)
  have hhalf : |((x + y : ℤ) : ℚ) / (2 : ℕ)| ≤ 2 ^ 1022 := by
    have hcast : |((x + y : ℤ) : ℚ)| ≤ 2 * 2 ^ 1022 := by
      rw [← Int.cast_abs]
      exact (Int.cast_le.2 hsum).trans_eq (by rw [Int.cast_mul, Int.cast_pow, Int.cast_ofNat])
    rw [Nat.cast_ofNat, abs_div, abs_two, div_le_iff₀ two_pos, mul_comm]
    exact hcast
  have hlt : |roundRat (((x + y : ℤ) : ℚ) / (2 : ℕ))| < 2 ^ 1024 :=
    (abs_roundRat_le 1022 hhalf).trans_lt (pow_lt_pow_right₀ (by norm_num) (by norm_num))
  unfold trueDivide
  exact ⟨_, if_pos hlt⟩

theorem median_ok {values : List ℤ} (h : ∀ v ∈ values, |v| ≤ 2 ^ 1022) :
    ∃ m, median texts values = .ok m := by
  have hbound : ∀ i, |(values.insertionSort (· ≤ ·)).getD i 0| ≤ 2 ^ 1022 := by
    intro i
    rw [List.getD_eq_getElem?_getD]
    cases hget : (values.insertionSort (· ≤ ·))[i]? with
    | none =>
      rw [Option.getD_none, abs_zero]
      positivity
    | some v => exact h v ((List.mem_insertionSort _).1 (List.mem_of_getElem? hget))
  unfold median
  dsimp only
  split
  · exact ⟨_, rfl⟩
  · obtain ⟨q, hq⟩ := trueDivide_two_ok (hbound _) (hbound _)
    rw [hq]
    exact ⟨_, rfl⟩

theorem statistics_ok {first : ℤ} {rest : List ℤ} (h : ∀ v ∈ first :: rest, |v| ≤ 2 ^ 1022) :
    ∃ m, statistics texts first rest = .ok m := by
  obtain ⟨m, hm⟩ := @median_ok texts _ h
  unfold statistics
  rw [hm]
  exact ⟨_, rfl⟩

theorem summarizeCaseResults_ok (hne : attempts ≠ [])
    (hsame : ∀ r ∈ attempts, ∀ r' ∈ attempts, r.suite = r'.suite ∧ r.caseId = r'.caseId)
    (hbounded : ∀ r ∈ attempts, Bounded r) :
    ∃ s, summarizeCaseResults texts attempts = .ok s := by
  cases attempts with
  | nil => exact absurd rfl hne
  | cons first rest =>
    have hstatistics : ∀ name, ∃ m, statistics texts (metricValue first name)
        (rest.map (metricValue · name)) = .ok m := by
      intro name
      apply statistics_ok
      intro v hv
      rw [← List.map_cons (f := (metricValue · name)), List.mem_map] at hv
      obtain ⟨r, hr, rfl⟩ := hv
      exact hbounded r hr name
    obtain ⟨durationMs, hdurationMs⟩ := hstatistics .durationMs
    obtain ⟨inputTokens, hinputTokens⟩ := hstatistics .inputTokens
    obtain ⟨outputTokens, houtputTokens⟩ := hstatistics .outputTokens
    obtain ⟨totalTokens, htotalTokens⟩ := hstatistics .totalTokens
    have hkeys : ¬ ∃ r ∈ rest, r.suite ≠ first.suite ∨ r.caseId ≠ first.caseId := by
      rintro ⟨r, hr, hne⟩
      obtain ⟨hsuite, hcase⟩ := hsame r (List.mem_cons_of_mem _ hr) first List.mem_cons_self
      exact hne.elim (absurd hsuite) (absurd hcase)
    unfold summarizeCaseResults
    dsimp only
    rw [raiseIf, if_neg hkeys, hdurationMs, hinputTokens, houtputTokens, htotalTokens,
      classifyStability_eq (List.cons_ne_nil _ _), trueDivide_share]
    exact ⟨_, rfl⟩

structure SummariesOf (results : List CaseResult) (summaries : List CaseStabilitySummary) :
    Prop where
  ids : (summaries.map CaseStabilitySummary.caseId).Nodup
  summary : ∀ s ∈ summaries, SummaryOf (results.filter fun r => r.caseId = s.caseId) s
  covered : ∀ r ∈ results, ∃ s ∈ summaries, s.caseId = r.caseId

def inOrder (attempts : List CaseResult) : List CaseResult :=
  attempts.insertionSort fun r s => r.repeatIndex ≤ s.repeatIndex

theorem perm_inOrder (attempts : List CaseResult) : (inOrder attempts).Perm attempts :=
  List.perm_insertionSort _ _

theorem SummaryOf.perm {s : CaseStabilitySummary} (h : SummaryOf attempts s)
    (hperm : attempts.Perm attempts') : SummaryOf attempts' s where
  ne := fun hnil => h.ne (by rw [hnil] at hperm; exact hperm.eq_nil)
  caseId := fun r hr => h.caseId r (hperm.mem_iff.2 hr)
  suite := fun r hr => h.suite r (hperm.mem_iff.2 hr)
  normalized := h.normalized.trans (plainSummary_perm hperm)

variable {results : List CaseResult} {summaries : List CaseStabilitySummary}

theorem group_eq (hsuite : ∀ r ∈ results, r.suite = suite) {key : String × String}
    {group : List CaseResult}
    (h : (key, group) ∈ collect (fun r => (r.suite, r.caseId)) results) :
    group = (results.filter fun r => r.caseId = key.2) ∧ group ≠ [] ∧ key.1 = suite := by
  obtain ⟨hgroup, hne⟩ := mem_collect.1 h
  obtain ⟨r, hr⟩ := List.exists_mem_of_ne_nil _ hne
  rw [hgroup, List.mem_filter] at hr
  have hkey : (r.suite, r.caseId) = key := of_decide_eq_true hr.2
  have hkey' : key.1 = suite := by rw [← hkey, hsuite r hr.1]
  refine ⟨?_, hne, hkey'⟩
  rw [hgroup]
  apply List.filter_congr
  intro r' hr'
  have hiff : (r'.suite, r'.caseId) = key ↔ r'.caseId = key.2 := by
    rw [Prod.ext_iff, hsuite r' hr', hkey', and_iff_right rfl]
  simp only [hiff]

theorem summariesOf_of_ok (hsuite : ∀ r ∈ results, r.suite = suite)
    (h : summarizeResults texts results = .ok summaries) : SummariesOf results summaries := by
  unfold summarizeResults at h
  rw [mapM_eq_ok] at h
  set groups := (collect (fun r => (r.suite, r.caseId)) results).insertionSort
    fun x y => keyLe x.1 y.1 with hgroups
  have hperm : groups.Perm (collect (fun r => (r.suite, r.caseId)) results) :=
    List.perm_insertionSort _ _
  have hgroup : ∀ g ∈ groups, g.2 = (results.filter fun r => r.caseId = g.1.2) ∧ g.2 ≠ [] ∧
      g.1.1 = suite := fun g hg => group_eq hsuite (hperm.mem_iff.1 hg)
  have hsummary : List.Forall₂ (fun g s => s.caseId = g.1.2 ∧
      SummaryOf (results.filter fun r => r.caseId = s.caseId) s) groups summaries := by
    refine (forall₂_with_mem h).imp ?_
    rintro g s ⟨hg, hs⟩
    obtain ⟨hfilter, hne, -⟩ := hgroup g hg
    have hof : SummaryOf g.2 s := (summaryOf_of_ok hs).perm (perm_inOrder g.2)
    obtain ⟨r, hr⟩ := List.exists_mem_of_ne_nil _ hne
    have hid : s.caseId = g.1.2 := by
      rw [← hof.caseId r hr]
      rw [hfilter, List.mem_filter] at hr
      exact of_decide_eq_true hr.2
    refine ⟨hid, ?_⟩
    rw [hid, ← hfilter]
    exact hof
  constructor
  · -- All keys have the one suite.
    have hids : summaries.map CaseStabilitySummary.caseId =
        (groups.map Prod.fst).map Prod.snd := by
      rw [List.map_map]
      exact map_eq_of_forall₂ hsummary fun _ _ h => h.1
    have hkeys : (groups.map Prod.fst).Nodup := (hperm.map _).nodup_iff.2 (nodup_collect _ _)
    rw [hids]
    refine hkeys.map_on ?_
    intro x hx y hy hxy
    obtain ⟨g, hg, rfl⟩ := List.mem_map.1 hx
    obtain ⟨g', hg', rfl⟩ := List.mem_map.1 hy
    exact Prod.ext ((hgroup g hg).2.2.trans (hgroup g' hg').2.2.symm) hxy
  · intro s hs
    obtain ⟨g, -, -, hof⟩ := exists_of_forall₂_right hsummary hs
    exact hof
  · intro r hr
    have hmem : ((r.suite, r.caseId), results.filter fun r' => (r'.suite, r'.caseId) =
        (r.suite, r.caseId)) ∈ groups := by
      rw [hperm.mem_iff, mem_collect]
      exact ⟨rfl, List.ne_nil_of_mem (List.mem_filter.2 ⟨hr, decide_eq_true rfl⟩)⟩
    obtain ⟨s, hs, hid, -⟩ := exists_of_forall₂_left hsummary hmem
    exact ⟨s, hs, hid⟩

theorem summarizeResults_ok (hsuite : ∀ r ∈ results, r.suite = suite)
    (hbounded : ∀ r ∈ results, Bounded r) :
    ∃ summaries, summarizeResults texts results = .ok summaries := by
  unfold summarizeResults
  apply exists_mapM_ok
  rintro ⟨key, group⟩ hg
  rw [List.mem_insertionSort] at hg
  obtain ⟨hgroup, hne, -⟩ := group_eq hsuite hg
  have hmem : ∀ r ∈ inOrder group, r ∈ results ∧ r.caseId = key.2 := by
    intro r hr
    rw [(perm_inOrder group).mem_iff, hgroup, List.mem_filter] at hr
    exact ⟨hr.1, of_decide_eq_true hr.2⟩
  apply summarizeCaseResults_ok
  · intro hnil
    have hperm := perm_inOrder group
    rw [inOrder, hnil] at hperm
    exact hne hperm.symm.eq_nil
  · intro r hr r' hr'
    rw [hsuite r (hmem r hr).1, hsuite r' (hmem r' hr').1, (hmem r hr).2, (hmem r' hr').2]
    exact ⟨rfl, rfl⟩
  · exact fun r hr => hbounded r (hmem r hr).1

end

end DataJuicer.Evaluation
