import DataJuicer.Evaluation.Comparison
import DataJuicer.Lib.Pointwise

/-! # Comparison as a relation of reports

Reports that can be compared are compatible, and compatibility is symmetric and transitive. Two
reports compared the other way have their verdicts and their changes exchanged.
-/

namespace DataJuicer.Evaluation

open Transaction

section

variable {texts : Texts} {payload : Dict} {v : Json} {cases normalized : Cases}
  {r : NormalizedReport}

theorem nodup_addSummary (h : addSummary texts normalized v = .ok cases)
    (hn : (normalized.map Prod.fst).Nodup) : (cases.map Prod.fst).Nodup := by
  unfold addSummary at h
  split at h
  · split at h
    · obtain ⟨-, h⟩ := unit_bind_eq_ok.1 h
      obtain ⟨-, h⟩ := unit_bind_eq_ok.1 h
      obtain ⟨summary, -, h⟩ := bind_eq_ok.1 h
      obtain rfl := Except.ok.inj h
      exact nodup_keys_upsert hn
    · cases h
  · cases h

theorem nodup_normalizeV2Cases (h : normalizeV2Cases texts v = .ok cases) :
    (cases.map Prod.fst).Nodup := by
  have hloop : ∀ entries : List Json, (do
      let normalized ← entries.foldlM (addSummary texts) []
      raiseIf (normalized = []) (.reportFormat "evaluation report contains no case summaries")
      return normalized : Except Failure Cases) = .ok cases → (cases.map Prod.fst).Nodup := by
    intro entries h
    obtain ⟨normalized, hfold, h⟩ := bind_eq_ok.1 h
    obtain ⟨-, h⟩ := unit_bind_eq_ok.1 h
    obtain rfl := Except.ok.inj h
    exact foldlM_keeps (p := fun d => (d.map Prod.fst).Nodup) hfold List.nodup_nil
      fun _ _ _ hn hadd => nodup_addSummary hadd hn
  unfold normalizeV2Cases at h
  dsimp only at h
  split at h
  · obtain ⟨entries, -, h⟩ := bind_eq_ok.1 h
    exact hloop entries h
  · obtain ⟨entries, -, h⟩ := bind_eq_ok.1 h
    exact hloop entries h
  · cases h

theorem nodup_normalizeV1Cases (h : normalizeV1Cases texts payload = .ok cases) :
    (cases.map Prod.fst).Nodup := by
  unfold normalizeV1Cases at h
  obtain ⟨-, h⟩ := unit_bind_eq_ok.1 h
  obtain ⟨read, -, h⟩ := bind_eq_ok.1 h
  have hkeys : cases.map Prod.fst = (collect Prod.fst read).map Prod.fst := by
    refine map_eq_of_forall₂ (mapM_eq_ok.1 h) fun group summary hsummary => ?_
    obtain ⟨s, -, hs⟩ := bind_eq_ok.1 hsummary
    obtain rfl := Except.ok.inj hs
    rfl
  rw [hkeys]
  exact nodup_collect _ _

theorem nodup_cases {payload : Json} (h : normalizeReport texts payload = .ok r) :
    (r.cases.map Prod.fst).Nodup := by
  unfold normalizeReport at h
  split at h
  · next payload =>
    obtain ⟨version, -, h⟩ := bind_eq_ok.1 h
    obtain ⟨-, h⟩ := unit_bind_eq_ok.1 h
    split at h
    · dsimp only at h
      by_cases hv2 : v2CaseSummaries payload ≠ .null
      · rw [if_pos hv2] at h
        obtain ⟨cases, hcases, h⟩ := bind_eq_ok.1 h
        obtain ⟨results, -, h⟩ := bind_eq_ok.1 h
        obtain ⟨suite, -, h⟩ := bind_eq_ok.1 h
        obtain rfl := Except.ok.inj h
        exact nodup_normalizeV2Cases hcases
      · rw [if_neg hv2] at h
        obtain ⟨cases, hcases, h⟩ := bind_eq_ok.1 h
        obtain ⟨results, -, h⟩ := bind_eq_ok.1 h
        obtain ⟨suite, -, h⟩ := bind_eq_ok.1 h
        obtain rfl := Except.ok.inj h
        exact nodup_normalizeV1Cases hcases
    · cases h
  · cases h

end

section

variable {test : Json → Json → Except Failure Bool} {value : String → Json × Json}
  {fields : List String} {x y z : Json}

def swapChange (c : String × Json × Json) : String × Json × Json := (c.1, c.2.swap)

theorem fieldsWhere_cons (field : String) : fieldsWhere test value (field :: fields) = do
    let found ← test (value field).1 (value field).2
    let rest ← fieldsWhere test value fields
    return (if found then [(field, value field)] else []) ++ rest := by
  unfold fieldsWhere
  rw [List.mapM_cons]
  cases test (value field).1 (value field).2 with
  | error e => rfl
  | ok found =>
    generalize (fields.mapM fun field => do
      return if ← test (value field).1 (value field).2 then [(field, value field)] else [] :
        Except Failure (List (List (String × Json × Json)))) = rest
    cases rest <;> rfl

theorem fieldsWhere_swap (hsymm : ∀ x y, test x y = test y x) :
    fieldsWhere test (fun field => (value field).swap) fields =
      (fieldsWhere test value fields).map (List.map swapChange) := by
  induction fields with
  | nil => rfl
  | cons field fields ih =>
    rw [fieldsWhere_cons, fieldsWhere_cons, ih, Prod.fst_swap, Prod.snd_swap, hsymm]
    cases test (value field).1 (value field).2 with
    | error e => rfl
    | ok found =>
      cases fieldsWhere test value fields with
      | error e => rfl
      | ok rest => cases found <;> rfl

theorem fieldsWhere_eq_nil : fieldsWhere test value fields = .ok [] ↔
    ∀ field ∈ fields, test (value field).1 (value field).2 = .ok false := by
  induction fields with
  | nil => simp [fieldsWhere, pure, Except.pure, bind, Except.bind]
  | cons field fields ih =>
    rw [fieldsWhere_cons, List.forall_mem_cons, ← ih]
    cases test (value field).1 (value field).2 with
    | error e => simp [bind, Except.bind]
    | ok found =>
      cases fieldsWhere test value fields with
      | error e => simp [bind, Except.bind]
      | ok rest => cases found <;> simp [bind, Except.bind, pure, Except.pure]

theorem succeeds_fieldsWhere : Succeeds (fieldsWhere test value fields) ↔
    ∀ field ∈ fields, Succeeds (test (value field).1 (value field).2) := by
  induction fields with
  | nil => simp [fieldsWhere, pure, Except.pure, bind, Except.bind]
  | cons field fields ih =>
    rw [fieldsWhere_cons, List.forall_mem_cons, ← ih]
    cases test (value field).1 (value field).2 with
    | error e => simp [bind, Except.bind]
    | ok found =>
      cases fieldsWhere test value fields with
      | error e => simp [bind, Except.bind]
      | ok rest => simp [bind, Except.bind, pure, Except.pure]

theorem differ_comm (x y : Json) : differ x y = differ y x := by
  unfold differ canonicalText
  cases x.canonical with
  | none => cases y.canonical <;> rfl
  | some s =>
    cases y.canonical with
    | none => rfl
    | some t => simp [orRaise, bind, Except.bind, pure, Except.pure, eq_comm]

theorem succeeds_differ : Succeeds (differ x y) ↔ x.canonical ≠ none ∧ y.canonical ≠ none := by
  unfold differ canonicalText
  cases x.canonical <;> cases y.canonical <;>
    simp [orRaise, bind, Except.bind, pure, Except.pure]

theorem differ_self (h : x.canonical ≠ none) : differ x x = .ok false := by
  obtain ⟨s, hs⟩ := Option.ne_none_iff_exists'.1 h
  simp [differ, canonicalText, hs, orRaise, bind, Except.bind, pure, Except.pure]

theorem mismatch_comm (x y : Json) : mismatch x y = mismatch y x := by
  unfold mismatch
  rw [differ_comm]
  exact if_congr or_comm rfl rfl

/-- Values for which two reports can be compared. -/
def Agree (x y : Json) : Prop := x ≠ .null ∧ y ≠ .null ∧ x.canonical ≠ none ∧
    x.canonical = y.canonical

theorem mismatch_eq_false : mismatch x y = .ok false ↔ Agree x y := by
  unfold mismatch Agree
  by_cases hx : x = .null
  · simp [hx]
  by_cases hy : y = .null
  · simp [hy]
  rw [if_neg (not_or.2 ⟨hx, hy⟩)]
  unfold differ canonicalText
  cases x.canonical <;> cases y.canonical <;>
    simp [hx, hy, orRaise, bind, Except.bind, pure, Except.pure]

theorem Agree.symm (h : Agree x y) : Agree y x :=
  ⟨h.2.1, h.1, h.2.2.2 ▸ h.2.2.1, h.2.2.2.symm⟩

theorem Agree.trans (h : Agree x y) (h' : Agree y z) : Agree x z :=
  ⟨h.1, h'.2.1, h.2.2.1, h.2.2.2.trans h'.2.2.2⟩

end

section

variable {a b c : NormalizedReport} {changes : List (String × Json × Json)}

structure Compatible (a b : NormalizedReport) : Prop where
  fields : ∀ field ∈ compatibilityFields,
    Agree (compatibilityValue a field) (compatibilityValue b field)
  cases : ∀ caseId, caseId ∈ a.cases.map Prod.fst ↔ caseId ∈ b.cases.map Prod.fst

theorem Compatible.symm (h : Compatible a b) : Compatible b a :=
  ⟨fun field hfield => (h.fields field hfield).symm, fun caseId => (h.cases caseId).symm⟩

theorem Compatible.trans (h : Compatible a b) (h' : Compatible b c) : Compatible a c :=
  ⟨fun field hfield => (h.fields field hfield).trans (h'.fields field hfield),
    fun caseId => (h.cases caseId).trans (h'.cases caseId)⟩

theorem mem_caseIds {caseId : String} : caseId ∈ caseIds a ↔ caseId ∈ a.cases.map Prod.fst :=
  List.mem_insertionSort (· ≤ ·)

theorem mismatches_eq_nil : mismatches a b = .ok [] ↔ Compatible a b := by
  have hcases : (caseIds a ⊆ caseIds b ∧ caseIds b ⊆ caseIds a) ↔
      ∀ caseId, caseId ∈ a.cases.map Prod.fst ↔ caseId ∈ b.cases.map Prod.fst := by
    constructor
    · rintro ⟨hsub, hsub'⟩ caseId
      rw [← mem_caseIds, ← mem_caseIds]
      exact ⟨fun h => hsub h, fun h => hsub' h⟩
    · intro hall
      constructor
      · intro caseId h
        rw [mem_caseIds] at h ⊢
        exact (hall caseId).1 h
      · intro caseId h
        rw [mem_caseIds] at h ⊢
        exact (hall caseId).2 h
  unfold mismatches
  rw [bind_eq_ok]
  constructor
  · rintro ⟨fields, hfields, h⟩
    obtain ⟨rfl, hids⟩ := List.append_eq_nil_iff.1 (Except.ok.inj h)
    split at hids
    · next hsame =>
      exact ⟨fun field hfield => mismatch_eq_false.1 (fieldsWhere_eq_nil.1 hfields field hfield),
        hcases.1 hsame⟩
    · cases hids
  · intro h
    refine ⟨[], fieldsWhere_eq_nil.2 fun field hfield =>
      mismatch_eq_false.2 (h.fields field hfield), ?_⟩
    rw [if_pos (hcases.2 h.cases)]
    rfl

theorem mismatches_swap : mismatches b a = (mismatches a b).map (List.map swapChange) := by
  have hfields := @fieldsWhere_swap mismatch
    (fun field => (compatibilityValue a field, compatibilityValue b field)) compatibilityFields
    mismatch_comm
  unfold mismatches
  simp only [Prod.swap_prod_mk] at hfields
  rw [hfields]
  cases fieldsWhere mismatch (fun field => (compatibilityValue a field, compatibilityValue b field))
      compatibilityFields with
  | error e => rfl
  | ok found =>
    by_cases hsame : caseIds a ⊆ caseIds b ∧ caseIds b ⊆ caseIds a
    · simp [Except.map, bind, Except.bind, pure, Except.pure, hsame]
    · have hsame' : ¬ (caseIds b ⊆ caseIds a ∧ caseIds a ⊆ caseIds b) := fun h => hsame h.symm
      simp only [Except.map, bind, Except.bind, pure, Except.pure, if_neg hsame, if_neg hsame',
        List.map_append]
      rfl

theorem versionChanges_swap : versionChanges b a =
    (versionChanges a b).map (List.map swapChange) :=
  @fieldsWhere_swap differ
    (fun field => (Json.get a.metadata field, Json.get b.metadata field)) changeFields differ_comm

theorem succeeds_versionChanges : Succeeds (versionChanges a b) ↔
    ∀ field ∈ changeFields, (Json.get a.metadata field).canonical ≠ none ∧
      (Json.get b.metadata field).canonical ≠ none := by
  unfold versionChanges
  rw [succeeds_fieldsWhere]
  simp only [succeeds_differ]

theorem caseIds_eq (h : Compatible a b) (ha : (a.cases.map Prod.fst).Nodup)
    (hb : (b.cases.map Prod.fst).Nodup) : caseIds a = caseIds b := by
  have hperm : (a.cases.map Prod.fst).Perm (b.cases.map Prod.fst) :=
    (List.perm_ext_iff_of_nodup ha hb).2 h.cases
  exact List.Perm.eq_of_pairwise (fun _ _ _ _ => le_antisymm) (List.pairwise_insertionSort _ _)
    (List.pairwise_insertionSort _ _)
    (((List.perm_insertionSort _ _).trans hperm).trans (List.perm_insertionSort _ _).symm)

end

def Verdict.swap : Verdict → Verdict
  | .improved => .regressed
  | .regressed => .improved
  | .unchanged => .unchanged

@[simp] theorem Verdict.swap_eq {v w : Verdict} : v.swap = w ↔ v = w.swap := by
  cases v <;> cases w <;> decide

def CaseComparison.swap (c : CaseComparison) : CaseComparison where
  caseId := c.caseId
  verdict := c.verdict.swap
  baseline := c.candidate
  candidate := c.baseline
  passRateDelta := -c.passRateDelta
  stabilityChanged := c.stabilityChanged
  signaturesComparable := c.signaturesComparable
  signaturesAdded := c.signaturesRemoved
  signaturesRemoved := c.signaturesAdded
  countChanges := c.countChanges.map fun e => (e.1, e.2.swap)
  infrastructureError := 0 < c.baseline.statusCounts .error
  timeout := 0 < c.baseline.statusCounts .timeout

/-- Two reports compared the other way. -/
def Comparison.swap (c : Comparison) : Comparison :=
  .ofCases (c.versionChanges.map swapChange) (c.cases.map CaseComparison.swap)

def Failure.swap : Failure → Failure
  | .incompatible found => .incompatible (found.map swapChange)
  | e => e

section

variable {test : Json → Json → Except Failure Bool} {value : String → Json × Json}
  {fields : List String} {x y : Json} {a b : NormalizedReport} {e : Failure}

theorem differ_error (h : differ x y = .error e) : e.swap = e := by
  rcases bind_eq_error.1 h with h | ⟨s, -, h⟩
  · obtain ⟨-, rfl⟩ := orRaise_eq_error.1 h
    rfl
  · rcases bind_eq_error.1 h with h | ⟨t, -, h⟩
    · obtain ⟨-, rfl⟩ := orRaise_eq_error.1 h
      rfl
    · cases h

theorem mismatch_error (h : mismatch x y = .error e) : e.swap = e := by
  unfold mismatch at h
  split at h
  · cases h
  · exact differ_error h

theorem fieldsWhere_error (htest : ∀ x y, test x y = .error e → e.swap = e)
    (h : fieldsWhere test value fields = .error e) : e.swap = e := by
  induction fields with
  | nil => cases h
  | cons field fields ih =>
    rw [fieldsWhere_cons] at h
    rcases bind_eq_error.1 h with h | ⟨found, -, h⟩
    · exact htest _ _ h
    · rcases bind_eq_error.1 h with h | ⟨rest, -, h⟩
      · exact ih h
      · cases h

theorem mismatches_error (h : mismatches a b = .error e) : e.swap = e := by
  rcases bind_eq_error.1 h with h | ⟨found, -, h⟩
  · exact fieldsWhere_error (fun _ _ => mismatch_error) h
  · cases h

theorem versionChanges_error (h : versionChanges a b = .error e) : e.swap = e :=
  fieldsWhere_error (fun _ _ => differ_error) h

end

section

variable {a b : NormalizedReport} {s t : NormalizedCaseSummary}

/-- The signatures of two cases in order. -/
theorem sorted_signatures_comm (l l' : List String) :
    (l ++ l').dedup.insertionSort (· ≤ ·) = (l' ++ l).dedup.insertionSort (· ≤ ·) := by
  have hperm : (l ++ l').dedup.Perm (l' ++ l).dedup := List.perm_append_comm.dedup
  exact List.Perm.eq_of_pairwise (fun _ _ _ _ => le_antisymm) (List.pairwise_insertionSort _ _)
    (List.pairwise_insertionSort _ _)
    (((List.perm_insertionSort _ _).trans hperm).trans (List.perm_insertionSort _ _).symm)

theorem compareCase_swap (caseId : String) :
    (compareCase caseId s t).swap = compareCase caseId t s := by
  have hcomparable : (signaturesOf t ≠ [] ∧ signaturesOf s ≠ [] ∧ usesLegacy t ≠ usesLegacy s) ↔
      (signaturesOf s ≠ [] ∧ signaturesOf t ≠ [] ∧ usesLegacy s ≠ usesLegacy t) := by
    rw [and_left_comm, ne_comm (a := usesLegacy t)]
  have hverdict : (compareCase caseId s t).verdict.swap = (compareCase caseId t s).verdict := by
    unfold compareCase
    dsimp only
    rcases lt_trichotomy s.passRate t.passRate with h | h | h
    · rw [if_pos h, if_neg h.not_gt, if_pos h]
      rfl
    · rw [h, if_neg (lt_irrefl _), if_neg (lt_irrefl _)]
      rfl
    · rw [if_neg h.not_gt, if_pos h, if_pos h]
      rfl
  have hdelta : -roundRat (t.passRate - s.passRate) = roundRat (s.passRate - t.passRate) := by
    rw [← roundRat_neg, neg_sub]
  have hcounts : (((signaturesOf s ++ signaturesOf t).dedup.insertionSort (· ≤ ·)).filter fun x =>
      occurrences s x ≠ occurrences t x).map (fun x => (x, occurrences t x, occurrences s x)) =
      (((signaturesOf t ++ signaturesOf s).dedup.insertionSort (· ≤ ·)).filter fun x =>
        occurrences t x ≠ occurrences s x).map fun x => (x, occurrences t x, occurrences s x) := by
    rw [sorted_signatures_comm]
    simp only [ne_comm]
  unfold CaseComparison.swap
  rw [hverdict]
  unfold compareCase
  simp only [hcomparable, hdelta, ne_comm (a := t.stabilityStatus), CaseComparison.mk.injEq,
    true_and, and_true]
  split
  · simp only [List.map_map, Function.comp_def, Prod.swap_prod_mk]
    exact hcounts
  · rfl

theorem compareCases_swap (h : caseIds a = caseIds b) :
    compareCases b a = (compareCases a b).map CaseComparison.swap := by
  unfold compareCases
  rw [List.map_filterMap, h]
  refine List.filterMap_congr fun caseId _ => ?_
  cases a.cases.lookup caseId with
  | none => cases b.cases.lookup caseId <;> rfl
  | some s =>
    cases b.cases.lookup caseId with
    | none => rfl
    | some t => exact congrArg some (compareCase_swap caseId).symm

end

section

variable {texts : Texts} {a b c : Json} {x y : NormalizedReport} {r r' : Comparison}

theorem compareReports_of_read (ha : normalizeReport texts a = .ok x)
    (hb : normalizeReport texts b = .ok y) : compareReports texts a b = do
      let found ← mismatches x y
      raiseIf (found ≠ []) (.incompatible found)
      let changes ← versionChanges x y
      return .ofCases changes (compareCases x y) := by
  unfold compareReports
  rw [ha, hb]
  rfl

theorem compareReports_eq_ok : compareReports texts a b = .ok r ↔ ∃ x y changes,
    normalizeReport texts a = .ok x ∧ normalizeReport texts b = .ok y ∧ Compatible x y ∧
      versionChanges x y = .ok changes ∧ r = .ofCases changes (compareCases x y) := by
  constructor
  · intro h
    obtain ⟨x, hx, h⟩ := bind_eq_ok.1 h
    obtain ⟨y, hy, h⟩ := bind_eq_ok.1 h
    obtain ⟨found, hfound, h⟩ := bind_eq_ok.1 h
    obtain ⟨hnone, h⟩ := unit_bind_eq_ok.1 h
    obtain ⟨changes, hchanges, h⟩ := bind_eq_ok.1 h
    have hnil : found = [] := not_not.1 (raiseIf_eq_ok.1 hnone)
    exact ⟨x, y, changes, hx, hy, mismatches_eq_nil.1 (hfound.trans (congrArg _ hnil)), hchanges,
      (Except.ok.inj h).symm⟩
  · rintro ⟨x, y, changes, hx, hy, hcompatible, hchanges, rfl⟩
    rw [compareReports_of_read hx hy, mismatches_eq_nil.2 hcompatible, hchanges]
    rfl

/-- Two reports that are read are compared the other way with their verdicts and changes
exchanged, and are rejected for the same fields the other way. -/
theorem compareReports_swap (ha : normalizeReport texts a = .ok x)
    (hb : normalizeReport texts b = .ok y) :
    (∀ r, compareReports texts a b = .ok r → compareReports texts b a = .ok r.swap) ∧
      ∀ e, compareReports texts a b = .error e → compareReports texts b a = .error e.swap := by
  constructor
  · intro r h
    obtain ⟨x', y', changes, hx, hy, hcompatible, hchanges, rfl⟩ := compareReports_eq_ok.1 h
    obtain rfl := Except.ok.inj (ha.symm.trans hx)
    obtain rfl := Except.ok.inj (hb.symm.trans hy)
    have hids := caseIds_eq hcompatible (nodup_cases ha) (nodup_cases hb)
    refine compareReports_eq_ok.2 ⟨y, x, changes.map swapChange, hb, ha, hcompatible.symm, ?_, ?_⟩
    · rw [versionChanges_swap, hchanges]
      rfl
    · rw [compareCases_swap hids]
      rfl
  · intro e h
    rw [compareReports_of_read ha hb] at h
    rw [compareReports_of_read hb ha, mismatches_swap, versionChanges_swap]
    rcases bind_eq_error.1 h with hmismatches | ⟨found, hfound, hrest⟩
    · rw [hmismatches, mismatches_error hmismatches]
      rfl
    · rw [hfound]
      change (raiseIf (found.map swapChange ≠ []) _ >>= _) = _
      rcases bind_eq_error.1 hrest with hraise | ⟨_, hnone, hversions⟩
      · obtain ⟨hne, rfl⟩ := raiseIf_eq_error.1 hraise
        rw [raiseIf, if_pos fun hnil => hne (List.map_eq_nil_iff.1 hnil)]
        rfl
      · have hnil : found = [] := not_not.1 (raiseIf_eq_ok.1 hnone)
        rw [raiseIf, if_neg (not_not.2 (List.map_eq_nil_iff.2 hnil))]
        rcases bind_eq_error.1 hversions with hchanges | ⟨changes, -, hreturn⟩
        · rw [hchanges, versionChanges_error hchanges]
          rfl
        · cases hreturn

theorem mem_compareCases {d : CaseComparison} : d ∈ compareCases x y ↔
    ∃ caseId s t, x.cases.lookup caseId = some s ∧ y.cases.lookup caseId = some t ∧
      d = compareCase caseId s t := by
  unfold compareCases
  rw [List.mem_filterMap]
  constructor
  · rintro ⟨caseId, -, h⟩
    cases hs : x.cases.lookup caseId with
    | none => simp [hs] at h
    | some s =>
      cases ht : y.cases.lookup caseId with
      | none => simp [hs, ht] at h
      | some t =>
        simp only [hs, ht] at h
        exact ⟨caseId, s, t, hs, ht, (Option.some.inj h).symm⟩
  · rintro ⟨caseId, s, t, hs, ht, rfl⟩
    have hmem : caseId ∈ caseIds x :=
      mem_caseIds.2 (List.mem_map.2 ⟨(caseId, s), mem_of_lookup hs, rfl⟩)
    refine ⟨caseId, hmem, ?_⟩
    rw [hs, ht]
    rfl

theorem mem_regressedCases {changes : List (String × Json × Json)} {caseId : String} :
    caseId ∈ (Comparison.ofCases changes (compareCases x y)).regressedCases ↔
      ∃ s t, x.cases.lookup caseId = some s ∧ y.cases.lookup caseId = some t ∧
        t.passRate < s.passRate := by
  have hverdict : ∀ s t, (compareCase caseId s t).verdict = .regressed ↔
      t.passRate < s.passRate := by
    intro s t
    unfold compareCase
    dsimp only
    rcases lt_trichotomy s.passRate t.passRate with h | h | h
    · simp [h, h.not_gt]
    · simp [h]
    · simp [h, h.not_gt]
  unfold Comparison.ofCases
  simp only [List.mem_map, List.mem_filter, mem_compareCases, decide_eq_true_eq]
  constructor
  · rintro ⟨_, ⟨⟨caseId, s, t, hs, ht, rfl⟩, h⟩, rfl⟩
    exact ⟨s, t, hs, ht, (hverdict s t).1 h⟩
  · rintro ⟨s, t, hs, ht, h⟩
    exact ⟨_, ⟨⟨caseId, s, t, hs, ht, rfl⟩, (hverdict s t).2 h⟩, rfl⟩

/-- The cases of which the candidate has a property. -/
theorem map_caseId_filter {p : CaseComparison → Bool} {q : NormalizedCaseSummary → Bool}
    (hpq : ∀ caseId s t, p (compareCase caseId s t) = q t) :
    ((compareCases x y).filter p).map CaseComparison.caseId =
      (caseIds x).filter fun caseId => (y.cases.lookup caseId).any q := by
  unfold compareCases
  rw [List.filter_filterMap, List.map_filterMap, ← List.filterMap_eq_filter]
  refine List.filterMap_congr fun caseId h => ?_
  obtain ⟨s, hs⟩ := exists_lookup (mem_caseIds.1 h)
  change _ = if (y.cases.lookup caseId).any q then some caseId else none
  rw [hs]
  cases y.cases.lookup caseId with
  | none => rfl
  | some t =>
    change ((some (compareCase caseId s t)).filter p).map _ = if q t then _ else _
    rw [Option.filter_some, hpq]
    by_cases hq : q t = true
    · rw [if_pos hq, if_pos hq]
      rfl
    · rw [if_neg hq, if_neg hq]
      rfl

theorem hasBehaviorRegression_ofCases {changes : List (String × Json × Json)}
    {cases : List CaseComparison} :
    (Comparison.ofCases changes cases).hasBehaviorRegression = true ↔
      (Comparison.ofCases changes cases).regressedCases ≠ [] ∨
        (Comparison.ofCases changes cases).candidateTimeoutCases ≠ [] :=
  decide_eq_true_iff

theorem hasInfrastructureError_ofCases {changes : List (String × Json × Json)}
    {cases : List CaseComparison} :
    (Comparison.ofCases changes cases).hasInfrastructureError = true ↔
      (Comparison.ofCases changes cases).candidateErrorCases ≠ [] :=
  decide_eq_true_iff

theorem candidateTimeoutCases_eq (changes : List (String × Json × Json)) :
    (Comparison.ofCases changes (compareCases x y)).candidateTimeoutCases =
      (caseIds x).filter fun caseId =>
        (y.cases.lookup caseId).any fun s => decide (0 < s.statusCounts .timeout) :=
  map_caseId_filter fun _ _ _ => rfl

theorem candidateErrorCases_eq (changes : List (String × Json × Json)) :
    (Comparison.ofCases changes (compareCases x y)).candidateErrorCases =
      (caseIds x).filter fun caseId =>
        (y.cases.lookup caseId).any fun s => decide (0 < s.statusCounts .error) :=
  map_caseId_filter fun _ _ _ => rfl

/-- A candidate that regresses from the baseline regresses from a report between the two, or that
report regresses from the baseline. The cases with errors and timeouts are those of the
candidate. -/
theorem compareReports_trans (hab : compareReports texts a b = .ok r)
    (hbc : compareReports texts b c = .ok r') : ∃ r'', compareReports texts a c = .ok r'' ∧
      (∀ caseId ∈ r''.regressedCases, caseId ∈ r.regressedCases ∨ caseId ∈ r'.regressedCases) ∧
      r''.candidateTimeoutCases = r'.candidateTimeoutCases ∧
      r''.candidateErrorCases = r'.candidateErrorCases := by
  obtain ⟨x, y, changes, hx, hy, hxy, hchanges, rfl⟩ := compareReports_eq_ok.1 hab
  obtain ⟨y', z, changes', hy', hz, hyz, hchanges', rfl⟩ := compareReports_eq_ok.1 hbc
  obtain rfl := Except.ok.inj (hy.symm.trans hy')
  have hids := caseIds_eq hxy (nodup_cases hx) (nodup_cases hy)
  obtain ⟨changes'', hchanges''⟩ : Succeeds (versionChanges x z) :=
    succeeds_versionChanges.2 fun field hfield =>
      ⟨(succeeds_versionChanges.1 ⟨_, hchanges⟩ field hfield).1,
        (succeeds_versionChanges.1 ⟨_, hchanges'⟩ field hfield).2⟩
  refine ⟨_, compareReports_eq_ok.2 ⟨x, z, changes'', hx, hz, hxy.trans hyz, hchanges'', rfl⟩,
    ?_, ?_, ?_⟩
  · intro caseId h
    obtain ⟨s, u, hs, hu, hlt⟩ := mem_regressedCases.1 h
    obtain ⟨t, ht⟩ := exists_lookup
      ((hxy.cases caseId).1 (List.mem_map.2 ⟨(caseId, s), mem_of_lookup hs, rfl⟩))
    rcases lt_or_ge t.passRate s.passRate with h | h
    · exact .inl (mem_regressedCases.2 ⟨s, t, hs, ht, h⟩)
    · exact .inr (mem_regressedCases.2 ⟨t, u, ht, hu, hlt.trans_le h⟩)
  · rw [candidateTimeoutCases_eq, candidateTimeoutCases_eq, hids]
  · rw [candidateErrorCases_eq, candidateErrorCases_eq, hids]

end

end DataJuicer.Evaluation
