import DataJuicer.TrainingWorker.Acceptance

/-! # GPU metrics

A metric of the GPUs is accepted when the identities, the indexes and the utilizations that the
collector has found are those that the centre expects, and the steps of the run can be stored.
-/

namespace DataJuicer.TrainingWorker

open Transaction Training

/-- `_SAFE_REF` of the worker, which is wider than the one of the centre. -/
def WorkerRef (s : String) : Prop :=
  s ≠ "" ∧ s.toList.length ≤ 255 ∧ ∀ c ∈ s.toList, RefChar c

/-- The GPUs that a start action names. -/
structure GpuSelection where
  uuids : List String
  count : uuids.length ≤ 8
  refs : ∀ uuid ∈ uuids, WorkerRef uuid

/-- The centre takes the sample. -/
def GpuFits (g : GpuSample) : Prop :=
  SafeRef g.uuid ∧ 0 ≤ g.index ∧ ∀ v ∈ g.utilizationPercent.value, 0 ≤ v ∧ v ≤ 100

instance : DecidablePred GpuFits := fun _ => by
  unfold GpuFits
  infer_instance

/-- The collector samples each GPU of the run once and as the centre expects. -/
def GpusFit (requested : List String) (found : List GpuSample) : Prop :=
  ((requestedGpus requested found).map GpuSample.uuid).Nodup ∧
    ∀ g ∈ requestedGpus requested found, GpuFits g

instance (requested : List String) (found : List GpuSample) :
    Decidable (GpusFit requested found) :=
  have := List.decidableBAll GpuFits (requestedGpus requested found)
  inferInstanceAs (Decidable (_ ∧ _))

section

variable {p : FloatRepr} {g : GpuSample} {gs : List GpuSample} {seen : List String}

theorem get_finiteEntry (key : String) (x : PyFloat) :
    Json.get (finiteEntry key x) key = if x.value ≠ none then .float x else .null := by
  unfold finiteEntry
  split <;> simp [Json.get_cons]

theorem names_finiteEntry (key : String) (x : PyFloat) :
    ∀ k ∈ (finiteEntry key x).map Prod.fst, k = key := by
  unfold finiteEntry
  split <;> simp

theorem names_memoryEntry (p : FloatRepr) (n : ℤ) :
    ∀ k ∈ (memoryEntry p n).map Prod.fst, k = "gpu_memory_mib" := by
  unfold memoryEntry
  split <;> simp

theorem names_fields (p : FloatRepr) (g : GpuSample) : ∀ e ∈ g.fields p,
    e.1 ∈ ["uuid", "index", "utilization_percent", "gpu_memory_mib", "temperature_celsius"] := by
  intro e he
  have hname : e.1 ∈ (g.fields p).map Prod.fst := List.mem_map_of_mem he
  unfold GpuSample.fields at hname
  simp only [List.map_append, List.mem_append] at hname
  rcases hname with hname | hname | hname | hname
  · simp only [List.map_cons, List.map_nil, List.mem_cons, List.not_mem_nil, or_false] at hname
    rcases hname with h | h <;> simp [h]
  · simp [names_finiteEntry _ _ _ hname]
  · simp [names_memoryEntry _ _ _ hname]
  · simp [names_finiteEntry _ _ _ hname]

theorem get_uuid_fields : Json.get (g.fields p) "uuid" = .str g.uuid := rfl

theorem get_index_fields : Json.get (g.fields p) "index" = .int g.index := rfl

theorem get_utilization_fields : Json.get (g.fields p) "utilization_percent" =
    if g.utilizationPercent.value ≠ none then .float g.utilizationPercent else .null := by
  have hmemory := names_memoryEntry p g.memoryUsedBytes "utilization_percent"
  have htemperature := names_finiteEntry "temperature_celsius" g.temperatureCelsius
    "utilization_percent"
  have hrest : Json.get (memoryEntry p g.memoryUsedBytes ++
      finiteEntry "temperature_celsius" g.temperatureCelsius) "utilization_percent" = .null := by
    refine get_of_notMem ?_
    rw [List.map_append, List.mem_append, not_or]
    exact ⟨fun h => absurd (hmemory h) (by decide), fun h => absurd (htemperature h) (by decide)⟩
  unfold GpuSample.fields
  rw [get_append, if_neg (by simp), get_append, hrest]
  split
  · exact get_finiteEntry _ _
  · next hnone =>
    unfold finiteEntry at hnone
    split at hnone
    · simp at hnone
    · next hvalue => rw [if_neg hvalue]

theorem get_memory_fields : Json.get (g.fields p) "gpu_memory_mib" =
    Json.get (memoryEntry p g.memoryUsedBytes) "gpu_memory_mib" := by
  have hutilization := names_finiteEntry "utilization_percent" g.utilizationPercent
    "gpu_memory_mib"
  have htemperature := names_finiteEntry "temperature_celsius" g.temperatureCelsius
    "gpu_memory_mib"
  unfold GpuSample.fields
  rw [get_append, if_neg (by simp), get_append,
    if_neg fun h => absurd (hutilization h) (by decide), get_append]
  split
  · rfl
  · next hnone =>
    rw [get_of_notMem hnone, get_of_notMem fun h => absurd (htemperature h) (by decide)]

theorem get_temperature_fields : Json.get (g.fields p) "temperature_celsius" =
    Json.get (finiteEntry "temperature_celsius" g.temperatureCelsius) "temperature_celsius" := by
  have hutilization := names_finiteEntry "utilization_percent" g.utilizationPercent
    "temperature_celsius"
  have hmemory := names_memoryEntry p g.memoryUsedBytes "temperature_celsius"
  unfold GpuSample.fields
  rw [get_append, if_neg (by simp), get_append,
    if_neg fun h => absurd (hutilization h) (by decide), get_append,
    if_neg fun h => absurd (hmemory h) (by decide)]

theorem finiteField_finite (x : PyFloat) :
    FiniteField (if x.value ≠ none then .float x else .null) := by
  split
  · next h => exact h
  · trivial

theorem finiteField_memory (p : FloatRepr) (n : ℤ) :
    FiniteField (.get (memoryEntry p n) "gpu_memory_mib") := by
  unfold memoryEntry
  split
  · exact fun h => nomatch h
  · trivial

/-- The memory in use is shown without a sign. -/
theorem withinField_memory (p : FloatRepr) (n : ℤ) :
    WithinField 0 none (.get (memoryEntry p n) "gpu_memory_mib") := by
  unfold memoryEntry
  split
  · next hn =>
    rintro _ ⟨⟩
    refine ⟨roundRat_nonneg ?_, nofun⟩
    exact div_nonneg (Int.cast_nonneg hn) (by norm_num)
  · trivial

theorem finiteField_fields (key : String)
    (h : key ∈ ["utilization_percent", "gpu_memory_mib", "temperature_celsius"]) :
    FiniteField (.get (g.fields p) key) := by
  simp only [List.mem_cons, List.not_mem_nil, or_false] at h
  rcases h with rfl | rfl | rfl
  · rw [get_utilization_fields]
    exact finiteField_finite _
  · rw [get_memory_fields]
    exact finiteField_memory _ _
  · rw [get_temperature_fields, get_finiteEntry]
    exact finiteField_finite _

theorem withinField_utilization : WithinField 0 (some 100)
      (.get (g.fields p) "utilization_percent") ↔
    ∀ v ∈ g.utilizationPercent.value, 0 ≤ v ∧ v ≤ 100 := by
  rw [get_utilization_fields]
  split
  · simp [WithinField]
  · next h =>
    rw [not_not.1 h]
    simp [WithinField]

theorem validateGpu_eq_ok {seen' : List String} :
    validateGpu seen (.obj (g.fields p)) = .ok seen' ↔
      (GpuFits g ∧ g.uuid ∉ seen) ∧ seen' = g.uuid :: seen := by
  have hnames : ¬ ∃ e ∈ g.fields p, e.1 ∉ ["uuid", "index", "utilization_percent",
      "gpu_memory_mib", "temperature_celsius"] := by
    rintro ⟨e, he, hnot⟩
    exact hnot (names_fields p g e he)
  have hfinite : ¬ ∃ field ∈ ["utilization_percent", "gpu_memory_mib", "temperature_celsius"],
      ¬ FiniteField (.get (g.fields p) field) := by
    rintro ⟨field, hfield, hnot⟩
    exact hnot (finiteField_fields field hfield)
  have hmemory : WithinField 0 none (.get (g.fields p) "gpu_memory_mib") := by
    rw [get_memory_fields]
    exact withinField_memory _ _
  by_cases hidentity : ¬ SafeRef g.uuid ∨ g.uuid ∈ seen ∨ g.index < 0
  · refine iff_of_false ?_ ?_
    · simp [validateGpu, bind_eq_ok, raiseIf_eq_ok, get_uuid_fields, get_index_fields, hidentity]
    · rintro ⟨⟨hfits, hnew⟩, -⟩
      rcases hidentity with hsafe | hseen | hindex
      · exact hsafe hfits.1
      · exact hnew hseen
      · exact absurd hfits.2.1 (not_le.2 hindex)
  · simp only [validateGpu, bind_eq_ok, raiseIf_eq_ok, get_uuid_fields, get_index_fields,
      if_neg hidentity]
    simp only [not_or, not_not, not_lt] at hidentity
    constructor
    · rintro ⟨_, -, _, ⟨⟩, _, -, _, hutilization, _, -, hseen⟩
      have hutilization := withinField_utilization.1 (not_not.1 hutilization)
      exact ⟨⟨⟨hidentity.1, hidentity.2.2, hutilization⟩, hidentity.2.1⟩,
        (Except.ok.inj hseen).symm⟩
    · rintro ⟨⟨⟨-, -, hutilization⟩, -⟩, rfl⟩
      exact ⟨⟨⟩, hnames, _, rfl, ⟨⟩, hfinite, ⟨⟩,
        not_not.2 (withinField_utilization.2 hutilization), ⟨⟩, not_not.2 hmemory, rfl⟩

theorem succeeds_validateGpus_iff :
    Succeeds (validateGpus seen (gs.map fun g => .obj (g.fields p))) ↔
      (∀ g ∈ gs, GpuFits g ∧ g.uuid ∉ seen) ∧ (gs.map GpuSample.uuid).Nodup := by
  induction gs generalizing seen with
  | nil => simp [validateGpus]
  | cons g gs ih =>
    rw [List.map_cons, validateGpus, succeeds_bind, List.forall_mem_cons, List.map_cons,
      List.nodup_cons]
    constructor
    · rintro ⟨seen', hg, hgs⟩
      obtain ⟨hfits, rfl⟩ := validateGpu_eq_ok.1 hg
      obtain ⟨hall, hnodup⟩ := ih.1 hgs
      refine ⟨⟨hfits, fun g' hg' => ⟨(hall g' hg').1, fun hs => (hall g' hg').2 (.tail _ hs)⟩⟩,
        fun hmem => ?_, hnodup⟩
      obtain ⟨g', hg', he⟩ := List.mem_map.1 hmem
      exact (hall g' hg').2 (he ▸ List.mem_cons_self)
    · rintro ⟨⟨hfits, hall⟩, hnew, hnodup⟩
      refine ⟨_, validateGpu_eq_ok.2 ⟨hfits, rfl⟩, ih.2 ⟨fun g' hg' => ⟨(hall g' hg').1, ?_⟩,
        hnodup⟩⟩
      rw [List.mem_cons, not_or]
      exact ⟨fun he => hnew (he ▸ List.mem_map_of_mem hg'), (hall g' hg').2⟩

theorem size_finiteEntry (key : String) (x : PyFloat) (hkey : Json.stringSize key ≤ 30) :
    Json.entriesSize (finiteEntry key x) ≤ 60 := by
  have hrepr := x.repr_size
  unfold finiteEntry
  split
  · simp only [Json.entriesSize, Json.encodedSize]
    omega
  · simp [Json.entriesSize]

theorem size_memoryEntry (p : FloatRepr) (n : ℤ) : Json.entriesSize (memoryEntry p n) ≤ 60 := by
  have hkey : Json.stringSize "gpu_memory_mib" = 16 := by decide
  unfold memoryEntry
  split
  · have hrepr := (p.float (roundRat (n / (1024 * 1024)))).repr_size
    simp only [Json.entriesSize, Json.encodedSize, hkey]
    omega
  · simp [Json.entriesSize]

theorem length_fields (p : FloatRepr) (g : GpuSample) : (g.fields p).length ≤ 5 := by
  unfold GpuSample.fields finiteEntry memoryEntry
  split_ifs <;> simp

theorem size_fields (hsafe : WorkerRef g.uuid) :
    Json.encodedSize (.obj (g.fields p)) ≤ 12000 := by
  obtain ⟨-, hlen, -⟩ := hsafe
  have huuid := Json.stringSize_le_length g.uuid
  have hindex := Json.intSize_le (by decide) g.index_digits
  have hutilization := size_finiteEntry "utilization_percent" g.utilizationPercent (by decide)
  have hmemory := size_memoryEntry p g.memoryUsedBytes
  have htemperature := size_finiteEntry "temperature_celsius" g.temperatureCelsius (by decide)
  have hlength := length_fields p g
  have h₁ : Json.stringSize "uuid" = 6 := by decide
  have h₂ : Json.stringSize "index" = 7 := by decide
  have hentries : Json.entriesSize (g.fields p) ≤ 11000 := by
    unfold GpuSample.fields
    simp only [Json.entriesSize_append, Json.entriesSize, Json.encodedSize, h₁, h₂]
    omega
  simp only [Json.encodedSize]
  omega

theorem itemsSize_le {items : List Json} {k : ℕ} (h : ∀ v ∈ items, Json.encodedSize v ≤ k) :
    Json.itemsSize items ≤ k * items.length := by
  induction items with
  | nil => simp [Json.itemsSize]
  | cons v items ih =>
    rw [List.forall_mem_cons] at h
    have htail := ih h.2
    simp only [Json.itemsSize, List.length_cons, Nat.mul_succ]
    omega

end

variable {now : Timestamp} {db : Database} {run : RunRow} {stage : StageRow}
  {w : WorkerCredential} {drawn : ℕ → NewRefs} {p : FloatRepr} {gs : List GpuSample}

theorem length_requestedGpus {selection : GpuSelection} {found : List GpuSample}
    (h : ((requestedGpus selection.uuids found).map GpuSample.uuid).Nodup) :
    (requestedGpus selection.uuids found).length ≤ 8 := by
  have hsub : (requestedGpus selection.uuids found).map GpuSample.uuid ⊆ selection.uuids := by
    intro uuid hu
    obtain ⟨g, hg, rfl⟩ := List.mem_map.1 hu
    simpa using (List.mem_filter.1 hg).2
  have hlen := (h.subperm hsub).length_le
  rw [List.length_map] at hlen
  exact hlen.trans selection.count

/-- The centre takes the samples, and can store the steps of the run again. -/
def GpuUpdatesFit (now : Timestamp) (db : Database) (run : RunRow) (stage : StageRow)
    (requested : List String) (found : List GpuSample) : Prop :=
  requestedGpus requested found ≠ [] →
    GpusFit requested found ∧ MetricFits now db run stage none none

theorem succeeds_validateMetric_gpus {ref : String} :
    Succeeds (validateMetric (payloadHead "metric" (some ref) ++
      [("gpus", Json.arr (gs.map fun g => .obj (g.fields p)))])) ↔
        gs.length ≤ 8 ∧ (∀ g ∈ gs, GpuFits g) ∧ (gs.map GpuSample.uuid).Nodup := by
  have hnumbers : ∀ key ∈ metricFields, Json.get (payloadHead "metric" (some ref) ++
      [("gpus", Json.arr (gs.map fun g => .obj (g.fields p)))]) key = .null := by
    intro key hkey
    refine get_of_notMem ?_
    simp only [metricFields, List.mem_cons, List.not_mem_nil, or_false] at hkey
    rcases hkey with rfl | rfl | rfl | rfl | rfl | rfl | rfl <;> simp [payloadHead]
  have hgpus : Succeeds (validateGpus [] (gs.map fun g => .obj (g.fields p))) ↔
      (∀ g ∈ gs, GpuFits g ∧ g.uuid ∉ []) ∧ (gs.map GpuSample.uuid).Nodup :=
    succeeds_validateGpus_iff
  have hlookup : (payloadHead "metric" (some ref) ++
      [("gpus", Json.arr (gs.map fun g => .obj (g.fields p)))]).lookup "gpus" =
        some (Json.arr (gs.map fun g => .obj (g.fields p))) := rfl
  unfold validateMetric
  rw [succeeds_raiseIf_bind, succeeds_raiseIf_bind, hlookup]
  dsimp only [Option.getD_some]
  rw [succeeds_raiseIf_bind, hgpus, List.length_map, not_lt]
  simp only [List.not_mem_nil, not_false_iff, and_true]
  constructor
  · exact fun h => h.2.2
  · refine fun h => ⟨?_, ?_, h⟩
    · rintro ⟨key, hkey, hnot⟩
      rw [hnumbers key hkey] at hnot
      exact hnot trivial
    · rintro ⟨key, hkey, hnot⟩
      have hmem : key ∈ metricFields := by
        simp only [List.mem_cons, List.not_mem_nil, or_false] at hkey
        rcases hkey with rfl | rfl <;> decide
      rw [hnumbers key hmem] at hnot
      exact hnot trivial

theorem accepted_gpuUpdates_iff (h : Delivering w drawn db run stage) (selection : GpuSelection)
    (found : List GpuSample) :
    (∀ d ∈ gpuUpdates p stage.stageRef selection.uuids found, Accepted now w drawn run db d) ↔
      GpuUpdatesFit now db run stage selection.uuids found := by
  have hgpus : ((requestedGpus selection.uuids found).map GpuSample.uuid).Nodup →
      (requestedGpus selection.uuids found).length ≤ 8 := length_requestedGpus
  have hrefs : ∀ g ∈ requestedGpus selection.uuids found, WorkerRef g.uuid := fun g hg =>
    selection.refs _ (by simpa using (List.mem_filter.1 hg).2)
  unfold gpuUpdates gpuSamples GpuUpdatesFit GpusFit
  generalize requestedGpus selection.uuids found = gs at hgpus hrefs ⊢
  by_cases hnone : gs = []
  · simp [hnone]
  have hbody : readBody (payloadHead "metric" (some stage.stageRef) ++
      [("gpus", Json.arr (gs.map fun g => .obj (g.fields p)))]) = .metric none none [] := rfl
  rw [if_neg (by simpa using hnone), List.forall_mem_singleton,
    accepted_iff h get_stageRef_head, hbody, succeeds_validateUpdates_iff,
    succeeds_validateUpdate_iff get_kind_head (by decide) get_stageRef_head h.safe,
    succeeds_validateMetric_gpus, BodyFits]
  constructor
  · rintro ⟨⟨-, -, hmetric, -⟩, hfits⟩ -
    obtain ⟨-, hall, hnodup⟩ := hmetric rfl
    exact ⟨⟨hnodup, hall⟩, hfits⟩
  · intro hall
    obtain ⟨⟨hnodup, hall⟩, hfits⟩ := hall hnone
    have hlen := hgpus hnodup
    refine ⟨⟨?_, fun hk => absurd hk (by decide), fun _ => ⟨hlen, hall, hnodup⟩,
      fun hk => absurd hk (by decide)⟩, hfits⟩
    refine size_payload h.safe (by decide) (by simp) ?_
    have hitems : Json.itemsSize (gs.map fun g => .obj (g.fields p)) ≤
        12000 * (gs.map fun g => Json.obj (g.fields p)).length :=
      itemsSize_le (List.forall_mem_map.2 fun g hg => size_fields (hrefs g hg))
    have hkey : Json.stringSize "gpus" = 6 := by decide
    rw [List.length_map] at hitems
    simp only [Json.entriesSize, Json.encodedSize, hkey, List.length_map]
    omega

end DataJuicer.TrainingWorker
