import DataJuicer.Training.UpdateTotality
import DataJuicer.TrainingWorker.EventShape

/-! # What the worker emits is accepted

Every payload that the worker queues for a stage is valid and is applied, apart from three
kinds of values that the two sides bound differently: the size of a log chunk, the numbers of
an event and the path of a checkpoint.
-/

namespace DataJuicer.TrainingWorker

open Transaction Training

section Validity

variable {d rest : Dict} {kind ref : String}

theorem succeeds_validateUpdates_iff : Succeeds (validateUpdates [d]) ↔
    Json.encodedSize (.obj d) + 2 ≤ 524288 ∧ Succeeds (validateUpdate d) := by
  have hsize : Json.encodedSize (.arr [.obj d]) = Json.encodedSize (.obj d) + 2 := by
    simp [Json.encodedSize, Json.itemsSize, Nat.add_comm]
  have hloop : Succeeds ([d].forM validateUpdate) ↔ Succeeds (validateUpdate d) := by
    cases h : validateUpdate d <;> simp [h, bind, Except.bind, pure, Except.pure]
  unfold validateUpdates
  rw [succeeds_raiseIf_bind, hloop]
  simp only [List.map_cons, List.map_nil, hsize, not_lt]

theorem succeeds_validateUpdate_iff (hkind : Json.get d "kind" = .str kind)
    (hmem : kind ∈ updateKinds) (href : Json.get d "stage_ref" = .str ref) (hsafe : SafeRef ref) :
    Succeeds (validateUpdate d) ↔ (kind = "log" → Succeeds (validateLog d)) ∧
      (kind = "metric" → Succeeds (validateMetric d)) ∧
      (kind = "checkpoint" → Succeeds (validateCheckpoint d)) := by
  have hstage : validateStageRef d = .ok ⟨⟩ := by
    simp [validateStageRef, href, raiseIf, hsafe]
  have hred : validateUpdate d = if kind = "log" then validateLog d
      else if kind = "metric" then validateMetric d
      else if kind = "checkpoint" then validateCheckpoint d else .ok ⟨⟩ := by
    simp only [validateUpdate, hkind, hstage, raiseIf, hmem, not_true, if_false, bind, Except.bind,
      pure, Except.pure]
  rw [hred]
  by_cases hlog : kind = "log"
  · subst hlog
    simp
  by_cases hmetric : kind = "metric"
  · subst hmetric
    simp
  by_cases hcheckpoint : kind = "checkpoint"
  · subst hcheckpoint
    simp
  · simp [hlog, hmetric, hcheckpoint]

@[simp] theorem get_kind_head :
    Json.get (payloadHead kind (some ref) ++ rest) "kind" = .str kind := rfl

@[simp] theorem get_stageRef_head :
    Json.get (payloadHead kind (some ref) ++ rest) "stage_ref" = .str ref := rfl

theorem SafeRef.length_le (h : SafeRef ref) : ref.toList.length ≤ 200 := by
  obtain ⟨_, -, -, hlen, -⟩ := h
  exact hlen

theorem size_head (h : SafeRef ref) (hkind : kind.toList.length ≤ 14) :
    Json.entriesSize (payloadHead kind (some ref)) ≤ 5700 := by
  have h₁ := Json.stringSize_le_length kind
  have h₂ := Json.stringSize_le_length ref
  have h₃ := SafeRef.length_le h
  have h₄ : Json.stringSize "kind" = 6 := by decide
  have h₅ : Json.stringSize "stage_ref" = 11 := by decide
  simp only [payloadHead, refValue, Json.entriesSize, Json.encodedSize, h₄, h₅]
  omega

theorem size_payload (h : SafeRef ref) (hkind : kind.toList.length ≤ 14)
    (hlen : rest.length ≤ 8) (hrest : Json.entriesSize rest ≤ 500000) :
    Json.encodedSize (.obj (payloadHead kind (some ref) ++ rest)) + 2 ≤ 524288 := by
  have hhead := size_head h hkind
  have hlength : (payloadHead kind (some ref) ++ rest).length = 2 + rest.length := by
    simp only [payloadHead, List.length_append, List.length_cons, List.length_nil]
  simp only [Json.encodedSize, Json.entriesSize_append, hlength]
  omega

end Validity

variable {now : Timestamp} {db : Database} {run : RunRow} {stage : StageRow}
  {w : WorkerCredential} {drawn : ℕ → NewRefs}

/-- The centre answers the next request of the run with this payload. -/
def Accepted (now : Timestamp) (w : WorkerCredential) (drawn : ℕ → NewRefs) (run : RunRow)
    (db : Database) (payload : Dict) : Prop :=
  Succeeds (updateTrainingRun now w drawn (nextRequest run payload) db)

structure Delivering (w : WorkerCredential) (drawn : ℕ → NewRefs) (db : Database) (run : RunRow)
    (stage : StageRow) : Prop where
  prepared : Prepared db run stage (drawn 0)
  owned : Owned db w run
  drawnRef : DrawnRef "stage" stage.stageRef

theorem Delivering.safe (h : Delivering w drawn db run stage) : SafeRef stage.stageRef :=
  h.drawnRef.safeRef

theorem accepted_iff (h : Delivering w drawn db run stage) {d : Dict}
    (href : Json.get d "stage_ref" = .str stage.stageRef) :
    Accepted now w drawn run db d ↔
      Succeeds (validateUpdates [d]) ∧ BodyFits now db run stage (readBody d) := by
  have hread : readUpdate d = ⟨some stage.stageRef, readBody d⟩ := by
    simp [readUpdate, href, truthyText]
  unfold Accepted
  rw [succeeds_updateTrainingRun_iff h.prepared.run_mem h.owned, hread,
    succeeds_applyTrainingUpdateIn_iff h.prepared]

/-- The kinds whose fields are neither checked nor stored. -/
def plainKinds : List String := ["accepted", "started", "heartbeat", "exited", "reconciliation"]

theorem bodyFits_of_plain {d : Dict} {kind : String} (hkind : Json.get d "kind" = .str kind)
    (hplain : kind ∈ plainKinds) : BodyFits now db run stage (readBody d) := by
  simp only [plainKinds, List.mem_cons, List.not_mem_nil, or_false] at hplain
  rcases hplain with rfl | rfl | rfl | rfl | rfl <;> simp [readBody, hkind, BodyFits]

theorem accepted_of_plain (h : Delivering w drawn db run stage) {kind : String} {rest : Dict}
    (hplain : kind ∈ plainKinds) (hlen : rest.length ≤ 8)
    (hrest : Json.entriesSize rest ≤ 500000) :
    Accepted now w drawn run db (payloadHead kind (some stage.stageRef) ++ rest) := by
  have hkinds : kind ∈ updateKinds ∧ kind.toList.length ≤ 14 ∧ kind ≠ "log" ∧ kind ≠ "metric" ∧
      kind ≠ "checkpoint" := by
    simp only [plainKinds, List.mem_cons, List.not_mem_nil, or_false] at hplain
    rcases hplain with rfl | rfl | rfl | rfl | rfl <;> decide
  obtain ⟨hmem, hshort, hlog, hmetric, hcheckpoint⟩ := hkinds
  refine (accepted_iff h get_stageRef_head).2 ⟨?_, bodyFits_of_plain get_kind_head hplain⟩
  refine succeeds_validateUpdates_iff.2 ⟨size_payload h.safe hshort hlen hrest, ?_⟩
  refine (succeeds_validateUpdate_iff get_kind_head hmem get_stageRef_head h.safe).2 ⟨?_, ?_, ?_⟩
  · exact fun hk => absurd hk hlog
  · exact fun hk => absurd hk hmetric
  · exact fun hk => absurd hk hcheckpoint

/-- A plain event without further fields is accepted. -/
theorem accepted_bare (h : Delivering w drawn db run stage) {kind : String}
    (hplain : kind ∈ plainKinds) :
    Accepted now w drawn run db (payloadHead kind (some stage.stageRef)) := by
  have hempty : Json.entriesSize [] ≤ 500000 := by simp [Json.entriesSize]
  have hall : Accepted now w drawn run db (payloadHead kind (some stage.stageRef) ++ []) :=
    accepted_of_plain h hplain (Nat.zero_le _) hempty
  rwa [List.append_nil] at hall

theorem succeeds_validateLog_iff {d : Dict} {chunk : String}
    (hmessage : Json.get d "message" = .str chunk) (hlines : Json.get d "lines" = .null) :
    Succeeds (validateLog d) ↔ utf8Size chunk ≤ 16384 := by
  have hmessages : logMessages d = .ok [chunk] := by
    simp only [logMessages, hmessage, hlines]
    rfl
  unfold validateLog
  rw [hmessages]
  constructor
  · intro h
    obtain ⟨messages, hm, h⟩ := succeeds_bind.1 h
    obtain rfl := Except.ok.inj hm
    obtain ⟨-, h⟩ := succeeds_raiseIf_bind.1 h
    obtain ⟨hsize, -⟩ := succeeds_raiseIf_bind.1 h
    exact not_lt.1 fun hlarge => hsize (.inr ⟨chunk, List.mem_singleton_self _, hlarge⟩)
  · intro hsize
    refine succeeds_bind.2 ⟨[chunk], rfl, ?_⟩
    refine succeeds_raiseIf_bind.2 ⟨by simp, succeeds_raiseIf_bind.2 ⟨?_, ?_⟩⟩
    · rintro (h | ⟨m, hm, hlarge⟩)
      · cases h
      · obtain rfl := List.mem_singleton.1 hm
        omega
    · refine succeeds_raiseIf.2 ?_
      simp only [List.map_cons, List.map_nil, List.sum_cons, List.sum_nil]
      omega

theorem accepted_logUpdate_iff (h : Delivering w drawn db run stage) {chunk : String}
    (hlen : chunk.toList.length ≤ 16384) :
    Accepted now w drawn run db (logUpdate stage.stageRef chunk) ↔ utf8Size chunk ≤ 16384 := by
  have hsize : Json.entriesSize [("level", .str "info"), ("message", .str chunk)] ≤ 500000 := by
    have h₁ := Json.stringSize_le_length chunk
    have h₂ : Json.stringSize "level" = 7 := by decide
    have h₃ : Json.stringSize "info" = 6 := by decide
    have h₄ : Json.stringSize "message" = 9 := by decide
    simp only [Json.entriesSize, Json.encodedSize, h₂, h₃, h₄]
    omega
  have hvalid := succeeds_validateUpdate_iff (d := logUpdate stage.stageRef chunk)
    get_kind_head (by decide) get_stageRef_head h.safe
  have hmessage : Json.get (logUpdate stage.stageRef chunk) "message" = .str chunk := rfl
  have hlog := succeeds_validateLog_iff hmessage rfl
  unfold logUpdate at hvalid hlog ⊢
  rw [accepted_iff h get_stageRef_head, succeeds_validateUpdates_iff, hvalid, hlog]
  constructor
  · rintro ⟨⟨-, hlog, -⟩, -⟩
    exact hlog rfl
  · intro hchunk
    refine ⟨⟨size_payload h.safe (by decide) (by simp) hsize, fun _ => hchunk, ?_, ?_⟩, ?_⟩
    · exact fun hk => absurd hk (by decide)
    · exact fun hk => absurd hk (by decide)
    · rw [readBody, get_kind_head]
      trivial

/-- An event with the stage that it is about. -/
def eventPayload (kind ref : String) (fields : Dict) : Dict :=
  ("kind", .str kind) :: (fields ++ [("stage_ref", .str ref)])

theorem get_eventPayload {kind ref key : String} {fields : Dict} (hkind : key ≠ "kind")
    (href : key ≠ "stage_ref") :
    Json.get (eventPayload kind ref fields) key = Json.get fields key := by
  rw [eventPayload, Json.get_cons, if_neg hkind, get_append]
  split
  · rfl
  · rename_i hmem
    rw [get_of_notMem hmem, Json.get_cons, if_neg href, Json.get_nil]

theorem get_stageRef_eventPayload {kind ref : String} {fields : Dict}
    (h : "stage_ref" ∉ fields.map Prod.fst) :
    Json.get (eventPayload kind ref fields) "stage_ref" = .str ref := by
  rw [eventPayload, Json.get_cons, if_neg (by decide), get_append, if_neg h]
  rfl

theorem size_eventPayload {kind ref : String} {fields : Dict} (h : SafeRef ref)
    (hkind : kind.toList.length ≤ 14) (hlen : fields.length ≤ 8)
    (hfields : Json.entriesSize fields ≤ 500000) :
    Json.encodedSize (.obj (eventPayload kind ref fields)) + 2 ≤ 524288 := by
  have h₁ := Json.stringSize_le_length kind
  have h₂ := Json.stringSize_le_length ref
  have h₃ := SafeRef.length_le h
  have h₄ : Json.stringSize "kind" = 6 := by decide
  have h₅ : Json.stringSize "stage_ref" = 11 := by decide
  have hlength : (eventPayload kind ref fields).length = 2 + fields.length := by
    simp only [eventPayload, List.length_append, List.length_cons, List.length_nil]
    omega
  simp only [Json.encodedSize, hlength]
  simp only [eventPayload, Json.entriesSize, Json.encodedSize, Json.entriesSize_append, h₄, h₅]
  omega

theorem succeeds_validateCheckpoint_iff {d : Dict} {path : String}
    (hpath : Json.get d "relative_path" = .str path) :
    Succeeds (validateCheckpoint d) ↔ path.toList.length ≤ 1024 := by
  unfold validateCheckpoint
  rw [hpath]
  exact succeeds_raiseIf.trans not_lt

/-- The path is short and on one line, and its text has no component that is dropped. -/
def PathFits (path : String) : Prop :=
  path.toList.length ≤ 1024 ∧ path.splitOn "/" = posixParts path ∧ '\r' ∉ path.toList ∧
    '\n' ∉ path.toList

instance : DecidablePred PathFits := fun _ => inferInstanceAs (Decidable (_ ∧ _ ∧ _ ∧ _))

/-- A path that is safe for the worker is safe for the centre when nothing is dropped of it. -/
theorem safeCheckpointPath_iff {path : String} (h : SafeRelativePath path) :
    SafeCheckpointPath path ↔ path.splitOn "/" = posixParts path ∧ '\r' ∉ path.toList ∧
      '\n' ∉ path.toList := by
  obtain ⟨hne, -, hnul, hhead, hparts⟩ := h
  constructor
  · rintro ⟨-, -, hsplit, hchars⟩
    refine ⟨(List.filter_eq_self.2 fun part hpart => ?_).symm, ?_, ?_⟩
    · obtain ⟨h₁, h₂, -⟩ := hsplit part hpart
      simp [h₁, h₂]
    · exact fun hmem => (hchars _ hmem).2.1 rfl
    · exact fun hmem => (hchars _ hmem).2.2 rfl
  · rintro ⟨hsplit, hcr, hlf⟩
    refine ⟨hne, ?_, ?_, ?_⟩
    · rw [String.startsWith_string_eq_false_iff]
      rintro ⟨tail, htail⟩
      exact hhead (by rw [← htail]; rfl)
    · intro part hpart
      rw [hsplit] at hpart
      have := hparts part hpart
      simp only [List.mem_cons, List.not_mem_nil, or_false, not_or] at this
      exact this
    · intro c hc
      refine ⟨?_, ?_, ?_⟩ <;> rintro rfl
      · exact hnul hc
      · exact hcr hc
      · exact hlf hc

/-- The step of a checkpoint is a number that the database takes. -/
def StepFits (fields : Dict) : Prop := ∀ n ∈ integerField (.get fields "step"), n < 2 ^ 63

theorem accepted_checkpoint_iff (h : Delivering w drawn db run stage) {path : String} {step : Dict}
    (hsafe : SafeRelativePath path) (hstep : step = [] ∨ ∃ n : ℕ, step = [("step", .int n)]) :
    Accepted now w drawn run db
        (eventPayload "checkpoint" stage.stageRef (("relative_path", .str path) :: step)) ↔
      PathFits path ∧ StepFits step := by
  have hnames : "stage_ref" ∉ (("relative_path", Json.str path) :: step).map Prod.fst := by
    rcases hstep with rfl | ⟨n, rfl⟩ <;> simp
  have href := @get_stageRef_eventPayload "checkpoint" stage.stageRef _ hnames
  generalize hd : eventPayload "checkpoint" stage.stageRef
    (("relative_path", .str path) :: step) = d
    at href ⊢
  have hkind : Json.get d "kind" = .str "checkpoint" := by
    subst hd
    rfl
  have hpath : Json.get d "relative_path" = .str path := by
    subst hd
    rfl
  have hget : Json.get d "step" = Json.get step "step" := by
    subst hd
    rw [get_eventPayload (by decide) (by decide), Json.get_cons, if_neg (by decide)]
  have hbody : readBody d = .checkpoint path (integerField (.get step "step")) := by
    simp only [readBody, hkind, hpath, hget, truthyText, Option.getD_some]
  have hnatural : ∀ n ∈ integerField (.get step "step"), 0 ≤ n := by
    rcases hstep with rfl | ⟨n, rfl⟩
    · simp [integerField]
    · simp [integerField, Json.get_cons]
  rw [accepted_iff h href, hbody, succeeds_validateUpdates_iff,
    succeeds_validateUpdate_iff hkind (by decide) href h.safe, BodyFits,
    safeCheckpointPath_iff hsafe, succeeds_validateCheckpoint_iff hpath]
  constructor
  · rintro ⟨⟨-, -, -, hlen⟩, hsplit, hfits⟩
    exact ⟨⟨hlen rfl, hsplit⟩, fun n hn => (hfits n hn).2⟩
  · rintro ⟨⟨hlen, hsplit⟩, hfits⟩
    refine ⟨⟨?_, fun hk => absurd hk (by decide), fun hk => absurd hk (by decide), fun _ => hlen⟩,
      hsplit, fun n hn => ⟨by have := hnatural n hn; omega, hfits n hn⟩⟩
    have hsize : Json.entriesSize (("relative_path", .str path) :: step) ≤ 500000 := by
      have h₁ := Json.stringSize_le_length path
      have h₂ : Json.stringSize "relative_path" = 15 := by decide
      have h₃ : Json.entriesSize step ≤ 100 := by
        rcases hstep with rfl | ⟨n, rfl⟩
        · simp [Json.entriesSize]
        · have hn : (n : ℤ) < 2 ^ 63 := hfits n (by simp [integerField, Json.get_cons])
          have h₄ : Json.stringSize "step" = 6 := by decide
          have h₅ := Json.intSize_le (n := n) (k := 20) (by decide) (by omega)
          simp only [Json.entriesSize, Json.encodedSize, h₄]
          omega
      simp only [Json.entriesSize, Json.encodedSize, h₂]
      omega
    rw [← hd]
    refine size_eventPayload h.safe (by decide) ?_ hsize
    rcases hstep with rfl | ⟨n, rfl⟩ <;> simp

/-- A step of a metric is missing or a natural number. -/
theorem MetricFields.getStep {m : Dict} (h : MetricFields m) {key : String}
    (hkey : key ∈ stepNames) : Json.get m key = .null ∨ ∃ n : ℕ, Json.get m key = .int n := by
  by_cases hmem : key ∈ m.map Prod.fst
  · rcases h.field _ (mem_of_get hmem) with ⟨-, n, hn⟩ | ⟨hname, -⟩
    · exact .inr ⟨n, hn⟩
    · exfalso
      simp only [stepNames, List.mem_cons, List.not_mem_nil, or_false] at hkey
      rcases hkey with rfl | rfl <;> simp [numberNames] at hname
  · exact .inl (get_of_notMem hmem)

theorem MetricFields.getNumber {m : Dict} (h : MetricFields m) {key : String}
    (hkey : key ∉ stepNames) : FiniteField (.get m key) := by
  by_cases hmem : key ∈ m.map Prod.fst
  · rcases h.field _ (mem_of_get hmem) with ⟨hname, -⟩ | ⟨-, hfinite⟩
    · exact absurd hname hkey
    · revert hfinite
      cases Json.get m key <;> simp [Json.Finite, FiniteField]
  · rw [get_of_notMem hmem]
    trivial

/-- The step of a metric, zero when there is none. -/
def stepField (m : Dict) (key : String) : ℕ := (naturalField (.get m key)).getD 0

theorem MetricFields.stepField_finite {m : Dict} (h : MetricFields m) {key : String}
    (hkey : key ∈ stepNames) (hlt : stepField m key < 2 ^ 63) :
    FiniteField (.get m key) ∧ CountField (.get m key) := by
  rcases h.getStep hkey with hnull | ⟨n, hn⟩
  · rw [hnull]
    exact ⟨trivial, trivial⟩
  · simp only [stepField, hn, naturalField, Option.getD_some, Int.toNat_natCast] at hlt
    rw [hn]
    refine ⟨?_, Int.natCast_nonneg n⟩
    have hlimit : 2 ^ 63 ≤ Json.floatLimit := by decide +kernel
    exact lt_of_lt_of_le (by simpa using hlt) hlimit

theorem succeeds_validateMetric {m : Dict} {ref : String} (h : MetricFields m)
    (hstep : ∀ key ∈ stepNames, stepField m key < 2 ^ 63) :
    Succeeds (validateMetric (eventPayload "metric" ref m)) := by
  have hget : ∀ key ∈ metricFields,
      Json.get (eventPayload "metric" ref m) key = Json.get m key := by
    intro key hkey
    simp only [metricFields, List.mem_cons, List.not_mem_nil, or_false] at hkey
    refine get_eventPayload ?_ ?_ <;> rintro rfl <;> simp at hkey
  have hgpus : (eventPayload "metric" ref m).lookup "gpus" = none := by
    have hm := h.notMem (k := "gpus") (by decide)
    refine List.lookup_eq_none_iff.2 fun p hp => ?_
    simp only [eventPayload, List.mem_cons, List.mem_append, List.not_mem_nil, or_false] at hp
    rcases hp with rfl | hp | rfl
    · decide
    · simp only [bne_iff_ne, ne_eq]
      exact fun he => hm (he ▸ List.mem_map_of_mem hp)
    · simp
  unfold validateMetric
  refine succeeds_raiseIf_bind.2 ⟨?_, succeeds_raiseIf_bind.2 ⟨?_, ?_⟩⟩
  · rintro ⟨key, hkey, hnot⟩
    rw [hget key hkey] at hnot
    by_cases hname : key ∈ stepNames
    · exact hnot (h.stepField_finite hname (hstep key hname)).1
    · exact hnot (h.getNumber hname)
  · rintro ⟨key, hkey, hnot⟩
    have hmem : key ∈ metricFields := by
      simp only [List.mem_cons, List.not_mem_nil, or_false] at hkey
      rcases hkey with rfl | rfl <;> decide
    rw [hget key hmem] at hnot
    exact hnot (h.stepField_finite hkey (hstep key hkey)).2
  · rw [hgpus]
    exact succeeds_raiseIf_bind.2 ⟨by simp, succeeds_ok _⟩

theorem MetricFields.length_le {m : Dict} (h : MetricFields m) : m.length ≤ 6 := by
  have hsub : m.map Prod.fst ⊆ stepNames ++ numberNames := fun _ hk => h.name hk
  have hlen := (h.nodup.subperm hsub).length_le
  rw [List.length_map] at hlen
  exact hlen

/-- A number is written with at most 310 characters. -/
theorem encodedSize_number {v : Json} (h : v.Finite) : Json.encodedSize v ≤ 311 := by
  have hlimit : Json.floatLimit ≤ 10 ^ 310 := by decide +kernel
  cases v with
  | int n => exact Json.intSize_le (by decide) (lt_of_lt_of_le h hlimit)
  | float x => exact x.repr_size.trans (by decide)
  | _ => exact absurd h (by simp [Json.Finite])

theorem MetricFields.entrySize {m : Dict} (h : MetricFields m)
    (hstep : ∀ key ∈ stepNames, stepField m key < 2 ^ 63) :
    ∀ e ∈ m, Json.stringSize e.1 + 2 + Json.encodedSize e.2 ≤ 700 := by
  intro e he
  have hname : Json.stringSize e.1 ≤ 350 := by
    have hlen := Json.stringSize_le_length e.1
    have hmem := h.name (List.mem_map_of_mem he)
    have hshort : ∀ key ∈ stepNames ++ numberNames, key.toList.length ≤ 14 := by decide
    have := hshort _ hmem
    omega
  have hfinite : e.2.Finite := by
    rcases h.field e he with ⟨hk, n, hn⟩ | ⟨-, hfinite⟩
    · have hget : Json.get m e.1 = e.2 := by
        obtain ⟨l₁, l₂, rfl⟩ := List.append_of_mem he
        have hnodup := h.nodup
        rw [List.map_append, List.map_cons, List.nodup_append] at hnodup
        have hnot : e.1 ∉ l₁.map Prod.fst := fun hm =>
          hnodup.2.2 _ hm _ List.mem_cons_self rfl
        rw [get_append, if_neg hnot, Json.get_cons, if_pos rfl]
      have := (h.stepField_finite hk (hstep _ hk)).1
      rw [hget, hn] at this
      rw [hn]
      exact this
    · exact hfinite
  have := encodedSize_number hfinite
  omega

theorem entriesSize_le {m : Dict} {k : ℕ}
    (h : ∀ e ∈ m, Json.stringSize e.1 + 2 + Json.encodedSize e.2 ≤ k) :
    Json.entriesSize m ≤ k * m.length := by
  induction m with
  | nil => simp [Json.entriesSize]
  | cons e m ih =>
    obtain ⟨key, v⟩ := e
    have hhead : Json.stringSize key + 2 + Json.encodedSize v ≤ k := h (key, v) List.mem_cons_self
    have htail := ih fun e he => h e (List.mem_cons_of_mem _ he)
    simp only [Json.entriesSize, List.length_cons, Nat.mul_succ]
    omega

/-- The numbers of steps that a metric of the stage brings. -/
def stepOf (m : Dict) (key : String) : Option ℕ := naturalField (.get m key)

theorem accepted_metric_iff (h : Delivering w drawn db run stage) {m : Dict}
    (hm : MetricFields m) :
    Accepted now w drawn run db (eventPayload "metric" stage.stageRef m) ↔
      MetricFits now db run stage (stepOf m "step") (stepOf m "total_steps") := by
  have href := @get_stageRef_eventPayload "metric" stage.stageRef _
    (hm.notMem (k := "stage_ref") (by decide))
  have hkind : Json.get (eventPayload "metric" stage.stageRef m) "kind" = .str "metric" := rfl
  have hstep : Json.get (eventPayload "metric" stage.stageRef m) "step" = Json.get m "step" :=
    get_eventPayload (by decide) (by decide)
  have htotal : Json.get (eventPayload "metric" stage.stageRef m) "total_steps" =
      Json.get m "total_steps" := get_eventPayload (by decide) (by decide)
  have hbody : ∃ ms, readBody (eventPayload "metric" stage.stageRef m) =
      .metric (stepOf m "step") (stepOf m "total_steps") ms := by
    simp only [readBody, hkind, hstep, htotal]
    exact ⟨_, rfl⟩
  obtain ⟨ms, hbody⟩ := hbody
  rw [accepted_iff h href, hbody, succeeds_validateUpdates_iff,
    succeeds_validateUpdate_iff hkind (by decide) href h.safe, BodyFits]
  refine and_iff_right_of_imp fun hfits => ?_
  have hsteps : ∀ key ∈ stepNames, stepField m key < 2 ^ 63 := by
    intro key hkey
    simp only [stepNames, List.mem_cons, List.not_mem_nil, or_false] at hkey
    obtain ⟨h₁, h₂, -⟩ := hfits
    rcases hkey with rfl | rfl
    · have := h₁.2
      simp only [stepOf] at this
      exact_mod_cast this
    · have hlt := h₂.2
      unfold stepField
      rw [← stepOf]
      cases hn : stepOf m "total_steps" with
      | none => decide
      | some n =>
        rw [hn] at hlt
        by_cases hzero : n = 0
        · subst hzero
          decide
        · rw [Option.filter_some_pos (by simpa using hzero)] at hlt
          exact_mod_cast hlt
  have hlen := hm.length_le
  have hsize := entriesSize_le (hm.entrySize hsteps)
  refine ⟨size_eventPayload h.safe (by decide) (by omega) (by omega), ?_, ?_, ?_⟩
  · exact fun hk => absurd hk (by decide)
  · exact fun _ => succeeds_validateMetric hm hsteps
  · exact fun hk => absurd hk (by decide)

end DataJuicer.TrainingWorker
