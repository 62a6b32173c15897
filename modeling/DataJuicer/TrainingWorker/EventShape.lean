import DataJuicer.Lib.Transaction
import DataJuicer.TrainingWorker.Payloads

/-! # The shape of log events

What a line of a log is parsed to: a checkpoint with its path and perhaps a step, or a metric
whose fields are numbers under a few names.
-/

namespace DataJuicer.TrainingWorker

open Transaction

variable {r : Readers} {format : MonitoringFormat}

theorem get_append {d e : Dict} {k : String} :
    Json.get (d ++ e) k = if k ∈ d.map Prod.fst then Json.get d k else Json.get e k := by
  induction d with
  | nil => rfl
  | cons x d ih =>
    obtain ⟨name, v⟩ := x
    by_cases h : k = name
    · simp [Json.get_cons, h]
    · simp only [List.cons_append, Json.get_cons, h, if_false, ih, List.map_cons, List.mem_cons,
        false_or]

theorem get_of_notMem {d : Dict} {key : String} (h : key ∉ d.map Prod.fst) :
    Json.get d key = .null := by
  have := get_append (d := d) (e := []) (k := key)
  rw [if_neg h] at this
  simpa using this

theorem mem_of_get {d : Dict} {key : String} (h : key ∈ d.map Prod.fst) :
    (key, Json.get d key) ∈ d := by
  induction d with
  | nil => simp at h
  | cons x d ih =>
    obtain ⟨k, v⟩ := x
    by_cases hk : key = k
    · simp [Json.get_cons, hk]
    · rw [Json.get_cons, if_neg hk]
      exact List.mem_cons_of_mem _ (ih (by simpa [hk] using h))

theorem set_of_notMem {d : Dict} {key : String} {v : Json} (h : key ∉ d.map Prod.fst) :
    Json.set d key v = d ++ [(key, v)] := if_neg h

def numberNames : List String := ["epoch", "loss", "learning_rate", "grad_norm"]

def stepNames : List String := ["step", "total_steps"]

/-- A field of a metric: a natural number of steps or a finite number. -/
def MetricField (e : String × Json) : Prop :=
  e.1 ∈ stepNames ∧ (∃ n : ℕ, e.2 = .int n) ∨ e.1 ∈ numberNames ∧ e.2.Finite

structure MetricFields (m : Dict) : Prop where
  nodup : (m.map Prod.fst).Nodup
  field : ∀ e ∈ m, MetricField e

theorem MetricFields.name {m : Dict} (h : MetricFields m) {key : String}
    (hk : key ∈ m.map Prod.fst) : key ∈ stepNames ++ numberNames := by
  obtain ⟨e, he, rfl⟩ := List.mem_map.1 hk
  rcases h.field e he with ⟨hn, -⟩ | ⟨hn, -⟩
  · exact List.mem_append_left _ hn
  · exact List.mem_append_right _ hn

theorem MetricFields.notMem {m : Dict} (h : MetricFields m) {k : String}
    (hk : k ∉ stepNames ++ numberNames) : k ∉ m.map Prod.fst :=
  fun hm => hk (h.name hm)

theorem MetricFields.append {m n : Dict} (hm : MetricFields m) (hn : MetricFields n)
    (h : ∀ key ∈ m.map Prod.fst, key ∉ n.map Prod.fst) : MetricFields (m ++ n) where
  nodup := by
    rw [List.map_append]
    exact List.nodup_append.2 ⟨hm.nodup, hn.nodup, fun a ha b hb hab => h a ha (hab ▸ hb)⟩
  field e he := by
    rcases List.mem_append.1 he with he | he
    · exact hm.field e he
    · exact hn.field e he

theorem metricFields_nil : MetricFields [] := ⟨List.nodup_nil, by simp⟩

theorem metricFields_single {key : String} {v : Json} (h : MetricField (key, v)) :
    MetricFields [(key, v)] := ⟨by simp, by simpa using h⟩

theorem names_countField (parsed : Dict) (key : String) :
    ∀ k ∈ (countField parsed key).map Prod.fst, k = key := by
  intro k hk
  unfold countField at hk
  split at hk
  · split at hk <;> simp_all
  · simp at hk

theorem metricFields_countField {parsed : Dict} {key : String} (hkey : key ∈ stepNames) :
    MetricFields (countField parsed key) := by
  unfold countField
  split
  · rename_i n _
    split
    · rename_i hn
      exact metricFields_single (.inl ⟨hkey, n.toNat, by simp [hn]⟩)
    · exact metricFields_nil
  · exact metricFields_nil

theorem of_numberField {parsed d : Dict} {key : String} (hkey : key ∈ numberNames)
    (h : numberField parsed key = .ok d) :
    MetricFields d ∧ ∀ k ∈ d.map Prod.fst, k = key := by
  unfold numberField at h
  split at h
  · rename_i n _
    split at h
    · rename_i hn
      cases h
      exact ⟨metricFields_single (.inr ⟨hkey, hn⟩), by simp⟩
    · cases h
  · rename_i x _
    cases h
    split
    · rename_i hx
      exact ⟨metricFields_single (.inr ⟨hkey, hx⟩), by simp⟩
    · exact ⟨metricFields_nil, by simp⟩
  · cases h
    exact ⟨metricFields_nil, by simp⟩

theorem MetricFields.set {m : Dict} (h : MetricFields m) {key : String} {v : Json}
    (hv : MetricField (key, v)) : MetricFields (Json.set m key v) := by
  unfold Json.set
  split
  · constructor
    · rw [List.map_map]
      have hkeys : m.map (Prod.fst ∘ fun e => if e.1 = key then (key, v) else e) =
          m.map Prod.fst := by
        refine List.map_congr_left fun e _ => ?_
        by_cases he : e.1 = key <;> simp [he]
      exact hkeys ▸ h.nodup
    · intro e he
      obtain ⟨e, hm, rfl⟩ := List.mem_map.1 he
      by_cases hk : e.1 = key
      · simpa [hk] using hv
      · simpa [hk] using h.field e hm
  · rename_i hk
    refine h.append (metricFields_single hv) fun k hm hk' => ?_
    obtain rfl : k = key := by simpa using hk'
    exact hk hm

theorem MetricFields.addProgress {m m' : Dict} (h : MetricFields m) {candidate : String}
    (hm : addProgress r format candidate m = .ok m') : MetricFields m' := by
  unfold TrainingWorker.addProgress at hm
  split at hm
  · obtain ⟨shown, -, hm⟩ := bind_eq_ok.1 hm
    split at hm
    · obtain rfl := Except.ok.inj hm
      split
      · exact (h.set (.inl ⟨by simp [stepNames], _, rfl⟩)).set
          (.inl ⟨by simp [stepNames], _, rfl⟩)
      · exact h
    · obtain rfl := Except.ok.inj hm
      exact h
  · obtain rfl := Except.ok.inj hm
    exact h

/-- Fields under a further name are added. -/
theorem MetricFields.append_field {m n : Dict} {key : String} (hm : MetricFields m)
    (hn : MetricFields n ∧ ∀ k ∈ n.map Prod.fst, k = key) {names : List String}
    (hnames : ∀ k ∈ m.map Prod.fst, k ∈ names) (hkey : key ∉ names) :
    MetricFields (m ++ n) ∧ ∀ k ∈ (m ++ n).map Prod.fst, k ∈ names ++ [key] := by
  constructor
  · refine hm.append hn.1 fun k hk hk' => hkey ?_
    exact hn.2 k hk' ▸ hnames k hk
  · intro k hk
    rw [List.map_append] at hk
    rcases List.mem_append.1 hk with hk | hk
    · exact List.mem_append_left _ (hnames k hk)
    · exact List.mem_append_right _ (List.mem_singleton.2 (hn.2 k hk))

theorem metricFields_of_metricEvent {candidate : String} {parsed e : Dict}
    (h : metricEvent r format candidate parsed = .ok (some e)) :
    ∃ m, MetricFields m ∧ e = ("kind", .str "metric") :: m := by
  obtain ⟨epoch, hepoch, h⟩ := bind_eq_ok.1 h
  obtain ⟨loss, hloss, h⟩ := bind_eq_ok.1 h
  obtain ⟨learningRate, hrate, h⟩ := bind_eq_ok.1 h
  obtain ⟨gradNorm, hnorm, h⟩ := bind_eq_ok.1 h
  obtain ⟨metric, hmetric, h⟩ := bind_eq_ok.1 h
  have hstep : MetricFields (countField parsed "step") := metricFields_countField (by decide)
  have htotal : MetricFields (countField parsed "total_steps") :=
    metricFields_countField (by decide)
  have hnames : ∀ k ∈ (countField parsed "step").map Prod.fst, k ∈ ["step"] :=
    fun k hk => List.mem_singleton.2 (names_countField _ _ k hk)
  have h₁ := hstep.append_field ⟨htotal, names_countField parsed "total_steps"⟩ hnames
    (by decide)
  have h₂ := h₁.1.append_field (of_numberField (by decide) hepoch) h₁.2 (by decide)
  have h₃ := h₂.1.append_field (of_numberField (by decide) hloss) h₂.2 (by decide)
  have h₄ := h₃.1.append_field (of_numberField (by decide) hrate) h₃.2 (by decide)
  have h₅ := h₄.1.append_field (of_numberField (by decide) hnorm) h₄.2 (by decide)
  have hall : MetricFields metric := h₅.1.addProgress hmetric
  have h := Except.ok.inj h
  split at h
  · cases h
  · exact ⟨_, hall, (Option.some.inj h).symm⟩

/-- What a line of the log is parsed to. -/
inductive EventShape : Dict → Prop
  | checkpoint {path : String} {step : Dict} (safe : SafeRelativePath path)
      (hstep : step = [] ∨ ∃ n : ℕ, step = [("step", .int n)]) :
      EventShape ([("kind", .str "checkpoint"), ("relative_path", .str path)] ++ step)
  | metric {m : Dict} (fields : MetricFields m) : EventShape (("kind", .str "metric") :: m)

theorem countField_cases (parsed : Dict) (key : String) :
    countField parsed key = [] ∨ ∃ n : ℕ, countField parsed key = [(key, .int n)] := by
  unfold countField
  split
  · rename_i n _
    split
    · rename_i hn
      exact .inr ⟨n.toNat, by simp [hn]⟩
    · exact .inl rfl
  · exact .inl rfl

theorem shape_of_checkpointEvent {parsed e : Dict} (h : checkpointEvent parsed = some e) :
    EventShape e := by
  unfold checkpointEvent at h
  split at h
  · split at h
    · rename_i hsafe
      cases h
      exact .checkpoint hsafe (countField_cases parsed "step")
    · cases h
  · cases h

theorem shape_of_parseEvent {line : String} {e : Dict}
    (h : parseEvent r line format = .ok (some e)) : EventShape e := by
  have hmetric : ∀ {candidate parsed}, metricEvent r format candidate parsed = .ok (some e) →
      EventShape e := by
    intro candidate parsed hm
    obtain ⟨m, hfields, rfl⟩ := metricFields_of_metricEvent hm
    exact .metric hfields
  unfold parseEvent at h
  split at h
  · cases h
  · obtain ⟨d, -, h⟩ := bind_eq_ok.1 h
    cases d with
    | none => cases h
    | some parsed =>
      simp only at h
      split at h
      · split at h
        · exact shape_of_checkpointEvent (Except.ok.inj h)
        · split at h
          · cases h
          · exact hmetric h
      · exact hmetric h

theorem parseEvent_of_mem_lineEvent {present : CheckpointExists} {source : LogSource}
    {text : String} {events : List Dict} (h : lineEvent r present source text = .ok events)
    {e : Dict} (he : e ∈ events) : parseEvent r text source.monitoringFormat = .ok (some e) := by
  obtain ⟨parsed, hparsed, h⟩ := bind_eq_ok.1 h
  cases parsed with
  | none =>
    cases h
    cases he
  | some event =>
    dsimp only at h
    split at h
    · obtain rfl := Except.ok.inj h
      exact List.mem_singleton.1 he ▸ hparsed
    · obtain ⟨there, -, h⟩ := bind_eq_ok.1 h
      obtain rfl := Except.ok.inj h
      split at he
      · exact List.mem_singleton.1 he ▸ hparsed
      · cases he

theorem readLines_cons_eq_ok {present : CheckpointExists} {source : LogSource} {raw : List UInt8}
    {raws : List (List UInt8)} {lines : List String} {events : List Dict}
    (h : readLines r present source (raw :: raws) = .ok (lines, events)) :
    ∃ event lines' events',
      lineEvent r present source (lineText r source.redactions raw) = .ok event ∧
      readLines r present source raws = .ok (lines', events') ∧
      lines = (if normaliseTerminalRecord (lineText r source.redactions raw) = "" then lines'
        else normaliseTerminalRecord (lineText r source.redactions raw) :: lines') ∧
      events = event ++ events' := by
  obtain ⟨event, hevent, h⟩ := bind_eq_ok.1 h
  obtain ⟨⟨lines', events'⟩, hrest, h⟩ := bind_eq_ok.1 h
  obtain ⟨hlines, hevents⟩ := Prod.mk.inj (Except.ok.inj h)
  exact ⟨event, lines', events', hevent, hrest, hlines.symm, hevents.symm⟩

theorem shape_of_readLines {present : CheckpointExists} {source : LogSource}
    {raws : List (List UInt8)} {lines : List String} {events : List Dict}
    (h : readLines r present source raws = .ok (lines, events)) : ∀ e ∈ events, EventShape e := by
  induction raws generalizing lines events with
  | nil =>
    cases h
    simp
  | cons raw raws ih =>
    obtain ⟨event, rest, more, hevent, hrest, -, rfl⟩ := readLines_cons_eq_ok h
    intro e he
    rcases List.mem_append.1 he with he | he
    · exact shape_of_parseEvent (parseEvent_of_mem_lineEvent hevent he)
    · exact ih hrest e he

end DataJuicer.TrainingWorker
