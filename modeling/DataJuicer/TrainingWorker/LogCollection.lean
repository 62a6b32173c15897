import DataJuicer.Lib.Lines
import DataJuicer.TrainingWorker.EventShape

/-! # Collecting a log

A call of `_collect_log` reads a batch of the log from the offset in the ledger. It queues the
text and the events of the batch, and moves the offset behind it, unless no line of the batch
shows anything.
-/

namespace DataJuicer.TrainingWorker

open Lines Transaction

def newline : UInt8 := 10

def maxLogBatchLines : ℕ := 200

def maxLogBatchBytes : ℕ := 256 * 1024

/-- `stream.readline(limit)` of what is left of the file. -/
def readline (limit : ℕ) (rest : List UInt8) : List UInt8 := first newline (rest.take limit)

/-- The loop that reads at most this many lines and bytes. -/
def readBatch : ℕ → ℕ → List UInt8 → List (List UInt8)
  | 0, _, _ => []
  | lines + 1, bytes, rest =>
    if bytes = 0 then []
    else
      let rawLine := readline (min (maxLogLineBytes + 1) bytes) rest
      if rawLine = [] then []
      else rawLine :: readBatch lines (bytes - rawLine.length) (rest.drop rawLine.length)

/-- Where a call begins to read; a file that has shrunk is read again. -/
def startOffset (logOffset size : ℕ) : ℕ := if logOffset > size then 0 else logOffset

/-- `raw_lines` of a call. -/
def logBatch (content : List UInt8) (logOffset : ℕ) : List (List UInt8) :=
  readBatch maxLogBatchLines maxLogBatchBytes
    (content.drop (startOffset logOffset content.length))

/-- The integers that `json.dumps` writes have at most 4300 digits. -/
def intTextLimit : ℕ := 10 ^ 4300

/-- `json.dumps` writes the value, and the ledger stores its text. -/
def WritableField (r : Readers) (key : String) : Json → Prop
  | .int n => n.natAbs < intTextLimit
  -- The other texts come from decoded bytes.
  | .str s => key = "relative_path" → r.encodable s = true
  | _ => True

instance (r : Readers) (key : String) : DecidablePred (WritableField r key) := by
  rintro (_ | _) <;> unfold WritableField <;> infer_instance

/-- The payload can be put into the ledger; a payload of the log is flat. -/
def Writable (r : Readers) (payload : Dict) : Prop := ∀ e ∈ payload, WritableField r e.1 e.2

instance (r : Readers) : DecidablePred (Writable r) := fun payload => List.decidableBAll _ payload

/-- The offset that a call leaves in the ledger, what it queues and whether it raises. -/
structure Collection where
  logOffset : ℕ
  queued : List Dict
  raised : Bool

/-- `_collect_log`; `file` is the log when it is a regular file. -/
def collectLog (r : Readers) (present : CheckpointExists) (source : LogSource) (logOffset : ℕ)
    (file : Option (List UInt8)) : Collection :=
  match file with
  | none => ⟨logOffset, [], false⟩
  | some content =>
    let rawLines := logBatch content logOffset
    if rawLines = [] then ⟨logOffset, [], false⟩
    else match readLines r present source rawLines with
      | .error _ => ⟨logOffset, [], true⟩
      | .ok (lines, events) =>
        if lines = [] then ⟨logOffset, [], false⟩
        else
          let payloads := logUpdates source.stageRef lines events
          ⟨startOffset logOffset content.length + rawLines.flatten.length,
            payloads.takeWhile fun p => Writable r p, ¬ ∀ p ∈ payloads, Writable r p⟩

section

variable {lines bytes : ℕ} {rest content : List UInt8} {logOffset : ℕ}

theorem readline_isPrefix (limit : ℕ) (rest : List UInt8) : readline limit rest <+: rest :=
  (first_isPrefix _ _).trans (List.take_prefix _ _)

theorem readBatch_isPrefix : (readBatch lines bytes rest).flatten <+: rest := by
  fun_induction readBatch lines bytes rest with
  | case1 | case2 | case3 => exact List.nil_prefix
  | case4 lines bytes rest hbytes rawLine hne ih =>
    rw [List.flatten_cons]
    have hraw := List.prefix_iff_eq_append.1 (readline_isPrefix
      (min (maxLogLineBytes + 1) bytes) rest)
    conv_rhs => rw [← hraw]
    exact (List.prefix_append_right_inj _).2 ih

theorem logBatch_isPrefix (content : List UInt8) (logOffset : ℕ) :
    (logBatch content logOffset).flatten <+: content.drop (startOffset logOffset content.length) :=
  readBatch_isPrefix

theorem startOffset_of_le {size : ℕ} (h : logOffset ≤ size) :
    startOffset logOffset size = logOffset :=
  if_neg (Nat.not_lt.2 h)

theorem logOffset_add_le (h : logOffset ≤ content.length) :
    logOffset + (logBatch content logOffset).flatten.length ≤ content.length := by
  have hlen := (logBatch_isPrefix content logOffset).length_le
  rw [startOffset_of_le h, List.length_drop] at hlen
  omega

end

section

variable (r : Readers) (present : CheckpointExists) (source : LogSource)

/-- A line that shows something on the terminal. -/
def Visible (raw : List UInt8) : Prop :=
  normaliseTerminalRecord (lineText r source.redactions raw) ≠ ""

/-- The record of a line can be parsed, and its checkpoint can be looked up. -/
def Parses (raw : List UInt8) : Prop :=
  ∃ events, lineEvent r present source (lineText r source.redactions raw) = .ok events

/-- The events of a line can be put into the ledger. -/
def EventsWritable (raw : List UInt8) : Prop :=
  ∀ events, lineEvent r present source (lineText r source.redactions raw) = .ok events →
    ∀ e ∈ events, Writable r e

instance : DecidablePred (EventsWritable r present source) := fun raw =>
  match h : lineEvent r present source (lineText r source.redactions raw) with
  | .ok events => @decidable_of_iff _ (∀ e ∈ events, Writable r e) (by simp [EventsWritable, h])
      (List.decidableBAll _ events)
  | .error _ => .isTrue (by simp [EventsWritable, h])

variable {r present source} {raws : List (List UInt8)} {shown : List String} {events : List Dict}

theorem readLines_eq_ok (h : readLines r present source raws = .ok (shown, events)) :
    (∀ raw ∈ raws, Parses r present source raw) ∧
    (shown ≠ [] ↔ ∃ raw ∈ raws, Visible r source raw) ∧
      ((∀ e ∈ events, Writable r e) ↔ ∀ raw ∈ raws, EventsWritable r present source raw) := by
  induction raws generalizing shown events with
  | nil =>
    cases h
    simp
  | cons raw raws ih =>
    obtain ⟨event, shown', events', hevent, hrest, rfl, rfl⟩ := readLines_cons_eq_ok h
    obtain ⟨hparses, hshown, hwritable⟩ := ih hrest
    have hraw : EventsWritable r present source raw ↔ ∀ e ∈ event, Writable r e := by
      constructor
      · exact fun h => h event hevent
      · intro h events he
        rw [hevent] at he
        cases he
        exact h
    refine ⟨List.forall_mem_cons.2 ⟨⟨event, hevent⟩, hparses⟩, ?_, ?_⟩
    · rw [List.exists_mem_cons_iff, ← hshown, Visible]
      split
      · next hv => simp [hv]
      · next hv => simp [hv]
    · rw [List.forall_mem_append, List.forall_mem_cons, hraw, hwritable]

theorem exists_readLines (h : ∀ raw ∈ raws, Parses r present source raw) :
    ∃ shown events, readLines r present source raws = .ok (shown, events) := by
  induction raws with
  | nil => exact ⟨[], [], rfl⟩
  | cons raw raws ih =>
    rw [List.forall_mem_cons] at h
    obtain ⟨event, hevent⟩ := h.1
    obtain ⟨shown, events, hrest⟩ := ih h.2
    unfold readLines
    dsimp only
    rw [hevent, hrest]
    exact ⟨_, _, rfl⟩

theorem EventShape.stageRef_notMem {e : Dict} (h : EventShape e) :
    "stage_ref" ∉ e.map Prod.fst := by
  cases h with
  | checkpoint _ hstep => rcases hstep with rfl | ⟨n, rfl⟩ <;> simp
  | metric hm =>
    rw [List.map_cons, List.mem_cons, not_or]
    exact ⟨by simp, hm.notMem (by decide)⟩

theorem writable_set_stageRef {e : Dict} (h : EventShape e) (ref : Option String) :
    Writable r (Json.set e "stage_ref" (refValue ref)) ↔ Writable r e := by
  rw [set_of_notMem h.stageRef_notMem]
  unfold Writable
  rw [List.forall_mem_append]
  cases ref <;> simp [refValue, WritableField]

theorem writable_logUpdate (ref : Option String) (chunk : String) :
    Writable r (logUpdate ref chunk) := by
  cases ref <;> simp [Writable, logUpdate, payloadHead, refValue, WritableField]

theorem writable_logUpdates (source : LogSource) (hshown : shown ≠ [])
    (h : ∀ e ∈ events, EventShape e) :
    (∀ p ∈ logUpdates source.stageRef shown events, Writable r p) ↔ ∀ e ∈ events, Writable r e := by
  unfold logUpdates
  rw [if_neg hshown, List.forall_mem_append, List.forall_mem_map, List.forall_mem_map]
  constructor
  · rintro ⟨-, hevents⟩ e he
    exact (writable_set_stageRef (h e he) _).1 (hevents e he)
  · intro hevents
    exact ⟨fun chunk _ => writable_logUpdate _ _,
      fun e he => (writable_set_stageRef (h e he) _).2 (hevents e he)⟩

variable {content : List UInt8} {logOffset : ℕ}

/-- The three ends of a call: it raises, it shows nothing, or it takes the batch. -/
inductive CallEnd (r : Readers) (present : CheckpointExists) (source : LogSource)
    (content : List UInt8) (logOffset : ℕ) : Collection → Prop
  | raised (h : ¬ ∀ raw ∈ logBatch content logOffset, Parses r present source raw) :
      CallEnd r present source content logOffset ⟨logOffset, [], true⟩
  | blank (h : ∀ raw ∈ logBatch content logOffset, Parses r present source raw)
      (hv : ¬ ∃ raw ∈ logBatch content logOffset, Visible r source raw) :
      CallEnd r present source content logOffset ⟨logOffset, [], false⟩
  | taken {shown : List String} {events : List Dict}
      (h : readLines r present source (logBatch content logOffset) = .ok (shown, events))
      (hv : ∃ raw ∈ logBatch content logOffset, Visible r source raw) :
      CallEnd r present source content logOffset
        ⟨startOffset logOffset content.length + (logBatch content logOffset).flatten.length,
          (logUpdates source.stageRef shown events).takeWhile fun p => Writable r p,
          ¬ ∀ p ∈ logUpdates source.stageRef shown events, Writable r p⟩

theorem collectLog_end (r : Readers) (present : CheckpointExists) (source : LogSource)
    (content : List UInt8) (logOffset : ℕ) : CallEnd r present source content logOffset
      (collectLog r present source logOffset (some content)) := by
  unfold collectLog
  dsimp only
  split
  · next hnil => exact .blank (by simp [hnil]) (by simp [hnil])
  · split
    · next hread =>
      refine .raised fun h => ?_
      obtain ⟨shown, events, hok⟩ := exists_readLines h
      rw [hread] at hok
      cases hok
    · next shown events hread =>
      obtain ⟨hparses, hshown, -⟩ := readLines_eq_ok hread
      split
      · next hnil => exact .blank hparses fun h => hshown.2 h hnil
      · next hne => exact .taken hread (hshown.1 hne)

end

namespace Sample

/-- A record of the log. -/
def lossLine : String := "\x7b\"loss\":1\x7d"

/-- Readers for ASCII bytes and this record. -/
def logReaders : Readers where
  decode bytes := String.ofList (bytes.map fun b => Char.ofNat b.toNat)
  loads text := if text = lossLine then .ok (.obj [("loss", .int 1)]) else .error .malformed
  literalEval _ := .error .malformed
  progress _ := .ok none
  encodable _ := true

def logSource (format : MonitoringFormat) : LogSource := ⟨some "stage", format, []⟩

def ascii (text : String) : List UInt8 := text.toList.map fun c => UInt8.ofNat c.toNat

def lossLog : List UInt8 := ascii (lossLine ++ "\n")

end Sample

end DataJuicer.TrainingWorker
