import DataJuicer.Lib.Run
import DataJuicer.TrainingWorker.LogCollection

/-! # Polls of a growing log

Each poll sees a longer part of the log and makes one call. The events are those of the lines
of the whole log when every poll stops reading at the end of a line: the rest of a line is parsed
as a line of its own.
-/

namespace DataJuicer.TrainingWorker

open Lines Transaction

def StopsAtLine (read all : List UInt8) : Prop :=
  read = all ∨ ∀ b ∈ read.getLast?, b = newline

instance (read all : List UInt8) : Decidable (StopsAtLine read all) :=
  inferInstanceAs (Decidable (_ ∨ _))

theorem of_readBatch_ne_nil {lines bytes : ℕ} {rest : List UInt8}
    (h : readBatch lines bytes rest ≠ []) : bytes ≠ 0 ∧ rest ≠ [] := by
  constructor
  · rintro rfl
    cases lines <;> simp [readBatch] at h
  · rintro rfl
    cases lines <;> simp [readBatch, readline, first] at h

theorem StopsAtLine.of_append {line read more : List UInt8}
    (h : StopsAtLine (line ++ read) (line ++ more)) : StopsAtLine read more := by
  rcases h with h | h
  · exact .inl (List.append_cancel_left h)
  · cases read with
    | nil => exact .inr (by simp)
    | cons b read => exact .inr (by simpa [List.getLast?_append] using h)

theorem unterminated_last {bytes : ℕ} {rest all : List UInt8} (hall : rest <+: all)
    (hfits : ∀ line ∈ cut newline all, (line.takeWhile (· ≠ newline)).length ≤ maxLogLineBytes)
    (hraw : readline (min (maxLogLineBytes + 1) bytes) rest ≠ [])
    (hnone : newline ∉ readline (min (maxLogLineBytes + 1) bytes) rest)
    (htake : readline (min (maxLogLineBytes + 1) bytes) rest =
      rest.take (min (maxLogLineBytes + 1) bytes)) (lines : ℕ) :
    readBatch lines (bytes - (readline (min (maxLogLineBytes + 1) bytes) rest).length)
      (rest.drop (readline (min (maxLogLineBytes + 1) bytes) rest).length) = [] := by
  by_contra hmore
  obtain ⟨hbytes, hdrop⟩ := of_readBatch_ne_nil hmore
  have hprefix := (readline_isPrefix (min (maxLogLineBytes + 1) bytes) rest).trans hall
  have hlen := length_le_takeWhile hprefix hnone
  have hne : all ≠ [] := by
    rintro rfl
    exact hraw (List.prefix_nil.1 hprefix)
  have hfirst := hfits (first newline all) (by simp [cut_eq_first hne])
  rw [takeWhile_first] at hfirst
  rw [htake, List.length_take] at hbytes hdrop hlen
  rw [Ne, List.drop_eq_nil_iff] at hdrop
  omega

theorem cut_readBatch (lines bytes : ℕ) {rest all : List UInt8} (hall : rest <+: all)
    (hfits : ∀ line ∈ cut newline all, (line.takeWhile (· ≠ newline)).length ≤ maxLogLineBytes)
    (hstop : StopsAtLine (readBatch lines bytes rest).flatten all) :
    cut newline all = readBatch lines bytes rest ++
      cut newline (all.drop (readBatch lines bytes rest).flatten.length) := by
  fun_induction readBatch lines bytes rest generalizing all with
  | case1 | case2 | case3 => rfl
  | case4 lines bytes rest hbytes rawLine hne =>
    rename_i ih
    have hraw : rawLine <+: all := (readline_isPrefix _ _).trans hall
    rcases first_cases newline (rest.take (min (maxLogLineBytes + 1) bytes)) with
      hline | ⟨hnone, htake⟩
    · change IsLine newline rawLine at hline
      obtain ⟨more, rfl⟩ := hraw
      have hrest := hall.drop rawLine.length
      rw [List.drop_left] at hrest
      rw [hline.cut_append] at hfits ⊢
      rw [List.flatten_cons] at hstop ⊢
      rw [ih hrest (fun l hl => hfits l (List.mem_cons_of_mem _ hl)) hstop.of_append,
        List.length_append, ← List.drop_drop, List.drop_left]
      rfl
    · change rawLine = _ at htake
      rw [← htake] at hnone
      have hnil := unterminated_last hall hfits hne hnone htake lines
      change readBatch lines (bytes - rawLine.length) (rest.drop rawLine.length) = [] at hnil
      rw [hnil, List.flatten_singleton] at hstop
      rw [hnil, List.flatten_singleton]
      rcases hstop with hstop | hstop
      · rw [hstop, List.drop_length, ← hstop, cut_unterminated hne hnone]
        rfl
      · refine absurd ?_ hnone
        rw [← hstop _ (List.getLast?_eq_some_getLast hne)]
        exact List.getLast_mem hne

/-- How much of the log has been seen, with the offset and the queue in the ledger. -/
structure Polling where
  observed : ℕ
  logOffset : ℕ
  queue : List Dict

def Polling.initial : Polling := ⟨0, 0, []⟩

/-- The metrics and checkpoints among the updates. -/
def logEvents (queue : List Dict) : List Dict :=
  queue.filter fun p => Json.get p "kind" ≠ .str "log"

variable (r : Readers) (present : CheckpointExists) (source : LogSource) (content : List UInt8)

/-- A call when this much of the log is there. -/
def Polling.poll (size : ℕ) (p : Polling) : Polling :=
  let c := collectLog r present source p.logOffset (some (content.take size))
  ⟨size, c.logOffset, p.queue ++ c.queued⟩

inductive PollStep : Polling → ℕ → Polling → Prop
  | poll (p : Polling) (size : ℕ) (grows : p.observed ≤ size) (written : size ≤ content.length) :
      PollStep p size (p.poll r present source content size)

/-- What the poll takes from the log ends with a line, and its events can be stored. -/
structure TakesLines (x : Transition Polling ℕ) : Prop where
  stops : (∃ raw ∈ logBatch (content.take x.label) x.pre.logOffset, Visible r source raw) →
    StopsAtLine (logBatch (content.take x.label) x.pre.logOffset).flatten
      (content.drop x.pre.logOffset)
  writable : (∃ raw ∈ logBatch (content.take x.label) x.pre.logOffset, Visible r source raw) →
    ∀ raw ∈ logBatch (content.take x.label) x.pre.logOffset, EventsWritable r present source raw

def queuedEvent (e : Dict) : Dict := Json.set e "stage_ref" (refValue source.stageRef)

/-- What was queued so far are the events of the lines before the offset. -/
structure PolledLines (p : Polling) : Prop where
  observed : p.logOffset ≤ p.observed
  size : p.observed ≤ content.length
  lines : ∃ done shown events,
    cut newline content = done ++ cut newline (content.drop p.logOffset) ∧
      readLines r present source done = .ok (shown, events) ∧
        logEvents p.queue = events.map (queuedEvent source)

variable {r present source content}

theorem readLines_append {raws raws' : List (List UInt8)} {shown shown' : List String}
    {events events' : List Dict} (h : readLines r present source raws = .ok (shown, events))
    (h' : readLines r present source raws' = .ok (shown', events')) :
    readLines r present source (raws ++ raws') = .ok (shown ++ shown', events ++ events') := by
  induction raws generalizing shown events with
  | nil =>
    cases h
    exact h'
  | cons raw raws ih =>
    obtain ⟨event, shown₁, events₁, hevent, hrest, rfl, rfl⟩ := readLines_cons_eq_ok h
    rw [List.cons_append]
    unfold readLines
    dsimp only
    rw [hevent, ih hrest]
    change Except.ok _ = Except.ok _
    congr 1
    split <;> simp

theorem EventShape.kind_ne_log {e : Dict} (h : EventShape e) :
    Json.get (queuedEvent source e) "kind" ≠ .str "log" := by
  unfold queuedEvent
  rw [set_of_notMem h.stageRef_notMem]
  cases h with
  | checkpoint | metric => simp [Json.get_cons]

theorem logEvents_logUpdates {shown : List String} {events : List Dict} (hne : shown ≠ [])
    (h : ∀ e ∈ events, EventShape e) : logEvents (logUpdates source.stageRef shown events) =
      events.map (queuedEvent source) := by
  unfold logEvents logUpdates
  rw [if_neg hne, List.filter_append]
  have hlog : ((chunks (maxLogLineBytes - 1) (joinLines shown)).map
      (logUpdate source.stageRef)).filter (fun p => Json.get p "kind" ≠ .str "log") = [] := by
    rw [List.filter_eq_nil_iff, List.forall_mem_map]
    intro chunk _
    simp [logUpdate, payloadHead, Json.get_cons]
  rw [hlog, List.nil_append]
  refine List.filter_eq_self.2 (List.forall_mem_map.2 fun e he => ?_)
  exact decide_eq_true (h e he).kind_ne_log

variable {p p' : Polling} {size : ℕ}

theorem polledLines_initial : PolledLines r present source content .initial :=
  ⟨le_rfl, Nat.zero_le _, [], [], [], rfl, rfl, rfl⟩

theorem polledLines_of_step {x : Transition Polling ℕ}
    (hfits : ∀ line ∈ cut newline content,
      (line.takeWhile (· ≠ newline)).length ≤ maxLogLineBytes)
    (hp : PolledLines r present source content x.pre) (hx : TakesLines r present source content x)
    (h : PollStep r present source content x.pre x.label x.post) :
    PolledLines r present source content x.post := by
  obtain ⟨p, size, p'⟩ := x
  dsimp only at hp h ⊢
  cases h with
  | poll hgrows hsize =>
    have hseen : p.logOffset ≤ (content.take size).length := by
      have := hp.observed
      rw [List.length_take]
      omega
    have hend := collectLog_end r present source (content.take size) p.logOffset
    unfold Polling.poll
    revert hend
    generalize collectLog r present source p.logOffset (some (content.take size)) = c
    intro hend
    cases hend with
    | raised | blank =>
      refine ⟨hp.observed.trans hgrows, hsize, ?_⟩
      simpa using hp.lines
    | @taken shown events hread hv =>
      obtain ⟨done, shown', events', hcut, hdone, hqueue⟩ := hp.lines
      obtain ⟨-, hshown, hwritable⟩ := readLines_eq_ok hread
      have hne := hshown.2 hv
      have hshape := shape_of_readLines hread
      have hall := (writable_logUpdates source hne hshape).2
        (hwritable.2 (hx.writable hv))
      have hrest : (content.take size).drop p.logOffset <+: content.drop p.logOffset :=
        (List.take_prefix size content).drop p.logOffset
      have hbatch := cut_readBatch maxLogBatchLines maxLogBatchBytes hrest
        fun line hl => hfits line (hcut ▸ List.mem_append_right _ hl)
      have hlen := logOffset_add_le hseen
      have hstops := hx.stops hv
      dsimp only at hstops
      unfold logBatch at hread hstops hlen ⊢
      rw [startOffset_of_le hseen] at hread hstops hlen ⊢
      refine ⟨?_, hsize, done ++ _, shown' ++ shown, events' ++ events, ?_,
        readLines_append hdone hread, ?_⟩
      · rw [List.length_take] at hlen
        exact hlen.trans (min_le_left _ _)
      · rw [hcut, hbatch hstops, List.drop_drop, List.append_assoc]
      · rw [List.takeWhile_eq_self_iff.2 (by simpa using hall), logEvents, List.filter_append]
        rw [List.map_append]
        exact congrArg₂ (· ++ ·) hqueue (logEvents_logUpdates hne hshape)

theorem events_of_run {l : List (Transition Polling ℕ)}
    (hfits : ∀ line ∈ cut newline content,
      (line.takeWhile (· ≠ newline)).length ≤ maxLogLineBytes)
    (h : Run (PollStep r present source content) .initial l p)
    (hl : ∀ x ∈ l, TakesLines r present source content x) (hend : p.logOffset = content.length) :
    ∃ shown events, readLines r present source (cut newline content) = .ok (shown, events) ∧
      logEvents p.queue = events.map (queuedEvent source) := by
  have hinv := h.invariant polledLines_initial hl
    fun x hx hok hstep => polledLines_of_step hfits hx hok hstep
  obtain ⟨done, shown, events, hcut, hdone, hqueue⟩ := hinv.1.lines
  rw [hend, List.drop_length] at hcut
  obtain rfl : cut newline content = done := by simpa [cut] using hcut
  exact ⟨shown, events, hdone, hqueue⟩

/--
Two schedules of polls, each of which takes whole lines and consumes the log, queue the same
events: those of the lines of the log.
-/
theorem polling_times_agree (r : Readers) (present : CheckpointExists) (source : LogSource)
    (content : List UInt8) (hfits : ∀ line ∈ cut newline content,
      (line.takeWhile (· ≠ newline)).length ≤ maxLogLineBytes)
    {l l' : List (Transition Polling ℕ)} {p p' : Polling}
    (h : Run (PollStep r present source content) .initial l p)
    (h' : Run (PollStep r present source content) .initial l' p')
    (hl : ∀ x ∈ l, TakesLines r present source content x)
    (hl' : ∀ x ∈ l', TakesLines r present source content x)
    (hend : p.logOffset = content.length) (hend' : p'.logOffset = content.length) :
    logEvents p.queue = logEvents p'.queue ∧
      ∃ shown events, readLines r present source (cut newline content) = .ok (shown, events) ∧
        logEvents p.queue = events.map (queuedEvent source) := by
  obtain ⟨shown, events, hread, hqueue⟩ := events_of_run hfits h hl hend
  obtain ⟨shown', events', hread', hqueue'⟩ := events_of_run hfits h' hl' hend'
  rw [hread] at hread'
  cases hread'
  exact ⟨hqueue.trans hqueue'.symm, shown, events, hread, hqueue⟩

namespace Sample

/-- A poll of a log of one record. -/
def pollLoss (size : ℕ) (p : Polling) : Polling :=
  p.poll logReaders (fun _ => .ok true) (logSource .jsonl) lossLog size

theorem run_wholeLoss : Run (PollStep logReaders (fun _ => .ok true) (logSource .jsonl) lossLog)
    .initial [⟨.initial, 11, pollLoss 11 .initial⟩] (pollLoss 11 .initial) :=
  .single (.poll _ _ (Nat.zero_le _) (by decide))

end Sample

/-- A poll after five bytes of the record takes them as a line, and the metric is lost. -/
theorem cutRecord_lost : ∃ l l' p p',
    Run (PollStep Sample.logReaders (fun _ => .ok true) (Sample.logSource .jsonl) Sample.lossLog)
        .initial l p ∧
      Run (PollStep Sample.logReaders (fun _ => .ok true) (Sample.logSource .jsonl) Sample.lossLog)
        .initial l' p' ∧
      p.logOffset = Sample.lossLog.length ∧ p'.logOffset = Sample.lossLog.length ∧
      logEvents p.queue ≠ logEvents p'.queue := by
  have hcut := (Run.single (.poll .initial 5 (Nat.zero_le _) (by decide)) :
    Run (PollStep Sample.logReaders (fun _ => .ok true) (Sample.logSource .jsonl) Sample.lossLog)
      .initial [⟨.initial, 5, Sample.pollLoss 5 .initial⟩] (Sample.pollLoss 5 .initial))
  refine ⟨_, _, _, _, Sample.run_wholeLoss,
    hcut.snoc (.poll _ 11 (by decide) (by decide)), ?_, ?_, ?_⟩
  · decide +kernel
  · decide +kernel
  · decide +kernel

theorem polling_times_agree_wholeLoss : ∃ p : Polling, p.logOffset = Sample.lossLog.length ∧
    ∃ shown events, readLines Sample.logReaders (fun _ => .ok true) (Sample.logSource .jsonl)
        (cut newline Sample.lossLog) = .ok (shown, events) ∧
      logEvents p.queue = events.map (queuedEvent (Sample.logSource .jsonl)) := by
  have hend : (Sample.pollLoss 11 .initial).logOffset = Sample.lossLog.length := by decide +kernel
  have htakes : ∀ x ∈ [(⟨.initial, 11, Sample.pollLoss 11 .initial⟩ : Transition Polling ℕ)],
      TakesLines Sample.logReaders (fun _ => .ok true) (Sample.logSource .jsonl)
        Sample.lossLog x := by
    rw [List.forall_mem_singleton]
    exact ⟨fun _ => by decide +kernel, fun _ => by decide +kernel⟩
  exact ⟨_, hend, (polling_times_agree Sample.logReaders (fun _ => .ok true)
    (Sample.logSource .jsonl) Sample.lossLog (by decide +kernel) Sample.run_wholeLoss
    Sample.run_wholeLoss htakes htakes hend hend).2⟩

end DataJuicer.TrainingWorker
