import DataJuicer.PublicContract.NeverRaises

/-! # One phase of a turn

What a call does to the state of one phase, and what the events of the phase are like. The
invariant relates the state to all events of the phase that were given.
-/

namespace DataJuicer.PublicContract

variable {cfg : ProjectorConfig} {D : Requirement} {now : Seconds} {ref : String}
  {act : String → ActionSignal → Prop} {key : ProgressKey} {st : ProgressState} {call : Call}

inductive PhaseEvent
  | start (summary : Option String)
  | delta (summary : String)
  | ended

namespace PhaseEvent

def text : PhaseEvent → Option String
  | start summary => summary
  | delta summary => some summary
  | ended => none

def IsStart (e : PhaseEvent) : Prop := ∃ summary, e = start summary

def IsDelta (e : PhaseEvent) : Prop := ∃ summary, e = delta summary

end PhaseEvent

def phaseEvent : String × EventBody → Option (ProgressKey × PhaseEvent)
  | (turnId, .progressStart ph summary _) => some ((turnId, ph), .start summary)
  | (turnId, .progressDelta ph summary _) => some ((turnId, ph), .delta summary)
  | (turnId, .progressEnd ph _ _) => some ((turnId, ph), .ended)
  | _ => none

def eventOf (key : ProgressKey) (e : String × EventBody) : Option PhaseEvent :=
  match phaseEvent e with
  | some (k, pe) => if k = key then some pe else none
  | none => none

/-- The flush at the end of a phase or of a turn does not wait, nor one with `force=True`. -/
def Call.Forced : Call → Prop
  | project s _ _ => ∃ parsed, validateSpecialistSignal s = .ok parsed ∧
    ((∃ p, parsed.body = .progress p ∧ p.operation = .finish) ∨ ∃ f, parsed.body = .final f)
  | flush _ _ force => force = true

/-- A `progress_delta` that is not forced. -/
def Unforced (e : PhaseEvent × Call) : Prop := e.1.IsDelta ∧ ¬ e.2.Forced

def textsOf (l : List (PhaseEvent × Call)) : List String := l.filterMap fun e => e.1.text

structure PhaseOrder (cfg : ProjectorConfig) (l : List (PhaseEvent × Call)) : Prop where
  one_start : l.Pairwise fun a b => ¬ (a.1.IsStart ∧ b.1.IsStart)
  end_last : l.Pairwise fun a _ => a.1 ≠ .ended
  texts_le : (textsOf l).length ≤ progressUpdatesPerPhase
  spaced : l.Pairwise fun a b => Unforced a → Unforced b →
    cfg.coalesceSeconds ≤ b.2.time - a.2.time

def StartsFirst (l : List (PhaseEvent × Call)) : Prop :=
  ∀ l₁ e l₂, l = l₁ ++ e :: l₂ → ¬ e.1.IsStart → ∃ s ∈ l₁, s.1.IsStart

def ProgressState.marked (st : ProgressState) (text : String) (now : Seconds) : ProgressState :=
  { st with
    emittedTexts := text :: st.emittedTexts
    updateCount := st.updateCount + 1
    lastEmitAt := some now }

inductive PhaseStep (cfg : ProjectorConfig) (D : Requirement) (now : Seconds) (ref : String)
    (key : ProgressKey) : Option ProgressState → List PhaseEvent → Option ProgressState → Prop
  | same (o : Option ProgressState) : PhaseStep cfg D now ref key o [] o
  | start : PhaseStep cfg D now ref key none [.start none]
      (some ((ProgressState.new ref).opened now))
  | startText (text : String) : PhaseStep cfg D now ref key none [.start (some text)]
      (some (((ProgressState.new ref).opened now).marked text now))
  | queue {st st' : ProgressState} (hsame : st'.cleared = st.cleared)
      (hopen : st'.pendingTexts ≠ [] → st.pendingTexts = [] → st.finished = false) :
      PhaseStep cfg D now ref key (some st) [] (some st')
  | delta {st : ProgressState} (hpending : st.pendingTexts ≠ [])
      (hbudget : st.updateCount < progressUpdatesPerPhase) (hD : D key st) :
      PhaseStep cfg D now ref key (some st) [.delta (pendingSummary cfg st)]
        (some (st.cleared.marked (pendingSummary cfg st) now))
  | finish {st : ProgressState} (hnone : st.pendingTexts = []) (hopen : st.finished = false) :
      PhaseStep cfg D now ref key (some st) [.ended] (some { st with finished := true })

theorem eventOf_of_phase {e : String × EventBody} {k : ProgressKey} {pe : PhaseEvent}
    (h : phaseEvent e = some (k, pe)) : eventOf key e = if k = key then some pe else none := by
  unfold eventOf
  rw [h]

theorem eventOf_of_none {e : String × EventBody} (h : phaseEvent e = none) :
    eventOf key e = none := by
  unfold eventOf
  rw [h]

def eventsOf (key : ProgressKey) (es : Given) : List PhaseEvent := es.filterMap (eventOf key)

theorem eventsOf_single {e : String × EventBody} {k : ProgressKey} {pe : PhaseEvent}
    (h : phaseEvent e = some (k, pe)) : eventsOf key [e] = if k = key then [pe] else [] := by
  unfold eventsOf
  rw [List.filterMap_cons, List.filterMap_nil, eventOf_of_phase h]
  by_cases hk : k = key
  · rw [if_pos hk, if_pos hk]
  · rw [if_neg hk, if_neg hk]

theorem eventsOf_other {e : String × EventBody} (h : phaseEvent e = none) :
    eventsOf key [e] = [] := by
  unfold eventsOf
  rw [List.filterMap_cons, List.filterMap_nil, eventOf_of_none h]

theorem phaseStep_put {w : Projector} {k : ProgressKey} {e : String × EventBody} {pe : PhaseEvent}
    {t : ProgressState} (he : phaseEvent e = some (k, pe))
    (h : PhaseStep cfg D now ref k (w.progress.lookup k) [pe] (some t)) :
    PhaseStep cfg D now ref key (w.progress.lookup key) (eventsOf key [e])
      ((w.put k t).progress.lookup key) := by
  rw [eventsOf_single he]
  by_cases hk : key = k
  · subst hk
    rw [if_pos rfl, lookup_put]
    exact h
  · rw [if_neg (Ne.symm hk), lookup_put_ne hk]
    exact .same _

theorem phaseStep_of_move {w w' : Projector} {es : Given} (h : Move cfg D now ref act w es w')
    (key : ProgressKey) :
    PhaseStep cfg D now ref key (w.progress.lookup key) (eventsOf key es)
      (w'.progress.lookup key) := by
  cases h with
  | @start k hnone =>
    apply phaseStep_put rfl
    rw [hnone]
    exact .start
  | @startText k text count hnone hbudget =>
    apply phaseStep_put (t := ((ProgressState.new ref).opened now).marked text now) rfl
    rw [hnone]
    exact .startText text
  | @queue k st st' hst hsame hopen =>
    by_cases hk : key = k
    · subst hk
      rw [hst, lookup_put]
      exact .queue hsame hopen
    · rw [lookup_put_ne hk]
      exact .same _
  | @delta k st hst hemits hD =>
    apply phaseStep_put (t := st.cleared.marked (pendingSummary cfg st) now) rfl
    rw [hst]
    exact .delta hemits.1 hemits.2.1 hD
  | @finish k st status count hst hnone hopen =>
    apply phaseStep_put rfl
    rw [hst]
    exact .finish hnone hopen
  | action hact h =>
    rw [actionOf_progress, eventsOf_other rfl]
    exact .same _
  | input => rw [eventsOf_other rfl]; exact .same _
  | artifact => rw [eventsOf_other rfl]; exact .same _
  | final => rw [eventsOf_other rfl]; exact .same _
  | see => exact .same _

section Order

variable {l : List (PhaseEvent × Call)} {e : PhaseEvent × Call}

theorem textsOf_append {l' : List (PhaseEvent × Call)} :
    textsOf (l ++ l') = textsOf l ++ textsOf l' := List.filterMap_append

theorem textsOf_none (h : e.1.text = none) : textsOf [e] = [] := by
  unfold textsOf
  rw [List.filterMap_cons, List.filterMap_nil, h]

theorem textsOf_some {t : String} (h : e.1.text = some t) : textsOf [e] = [t] := by
  unfold textsOf
  rw [List.filterMap_cons, List.filterMap_nil, h]

theorem PhaseOrder.sublist {l' : List (PhaseEvent × Call)} (h : PhaseOrder cfg l')
    (hl : l.Sublist l') : PhaseOrder cfg l where
  one_start := h.one_start.sublist hl
  end_last := h.end_last.sublist hl
  texts_le := (hl.filterMap _).length_le.trans h.texts_le
  spaced := h.spaced.sublist hl

theorem pairwise_concat {α : Type} {R : α → α → Prop} {l : List α} {x : α}
    (h : l.Pairwise R) (hx : ∀ a ∈ l, R a x) : (l ++ [x]).Pairwise R := by
  rw [List.pairwise_append]
  refine ⟨h, List.pairwise_singleton R x, fun a ha b hb => ?_⟩
  rw [List.mem_singleton.1 hb]
  exact hx a ha

/-- One more event is in order. -/
theorem PhaseOrder.concat (h : PhaseOrder cfg l)
    (hstart : e.1.IsStart → l = []) (hend : ∀ a ∈ l, a.1 ≠ .ended)
    (htext : ∀ t ∈ e.1.text, (textsOf l).length < progressUpdatesPerPhase)
    (hspaced : Unforced e → ∀ a ∈ l, Unforced a → cfg.coalesceSeconds ≤ e.2.time - a.2.time) :
    PhaseOrder cfg (l ++ [e]) := by
  constructor
  · apply pairwise_concat h.one_start
    rintro a ha ⟨-, he⟩
    rw [hstart he] at ha
    cases ha
  · exact pairwise_concat h.end_last hend
  · rw [textsOf_append]
    cases ht : e.1.text with
    | none =>
      rw [textsOf_none ht, List.append_nil]
      exact h.texts_le
    | some t =>
      rw [textsOf_some ht, List.length_append, List.length_singleton]
      exact htext t ht
  · exact pairwise_concat h.spaced fun a ha hu he => hspaced he a ha hu

theorem StartsFirst.nil : StartsFirst [] := by
  intro l₁ e l₂ h
  simp at h

theorem StartsFirst.concat (h : StartsFirst l) (hfirst : ¬ e.1.IsStart → ∃ s ∈ l, s.1.IsStart) :
    StartsFirst (l ++ [e]) := forall_split_concat.2 ⟨h, hfirst⟩

end Order

/-- A call that is not forced shows held back texts only when enough time has passed. -/
def Waits (cfg : ProjectorConfig) (call : Call) : Requirement := fun _ st =>
  call.Forced ∨ ¬ st.Soon cfg call.time

structure PhaseLink (cfg : ProjectorConfig) (l : List (PhaseEvent × Call))
    (o : Option ProgressState) : Prop where
  order : PhaseOrder cfg l
  first : StartsFirst l
  closed : o = none → l = []
  opened : ∀ st ∈ o, ∃ e ∈ l, e.1.IsStart
  ended : ∀ e ∈ l, e.1 = .ended → ∀ st ∈ o, st.finished = true
  finished : ∀ st ∈ o, st.finished = true → st.pendingTexts = []
  texts : ∀ st ∈ o, textsOf l = st.emittedTexts.reverse ∧ st.updateCount = st.emittedTexts.length
  spaced : ∀ e ∈ l, Unforced e → ∀ st ∈ o,
    st.lastEmitAt = some e.2.time ∨ progressUpdatesPerPhase ≤ st.updateCount

theorem phaseLink_nil : PhaseLink cfg [] none where
  order := ⟨.nil, .nil, Nat.zero_le _, .nil⟩
  first := .nil
  closed _ := rfl
  opened _ h := nomatch h
  ended _ h := nomatch h
  finished _ h := nomatch h
  texts _ h := nomatch h
  spaced _ h := nomatch h

section Link

variable {l : List (PhaseEvent × Call)} {o o' : Option ProgressState} {pes : List PhaseEvent}

theorem PhaseLink.updateCount (h : PhaseLink cfg l (some st)) :
    st.updateCount = (textsOf l).length := by
  obtain ⟨htexts, hcount⟩ := h.texts st rfl
  rw [htexts, List.length_reverse, hcount]

/-- The first event of a phase. -/
theorem phaseLink_start {summary : Option String} (hsome : (∃ t, summary = some t ∧
    st = ((ProgressState.new ref).opened now).marked t now) ∨
      summary = none ∧ st = (ProgressState.new ref).opened now) :
    PhaseLink cfg [(.start summary, call)] (some st) := by
  have hstart : PhaseEvent.IsStart (.start summary) := ⟨summary, rfl⟩
  have horder : PhaseOrder cfg ([] ++ [(.start summary, call)]) := by
    refine phaseLink_nil.order.concat (fun _ => rfl) (fun _ h => nomatch h)
      (fun _ _ => Nat.zero_lt_two) ?_
    rintro ⟨⟨t, ht⟩, -⟩
    cases ht
  have hfirst : StartsFirst ([] ++ [(PhaseEvent.start summary, call)]) :=
    StartsFirst.nil.concat fun h => absurd hstart h
  refine ⟨horder, hfirst, fun h => (nomatch h), ?_, ?_, ?_, ?_, ?_⟩
  · exact fun _ _ => ⟨_, List.mem_cons_self, hstart⟩
  · intro e he hended
    rw [List.mem_singleton.1 he] at hended
    cases hended
  · rintro _ ⟨⟩ -
    rcases hsome with ⟨t, -, rfl⟩ | ⟨-, rfl⟩ <;> rfl
  · rintro _ ⟨⟩
    rcases hsome with ⟨t, rfl, rfl⟩ | ⟨rfl, rfl⟩ <;> exact ⟨rfl, rfl⟩
  · rintro e he ⟨⟨t, ht⟩, -⟩
    rw [List.mem_singleton.1 he] at ht
    cases ht

/-- Only what is held back changes. -/
theorem PhaseLink.queue {st' : ProgressState} (h : PhaseLink cfg l (some st))
    (hsame : st'.cleared = st.cleared)
    (hopen : st'.pendingTexts ≠ [] → st.pendingTexts = [] → st.finished = false) :
    PhaseLink cfg l (some st') := by
  have hfinished : st'.finished = st.finished := (ProgressState.mk.inj hsame).2.2.1
  have htexts : st'.emittedTexts = st.emittedTexts := (ProgressState.mk.inj hsame).2.2.2.1
  have hcount : st'.updateCount = st.updateCount := (ProgressState.mk.inj hsame).2.2.2.2.1
  have hlast : st'.lastEmitAt = st.lastEmitAt := (ProgressState.mk.inj hsame).2.2.2.2.2.1
  refine ⟨h.order, h.first, fun hnone => (nomatch hnone), ?_, ?_, ?_, ?_, ?_⟩
  · exact fun _ _ => h.opened st rfl
  · rintro e he hended _ ⟨⟩
    rw [hfinished]
    exact h.ended e he hended st rfl
  · rintro _ ⟨⟩ hend
    rw [hfinished] at hend
    by_contra hpending
    have hnot := hopen hpending (h.finished st rfl hend)
    rw [hend] at hnot
    cases hnot
  · rintro _ ⟨⟩
    rw [htexts, hcount]
    exact h.texts st rfl
  · rintro e he hunforced _ ⟨⟩
    rw [hlast, hcount]
    exact h.spaced e he hunforced st rfl

/-- Held back texts are shown. -/
theorem PhaseLink.delta {text : String} (h : PhaseLink cfg l (some st))
    (hpending : st.pendingTexts ≠ []) (hbudget : st.updateCount < progressUpdatesPerPhase)
    (hwaits : Waits cfg call key st) :
    PhaseLink cfg (l ++ [(.delta text, call)]) (some (st.cleared.marked text call.time)) := by
  have hnotStart : ¬ PhaseEvent.IsStart (.delta text) := by
    rintro ⟨t, ht⟩
    cases ht
  have hend : ∀ a ∈ l, a.1 ≠ .ended := fun a ha hended =>
    hpending (h.finished st rfl (h.ended a ha hended st rfl))
  have hspaced : ∀ a ∈ l, Unforced a → st.lastEmitAt = some a.2.time := fun a ha hu =>
    (h.spaced a ha hu st rfl).resolve_right (Nat.not_le.2 hbudget)
  refine ⟨h.order.concat (fun hs => absurd hs hnotStart) hend (fun _ _ => ?_) ?_,
    h.first.concat fun _ => h.opened st rfl, fun hnone => (nomatch hnone), ?_, ?_, ?_, ?_, ?_⟩
  · rwa [← h.updateCount]
  · intro hunforced a ha hu
    rcases hwaits with hforced | hsoon
    · exact absurd hforced hunforced.2
    · exact not_lt.1 fun hlt => hsoon ⟨_, hspaced a ha hu, hlt⟩
  · rintro _ -
    obtain ⟨e, he, hstart⟩ := h.opened st rfl
    exact ⟨e, List.mem_append_left _ he, hstart⟩
  · intro e he hended
    rcases List.mem_append.1 he with he | he
    · exact absurd hended (hend e he)
    · rw [List.mem_singleton.1 he] at hended
      cases hended
  · rintro _ ⟨⟩ -
    rfl
  · rintro _ ⟨⟩
    obtain ⟨htexts, hcount⟩ := h.texts st rfl
    constructor
    · rw [textsOf_append, htexts, textsOf_some rfl]
      exact List.reverse_cons.symm
    · exact congrArg (· + 1) hcount
  · rintro e he hunforced _ ⟨⟩
    rcases List.mem_append.1 he with he | he
    · -- The earlier text and this one use up the budget of the phase.
      right
      obtain ⟨text', htext'⟩ := hunforced.1
      have hmem : text' ∈ textsOf l := List.mem_filterMap.2 ⟨e, he, by rw [htext']; rfl⟩
      have hpos := List.length_pos_of_mem hmem
      rw [← h.updateCount] at hpos
      exact Nat.succ_le_succ hpos
    · left
      rw [List.mem_singleton.1 he]
      rfl

theorem PhaseLink.finish (h : PhaseLink cfg l (some st)) (hnone : st.pendingTexts = [])
    (hopen : st.finished = false) :
    PhaseLink cfg (l ++ [(.ended, call)]) (some { st with finished := true }) := by
  have hnotStart : ¬ PhaseEvent.IsStart .ended := by
    rintro ⟨t, ht⟩
    cases ht
  have hend : ∀ a ∈ l, a.1 ≠ .ended := fun a ha hended => by
    have hfinished := h.ended a ha hended st rfl
    rw [hopen] at hfinished
    cases hfinished
  refine ⟨h.order.concat (fun hs => absurd hs hnotStart) hend (fun _ ht => (nomatch ht)) ?_,
    h.first.concat fun _ => h.opened st rfl, fun hnone => (nomatch hnone), ?_, ?_, ?_, ?_, ?_⟩
  · rintro ⟨⟨t, ht⟩, -⟩
    cases ht
  · rintro _ -
    obtain ⟨e, he, hstart⟩ := h.opened st rfl
    exact ⟨e, List.mem_append_left _ he, hstart⟩
  · rintro e - - _ ⟨⟩
    rfl
  · rintro _ ⟨⟩ -
    exact hnone
  · rintro _ ⟨⟩
    rw [textsOf_append, textsOf_none rfl, List.append_nil]
    exact h.texts st rfl
  · rintro e he hunforced _ ⟨⟩
    rcases List.mem_append.1 he with he | he
    · exact h.spaced e he hunforced st rfl
    · obtain ⟨t, ht⟩ := hunforced.1
      rw [List.mem_singleton.1 he] at ht
      cases ht

theorem PhaseLink.step (h : PhaseLink cfg l o)
    (hstep : PhaseStep cfg (Waits cfg call) call.time ref key o pes o') :
    PhaseLink cfg (l ++ pes.map fun pe => (pe, call)) o' := by
  cases hstep with
  | same =>
    rw [List.map_nil, List.append_nil]
    exact h
  | start =>
    rw [h.closed rfl]
    exact phaseLink_start (.inr ⟨rfl, rfl⟩)
  | startText text =>
    rw [h.closed rfl]
    exact phaseLink_start (.inl ⟨text, rfl, rfl⟩)
  | queue hsame hopen =>
    rw [List.map_nil, List.append_nil]
    exact h.queue hsame hopen
  | delta hpending hbudget hwaits => exact h.delta hpending hbudget hwaits
  | finish hnone hopen => exact h.finish hnone hopen

end Link

end DataJuicer.PublicContract
