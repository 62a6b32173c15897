import DataJuicer.PublicContract.Phases

/-! # Progress that is shown

What the events of a run are like, for each phase and for each turn. A call that raises loses the
events that it has built, so the invariant speaks of all events that were built, and what is shown
is some of them.
-/

namespace DataJuicer.PublicContract

variable {cfg : ProjectorConfig} {now : Seconds} {ref : String}
  {act : String → ActionSignal → Prop} {key : ProgressKey} {st : ProgressState} {call : Call}
  {w w' : Projector} {D : Requirement} {es : Given}

/-- The events that were built, each with its call. -/
abbrev Built := List ((String × EventBody) × Call)

def phaseOf (key : ProgressKey) (l : Built) : List (PhaseEvent × Call) :=
  l.filterMap fun e => (eventOf key e.1).map fun pe => (pe, e.2)

def progressText (turnId : String) (e : String × EventBody) : Option String :=
  if e.1 = turnId then (phaseEvent e).bind fun pe => pe.2.text else none

def turnTexts (turnId : String) (l : Built) : List String :=
  l.filterMap fun e => progressText turnId e.1

def Given.by (es : Given) (call : Call) : Built := es.map fun e => (e, call)

/-- The events that the calls of a run have given. -/
def shown (xs : List Projected) : Built :=
  xs.flatMap fun x =>
    match x.label.2 with
    | .ok out => (given out).by x.label.1
    | .error _ => []

theorem phaseOf_append (l l' : Built) : phaseOf key (l ++ l') = phaseOf key l ++ phaseOf key l' :=
  List.filterMap_append

theorem turnTexts_append (turnId : String) (l l' : Built) :
    turnTexts turnId (l ++ l') = turnTexts turnId l ++ turnTexts turnId l' := List.filterMap_append

theorem phaseOf_by (es : Given) :
    phaseOf key (es.by call) = (eventsOf key es).map fun pe => (pe, call) := by
  unfold phaseOf Given.by eventsOf
  rw [List.filterMap_map, List.map_filterMap]
  rfl

theorem turnTexts_by (turnId : String) (es : Given) :
    turnTexts turnId (es.by call) = es.filterMap (progressText turnId) := by
  unfold turnTexts Given.by
  rw [List.filterMap_map]
  rfl

theorem shown_append (xs ys : List Projected) : shown (xs ++ ys) = shown xs ++ shown ys :=
  List.flatMap_append

theorem shown_single {x : Projected} {out : List (String × PublicEvent)} (h : x.label.2 = .ok out) :
    shown [x] = (given out).by x.label.1 := by
  unfold shown
  rw [List.flatMap_singleton, h]

structure TurnLink (l : Built) (w : Projector) (turnId : String) : Prop where
  count : (turnTexts turnId l).length = w.turnUpdates turnId
  count_le : w.turnUpdates turnId ≤ progressUpdatesPerTurn

def CountStep (turnId : String) (w : Projector) (es : Given) (w' : Projector) : Prop :=
  (es.filterMap (progressText turnId) = [] ∧ w'.turnUpdates turnId = w.turnUpdates turnId) ∨
    ((es.filterMap (progressText turnId)).length = 1 ∧
      w.turnUpdates turnId < progressUpdatesPerTurn ∧
      w'.turnUpdates turnId = w.turnUpdates turnId + 1)

theorem countStep_other {turnId : String} {e : String × EventBody}
    (h : (phaseEvent e).bind (fun pe => pe.2.text) = none) (hw : w'.turnUpdates = w.turnUpdates) :
    CountStep turnId w [e] w' := by
  refine .inl ⟨?_, congrFun hw turnId⟩
  rw [List.filterMap_cons, progressText, h, ite_self, List.filterMap_nil]

theorem countStep_text {turnId text : String} {k : ProgressKey} {e : EventBody} {pe : PhaseEvent}
    (h : phaseEvent (k.1, e) = some (k, pe)) (htext : pe.text = some text)
    (hbudget : w.turnUpdates k.1 < progressUpdatesPerTurn) :
    CountStep turnId w [(k.1, e)] (w.markEmitted k st text now) := by
  by_cases hk : k.1 = turnId
  · subst hk
    refine .inr ⟨?_, hbudget, Function.update_self ..⟩
    rw [List.filterMap_cons, progressText, if_pos rfl, h, Option.bind_some, htext]
    rfl
  · refine .inl ⟨?_, Function.update_of_ne (Ne.symm hk) _ _⟩
    rw [List.filterMap_cons, progressText, if_neg hk]
    rfl

theorem actionOf_turnUpdates (w : Projector) (turnId callId : String) (d : PublicActionDefinition) :
    (w.actionOf turnId callId d).2.turnUpdates = w.turnUpdates := by
  unfold Projector.actionOf Projector.groupedAction
  split
  · cases w.groupedActions (turnId, d.group) <;> rfl
  · cases w.actionsByCall (turnId, callId) <;> rfl

theorem countStep_of_move (h : Move cfg D now ref act w es w') (turnId : String) :
    CountStep turnId w es w' := by
  cases h with
  | start hnone => exact countStep_other rfl rfl
  | startText hnone hbudget => exact countStep_text rfl rfl hbudget.2
  | queue => exact .inl ⟨rfl, rfl⟩
  | delta hst hemits hD => exact countStep_text rfl rfl hemits.2.2
  | finish hst hnone hopen => exact countStep_other rfl rfl
  | action hact h => exact countStep_other rfl (actionOf_turnUpdates _ _ _ _)
  | input | artifact | final => exact countStep_other rfl rfl
  | see => exact .inl ⟨rfl, rfl⟩

theorem TurnLink.step {l : Built} {turnId : String} (h : TurnLink l w turnId)
    (hstep : CountStep turnId w es w') : TurnLink (l ++ es.by call) w' turnId := by
  have htexts : turnTexts turnId (l ++ es.by call) =
      turnTexts turnId l ++ es.filterMap (progressText turnId) := by
    rw [turnTexts_append, turnTexts_by]
  rcases hstep with ⟨hnone, hsame⟩ | ⟨hone, hbudget, hnext⟩
  · constructor
    · rw [htexts, hnone, List.append_nil, hsame]
      exact h.count
    · rw [hsame]
      exact h.count_le
  · constructor
    · rw [htexts, List.length_append, hone, h.count, hnext]
    · rw [hnext]
      exact hbudget

/-- The events that were built and the state. -/
structure HistoryLink (cfg : ProjectorConfig) (l : Built) (w : Projector) : Prop where
  phases : ∀ key, PhaseLink cfg (phaseOf key l) (w.progress.lookup key)
  turns : ∀ turnId, TurnLink l w turnId

theorem historyLink_new : HistoryLink cfg [] .new where
  phases key := by
    rw [lookup_new]
    exact phaseLink_nil
  turns _ := ⟨rfl, Nat.zero_le _⟩

theorem Given.by_append (es es' : Given) : Given.by (es ++ es') call = es.by call ++ es'.by call :=
  List.map_append

theorem HistoryLink.path {l : Built} (h : HistoryLink cfg l w)
    (hpath : Path cfg (Waits cfg call) call.time ref act w es w') :
    HistoryLink cfg (l ++ es.by call) w' := by
  induction hpath with
  | nil => simpa [Given.by] using h
  | snoc _ hmove ih =>
    rw [Given.by_append, ← List.append_assoc]
    constructor
    · intro key
      rw [phaseOf_append, phaseOf_by]
      exact (ih.phases key).step (phaseStep_of_move hmove key)
    · exact fun turnId => (ih.turns turnId).step (countStep_of_move hmove turnId)

theorem soon_of_cleared {st' : ProgressState} (h : st'.cleared = st.cleared) :
    st'.Soon cfg now ↔ st.Soon cfg now := by
  have hlast : st'.lastEmitAt = st.lastEmitAt := (ProgressState.mk.inj h).2.2.2.2.2.1
  unfold ProgressState.Soon
  rw [hlast]

theorem flushMeets_waits (call : Call) {force : Bool} {keys : List ProgressKey}
    (hforce : force = true → call.Forced) :
    FlushMeets cfg (Waits cfg call) call.time force w keys := by
  induction keys generalizing w with
  | nil => trivial
  | cons key keys ih =>
    refine ⟨fun st _ hshown _ => ?_, fun _ _ _ => ih⟩
    cases force with
    | true => exact .inl (hforce rfl)
    | false => exact .inr fun hsoon => hshown (.inr ⟨rfl, hsoon⟩)

theorem callMeets_waits (w : Projector) (call : Call) : CallMeets cfg (Waits cfg call) w call := by
  cases call with
  | flush now turnId force => exact flushMeets_waits (.flush now turnId force) id
  | project s taskRef now =>
    intro parsed hparsed _
    unfold BodyMeets
    split
    · next p hbody =>
      dsimp only
      intro _
      unfold ProgressMeets
      split
      · next hop =>
        exact flushMeets_waits (.project s taskRef now)
          fun _ => ⟨parsed, hparsed, .inl ⟨p, hbody, hop⟩⟩
      · exact fun _ _ hsoon _ => .inr fun h => hsoon ((soon_of_cleared appendQueued_cleared).1 h)
    · next f hbody =>
      exact flushMeets_waits (.project s taskRef now)
        fun _ => ⟨parsed, hparsed, .inr ⟨f, hbody⟩⟩
    · trivial

/-- The call does not raise. -/
def Answers (x : Projected) : Prop := ∃ out, x.label.2 = .ok out

structure TurnOrder (cfg : ProjectorConfig) (turnId : String) (xs : List Projected) : Prop where
  phases : ∀ ph, PhaseOrder cfg (phaseOf (turnId, ph) (shown xs))
  texts_le : (turnTexts turnId (shown xs)).length ≤ progressUpdatesPerTurn
  starts : (∀ x ∈ xs, Answers x) → ∀ ph, StartsFirst (phaseOf (turnId, ph) (shown xs))

/-- The events that a run shows are some of those that were built, and all when no call raises. -/
theorem exists_built {xs : List Projected} (h : Run (projection cfg).step .new xs w) :
    Opened w ∧ ∃ l, HistoryLink cfg l w ∧ (shown xs).Sublist l ∧
      ((∀ x ∈ xs, Answers x) → shown xs = l) := by
  induction h with
  | nil => exact ⟨opened_new, [], historyLink_new, List.Sublist.refl _, fun _ => rfl⟩
  | @snoc u v xs e hrun hstep ih =>
    obtain ⟨hopened, l, hlink, hsub, hall⟩ := ih
    obtain ⟨es, hpath, -, hout⟩ := exists_path hopened (callMeets_waits u e.1) hstep
    have hshown : (shown [(⟨u, e, v⟩ : Projected)]).Sublist (es.by e.1) ∧
        (Answers ⟨u, e, v⟩ → shown [(⟨u, e, v⟩ : Projected)] = es.by e.1) := by
      cases hreply : e.2 with
      | ok out =>
        rw [shown_single hreply, hout out hreply]
        exact ⟨List.Sublist.refl _, fun _ => rfl⟩
      | error err =>
        constructor
        · unfold shown
          rw [List.flatMap_singleton, hreply]
          exact List.nil_sublist _
        · rintro ⟨out, hanswer⟩
          rw [hreply] at hanswer
          cases hanswer
    refine ⟨opened_of_path hpath hopened, l ++ es.by e.1, hlink.path hpath, ?_, fun hanswers => ?_⟩
    · rw [shown_append]
      exact hsub.append hshown.1
    · rw [shown_append, hall fun x hx => hanswers x (List.mem_append_left _ hx),
        hshown.2 (hanswers _ List.mem_concat_self)]

/--
In every run of a new projector the progress of each phase has one start and nothing after its end,
its texts keep to the budgets and to the pauses, and nothing comes before the start when no call
raises.
-/
theorem shown_in_order {xs : List Projected} (h : Run (projection cfg).step .new xs w)
    (turnId : String) : TurnOrder cfg turnId xs := by
  obtain ⟨-, l, hlink, hsub, hall⟩ := exists_built h
  constructor
  · exact fun ph => (hlink.phases (turnId, ph)).order.sublist (hsub.filterMap _)
  · have hturn := hlink.turns turnId
    calc (turnTexts turnId (shown xs)).length
        ≤ (turnTexts turnId l).length := (hsub.filterMap _).length_le
      _ = w.turnUpdates turnId := hturn.count
      _ ≤ progressUpdatesPerTurn := hturn.count_le
  · intro hanswers ph
    rw [hall hanswers]
    exact (hlink.phases (turnId, ph)).first

def plainCalls : List Call :=
  [.project (sampleProgress "s1" .start (some "a")) "task_ref_1" 0,
    .project (sampleProgress "s2" .append (some "b")) "task_ref_1" 5]

def plainRun : List Projected := (projection sampleConfig).serve .new plainCalls

theorem shown_in_order_plain : plainRun.length = 2 ∧ TurnOrder sampleConfig "turn-1" plainRun :=
  ⟨rfl, shown_in_order ((projection sampleConfig).serve_run .new plainCalls) "turn-1"⟩

end DataJuicer.PublicContract
