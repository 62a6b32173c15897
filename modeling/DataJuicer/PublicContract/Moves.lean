import DataJuicer.PublicContract.Conditions

/-! # What a call does to the state

Whether a call returns or raises, it takes a path of small moves. A move changes the state of one
phase, or the tables of the actions, and gives at most one event.
-/

namespace DataJuicer.PublicContract

open Raising

/-- Events with their turns. -/
abbrev Given := List (String × EventBody)

/-- One move of a call at the time `now` with the reference `ref`, where the held back texts that
are shown meet `D` and the actions are those of `act`. -/
inductive Move (cfg : ProjectorConfig) (D : Requirement) (now : Seconds) (ref : String)
    (act : String → ActionSignal → Prop) : Projector → Given → Projector → Prop
  | start {w : Projector} {key : ProgressKey}
      (h : w.progress.lookup key = none) :
      Move cfg D now ref act w [(key.1, .progressStart key.2 none none)]
        (w.put key ((ProgressState.new ref).opened now))
  | startText {w : Projector} {key : ProgressKey} {text : String} {count : Option Count}
      (h : w.progress.lookup key = none) (hbudget : w.CanEmit key.1 (.new ref)) :
      Move cfg D now ref act w [(key.1, .progressStart key.2 (some text) count)]
        (w.markEmitted key ((ProgressState.new ref).opened now) text now)
  | queue {w : Projector} {key : ProgressKey} {st st' : ProgressState}
      (h : w.progress.lookup key = some st) (hsame : st'.cleared = st.cleared)
      (hopen : st'.pendingTexts ≠ [] → st.pendingTexts = [] → st.finished = false) :
      Move cfg D now ref act w [] (w.put key st')
  | delta {w : Projector} {key : ProgressKey} {st : ProgressState}
      (h : w.progress.lookup key = some st) (hemits : Emits w key st) (hD : D key st) :
      Move cfg D now ref act w [(key.1, deltaBody cfg key st)]
        (w.markEmitted key st.cleared (pendingSummary cfg st) now)
  | finish {w : Projector} {key : ProgressKey} {st : ProgressState} {status : ProgressStatus}
      {count : Option Count} (h : w.progress.lookup key = some st) (hnone : st.pendingTexts = [])
      (hopen : st.finished = false) :
      Move cfg D now ref act w [(key.1, .progressEnd key.2 status count)]
        (w.put key { st with finished := true })
  | action {w : Projector} {turnId : String} {a : ActionSignal}
      (hact : act turnId a) (h : (cfg.registry.resolve a.toolName).visibility ≠ .silent) :
      Move cfg D now ref act w [(turnId, actionBody cfg w turnId a)]
        (w.actionOf turnId a.callId (cfg.registry.resolve a.toolName)).2
  | input {w : Projector} {turnId : String} {r : RequestInputSignal} :
      Move cfg D now ref act w [(turnId, requestInputBody cfg r)] w
  | artifact {w : Projector} {turnId : String} {a : ArtifactSignal} :
      Move cfg D now ref act w [(turnId, artifactBody cfg a)] w
  | final {w : Projector} {turnId : String} {f : FinalSignal} :
      Move cfg D now ref act w [(turnId, finalBody cfg f)] w
  | see {w : Projector} {k : String × String} :
      Move cfg D now ref act w [] { w with seenSignals := k :: w.seenSignals }

/-- A path of moves with all events that it gives. -/
inductive Path (cfg : ProjectorConfig) (D : Requirement) (now : Seconds) (ref : String)
    (act : String → ActionSignal → Prop) : Projector → Given → Projector → Prop
  | nil (w : Projector) : Path cfg D now ref act w [] w
  | snoc {w u v : Projector} {es es' : Given} :
      Path cfg D now ref act w es u → Move cfg D now ref act u es' v →
        Path cfg D now ref act w (es ++ es') v

variable {cfg : ProjectorConfig} {D : Requirement} {now : Seconds} {w w' u v : Projector}
  {es es' : Given} {key : ProgressKey} {st st' : ProgressState} {force : Bool}
  {ref : String} {act : String → ActionSignal → Prop}

namespace Path

theorem single (h : Move cfg D now ref act w es u) : Path cfg D now ref act w es u := (nil w).snoc h

theorem append (h : Path cfg D now ref act w es u) (h' : Path cfg D now ref act u es' v) :
    Path cfg D now ref act w (es ++ es') v := by
  induction h' with
  | nil => simpa using h
  | snoc _ hm ih => simpa [← List.append_assoc] using ih.snoc hm

end Path

/-- The events of a reply without their references. -/
def given (es : List (String × PublicEvent)) : Given := es.map fun e => (e.1, e.2.body)

/-- No first event of a phase. -/
def NoStart (es : Given) : Prop := ∀ e ∈ es, ∀ ph summary count,
  e.2 ≠ .progressStart ph summary count

/-- A path whose events meet `ok`. -/
def PathOf (cfg : ProjectorConfig) (D : Requirement) (now : Seconds) (ref : String)
    (act : String → ActionSignal → Prop) (ok : Given → Prop) (w : Projector) (es : Given)
    (u : Projector) : Prop :=
  Path cfg D now ref act w es u ∧ ok es

/-- Run at `u`, the block ends a path from `w`, with its events when it returns; when it raises,
the events of the path are lost. -/
structure Moves (cfg : ProjectorConfig) (D : Requirement) (now : Seconds) (ref : String)
    (act : String → ActionSignal → Prop) (ok : Given → Prop) (w u : Projector) {α : Type}
    (x : Effect α) (es : α → Given) : Prop where
  returns : ∀ a w', x.Returns u a w' → PathOf cfg D now ref act ok w (es a) w'
  raises : ∀ e w', x.Raises u e w' → ∃ es, PathOf cfg D now ref act ok w es w'

variable {ok ok' : Given → Prop} {α β : Type} {x : Effect α} {f : α → Effect β}
  {g : α → Given} {g' : β → Given}

namespace Moves

theorem pure {a : α} (h : PathOf cfg D now ref act ok w (g a) u) :
    Moves cfg D now ref act ok w u (pure a) g := by
  constructor
  · rintro b w' hret
    obtain ⟨rfl, rfl⟩ := returns_pure.1 hret
    exact h
  · intro e w' hraise
    exact absurd hraise raises_pure

theorem bind (hx : Moves cfg D now ref act ok w u x g)
    (hf : ∀ a v, x.Returns u a v → PathOf cfg D now ref act ok w (g a) v →
      Moves cfg D now ref act ok w v (f a) g') :
    Moves cfg D now ref act ok w u (x >>= f) g' := by
  constructor
  · intro b w' hret
    obtain ⟨a, v, hret, hrest⟩ := returns_bind.1 hret
    exact (hf a v hret (hx.returns a v hret)).returns b w' hrest
  · intro e w' hraise
    rcases raises_bind.1 hraise with hraise | ⟨a, v, hret, hrest⟩
    · exact hx.raises e w' hraise
    · exact (hf a v hret (hx.returns a v hret)).raises e w' hrest

theorem get_bind {f : Projector → Effect β} (h : Moves cfg D now ref act ok w u (f u) g') :
    Moves cfg D now ref act ok w u (get >>= f) g' := ⟨h.returns, h.raises⟩

theorem set_bind {f : PUnit → Effect β} (h : Moves cfg D now ref act ok w v (f ⟨⟩) g') :
    Moves cfg D now ref act ok w u (set v >>= f) g' := ⟨h.returns, h.raises⟩

theorem modify_bind {m : Projector → Projector} {f : PUnit → Effect β}
    (h : Moves cfg D now ref act ok w (m u) (f ⟨⟩) g') :
    Moves cfg D now ref act ok w u (modify m >>= f) g' := ⟨h.returns, h.raises⟩

theorem event {turnId taskRef : String} {body : EventBody}
    (h : PathOf cfg D now ref act ok w (es ++ [(turnId, body)]) u) :
    Moves cfg D now ref act ok w u (lift (event cfg.chars taskRef body))
      fun e => es ++ [(turnId, e.body)] := by
  constructor
  · intro e w' hret
    obtain ⟨he, rfl⟩ := returns_lift.1 hret
    rw [(event_eq_ok.1 he).2.2]
    exact h
  · intro e w' hraise
    obtain ⟨-, rfl⟩ := raises_lift.1 hraise
    exact ⟨_, h⟩

/-- A part that gives no events of its own. -/
theorem check {y : Except ProjectionError α} (h : PathOf cfg D now ref act ok w es u) :
    Moves cfg D now ref act ok w u (lift y) fun _ => es := by
  constructor
  · intro a w' hret
    obtain ⟨-, rfl⟩ := returns_lift.1 hret
    exact h
  · intro e w' hraise
    obtain ⟨-, rfl⟩ := raises_lift.1 hraise
    exact ⟨es, h⟩

theorem ok_bind {y : Except ProjectionError α} {a : α} (hy : y = .ok a)
    (h : Moves cfg D now ref act ok w u (f a) g') :
    Moves cfg D now ref act ok w u (lift y >>= f) g' := by
  subst hy
  exact ⟨h.returns, h.raises⟩

/-- A path that has been taken is put in front. -/
theorem after (hpath : Path cfg D now ref act w es u) (h : Moves cfg D now ref act ok u u x g)
    (hok : ∀ es', ok es' → ok' (es ++ es')) :
    Moves cfg D now ref act ok' w u x fun a => es ++ g a := by
  constructor
  · intro a w' hret
    obtain ⟨hpath', ha⟩ := h.returns a w' hret
    exact ⟨hpath.append hpath', hok _ ha⟩
  · intro e w' hraise
    obtain ⟨es', hpath', ha⟩ := h.raises e w' hraise
    exact ⟨_, hpath.append hpath', hok es' ha⟩

end Moves

theorem event_body {taskRef : String} {body : EventBody} {e : PublicEvent}
    (h : event cfg.chars taskRef body = .ok e) : e.body = body := by
  obtain ⟨-, -, rfl⟩ := event_eq_ok.1 h
  rfl

theorem noStart_nil : NoStart [] := by
  rintro e ⟨⟩

theorem noStart_append (h : NoStart es) (h' : NoStart es') : NoStart (es ++ es') := by
  intro e he
  rcases List.mem_append.1 he with he | he
  · exact h e he
  · exact h' e he

theorem noStart_single {turnId : String} {body : EventBody}
    (h : ∀ ph summary count, body ≠ .progressStart ph summary count) :
    NoStart [(turnId, body)] := by
  intro e he
  rw [List.mem_singleton.1 he]
  exact h

theorem noStart_end {turnId : String} {ph : Phase} {status : ProgressStatus}
    {count : Option Count} : NoStart [(turnId, .progressEnd ph status count)] :=
  noStart_single fun _ _ _ h => by cases h

@[simp] theorem put_put : (w.put key st).put key st' = w.put key st' := by
  unfold Projector.put
  simp [AList.insert_insert]

theorem lookup_put : (w.put key st).progress.lookup key = some st := AList.lookup_insert _

theorem lookup_put_ne {k : ProgressKey} (h : k ≠ key) :
    (w.put key st).progress.lookup k = w.progress.lookup k := AList.lookup_insert_ne h

@[simp] theorem markEmitted_put {text : String} :
    (w.put key st).markEmitted key st' text now = w.markEmitted key st' text now := by
  unfold Projector.markEmitted
  rw [put_put]
  rfl

/-- The state is written back. -/
theorem path_put (h : w.progress.lookup key = some st) :
    Path cfg D now ref act w [] (w.put key st) :=
  .single (.queue h rfl fun hp hn => absurd hn hp)

theorem emitPendingProgress_moves (hput : Path cfg D now ref act w [] (w.put key st))
    (hD : Emits w key st → D key st) :
    Moves cfg D now ref act NoStart w w (emitPendingProgress cfg key st now)
      fun e => (e.map fun e => (key.1, e.body)).toList := by
  unfold emitPendingProgress
  refine Moves.get_bind ?_
  split
  · have hdrop : Path cfg D now ref act w ([] ++ []) ((w.put key st).put key st.cleared) :=
      hput.snoc (.queue lookup_put rfl fun hp => absurd rfl hp)
    rw [put_put] at hdrop
    exact Moves.set_bind (Moves.pure ⟨hdrop, noStart_nil⟩)
  · next hshow =>
    have hemits : Emits w key st := by
      rw [not_or, not_not] at hshow
      exact hshow
    have hdelta : Path cfg D now ref act w ([] ++ [(key.1, deltaBody cfg key st)])
        ((w.put key st).markEmitted key st.cleared (pendingSummary cfg st) now) :=
      hput.snoc (.delta lookup_put hemits (hD hemits))
    rw [markEmitted_put] at hdelta
    have hnostart : NoStart ([] ++ [(key.1, deltaBody cfg key st)]) :=
      noStart_single fun ph summary count h => by cases h
    refine Moves.set_bind (Moves.bind (Moves.event ⟨hdelta, hnostart⟩) fun e v _ hpath => ?_)
    exact Moves.pure hpath

theorem flushKey_moves (hD : ∀ st ∈ w.progress.lookup key, ¬ Skipped cfg now force st →
    Emits w key st → D key st) :
    Moves cfg D now ref act NoStart w w (flushKey cfg now force key)
      fun e => (e.map fun e => (key.1, e.body)).toList := by
  unfold flushKey
  refine Moves.get_bind ?_
  split
  · next st hst =>
    split
    · exact Moves.pure ⟨.nil w, noStart_nil⟩
    · next hshow => exact emitPendingProgress_moves (path_put hst) (hD st hst hshow)
  · exact Moves.pure ⟨.nil w, noStart_nil⟩

theorem flushKeys_moves {keys : List ProgressKey} (h : FlushMeets cfg D now force w keys) :
    Moves cfg D now ref act NoStart w w (flushKeys cfg now force keys) given := by
  induction keys generalizing w with
  | nil => exact Moves.pure ⟨.nil w, noStart_nil⟩
  | cons key keys ih =>
    unfold FlushMeets at h
    have hgiven (e : Option PublicEvent) :
        (e.map fun e => (key.1, e.body)).toList = given (e.map fun e => (key.1, e)).toList := by
      cases e <;> rfl
    unfold flushKeys
    refine Moves.bind (flushKey_moves h.1) fun e v hret hpath => ?_
    refine Moves.bind ((ih (h.2 e v hret)).after hpath.1 fun es' hok =>
      noStart_append hpath.2 hok) fun es u _ hpath' => Moves.pure ?_
    rw [hgiven] at hpath'
    simpa [given] using hpath'

theorem flush_moves {turnId : Option String}
    (h : FlushMeets cfg D now force w (w.sortedKeys turnId)) :
    Moves cfg D now ref act NoStart w w (flush cfg now turnId force) given :=
  Moves.get_bind (flushKeys_moves h)

structure Flushed (flushed : Prop) (st st' : ProgressState) : Prop where
  finished : st'.finished = st.finished
  pending : flushed ∨ st.pendingTexts = [] → st'.pendingTexts = []

theorem emitPendingProgress_lookup {e : Option PublicEvent}
    (h : (emitPendingProgress cfg key st now).Returns w e w') (k : ProgressKey) :
    (k ≠ key → w'.progress.lookup k = w.progress.lookup k) ∧
      ∃ st', w'.progress.lookup key = some st' ∧ st'.finished = st.finished ∧
        st'.pendingTexts = [] := by
  unfold emitPendingProgress at h
  rw [returns_get_bind] at h
  split at h
  · rw [returns_set_bind, returns_pure] at h
    obtain ⟨-, rfl⟩ := h
    exact ⟨lookup_put_ne, st.cleared, lookup_put, rfl, rfl⟩
  · rw [returns_set_bind, returns_lift_bind] at h
    obtain ⟨e', -, h⟩ := h
    obtain ⟨-, rfl⟩ := returns_pure.1 h
    exact ⟨lookup_put_ne, _, lookup_put, rfl, rfl⟩

theorem flushKey_lookup {e : Option PublicEvent} (h : (flushKey cfg now true key).Returns w e w')
    {k : ProgressKey} (hst : w.progress.lookup k = some st) :
    ∃ st', w'.progress.lookup k = some st' ∧ Flushed (k = key) st st' := by
  unfold flushKey at h
  rw [returns_get_bind] at h
  split at h
  · next st₀ hst₀ =>
    split at h
    · next hskip =>
      obtain ⟨-, rfl⟩ := returns_pure.1 h
      refine ⟨st, hst, rfl, ?_⟩
      rintro (rfl | hnil)
      · obtain rfl := Option.some.inj (hst₀.symm.trans hst)
        exact hskip.resolve_right fun h => by cases h.1
      · exact hnil
    · obtain ⟨hother, st', hst', hfinished, hnil⟩ := emitPendingProgress_lookup h k
      by_cases hk : k = key
      · subst hk
        obtain rfl := Option.some.inj (hst₀.symm.trans hst)
        exact ⟨st', hst', hfinished, fun _ => hnil⟩
      · refine ⟨st, (hother hk).trans hst, rfl, ?_⟩
        exact fun h => h.resolve_left hk
  · next hnone =>
    obtain ⟨-, rfl⟩ := returns_pure.1 h
    refine ⟨st, hst, rfl, ?_⟩
    rintro (rfl | hnil)
    · rw [hnone] at hst
      cases hst
    · exact hnil

theorem flushKeys_lookup {keys : List ProgressKey} {es : List (String × PublicEvent)}
    (h : (flushKeys cfg now true keys).Returns w es w') {k : ProgressKey}
    (hst : w.progress.lookup k = some st) :
    ∃ st', w'.progress.lookup k = some st' ∧ Flushed (k ∈ keys) st st' := by
  induction keys generalizing w st es with
  | nil =>
    obtain ⟨-, rfl⟩ := returns_pure.1 h
    refine ⟨st, hst, rfl, ?_⟩
    exact fun h => h.resolve_left (List.not_mem_nil)
  | cons key keys ih =>
    obtain ⟨e, u, he, h⟩ := returns_bind.1 h
    obtain ⟨es', v, hes, h⟩ := returns_bind.1 h
    obtain ⟨-, rfl⟩ := returns_pure.1 h
    obtain ⟨st₁, hst₁, hflushed₁⟩ := flushKey_lookup he hst
    obtain ⟨st₂, hst₂, hflushed₂⟩ := ih hes hst₁
    refine ⟨st₂, hst₂, hflushed₂.finished.trans hflushed₁.finished, fun h => ?_⟩
    apply hflushed₂.pending
    rw [List.mem_cons, or_assoc, or_left_comm] at h
    exact h.imp_right hflushed₁.pending

/-- Nothing is held back for the phase after its turn was flushed. -/
theorem flush_lookup {es : List (String × PublicEvent)}
    (h : (flush cfg now (some key.1) true).Returns w es w')
    (hst : w.progress.lookup key = some st) :
    ∃ st', w'.progress.lookup key = some st' ∧ st'.finished = st.finished ∧
      st'.pendingTexts = [] := by
  have hkey : key ∈ w.sortedKeys (some key.1) := by
    have hmem : key ∈ w.progress.keys := AList.lookup_isSome.1 (by rw [hst]; rfl)
    unfold Projector.sortedKeys
    rw [List.mem_insertionSort, List.mem_filter]
    exact ⟨hmem, by simp⟩
  obtain ⟨st', hst', hflushed⟩ := flushKeys_lookup h hst
  exact ⟨st', hst', hflushed.finished, hflushed.pending (.inl hkey)⟩

theorem flushKeys_turns {keys : List ProgressKey} {es : List (String × PublicEvent)}
    (h : (flushKeys cfg now force keys).Returns w es w') :
    ∀ e ∈ es, ∃ k ∈ keys, k.1 = e.1 := by
  induction keys generalizing w w' es with
  | nil =>
    obtain ⟨rfl, -⟩ := returns_pure.1 h
    rintro e ⟨⟩
  | cons key keys ih =>
    obtain ⟨e, u, -, h⟩ := returns_bind.1 h
    obtain ⟨es', v, hes, h⟩ := returns_bind.1 h
    obtain ⟨rfl, -⟩ := returns_pure.1 h
    intro x hx
    rcases List.mem_append.1 hx with hx | hx
    · obtain ⟨e', -, rfl⟩ : ∃ e', e = some e' ∧ (key.1, e') = x := by
        simpa using hx
      exact ⟨key, List.mem_cons_self, rfl⟩
    · obtain ⟨k, hk, he⟩ := ih hes x hx
      exact ⟨k, List.mem_cons_of_mem _ hk, he⟩

theorem given_of_flush {turnId : String} {es : List (String × PublicEvent)}
    (h : (flush cfg now (some turnId) force).Returns w es w') :
    given es = (es.map Prod.snd).map fun e => (turnId, e.body) := by
  unfold given
  rw [List.map_map]
  refine List.map_congr_left fun e he => ?_
  obtain ⟨k, hk, hturn⟩ := flushKeys_turns h e he
  unfold Projector.sortedKeys at hk
  rw [List.mem_insertionSort, List.mem_filter] at hk
  have hk : k.1 = turnId := by simpa [eq_comm] using hk.2
  rw [← hk, hturn]
  rfl

@[simp] theorem queueProgress_cleared {budget : Bool} {text : String} {count : Option Count} :
    (queueProgress budget text count st).cleared = st.cleared := by
  unfold queueProgress
  split <;> rfl

theorem finished_of_cleared (h : st'.cleared = st.cleared) : st'.finished = st.finished := by
  have hfinished : st'.cleared.finished = st.cleared.finished := by rw [h]
  exact hfinished

theorem finishQueued_cleared {p : ProgressSignal} :
    (finishQueued cfg w key st p).cleared = st.cleared := by
  unfold finishQueued
  dsimp only
  split
  · rfl
  · exact queueProgress_cleared

theorem finishQueued_finished {p : ProgressSignal} :
    (finishQueued cfg w key st p).finished = st.finished := finished_of_cleared finishQueued_cleared

/-- A state that differs in what is held back is written. -/
theorem move_queue (hst : w.progress.lookup key = some st) (hsame : st'.cleared = st.cleared)
    (hopen : st.finished = false) : Move cfg D now ref act w [] (w.put key st') :=
  .queue hst hsame fun _ _ => hopen

theorem endProgress_moves {p : ProgressSignal} (hst : w.progress.lookup key = some st')
    (hopen : st'.finished = false) (hD : FlushMeets cfg D now true w (w.sortedKeys (some key.1))) :
    Moves cfg D now ref act NoStart w w (endProgress cfg key st p now)
      fun es => es.map fun e => (key.1, e.body) := by
  unfold endProgress
  refine Moves.bind (flush_moves hD) fun flushed v hret hpath => ?_
  refine Moves.bind (Moves.check hpath) fun last u hlift _ => ?_
  obtain ⟨hlast, rfl⟩ := returns_lift.1 hlift
  obtain ⟨st₁, hst₁, hfinished, hnil⟩ := flush_lookup hret hst
  have hend : Move cfg D now ref act u
      [(key.1, .progressEnd key.2 p.status (countPayload cfg p.count))] (u.setFinished key) := by
    unfold Projector.setFinished
    rw [hst₁]
    exact .finish hst₁ hnil (hfinished.trans hopen)
  have hevents : (flushed.map Prod.snd ++ [last]).map (fun e => (key.1, e.body)) =
      given flushed ++
        [(key.1, EventBody.progressEnd key.2 p.status (countPayload cfg p.count))] := by
    rw [List.map_append, ← given_of_flush hret, List.map_singleton, event_body hlast]
  have hdone : PathOf cfg D now ref act NoStart w
      ((flushed.map Prod.snd ++ [last]).map fun e => (key.1, e.body)) (u.setFinished key) := by
    rw [hevents]
    exact ⟨hpath.1.snoc hend, noStart_append hpath.2 noStart_end⟩
  refine Moves.modify_bind ?_
  exact Moves.pure hdone

/-- The only phase that the path opens is this one, when it has no state yet. -/
def StartsOnly (w : Projector) (key : ProgressKey) (es : Given) : Prop :=
  ∀ e ∈ es, ∀ ph summary count, e.2 = .progressStart ph summary count →
    (e.1, ph) = key ∧ w.progress.lookup key = none

theorem startsOnly_of_noStart (h : NoStart es) : StartsOnly w key es :=
  fun e he ph summary count hstart => absurd hstart (h e he ph summary count)

theorem startsOnly_cons (hnone : w.progress.lookup key = none) {summary : Option String}
    {count : Option Count} (h : NoStart es) :
    StartsOnly w key ((key.1, .progressStart key.2 summary count) :: es) := by
  intro e he ph summary' count' hstart
  rcases List.mem_cons.1 he with rfl | he
  · cases hstart
    exact ⟨rfl, hnone⟩
  · exact absurd hstart (h e he ph summary' count')

theorem finishProgress_moves {p : ProgressSignal} (hst : w.progress.lookup key = some st)
    (hstarted : st.started = true) (hopen : st.finished = false)
    (hD : FlushMeets cfg D now true (w.finishing cfg key st p now)
      ((w.finishing cfg key st p now).sortedKeys (some key.1))) :
    Moves cfg D now ref act NoStart w w (finishProgress cfg key st p now)
      fun es => es.map fun e => (key.1, e.body) := by
  unfold finishProgress
  refine Moves.get_bind ?_
  rw [if_pos hstarted]
  unfold Projector.finishing at hD
  rw [if_pos hstarted] at hD
  have hqueue : Path cfg D now ref act w [] (w.put key (finishQueued cfg w key st p)) :=
    .single (move_queue hst finishQueued_cleared hopen)
  have hfinished : (finishQueued cfg w key st p).finished = false := by
    rw [finishQueued_finished, hopen]
  refine Moves.set_bind ?_
  exact Moves.after hqueue (endProgress_moves lookup_put hfinished hD) fun es h => h

/-- A `finish` without a first signal opens the phase and ends it. -/
theorem finishProgress_moves_new {p : ProgressSignal}
    (hnone : w.progress.lookup key = none)
    (hD : FlushMeets cfg D now true ((w.put key (.new ref)).finishing cfg key (.new ref) p now)
      (((w.put key (.new ref)).finishing cfg key (.new ref) p now).sortedKeys
        (some key.1))) :
    Moves cfg D now ref act (StartsOnly w key) w (w.put key (.new ref))
      (finishProgress cfg key (.new ref) p now) fun es => es.map fun e => (key.1, e.body) := by
  have hnew : ¬ (ProgressState.new ref).started = true := Bool.false_ne_true
  unfold Projector.finishing at hD
  rw [if_neg hnew, put_put] at hD
  unfold finishProgress
  refine Moves.get_bind ?_
  rw [if_neg hnew, put_put]
  generalize hopened : (ProgressState.new ref).opened now = opened at hD ⊢
  have hopen : opened.finished = false := by
    rw [← hopened]
    rfl
  have hstart : Path cfg D now ref act w ([] ++ [(key.1, EventBody.progressStart key.2 none none)])
      (w.put key opened) := by
    rw [← hopened]
    exact .single (.start hnone)
  refine Moves.set_bind (Moves.bind (Moves.event ⟨hstart, startsOnly_cons hnone noStart_nil⟩)
    fun first v hret hpath => ?_)
  obtain ⟨hfirst, rfl⟩ := returns_lift.1 hret
  rw [put_put]
  have hqueue : Path cfg D now ref act w
      ([] ++ [(key.1, EventBody.progressStart key.2 none none)] ++ [])
      ((w.put key opened).put key (finishQueued cfg (w.put key (.new ref)) key opened p)) :=
    hstart.snoc (move_queue lookup_put finishQueued_cleared hopen)
  rw [put_put] at hqueue
  have hfinished : (finishQueued cfg (w.put key (.new ref)) key opened p).finished = false := by
    rw [finishQueued_finished, hopen]
  refine Moves.set_bind (Moves.bind (Moves.after hqueue (endProgress_moves lookup_put hfinished hD)
    fun es hes => startsOnly_cons hnone hes) fun es v _ hpath => Moves.pure ?_)
  rw [List.map_cons, event_body hfirst]
  simpa using hpath

theorem startProgress_moves {p : ProgressSignal}
    (hnone : w.progress.lookup key = none) :
    Moves cfg D now ref act (StartsOnly w key) w (w.put key (.new ref))
      (startProgress cfg key (.new ref) p now) fun es => es.map fun e => (key.1, e.body) := by
  unfold startProgress
  refine Moves.get_bind ?_
  split
  · next hshow =>
    have hstart : Path cfg D now ref act w ([] ++ [(key.1, EventBody.progressStart key.2
        (some (sanitizeProgressText cfg.chars p.text)) (countPayload cfg p.count))])
        (w.markEmitted key ((ProgressState.new ref).opened now)
          (sanitizeProgressText cfg.chars p.text) now) :=
      .single (.startText hnone hshow.2)
    rw [markEmitted_put]
    refine Moves.set_bind (Moves.bind (Moves.event ⟨hstart, startsOnly_cons hnone noStart_nil⟩)
      fun e v _ hpath => ?_)
    exact Moves.pure hpath
  · have hstart : Path cfg D now ref act w
        ([] ++ [(key.1, EventBody.progressStart key.2 none none)])
        (w.put key ((ProgressState.new ref).opened now)) :=
      .single (.start hnone)
    rw [put_put]
    refine Moves.set_bind (Moves.bind (Moves.event ⟨hstart, startsOnly_cons hnone noStart_nil⟩)
      fun e v _ hpath => ?_)
    exact Moves.pure hpath

theorem appendQueued_cleared {p : ProgressSignal} :
    (appendQueued cfg w key st p).cleared = st.cleared := queueProgress_cleared

theorem appendProgress_moves {p : ProgressSignal} (hst : w.progress.lookup key = some st)
    (hopen : st.finished = false)
    (hD : ¬ Repeats cfg st p → ¬ st.Soon cfg now → Emits w key (appendQueued cfg w key st p) →
      D key (appendQueued cfg w key st p)) :
    Moves cfg D now ref act NoStart w w (appendProgress cfg key st p now)
      fun es => es.map fun e => (key.1, e.body) := by
  have hqueue : Path cfg D now ref act w [] (w.put key (appendQueued cfg w key st p)) :=
    .single (move_queue hst appendQueued_cleared hopen)
  unfold appendProgress
  refine Moves.get_bind ?_
  split
  · refine Moves.set_bind (Moves.pure ⟨.single (move_queue hst ?_ hopen), noStart_nil⟩)
    rfl
  · next hnew =>
    split
    · exact Moves.set_bind (Moves.pure ⟨hqueue, noStart_nil⟩)
    · next hlate =>
      refine Moves.bind (emitPendingProgress_moves hqueue (hD hnew hlate)) fun e v _ hpath => ?_
      refine Moves.pure ?_
      cases e <;> exact hpath

/-- The path goes on where the state of the phase has been written back. -/
theorem Moves.after_put (hst : w.progress.lookup key = some st)
    (h : Moves cfg D now ref act NoStart (w.put key st) (w.put key st) x g) :
    Moves cfg D now ref act (StartsOnly w key) w (w.put key st) x g :=
  Moves.after (path_put hst) h fun _ hok => startsOnly_of_noStart hok

theorem projectProgress_moves {turnId : String} {p : ProgressSignal}
    (hstarted : ∀ st, w.progress.lookup (turnId, p.phase) = some st → st.started = true)
    (hD : (w.stateOf (turnId, p.phase) ref).finished = false →
      ProgressMeets cfg D (w.put (turnId, p.phase) (w.stateOf (turnId, p.phase) ref))
        (turnId, p.phase) (w.stateOf (turnId, p.phase) ref) p now) :
    Moves cfg D now ref act (StartsOnly w (turnId, p.phase)) w w
      (projectProgress cfg turnId p ref now) fun es => es.map fun e => (turnId, e.body) := by
  unfold projectProgress
  refine Moves.get_bind (Moves.set_bind ?_)
  cases hst : w.progress.lookup (turnId, p.phase) with
  | none =>
    have hnew : w.stateOf (turnId, p.phase) ref = .new ref := by
      unfold Projector.stateOf
      rw [hst]
      rfl
    rw [hnew] at hD ⊢
    have hD := hD rfl
    unfold ProgressMeets at hD
    have hsame : Transaction.raiseIf ((ProgressState.new ref).taskRef ≠ ref)
        (ProjectionError.value
          "one turn/phase cannot be projected under different task references") = .ok () :=
      Transaction.raiseIf_eq_ok.2 (not_not.2 rfl)
    have hopen : ¬ (ProgressState.new ref).finished = true := Bool.false_ne_true
    have hunstarted : ¬ (ProgressState.new ref).started = true := Bool.false_ne_true
    refine Moves.ok_bind hsame ?_
    rw [if_neg hopen, if_neg hunstarted]
    split
    · next hop =>
      rw [if_pos hop] at hD
      exact finishProgress_moves_new hst hD
    · exact startProgress_moves hst
  | some st =>
    have hold : w.stateOf (turnId, p.phase) ref = st := by
      unfold Projector.stateOf
      rw [hst]
      rfl
    have hstarted := hstarted st hst
    rw [hold] at hD ⊢
    refine Moves.bind (Moves.check ⟨path_put hst, startsOnly_of_noStart noStart_nil⟩)
      fun _ v hret _ => ?_
    obtain ⟨-, rfl⟩ := returns_lift.1 hret
    split
    · exact Moves.pure ⟨path_put hst, startsOnly_of_noStart noStart_nil⟩
    · next hopen =>
      rw [Bool.not_eq_true] at hopen
      have hD := hD hopen
      unfold ProgressMeets at hD
      refine Moves.after_put hst ?_
      split
      · next hop =>
        rw [if_pos hop] at hD
        exact finishProgress_moves lookup_put hstarted hopen hD
      · next hop =>
        rw [if_neg hop] at hD
        exact appendProgress_moves lookup_put hopen (hD hstarted)

theorem noStart_other {turnId : String} {body : EventBody}
    (h : ∀ ph summary count, body ≠ .progressStart ph summary count) :
    NoStart ([] ++ [(turnId, body)]) := noStart_single h

def BodyStarts (w : Projector) (s : Signal) (es : Given) : Prop :=
  match s.body with
  | .progress p => StartsOnly w (s.turnId, p.phase) es
  | _ => NoStart es

theorem projectAction_moves {turnId : String} {a : ActionSignal} (hact : act turnId a) :
    Moves cfg D now ref act NoStart w w (projectAction cfg turnId a ref)
      fun es => es.map fun e => (turnId, e.body) := by
  unfold projectAction
  dsimp only
  split
  · exact Moves.pure ⟨.nil w, noStart_nil⟩
  · next hshown =>
    have haction : Path cfg D now ref act w ([] ++ [(turnId, actionBody cfg w turnId a)])
        (w.actionOf turnId a.callId (cfg.registry.resolve a.toolName)).2 :=
      .single (.action hact hshown)
    have hnostart : NoStart ([] ++ [(turnId, actionBody cfg w turnId a)]) :=
      noStart_other nofun
    refine Moves.get_bind (Moves.set_bind (Moves.bind (Moves.event ⟨haction, hnostart⟩)
      fun e v _ hpath => ?_))
    exact Moves.pure hpath

theorem projectFinal_moves {turnId : String} {fin : FinalSignal}
    (hD : FlushMeets cfg D now true w (w.sortedKeys (some turnId))) :
    Moves cfg D now ref act NoStart w w (projectFinal cfg turnId fin ref now)
      fun es => es.map fun e => (turnId, e.body) := by
  unfold projectFinal
  refine Moves.bind (flush_moves hD) fun flushed v hret hpath => ?_
  have hfinal : PathOf cfg D now ref act NoStart w
    (given flushed ++ [(turnId, finalBody cfg fin)]) v :=
    ⟨hpath.1.snoc .final, noStart_append hpath.2 (noStart_other nofun)⟩
  refine Moves.bind (Moves.event hfinal) fun e u _ hpath' => Moves.pure ?_
  rw [List.map_append, ← given_of_flush hret]
  exact hpath'

theorem projectBody_moves {s : Signal} (hact : ∀ a, s.body = .action a → act s.turnId a)
    (hstarted : ∀ k st, w.progress.lookup k = some st → st.started = true)
    (hD : BodyMeets cfg D w s ref now) :
    Moves cfg D now ref act (BodyStarts w s) w w (projectBody cfg s ref now)
      fun es => es.map fun e => (s.turnId, e.body) := by
  unfold projectBody BodyStarts
  unfold BodyMeets at hD
  cases hbody : s.body with
  | progress p =>
    rw [hbody] at hD
    exact projectProgress_moves (hstarted _) hD
  | action a => exact projectAction_moves (hact a hbody)
  | requestInput r =>
    have hinput : PathOf cfg D now ref act NoStart w
      ([] ++ [(s.turnId, requestInputBody cfg r)]) w :=
      ⟨.single .input, noStart_other nofun⟩
    exact Moves.bind (Moves.event hinput) fun e v _ hpath => Moves.pure hpath
  | final f =>
    rw [hbody] at hD
    exact projectFinal_moves hD
  | artifact a =>
    have hartifact : PathOf cfg D now ref act NoStart w
      ([] ++ [(s.turnId, artifactBody cfg a)]) w :=
      ⟨.single .artifact, noStart_other nofun⟩
    exact Moves.bind (Moves.event hartifact) fun e v _ hpath => Moves.pure hpath
  | internal category => exact Moves.pure ⟨.nil w, noStart_nil⟩

def CallStarts (w : Projector) (call : Call) (es : Given) : Prop :=
  match call with
  | .project s _ _ => ∀ parsed, validateSpecialistSignal s = .ok parsed → BodyStarts w parsed es
  | .flush _ _ _ => NoStart es

def Call.time : Call → Seconds
  | project _ _ now => now
  | flush now _ _ => now

def Call.Acts : Call → String → ActionSignal → Prop
  | project s _ _, turnId, a => ∃ parsed, validateSpecialistSignal s = .ok parsed ∧
    parsed.body = .action a ∧ parsed.turnId = turnId
  | flush _ _ _, _, _ => False

def Call.taskRef : Call → String
  | project _ taskRef _ => taskRef
  | flush _ _ _ => ""

theorem bodyStarts_nil {s : Signal} : BodyStarts w s [] := by
  unfold BodyStarts
  split
  · exact startsOnly_of_noStart noStart_nil
  · exact noStart_nil

theorem validate_turnId {s parsed : Signal} (h : validateSpecialistSignal s = .ok parsed) :
    parsed.turnId = trim s.turnId := by
  obtain ⟨body, -, h⟩ := Transaction.bind_eq_ok.1 h
  obtain ⟨_, -, h⟩ := Transaction.bind_eq_ok.1 h
  obtain ⟨_, -, h⟩ := Transaction.bind_eq_ok.1 h
  obtain ⟨_, -, h⟩ := Transaction.bind_eq_ok.1 h
  obtain ⟨_, -, h⟩ := Transaction.bind_eq_ok.1 h
  obtain ⟨_, -, h⟩ := Transaction.bind_eq_ok.1 h
  obtain ⟨_, -, h⟩ := Transaction.bind_eq_ok.1 h
  obtain ⟨_, -, h⟩ := Transaction.bind_eq_ok.1 h
  obtain rfl := Except.ok.inj h
  rfl

theorem projectParsed_moves {s : Signal} (hact : ∀ a, s.body = .action a → act s.turnId a)
    (hstarted : ∀ k st, w.progress.lookup k = some st → st.started = true)
    (hD : s.key ∉ w.seenSignals → BodyMeets cfg D w s ref now) :
    Moves cfg D now ref act (BodyStarts w s) w w (projectParsed cfg s ref now)
      fun es => es.map fun e => (s.turnId, e.body) := by
  unfold projectParsed
  refine Moves.get_bind ?_
  split
  · exact Moves.pure ⟨.nil w, bodyStarts_nil⟩
  · next hnew =>
    refine Moves.bind (projectBody_moves hact hstarted (hD hnew)) fun es v _ hpath => ?_
    have hsee : Path cfg D now ref act w (es.map (fun e => (s.turnId, e.body)) ++ [])
        { v with seenSignals := s.key :: v.seenSignals } := hpath.1.snoc .see
    rw [List.append_nil] at hsee
    exact Moves.modify_bind (Moves.pure ⟨hsee, hpath.2⟩)

theorem effect_moves {call : Call}
    (hstarted : ∀ k st, w.progress.lookup k = some st → st.started = true)
    (hD : CallMeets cfg D w call) :
    Moves cfg D call.time call.taskRef call.Acts (CallStarts w call) w w
      (call.effect cfg) given := by
  cases call with
  | flush now turnId force => exact flush_moves hD
  | project s taskRef now =>
    cases hvalid : validateSpecialistSignal s with
    | error e =>
      constructor
      · intro es w' hret
        obtain ⟨es', u, hret, -⟩ := returns_bind.1 hret
        obtain ⟨parsed, hparsed, -⟩ := returns_lift_bind.1 hret
        rw [hvalid] at hparsed
        cases hparsed
      · intro e' w' hraise
        rcases raises_bind.1 hraise with hraise | ⟨es, u, -, hraise⟩
        · rcases raises_lift_bind.1 hraise with ⟨-, rfl⟩ | ⟨parsed, hparsed, -⟩
          · exact ⟨[], .nil w', fun parsed _ => bodyStarts_nil⟩
          · rw [hvalid] at hparsed
            cases hparsed
        · exact absurd hraise raises_pure
    | ok parsed =>
      have hstarts (es : Given) (h : BodyStarts w parsed es) :
          CallStarts w (.project s taskRef now) es := fun parsed' hparsed' => by
        obtain rfl := Except.ok.inj (hvalid.symm.trans hparsed')
        exact h
      have hact (a : ActionSignal) (ha : parsed.body = .action a) :
          (Call.project s taskRef now).Acts parsed.turnId a := ⟨parsed, hvalid, ha, rfl⟩
      have hmoves := Moves.after (.nil w) (projectParsed_moves hact hstarted
        (hD parsed hvalid)) hstarts
      refine Moves.bind (Moves.ok_bind hvalid hmoves) fun es v _ hpath => Moves.pure ?_
      rw [validate_turnId hvalid] at hpath
      simpa [given, Function.comp_def] using hpath

end DataJuicer.PublicContract
