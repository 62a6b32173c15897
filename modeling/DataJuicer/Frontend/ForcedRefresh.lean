import DataJuicer.Frontend.ProjectionStore
import DataJuicer.Frontend.RequestGate

/-! # Forced refreshes

The pages load projections through the gates, the server answers, and the microtasks of the gates
run in any order that keeps the queue of each. A forced load gets a request of its own, except when
it comes between the end of an async function and the callback of its `finally`.
-/

namespace DataJuicer.Frontend

/-- What a gate is about. -/
inductive Key
  | jobs
  | capability
  | reviews
  | job (ref : String)
  | segment (jobRef segmentRef : String)
  | review (ref : String)
  deriving DecidableEq

inductive Response
  | many (items : List Projection)
  | capability (c : Capability)
  | one (p : Projection)

/-- A value, or the error of the request. -/
abbrev Outcome := Except String Response

/-- A call whose promise caches what it gets: `.then(cacheAnnotationJob)` and its siblings. -/
structure Consumer where
  key : Key
  promise : ℕ
  /-- The caller wants the entry of the list, not the detail. -/
  summary : Bool
  done : Bool

/-- The page, and what the server would answer. -/
structure World where
  store : ProjectionState
  server : Key → ℕ
  gates : Key → Gate ℕ Outcome
  consumers : List Consumer

def World.initial (server : Key → ℕ) : World where
  store := .initial
  server := server
  gates _ := .empty
  consumers := []

/-- The store has what a load that is not forced returns. -/
def ProjectionState.loaded (s : ProjectionState) : Key → Bool
  | .jobs => s.jobsLoaded
  | .capability => s.capabilityLoaded && s.capability.isSome
  | .reviews => s.reviewsLoaded
  | .job ref => (s.jobDetails ref).isSome
  | .segment jobRef segmentRef => (s.segmentDetails (segmentKey jobRef segmentRef)).isSome
  | .review ref => (s.reviewDetails ref).isSome

/-- What the store has of an entity. -/
def ProjectionState.cached? (s : ProjectionState) (summary : Bool) : Key → Option Projection
  | .job ref => if summary then mapGet? s.jobs ref else s.jobDetails ref
  | .segment jobRef segmentRef => s.segmentDetails (segmentKey jobRef segmentRef)
  | .review ref => if summary then mapGet? s.reviews ref else s.reviewDetails ref
  | _ => none

section Effects

variable (localeCompare : String → String → ℤ)

/-- What the request itself does with its outcome. -/
def onOutcome (s : ProjectionState) : Key → Outcome → ProjectionState
  | .jobs, .ok (.many items) => setJobs localeCompare items s
  | .reviews, .ok (.many items) => setReviews localeCompare items s
  | .capability, .ok (.capability c) => setCapability c s
  | .capability, .error _ => setCapability capabilityUnavailable s
  | _, _ => s

def cache (summary : Bool) (p : Projection) (s : ProjectionState) : Key → ProjectionState
  | .job _ => if summary then cacheAnnotationJobSummary localeCompare p s
      else cacheAnnotationJob localeCompare p s
  | .segment jobRef _ => cacheAnnotationSegment jobRef p s
  | .review _ => if summary then cacheTrajectoryReviewSummary localeCompare p s
      else cacheTrajectoryReview localeCompare p s
  | _ => s

end Effects

namespace World

def setGate (k : Key) (g : Gate ℕ Outcome) (w : World) : World :=
  { w with gates := Function.update w.gates k g }

/-- A call of `runRequest`, with what its caller does next. -/
def request (k : Key) (force summary : Bool) (w : World) : World :=
  { w.setGate k ((w.gates k).runRequest (w.server k) force) with
    consumers := w.consumers ++ [⟨k, (w.gates k).promise, summary, false⟩] }

/-- `loadAnnotationJobs`, `loadAnnotationJob` and their siblings -/
def load (k : Key) (force : Bool) (w : World) : World :=
  if !force && w.store.loaded k then w else w.request k force false

end World

/-- What may happen next. -/
inductive Event
  | load (k : Key) (force : Bool)
  /-- The refresh of an entry of a list, for an event from the server. -/
  | summarize (k : Key)
  | respond (k : Key) (i : ℕ) (o : Outcome)
  | microtask (k : Key)
  /-- The promise of this consumer has settled, and its callback runs. -/
  | consume (c : ℕ)
  /-- A page caches what a command returned. -/
  | cache (k : Key) (p : Projection)
  | serve (k : Key) (revision : ℕ)

/-- A response is about the entity, as it is when the request starts or later. -/
def Answers : Key → ℕ → Outcome → Prop
  | _, _, .error _ => True
  | .job ref, since, .ok (.one p) => p.ref = ref ∧ since ≤ p.stateRevision
  | .segment _ ref, since, .ok (.one p) => p.ref = ref ∧ since ≤ p.stateRevision
  | .review ref, since, .ok (.one p) => p.ref = ref ∧ since ≤ p.stateRevision
  | .jobs, _, .ok (.many _) => True
  | .reviews, _, .ok (.many _) => True
  | .capability, _, .ok (.capability _) => True
  | _, _, _ => False

/-- What the environment keeps to. -/
def Allowed (w : World) : Event → Prop
  | .respond k i o => ∃ r : Request ℕ Outcome, (w.gates k).requests[i]? = some r ∧
      r.outcome = none ∧ Answers k r.since o
  | .summarize (.job _) | .summarize (.review _) => True
  | .summarize _ => False
  | .serve k revision => w.server k ≤ revision
  | _ => True

section Step

variable (localeCompare : String → String → ℤ)

/-- The callback of a consumer, once its promise has settled. -/
def World.consume (c : ℕ) (w : World) : World :=
  match w.consumers[c]? with
  | some ⟨k, p, summary, false⟩ =>
    match (w.gates k).loops[p]? with
    | some (.settled _ o) => { w with
        store := match o with
          | .ok (.one q) => cache localeCompare summary q w.store k
          | _ => w.store
        consumers := w.consumers.set c ⟨k, p, summary, true⟩ }
    | _ => w
  | _ => w

def World.apply (w : World) : Event → World
  | .load k force => w.load k force
  | .summarize k => w.request k true true
  | .respond k i o => { w.setGate k ((w.gates k).respond i o) with
      store := onOutcome localeCompare w.store k o }
  | .microtask k => w.setGate k ((w.gates k).microtask (w.server k))
  | .consume c => w.consume localeCompare c
  | .cache k p => { w with store := cache localeCompare false p w.store k }
  | .serve k revision => { w with server := Function.update w.server k revision }

def Step (w : World) (e : Event) (w' : World) : Prop :=
  Allowed w e ∧ w' = w.apply localeCompare e

end Step

variable {localeCompare : String → String → ℤ} {s s' : ProjectionState} {k : Key} {summary : Bool}
  {p q : Projection}

theorem cache_spec (h : s.Wf) : (cache localeCompare summary p s k).Wf ∧
    s.Kept (cache localeCompare summary p s k) := by
  cases k with
  | job ref =>
    cases summary with
    | true => exact ProjectionState.mergeJobs_spec h
    | false => exact ProjectionState.cacheAnnotationJob_spec h
  | segment => exact ProjectionState.cacheAnnotationSegment_spec h
  | review ref =>
    cases summary with
    | true => exact ProjectionState.mergeReviews_spec h
    | false => exact ProjectionState.cacheTrajectoryReview_spec h
  | jobs | capability | reviews => exact ⟨h, .refl⟩

theorem setCapability_spec (h : s.Wf) {c : Capability} :
    (setCapability c s).Wf ∧ s.Kept (setCapability c s) :=
  ⟨⟨h.jobs, h.reviews, h.job_ref, h.review_ref⟩, ⟨.refl, .refl, .refl, .refl, .refl⟩⟩

theorem onOutcome_spec (h : s.Wf) {o : Outcome} :
    (onOutcome localeCompare s k o).Wf ∧ s.Kept (onOutcome localeCompare s k o) := by
  unfold onOutcome
  split
  · exact ProjectionState.mergeJobs_spec h
  · exact ProjectionState.mergeReviews_spec h
  · exact setCapability_spec h
  · exact setCapability_spec h
  · exact ⟨h, .refl⟩

theorem Distinct.mapGet? {items : List Projection} (h : Distinct items) (hp : p ∈ items) :
    mapGet? items p.ref = some p := by
  cases hf : Frontend.mapGet? items p.ref with
  | none => exact absurd (List.find?_eq_none.1 hf p hp) (by simp)
  | some q =>
    obtain ⟨hq, href⟩ := mapGet?_eq_some hf
    rw [h.eq_of_ref hq hp href]

theorem Covers.mapGet? {items items' : List Projection} (h : Covers items items')
    (hd : Distinct items') {ref : String} (hp : Frontend.mapGet? items ref = some p) :
    ∃ q ∈ Frontend.mapGet? items' ref, p.stateRevision ≤ q.stateRevision := by
  obtain ⟨hmem, rfl⟩ := mapGet?_eq_some hp
  obtain ⟨q, hq, href, hle⟩ := h p hmem
  exact ⟨q, href ▸ hd.mapGet? hq, hle⟩

theorem cached_kept (h : s.Kept s') (hs' : s'.Wf) (hp : p ∈ s.cached? summary k) :
    ∃ q ∈ s'.cached? summary k, p.stateRevision ≤ q.stateRevision := by
  cases k with
  | job ref =>
    cases summary with
    | true => exact h.jobs.mapGet? hs'.jobs hp
    | false => exact h.job_details ref p hp
  | segment => exact h.segment_details _ p hp
  | review ref =>
    cases summary with
    | true => exact h.reviews.mapGet? hs'.reviews hp
    | false => exact h.review_details ref p hp
  | jobs | capability | reviews => cases hp

theorem cached_merge {items : List Projection} (h : Distinct items) :
    ∃ q ∈ mapGet? (mergeProjections localeCompare items [p]) p.ref,
      p.stateRevision ≤ q.stateRevision := by
  obtain ⟨hd, -, hi⟩ := merge_covers localeCompare [p] h
  obtain ⟨q, hq, href, hle⟩ := hi p (List.mem_singleton_self p)
  exact ⟨q, href ▸ hd.mapGet? hq, hle⟩

/-- A cached response is in the store, or a newer one. -/
theorem cached_cache (localeCompare : String → String → ℤ) (summary : Bool) (h : s.Wf)
    {since : ℕ} (hp : Answers k since (.ok (.one p))) :
    since ≤ p.stateRevision ∧ ∃ q ∈ (cache localeCompare summary p s k).cached? summary k,
      p.stateRevision ≤ q.stateRevision := by
  cases k with
  | job ref =>
    obtain ⟨rfl, hle⟩ := hp
    refine ⟨hle, ?_⟩
    cases summary with
    | true => exact cached_merge h.jobs
    | false => exact ⟨_, Function.update_self .., (le_preferRevision _ p).1⟩
  | segment jobRef ref =>
    obtain ⟨rfl, hle⟩ := hp
    exact ⟨hle, _, Function.update_self .., (le_preferRevision _ p).1⟩
  | review ref =>
    obtain ⟨rfl, hle⟩ := hp
    refine ⟨hle, ?_⟩
    cases summary with
    | true => exact cached_merge h.reviews
    | false => exact ⟨_, Function.update_self .., (le_preferRevision _ p).1⟩
  | jobs | capability | reviews => exact hp.elim

variable {w w' : World} {e : Event}

structure World.Wf (w : World) : Prop where
  gate : ∀ k, (w.gates k).Wf
  live : ∀ k, (w.gates k).Live
  answers : ∀ (k : Key) (i : ℕ) (r : Request ℕ Outcome), (w.gates k).requests[i]? = some r →
    ∀ o, r.outcome = some o → Answers k r.since o
  store : w.store.Wf

theorem wf_initial (server : Key → ℕ) : (World.initial server).Wf where
  gate := fun _ => Gate.wf_empty
  live := fun _ _ _ h => by simp [World.initial, Gate.empty] at h
  answers := fun _ _ _ h => by simp [World.initial, Gate.empty] at h
  store := ProjectionState.wf_initial

inductive GateStep (k : Key) (w : World) : Event → Gate ℕ Outcome → Prop
  | same {e : Event} : GateStep k w e (w.gates k)
  | load {force : Bool} :
      GateStep k w (.load k force) ((w.gates k).runRequest (w.server k) force)
  | summarize : GateStep k w (.summarize k) ((w.gates k).runRequest (w.server k) true)
  | respond {i : ℕ} {o : Outcome} {r : Request ℕ Outcome}
      (hr : (w.gates k).requests[i]? = some r) (hopen : r.outcome = none)
      (ho : Answers k r.since o) : GateStep k w (.respond k i o) ((w.gates k).respond i o)
  | microtask : GateStep k w (.microtask k) ((w.gates k).microtask (w.server k))

theorem gateStep_set {k' : Key} {g : Gate ℕ Outcome} (h : GateStep k' w e g) :
    GateStep k w e ((w.setGate k' g).gates k) := by
  by_cases hk : k = k'
  · subst hk
    simpa [World.setGate] using h
  · simpa [World.setGate, hk] using GateStep.same

theorem gates_consume {c : ℕ} : (w.consume localeCompare c).gates = w.gates := by
  unfold World.consume
  split
  · split <;> rfl
  · rfl

theorem gateStep_of_step (h : Step localeCompare w e w') : GateStep k w e (w'.gates k) := by
  obtain ⟨hallowed, rfl⟩ := h
  cases e with
  | load k' force =>
    change GateStep k w _ ((w.load k' force).gates k)
    unfold World.load
    split
    · exact .same
    · exact gateStep_set .load
  | summarize k' => exact gateStep_set .summarize
  | respond k' i o =>
    obtain ⟨r, hr, hopen, ho⟩ := hallowed
    exact gateStep_set (.respond hr hopen ho)
  | microtask k' => exact gateStep_set .microtask
  | consume c =>
    rw [World.apply, gates_consume]
    exact .same
  | cache | serve => exact .same

theorem store_of_step (h : Step localeCompare w e w') (hs : w.store.Wf) :
    w'.store.Wf ∧ w.store.Kept w'.store := by
  obtain ⟨-, rfl⟩ := h
  cases e with
  | load k' force =>
    change (w.load k' force).store.Wf ∧ w.store.Kept (w.load k' force).store
    unfold World.load
    split <;> exact ⟨hs, .refl⟩
  | summarize | microtask | serve => exact ⟨hs, .refl⟩
  | respond => exact onOutcome_spec hs
  | cache => exact cache_spec hs
  | consume c =>
    change (w.consume localeCompare c).store.Wf ∧ w.store.Kept (w.consume localeCompare c).store
    unfold World.consume
    split
    · split
      · dsimp only
        split
        · exact cache_spec hs
        · exact ⟨hs, .refl⟩
      · exact ⟨hs, .refl⟩
    · exact ⟨hs, .refl⟩

theorem answers_of_append {l l' : List (Request ℕ Outcome)} {now : ℕ}
    (h : ∀ (i : ℕ) (r : Request ℕ Outcome), l[i]? = some r → ∀ o, r.outcome = some o →
      Answers k r.since o) (hl : l' = l ∨ ∃ p, l' = l ++ [⟨p, now, none⟩]) :
    ∀ (i : ℕ) (r : Request ℕ Outcome), l'[i]? = some r → ∀ o, r.outcome = some o →
      Answers k r.since o := by
  rcases hl with rfl | ⟨p, rfl⟩
  · exact h
  · intro i r hr o ho
    rcases Gate.getElem?_concat_cases hr with hr | ⟨-, rfl⟩
    · exact h i r hr o ho
    · cases ho

theorem wf_of_step (h : Step localeCompare w e w') (hw : w.Wf) : w'.Wf := by
  have hgate := fun k => gateStep_of_step (k := k) h
  refine ⟨fun k => ?_, fun k => ?_, fun k => ?_, (store_of_step h hw.store).1⟩
  · have hk := hgate k
    generalize w'.gates k = g at hk
    cases hk with
    | same => exact hw.gate k
    | load | summarize => exact (hw.gate k).runRequest
    | respond => exact (hw.gate k).respond
    | microtask => exact (hw.gate k).microtask
  · have hk := hgate k
    generalize w'.gates k = g at hk
    cases hk with
    | same => exact hw.live k
    | load | summarize => exact (hw.live k).runRequest
    | respond => exact (hw.live k).respond (hw.gate k)
    | microtask => exact (hw.live k).microtask
  · have hk := hgate k
    generalize w'.gates k = g at hk
    cases hk with
    | same => exact hw.answers k
    | load | summarize => exact answers_of_append (hw.answers k) (Gate.requests_runRequest _ _ _)
    | microtask => exact answers_of_append (hw.answers k) Gate.requests_microtask
    | respond hr hopen ho =>
      intro j r' hr' o' ho'
      rcases Gate.request_respond hr' with hr' | ⟨rfl, hout, hold⟩
      · exact hw.answers k j r' hr' o' ho'
      · obtain rfl := Option.some.inj (hr.symm.trans hold)
        obtain rfl := Option.some.inj (hout.symm.trans ho')
        exact ho

theorem wf_of_run {server : Key → ℕ} {l : List (Transition World Event)}
    (h : Run (Step localeCompare) (.initial server) l w) : w.Wf :=
  h.keeps (Q := World.Wf) (wf_initial server) fun _ hx => wf_of_step (h.step_of_mem hx)

def Forces (e : Event) (k : Key) (summary : Bool) : Prop :=
  if summary then e = .summarize k else e = .load k true

/-- The promise of a call has settled with this request. -/
def SettledWith (k : Key) (p i : ℕ) (o : Outcome) (w : World) : Prop :=
  (w.gates k).loops[p]? = some (.settled i o)

/-- What the page keeps of a forced call that was made in the state `w₀`. -/
structure Followed (w₀ : World) (k : Key) (summary : Bool) (w : World) : Prop where
  server : w₀.server k ≤ w.server k
  since : ∀ (i : ℕ) (r : Request ℕ Outcome), (w₀.gates k).requests.length ≤ i →
    (w.gates k).requests[i]? = some r → w₀.server k ≤ r.since
  promised : ¬ (w₀.gates k).Closing →
    Gate.Promised (w₀.gates k).requests.length (w₀.gates k).promise (w.gates k)
  stale : (w₀.gates k).Closing →
    Gate.Stale (w₀.gates k).requests.length (w₀.gates k).promise (w.gates k)
  consumer : ∃ done, w.consumers[w₀.consumers.length]? =
      some ⟨k, (w₀.gates k).promise, summary, done⟩ ∧
    (done = true → ∃ i o, SettledWith k (w₀.gates k).promise i o w ∧
      ∀ p, o = .ok (.one p) → ∃ q ∈ w.store.cached? summary k, p.stateRevision ≤ q.stateRevision)

theorem request_of_forces (h : Step localeCompare w e w') (hf : Forces e k summary) :
    w' = w.request k true summary := by
  obtain ⟨-, rfl⟩ := h
  unfold Forces at hf
  split at hf
  · next hsum =>
    subst hf hsum
    rfl
  · next hsum =>
    subst hf
    obtain rfl : summary = false := by simpa using hsum
    rfl

theorem followed_of_forces (hw : w.Wf) : Followed w k summary (w.request k true summary) := by
  have hgate : (w.request k true summary).gates k =
      (w.gates k).runRequest (w.server k) true := by
    simp [World.request, World.setGate]
  refine ⟨le_rfl, fun i r hi hr => ?_, fun hopen => ?_, fun hclosing => ?_, false, ?_, by simp⟩
  · rw [hgate] at hr
    rcases Gate.requests_runRequest (w.gates k) (w.server k) true with
      he | ⟨p, he⟩
    · rw [he] at hr
      have := (List.getElem?_eq_some_iff.1 hr).1
      omega
    · rw [he] at hr
      rcases Gate.getElem?_concat_cases hr with hr | ⟨-, rfl⟩
      · have := (List.getElem?_eq_some_iff.1 hr).1
        omega
      · exact le_rfl
  · rw [hgate]
    exact Gate.promised_of_forced (hw.gate k) hopen
  · rw [hgate]
    exact Gate.stale_of_closing (hw.gate k) hclosing
  · simp [World.request]

theorem server_of_step (h : Step localeCompare w e w') : w.server k ≤ w'.server k := by
  obtain ⟨hallowed, rfl⟩ := h
  cases e with
  | load k' force =>
    change w.server k ≤ (w.load k' force).server k
    unfold World.load
    split <;> exact le_rfl
  | serve k' revision =>
    by_cases hk : k = k'
    · subst hk
      change w.server k ≤ revision at hallowed
      simpa [World.apply] using hallowed
    · simp [World.apply, hk]
  | consume c =>
    have hserver : (w.consume localeCompare c).server = w.server := by
      unfold World.consume
      split
      · split <;> rfl
      · rfl
    exact (congrFun hserver k).ge
  | summarize | respond | microtask | cache => exact le_rfl

theorem settledWith_of_step {promise i : ℕ} {o : Outcome} (h : Step localeCompare w e w')
    (hp : SettledWith k promise i o w) : SettledWith k promise i o w' := by
  have hk := gateStep_of_step (k := k) h
  unfold SettledWith at hp ⊢
  generalize w'.gates k = g at hk ⊢
  cases hk with
  | same => exact hp
  | load | summarize => exact Gate.loops_runRequest hp
  | respond => rwa [Gate.loops_respond]
  | microtask => exact Gate.microtask_settled hp

variable {w₀ : World}

theorem since_of_step (h : Step localeCompare w e w') (hf : Followed w₀ k summary w) (i : ℕ)
    (r : Request ℕ Outcome) (hi : (w₀.gates k).requests.length ≤ i)
    (hr : (w'.gates k).requests[i]? = some r) : w₀.server k ≤ r.since := by
  have happend : ∀ l' : List (Request ℕ Outcome), (l' = (w.gates k).requests ∨
      ∃ p, l' = (w.gates k).requests ++ [⟨p, w.server k, none⟩]) →
      l'[i]? = some r → w₀.server k ≤ r.since := by
    rintro l' (rfl | ⟨p, rfl⟩) hr
    · exact hf.since i r hi hr
    · rcases Gate.getElem?_concat_cases hr with hr | ⟨-, rfl⟩
      · exact hf.since i r hi hr
      · exact hf.server
  have hk := gateStep_of_step (k := k) h
  generalize w'.gates k = g at hk hr
  cases hk with
  | same => exact hf.since i r hi hr
  | load | summarize => exact happend _ (Gate.requests_runRequest _ _ _) hr
  | microtask => exact happend _ Gate.requests_microtask hr
  | respond =>
    rcases Gate.request_respond hr with hr | ⟨rfl, -, hold⟩
    · exact hf.since i r hi hr
    · exact hf.since i ⟨r.loop, r.since, none⟩ hi hold

theorem consumer_of_step (h : Step localeCompare w e w') {c promise : ℕ} {done : Bool}
    (hc : w.consumers[c]? = some ⟨k, promise, summary, done⟩) :
    w'.consumers[c]? = some ⟨k, promise, summary, done⟩ ∨
      w'.consumers[c]? = some ⟨k, promise, summary, true⟩ ∧ done = false ∧
        ∃ i o, SettledWith k promise i o w ∧
          ∀ p, o = .ok (.one p) → w'.store = cache localeCompare summary p w.store k := by
  have happend : ∀ x, (w.consumers ++ [x])[c]? = some ⟨k, promise, summary, done⟩ := fun x =>
    (List.getElem?_append_left (List.getElem?_eq_some_iff.1 hc).1).trans hc
  obtain ⟨-, rfl⟩ := h
  cases e with
  | load k' force =>
    left
    change (w.load k' force).consumers[c]? = _
    unfold World.load
    split
    · exact hc
    · exact happend _
  | summarize => exact .inl (happend _)
  | respond | microtask | cache | serve => exact .inl hc
  | consume c' =>
    change (w.consume localeCompare c').consumers[c]? = _ ∨
      (w.consume localeCompare c').consumers[c]? = _ ∧ _ ∧ ∃ i o, _ ∧ ∀ p, _ →
        (w.consume localeCompare c').store = _
    by_cases hcc : c' = c
    · subst hcc
      cases done with
      | true => simp [World.consume, hc]
      | false =>
        cases hp : (w.gates k).loops[promise]? with
        | none => simp [World.consume, hc, hp]
        | some ph =>
          cases ph with
          | awaiting | returned | released => simp [World.consume, hc, hp]
          | settled i o =>
            refine .inr ⟨?_, rfl, i, o, hp, ?_⟩
            · simp only [World.consume, hc, hp]
              exact List.getElem?_set_self (List.getElem?_eq_some_iff.1 hc).1
            · rintro p rfl
              simp [World.consume, hc, hp]
    · left
      unfold World.consume
      split
      · split
        · exact (List.getElem?_set_ne hcc).trans hc
        · exact hc
      · exact hc

theorem followed_of_step (h : Step localeCompare w e w') (hw : w.Wf)
    (hf : Followed w₀ k summary w) : Followed w₀ k summary w' := by
  have hstore := store_of_step h hw.store
  have hk := gateStep_of_step (k := k) h
  refine ⟨hf.server.trans (server_of_step h), since_of_step h hf, fun hopen => ?_,
    fun hclosing => ?_, ?_⟩
  · have hp := hf.promised hopen
    generalize w'.gates k = g at hk ⊢
    cases hk with
    | same => exact hp
    | load | summarize => exact hp.runRequest (hw.gate k)
    | respond => exact hp.respond
    | microtask => exact hp.microtask (hw.gate k)
  · have hp := hf.stale hclosing
    generalize w'.gates k = g at hk ⊢
    cases hk with
    | same => exact hp
    | load | summarize => exact hp.runRequest
    | respond => exact hp.respond
    | microtask => exact hp.microtask
  · obtain ⟨done, hc, hdone⟩ := hf.consumer
    rcases consumer_of_step h hc with hc' | ⟨hc', rfl, i, o, hset, hcache⟩
    · refine ⟨done, hc', fun hd => ?_⟩
      obtain ⟨i, o, hset, hcached⟩ := hdone hd
      refine ⟨i, o, settledWith_of_step h hset, fun p hp => ?_⟩
      obtain ⟨q, hq, hle⟩ := hcached p hp
      obtain ⟨q', hq', hle'⟩ := cached_kept hstore.2 hstore.1 hq
      exact ⟨q', hq', hle.trans hle'⟩
    · refine ⟨true, hc', fun _ => ⟨i, o, settledWith_of_step h hset, fun p hp => ?_⟩⟩
      have hanswer := (hw.gate k).answered _ _ hset o rfl
      obtain ⟨r, hr, hro⟩ := Option.bind_eq_some_iff.1 hanswer
      have hans := hw.answers k i r hr o hro
      rw [hcache p hp]
      rw [hp] at hans
      exact (cached_cache _ _ hw.store hans).2

/-- What the gates and the store promise of a history. -/
structure ForcedRefresh (l : List (Transition World Event)) (w : World) : Prop where
  fresh : ∀ x ∈ l, ∀ k summary, Forces x.label k summary → ∀ i o,
    SettledWith k (x.pre.gates k).promise i o w → (x.pre.gates k).requests.length ≤ i ∧
      ∃ r : Request ℕ Outcome, (w.gates k).requests[i]? = some r ∧ r.outcome = some o
  settles : ∀ k, (w.gates k).queue = [] → (∀ i, ¬ (w.gates k).InFlight i) →
    ∀ (p : ℕ) ph, (w.gates k).loops[p]? = some ph → ∃ i o, ph = .settled i o
  single : ∀ k i j, (w.gates k).InFlight i → (w.gates k).InFlight j → i = j
  no_extra : ∀ x ∈ l, ∀ k i, x.label = .load k false → (x.pre.gates k).InFlight i →
    x.post.gates = x.pre.gates
  cached : ∀ x ∈ l, ∀ k summary, Forces x.label k summary →
    ∀ c, w.consumers[x.pre.consumers.length]? = some c → c.done = true →
      ∀ i p, SettledWith k c.promise i (.ok (.one p)) w →
        ∃ q ∈ w.store.cached? summary k, x.pre.server k ≤ q.stateRevision
  kept : ∀ x ∈ l, x.pre.store.Kept x.post.store
  distinct : Distinct w.store.jobs ∧ Distinct w.store.reviews

variable {server : Key → ℕ} {l : List (Transition World Event)}

theorem followed_of_run (h : Run (Step localeCompare) (.initial server) l w)
    {x : Transition World Event} (hx : x ∈ l) (hf : Forces x.label k summary) :
    Followed x.pre k summary w := by
  obtain ⟨l₁, l₂, rfl⟩ := List.append_of_mem hx
  obtain ⟨hpre, hstep, hpost⟩ := h.split
  have hwf := wf_of_run hpre
  have hstart : Followed x.pre k summary x.post := by
    rw [request_of_forces hstep hf]
    exact followed_of_forces hwf
  have hkeeps := hpost.keeps (Q := fun w => w.Wf ∧ Followed x.pre k summary w)
    ⟨wf_of_step hstep hwf, hstart⟩ fun y hy hpre =>
      ⟨wf_of_step (hpost.step_of_mem hy) hpre.1,
        followed_of_step (hpost.step_of_mem hy) hpre.1 hpre.2⟩
  exact hkeeps.2

theorem gates_load_of_inFlight {i : ℕ} (hw : w.Wf) (hi : (w.gates k).InFlight i) :
    (w.load k false).gates = w.gates := by
  obtain ⟨r, hr, ho⟩ := hi
  have hpending := (hw.gate k).running _ _ ((hw.gate k).open_request i r hr ho) trivial
  have hrun : (w.gates k).runRequest (w.server k) false = w.gates k :=
    Gate.runRequest_joined hpending
  unfold World.load
  split
  · rfl
  · change Function.update w.gates k _ = w.gates
    rw [hrun, Function.update_eq_self]

theorem forced_refresh_iff (h : Run (Step localeCompare) (.initial server) l w) :
    ForcedRefresh l w ↔ ∀ x ∈ l, ∀ k summary, Forces x.label k summary →
      (∃ i o, SettledWith k (x.pre.gates k).promise i o w) → ¬ (x.pre.gates k).Closing := by
  have hwf := wf_of_run h
  constructor
  · rintro hall x hx k summary hf ⟨i, o, hset⟩ hclosing
    obtain ⟨hle, -⟩ := hall.fresh x hx k summary hf i o hset
    have hlt := ((followed_of_run h hx hf).stale hclosing).settled hset
    omega
  · intro hopen
    have hfresh : ∀ x ∈ l, ∀ k summary, Forces x.label k summary → ∀ i o,
        SettledWith k (x.pre.gates k).promise i o w → (x.pre.gates k).requests.length ≤ i := by
      intro x hx k summary hf i o hset
      exact ((followed_of_run h hx hf).promised (hopen x hx k summary hf ⟨i, o, hset⟩)).settled hset
    refine ⟨?_, ?_, ?_, ?_, ?_, ?_, hwf.store.jobs, hwf.store.reviews⟩
    · intro x hx k summary hf i o hset
      have hanswer := (hwf.gate k).answered _ _ hset o rfl
      exact ⟨hfresh x hx k summary hf i o hset, Option.bind_eq_some_iff.1 hanswer⟩
    · exact fun k hqueue hanswered p ph hp => (hwf.live k).settled hqueue hanswered hp
    · exact fun k i j hi hj => (hwf.gate k).inFlight_unique hi hj
    · intro x hx k i hload hi
      obtain ⟨l₁, l₂, rfl⟩ := List.append_of_mem hx
      obtain ⟨hpre, ⟨-, hpost⟩, -⟩ := h.split
      rw [hpost, hload]
      exact gates_load_of_inFlight (wf_of_run hpre) hi
    · intro x hx k summary hf c hc hdone i p hset
      have hfol := followed_of_run h hx hf
      obtain ⟨done, hc', hcached⟩ := hfol.consumer
      obtain rfl := Option.some.inj (hc.symm.trans hc')
      obtain ⟨i', o', hset', hq⟩ := hcached hdone
      have heq := Option.some.inj (hset.symm.trans hset')
      cases heq
      obtain ⟨q, hq, hle⟩ := hq p rfl
      obtain ⟨r, hr, hro⟩ := Option.bind_eq_some_iff.1 ((hwf.gate k).answered _ _ hset _ rfl)
      have hsince := hfol.since i r (hfresh x hx k summary hf i _ hset) hr
      have hrev := (cached_cache localeCompare summary hwf.store
        (hwf.answers k i r hr _ hro)).1
      exact ⟨q, hq, hsince.trans (hrev.trans hle)⟩
    · intro x hx
      obtain ⟨l₁, l₂, rfl⟩ := List.append_of_mem hx
      obtain ⟨hpre, hstep, -⟩ := h.split
      exact (store_of_step hstep (wf_of_run hpre).store).2

namespace Sample

def play (w : World) : List Event → List (Transition World Event)
  | [] => []
  | e :: es => ⟨w, e, w.apply (fun _ _ => 0) e⟩ :: play (w.apply (fun _ _ => 0) e) es

def final (w : World) : List Event → World
  | [] => w
  | e :: es => final (w.apply (fun _ _ => 0) e) es

/-- The environment keeps to its side at each event. -/
def AllAllowed (w : World) : List Event → Prop
  | [] => True
  | e :: es => Allowed w e ∧ AllAllowed (w.apply (fun _ _ => 0) e) es

theorem play_run {w : World} {es : List Event} (h : AllAllowed w es) :
    Run (Step fun _ _ => 0) w (play w es) (final w es) := by
  induction es generalizing w with
  | nil => exact .nil w
  | cons e es ih => exact (Run.single ⟨h.1, rfl⟩).append (ih h.2)

/-- No forced call of these events comes while its gate is closing. -/
def NoneClosing (w : World) : List Event → Prop
  | [] => True
  | e :: es => (∀ k summary, Forces e k summary → ¬ (w.gates k).Closing) ∧
      NoneClosing (w.apply (fun _ _ => 0) e) es

theorem not_closing_of_mem {w : World} {es : List Event} (h : NoneClosing w es)
    {x : Transition World Event} (hx : x ∈ play w es) {k : Key} {summary : Bool}
    (hf : Forces x.label k summary) : ¬ (x.pre.gates k).Closing := by
  induction es generalizing w with
  | nil => cases hx
  | cons e es ih =>
    rcases List.mem_cons.1 hx with rfl | hx
    · exact h.1 k summary hf
    · exact ih h.2 hx

theorem not_forces {e : Event} (h : ∀ k, e ≠ .load k true ∧ e ≠ .summarize k) {k : Key}
    {summary : Bool} : ¬ Forces e k summary := by
  unfold Forces
  split
  · exact (h k).2
  · exact (h k).1

def key : Key := .job "job"

def answer (revision : ℕ) : Outcome := .ok (.one ⟨"job", revision, "", ""⟩)

def start : World := .initial fun _ => 0

end Sample

open Sample

/-- The second load comes between the end of the async function and the callback of `finally`. -/
def closingLoad : List Event :=
  [.load key true, .respond key 0 (answer 0), .microtask key, .serve key 1, .load key true,
    .microtask key, .microtask key, .consume 0, .consume 1]

theorem closingLoad_stale : ∃ l w, Run (Step fun _ _ => 0) start l w ∧ ¬ ForcedRefresh l w := by
  have hallowed : AllAllowed start closingLoad :=
    ⟨trivial, ⟨_, rfl, rfl, rfl, le_rfl⟩, trivial, Nat.zero_le 1, trivial, trivial,
      trivial, trivial,
      trivial, trivial⟩
  refine ⟨_, _, play_run hallowed, fun h => ?_⟩
  have hx : (⟨final start (closingLoad.take 4), .load key true,
      final start (closingLoad.take 5)⟩ : Transition World Event) ∈ play start closingLoad :=
    .tail _ (.tail _ (.tail _ (.tail _ (.head _))))
  obtain ⟨hle, -⟩ := h.fresh _ hx key false rfl 0 (answer 0) rfl
  exact absurd hle (by decide)

/-- The second load comes while the first request is in flight. -/
def dirtyLoad : List Event :=
  [.load key true, .serve key 1, .load key true, .respond key 0 (answer 0), .microtask key,
    .respond key 1 (answer 1), .microtask key, .microtask key, .microtask key, .consume 0,
    .consume 1]

theorem forced_refresh_dirtyLoad : ∃ l w, Run (Step fun _ _ => 0) start l w ∧
    (∃ i o, SettledWith key 0 i o w) ∧ ForcedRefresh l w := by
  have hallowed : AllAllowed start dirtyLoad :=
    ⟨trivial, Nat.zero_le 1, trivial, ⟨_, rfl, rfl, rfl, le_rfl⟩, trivial,
      ⟨_, rfl, rfl, rfl, le_rfl⟩, trivial, trivial, trivial, trivial, trivial, trivial⟩
  have hfirst : ∀ k, ¬ (start.gates k).Closing := by
    rintro k ⟨p, hp, -⟩
    cases hp
  have hother : ∀ {e : Event} {w : World}, (∀ k, e ≠ .load k true ∧ e ≠ .summarize k) →
      ∀ k summary, Forces e k summary → ¬ (w.gates k).Closing :=
    fun he _ _ hf => absurd hf (not_forces he)
  have hsecond : ∀ k summary, Forces (.load key true) k summary →
      ¬ ((final start (dirtyLoad.take 2)).gates k).Closing := by
    rintro k (_ | _) hf ⟨p, hp, i, o, h⟩
    · cases hf
      cases hp
      cases h
    · cases hf
  have hnone : NoneClosing start dirtyLoad := by
    refine ⟨fun k _ _ => hfirst k, hother ?_, hsecond, hother ?_, hother ?_, hother ?_, hother ?_,
      hother ?_, hother ?_, hother ?_, hother ?_, trivial⟩ <;> simp
  refine ⟨_, _, play_run hallowed, ⟨1, answer 1, rfl⟩,
    (forced_refresh_iff (play_run hallowed)).2 fun x hx k summary hf _ => ?_⟩
  exact not_closing_of_mem hnone hx hf

end DataJuicer.Frontend
