import Mathlib.Data.List.Basic
import DataJuicer.Lib.Run

/-! # Requests that share one promise

`runRequest` keeps at most one request of a resource in flight. Its async function and the callback
of `finally` run in microtasks of their own, so that other code may run between any two of them.
-/

universe u v

namespace DataJuicer.Frontend

/-- A request of an async function, with the time at which it was sent. -/
structure Request (τ : Type u) (ρ : Type v) where
  loop : ℕ
  since : τ
  outcome : Option ρ

/-- Where the async function of a call is; `request` is the last one that it has sent. -/
inductive LoopPhase (ρ : Type v)
  /-- `await request()` -/
  | awaiting (request : ℕ)
  /-- It has returned or thrown, and the callback of `finally` is queued. -/
  | returned (request : ℕ) (outcome : ρ)
  /-- The callback has run, and the promise of the callers is about to settle. -/
  | released (request : ℕ) (outcome : ρ)
  | settled (request : ℕ) (outcome : ρ)

/-- The async function has not handed over its outcome. -/
def LoopPhase.Running {ρ : Type v} : LoopPhase ρ → Prop
  | .awaiting _ | .returned .. => True
  | _ => False

/-- The last request that the async function has sent. -/
def LoopPhase.request {ρ : Type v} : LoopPhase ρ → ℕ
  | .awaiting i | .returned i _ | .released i _ | .settled i _ => i

/-- The outcome of an async function that has ended. -/
def LoopPhase.outcome? {ρ : Type v} : LoopPhase ρ → Option ρ
  | .awaiting _ => none
  | .returned _ o | .released _ o | .settled _ o => some o

/-- A queued microtask. -/
inductive Job
  | resume (loop : ℕ)
  | release (loop : ℕ)
  | settle (loop : ℕ)

def Job.loop : Job → ℕ
  | .resume p | .release p | .settle p => p

/-- `RequestGate`, with the promises, the requests and the microtasks that belong to it. -/
structure Gate (τ : Type u) (ρ : Type v) where
  /-- The promise of this async function. -/
  pending : Option ℕ
  dirty : Bool
  loops : List (LoopPhase ρ)
  requests : List (Request τ ρ)
  queue : List Job

namespace Gate

variable {τ : Type u} {ρ : Type v}

def empty : Gate τ ρ := ⟨none, false, [], [], []⟩

/-- `gate.dirty = false` and the call of `request`. -/
def send (now : τ) (p : ℕ) (g : Gate τ ρ) : Gate τ ρ :=
  { g with dirty := false, requests := g.requests ++ [⟨p, now, none⟩] }

def promise (g : Gate τ ρ) : ℕ := g.pending.getD g.loops.length

def runRequest (now : τ) (force : Bool) (g : Gate τ ρ) : Gate τ ρ :=
  let g := { g with dirty := force || g.dirty }
  match g.pending with
  | some _ => g
  | none => { g.send now g.loops.length with
      loops := g.loops ++ [.awaiting g.requests.length]
      pending := some g.loops.length }

/-- The promise of a request settles; what awaits it is queued. -/
def respond (i : ℕ) (o : ρ) (g : Gate τ ρ) : Gate τ ρ :=
  match g.requests[i]? with
  | some ⟨p, since, none⟩ => { g with
      requests := g.requests.set i ⟨p, since, some o⟩
      queue := g.queue ++ [.resume p] }
  | _ => g

/-- The async function goes on after `await`. -/
def resume (now : τ) (p : ℕ) (g : Gate τ ρ) : Gate τ ρ :=
  match g.loops[p]? with
  | some (.awaiting i) =>
    match g.requests[i]?.bind Request.outcome with
    | some o =>
      if g.dirty then
        { g.send now p with loops := g.loops.set p (.awaiting g.requests.length) }
      else { g with loops := g.loops.set p (.returned i o), queue := g.queue ++ [.release p] }
    | none => g
  | _ => g

/-- The callback of `finally`. -/
def release (p : ℕ) (g : Gate τ ρ) : Gate τ ρ :=
  match g.loops[p]? with
  | some (.returned i o) => { g with
      pending := if g.pending = some p then none else g.pending
      loops := g.loops.set p (.released i o)
      queue := g.queue ++ [.settle p] }
  | _ => g

/-- The promise of the callers settles. -/
def settle (p : ℕ) (g : Gate τ ρ) : Gate τ ρ :=
  match g.loops[p]? with
  | some (.released i o) => { g with loops := g.loops.set p (.settled i o) }
  | _ => g

/-- The first queued microtask runs. -/
def microtask (now : τ) (g : Gate τ ρ) : Gate τ ρ :=
  match g.queue with
  | [] => g
  | .resume p :: q => resume now p { g with queue := q }
  | .release p :: q => release p { g with queue := q }
  | .settle p :: q => settle p { g with queue := q }

/-- The async function has ended and the gate still holds its promise. -/
def Closing (g : Gate τ ρ) : Prop :=
  ∃ p ∈ g.pending, ∃ i o, g.loops[p]? = some (.returned i o)

/-- A request that has no outcome. -/
def InFlight (i : ℕ) (g : Gate τ ρ) : Prop :=
  ∃ r : Request τ ρ, g.requests[i]? = some r ∧ r.outcome = none

/-- Only the promise that the gate holds may send requests. -/
structure Wf (g : Gate τ ρ) : Prop where
  running : ∀ (p : ℕ) (ph : LoopPhase ρ), g.loops[p]? = some ph → ph.Running →
    g.pending = some p
  held : ∀ p : ℕ, g.pending = some p → ∃ ph : LoopPhase ρ, g.loops[p]? = some ph ∧ ph.Running
  open_request : ∀ (i : ℕ) (r : Request τ ρ), g.requests[i]? = some r → r.outcome = none →
    g.loops[r.loop]? = some (.awaiting i)
  sent : ∀ (p : ℕ) (ph : LoopPhase ρ), g.loops[p]? = some ph → ph.request < g.requests.length
  answered : ∀ (p : ℕ) (ph : LoopPhase ρ), g.loops[p]? = some ph → ∀ o, ph.outcome? = some o →
    (g.requests[ph.request]?.bind Request.outcome) = some o

theorem wf_empty : (empty : Gate τ ρ).Wf where
  running := fun _ _ h => by simp [empty] at h
  held := fun _ h => by simp [empty] at h
  open_request := fun _ _ h => by simp [empty] at h
  sent := fun _ _ h => by simp [empty] at h
  answered := fun _ _ h => by simp [empty] at h

variable {g : Gate τ ρ} {now : τ} {force : Bool} {p i : ℕ} {o : ρ}

theorem Wf.inFlight_unique (h : g.Wf) {j : ℕ} (hi : InFlight i g) (hj : InFlight j g) :
    i = j := by
  obtain ⟨r, hr, hro⟩ := hi
  obtain ⟨r', hr', hro'⟩ := hj
  have hi := h.open_request i r hr hro
  have hj := h.open_request j r' hr' hro'
  have hloop := Option.some.inj ((h.running _ _ hi trivial).symm.trans (h.running _ _ hj trivial))
  rw [hloop, hj] at hi
  cases hi
  rfl

/-- The gate after a call that gets the promise of an earlier one. -/
def joined (force : Bool) (g : Gate τ ρ) : Gate τ ρ := { g with dirty := force || g.dirty }

/-- The gate after a call that sends the first request of a new promise. -/
def started (now : τ) (g : Gate τ ρ) : Gate τ ρ :=
  { g.send now g.loops.length with
    loops := g.loops ++ [.awaiting g.requests.length]
    pending := some g.loops.length }

theorem runRequest_joined {q : ℕ} (h : g.pending = some q) :
    runRequest now force g = g.joined force := by
  obtain ⟨pending, dirty, loops, requests, queue⟩ := g
  obtain rfl := h
  rfl

theorem runRequest_started (h : g.pending = none) : runRequest now force g = started now g := by
  obtain ⟨pending, dirty, loops, requests, queue⟩ := g
  obtain rfl := h
  rfl

theorem Wf.idle (h : g.Wf) (hp : g.pending = none) {ph : LoopPhase ρ}
    (hph : g.loops[p]? = some ph) : ¬ ph.Running := by
  intro hr
  rw [h.running p ph hph hr] at hp
  cases hp

theorem Wf.started (h : g.Wf) (hp : g.pending = none) : (started now g).Wf where
  running := by
    intro q ph hq hr
    have := fun hq : g.loops[q]? = some ph => h.idle hp hq
    simp only [Gate.started, send] at hq ⊢
    grind
  held := by
    rintro q ⟨⟩
    refine ⟨.awaiting g.requests.length, ?_, trivial⟩
    simp [Gate.started]
  open_request := by
    intro j r hj ho
    have := h.open_request j r
    simp only [Gate.started, send] at hj ⊢
    grind
  sent := by
    intro q ph hq
    have := h.sent q ph
    simp only [Gate.started, send] at hq ⊢
    grind [LoopPhase.request]
  answered := by
    intro q ph hq o ho
    have := h.sent q ph
    have := h.answered q ph
    simp only [Gate.started, send] at hq ⊢
    grind [LoopPhase.outcome?]

theorem Wf.runRequest (h : g.Wf) : (runRequest now force g).Wf := by
  cases hp : g.pending with
  | some q =>
    rw [runRequest_joined hp]
    exact ⟨h.running, h.held, h.open_request, h.sent, h.answered⟩
  | none =>
    rw [runRequest_started hp]
    exact h.started hp

theorem Wf.respond (h : g.Wf) : (respond i o g).Wf := by
  unfold Gate.respond
  split
  · next q since hi =>
    refine ⟨h.running, h.held, fun j r hj ho => ?_, fun q ph hq => ?_, fun q ph hq o' ho => ?_⟩
    · have := h.open_request j r
      dsimp only at hj ⊢
      grind
    · rw [List.length_set]
      exact h.sent q ph hq
    · have := h.answered q ph hq o' ho
      grind
  · exact h

theorem Wf.retried (h : g.Wf) (hp : g.loops[p]? = some (.awaiting i)) {r : Request τ ρ}
    (hi : g.requests[i]? = some r) (ho : r.outcome = some o) :
    Wf { g.send now p with loops := g.loops.set p (.awaiting g.requests.length) } where
  running := by
    intro q ph hq hr
    have := h.running p _ hp trivial
    have := h.running q ph
    dsimp only [send] at hq ⊢
    grind
  held := by
    intro q hq
    have := h.held q hq
    dsimp only [send] at hq ⊢
    grind [LoopPhase.Running]
  open_request := by
    intro j r' hj ho'
    have := h.open_request j r'
    dsimp only [send] at hj ⊢
    grind
  sent := by
    intro q ph hq
    have := h.sent q ph
    dsimp only [send] at hq ⊢
    grind [LoopPhase.request]
  answered := by
    intro q ph hq o' ho'
    have := h.sent q ph
    have := h.answered q ph
    dsimp only [send] at hq ⊢
    grind [LoopPhase.outcome?]

/-- A promise goes on without another request. -/
theorem Wf.advanced (h : g.Wf) (ph' : LoopPhase ρ) {ph : LoopPhase ρ}
    (hp : g.loops[p]? = some ph)
    (hphase : ph'.Running → ph.Running) (hrequest : ph'.request = ph.request)
    (hopen : ∀ i, ph = .awaiting i → ∀ r : Request τ ρ, g.requests[i]? = some r → r.outcome ≠ none)
    (houtcome : ∀ o, ph'.outcome? = some o → (g.requests[ph'.request]?.bind
      Request.outcome) = some o)
    {pending : Option ℕ} (hpending : pending = g.pending ∧ (ph.Running → ph'.Running) ∨
      pending = none ∧ ¬ ph'.Running ∧ g.pending = some p)
    {queue : List Job} : Wf { g with pending, loops := g.loops.set p ph', queue } where
  running := by
    intro q phq hq hr
    have := h.running q phq
    have := h.running p ph hp
    dsimp only at hq ⊢
    grind
  held := by
    intro q hq
    have := h.held q
    dsimp only at hq ⊢
    grind
  open_request := by
    intro j r hj ho
    have := h.open_request j r hj ho
    dsimp only
    grind
  sent := by
    intro q phq hq
    have := h.sent q phq
    have := h.sent p ph hp
    dsimp only at hq ⊢
    grind
  answered := by
    intro q phq hq o ho
    have := h.answered q phq
    have := houtcome o
    dsimp only at hq ⊢
    grind

theorem Wf.resume (h : g.Wf) : (resume now p g).Wf := by
  unfold Gate.resume
  split
  · next i hp =>
    split
    · next o ho =>
      obtain ⟨r, hr, ho⟩ := Option.bind_eq_some_iff.1 ho
      split
      · exact h.retried hp hr ho
      · refine h.advanced (.returned i o) hp (fun _ => trivial) rfl ?_ ?_
          (.inl ⟨rfl, fun _ => trivial⟩)
        · grind
        · rintro _ ⟨⟩
          exact Option.bind_eq_some_iff.2 ⟨r, hr, ho⟩
    · exact h
  · exact h

theorem Wf.release (h : g.Wf) : (release p g).Wf := by
  unfold Gate.release
  split
  · next i o hp =>
    refine h.advanced (.released i o) hp False.elim rfl (by simp)
      (h.answered p (.returned i o) hp) ?_
    rw [if_pos (h.running p _ hp trivial)]
    exact .inr ⟨rfl, id, h.running p _ hp trivial⟩
  · exact h

theorem Wf.settle (h : g.Wf) : (settle p g).Wf := by
  unfold Gate.settle
  split
  · next i o hp =>
    exact h.advanced (.settled i o) hp False.elim rfl (by simp)
      (h.answered p (.released i o) hp) (.inl ⟨rfl, False.elim⟩)
  · exact h

theorem Wf.microtask (h : g.Wf) : (microtask now g).Wf := by
  have hq : ∀ queue, ({ g with queue } : Gate τ ρ).Wf := fun _ =>
    ⟨h.running, h.held, h.open_request, h.sent, h.answered⟩
  unfold Gate.microtask
  split
  · exact h
  · exact (hq _).resume
  · exact (hq _).release
  · exact (hq _).settle

/-- This promise settles with a request that is not among the first `n`. -/
structure Promised (n p : ℕ) (g : Gate τ ρ) : Prop where
  sent : n ≤ g.requests.length
  request : ∃ ph : LoopPhase ρ, g.loops[p]? = some ph ∧
    (n ≤ ph.request ∨ (∃ i, ph = .awaiting i) ∧ g.dirty = true)

/-- This promise settles with one of the first `n` requests. -/
def Stale (n p : ℕ) (g : Gate τ ρ) : Prop :=
  ∃ ph : LoopPhase ρ, g.loops[p]? = some ph ∧ (∀ i, ph ≠ .awaiting i) ∧ ph.request < n

/-- A forced call that comes before the async function ends has its own request. -/
theorem promised_of_forced (h : g.Wf) (hopen : ¬ Closing g) :
    Promised g.requests.length g.promise (runRequest now true g) := by
  cases hp : g.pending with
  | some p =>
    rw [runRequest_joined hp]
    obtain ⟨ph, hph, hrun⟩ := h.held p hp
    refine ⟨Nat.le_refl _, ph, by simpa [joined, promise, hp] using hph, .inr ⟨?_, rfl⟩⟩
    cases ph with
    | awaiting i => exact ⟨i, rfl⟩
    | returned i o => exact absurd ⟨p, hp, i, o, hph⟩ hopen
    | released | settled => exact hrun.elim
  | none =>
    rw [runRequest_started hp]
    refine ⟨by simp [started, send], .awaiting g.requests.length, ?_, .inl (Nat.le_refl _)⟩
    simp [started, promise, hp]

theorem stale_of_closing (h : g.Wf) (hclosing : Closing g) :
    Stale g.requests.length g.promise (runRequest now force g) := by
  obtain ⟨p, hp, i, o, hi⟩ := hclosing
  rw [runRequest_joined hp]
  refine ⟨.returned i o, ?_, by simp, h.sent p _ hi⟩
  simpa [joined, promise, Option.mem_def.1 hp] using hi

variable {n q : ℕ}

theorem Promised.runRequest (h : Promised n q g) (hwf : g.Wf) :
    Promised n q (runRequest now force g) := by
  obtain ⟨hn, ph, hq, hph⟩ := h
  cases hp : g.pending with
  | some p =>
    rw [runRequest_joined hp]
    refine ⟨hn, ph, hq, hph.imp_right fun hph => ⟨hph.1, ?_⟩⟩
    simp [joined, hph.2]
  | none =>
    rw [runRequest_started hp]
    have hidle := hwf.idle hp hq
    refine ⟨?_, ph, ?_, .inl ?_⟩
    · simp only [started, send, List.length_append]
      omega
    · simp only [started]
      grind
    · rcases hph with hph | ⟨⟨i, rfl⟩, -⟩
      · exact hph
      · exact absurd trivial hidle

theorem Promised.respond (h : Promised n q g) : Promised n q (respond i o g) := by
  unfold Gate.respond
  split
  · exact ⟨by simpa using h.sent, h.request⟩
  · exact h

/-- The promise of another async function goes on. -/
theorem Promised.other (h : Promised n q g) (hwf : g.Wf) {ph : LoopPhase ρ}
    (hp : g.loops[p]? = some ph) (hne : q ≠ p) {dirty : Bool}
    (hdirty : dirty = g.dirty ∨ ph.Running) {requests : List (Request τ ρ)}
    (hn : n ≤ requests.length) {pending : Option ℕ} {queue : List Job} {ph' : LoopPhase ρ} :
    Promised n q ⟨pending, dirty, g.loops.set p ph', requests, queue⟩ := by
  obtain ⟨-, phq, hq, hph⟩ := h
  refine ⟨hn, phq, (List.getElem?_set_ne hne.symm).trans hq, ?_⟩
  refine hph.imp_right fun hph => ⟨hph.1, ?_⟩
  rcases hdirty with rfl | hrun
  · exact hph.2
  · obtain ⟨i, rfl⟩ := hph.1
    have hpend := (hwf.running q _ hq trivial).symm.trans (hwf.running p ph hp hrun)
    exact absurd (Option.some.inj hpend) hne

theorem Promised.resume (h : Promised n q g) (hwf : g.Wf) : Promised n q (resume now p g) := by
  unfold Gate.resume
  split
  · next i hp =>
    split
    · next o ho =>
      have hlt := (List.getElem?_eq_some_iff.1 hp).1
      split
      · have hlen : n ≤ (g.requests ++ [(⟨p, now, none⟩ : Request τ ρ)]).length := by
          have := h.sent
          simp only [List.length_append]
          omega
        by_cases hq : q = p
        · subst hq
          exact ⟨hlen, .awaiting g.requests.length, List.getElem?_set_self hlt, .inl h.sent⟩
        · exact h.other hwf hp hq (.inr trivial) hlen
      · next hclean =>
        by_cases hq : q = p
        · subst hq
          obtain ⟨hn, ph, hq, hph⟩ := h
          obtain rfl := Option.some.inj (hp.symm.trans hq)
          refine ⟨hn, .returned i o, List.getElem?_set_self hlt, .inl ?_⟩
          exact hph.resolve_right fun hph => hclean hph.2
        · exact h.other hwf hp hq (.inl rfl) h.sent
    · exact h
  · exact h

theorem Promised.ended (h : Promised n q g) (hwf : g.Wf) (ph' : LoopPhase ρ) {ph : LoopPhase ρ}
    (hp : g.loops[p]? = some ph) (hclosed : ∀ i, ph ≠ .awaiting i)
    (hrequest : ph'.request = ph.request) {pending : Option ℕ} {queue : List Job} :
    Promised n q { g with pending, loops := g.loops.set p ph', queue } := by
  by_cases hq : q = p
  · subst hq
    obtain ⟨hn, phq, hq, hph⟩ := h
    obtain rfl := Option.some.inj (hp.symm.trans hq)
    refine ⟨hn, ph', List.getElem?_set_self (List.getElem?_eq_some_iff.1 hp).1, .inl ?_⟩
    rw [hrequest]
    exact hph.resolve_right fun hph => hclosed hph.1.choose hph.1.choose_spec
  · exact h.other hwf hp hq (.inl rfl) h.sent

theorem Promised.microtask (h : Promised n q g) (hwf : g.Wf) :
    Promised n q (microtask now g) := by
  have hq : ∀ queue, Promised n q { g with queue } := fun _ => ⟨h.sent, h.request⟩
  have hwfq : ∀ queue, ({ g with queue } : Gate τ ρ).Wf := fun _ =>
    ⟨hwf.running, hwf.held, hwf.open_request, hwf.sent, hwf.answered⟩
  unfold Gate.microtask
  split
  · exact h
  · exact (hq _).resume (hwfq _)
  · unfold Gate.release
    split
    · next i o hp => exact (hq _).ended (hwfq _) (.released i o) hp (by simp) rfl
    · exact hq _
  · unfold Gate.settle
    split
    · next i o hp => exact (hq _).ended (hwfq _) (.settled i o) hp (by simp) rfl
    · exact hq _

theorem Promised.settled (h : Promised n q g) (hq : g.loops[q]? = some (.settled i o)) : n ≤ i := by
  obtain ⟨-, ph, hph, hreq⟩ := h
  obtain rfl := Option.some.inj (hq.symm.trans hph)
  exact hreq.resolve_right fun hreq => by simpa using hreq.1

/-- A microtask leaves an async function that has ended with its last request. -/
theorem microtask_ended (now : τ) {ph : LoopPhase ρ} (hq : g.loops[q]? = some ph)
    (hph : ∀ i, ph ≠ .awaiting i) : ∃ ph', (microtask now g).loops[q]? = some ph' ∧
      (∀ i, ph' ≠ .awaiting i) ∧ ph'.request = ph.request ∧
      ∀ i o, ph = .settled i o → ph' = .settled i o := by
  unfold microtask
  split
  · exact ⟨ph, hq, hph, rfl, fun _ _ => id⟩
  · next p _ _ =>
    refine ⟨ph, ?_, hph, rfl, fun _ _ => id⟩
    unfold resume
    split
    · next i hp =>
      have hne : p ≠ q := by
        rintro rfl
        exact hph i (Option.some.inj (hq.symm.trans hp))
      split
      · split <;> exact (List.getElem?_set_ne hne).trans hq
      · exact hq
    · exact hq
  · next p _ _ =>
    unfold release
    split
    · next i o hp =>
      dsimp only at hp ⊢
      by_cases hne : p = q
      · subst hne
        obtain rfl := Option.some.inj (hp.symm.trans hq)
        exact ⟨.released i o, List.getElem?_set_self (List.getElem?_eq_some_iff.1 hp).1,
          by simp, rfl, by simp⟩
      · exact ⟨ph, (List.getElem?_set_ne hne).trans hq, hph, rfl, fun _ _ => id⟩
    · exact ⟨ph, hq, hph, rfl, fun _ _ => id⟩
  · next p _ _ =>
    unfold settle
    split
    · next i o hp =>
      dsimp only at hp ⊢
      by_cases hne : p = q
      · subst hne
        obtain rfl := Option.some.inj (hp.symm.trans hq)
        exact ⟨.settled i o, List.getElem?_set_self (List.getElem?_eq_some_iff.1 hp).1,
          by simp, rfl, by simp⟩
      · exact ⟨ph, (List.getElem?_set_ne hne).trans hq, hph, rfl, fun _ _ => id⟩
    · exact ⟨ph, hq, hph, rfl, fun _ _ => id⟩

theorem loops_runRequest {ph : LoopPhase ρ} (hq : g.loops[q]? = some ph) :
    (runRequest now force g).loops[q]? = some ph := by
  cases hp : g.pending with
  | some p => rwa [runRequest_joined hp]
  | none =>
    rw [runRequest_started hp]
    exact (List.getElem?_append_left (List.getElem?_eq_some_iff.1 hq).1).trans hq

@[simp] theorem loops_respond : (respond i o g).loops = g.loops := by
  unfold respond
  split <;> rfl

theorem microtask_settled (hq : g.loops[q]? = some (.settled i o)) :
    (microtask now g).loops[q]? = some (.settled i o) := by
  obtain ⟨ph', hq', -, -, hsettled⟩ := microtask_ended now hq (by simp)
  rwa [hsettled i o rfl] at hq'

theorem Stale.runRequest (h : Stale n q g) : Stale n q (runRequest now force g) := by
  obtain ⟨ph, hq, hph⟩ := h
  exact ⟨ph, loops_runRequest hq, hph⟩

theorem Stale.respond (h : Stale n q g) : Stale n q (respond i o g) := by
  unfold Stale
  rw [loops_respond]
  exact h

theorem Stale.microtask (h : Stale n q g) : Stale n q (microtask now g) := by
  obtain ⟨ph, hq, hph, hn⟩ := h
  obtain ⟨ph', hq', hph', hreq, -⟩ := microtask_ended _ hq hph
  exact ⟨ph', hq', hph', hreq ▸ hn⟩

theorem Stale.settled (h : Stale n q g) (hq : g.loops[q]? = some (.settled i o)) : i < n := by
  obtain ⟨ph, hph, -, hn⟩ := h
  obtain rfl := Option.some.inj (hq.symm.trans hph)
  exact hn

theorem getElem?_concat_cases {α : Type*} {l : List α} {a b : α} {j : ℕ}
    (h : (l ++ [a])[j]? = some b) : l[j]? = some b ∨ j = l.length ∧ b = a := by
  grind

theorem requests_runRequest (g : Gate τ ρ) (now : τ) (force : Bool) :
    (runRequest now force g).requests = g.requests ∨
    ∃ p, (runRequest now force g).requests = g.requests ++ [⟨p, now, none⟩] := by
  cases hp : g.pending with
  | some p =>
    rw [runRequest_joined hp]
    exact .inl rfl
  | none =>
    rw [runRequest_started hp]
    exact .inr ⟨g.loops.length, rfl⟩

theorem requests_resume : (resume now p g).requests = g.requests ∨
    (resume now p g).requests = g.requests ++ [⟨p, now, none⟩] := by
  unfold resume
  split
  · split
    · split
      · exact .inr rfl
      · exact .inl rfl
    · exact .inl rfl
  · exact .inl rfl

theorem requests_microtask : (microtask now g).requests = g.requests ∨
    ∃ p, (microtask now g).requests = g.requests ++ [⟨p, now, none⟩] := by
  unfold microtask
  split
  · exact .inl rfl
  · next p _ _ => exact requests_resume.imp_right fun h => ⟨p, h⟩
  · unfold release
    split <;> exact .inl rfl
  · unfold settle
    split <;> exact .inl rfl

/-- A request of the gate after an outcome: an old one, or the one that got it. -/
theorem request_respond {j : ℕ} {r : Request τ ρ} (h : (respond i o g).requests[j]? = some r) :
    g.requests[j]? = some r ∨
      j = i ∧ r.outcome = some o ∧ g.requests[i]? = some ⟨r.loop, r.since, none⟩ := by
  unfold respond at h
  split at h
  · next p since hi =>
    dsimp only at h
    by_cases hj : i = j
    · subst hj
      rw [List.getElem?_set_self (List.getElem?_eq_some_iff.1 hi).1] at h
      cases h
      exact .inr ⟨rfl, rfl, hi⟩
    · rw [List.getElem?_set_ne hj] at h
      exact .inl h
  · exact .inl h

/-- What an async function waits for. -/
def Awaits (p : ℕ) (g : Gate τ ρ) : LoopPhase ρ → Prop
  | .awaiting i => InFlight i g ∨ .resume p ∈ g.queue ∧ (g.requests[i]?.bind Request.outcome).isSome
  | .returned .. => .release p ∈ g.queue
  | .released .. => .settle p ∈ g.queue
  | .settled .. => True

/-- Every async function waits for a request or for a queued microtask. -/
def Live (g : Gate τ ρ) : Prop := ∀ p ph, g.loops[p]? = some ph → Awaits p g ph

theorem Live.settled (h : g.Live) (hqueue : g.queue = []) (hanswered : ∀ i, ¬ InFlight i g)
    {ph : LoopPhase ρ} (hp : g.loops[p]? = some ph) : ∃ i o, ph = .settled i o := by
  have hph := h p ph hp
  cases ph with
  | awaiting i =>
    rcases hph with hph | hph
    · exact absurd hph (hanswered i)
    · rw [hqueue] at hph
      cases hph.1
  | returned i o | released i o =>
    unfold Awaits at hph
    rw [hqueue] at hph
    cases hph
  | settled i o => exact ⟨i, o, rfl⟩

theorem Live.runRequest (h : g.Live) : (runRequest now force g).Live := by
  cases hp : g.pending with
  | some p =>
    rw [runRequest_joined hp]
    exact h
  | none =>
    rw [runRequest_started hp]
    intro q ph hq
    have hold := h q ph
    simp only [started, send] at hq
    cases ph <;> simp only [Awaits, InFlight, started, send] at hold ⊢ <;> grind

theorem Live.respond (h : g.Live) (hwf : g.Wf) : (respond i o g).Live := by
  unfold Gate.respond
  split
  · next p since hi =>
    intro q ph hq
    have hold := h q ph hq
    have hopen := hwf.open_request i _ hi rfl
    have hrun := hwf.running q ph hq
    have hrun' := hwf.running p _ hopen trivial
    cases ph <;> simp only [Awaits, InFlight, LoopPhase.Running] at hold hrun ⊢ <;> grind
  · exact h

/-- The async function of this promise waits for something. -/
def LiveAt (q : ℕ) (g : Gate τ ρ) : Prop := ∀ ph, g.loops[q]? = some ph → Awaits q g ph

/-- A microtask of one promise leaves the others waiting. -/
theorem LiveAt.other {g' : Gate τ ρ} (h : LiveAt q g) {j : Job} (hj : j.loop ≠ q)
    (hloops : g'.loops[q]? = g.loops[q]?)
    (hrequests : ∀ (i : ℕ) r, g.requests[i]? = some r → g'.requests[i]? = some r)
    (hqueue : ∀ k ∈ g.queue, k = j ∨ k ∈ g'.queue) : LiveAt q g' := by
  intro ph hq
  have hold := h ph (hloops ▸ hq)
  have hmem : ∀ k ∈ g.queue, k.loop = q → k ∈ g'.queue := by
    intro k hk hkq
    refine (hqueue k hk).resolve_left ?_
    rintro rfl
    exact hj hkq
  cases ph with
  | awaiting i =>
    rcases hold with ⟨r, hr, ho⟩ | ⟨hk, ho⟩
    · exact .inl ⟨r, hrequests i r hr, ho⟩
    · refine .inr ⟨hmem _ hk rfl, ?_⟩
      obtain ⟨o, ho⟩ := Option.isSome_iff_exists.1 ho
      obtain ⟨r, hr, hro⟩ := Option.bind_eq_some_iff.1 ho
      simp [hrequests i r hr, hro]
  | returned => exact hmem _ hold rfl
  | released => exact hmem _ hold rfl
  | settled => trivial

variable {queue : List Job}

theorem mem_popped {j : Job} (h : g.queue = j :: queue) (rest : List Job) :
    ∀ k ∈ g.queue, k = j ∨ k ∈ queue ++ rest := by
  intro k hk
  rw [h] at hk
  rcases List.mem_cons.1 hk with rfl | hk
  · exact .inl rfl
  · exact .inr (List.mem_append_left _ hk)

theorem Live.resume (h : g.Live) (hqueue : g.queue = .resume p :: queue) :
    (Gate.resume now p { g with queue }).Live := by
  have hmem := mem_popped hqueue []
  rw [List.append_nil] at hmem
  unfold Gate.resume
  split
  · next i hp =>
    dsimp only at hp
    have hlt := (List.getElem?_eq_some_iff.1 hp).1
    split
    · next o ho =>
      split
      · intro q
        by_cases hne : p = q
        · subst hne
          intro ph hph
          rw [List.getElem?_set_self hlt] at hph
          cases hph
          exact .inl ⟨⟨p, now, none⟩, by simp [send], rfl⟩
        · refine LiveAt.other (h q) (j := .resume p) hne (List.getElem?_set_ne hne) ?_ hmem
          intro i r hr
          exact (List.getElem?_append_left (List.getElem?_eq_some_iff.1 hr).1).trans hr
      · intro q
        by_cases hne : p = q
        · subst hne
          intro ph hph
          rw [List.getElem?_set_self hlt] at hph
          cases hph
          exact List.mem_concat_self
        · exact LiveAt.other (h q) (j := .resume p) hne (List.getElem?_set_ne hne)
            (fun _ _ => id) (mem_popped hqueue _)
    · next ho =>
      intro q
      by_cases hne : p = q
      · subst hne
        intro ph hph
        obtain rfl := Option.some.inj (hp.symm.trans hph)
        rcases h p _ hp with hopen | ⟨-, hsome⟩
        · exact .inl hopen
        · rw [ho] at hsome
          cases hsome
      · exact LiveAt.other (h q) (j := .resume p) hne rfl (fun _ _ => id) hmem
  · next hp =>
    intro q
    by_cases hne : p = q
    · subst hne
      intro ph hph
      have hold := h p ph hph
      cases ph with
      | awaiting i => exact absurd hph (hp i)
      | returned | released =>
        rw [Awaits, hqueue] at hold
        simpa [Awaits] using hold
      | settled => trivial
    · exact LiveAt.other (h q) (j := .resume p) hne rfl (fun _ _ => id) hmem

theorem Live.release (h : g.Live) (hqueue : g.queue = .release p :: queue) :
    (Gate.release p { g with queue }).Live := by
  have hmem := mem_popped hqueue []
  rw [List.append_nil] at hmem
  intro q
  unfold Gate.release
  split
  · next i o hp =>
    dsimp only at hp
    by_cases hne : p = q
    · subst hne
      intro ph hph
      rw [List.getElem?_set_self (List.getElem?_eq_some_iff.1 hp).1] at hph
      cases hph
      exact List.mem_concat_self
    · exact LiveAt.other (h q) (j := .release p) hne (List.getElem?_set_ne hne)
        (fun _ _ => id) (mem_popped hqueue _)
  · next hp =>
    by_cases hne : p = q
    · subst hne
      intro ph hph
      have hold := h p ph hph
      cases ph with
      | returned i o => exact absurd hph (hp i o)
      | awaiting i =>
        rw [Awaits, hqueue] at hold
        simpa [Awaits, InFlight] using hold
      | released =>
        rw [Awaits, hqueue] at hold
        simpa [Awaits] using hold
      | settled => trivial
    · exact LiveAt.other (h q) (j := .release p) hne rfl (fun _ _ => id) hmem

theorem Live.settle (h : g.Live) (hqueue : g.queue = .settle p :: queue) :
    (Gate.settle p { g with queue }).Live := by
  have hmem := mem_popped hqueue []
  rw [List.append_nil] at hmem
  intro q
  unfold Gate.settle
  split
  · next i o hp =>
    dsimp only at hp
    by_cases hne : p = q
    · subst hne
      intro ph hph
      rw [List.getElem?_set_self (List.getElem?_eq_some_iff.1 hp).1] at hph
      cases hph
      trivial
    · exact LiveAt.other (h q) (j := .settle p) hne (List.getElem?_set_ne hne)
        (fun _ _ => id) hmem
  · next hp =>
    by_cases hne : p = q
    · subst hne
      intro ph hph
      have hold := h p ph hph
      cases ph with
      | released i o => exact absurd hph (hp i o)
      | awaiting i =>
        rw [Awaits, hqueue] at hold
        simpa [Awaits, InFlight] using hold
      | returned =>
        rw [Awaits, hqueue] at hold
        simpa [Awaits] using hold
      | settled => trivial
    · exact LiveAt.other (h q) (j := .settle p) hne rfl (fun _ _ => id) hmem

theorem Live.microtask (h : g.Live) : (microtask now g).Live := by
  unfold Gate.microtask
  split
  · exact h
  · next hqueue => exact h.resume hqueue
  · next hqueue => exact h.release hqueue
  · next hqueue => exact h.settle hqueue

end Gate

end DataJuicer.Frontend
