import DataJuicer.Navigation.Consistency

/-! # The revision of a task

`state_revision` is the version that optimistic updates compare. Statements on a task add one
to it, and so does every child row that a trigger watches, so it may grow without a change of
the task; but it never stays behind a change, until the task is deleted and created anew.
-/

namespace DataJuicer.Navigation

open Table Transaction

/-- What a task says, apart from its times and its revision. -/
def TaskRow.content (t : TaskRow) : TaskRow :=
  { t with stateRevision := 0, createdAt := 0, updatedAt := 0 }

/-- The revision grows with every change of what the task says. -/
def TaskRow.Advances (t t' : TaskRow) : Prop :=
  t.stateRevision ≤ t'.stateRevision ∧
    (t'.stateRevision = t.stateRevision → t'.content = t.content)

/-- The revision of every task that stays advances. -/
def RevisionsAdvance (x : Transition NavigationDb Event) : Prop :=
  ∀ t ∈ x.pre.tasks, ∀ t' ∈ x.post.tasks, t'.taskId = t.taskId → t.Advances t'

/-- An operation that compares the revision of a task with `r` succeeds. -/
inductive Swaps (db : NavigationDb) (taskId : String) (r : ℕ) : Prop
  | updated {call : Call} {changes : TaskChanges} {reply : Reply}
      (h : (execute (.updateTaskForSession call taskId (some r) changes) db).1 = .ok reply)
  | deleted {call : Call}
      (h : (execute (.deleteTaskIfCurrent call taskId r) db).1 = .ok (.flag true))
  | guided {call : Call} {g : UserGuidance} {reply : Reply} (hid : g.taskId = taskId)
      (hr : g.expectedStateRevision = r)
      (h : (execute (.appendUserGuidance call g) db).1 = .ok reply)

variable {db db' mid : NavigationDb} {op : Op}

theorem TaskRow.Advances.refl (t : TaskRow) : t.Advances t := ⟨le_rfl, fun _ => rfl⟩

theorem TaskRow.Advances.of_lt {t t' : TaskRow} (h : t.stateRevision < t'.stateRevision) :
    t.Advances t' :=
  ⟨h.le, fun heq => absurd heq h.ne'⟩

theorem TaskRow.Advances.trans {t t' t'' : TaskRow} (h : t.Advances t') (h' : t'.Advances t'') :
    t.Advances t'' := by
  refine ⟨h.1.trans h'.1, fun heq => ?_⟩
  have hpre : t'.stateRevision = t.stateRevision := le_antisymm (heq ▸ h'.1) h.1
  exact (h'.2 (heq.trans hpre.symm)).trans (h.2 hpre)

theorem TaskMove.advances {t t' : TaskRow} (h : TaskMove db op t t') : t.Advances t' := by
  cases h with
  | triggered h =>
    obtain ⟨n, rfl⟩ := h
    exact ⟨Nat.le_add_right _ n, fun _ => rfl⟩
  | written _ hn h | activated _ hn h | guided _ _ hn h =>
    rw [h]
    exact .of_lt (Nat.lt_add_of_pos_right hn)
  | merged _ _ _ h =>
    rw [h]
    exact .of_lt (Nat.lt_succ_self _)

theorem revisionsAdvance_of_step {x : Transition NavigationDb Event}
    (h : Step x.pre x.label x.post) : RevisionsAdvance x := by
  intro t ht t' ht' hid
  rcases step_iff.1 h with ⟨r, hr, _⟩ | ⟨_, _, _, hkeep⟩
  · exact ((perform_commits hr).tasks.of_taskId ht ht' hid).advances
  · rw [hkeep] at ht'
    rw [eq_of_key ht' ht hid]
    exact .refl t

theorem updateTaskForSession_current {call : Call} {taskId : String} {r : ℕ} {changes : TaskChanges}
    {t : TaskRow} (h : updateTaskForSession call taskId (some r) changes db = .ok (t, db')) :
    ∃ t ∈ db.tasks, t.taskId = taskId ∧ t.stateRevision = r := by
  obtain ⟨_, _, h⟩ := bind_eq_ok.1 h
  split at h
  · cases h
  · rename_i current hcurrent
    obtain ⟨hcurrent, hid⟩ := find?_eq_some_iff.1 hcurrent
    split at h
    · cases h
    · obtain ⟨_, hexpected, _⟩ := bind_eq_ok.1 h
      have hexpected := raiseIf_eq_ok.1 hexpected
      simp only [Option.any_some, decide_eq_true_eq, not_not] at hexpected
      exact ⟨current, hcurrent, hid, hexpected.symm⟩

theorem deleteTaskIfCurrent_current {call : Call} {taskId : String} {r : ℕ}
    (h : deleteTaskIfCurrent call taskId r db = .ok (true, db')) :
    ∃ t ∈ db.tasks, t.taskId = taskId ∧ t.stateRevision = r := by
  unfold deleteTaskIfCurrent at h
  split at h
  · split_ifs at h
    cases h
  · split_ifs at h with hcurrent
    · obtain ⟨t, ht, hid, hrev, _⟩ := hcurrent
      exact ⟨t, ht, hid, hrev⟩
    · cases h

theorem appendUserGuidance_current {call : Call} {g : UserGuidance}
    {r : ℤ × NavigationObservationRevision} (h : appendUserGuidance call g db = .ok (r, db')) :
    ∃ t ∈ db.tasks, t.taskId = g.taskId ∧ t.stateRevision = g.expectedStateRevision := by
  obtain ⟨_, _, h⟩ := bind_eq_ok.1 h
  split at h
  · cases h
  · rename_i current hcurrent
    obtain ⟨hcurrent, hid⟩ := find?_eq_some_iff.1 hcurrent
    obtain ⟨_, hexpected, _⟩ := bind_eq_ok.1 h
    exact ⟨current, hcurrent, hid, not_not.1 (raiseIf_eq_ok.1 hexpected)⟩

theorem Swaps.current {taskId : String} {r : ℕ} (h : Swaps db taskId r) :
    ∃ t ∈ db.tasks, t.taskId = taskId ∧ t.stateRevision = r := by
  cases h with
  | updated h =>
    obtain ⟨_, h⟩ := perform_of_execute h
    obtain ⟨_, h, _⟩ := answer_eq_ok.1 h
    exact updateTaskForSession_current h
  | deleted h =>
    obtain ⟨_, h⟩ := perform_of_execute h
    obtain ⟨_, h, hflag⟩ := answer_eq_ok.1 h
    cases hflag
    exact deleteTaskIfCurrent_current h
  | guided hid hr h =>
    obtain ⟨_, h⟩ := perform_of_execute h
    unfold perform at h
    obtain ⟨_, h, _⟩ := answer_eq_ok.1 h
    rw [← hid, ← hr]
    exact appendUserGuidance_current h

/--
The revision of a task advances with every change, so an operation that compares a revision
succeeds only on what was read with it, if the task was not deleted since.
-/
theorem state_revision_advances {l m : List (Transition NavigationDb Event)}
    (h : Run Step .initial l mid) (h' : Run Step mid m db) :
    (∀ x ∈ l ++ m, RevisionsAdvance x) ∧
      ∀ t ∈ mid.tasks, (∀ x ∈ m, ∃ t' ∈ x.post.tasks, t'.taskId = t.taskId) →
        Swaps db t.taskId t.stateRevision →
        ∃ t' ∈ db.tasks, t'.taskId = t.taskId ∧ t'.stateRevision = t.stateRevision ∧
          t'.content = t.content := by
  constructor
  · exact fun x hx => revisionsAdvance_of_step ((h.append h').step_of_mem hx)
  · intro t ht hstay hswap
    let inv := fun d : NavigationDb => ∃ t' ∈ d.tasks, t'.taskId = t.taskId ∧ t.Advances t'
    have hstep : ∀ x : Transition NavigationDb Event, inv x.pre →
        (∃ t' ∈ x.post.tasks, t'.taskId = t.taskId) → Step x.pre x.label x.post →
        inv x.post := by
      rintro x ⟨t₁, ht₁, hid₁, hadv⟩ ⟨t₂, ht₂, hid₂⟩ hx
      exact ⟨t₂, ht₂, hid₂,
        hadv.trans (revisionsAdvance_of_step hx t₁ ht₁ t₂ ht₂ (hid₂.trans hid₁.symm))⟩
    obtain ⟨t', ht', hid', hadv⟩ := (h'.invariant ⟨t, ht, rfl, .refl t⟩ hstay hstep).1
    obtain ⟨t₀, ht₀, hid₀, hrev⟩ := hswap.current
    obtain rfl := eq_of_key ht₀ ht' (hid₀.trans hid'.symm)
    exact ⟨t₀, ht₀, hid₀, hrev, hadv.2 hrev⟩

/-- A claim changes nothing that the task says. -/
def claimedConfirm : List Op := Sample.setup ++
  [.claimStep (Sample.alice 2) "p" "confirm" "confirm_navigation_calibration_params"]

def created : NavigationDb :=
  stores.final .initial [.createTaskAttempt 0 (Sample.attempt "a" "web-a" "agent-a")]

/-- The task is deleted and created again with a scene mode. -/
def recreated : List Op :=
  [.deleteTaskIfCurrent (Sample.alice 1) "a" 2,
   .createTaskAttempt 2 { Sample.attempt "a" "web-a" "agent-a" with sceneMode := some .indoor }]

/-- An update that compares the revision of the first task. -/
def staleUpdate : Op :=
  .updateTaskForSession (Sample.alice 3) "a" (some 2) { request := some "reprocess" }

/-- A revision grows without a change, and an update succeeds on another task than was read. -/
theorem revision_unfaithful :
    (∃ x ∈ stores.serve .initial claimedConfirm, ∃ t ∈ x.pre.tasks, ∃ t' ∈ x.post.tasks,
      t'.taskId = t.taskId ∧ t'.content = t.content ∧ t'.stateRevision ≠ t.stateRevision) ∧
    ∃ t ∈ created.tasks, t.stateRevision = 2 ∧
      ∃ t' ∈ (stores.final created recreated).tasks, t'.taskId = t.taskId ∧
        t'.content ≠ t.content ∧
        ∃ t'' ∈ (execute staleUpdate (stores.final created recreated)).2.tasks,
          t''.taskId = t.taskId ∧ t''.request = "reprocess" :=
  ⟨by decide, by decide⟩

/-- A plan is activated, and the request of the task is changed. -/
def changes : List Op := Sample.setup ++
  [.updateTaskForSession (Sample.alice 2) "a" none { request := some "reprocess" }]

def changed : NavigationDb := stores.final .initial changes

/-- Another task is created and changed, and its owner asks for the deletion of the first. -/
def others : List Op :=
  [.createTaskAttempt 3 (Sample.attempt "b" "web-b" "agent-b"),
   .updateTaskForSession (Sample.bob 4) "b" (some 2) { request := some "export" },
   .deleteTaskIfCurrent (Sample.bob 5) "a" 7]

/-- A committed change counts, and the task can be changed with the revision that was read. -/
theorem changed_current :
    (∃ x ∈ stores.serve .initial changes, ∃ t ∈ x.pre.tasks, ∃ t' ∈ x.post.tasks,
      t'.taskId = t.taskId ∧ t'.content ≠ t.content ∧ t.stateRevision < t'.stateRevision) ∧
    ∃ t ∈ (stores.final changed others).tasks, t.taskId = "a" ∧ t.stateRevision = 7 ∧
      ∃ t₀ ∈ changed.tasks, t.content = t₀.content := by
  have hwritten : ∃ x ∈ stores.serve .initial changes, ∃ t ∈ x.pre.tasks, ∃ t' ∈ x.post.tasks,
      t'.taskId = t.taskId ∧ t'.content ≠ t.content := by
    decide +kernel
  have hread : ∃ t ∈ changed.tasks, t.taskId = "a" ∧ t.stateRevision = 7 := by decide +kernel
  obtain ⟨x, hx, u, hu, u', hu', hsame, hne⟩ := hwritten
  obtain ⟨t, ht, hid, hrev⟩ := hread
  have hstay : ∀ x ∈ stores.serve changed others, ∃ t' ∈ x.post.tasks, t'.taskId = "a" := by
    decide +kernel
  have hupdated : (updateTaskForSession (Sample.alice 6) "a" (some 7) { request := some "again" }
      (stores.final changed others)).toOption.isSome = true := by
    decide +kernel
  have hupdate : ∃ reply, (execute (.updateTaskForSession (Sample.alice 6) "a" (some 7)
      { request := some "again" }) (stores.final changed others)).1 = .ok reply := by
    unfold execute perform answer
    cases h : updateTaskForSession (Sample.alice 6) "a" (some 7) { request := some "again" }
        (stores.final changed others) with
    | error e =>
      rw [h] at hupdated
      cases hupdated
    | ok r => exact ⟨_, rfl⟩
  obtain ⟨reply, hupdate⟩ := hupdate
  obtain ⟨hadvance, hcurrent⟩ :=
    state_revision_advances (stores.serve_run .initial changes) (stores.serve_run changed others)
  obtain ⟨t', ht', hid', hrev', hcontent⟩ :=
    hcurrent t ht (hid ▸ hstay) (hid ▸ hrev ▸ .updated hupdate)
  have hadv := hadvance x (List.mem_append_left _ hx) u hu u' hu' hsame
  refine ⟨⟨x, hx, u, hu, u', hu', hsame, hne, ?_⟩,
    t', ht', hid'.trans hid, hrev'.trans hrev, t, ht, hcontent⟩
  exact lt_of_le_of_ne hadv.1 fun heq => hne (hadv.2 heq.symm)

end DataJuicer.Navigation
