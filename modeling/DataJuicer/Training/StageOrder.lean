import DataJuicer.Training.TerminalRuns

/-! # The order of stages

The stages of a real run are started one after another, each when all before it have
succeeded. The centre takes the worker's word for it: an exit with success moves the run on
from whatever stage it names, so the order rests on reports that name the current stage.
-/

namespace DataJuicer.Training

theorem StageStatus.not_open_finish {st : FinishStatus} {x : StageStatus} (h : st ≠ .succeeded) :
    ¬ (x.finish st).Open := by
  cases st with
  | succeeded => exact absurd rfl h
  | failed | cancelled | lost => cases x <;> decide

theorem StageStatus.finish_eq_succeeded {st : FinishStatus} {x : StageStatus}
    (h : x.finish st = .succeeded) : x = .succeeded := by
  cases st <;> cases x <;> first | rfl | exact absurd h (by decide)

theorem StageStatus.not_active {x : StageStatus} (h : x = .pending ∨ x = .succeeded) :
    ¬ x.Active := by
  rcases h with rfl | rfl <;> decide

namespace Workflow

variable {ok : Workflow → Report → Prop} {w w' : Workflow}

/-- All stages before this one have succeeded, it has not, and all after it are pending. -/
structure Current (w : Workflow) (s : StageState) : Prop where
  open_ : s.status ≠ .succeeded
  before : ∀ t ∈ w.stages, t.number < s.number → t.status = .succeeded
  after : ∀ t ∈ w.stages, s.number < t.number → t.status = .pending

def Succeeded (w : Workflow) : Prop := ∃ r ∈ w.run, r.status = .succeeded

def RespectsOrder (w : Workflow) : Report → Prop
  | .startFailed | .stopAnswered => True
  | .started s => s.status = .pending →
      ∀ t ∈ w.stages, t.number < s.number → t.status = .succeeded
  | .foundRunning none => ¬ w.Succeeded
  | .foundRunning (some s) => Current w s
  | .exited s .succeeded => (∀ r ∈ w.run, r.status ≠ .stopRequested) → Current w s
  | .exited _ _ => ¬ w.Succeeded

def outputs (w : Workflow) (ref : String) : List ArtifactState :=
  w.artifacts.filter fun a => a.stage = ref ∧ a.kind = .stageOutput

def models (w : Workflow) : List ArtifactState :=
  w.artifacts.filter fun a => a.kind = .versionModel

def starts (w : Workflow) : List ActionState :=
  w.actions.filter fun a => a.kind = .startTrainingStage

/-- No stage comes after this one. -/
def IsLast (w : Workflow) (s : StageState) : Prop := ∀ t ∈ w.stages, t.number ≤ s.number

/-- What holds of the stages, the starts and the artifacts of a real run. -/
structure Ordered (w : Workflow) : Prop where
  numbers : (w.stages.map (·.number)).Nodup
  positive : ∀ s ∈ w.stages, 1 ≤ s.number
  active : ∀ s ∈ w.stages, s.status.Active → Current w s
  pending : ∀ s ∈ w.stages, s.status = .pending → ∀ t ∈ w.stages, s.number < t.number →
    t.status = .pending
  starts : (w.starts.map (·.stage)).Nodup
  unstarted : ∀ s ∈ w.stages, s.status = .pending → s.number ≠ 1 →
    ∀ a ∈ w.starts, a.stage ≠ some s.ref
  unsettled : ∀ a ∈ w.starts, a.status.Open →
    ∃ s ∈ w.stages, a.stage = some s.ref ∧ s.status ≠ .succeeded
  outputs : ∀ s ∈ w.stages, s.status = .succeeded → (w.outputs s.ref).length = 1
  fresh : ∀ s ∈ w.stages, s.status ≠ .succeeded →
    (∀ t ∈ w.stages, s.number < t.number → t.status = .pending) → w.outputs s.ref = []
  last : ∀ s ∈ w.stages, s.status = .succeeded → IsLast w s → w.Succeeded
  done : w.Succeeded → (∀ s ∈ w.stages, s.status = .succeeded) ∧
    ∃ s ∈ w.stages, IsLast w s ∧ w.models.map (·.path) = [s.output]
  undone : ¬ w.Succeeded → w.models = []

theorem Ordered.number_inj (h : w.Ordered) {s t : StageState} (hs : s ∈ w.stages)
    (ht : t ∈ w.stages) (he : s.number = t.number) : s = t :=
  List.inj_on_of_nodup_map h.numbers hs ht he

/-- The stages of `w'` are those of `w` with the statuses that `x` gives. -/
def Restaged (x : StageState → StageStatus) (w w' : Workflow) : Prop :=
  w'.stages = w.stages.map fun s => { s with status := x s }

theorem Restaged.mem {x : StageState → StageStatus} (h : Restaged x w w') {s' : StageState} :
    s' ∈ w'.stages ↔ ∃ s ∈ w.stages, { s with status := x s } = s' := by
  rw [h, List.mem_map]

theorem Restaged.forall {x : StageState → StageStatus} (h : Restaged x w w')
    {p : StageState → Prop} :
    (∀ s' ∈ w'.stages, p s') ↔ ∀ s ∈ w.stages, p { s with status := x s } := by
  rw [h, List.forall_mem_map]

/-- The starts of `w'` are those of `w` with other statuses, and none is opened again. -/
structure StartsKept (w w' : Workflow) : Prop where
  stages : w'.starts.map (·.stage) = w.starts.map (·.stage)
  opened : ∀ a' ∈ w'.starts, a'.status.Open → ∃ a ∈ w.starts, a.stage = a'.stage ∧ a.status.Open

theorem mem_starts {a : ActionState} :
    a ∈ w.starts ↔ a ∈ w.actions ∧ a.kind = .startTrainingStage := by
  simp [starts]

namespace StartsKept

theorem of_actions (h : w'.actions = w.actions) : StartsKept w w' := by
  have hstarts : w'.starts = w.starts := by
    unfold Workflow.starts
    rw [h]
  exact ⟨by rw [hstarts], fun a ha ho => ⟨a, hstarts ▸ ha, rfl, ho⟩⟩

theorem trans {w'' : Workflow} (h : StartsKept w w') (h' : StartsKept w' w'') :
    StartsKept w w'' := by
  refine ⟨h'.stages.trans h.stages, fun a'' ha'' hopen => ?_⟩
  obtain ⟨a', ha', hstage', hopen'⟩ := h'.opened a'' ha'' hopen
  obtain ⟨a, ha, hstage, hopen⟩ := h.opened a' ha' hopen'
  exact ⟨a, ha, hstage.trans hstage', hopen⟩

/-- The actions get other statuses, and none that is over is opened again. -/
theorem of_map {f : ActionState → ActionState} (hf : ∀ a, SameAction (f a) a)
    (hopen : ∀ a ∈ w.actions, (f a).status.Open → a.status.Open)
    (h : w'.actions = w.actions.map f) : StartsKept w w' := by
  have hstarts : w'.starts = w.starts.map f := by
    unfold Workflow.starts
    rw [h, List.filter_map]
    congr 2
    funext a
    simp [(hf a).2.2]
  refine ⟨?_, fun a' ha' ho => ?_⟩
  · rw [hstarts, List.map_map]
    exact List.map_congr_left fun a _ => (hf a).2.1
  · obtain ⟨a, ha, rfl⟩ := List.mem_map.1 (hstarts ▸ ha')
    exact ⟨a, ha, (hf a).2.1.symm, hopen a (mem_starts.1 ha).1 ho⟩

theorem setActions {p : ActionState → Prop} [DecidablePred p] {x : ActionStatus}
    (hx : ∀ a ∈ w.actions, p a → x.Open → a.status.Open) : StartsKept w (w.setActions p x) := by
  refine of_map (fun a => ?_) (fun a ha => ?_) (setActions_actions w p x)
  · by_cases h : p a <;> simp [h, SameAction]
  · by_cases h : p a
    · rw [if_pos h]
      exact hx a ha h
    · rw [if_neg h]
      exact id

theorem finish {st : FinishStatus} : StartsKept w (w.finish st) := by
  refine of_map (fun a => ?_) (fun a _ => ?_) (finish_actions w st)
  · by_cases h : a.status = .queued <;> simp [ActionState.finish, SameAction, h]
  · unfold ActionState.finish
    split
    · exact fun h => absurd h (by simp [ActionStatus.Open])
    · exact id

end StartsKept

theorem outputs_of_artifacts (h : w'.artifacts = w.artifacts) (ref : String) :
    w'.outputs ref = w.outputs ref := by
  unfold Workflow.outputs
  rw [h]

theorem models_of_artifacts (h : w'.artifacts = w.artifacts) : w'.models = w.models := by
  unfold Workflow.models
  rw [h]

theorem Restaged.isLast {x : StageState → StageStatus} (h : Restaged x w w') {s : StageState} :
    IsLast w' { s with status := x s } ↔ IsLast w s :=
  h.forall (p := fun t => t.number ≤ s.number)

theorem StartsKept.exists_start (h : StartsKept w w') {a' : ActionState} (ha' : a' ∈ w'.starts) :
    ∃ a ∈ w.starts, a.stage = a'.stage := by
  have hmem : a'.stage ∈ w'.starts.map (·.stage) := List.mem_map_of_mem ha'
  rw [h.stages] at hmem
  exact List.mem_map.1 hmem

/-- A change that leaves the artifacts alone and at most makes the current stage active. -/
theorem Ordered.frame (h : w.Ordered) {x : StageState → StageStatus} (hstages : Restaged x w w')
    (hstarts : StartsKept w w') (hartifacts : w'.artifacts = w.artifacts)
    (hdone : w'.Succeeded ↔ w.Succeeded)
    (hsucceeded : ∀ s ∈ w.stages, x s = .succeeded ↔ s.status = .succeeded)
    (hactive : ∀ s ∈ w.stages, (x s).Active → Current w s ∧
      ∀ t ∈ w.stages, s.number < t.number → x t = .pending)
    (hpending : ∀ s ∈ w.stages, x s = .pending → s.status = .pending ∧
      ∀ t ∈ w.stages, s.number < t.number → x t = .pending) : w'.Ordered := by
  constructor
  · rw [hstages, List.map_map]
    exact h.numbers
  · exact hstages.forall.2 h.positive
  · refine hstages.forall.2 fun s hs ha => ?_
    obtain ⟨hcur, hafter⟩ := hactive s hs ha
    refine ⟨fun he => hcur.open_ ((hsucceeded s hs).1 he), ?_, ?_⟩
    · exact hstages.forall.2 fun t ht hlt => (hsucceeded t ht).2 (hcur.before t ht hlt)
    · exact hstages.forall.2 hafter
  · exact hstages.forall.2 fun s hs hp => hstages.forall.2 (hpending s hs hp).2
  · rw [hstarts.stages]
    exact h.starts
  · refine hstages.forall.2 fun s hs hp hne a' ha' he => ?_
    obtain ⟨a, ha, hstage⟩ := hstarts.exists_start ha'
    exact h.unstarted s hs (hpending s hs hp).1 hne a ha (hstage.trans he)
  · intro a' ha' hopen
    obtain ⟨a, ha, hstage, hopen⟩ := hstarts.opened a' ha' hopen
    obtain ⟨s, hs, he, hst⟩ := h.unsettled a ha hopen
    exact ⟨_, hstages.mem.2 ⟨s, hs, rfl⟩, hstage.symm.trans he, mt (hsucceeded s hs).1 hst⟩
  · refine hstages.forall.2 fun s hs hst => ?_
    rw [outputs_of_artifacts hartifacts]
    exact h.outputs s hs ((hsucceeded s hs).1 hst)
  · refine hstages.forall.2 fun s hs hst hafter => ?_
    rw [outputs_of_artifacts hartifacts]
    have hafter := hstages.forall.1 hafter
    exact h.fresh s hs (mt (hsucceeded s hs).2 hst) fun t ht hlt =>
      (hpending t ht (hafter t ht hlt)).1
  · refine hstages.forall.2 fun s hs hst hl => ?_
    exact hdone.2 (h.last s hs ((hsucceeded s hs).1 hst) (hstages.isLast.1 hl))
  · intro hd
    obtain ⟨hall, s, hs, hl, hm⟩ := h.done (hdone.1 hd)
    refine ⟨hstages.forall.2 fun t ht => (hsucceeded t ht).2 (hall t ht), _,
      hstages.mem.2 ⟨s, hs, rfl⟩, hstages.isLast.2 hl, ?_⟩
    rw [models_of_artifacts hartifacts]
    exact hm
  · intro hd
    rw [models_of_artifacts hartifacts]
    exact h.undone (mt hdone.2 hd)

/-- A change that ends a run without success. -/
theorem Ordered.halt (h : w.Ordered) {x : StageState → StageStatus} (hstages : Restaged x w w')
    (hstarts : StartsKept w w') (hartifacts : w'.artifacts = w.artifacts)
    (hundone : ¬ w.Succeeded) (hundone' : ¬ w'.Succeeded)
    (hsucceeded : ∀ s ∈ w.stages, x s = .succeeded → s.status = .succeeded)
    (hclosed : ∀ s ∈ w.stages, ¬ (x s).Open) : w'.Ordered := by
  constructor
  · rw [hstages, List.map_map]
    exact h.numbers
  · exact hstages.forall.2 h.positive
  · exact hstages.forall.2 fun s hs ha => absurd (.inr ha) (hclosed s hs)
  · exact hstages.forall.2 fun s hs hp => absurd (.inl hp) (hclosed s hs)
  · rw [hstarts.stages]
    exact h.starts
  · exact hstages.forall.2 fun s hs hp => absurd (.inl hp) (hclosed s hs)
  · intro a' ha' hopen
    obtain ⟨a, ha, hstage, hopen⟩ := hstarts.opened a' ha' hopen
    obtain ⟨s, hs, he, hst⟩ := h.unsettled a ha hopen
    exact ⟨_, hstages.mem.2 ⟨s, hs, rfl⟩, hstage.symm.trans he, mt (hsucceeded s hs) hst⟩
  · refine hstages.forall.2 fun s hs hst => ?_
    rw [outputs_of_artifacts hartifacts]
    exact h.outputs s hs (hsucceeded s hs hst)
  · refine hstages.forall.2 fun s hs _ hafter => ?_
    rw [outputs_of_artifacts hartifacts]
    -- no stage is pending, so this one is the last
    have hlast : IsLast w s := fun t ht => by
      by_contra hlt
      exact hclosed t ht (.inl (hstages.forall.1 hafter t ht (not_le.1 hlt)))
    refine h.fresh s hs (fun hst => hundone (h.last s hs hst hlast)) fun t ht hlt => ?_
    exact absurd (hlast t ht) (not_le.2 hlt)
  · refine hstages.forall.2 fun s hs hst hl => absurd ?_ hundone
    exact h.last s hs (hsucceeded s hs hst) (hstages.isLast.1 hl)
  · exact fun hd => absurd hd hundone'
  · intro _
    rw [models_of_artifacts hartifacts]
    exact h.undone hundone

theorem restaged_self : Restaged (·.status) w w := by simp [Restaged]

/-- A change of the run and of its actions that opens no start again. -/
theorem Ordered.keep (h : w.Ordered) (hstages : w'.stages = w.stages) (hstarts : StartsKept w w')
    (hartifacts : w'.artifacts = w.artifacts) (hdone : w'.Succeeded ↔ w.Succeeded) :
    w'.Ordered := by
  have hsame : Restaged (·.status) w w' := by simp [Restaged, hstages]
  refine h.frame hsame hstarts hartifacts hdone (fun _ _ => .rfl) (fun s hs ha => ?_)
    fun s hs hp => ⟨hp, h.pending s hs hp⟩
  exact ⟨h.active s hs ha, (h.active s hs ha).after⟩

theorem Ordered.setActions (h : w.Ordered) {p : ActionState → Prop} [DecidablePred p]
    {x : ActionStatus} (hx : ∀ a ∈ w.actions, p a → x.Open → a.status.Open) :
    (w.setActions p x).Ordered := h.keep rfl (.setActions hx) rfl .rfl

theorem succeeded_setRun {f : RunState → RunState}
    (hf : ∀ r ∈ w.run, (f r).status = .succeeded ↔ r.status = .succeeded) :
    (w.setRun f).Succeeded ↔ w.Succeeded := by
  constructor
  · rintro ⟨r', hr', hst⟩
    obtain ⟨r, hr, rfl⟩ := Option.map_eq_some_iff.1 hr'
    exact ⟨r, hr, (hf r hr).1 hst⟩
  · rintro ⟨r, hr, hst⟩
    exact ⟨f r, Option.mem_map_of_mem f hr, (hf r hr).2 hst⟩

theorem not_succeeded_setStatus {x : RunStatus} (hx : x ≠ .succeeded) :
    ¬ (w.setStatus x).Succeeded := by
  rintro ⟨r', hr', hst⟩
  obtain ⟨r, -, rfl⟩ := Option.map_eq_some_iff.1 hr'
  exact hx hst

theorem not_succeeded_finish {st : FinishStatus} (hst : st ≠ .succeeded) :
    ¬ (w.finish st).Succeeded := by
  rintro ⟨r', hr', he⟩
  obtain ⟨r, -, rfl⟩ := Option.map_eq_some_iff.1 hr'
  cases st with
  | succeeded => exact hst rfl
  | failed | cancelled | lost => cases he

theorem Ordered.setRun (h : w.Ordered) {f : RunState → RunState}
    (hf : ∀ r ∈ w.run, (f r).status = .succeeded ↔ r.status = .succeeded) : (w.setRun f).Ordered :=
  h.keep rfl (.of_actions rfl) rfl (succeeded_setRun hf)

theorem Ordered.setStatus (h : w.Ordered) {x : RunStatus} (hundone : ¬ w.Succeeded)
    (hx : x ≠ .succeeded) : (w.setStatus x).Ordered :=
  h.keep rfl (.of_actions rfl) rfl
    (iff_of_false (not_succeeded_setStatus hx) hundone)

/-- The run ends without success after its stages got other statuses, none of them a success. -/
theorem Ordered.finish (h : w.Ordered) {y : StageState → StageStatus} (hstages : Restaged y w w')
    (hstarts : StartsKept w w') (hartifacts : w'.artifacts = w.artifacts)
    (hundone : ¬ w.Succeeded)
    (hy : ∀ s ∈ w.stages, y s = .succeeded → s.status = .succeeded) {st : FinishStatus}
    (hst : st ≠ .succeeded) : (w'.finish st).Ordered := by
  have hfinish : Restaged (fun s => (y s).finish st) w (w'.finish st) := by
    unfold Restaged
    rw [finish_stages, hstages, List.map_map]
    rfl
  exact h.halt hfinish (hstarts.trans .finish) hartifacts hundone (not_succeeded_finish hst)
    (fun s hs he => hy s hs (StageStatus.finish_eq_succeeded he))
    fun s _ => StageStatus.not_open_finish hst

theorem restaged_setStages (p : StageState → Prop) [DecidablePred p] (x : StageStatus) :
    Restaged (fun s => if p s then x else s.status) w (w.setStages p x) := by
  unfold Restaged
  rw [setStages_stages]
  refine List.map_congr_left fun s _ => ?_
  by_cases h : p s <;> simp [h]

theorem Ordered.activate (h : w.Ordered) (hrefs : (w.stages.map (·.ref)).Nodup)
    {s : StageState} (hs : s ∈ w.stages) (hcur : Current w s)
    {p : StageState → Prop} [DecidablePred p]
    {x : StageStatus} (hx : x.Active) (hp : ∀ t ∈ w.stages, p t → t.ref = s.ref) :
    (w.setStages p x).Ordered := by
  have hself : ∀ t ∈ w.stages, p t → t = s := fun t ht h =>
    List.inj_on_of_nodup_map hrefs ht hs (hp t ht h)
  have hx' : x ≠ .succeeded ∧ x ≠ .pending := by
    rcases hx with rfl | rfl <;> decide
  refine h.frame (restaged_setStages p x) (.of_actions rfl) rfl .rfl ?_ ?_ ?_
  · intro t ht
    by_cases hpt : p t
    · rw [if_pos hpt, hself t ht hpt]
      exact iff_of_false hx'.1 hcur.open_
    · rw [if_neg hpt]
  · intro t ht ha
    -- an active stage is the current one
    have hts : t = s := by
      by_cases hpt : p t
      · exact hself t ht hpt
      · rw [if_neg hpt] at ha
        by_contra hne
        rcases lt_trichotomy t.number s.number with hlt | he | hlt
        · exact StageStatus.not_active (.inr (hcur.before t ht hlt)) ha
        · exact hne (h.number_inj ht hs he)
        · exact StageStatus.not_active (.inl (hcur.after t ht hlt)) ha
    subst hts
    refine ⟨hcur, fun u hu hlt => ?_⟩
    rw [if_neg fun hpu => (hself u hu hpu ▸ hlt).false]
    exact hcur.after u hu hlt
  · intro t ht hpend
    by_cases hpt : p t
    · rw [if_pos hpt] at hpend
      exact absurd hpend hx'.2
    · rw [if_neg hpt] at hpend
      refine ⟨hpend, fun u hu hlt => ?_⟩
      by_cases hpu : p u
      · have hts : t.number < s.number := hself u hu hpu ▸ hlt
        exact absurd ((hcur.before t ht hts).symm.trans hpend) (by decide)
      · rw [if_neg hpu]
        exact h.pending t ht hpend u hu hlt

theorem Current.not_succeeded {s : StageState} (h : Current w s) (hw : w.Ordered)
    (hs : s ∈ w.stages) :
    ¬ w.Succeeded := fun hd => h.open_ ((hw.done hd).1 s hs)

theorem Current.status_of_ne {s t : StageState} (h : Current w s) (hw : w.Ordered)
    (hs : s ∈ w.stages) (ht : t ∈ w.stages) (hne : t ≠ s) :
    t.number < s.number ∧ t.status = .succeeded ∨ s.number < t.number ∧ t.status = .pending := by
  rcases lt_trichotomy t.number s.number with hlt | he | hlt
  · exact .inl ⟨hlt, h.before t ht hlt⟩
  · exact absurd (hw.number_inj ht hs he) hne
  · exact .inr ⟨hlt, h.after t ht hlt⟩

theorem outputs_append (ref : String) (a : ArtifactState) :
    (w.addArtifact a).outputs ref =
      w.outputs ref ++ if a.stage = ref ∧ a.kind = .stageOutput then [a] else [] := by
  unfold Workflow.outputs
  rw [addArtifact_artifacts, List.filter_append, List.filter_singleton]
  simp

theorem models_append (a : ArtifactState) :
    (w.addArtifact a).models = w.models ++ if a.kind = .versionModel then [a] else [] := by
  unfold Workflow.models
  rw [addArtifact_artifacts, List.filter_append, List.filter_singleton]
  simp

section Succeed

variable {s : StageState} (h : w.Ordered) (hrefs : (w.stages.map (·.ref)).Nodup) (hs : s ∈ w.stages)
  (hcur : Current w s)

theorem outputs_succeedStage_self : (w.succeedStage s).outputs s.ref =
    w.outputs s.ref ++ [⟨s.ref, .stageOutput, s.output⟩] := by
  unfold succeedStage
  rw [outputs_append]
  simp [Workflow.outputs]

theorem outputs_succeedStage_of_ne {ref : String} (hne : s.ref ≠ ref) :
    (w.succeedStage s).outputs ref = w.outputs ref := by
  unfold succeedStage
  rw [outputs_append]
  simp [Workflow.outputs, hne]

theorem models_succeedStage : (w.succeedStage s).models = w.models := by
  unfold succeedStage
  rw [models_append]
  simp [Workflow.models]

def succeededStatus (s t : StageState) : StageStatus :=
  if t.ref = s.ref then .succeeded else t.status

theorem restaged_succeedStage : Restaged (succeededStatus s) w (w.succeedStage s) :=
  restaged_setStages (fun t => t.ref = s.ref) .succeeded

include h hrefs hs hcur

theorem succeededStatus_cases {t : StageState} (ht : t ∈ w.stages) :
    t = s ∧ succeededStatus s t = .succeeded ∨
      t.ref ≠ s.ref ∧ t.number < s.number ∧ succeededStatus s t = .succeeded ∧
        t.status = .succeeded ∨
      t.ref ≠ s.ref ∧ s.number < t.number ∧ succeededStatus s t = .pending ∧
        t.status = .pending := by
  unfold succeededStatus
  by_cases he : t.ref = s.ref
  · exact .inl ⟨List.inj_on_of_nodup_map hrefs ht hs he, if_pos he⟩
  · rw [if_neg he]
    rcases hcur.status_of_ne h hs ht fun hts => he (congrArg _ hts) with ⟨hlt, hst⟩ | ⟨hlt, hst⟩
    · exact .inr (.inl ⟨he, hlt, hst, hst⟩)
    · exact .inr (.inr ⟨he, hlt, hst, hst⟩)

theorem length_outputs_succeedStage {t : StageState} (ht : t ∈ w.stages)
    (hst : succeededStatus s t = .succeeded) :
    ((w.succeedStage s).outputs t.ref).length = 1 := by
  rcases succeededStatus_cases h hrefs hs hcur ht with ⟨rfl, -⟩ | ⟨hne, -, -, hold⟩ | ⟨-, -, hp, -⟩
  · rw [outputs_succeedStage_self, h.fresh t hs hcur.open_ hcur.after]
    rfl
  · rw [outputs_succeedStage_of_ne (Ne.symm hne)]
    exact h.outputs t ht hold
  · exact absurd (hst.symm.trans hp) (by decide)

/-- A stage that is not the last succeeds. -/
theorem Ordered.succeedStage (hsettled : ∀ a ∈ w.starts, a.status.Open → a.stage ≠ some s.ref)
    {u : StageState} (hu : u ∈ w.stages) (hlt : s.number < u.number) :
    (w.succeedStage s).Ordered := by
  have hstages : Restaged (succeededStatus s) w (w.succeedStage s) := restaged_succeedStage
  have hcases : ∀ t ∈ w.stages, _ := fun t => succeededStatus_cases h hrefs hs hcur
  have hpending : ∀ t ∈ w.stages, succeededStatus s t = .pending →
      s.number < t.number ∧ t.status = .pending ∧ s.ref ≠ t.ref := by
    intro t ht hp
    rcases hcases t ht with ⟨-, he⟩ | ⟨-, -, he, -⟩ | ⟨hne, hlt, -, he⟩
    · exact absurd (he.symm.trans hp) (by decide)
    · exact absurd (he.symm.trans hp) (by decide)
    · exact ⟨hlt, he, hne.symm⟩
  have hafter : ∀ t ∈ w.stages, s.number < t.number → succeededStatus s t = .pending := by
    intro t ht hlt
    rcases hcases t ht with ⟨rfl, -⟩ | ⟨-, hlt', -⟩ | ⟨-, -, he, -⟩
    · exact absurd hlt (lt_irrefl _)
    · exact absurd hlt (lt_asymm hlt')
    · exact he
  constructor
  · rw [hstages, List.map_map]
    exact h.numbers
  · exact hstages.forall.2 h.positive
  · refine hstages.forall.2 fun t ht ha => absurd ha (StageStatus.not_active ?_)
    rcases hcases t ht with ⟨-, he⟩ | ⟨-, -, he, -⟩ | ⟨-, -, he, -⟩
    · exact .inr he
    · exact .inr he
    · exact .inl he
  · refine hstages.forall.2 fun t ht hp => hstages.forall.2 fun v hv hlt => ?_
    exact hafter v hv ((hpending t ht hp).1.trans hlt)
  · exact h.starts
  · exact hstages.forall.2 fun t ht hp => h.unstarted t ht (hpending t ht hp).2.1
  · intro a ha hopen
    obtain ⟨t, ht, he, hst⟩ := h.unsettled a ha hopen
    refine ⟨_, hstages.mem.2 ⟨t, ht, rfl⟩, he, fun hnew => ?_⟩
    rcases hcases t ht with ⟨rfl, -⟩ | ⟨-, -, -, hold⟩ | ⟨-, -, hp, -⟩
    · exact hsettled a ha hopen he
    · exact hst hold
    · exact absurd (hnew.symm.trans hp) (by decide)
  · refine hstages.forall.2 fun t ht hst => ?_
    exact length_outputs_succeedStage (t := t) h hrefs hs hcur ht hst
  · refine hstages.forall.2 fun t ht hst _ => ?_
    rcases hcases t ht with ⟨-, he⟩ | ⟨-, -, he, -⟩ | ⟨hne, hlt, -, hold⟩
    · exact absurd he hst
    · exact absurd he hst
    · show (w.succeedStage s).outputs t.ref = []
      rw [outputs_succeedStage_of_ne hne.symm]
      refine h.fresh t ht (by rw [hold]; decide) fun v hv hlt' => ?_
      exact hcur.after v hv (hlt.trans hlt')
  · refine hstages.forall.2 fun t ht hst hl => absurd (hstages.isLast.1 hl u hu) (not_le.2 ?_)
    rcases hcases t ht with ⟨rfl, -⟩ | ⟨-, hlt', -⟩ | ⟨-, -, hp, -⟩
    · exact hlt
    · exact hlt'.trans hlt
    · exact absurd (hst.symm.trans hp) (by decide)
  · exact fun hd => absurd hd (hcur.not_succeeded h hs)
  · intro hd
    rw [models_succeedStage]
    exact h.undone hd

theorem Ordered.complete (hsettled : ∀ a ∈ w.starts, a.status.Open → a.stage ≠ some s.ref)
    (hlast : IsLast w s) (hrun : w.run ≠ none) : ((w.succeedStage s).complete s).Ordered := by
  have hstages : Restaged (succeededStatus s) w ((w.succeedStage s).complete s) := by
    unfold Restaged Workflow.complete
    rw [finish_stages, addArtifact_stages, restaged_succeedStage, List.map_map]
    exact List.map_congr_left fun t _ => rfl
  have hstarts : StartsKept w ((w.succeedStage s).complete s) := by
    refine StartsKept.trans ?_ .finish
    exact .of_actions rfl
  have hcases : ∀ t ∈ w.stages, _ := fun t => succeededStatus_cases h hrefs hs hcur
  have hall : ∀ t ∈ w.stages, succeededStatus s t = .succeeded := by
    intro t ht
    rcases hcases t ht with ⟨-, he⟩ | ⟨-, -, he, -⟩ | ⟨-, hlt, -⟩
    · exact he
    · exact he
    · exact absurd (hlast t ht) (not_le.2 hlt)
  have hdone : ((w.succeedStage s).complete s).Succeeded := by
    obtain ⟨r, hr⟩ := Option.ne_none_iff_exists'.1 hrun
    exact ⟨r.finish .succeeded, Option.mem_map_of_mem _ hr, rfl⟩
  constructor
  · rw [hstages, List.map_map]
    exact h.numbers
  · exact hstages.forall.2 h.positive
  · exact hstages.forall.2 fun t ht ha => absurd ha (StageStatus.not_active (.inr (hall t ht)))
  · exact hstages.forall.2 fun t ht hp => absurd (hp.symm.trans (hall t ht)) (by decide)
  · rw [hstarts.stages]
    exact h.starts
  · exact hstages.forall.2 fun t ht hp => absurd (hp.symm.trans (hall t ht)) (by decide)
  · intro a' ha' hopen
    obtain ⟨a, ha, -, hopen⟩ := hstarts.opened a' ha' hopen
    obtain ⟨t, ht, he, hst⟩ := h.unsettled a ha hopen
    rcases hcases t ht with ⟨rfl, -⟩ | ⟨-, -, -, hold⟩ | ⟨-, hlt, -⟩
    · exact absurd he (hsettled a ha hopen)
    · exact absurd hold hst
    · exact absurd (hlast t ht) (not_le.2 hlt)
  · refine hstages.forall.2 fun t ht hst => ?_
    have hone := length_outputs_succeedStage h hrefs hs hcur ht hst
    rw [← hone]
    show (((w.succeedStage s).addArtifact _).outputs t.ref).length = _
    rw [outputs_append]
    simp
  · exact hstages.forall.2 fun t ht hst => absurd (hall t ht) hst
  · exact fun _ _ _ _ => hdone
  · intro _
    refine ⟨hstages.forall.2 hall, _, hstages.mem.2 ⟨s, hs, rfl⟩, hstages.isLast.2 hlast, ?_⟩
    show ((w.succeedStage s).addArtifact _).models.map _ = _
    rw [models_append, models_succeedStage, h.undone (hcur.not_succeeded h hs)]
    rfl
  · exact fun hd => absurd hdone hd

theorem current_nextPending {next : StageState}
    (hnext : (w.succeedStage s).nextPending? = some next)
    (hw : (w.succeedStage s).Ordered) : Current (w.succeedStage s) next := by
  obtain ⟨hmem, hpending⟩ := nextPending?_mem hnext
  refine ⟨by rw [hpending]; decide, ?_, hw.pending next hmem hpending⟩
  refine restaged_succeedStage.forall.2 fun t ht hlt => ?_
  rcases succeededStatus_cases h hrefs hs hcur ht with ⟨-, he⟩ | ⟨-, -, he, -⟩ | ⟨-, -, he, -⟩
  · exact he
  · exact he
  · have hmem : { t with status := succeededStatus s t } ∈ (w.succeedStage s).stages :=
      restaged_succeedStage.mem.2 ⟨t, ht, rfl⟩
    have hle := List.le_of_mem_argmin (f := StageState.number)
      (List.mem_filter.2 ⟨hmem, by simpa using he⟩) hnext
    exact absurd hlt (not_lt.2 hle)

end Succeed

theorem Ordered.addStart {ref : String} {next : StageState} (h : w.Ordered)
    (hnew : ∀ a ∈ w.starts, a.stage ≠ some next.ref)
    (hnext : ∃ t ∈ w.stages, t.ref = next.ref)
    (hactive : ∀ t ∈ w.stages, t.ref = next.ref → t.status.Active) :
    (w.addAction ⟨ref, some next.ref, .startTrainingStage, .queued⟩).Ordered := by
  have hstarts : (w.addAction ⟨ref, some next.ref, .startTrainingStage, .queued⟩).starts =
      w.starts ++ [⟨ref, some next.ref, .startTrainingStage, .queued⟩] := by
    simp [Workflow.starts, List.filter_append]
  have hcases : ∀ {a}, a ∈ (w.addAction ⟨ref, some next.ref, .startTrainingStage, .queued⟩).starts →
      a ∈ w.starts ∨ a.stage = some next.ref := by
    intro a ha
    rw [hstarts] at ha
    rcases List.mem_append.1 ha with ha | ha
    · exact .inl ha
    · exact .inr (by rw [List.mem_singleton.1 ha])
  constructor
  · exact h.numbers
  · exact h.positive
  · intro t ht ha
    have hcur := h.active t ht ha
    exact ⟨hcur.open_, hcur.before, hcur.after⟩
  · exact h.pending
  · rw [hstarts, List.map_append]
    refine List.Nodup.append h.starts (List.nodup_singleton _) fun x hx hx' => ?_
    obtain ⟨a, ha, rfl⟩ := List.mem_map.1 hx
    exact hnew a ha (List.mem_singleton.1 hx')
  · intro t ht hp hne a ha he
    rcases hcases ha with ha | hstage
    · exact h.unstarted t ht hp hne a ha he
    · have hact := hactive t ht (Option.some.inj (he.symm.trans hstage))
      exact StageStatus.not_active (.inl hp) hact
  · intro a ha hopen
    rcases hcases ha with ha | hstage
    · exact h.unsettled a ha hopen
    · obtain ⟨t, ht, he⟩ := hnext
      refine ⟨t, ht, he ▸ hstage, fun hst => ?_⟩
      exact StageStatus.not_active (.inr hst) (hactive t ht he)
  · exact h.outputs
  · exact h.fresh
  · exact h.last
  · exact h.done
  · exact h.undone

theorem Ordered.advance {ref : String} {next : StageState} (h : w.Ordered)
    (hrefs : (w.stages.map (·.ref)).Nodup) (hnext : next ∈ w.stages) (hcur : Current w next)
    (hpending : next.status = .pending)
    (hne : next.number ≠ 1) : (w.advance ref next).Ordered := by
  have hundone := hcur.not_succeeded h hnext
  have hactive : (w.setStages (fun t => t.ref = next.ref) .preparing).Ordered :=
    h.activate hrefs hnext hcur (.inl rfl) fun _ _ he => he
  refine Ordered.setStatus (hactive.addStart ?_ ?_ ?_) hundone (by decide)
  · exact h.unstarted next hnext hpending hne
  · exact ⟨_, (restaged_setStages _ _).mem.2 ⟨next, hnext, rfl⟩, rfl⟩
  · refine (restaged_setStages _ _).forall.2 fun t _ he => ?_
    rw [if_pos he]
    exact .inl rfl

theorem Ordered.exitSucceeded {ref : String} {s : StageState} (h : w.Ordered)
    (hrefs : (w.stages.map (·.ref)).Nodup)
    (hs : s ∈ w.stages) (hcur : Current w s) (hrun : w.run ≠ none)
    (hsettled : ∀ a ∈ w.starts, a.status.Open → a.stage ≠ some s.ref) :
    (w.exitSucceeded ref s).Ordered := by
  cases hn : (w.succeedStage s).nextPending? with
  | none =>
    rw [exitSucceeded_of_last hn]
    refine h.complete hrefs hs hcur hsettled (fun t ht => ?_) hrun
    by_contra hlt
    have hmem : { t with status := succeededStatus s t } ∈ (w.succeedStage s).stages :=
      restaged_succeedStage.mem.2 ⟨t, ht, rfl⟩
    have hnone := List.filter_eq_nil_iff.1 (List.argmin_eq_none.1 hn) _ hmem
    rcases succeededStatus_cases h hrefs hs hcur ht with ⟨rfl, -⟩ | ⟨-, hlt', -⟩ | ⟨-, -, he, -⟩
    · exact hlt le_rfl
    · exact hlt hlt'.le
    · exact hnone (by simpa using he)
  | some next =>
    rw [exitSucceeded_of_next hn]
    obtain ⟨hmem, hpending⟩ := nextPending?_mem hn
    obtain ⟨t, ht, rfl⟩ := restaged_succeedStage.mem.1 hmem
    have hlt : s.number < t.number := by
      rcases succeededStatus_cases h hrefs hs hcur ht with ⟨-, he⟩ | ⟨-, -, he, -⟩ | ⟨-, hlt, -⟩
      · exact absurd (hpending.symm.trans he) (by decide)
      · exact absurd (hpending.symm.trans he) (by decide)
      · exact hlt
    have hsucceed := h.succeedStage hrefs hs hcur hsettled ht hlt
    have hrefs' : ((w.succeedStage s).stages.map (·.ref)).Nodup := by
      rw [restaged_succeedStage, List.map_map]
      exact hrefs
    refine hsucceed.advance hrefs' hmem (current_nextPending h hrefs hs hcur hn hsucceed)
      hpending ?_
    exact ((h.positive s hs).trans_lt hlt).ne'

theorem setStages_of_none {p : StageState → Prop} [DecidablePred p] {x : StageStatus}
    (h : ∀ s ∈ w.stages, ¬ p s) : w.setStages p x = w := by
  have hmap : (w.setStages p x).stages = w.stages := by
    rw [setStages_stages]
    conv_rhs => rw [← List.map_id w.stages]
    exact List.map_congr_left fun s hs => if_neg (h s hs)
  exact Workflow.ext rfl hmap rfl rfl rfl rfl

theorem not_succeeded {r : RunState} (hr : w.run = some r) (hst : r.status ≠ .succeeded) :
    ¬ w.Succeeded := by
  rintro ⟨_, hr', he⟩
  obtain rfl := Option.some.inj (hr.symm.trans hr')
  exact hst he

theorem starts_addStop (ref : String) :
    StartsKept w (w.addAction ⟨ref, none, .stopTrainingRun, .queued⟩) := by
  have h : (w.addAction ⟨ref, none, .stopTrainingRun, .queued⟩).starts = w.starts := by
    simp [Workflow.starts, List.filter_append]
  exact ⟨by rw [h], fun a ha ho => ⟨a, h ▸ ha, rfl, ho⟩⟩

theorem Ordered.stop (h : w.Ordered) {ref : String} {r : RunState} (hundone : ¬ w.Succeeded) :
    (w.stop ref r).Ordered := by
  have hset : (w.setStatus .stopRequested).Ordered := h.setStatus hundone (by decide)
  unfold Workflow.stop
  split
  · exact h.finish restaged_self (.of_actions rfl) rfl hundone (fun _ _ => id) (by decide)
  · split
    · exact hset.keep rfl (starts_addStop ref) rfl .rfl
    · exact hset

theorem Ordered.prepare (h : w.Ordered) (hrefs : (w.stages.map (·.ref)).Nodup)
    {a : ActionState} (hfirst : ∀ s ∈ w.stages, some s.ref = a.stage → s.status = .pending →
      s.number = 1) : (w.prepare a).Ordered := by
  have hkept : ∀ r : RunState,
      (if r.status = .queued then { r with status := .preparing } else r).status = .succeeded ↔
        r.status = .succeeded := by
    intro r
    split
    · rename_i hq
      simp [hq]
    · rfl
  have hrun : (w.setRun fun r =>
      if r.status = .queued then { r with status := .preparing } else r).Ordered :=
    h.setRun fun r _ => hkept r
  unfold Workflow.prepare
  by_cases hex : ∃ s ∈ w.stages, some s.ref = a.stage ∧ s.status = .pending
  · obtain ⟨s, hs, hstage, hp⟩ := hex
    have hone := hfirst s hs hstage hp
    refine hrun.activate hrefs hs ⟨by rw [hp]; decide, fun t ht hlt => ?_, h.pending s hs hp⟩
      (.inl rfl) fun t _ ht => Option.some.inj (ht.1.trans hstage.symm)
    exact absurd (h.positive t ht) (by omega)
  · rw [setStages_of_none]
    · exact hrun
    · exact fun s hs hp => hex ⟨s, hs, hp⟩

theorem Ordered.claim (h : w.Ordered) (hkeyed : w.Keyed) {a : ActionState}
    (ha : a ∈ w.actions) (hqueued : a.status = .queued) : (w.claim a).Ordered := by
  have hset : (w.setActions (fun b => b.ref = a.ref) .running).Ordered := by
    refine h.setActions fun b hb he _ => ?_
    rw [hkeyed.action_eq hb ha he, hqueued]
    exact .inl rfl
  cases hk : a.kind with
  | stopTrainingRun =>
    rw [claim_of_stop hk]
    exact hset
  | startTrainingStage =>
    rw [claim_of_start hk]
    refine hset.prepare hkeyed.stages fun s hs hstage hp => ?_
    by_contra hne
    exact h.unstarted s hs hp hne a (mem_starts.2 ⟨ha, hk⟩) hstage.symm

theorem Ordered.not_succeeded_of_start (h : w.Ordered) {a : ActionState} (ha : a ∈ w.actions)
    (hk : a.kind = .startTrainingStage) (hopen : a.status.Open) : ¬ w.Succeeded := by
  obtain ⟨s, hs, -, hst⟩ := h.unsettled a (mem_starts.2 ⟨ha, hk⟩) hopen
  exact fun hd => hst ((h.done hd).1 s hs)

theorem starts_settleStops (w : Workflow) : StartsKept w w.settleStops :=
  .setActions fun _ _ _ ho => absurd ho (by simp [ActionStatus.Open])

theorem Ordered.failStart (h : w.Ordered) {r : RunState} (hundone : ¬ w.Succeeded) :
    (w.failStart r).Ordered := by
  unfold Workflow.failStart
  split
  · have hstages : Restaged (·.status) w w.settleStops := restaged_self
    exact h.finish hstages (starts_settleStops w) rfl hundone (fun _ _ => id) (by decide)
  · exact h.finish restaged_self (.of_actions rfl) rfl hundone (fun _ _ => id) (by decide)

theorem Ordered.started (h : w.Ordered) (hkeyed : w.Keyed) {s : StageState} (hs : s ∈ w.stages)
    (hok : RespectsOrder w (.started s)) : (w.started s.ref).Ordered := by
  have hstage : (w.setStages (fun t => t.ref = s.ref ∧ t.status.Open) .running).Ordered := by
    by_cases hopen : s.status.Open
    · have hcur : Current w s := by
        rcases hopen with hp | ha
        · exact ⟨by rw [hp]; decide, hok hp, h.pending s hs hp⟩
        · exact h.active s hs ha
      exact h.activate hkeyed.stages hs hcur (.inr rfl) fun _ _ ht => ht.1
    · rw [setStages_of_none]
      · exact h
      · rintro t ht ⟨he, ho⟩
        exact hopen (hkeyed.stage_eq ht hs he ▸ ho)
  refine Ordered.setActions (hstage.setRun fun r _ => ?_) fun _ _ _ ho =>
    absurd ho (by simp [ActionStatus.Open])
  split
  · rename_i hq
    rcases hq with hq | hq | hq <;> simp [hq]
  · rfl

theorem Ordered.foundRunning (h : w.Ordered) (hkeyed : w.Keyed) {s : Option StageState}
    (hs : ∀ t ∈ s, t ∈ w.stages) (hok : RespectsOrder w (.foundRunning s)) :
    (w.foundRunning (s.map (·.ref))).Ordered := by
  cases s with
  | none =>
    have hnone : w.setStages (fun s => some s.ref = none) .running = w :=
      setStages_of_none fun _ _ => nofun
    show ((w.setStages (fun s => some s.ref = none) .running).setStatus .running).Ordered
    rw [hnone]
    exact h.setStatus hok (by decide)
  | some s =>
    have hundone := Current.not_succeeded hok h (hs s rfl)
    refine Ordered.setStatus (h.activate hkeyed.stages (hs s rfl) hok (.inr rfl) ?_) hundone
      (by decide)
    exact fun t _ ht => Option.some.inj ht

theorem Ordered.exitStopped (h : w.Ordered) {ref : String} (hundone : ¬ w.Succeeded) :
    (w.exitStopped ref).Ordered := by
  have hstages : Restaged (fun s => if s.ref = ref ∧ s.status.Open then .cancelled else s.status) w
      (w.settleStops.setStages (fun s => s.ref = ref ∧ s.status.Open) .cancelled) :=
    restaged_setStages _ _
  refine h.finish hstages ?_ rfl hundone (fun s _ hst => ?_) (by decide)
  · exact (starts_settleStops w).trans (.of_actions rfl)
  · split at hst
    · cases hst
    · exact hst

theorem Ordered.exitUnsuccessful (h : w.Ordered) {ref : String} {st : FinishStatus}
    (hundone : ¬ w.Succeeded) (hst : st ≠ .succeeded) : (w.exitUnsuccessful ref st).Ordered := by
  have hfinish : ((w.setStages (fun s => s.ref = ref) st.toStage).finish st).Ordered := by
    refine h.finish (restaged_setStages _ _) (.of_actions rfl) rfl hundone (fun s _ he => ?_) hst
    split at he
    · cases st with
      | succeeded => exact absurd rfl hst
      | failed | cancelled | lost => cases he
    · exact he
  unfold Workflow.exitUnsuccessful
  split
  · exact hfinish.keep rfl (starts_settleStops _) rfl .rfl
  · exact hfinish

theorem Ordered.exited (h : w.Ordered) (hkeyed : w.Keyed) {ref : String} {r : RunState}
    {s : StageState} {outcome : FinishStatus} (hr : w.run = some r) (hs : s ∈ w.stages)
    (hok : RespectsOrder w (.exited s outcome)) : (w.exited ref r s outcome).Ordered := by
  have hsettle : (w.settleStarts s.ref).Ordered :=
    h.setActions fun _ _ _ ho => absurd ho (by simp [ActionStatus.Open])
  unfold Workflow.exited
  split
  · rename_i hstop
    exact hsettle.exitStopped (not_succeeded (w := w) hr (by rw [hstop]; decide))
  · rename_i hstop
    cases outcome with
    | succeeded =>
      have hcur : Current w s := hok fun x hx => Option.some.inj (hr.symm.trans hx) ▸ hstop
      refine hsettle.exitSucceeded hkeyed.stages hs ⟨hcur.open_, hcur.before, hcur.after⟩ ?_
        fun a' ha' hopen he => ?_
      · show w.run ≠ none
        simp [hr]
      · obtain ⟨hmem, hk⟩ := mem_starts.1 ha'
        obtain ⟨a, -, rfl⟩ := List.mem_map.1 hmem
        split at hopen
        · exact absurd hopen (by simp [ActionStatus.Open])
        · rename_i hnot
          rw [if_neg hnot] at hk he
          exact hnot ⟨he, hk, hopen⟩
    | failed | cancelled | lost => exact hsettle.exitUnsuccessful hok (by decide)

theorem Change.ordered (h : Change RespectsOrder w w') (hwf : w.Wf) (hkeyed : w.Keyed)
    (hw : w.Ordered) {r : RunState} (hr : w.run = some r) (hreal : r.mode = .real) :
    w'.Ordered := by
  have hr' : ∀ {x}, w.run = some x → x = r := fun hx => Option.some.inj (hx.symm.trans hr)
  cases h with
  | create => cases hr
  | stop hx hopen =>
    exact hw.stop (not_succeeded hx fun hst => hopen (by rw [hst]; decide))
  | requeue hrefs =>
    exact hw.setActions fun a ha he _ => .inr (hrefs a ha he)
  | claim _ ha hqueued _ => exact hw.claim hkeyed ha hqueued
  | result _ _ hx =>
    refine hw.setActions fun _ _ _ ho => absurd ho ?_
    rcases hx with rfl | rfl <;> simp [ActionStatus.Open]
  | startFailed _ ha hk hrunning =>
    have hundone := hw.not_succeeded_of_start ha hk (.inr hrunning)
    refine Ordered.failStart (hw.setActions fun _ _ _ ho => absurd ho ?_) hundone
    simp [ActionStatus.Open]
  | started hs hok => exact hw.started hkeyed hs hok
  | foundRunning hs hok => exact hw.foundRunning hkeyed hs hok
  | exited hx hs hok => exact hw.exited hkeyed hx hs hok
  | claimRun hx hmode | giveUp hx hmode =>
    rw [hr' hx, hreal] at hmode
    cases hmode
  | cancelStopped hx howner | startStage hx howner | failStage hx howner
  | completeStage hx howner =>
    have hmode := (hwf.owned _ hx howner).1
    rw [hr' hx, hreal] at hmode
    cases hmode

theorem ordered_created {r : RunState} {stages : List StageState} {first : StageState}
    {ref : String} {ports : List (String × ℕ)} (hr : r.status = .queued)
    (hpending : ∀ s ∈ stages, s.status = .pending) (hrefs : (stages.map (·.ref)).Nodup)
    (hnumbers : stages.map (·.number) = List.range' 1 stages.length) (hfirst : first ∈ stages)
    (hone : first.number = 1) :
    (created r stages [⟨ref, some first.ref, .startTrainingStage, .queued⟩] ports).Ordered := by
  have hundone : ¬ (created r stages
      [⟨ref, some first.ref, .startTrainingStage, .queued⟩] ports).Succeeded :=
    not_succeeded (w := created r stages _ ports) rfl (by rw [hr]; decide)
  have hnot : ∀ s ∈ stages, s.status ≠ .succeeded := fun s hs => by
    rw [hpending s hs]
    decide
  constructor
  · show (stages.map (·.number)).Nodup
    rw [hnumbers]
    exact List.nodup_range'
  · intro s hs
    have hmem : s.number ∈ stages.map (·.number) := List.mem_map_of_mem hs
    rw [hnumbers] at hmem
    exact (List.mem_range'_1.1 hmem).1
  · exact fun s hs ha => absurd ha (StageStatus.not_active (.inl (hpending s hs)))
  · exact fun _ _ _ t ht _ => hpending t ht
  · simp [Workflow.starts, created]
  · intro s hs _ hne a ha he
    obtain rfl : a = ⟨ref, some first.ref, .startTrainingStage, .queued⟩ := by
      simpa [Workflow.starts, created] using ha
    have hsame : first = s :=
      List.inj_on_of_nodup_map hrefs hfirst hs (Option.some.inj he)
    exact hne (hsame ▸ hone)
  · intro a ha _
    obtain rfl : a = ⟨ref, some first.ref, .startTrainingStage, .queued⟩ := by
      simpa [Workflow.starts, created] using ha
    exact ⟨first, hfirst, rfl, hnot first hfirst⟩
  · exact fun s hs hst => absurd hst (hnot s hs)
  · exact fun _ _ _ _ => rfl
  · exact fun s hs hst => absurd hst (hnot s hs)
  · exact fun hd => absurd hd hundone
  · exact fun _ => rfl

def RealOrdered (w : Workflow) : Prop := ∀ r ∈ w.run, r.mode = .real → w.Ordered

theorem Change.realOrdered (h : Change RespectsOrder w w') (hwf : w.Wf) (hkeyed : w.Keyed)
    (hw : RealOrdered w) : RealOrdered w' := by
  intro r' hr' hreal
  by_cases hrun : w.run = none
  · obtain rfl := hwf.vacant hrun
    cases h with
    | create hr hpending hrefs hnumbers _ hactions =>
      obtain rfl := Option.some.inj hr'
      rw [if_pos hreal] at hactions
      obtain ⟨first, hfirst, ref, hone, rfl⟩ := hactions
      exact ordered_created hr.1 hpending hrefs hnumbers hfirst hone
    | requeue | foundRunning => cases hr'
    | result ha | started ha => exact absurd ha List.not_mem_nil
    | stop hr | claim hr | startFailed hr | exited hr | claimRun hr | cancelStopped hr
    | startStage hr | failStage hr | completeStage hr | giveUp hr => cases hr
  · obtain ⟨f, hf, hkept⟩ := (h.extends hrun).run
    obtain ⟨r, hr, rfl⟩ := Option.map_eq_some_iff.1 (hf ▸ hr')
    have hmode : r.mode = .real := (hkept r hr).mode.symm.trans hreal
    exact h.ordered hwf hkeyed (hw r hr hmode) hr hmode

theorem Changes.realOrdered (h : Changes RespectsOrder vacant w) : RealOrdered w := by
  induction h with
  | refl => exact fun _ hr => nomatch hr
  | tail h hc ih => exact hc.1.realOrdered (Changes.wf h wf_vacant) hc.2.1 ih

section Decidable

instance (w : Workflow) (s : StageState) : Decidable (Current w s) :=
  decidable_of_iff (s.status ≠ .succeeded ∧
    (∀ t ∈ w.stages, t.number < s.number → t.status = .succeeded) ∧
      ∀ t ∈ w.stages, s.number < t.number → t.status = .pending)
    ⟨fun ⟨h₁, h₂, h₃⟩ => ⟨h₁, h₂, h₃⟩, fun ⟨h₁, h₂, h₃⟩ => ⟨h₁, h₂, h₃⟩⟩

instance (w : Workflow) : Decidable w.Succeeded := by
  unfold Succeeded
  infer_instance

instance (w : Workflow) (rep : Report) : Decidable (RespectsOrder w rep) := by
  cases rep with
  | startFailed | stopAnswered => exact inferInstanceAs (Decidable True)
  | started s => exact inferInstanceAs (Decidable (_ → _))
  | foundRunning s => cases s <;> unfold RespectsOrder <;> infer_instance
  | exited s outcome => cases outcome <;> unfold RespectsOrder <;> infer_instance

end Decidable

end Workflow

open Workflow

variable {db : Database} {registry : Registry} {l : List (Transition Database Event)}

structure StagesInOrder (db : Database) (run : RunRow) : Prop where
  active : ∀ s ∈ db.stages, s.runRef = run.runRef → s.status.Active →
    ∀ t ∈ db.stages, t.runRef = run.runRef → t.status.Active → t = s
  earlier : ∀ s ∈ db.stages, s.runRef = run.runRef → s.status.Active →
    ∀ t ∈ db.stages, t.runRef = run.runRef → t.stageNumber < s.stageNumber →
      t.status = .succeeded
  starts : ∀ a ∈ db.actions, ∀ b ∈ db.actions, a.runRef = run.runRef → b.runRef = run.runRef →
    a.kind = .startTrainingStage → b.kind = .startTrainingStage → a.stageRef = b.stageRef → a = b
  outputs : ∀ s ∈ db.stages, s.runRef = run.runRef → s.status = .succeeded →
    (db.artifacts.select fun a => a.runRef = run.runRef ∧ a.stageRef = s.stageRef ∧
      a.kind = .stageOutput).length = 1
  model : run.status = .succeeded → ∃ s ∈ db.stages, s.runRef = run.runRef ∧
    (∀ t ∈ db.stages, t.runRef = run.runRef → t.stageNumber ≤ s.stageNumber) ∧
      (db.artifacts.select fun a => a.runRef = run.runRef ∧ a.kind = .versionModel).map (·.path) =
        [s.outputDirectory]
  noModel : run.status ≠ .succeeded →
    (db.artifacts.select fun a => a.runRef = run.runRef ∧ a.kind = .versionModel) = []

theorem outputs_workflowOf (r ref : String) : (workflowOf db r).outputs ref =
    (db.artifacts.select fun a => a.runRef = r ∧ a.stageRef = ref ∧ a.kind = .stageOutput).map
      ArtifactRow.state := by
  show List.filter _ (List.map _ (List.filter _ _)) = List.map _ (List.filter _ _)
  rw [List.filter_map, List.filter_filter]
  congr 1
  refine List.filter_congr fun a _ => ?_
  simp only [Function.comp_apply, ArtifactRow.state, Bool.decide_and]
  exact Bool.and_comm _ _

theorem models_workflowOf (r : String) : (workflowOf db r).models =
    (db.artifacts.select fun a => a.runRef = r ∧ a.kind = .versionModel).map
      ArtifactRow.state := by
  show List.filter _ (List.map _ (List.filter _ _)) = List.map _ (List.filter _ _)
  rw [List.filter_map, List.filter_filter]
  congr 1
  refine List.filter_congr fun a _ => ?_
  simp only [Function.comp_apply, ArtifactRow.state, Bool.decide_and]
  exact Bool.and_comm _ _

theorem stagesInOrder_of_ordered {run : RunRow} (hrun : run ∈ db.runs)
    (h : (workflowOf db run.runRef).Ordered) : StagesInOrder db run := by
  have hstage : ∀ s ∈ db.stages, s.runRef = run.runRef →
      s.state ∈ (workflowOf db run.runRef).stages := fun s => stage_mem_workflowOf
  have hdone : (workflowOf db run.runRef).Succeeded ↔ run.status = .succeeded := by
    constructor
    · rintro ⟨r, hr, hst⟩
      obtain rfl := Option.some.inj (hr.symm.trans (run_workflowOf hrun))
      exact hst
    · exact fun hst => ⟨_, run_workflowOf hrun, hst⟩
  constructor
  · intro s hs href ha t ht href' ha'
    have hcur := h.active _ (hstage s hs href) ha
    by_contra hne
    have hne' : t.state ≠ s.state := fun he =>
      hne (Table.eq_of_key ht hs (congrArg StageState.ref he))
    rcases hcur.status_of_ne h (hstage s hs href) (hstage t ht href') hne' with ⟨-, he⟩ | ⟨-, he⟩
    · exact StageStatus.not_active (.inr he) ha'
    · exact StageStatus.not_active (.inl he) ha'
  · exact fun s hs href ha t ht href' => (h.active _ (hstage s hs href) ha).before _
      (hstage t ht href')
  · intro a ha b hb href href' hk hk' he
    have hmem : ∀ c ∈ db.actions, c.runRef = run.runRef → c.kind = .startTrainingStage →
        c.state ∈ (workflowOf db run.runRef).starts := fun c hc hr hk =>
      mem_starts.2 ⟨hr ▸ action_mem_workflowOf hc, hk⟩
    have hsame := List.inj_on_of_nodup_map h.starts (hmem a ha href hk) (hmem b hb href' hk') he
    exact Table.eq_of_key ha hb (congrArg ActionState.ref hsame)
  · intro s hs href hst
    have hone := h.outputs _ (hstage s hs href) hst
    rw [outputs_workflowOf, List.length_map] at hone
    exact hone
  · intro hst
    obtain ⟨-, x, hx, hlast, hm⟩ := h.done (hdone.2 hst)
    obtain ⟨s, hs, rfl⟩ := List.mem_map.1 hx
    obtain ⟨hs, href⟩ := Table.mem_select.1 hs
    refine ⟨s, hs, href, fun t ht href' => hlast _ (hstage t ht href'), ?_⟩
    rw [models_workflowOf, List.map_map] at hm
    exact hm
  · intro hst
    have hnone := h.undone (mt hdone.1 hst)
    rw [models_workflowOf, List.map_eq_nil_iff] at hnone
    exact hnone

/-- While reports name the current stage, the stages of real runs follow one another. -/
theorem stages_in_order (h : Run Step (.initial registry) l db)
    (hok : ∀ x ∈ l, x.label.1.Meets RespectsOrder x.pre) :
    ∀ run ∈ db.runs, run.executionMode = .real → StagesInOrder db run := by
  intro run hrun hreal
  have hordered : RealOrdered (workflowOf db run.runRef) :=
    Changes.realOrdered (moves_of_run h (wf_initial registry) hok run.runRef)
  exact stagesInOrder_of_ordered hrun (hordered _ (run_workflowOf hrun) hreal)

/-- The first stage is reported to have succeeded by two threads of the worker. -/
def repeatedExit : List Op :=
  [.createRun 1 (Sample.creation "real" "run" ["a", "b", "c"]), Sample.poll 2,
   Sample.report 3 "run" 1 "a" .started, Sample.report 4 "run" 2 "a" (.exited Sample.succeeded),
   Sample.report 5 "run" 3 "a" (.exited Sample.succeeded)]

theorem repeatedExit_not_in_order :
    Run Step (.initial Sample.registry) (centre.serve (.initial Sample.registry) repeatedExit)
        (centre.final (.initial Sample.registry) repeatedExit) ∧
      ¬ ∀ run ∈ (centre.final (.initial Sample.registry) repeatedExit).runs,
        run.executionMode = .real →
          StagesInOrder (centre.final (.initial Sample.registry) repeatedExit) run := by
  refine ⟨centre.serve_run _ _, fun h => ?_⟩
  have htwo : ∃ run ∈ (centre.final (.initial Sample.registry) repeatedExit).runs,
      run.executionMode = .real ∧
      ∃ s ∈ (centre.final (.initial Sample.registry) repeatedExit).stages,
      ∃ t ∈ (centre.final (.initial Sample.registry) repeatedExit).stages,
      s.runRef = run.runRef ∧ t.runRef = run.runRef ∧ s.status.Active ∧ t.status.Active ∧
        t ≠ s := by decide +kernel
  obtain ⟨run, hrun, hreal, s, hs, t, ht, href, href', ha, ha', hne⟩ := htwo
  exact hne ((h run hrun hreal).active s hs href ha t ht href' ha')

/-- Both stages of a run succeed. -/
def orderlyRun : List Op :=
  [.createRun 1 (Sample.creation "real" "run" ["a", "b"]), Sample.poll 2,
   Sample.report 3 "run" 1 "a" .started, Sample.report 4 "run" 2 "a" (.exited Sample.succeeded),
   Sample.poll 5, Sample.report 6 "run" 3 "b" (.reconciliation Sample.running),
   Sample.report 7 "run" 4 "b" (.exited Sample.succeeded)]

theorem stages_in_order_orderlyRun :
    ∃ run ∈ (centre.final (.initial Sample.registry) orderlyRun).runs,
      run.executionMode = .real ∧
        StagesInOrder (centre.final (.initial Sample.registry) orderlyRun) run := by
  have hreal : ∃ run ∈ (centre.final (.initial Sample.registry) orderlyRun).runs,
      run.executionMode = .real := by decide +kernel
  obtain ⟨run, hrun, hreal⟩ := hreal
  refine ⟨run, hrun, hreal, ?_⟩
  exact stages_in_order (centre.serve_run _ _) (by decide +kernel) run hrun hreal

end DataJuicer.Training
