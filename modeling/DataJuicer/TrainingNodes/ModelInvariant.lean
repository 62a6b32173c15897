import DataJuicer.TrainingNodes.ModelMoves

/-! # The tables of the models in every reachable state

The numbers of the revisions of a model differ, every model has its current revision, a request
keeps the payload of its revision, and an open request is the last one of its model.
-/

namespace DataJuicer.TrainingNodes

open Training (Timestamp)
open Transaction Table

/-- What holds of these tables in every reachable state. -/
structure ModelTables.Wf (t : ModelTables) : Prop where
  numbers : ∀ s ∈ t.revisions, ∀ s' ∈ t.revisions, s.modelRef = s'.modelRef →
    s.revisionNumber = s'.revisionNumber → s = s'
  current : ∀ m ∈ t.models, ∃ s ∈ t.revisions,
    s.modelRef = m.modelRef ∧ s.revisionNumber = m.currentRevision
  family : ∀ f ∈ t.families, ∀ ref ∈ f.currentModelRef, ∃ m ∈ t.models,
    m.modelRef = ref ∧ m.familyRef = f.familyRef
  requests : ∀ v ∈ t.verifications, ∃ m ∈ t.models, m.modelRef = v.modelRef ∧
    ∃ s ∈ t.revisions, s.revisionRef = v.revisionRef ∧ s.modelRef = v.modelRef ∧
      v.request = s.launchTemplate.payload m.familyRef
  closed : t.verifications.Ordered fun v w => v.modelRef = w.modelRef → ¬ v.status.Open

theorem modelTables_initial (registry : Training.Registry) :
    (Centre.initial registry).modelTables.Wf where
  numbers := fun _ h => absurd h (not_mem_empty _)
  current := fun _ h => absurd h (not_mem_empty _)
  family := fun _ h => absurd h (not_mem_empty _)
  requests := fun _ h => absurd h (not_mem_empty _)
  closed := .empty

/-- An update of requests that says nothing else about the models and that reopens none. -/
structure KeepsRequest (f : VerificationRow → VerificationRow) : Prop where
  reference : ∀ v, key (f v) = key v
  model : ∀ v, (f v).modelRef = v.modelRef
  revision : ∀ v, (f v).revisionRef = v.revisionRef
  request : ∀ v, (f v).request = v.request

variable {c c' : Centre} {op : Op} {r : Reply} {t t' : ModelTables} {m : ModelRow}
  {v w : VerificationRow}

theorem ModelTables.Wf.one_open (h : t.Wf) (hv : v ∈ t.verifications) (hw : w ∈ t.verifications)
    (hm : v.modelRef = w.modelRef) (hvo : v.status.Open) (hwo : w.status.Open) : v = w := by
  have hlast := fun (x : VerificationRow) (hx : x ∈ t.verifications)
      (hxm : x.modelRef = w.modelRef) (hxo : x.status.Open) =>
    h.closed.getLast?_select (p := fun x => x.modelRef = w.modelRef) hx hxm
      fun y _ hy hxy => hxy (hxm.trans hy.symm) hxo
  exact Option.some.inj ((hlast v hv hm hvo).symm.trans (hlast w hw rfl hwo))

theorem ModelTables.Wf.update (h : t.Wf) {p : VerificationRow → Prop} [DecidablePred p]
    {f : VerificationRow → VerificationRow} (hk : KeepsRequest f)
    (ho : ∀ v, p v → (f v).status.Open → v.status.Open) :
    ModelTables.Wf { t with verifications := t.verifications.update p f hk.reference } where
  numbers := h.numbers
  current := h.current
  family := h.family
  requests := by
    intro v hv
    change v ∈ t.verifications.update p f hk.reference at hv
    rcases mem_update_cases hv with ⟨hv, -⟩ | ⟨w, hw, -, rfl⟩
    · exact h.requests v hv
    · rw [hk.model, hk.revision, hk.request]
      exact h.requests w hw
  closed := by
    refine h.closed.update hk.reference fun v _ w _ hvw => ?_
    have hmodel : ∀ x, (if p x then f x else x).modelRef = x.modelRef := by
      intro x
      split
      · exact hk.model x
      · rfl
    rw [hmodel, hmodel]
    intro hm
    split
    · next hpv => exact fun hopen => hvw hm (ho v hpv hopen)
    · exact hvw hm

def SameFamily (m m' : ModelRow) : Prop := m'.modelRef = m.modelRef ∧ m'.familyRef = m.familyRef

theorem sameFamily_of_update {t : Table ModelRow} {p : ModelRow → Prop} [DecidablePred p]
    {f : ModelRow → ModelRow} (hf : ∀ m, key (f m) = key m)
    (hfamily : ∀ m, (f m).familyRef = m.familyRef) : Rowwise SameFamily t (t.update p f hf) := by
  refine .of_update _ fun m _ => ?_
  split
  · exact ⟨hf m, hfamily m⟩
  · exact ⟨rfl, rfl⟩

theorem sameFamily_edited {now : Timestamp} {number : ℕ} {d : ModelData} :
    Rowwise SameFamily c.models (c.models.update (fun x => x.modelRef = m.modelRef)
      (ModelRow.edited now number d)) :=
  sameFamily_of_update (f := ModelRow.edited now number d) (fun _ => rfl) fun _ => rfl

theorem sameFamily_judged {now : Timestamp} {q : VerificationReport} :
    Rowwise SameFamily c.models (judgedModels now q m c) :=
  sameFamily_of_update (f := ModelRow.judged now q) (fun _ => rfl) fun _ => rfl

theorem ModelTables.Wf.family_of_rows {models : Table ModelRow} (h : t.Wf)
    (hrows : Rowwise SameFamily t.models models) {f : FamilyRow} (hf : f ∈ t.families)
    {ref : String} (href : ref ∈ f.currentModelRef) :
    ∃ m ∈ models, m.modelRef = ref ∧ m.familyRef = f.familyRef := by
  obtain ⟨m, hm, hmref, hmf⟩ := h.family f hf ref href
  obtain ⟨m', hm', hsame⟩ := hrows.exists_post m hm
  exact ⟨m', hm', hsame.1.trans hmref, hsame.2.trans hmf⟩

theorem ModelTables.Wf.request_of_rows {models : Table ModelRow} (h : t.Wf)
    (hrows : Rowwise SameFamily t.models models) (hv : v ∈ t.verifications) :
    ∃ m ∈ models, m.modelRef = v.modelRef ∧ ∃ s ∈ t.revisions, s.revisionRef = v.revisionRef ∧
      s.modelRef = v.modelRef ∧ v.request = s.launchTemplate.payload m.familyRef := by
  obtain ⟨m, hm, hmref, hs⟩ := h.requests v hv
  obtain ⟨m', hm', hsame⟩ := hrows.exists_post m hm
  refine ⟨m', hm', hsame.1.trans hmref, ?_⟩
  rwa [hsame.2]

theorem wf_created {now : Timestamp} {refs : ModelRefs} {d : ModelData} {families : Table FamilyRow}
    {models : Table ModelRow} {revisions : Table RevisionRow} (h : c.modelTables.Wf)
    (hn : NewModel now refs d c families models revisions) :
    ModelTables.Wf ⟨families, models, revisions, c.verifications⟩ where
  numbers := by
    have hfresh : ∀ s ∈ c.revisions, s.modelRef = refs.modelRef → s.revisionNumber ≠ 1 := by
      intro s hs hm hnum
      simpa [hm, hnum] using List.find?_eq_none.1 hn.fresh s hs
    intro s hs s' hs' hm hnum
    rcases (mem_insert? hn.revision).1 hs with hs | rfl <;>
      rcases (mem_insert? hn.revision).1 hs' with hs' | rfl
    · exact h.numbers s hs s' hs' hm hnum
    · exact absurd hnum (hfresh s hs hm)
    · exact absurd hnum.symm (hfresh s' hs' hm.symm)
    · rfl
  current := by
    intro m hm
    rcases (mem_insert? hn.model).1 hm with hm | rfl
    · obtain ⟨s, hs, hsm⟩ := h.current m hm
      exact ⟨s, (mem_insert? hn.revision).2 (.inl hs), hsm⟩
    · exact ⟨_, (mem_insert? hn.revision).2 (.inr rfl), rfl, rfl⟩
  family := by
    intro f hf ref href
    rcases (mem_insert? hn.family).1 hf with hf | rfl
    · obtain ⟨m, hm, hmref⟩ := h.family f hf ref href
      exact ⟨m, (mem_insert? hn.model).2 (.inl hm), hmref⟩
    · obtain rfl := Option.mem_some_iff.1 href
      exact ⟨_, (mem_insert? hn.model).2 (.inr rfl), rfl, rfl⟩
  requests := by
    intro v hv
    obtain ⟨m, hm, hmref, s, hs, hsref⟩ := h.requests v hv
    exact ⟨m, (mem_insert? hn.model).2 (.inl hm), hmref, s,
      (mem_insert? hn.revision).2 (.inl hs), hsref⟩
  closed := h.closed

theorem wf_edited {now : Timestamp} {familyRef revisionRef : String} {rev : ℕ} {d : ModelData}
    {revisions : Table RevisionRow} (h : c.modelTables.Wf)
    (hfresh : revision? m.modelRef (rev + 1) c = none)
    (hrevision : c.revisions.insert?
      (newRevision now revisionRef m.modelRef (rev + 1) d) = some revisions) :
    (afterModelEdit now familyRef rev d m revisions c).modelTables.Wf where
  numbers := by
    have hfresh : ∀ s ∈ c.revisions, s.modelRef = m.modelRef → s.revisionNumber ≠ rev + 1 := by
      intro s hs hm hnum
      simpa [hm, hnum] using List.find?_eq_none.1 hfresh s hs
    intro s hs s' hs' hm hnum
    rcases (mem_insert? hrevision).1 hs with hs | rfl <;>
      rcases (mem_insert? hrevision).1 hs' with hs' | rfl
    · exact h.numbers s hs s' hs' hm hnum
    · exact absurd hnum (hfresh s hs hm)
    · exact absurd hnum.symm (hfresh s' hs' hm.symm)
    · rfl
  current := by
    intro x hx
    change x ∈ c.models.update (fun x => x.modelRef = m.modelRef)
      (ModelRow.edited now (rev + 1) d) (fun _ => rfl) at hx
    rcases mem_update_cases hx with ⟨hx, -⟩ | ⟨x, hx, hm, rfl⟩
    · obtain ⟨s, hs, hsx⟩ := h.current x hx
      exact ⟨s, (mem_insert? hrevision).2 (.inl hs), hsx⟩
    · exact ⟨_, (mem_insert? hrevision).2 (.inr rfl), hm.symm, rfl⟩
  family := by
    intro f hf ref href
    change f ∈ c.families.update (fun f => f.familyRef = familyRef)
      (fun f => { f with updatedAt := now }) (fun _ => rfl) at hf
    rcases mem_update_cases hf with ⟨hf, -⟩ | ⟨f₀, hf₀, -, rfl⟩
    · exact h.family_of_rows sameFamily_edited hf href
    · exact h.family_of_rows sameFamily_edited hf₀ href
  requests := by
    intro v hv
    obtain ⟨x, hx, hxref, s, hs, hsref⟩ :=
      h.request_of_rows sameFamily_edited hv
    exact ⟨x, hx, hxref, s, (mem_insert? hrevision).2 (.inl hs), hsref⟩
  closed := h.closed

theorem currentModel?_eq_some {familyRef : String} (h : currentModel? familyRef c = some m) :
    ∃ f ∈ c.families, f.familyRef = familyRef ∧ f.currentModelRef = some m.modelRef ∧
      m ∈ c.models := by
  obtain ⟨f, hf, h⟩ := Option.bind_eq_some_iff.1 h
  obtain ⟨ref, href, hm⟩ := Option.bind_eq_some_iff.1 h
  obtain ⟨hf, hfref⟩ := find?_eq_some_iff.1 hf
  obtain ⟨hmem, rfl⟩ := find?_eq_some_iff.1 hm
  exact ⟨f, hf, hfref, href, hmem⟩

theorem revision?_eq_some {s : RevisionRow} {number : ℕ}
    (h : revision? m.modelRef number c = some s) :
    s ∈ c.revisions ∧ s.modelRef = m.modelRef ∧ s.revisionNumber = number :=
  ⟨List.mem_of_find?_eq_some h, by simpa using List.find?_some h⟩

theorem wf_requested {now : Timestamp} {familyRef verificationRef : String} {rev : ℕ}
    {s : RevisionRow} {n : NodeRow} {verifications : Table VerificationRow}
    (h : c.modelTables.Wf) (hm : Expected familyRef rev m c)
    (hidle : openVerification? m.modelRef c = none) (hs : revision? m.modelRef rev c = some s)
    (hinsert : c.verifications.insert? (newVerification now verificationRef familyRef s n) =
      some verifications) :
    ModelTables.Wf ⟨c.families, c.models, c.revisions, verifications⟩ where
  numbers := h.numbers
  current := h.current
  family := h.family
  requests := by
    intro v hv
    rcases (mem_insert? hinsert).1 hv with hv | rfl
    · exact h.requests v hv
    · obtain ⟨f, hf, hfref, hfm, hmem⟩ := currentModel?_eq_some hm.current
      obtain ⟨x, hx, hxref, hxf⟩ := h.family f hf _ hfm
      obtain rfl : x = m := eq_of_key hx hmem hxref
      obtain ⟨hsmem, hsm, -⟩ := revision?_eq_some hs
      refine ⟨x, hmem, hsm.symm, s, hsmem, rfl, rfl, ?_⟩
      rw [hxf, hfref]
      rfl
  closed := by
    refine h.closed.insert hinsert fun v hv hvm hopen => ?_
    have hnone := List.getLast?_eq_none_iff.1 hidle
    have hmem : v ∈ c.verifications.select fun v => v.modelRef = m.modelRef ∧ v.status.Open :=
      mem_select.2 ⟨hv, hvm.trans (revision?_eq_some hs).2.1, hopen⟩
    rw [hnone] at hmem
    cases hmem

theorem keepsRequest_requeue {now : Timestamp} : KeepsRequest (VerificationRow.requeue now) :=
  ⟨fun _ => rfl, fun _ => rfl, fun _ => rfl, fun _ => rfl⟩

theorem keepsRequest_claim {now : Timestamp} {workerId : String} :
    KeepsRequest (VerificationRow.claim now workerId) :=
  ⟨fun _ => rfl, fun _ => rfl, fun _ => rfl, fun _ => rfl⟩

theorem keepsRequest_finish {now : Timestamp} {q : VerificationReport} :
    KeepsRequest (VerificationRow.finish now q) :=
  ⟨fun _ => rfl, fun _ => rfl, fun _ => rfl, fun _ => rfl⟩

theorem keepsRequest_abandon {now : Timestamp} : KeepsRequest (VerificationRow.abandon now) := by
  constructor <;> intro v <;> unfold VerificationRow.abandon <;> split <;> rfl

theorem not_open_status (q : VerificationReport) : ¬ q.status.Open := by
  unfold VerificationReport.status
  split <;> simp [VerificationStatus.Open]

theorem wf_requeued {now : Timestamp} {nodeRef : String} (h : c.modelTables.Wf) :
    ModelTables.Wf ⟨c.families, c.models, c.revisions, requeued now nodeRef c⟩ :=
  h.update (p := VerificationRow.Expired now nodeRef) keepsRequest_requeue
    fun _ hv _ => .inr hv.2.1

theorem wf_finished {now : Timestamp} {q : VerificationReport} (h : c.modelTables.Wf) :
    ModelTables.Wf ⟨c.families, c.models, c.revisions, finishedVerifications now q v c⟩ :=
  h.update (p := fun x => x.verificationRef = v.verificationRef) keepsRequest_finish
    fun _ _ hopen => absurd hopen (not_open_status q)

theorem wf_abandoned {now : Timestamp} {nodeRef : String} (h : c.modelTables.Wf) :
    (removeNode now nodeRef c).modelTables.Wf := by
  refine h.update (p := fun v => v.nodeRef = some nodeRef) keepsRequest_abandon
    fun v _ hopen => ?_
  unfold VerificationRow.abandon at hopen
  split at hopen
  · next hv => exact hv
  · exact hopen

theorem wf_judged {now : Timestamp} {q : VerificationReport} (h : c.modelTables.Wf) :
    ModelTables.Wf ⟨c.families, judgedModels now q m c, c.revisions,
      finishedVerifications now q v c⟩ where
  numbers := h.numbers
  current := by
    intro x hx
    change x ∈ c.models.update (fun x => x.modelRef = m.modelRef) (ModelRow.judged now q)
      (fun _ => rfl) at hx
    rcases mem_update_cases hx with ⟨hx, -⟩ | ⟨x₀, hx₀, -, rfl⟩
    · exact h.current x hx
    · exact h.current x₀ hx₀
  family := fun _ hf _ href =>
    h.family_of_rows sameFamily_judged hf href
  requests := fun _ hw =>
    (wf_finished h).request_of_rows sameFamily_judged hw
  closed := (wf_finished h).closed

/-- Every operation keeps the tables of the models in order. -/
theorem wf_of_move (hmove : ModelMove c op r t) (h : c.modelTables.Wf) : t.Wf := by
  cases hmove with
  | same => exact h
  | created hn => exact wf_created h hn
  | edited _ hfresh hrevision => exact wf_edited h hfresh hrevision
  | requested hm hidle hs hinsert => exact wf_requested h hm hidle hs hinsert
  | refused => exact h
  | idle => exact wf_requeued h
  | claimed =>
    exact (wf_requeued h).update keepsRequest_claim fun _ hv _ => .inl hv.2
  | judged => exact wf_judged h
  | recorded => exact wf_finished h
  | abandoned => exact wf_abandoned h

theorem wf_of_run {registry : Training.Registry} {l : List (Transition Centre Event)}
    (h : Run Step (.initial registry) l c) : c.modelTables.Wf := by
  refine h.keeps (Q := fun c => c.modelTables.Wf) (modelTables_initial registry) fun x hx hpre => ?_
  rcases step_iff.1 (h.step_of_mem hx) with ⟨_, hp, -⟩ | ⟨_, -, -, hpost⟩
  · exact wf_of_move (modelMove_of_perform hp) hpre
  · rw [hpost]
    exact hpre

end DataJuicer.TrainingNodes
