import Mathlib.Data.Int.Notation
import Mathlib.Data.List.Basic
import Mathlib.Data.List.Nodup
import Mathlib.Logic.Function.Basic
import Mathlib.Order.Nat

/-! # The cache of projections

Jobs, segments and reviews are cached under the revision of the server, and an older response never
replaces a newer one.
-/

namespace DataJuicer.Frontend

/-- A job, a segment or a review as the server sends it. -/
structure Projection where
  ref : String
  stateRevision : ℕ
  updatedAt : String
  /-- The fields that the store only hands on. -/
  content : String

structure Capability where
  available : Bool
  runtimeId : String
  reason : Option (String × String)

/-- `AnnotationProjectionState` -/
structure ProjectionState where
  jobs : List Projection
  jobsLoaded : Bool
  capability : Option Capability
  capabilityLoaded : Bool
  jobDetails : String → Option Projection
  segmentDetails : String → Option Projection
  reviews : List Projection
  reviewsLoaded : Bool
  reviewDetails : String → Option Projection

def ProjectionState.initial : ProjectionState where
  jobs := []
  jobsLoaded := false
  capability := none
  capabilityLoaded := false
  jobDetails _ := none
  segmentDetails _ := none
  reviews := []
  reviewsLoaded := false
  reviewDetails _ := none

def segmentKey (jobRef segmentRef : String) : String := jobRef ++ ":" ++ segmentRef

def preferRevision (current : Option Projection) (next : Projection) : Projection :=
  match current with
  | some current => if current.stateRevision > next.stateRevision then current else next
  | none => next

/-- `Map.set` under the reference of the projection. -/
def mapSet (m : List Projection) (p : Projection) : List Projection :=
  if ∃ x ∈ m, x.ref = p.ref then m.map fun x => if x.ref = p.ref then p else x else m ++ [p]

def mapGet? (m : List Projection) (ref : String) : Option Projection := m.find? fun x => x.ref = ref

section Lists

variable (localeCompare : String → String → ℤ)

/-- The last update comes first. -/
def sortByUpdatedAt (items : List Projection) : List Projection :=
  items.mergeSort fun left right => localeCompare right.updatedAt left.updatedAt ≤ 0

/-- `mergeJobs` and `mergeReviews` -/
def mergeProjections (current incoming : List Projection) : List Projection :=
  sortByUpdatedAt localeCompare
    (incoming.foldl (fun m p => mapSet m (preferRevision (mapGet? m p.ref) p))
      (current.foldl mapSet []))

end Lists

section Writes

variable (localeCompare : String → String → ℤ)

def cacheAnnotationJob (job : Projection) (s : ProjectionState) : ProjectionState :=
  let selected := preferRevision (s.jobDetails job.ref) job
  { s with
    jobs := mergeProjections localeCompare s.jobs [selected]
    jobDetails := Function.update s.jobDetails job.ref (some selected) }

def cacheAnnotationJobSummary (job : Projection) (s : ProjectionState) : ProjectionState :=
  { s with jobs := mergeProjections localeCompare s.jobs [job] }

def cacheAnnotationSegment (jobRef : String) (segment : Projection) (s : ProjectionState) :
    ProjectionState :=
  let key := segmentKey jobRef segment.ref
  { s with
    segmentDetails := Function.update s.segmentDetails key
      (some (preferRevision (s.segmentDetails key) segment)) }

def cacheTrajectoryReview (review : Projection) (s : ProjectionState) : ProjectionState :=
  let selected := preferRevision (s.reviewDetails review.ref) review
  { s with
    reviews := mergeProjections localeCompare s.reviews [selected]
    reviewDetails := Function.update s.reviewDetails review.ref (some selected) }

def cacheTrajectoryReviewSummary (review : Projection) (s : ProjectionState) : ProjectionState :=
  { s with reviews := mergeProjections localeCompare s.reviews [review] }

/-- What `loadAnnotationJobs` does with a response. -/
def setJobs (jobs : List Projection) (s : ProjectionState) : ProjectionState :=
  { s with jobs := mergeProjections localeCompare s.jobs jobs, jobsLoaded := true }

/-- What `loadTrajectoryReviews` does with a response. -/
def setReviews (reviews : List Projection) (s : ProjectionState) : ProjectionState :=
  { s with reviews := mergeProjections localeCompare s.reviews reviews, reviewsLoaded := true }

def setCapability (c : Capability) (s : ProjectionState) : ProjectionState :=
  { s with capability := some c, capabilityLoaded := true }

/-- What `loadAnnotationCapability` shows when the request fails. -/
def capabilityUnavailable : Capability where
  available := false
  runtimeId := "navigation_odom_v1"
  reason := some ("capability_unavailable", "暂时无法确认处理环境状态。")

end Writes

def NewerThan (p : Projection) (q : Projection) : Prop :=
  q.ref = p.ref ∧ p.stateRevision ≤ q.stateRevision

def Covers (items items' : List Projection) : Prop := ∀ p ∈ items, ∃ q ∈ items', NewerThan p q

def DetailsKept (d d' : String → Option Projection) : Prop :=
  ∀ key, ∀ p ∈ d key, ∃ q ∈ d' key, p.stateRevision ≤ q.stateRevision

variable {items items' items'' : List Projection} {p q : Projection}
  {d d' d'' : String → Option Projection} {localeCompare : String → String → ℤ}

theorem NewerThan.refl : NewerThan p p := ⟨rfl, le_rfl⟩

theorem Covers.refl : Covers items items := fun p hp => ⟨p, hp, .refl⟩

theorem Covers.trans (h : Covers items items') (h' : Covers items' items'') :
    Covers items items'' := by
  intro p hp
  obtain ⟨q, hq, href, hle⟩ := h p hp
  obtain ⟨r, hr, href', hle'⟩ := h' q hq
  exact ⟨r, hr, href'.trans href, hle.trans hle'⟩

theorem mapGet?_eq_some {ref : String} (h : mapGet? items ref = some p) : p ∈ items ∧ p.ref = ref :=
  ⟨List.mem_of_find?_eq_some h, by simpa using List.find?_some h⟩

theorem le_preferRevision (current : Option Projection) (p : Projection) :
    p.stateRevision ≤ (preferRevision current p).stateRevision ∧
      ∀ c ∈ current, c.stateRevision ≤ (preferRevision current p).stateRevision := by
  cases current with
  | none => exact ⟨le_rfl, by simp⟩
  | some c =>
    simp only [preferRevision]
    split
    · next hlt =>
      refine ⟨hlt.le, ?_⟩
      rintro _ ⟨⟩
      exact le_rfl
    · next hle =>
      refine ⟨le_rfl, ?_⟩
      rintro _ ⟨⟩
      exact not_lt.1 hle

theorem ref_preferRevision {current : Option Projection} (h : ∀ c ∈ current, c.ref = p.ref) :
    (preferRevision current p).ref = p.ref := by
  cases current with
  | none => rfl
  | some c =>
    simp only [preferRevision]
    split
    · exact h c rfl
    · rfl

theorem preferRevision_newer (current : Option Projection) (h : ∀ c ∈ current, c.ref = p.ref) :
    NewerThan p (preferRevision current p) ∧
      ∀ c ∈ current, NewerThan c (preferRevision current p) := by
  obtain ⟨hnew, hold⟩ := le_preferRevision current p
  have href := ref_preferRevision h
  exact ⟨⟨href, hnew⟩, fun c hc => ⟨href.trans (h c hc).symm, hold c hc⟩⟩

def Distinct (items : List Projection) : Prop := (items.map Projection.ref).Nodup

theorem Distinct.eq_of_ref (h : Distinct items) (hp : p ∈ items) (hq : q ∈ items)
    (href : p.ref = q.ref) : p = q :=
  List.inj_on_of_nodup_map h hp hq href

theorem mem_mapSet_of_ne (hq : q ∈ items) (hne : q.ref ≠ p.ref) : q ∈ mapSet items p := by
  unfold mapSet
  split
  · exact List.mem_map.2 ⟨q, hq, if_neg hne⟩
  · exact List.mem_append_left _ hq

theorem mem_mapSet_self : p ∈ mapSet items p := by
  unfold mapSet
  split
  · next h =>
    obtain ⟨x, hx, href⟩ := h
    exact List.mem_map.2 ⟨x, hx, if_pos href⟩
  · exact List.mem_concat_self

theorem distinct_mapSet (h : Distinct items) : Distinct (mapSet items p) := by
  unfold Distinct mapSet
  split
  · have hmap : (items.map fun x => if x.ref = p.ref then p else x).map Projection.ref =
        items.map Projection.ref := by
      rw [List.map_map]
      refine List.map_congr_left fun x _ => ?_
      simp only [Function.comp_apply]
      split
      · next href => exact href.symm
      · rfl
    rw [hmap]
    exact h
  · next hnew =>
    rw [List.map_append, List.map_singleton, List.nodup_append]
    refine ⟨h, List.nodup_singleton _, fun a ha b hb hab => ?_⟩
    obtain ⟨x, hx, rfl⟩ := List.mem_map.1 ha
    rw [List.mem_singleton.1 hb] at hab
    exact hnew ⟨x, hx, hab⟩

theorem covers_mapSet (h : Distinct items) (hp : ∀ c ∈ mapGet? items p.ref, NewerThan c p) :
    Covers items (mapSet items p) := by
  intro q hq
  by_cases href : q.ref = p.ref
  · refine ⟨p, mem_mapSet_self, ?_⟩
    cases hc : mapGet? items p.ref with
    | none => exact absurd (List.find?_eq_none.1 hc q hq) (by simp [href])
    | some c =>
      obtain ⟨hmem, hcref⟩ := mapGet?_eq_some hc
      rw [h.eq_of_ref hq hmem (href.trans hcref.symm)]
      exact hp c hc
  · exact ⟨q, mem_mapSet_of_ne hq href, .refl⟩

/-- A projection that is preferred to the cached one. -/
theorem covers_prefer (h : Distinct items) :
    Covers items (mapSet items (preferRevision (mapGet? items p.ref) p)) ∧
      ∃ q ∈ mapSet items (preferRevision (mapGet? items p.ref) p), NewerThan p q := by
  obtain ⟨hnew, hold⟩ := preferRevision_newer (p := p) (mapGet? items p.ref)
    fun c hc => (mapGet?_eq_some hc).2
  refine ⟨covers_mapSet h fun c hc => ?_, _, mem_mapSet_self, hnew⟩
  rw [hnew.1] at hc
  exact hold c hc

theorem merge_fold (incoming : List Projection) (h : Distinct items) :
    let m := incoming.foldl (fun m p => mapSet m (preferRevision (mapGet? m p.ref) p)) items
    Distinct m ∧ Covers items m ∧ Covers incoming m := by
  induction incoming generalizing items with
  | nil => exact ⟨h, .refl, by simp [Covers]⟩
  | cons p ps ih =>
    obtain ⟨hcov, q, hq, hpq⟩ := covers_prefer (p := p) h
    obtain ⟨hd, hc, hi⟩ := ih (distinct_mapSet h)
    refine ⟨hd, hcov.trans hc, fun r hr => ?_⟩
    rcases List.mem_cons.1 hr with rfl | hr
    · obtain ⟨q', hq', hqq'⟩ := hc q hq
      exact ⟨q', hq', hqq'.1.trans hpq.1, hpq.2.trans hqq'.2⟩
    · exact hi r hr

theorem foldl_mapSet (items items' : List Projection) (h : Distinct (items ++ items')) :
    items'.foldl mapSet items = items ++ items' := by
  induction items' generalizing items with
  | nil => simp
  | cons p ps ih =>
    have hnew : mapSet items p = items ++ [p] := by
      unfold mapSet
      rw [if_neg]
      rintro ⟨x, hx, href⟩
      unfold Distinct at h
      rw [List.map_append, List.nodup_append] at h
      exact h.2.2 x.ref (List.mem_map_of_mem hx) p.ref (by simp) href
    rw [List.foldl_cons, hnew, ih _ (by simpa using h)]
    simp

/-- A merge forgets nothing of either list and keeps one projection of each reference. -/
theorem merge_covers (localeCompare : String → String → ℤ) (incoming : List Projection)
    (h : Distinct items) :
    Distinct (mergeProjections localeCompare items incoming) ∧
      Covers items (mergeProjections localeCompare items incoming) ∧
      Covers incoming (mergeProjections localeCompare items incoming) := by
  have hfold := foldl_mapSet [] items h
  obtain ⟨hd, hc, hi⟩ := merge_fold incoming h
  unfold mergeProjections sortByUpdatedAt
  rw [hfold, List.nil_append]
  set m := incoming.foldl (fun m p => mapSet m (preferRevision (mapGet? m p.ref) p)) items
  have hperm := List.mergeSort_perm m fun left right =>
    decide (localeCompare right.updatedAt left.updatedAt ≤ 0)
  have hsort : ∀ {ps}, Covers ps m → Covers ps (m.mergeSort fun left right =>
      decide (localeCompare right.updatedAt left.updatedAt ≤ 0)) := by
    intro ps hps p hp
    obtain ⟨q, hq, hpq⟩ := hps p hp
    exact ⟨q, hperm.mem_iff.2 hq, hpq⟩
  exact ⟨(hperm.map _).nodup_iff.2 hd, hsort hc, hsort hi⟩

theorem DetailsKept.refl : DetailsKept d d := fun _ p hp => ⟨p, hp, le_rfl⟩

theorem detailsKept_update {key : String} (h : ∀ c ∈ d key, c.stateRevision ≤ p.stateRevision) :
    DetailsKept d (Function.update d key (some p)) := by
  intro k c hc
  by_cases hk : k = key
  · subst hk
    exact ⟨p, by simp, h c hc⟩
  · exact ⟨c, by simpa [hk] using hc, le_rfl⟩

/-- The lists have distinct references, and a detail is cached under its own. -/
structure ProjectionState.Wf (s : ProjectionState) : Prop where
  jobs : Distinct s.jobs
  reviews : Distinct s.reviews
  job_ref : ∀ ref, ∀ p ∈ s.jobDetails ref, p.ref = ref
  review_ref : ∀ ref, ∀ p ∈ s.reviewDetails ref, p.ref = ref

/-- No cached revision is lower, and nothing is dropped. -/
structure ProjectionState.Kept (s s' : ProjectionState) : Prop where
  jobs : Covers s.jobs s'.jobs
  reviews : Covers s.reviews s'.reviews
  job_details : DetailsKept s.jobDetails s'.jobDetails
  segment_details : DetailsKept s.segmentDetails s'.segmentDetails
  review_details : DetailsKept s.reviewDetails s'.reviewDetails

namespace ProjectionState

variable {s s' s'' : ProjectionState}

theorem wf_initial : initial.Wf where
  jobs := List.nodup_nil
  reviews := List.nodup_nil
  job_ref := fun _ _ h => by cases h
  review_ref := fun _ _ h => by cases h

theorem Kept.refl : Kept s s := ⟨.refl, .refl, .refl, .refl, .refl⟩

theorem Wf.prefer_job (h : s.Wf) (p : Projection) :
    NewerThan p (preferRevision (s.jobDetails p.ref) p) ∧
      ∀ c ∈ s.jobDetails p.ref, NewerThan c (preferRevision (s.jobDetails p.ref) p) :=
  preferRevision_newer _ (h.job_ref p.ref)

theorem Wf.prefer_review (h : s.Wf) (p : Projection) :
    NewerThan p (preferRevision (s.reviewDetails p.ref) p) ∧
      ∀ c ∈ s.reviewDetails p.ref, NewerThan c (preferRevision (s.reviewDetails p.ref) p) :=
  preferRevision_newer _ (h.review_ref p.ref)

theorem ref_update {d : String → Option Projection} (h : ∀ ref, ∀ p ∈ d ref, p.ref = ref)
    {key : String} {q : Projection} (hq : q.ref = key) :
    ∀ ref, ∀ p ∈ Function.update d key (some q) ref, p.ref = ref := by
  intro ref p hp
  by_cases hk : ref = key
  · subst hk
    obtain rfl : q = p := by simpa using hp
    exact hq
  · exact h ref p (by simpa [hk] using hp)

theorem cacheAnnotationJob_spec (h : s.Wf) :
    (cacheAnnotationJob localeCompare p s).Wf ∧ Kept s (cacheAnnotationJob localeCompare p s) := by
  obtain ⟨hnew, hold⟩ := h.prefer_job p
  obtain ⟨hd, hc, -⟩ := merge_covers localeCompare [preferRevision (s.jobDetails p.ref) p] h.jobs
  refine ⟨⟨hd, h.reviews, ref_update h.job_ref hnew.1, h.review_ref⟩,
    ⟨hc, .refl, detailsKept_update fun c hc => (hold c hc).2, .refl, .refl⟩⟩

theorem cacheTrajectoryReview_spec (h : s.Wf) : (cacheTrajectoryReview localeCompare p s).Wf ∧
    Kept s (cacheTrajectoryReview localeCompare p s) := by
  obtain ⟨hnew, hold⟩ := h.prefer_review p
  obtain ⟨hd, hc, -⟩ := merge_covers localeCompare
    [preferRevision (s.reviewDetails p.ref) p] h.reviews
  refine ⟨⟨h.jobs, hd, h.job_ref, ref_update h.review_ref hnew.1⟩,
    ⟨.refl, hc, .refl, .refl, detailsKept_update fun c hc => (hold c hc).2⟩⟩

theorem cacheAnnotationSegment_spec {jobRef : String} (h : s.Wf) :
    (cacheAnnotationSegment jobRef p s).Wf ∧ Kept s (cacheAnnotationSegment jobRef p s) := by
  refine ⟨⟨h.jobs, h.reviews, h.job_ref, h.review_ref⟩, ⟨.refl, .refl, .refl, ?_, .refl⟩⟩
  exact detailsKept_update (le_preferRevision _ p).2

theorem mergeJobs_spec {incoming : List Projection} (h : s.Wf) {loaded : Bool} :
    ({ s with
        jobs := mergeProjections localeCompare s.jobs incoming
        jobsLoaded := loaded } : ProjectionState).Wf ∧
      Kept s { s with
        jobs := mergeProjections localeCompare s.jobs incoming
        jobsLoaded := loaded } := by
  obtain ⟨hd, hc, -⟩ := merge_covers localeCompare incoming h.jobs
  exact ⟨⟨hd, h.reviews, h.job_ref, h.review_ref⟩, ⟨hc, .refl, .refl, .refl, .refl⟩⟩

theorem mergeReviews_spec {incoming : List Projection} (h : s.Wf) {loaded : Bool} :
    ({ s with
        reviews := mergeProjections localeCompare s.reviews incoming
        reviewsLoaded := loaded } : ProjectionState).Wf ∧
      Kept s { s with
        reviews := mergeProjections localeCompare s.reviews incoming
        reviewsLoaded := loaded } := by
  obtain ⟨hd, hc, -⟩ :=
    merge_covers localeCompare incoming h.reviews
  exact ⟨⟨h.jobs, hd, h.job_ref, h.review_ref⟩, ⟨.refl, hc, .refl, .refl, .refl⟩⟩

end ProjectionState

end DataJuicer.Frontend
