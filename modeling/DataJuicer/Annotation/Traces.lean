import DataJuicer.Annotation.SystemEffects

/-! # Runs of given events

The system is deterministic in its events, so a list of events makes one run when the marker
tokens that it draws are new. The sample calls at the end are those of a job of one segment.
-/

namespace DataJuicer.Annotation

def System.FreshMarkers (s t : System) : Prop :=
  ∀ m ∈ t.store.markers, m ∉ s.store.markers → m.token ∉ s.drawn

instance (s t : System) : Decidable (s.FreshMarkers t) := by
  unfold System.FreshMarkers
  infer_instance

def System.trace (s : System) : List Event → List (Transition System Event)
  | [] => []
  | e :: es => ⟨s, e, s.exec e⟩ :: (s.exec e).trace es

theorem System.run_trace (s : System) (es : List Event)
    (h : ∀ x ∈ s.trace es, x.pre.FreshMarkers x.post) :
    Run System.Step s (s.trace es) (s.after es) := by
  induction es generalizing s with
  | nil => exact .nil s
  | cons e es ih =>
    have hstep : s.Step e (s.exec e) := ⟨rfl, h ⟨s, e, s.exec e⟩ List.mem_cons_self⟩
    exact (Run.single hstep).append (ih _ fun x hx => h x (List.mem_cons_of_mem _ hx))

namespace Sample

def calibration : CalibrationSnapshot := ⟨"calibration_1", "Rig", "c", "/private/calibration_1"⟩

def job (jobRef datasetDate : String) (clips : List String) : JobCreation :=
  ⟨jobRef, datasetDate, clips, calibration, 0⟩

def failureRefs : FailureRefs := ⟨"failure_0", "diagnostic_0", "handoff_0"⟩

/-- The references that a recovery draws, all from the name of the run. -/
def recoveryRefs : RecoveryRefs where
  refs runRef := ⟨"failure_" ++ runRef, "diagnostic_" ++ runRef, "handoff_" ++ runRef⟩
  token runRef := "token_" ++ runRef

def claim : Event := .claim ⟨"worker_1", some "epoch_1", true, 120000⟩ recoveryRefs

def ledger (runRef step : String) : List Event :=
  [.call (.startRuntimeStep runRef step),
    .call (.finishRuntimeStep runRef step (.succeeded (some 0)) "diagnostic")]

def prepare (jobRef runRef datasetDate : String) (clips : List String) : List Event :=
  [.call (.createJob (job jobRef datasetDate clips) runRef ("create_" ++ jobRef)), claim] ++
    ledger runRef "initial_annotation" ++
    [.call (.completePrepare
      ⟨runRef, "/staging", clips.map fun c => ⟨c, "key_" ++ c, 640, 480⟩,
        some ["initial_annotation"]⟩
      ⟨fun n => jobRef ++ "_segment_" ++ toString n, "ready_" ++ jobRef, failureRefs⟩)]

def target : DraftAnnotationTarget :=
  ⟨"target_0123456789abcdef0123456789abcdef", some (0, 0, 10, 10), some (1, 1),
    ⟨some "red", some "blue", some "black"⟩⟩

def draft (jobRef segmentRef : String) : Event :=
  .call (.saveDraft ⟨jobRef, segmentRef, 0, none, [target]⟩ ("draft_" ++ segmentRef))

def submit (jobRef segmentRef : String) (revision : ℕ) : Event :=
  .call (.submitSegment ⟨jobRef, segmentRef, revision, 1⟩ ("submitted_" ++ segmentRef)
    ("submit_" ++ segmentRef))

def skip (jobRef segmentRef : String) (revision : ℕ) : Event :=
  .call (.segmentAction ⟨.skip, jobRef, segmentRef, revision, some "no_target", none⟩
    ("skip_" ++ segmentRef))

end Sample

end DataJuicer.Annotation
