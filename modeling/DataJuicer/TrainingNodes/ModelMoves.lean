import DataJuicer.TrainingNodes.Commits

/-! # What one operation does to the models

A committed operation leaves the models, their revisions and their verification requests as they
are, or makes one of the moves below. The verification life cycle is proved from the moves.
-/

namespace DataJuicer.TrainingNodes

open Training (Timestamp)
open Transaction Table

structure ModelTables where
  families : Table FamilyRow
  models : Table ModelRow
  revisions : Table RevisionRow
  verifications : Table VerificationRow

def Centre.modelTables (c : Centre) : ModelTables :=
  ⟨c.families, c.models, c.revisions, c.verifications⟩

/-- The operations that write these tables. -/
def Op.WritesModels : Op → Prop
  | .deleteNode .. | .createModel .. | .updateModel .. | .requestVerification ..
  | .claimVerification .. | .finishVerification .. => True
  | _ => False

/-- The requests of a node after those with an expired lease are queued again. -/
def requeued (now : Timestamp) (nodeRef : String) (c : Centre) : Table VerificationRow :=
  (requeueVerifications now nodeRef c).verifications

/-- The move of a committed operation, with what it returns. -/
inductive ModelMove (c : Centre) : Op → Reply → ModelTables → Prop
  | same {op : Op} {r : Reply} (hop : ¬ op.WritesModels) : ModelMove c op r c.modelTables
  | created {now : Timestamp} {refs : ModelRefs} {d : ModelData} {r : Reply}
      {families : Table FamilyRow} {models : Table ModelRow} {revisions : Table RevisionRow}
      (h : NewModel now refs d c families models revisions) :
      ModelMove c (.createModel now refs d) r ⟨families, models, revisions, c.verifications⟩
  | edited {now : Timestamp} {familyRef : String} {rev : ℕ} {revisionRef : String}
      {d : ModelData} {r : Reply} {m : ModelRow} {revisions : Table RevisionRow}
      (hm : Expected familyRef rev m c) (hfresh : revision? m.modelRef (rev + 1) c = none)
      (hrevision : c.revisions.insert?
        (newRevision now revisionRef m.modelRef (rev + 1) d) = some revisions) :
      ModelMove c (.updateModel now familyRef rev revisionRef d) r
        (afterModelEdit now familyRef rev d m revisions c).modelTables
  | requested {now : Timestamp} {familyRef : String} {rev : ℕ} {verificationRef : String}
      {r : Reply} {m : ModelRow} {s : RevisionRow} {n : NodeRow}
      {verifications : Table VerificationRow}
      (hm : Expected familyRef rev m c) (hidle : openVerification? m.modelRef c = none)
      (hs : revision? m.modelRef rev c = some s)
      (hinsert : c.verifications.insert?
        (newVerification now verificationRef familyRef s n) = some verifications) :
      ModelMove c (.requestVerification now familyRef rev verificationRef) r
        ⟨c.families, c.models, c.revisions, verifications⟩
  | refused {now : Timestamp} {nodeRef workerId : String} :
      ModelMove c (.claimVerification now nodeRef workerId) (.command none) c.modelTables
  | idle {now : Timestamp} {nodeRef workerId : String} :
      ModelMove c (.claimVerification now nodeRef workerId) (.command none)
        ⟨c.families, c.models, c.revisions, requeued now nodeRef c⟩
  | claimed {now : Timestamp} {nodeRef workerId : String} {v : VerificationRow}
      (hv : v ∈ requeued now nodeRef c) (hqueued : v.status = .queued) :
      ModelMove c (.claimVerification now nodeRef workerId)
        (.command (some ⟨v.verificationRef, v.request⟩))
        ⟨c.families, c.models, c.revisions, (requeued now nodeRef c).update
            (fun x => x.verificationRef = v.verificationRef ∧ x.status = .queued)
            (VerificationRow.claim now workerId)⟩
  | judged {now : Timestamp} {q : VerificationReport} {v : VerificationRow} {m : ModelRow}
      (h : Reported q v m c) (hcurrent : CurrentFor v m c) (henabled : m.status ≠ .disabled) :
      ModelMove c (.finishVerification now q) (.verification q.status)
        ⟨c.families, judgedModels now q m c, c.revisions, finishedVerifications now q v c⟩
  | recorded {now : Timestamp} {q : VerificationReport} {v : VerificationRow} {m : ModelRow}
      (h : Reported q v m c) (hpast : ¬ (CurrentFor v m c ∧ m.status ≠ .disabled)) :
      ModelMove c (.finishVerification now q) (.verification q.status)
        ⟨c.families, c.models, c.revisions, finishedVerifications now q v c⟩
  | abandoned {now : Timestamp} {nodeRef : String} {rev : ℕ} {r : Reply} :
      ModelMove c (.deleteNode now nodeRef rev) r (removeNode now nodeRef c).modelTables

variable {c c' : Centre} {op : Op} {r : Reply}

theorem modelMove_claim {now : Timestamp} {nodeRef workerId : String} :
    ModelMove c (.claimVerification now nodeRef workerId)
      (.command (claimModelVerification now nodeRef workerId c).1)
      (claimModelVerification now nodeRef workerId c).2.modelTables := by
  unfold claimModelVerification
  split
  · dsimp only
    split
    · exact .idle
    · next v hv =>
      obtain ⟨hmem, -, hqueued⟩ := mem_select.1 (List.mem_of_mem_head? hv)
      exact .claimed hmem hqueued
  · exact .refused

theorem modelMove_of_perform (h : perform op c = .ok (r, c')) :
    ModelMove c op r c'.modelTables := by
  cases op with
  | createNode now nodeRef d =>
    obtain ⟨_, h, -⟩ := answer_eq_ok.1 h
    obtain ⟨nodes, -, rfl⟩ := createNode_eq_ok h
    exact .same id
  | updateNode now nodeRef rev e =>
    obtain ⟨_, h, -⟩ := answer_eq_ok.1 h
    obtain ⟨n, -, -, rfl, -⟩ := updateNode_eq_ok h
    have htables : (afterEdit now nodeRef e n c).modelTables = c.modelTables := by
      unfold afterEdit
      split <;> rfl
    rw [htables]
    exact .same id
  | assertIdle nodeRef =>
    obtain ⟨_, -, h⟩ := bind_eq_ok.1 h
    cases h
    exact .same id
  | deleteNode now nodeRef rev =>
    obtain ⟨_, hd, h⟩ := bind_eq_ok.1 h
    cases h
    obtain ⟨-, rfl⟩ := deleteNode_eq_ok hd
    exact .abandoned
  | createEnrollmentToken now q =>
    obtain ⟨_, h, -⟩ := answer_eq_ok.1 h
    obtain ⟨-, _, -, rfl⟩ := createEnrollmentToken_eq_ok h
    exact .same id
  | invalidateEnrollmentTokens now nodeRef =>
    cases h
    unfold invalidateNodeEnrollmentTokens
    split <;> exact .same id
  | enrollNode now q =>
    obtain ⟨_, h, -⟩ := answer_eq_ok.1 h
    obtain ⟨t, n, -, rfl, -⟩ := enrollNode_eq_ok h
    exact .same id
  | beginDeployment now nodeRef rev k =>
    obtain ⟨_, h, -⟩ := answer_eq_ok.1 h
    obtain ⟨f, hf, -, rfl⟩ := beginNodeDeployment_eq_ok h
    exact .same id
  | finishDeployment now nodeRef q =>
    obtain ⟨_, h, -⟩ := answer_eq_ok.1 h
    obtain ⟨f, hf, -, rfl⟩ := finishNodeDeployment_eq_ok h
    exact .same id
  | beginRemoval now nodeRef rev =>
    obtain ⟨_, h, -⟩ := answer_eq_ok.1 h
    obtain ⟨-, rfl⟩ := beginNodeWorkerRemoval_eq_ok h
    exact .same id
  | finishRemoval now nodeRef succeeded message =>
    obtain ⟨_, h, -⟩ := answer_eq_ok.1 h
    obtain ⟨f, hf, _, -, rfl⟩ := finishNodeWorkerRemoval_eq_ok h
    exact .same id
  | heartbeat now q =>
    obtain ⟨_, h, -⟩ := answer_eq_ok.1 h
    obtain ⟨-, rfl⟩ := recordNodeHeartbeat_eq_ok h
    exact .same id
  | createModel now refs d =>
    obtain ⟨_, h, -⟩ := answer_eq_ok.1 h
    obtain ⟨_, _, _, hnew, rfl⟩ := createModel_eq_ok h
    exact .created hnew
  | updateModel now familyRef rev revisionRef d =>
    obtain ⟨_, h, -⟩ := answer_eq_ok.1 h
    obtain ⟨m, _, hm, hfresh, hs, rfl⟩ := updateModel_eq_ok h
    exact .edited hm hfresh hs
  | requestVerification now familyRef rev verificationRef =>
    obtain ⟨_, h, -⟩ := answer_eq_ok.1 h
    obtain ⟨m, s, n, _, hm, hidle, hs, hv, rfl⟩ := requestModelVerification_eq_ok h
    exact .requested hm hidle hs hv
  | claimVerification now nodeRef workerId =>
    cases h
    exact modelMove_claim
  | finishVerification now q =>
    obtain ⟨st, hf, rfl⟩ := answer_eq_ok.1 h
    obtain ⟨v, m, hq, rfl, ⟨hcurrent, henabled, rfl⟩ | ⟨hpast, rfl⟩⟩ :=
      finishModelVerification_eq_ok hf
    · exact .judged hq hcurrent henabled
    · exact .recorded hq hpast
  | createRun now q =>
    obtain ⟨_, h, -⟩ := answer_eq_ok.1 h
    obtain ⟨_, -, rfl⟩ := createRun_eq_ok h
    exact .same id
  | completeRun now runRef status code message =>
    cases h
    have htables : (completeRun now runRef status code message c).modelTables =
        c.modelTables := by
      unfold completeRun
      split <;> rfl
    rw [htables]
    exact .same id

end DataJuicer.TrainingNodes
