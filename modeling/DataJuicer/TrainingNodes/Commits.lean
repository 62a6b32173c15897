import DataJuicer.TrainingNodes.Operations

/-! # The database after an operation

Each operation that commits, in terms of the database it leaves and of what its checks found.
-/

namespace DataJuicer.TrainingNodes

open Training (Timestamp tokenDigest)
open Transaction Table

variable {c c' : Centre} {now : Timestamp} {nodeRef : String} {rev : ℕ} {n view : NodeRow}

@[simp] theorem key_node (n : NodeRow) : key n = n.nodeRef := rfl
@[simp] theorem key_token (t : EnrollmentTokenRow) : key t = t.tokenSha256 := rfl
@[simp] theorem key_model (m : ModelRow) : key m = m.modelRef := rfl
@[simp] theorem key_verification (v : VerificationRow) : key v = v.verificationRef := rfl

theorem getNode_eq_ok (h : getNode now nodeRef c = .ok view) :
    ∃ n ∈ c.nodes, n.nodeRef = nodeRef ∧ view = safeNode now n := by
  obtain ⟨n, hn, h⟩ := bind_eq_ok.1 h
  cases h
  obtain ⟨hmem, href⟩ := find?_eq_some_iff.1 (orRaise_eq_ok.1 hn)
  exact ⟨n, hmem, href, rfl⟩

theorem withNode_eq_ok (h : withNode now nodeRef c = .ok (view, c')) :
    c' = c ∧ ∃ n ∈ c.nodes, n.nodeRef = nodeRef ∧ view = safeNode now n := by
  obtain ⟨_, hn, h⟩ := bind_eq_ok.1 h
  cases h
  exact ⟨rfl, getNode_eq_ok hn⟩

theorem expectedNode_eq_ok (h : expectedNode now nodeRef rev c = .ok n) :
    n ∈ c.nodes ∧ n.nodeRef = nodeRef ∧ n.stateRevision = rev := by
  obtain ⟨_, hn, h⟩ := bind_eq_ok.1 h
  obtain ⟨_, hrev, h⟩ := bind_eq_ok.1 h
  cases h
  obtain ⟨hmem, href⟩ := find?_eq_some_iff.1 (orRaise_eq_ok.1 hn)
  exact ⟨hmem, href, not_not.1 (raiseIf_eq_ok.1 hrev)⟩

theorem createNode_eq_ok {d : NodeData} (h : createNode now nodeRef d c = .ok (view, c')) :
    ∃ nodes, c.nodes.insert? (newNode now nodeRef d) = some nodes ∧ c' = { c with nodes } := by
  obtain ⟨nodes, hn, h⟩ := bind_eq_ok.1 h
  exact ⟨nodes, orRaise_eq_ok.1 hn, (withNode_eq_ok h).1⟩

def afterEdit (now : Timestamp) (nodeRef : String) (e : NodeEdit) (n : NodeRow) (c : Centre) :
    Centre :=
  setNode nodeRef (e.apply now)
    (if (e.apply now n).status = .disabled then consumeTokens now nodeRef c else c)
    fun n => Table.key_self n

theorem updateNode_eq_ok {e : NodeEdit} (h : updateNode now nodeRef rev e c = .ok (view, c')) :
    ∃ n ∈ c.nodes, n.nodeRef = nodeRef ∧ c' = afterEdit now nodeRef e n c ∧
      view = safeNode now (e.apply now n) := by
  obtain ⟨n, hn, h⟩ := bind_eq_ok.1 h
  obtain ⟨hmem, href, -⟩ := expectedNode_eq_ok hn
  obtain ⟨rfl, m, hm, hmref, rfl⟩ := withNode_eq_ok h
  refine ⟨n, hmem, href, rfl, ?_⟩
  have hkey : ∀ n, (e.apply now n).nodeRef = n.nodeRef := fun _ => rfl
  have hnodes : (setNode nodeRef (e.apply now) (if (e.apply now n).status = .disabled then
      consumeTokens now nodeRef c else c) hkey).nodes =
      c.nodes.update (fun n => n.nodeRef = nodeRef) (e.apply now) hkey := by
    split <;> rfl
  rw [hnodes] at hm
  have hn' : e.apply now n ∈ c.nodes.update (fun n => n.nodeRef = nodeRef) (e.apply now) hkey :=
    mem_update_of hmem href
  rw [eq_of_key hm hn' (hmref.trans href.symm)]

theorem deleteNode_eq_ok (h : deleteNode now nodeRef rev c = .ok c') :
    (∃ n ∈ c.nodes, n.nodeRef = nodeRef ∧ n.enrolledAt = none) ∧ c' = removeNode now nodeRef c := by
  obtain ⟨n, hn, h⟩ := bind_eq_ok.1 h
  obtain ⟨_, hhist, h⟩ := bind_eq_ok.1 h
  cases h
  obtain ⟨hmem, href, -⟩ := expectedNode_eq_ok hn
  refine ⟨⟨n, hmem, href, ?_⟩, rfl⟩
  by_contra henrolled
  exact raiseIf_eq_ok.1 hhist (.inl henrolled)

theorem createEnrollmentToken_eq_ok {q : TokenRequest} {t : IssuedToken}
    (h : createEnrollmentToken now q c = .ok (t, c')) :
    (∃ n ∈ c.nodes, n.nodeRef = q.nodeRef ∧ n.status ≠ .disabled) ∧
      ∃ enrollmentTokens, (consumeTokens now q.nodeRef c).enrollmentTokens.insert?
          (newToken now q) = some enrollmentTokens ∧
        c' = setNode q.nodeRef (fun n => { n with
          stateRevision := n.stateRevision + 1, updatedAt := now })
          { consumeTokens now q.nodeRef c with enrollmentTokens } := by
  obtain ⟨n, hn, h⟩ := bind_eq_ok.1 h
  obtain ⟨_, hstatus, h⟩ := bind_eq_ok.1 h
  obtain ⟨tokens, ht, h⟩ := bind_eq_ok.1 h
  obtain ⟨_, -, h⟩ := bind_eq_ok.1 h
  cases h
  obtain ⟨hmem, href, -⟩ := expectedNode_eq_ok hn
  exact ⟨⟨n, hmem, href, raiseIf_eq_ok.1 hstatus⟩, tokens, orRaise_eq_ok.1 ht, rfl⟩

structure Usable (now : Timestamp) (token : String) (t : EnrollmentTokenRow) (n : NodeRow)
    (c : Centre) : Prop where
  token_mem : t ∈ c.enrollmentTokens
  digest : t.tokenSha256 = tokenDigest token
  unconsumed : t.consumedAt = none
  unexpired : now < t.expiresAt
  node_mem : n ∈ c.nodes
  node : n.nodeRef = t.nodeRef
  enabled : n.status ≠ .disabled

theorem usableToken_eq_ok {token : String} {t : EnrollmentTokenRow}
    (h : usableToken now token c = .ok (t, n)) : Usable now token t n c := by
  obtain ⟨_, ht, h⟩ := bind_eq_ok.1 h
  obtain ⟨_, hn, h⟩ := bind_eq_ok.1 h
  obtain ⟨_, hopen, h⟩ := bind_eq_ok.1 h
  obtain ⟨_, hstatus, h⟩ := bind_eq_ok.1 h
  cases h
  obtain ⟨htmem, hdigest⟩ := find?_eq_some_iff.1 (orRaise_eq_ok.1 ht)
  obtain ⟨hnmem, hnode⟩ := find?_eq_some_iff.1 (orRaise_eq_ok.1 hn)
  have hopen := not_or.1 (raiseIf_eq_ok.1 hopen)
  exact ⟨htmem, hdigest, not_not.1 hopen.1, not_le.1 hopen.2, hnmem, hnode,
    raiseIf_eq_ok.1 hstatus⟩

def afterEnrollment (now : Timestamp) (q : Enrollment) (t : EnrollmentTokenRow) (c : Centre) :
    Centre :=
  setNode t.nodeRef (q.apply now) { c with
    enrollmentTokens := c.enrollmentTokens.update
      (fun r => r.tokenSha256 = t.tokenSha256 ∧ r.consumedAt = none)
      (fun r => { r with consumedAt := some now }) fun r => Table.key_self r }
    fun n => Table.key_self n

theorem enrollNode_eq_ok {q : Enrollment} {e : EnrolledNode}
    (h : enrollNode now q c = .ok (e, c')) :
    ∃ t n, Usable now q.enrollmentToken t n c ∧ c' = afterEnrollment now q t c ∧
      e = ⟨safeNode now (q.apply now n), q.workerToken⟩ := by
  obtain ⟨⟨t, n⟩, hu, h⟩ := bind_eq_ok.1 h
  obtain ⟨view, hview, h⟩ := bind_eq_ok.1 h
  cases h
  have hu := usableToken_eq_ok hu
  refine ⟨t, n, hu, by rw [hu.node]; rfl, ?_⟩
  obtain ⟨m, hm, hmref, rfl⟩ := getNode_eq_ok hview
  have hn : q.apply now n ∈ c.nodes.update (fun x => x.nodeRef = n.nodeRef) (q.apply now)
      fun _ => rfl :=
    mem_update_of hu.node_mem rfl
  rw [eq_of_key hm hn hmref]

theorem beginNodeWorkerRemoval_eq_ok
    (h : beginNodeWorkerRemoval now nodeRef rev c = .ok (view, c')) :
    (∃ n ∈ c.nodes, n.nodeRef = nodeRef) ∧ c' = setNode nodeRef (NodeRow.beginRemoval now)
      (consumeTokens now nodeRef c) := by
  obtain ⟨n, hn, h⟩ := bind_eq_ok.1 h
  obtain ⟨_, -, h⟩ := bind_eq_ok.1 h
  obtain ⟨_, -, h⟩ := bind_eq_ok.1 h
  obtain ⟨hmem, href, -⟩ := expectedNode_eq_ok hn
  exact ⟨⟨n, hmem, href⟩, (withNode_eq_ok h).1⟩

theorem authenticatedNode_eq_ok {token workerId : String}
    (h : authenticatedNode nodeRef token workerId c = .ok n) :
    n ∈ c.nodes ∧ n.nodeRef = nodeRef ∧ n.workerTokenSha256 = some (tokenDigest token) ∧
      n.workerInstanceId = some workerId := by
  obtain ⟨_, hn, h⟩ := bind_eq_ok.1 h
  obtain ⟨_, hcred, h⟩ := bind_eq_ok.1 h
  cases h
  obtain ⟨hmem, href⟩ := find?_eq_some_iff.1 (orRaise_eq_ok.1 hn)
  have hcred := not_or.1 (raiseIf_eq_ok.1 hcred)
  exact ⟨hmem, href, not_not.1 hcred.1, not_not.1 hcred.2⟩

theorem recordNodeHeartbeat_eq_ok {q : Heartbeat}
    (h : recordNodeHeartbeat now q c = .ok (view, c')) :
    (∃ n ∈ c.nodes, n.nodeRef = q.nodeRef ∧ n.status ≠ .disabled ∧
        n.workerTokenSha256 = some (tokenDigest q.workerToken)) ∧
      c' = setNode q.nodeRef (q.apply now) { c with
        resourceSnapshots := recentSnapshots q.nodeRef
          (c.resourceSnapshots ++ [⟨q.nodeRef, now, q.resources⟩]) } := by
  obtain ⟨n, hn, h⟩ := bind_eq_ok.1 h
  obtain ⟨_, hstatus, h⟩ := bind_eq_ok.1 h
  obtain ⟨hmem, href, htoken, -⟩ := authenticatedNode_eq_ok hn
  exact ⟨⟨n, hmem, href, raiseIf_eq_ok.1 hstatus, htoken⟩, (withNode_eq_ok h).1⟩

def KeepsCredential (f : NodeRow → NodeRow) : Prop :=
  ∀ n, (f n).workerTokenSha256 = n.workerTokenSha256

theorem finishNodeDeployment_eq_ok {q : DeploymentResult}
    (h : finishNodeDeployment now nodeRef q c = .ok (view, c')) :
    ∃ f hf, KeepsCredential f ∧ c' = setNode nodeRef f c hf := by
  obtain ⟨_, -, h⟩ := bind_eq_ok.1 h
  refine ⟨_, _, ?_, (withNode_eq_ok h).1⟩
  exact fun _ => rfl

theorem beginNodeDeployment_eq_ok {k : HostKey}
    (h : beginNodeDeployment now nodeRef rev k c = .ok (view, c')) :
    ∃ f hf, KeepsCredential f ∧ c' = setNode nodeRef f c hf := by
  obtain ⟨_, -, h⟩ := bind_eq_ok.1 h
  obtain ⟨_, -, h⟩ := bind_eq_ok.1 h
  obtain ⟨_, -, h⟩ := bind_eq_ok.1 h
  refine ⟨_, _, ?_, (withNode_eq_ok h).1⟩
  exact fun _ => rfl

theorem finishNodeWorkerRemoval_eq_ok {succeeded : Bool} {message : String}
    (h : finishNodeWorkerRemoval now nodeRef succeeded message c = .ok (view, c')) :
    ∃ f hf snapshots, (∀ n : NodeRow, (f n).workerTokenSha256 = none) ∧
      c' = setNode nodeRef f { c with resourceSnapshots := snapshots } hf := by
  obtain ⟨_, -, h⟩ := bind_eq_ok.1 h
  cases succeeded with
  | true => exact ⟨NodeRow.withoutWorker now message, _, _, fun _ => rfl, (withNode_eq_ok h).1⟩
  | false =>
    exact ⟨NodeRow.failRemoval now message, _, c.resourceSnapshots, fun _ => rfl,
      (withNode_eq_ok h).1⟩

theorem withModel_eq_ok {familyRef : String} {v : ModelView}
    (h : withModel familyRef c = .ok (v, c')) : c' = c := by
  obtain ⟨_, -, h⟩ := bind_eq_ok.1 h
  cases h
  rfl

theorem insertRevision_eq_ok {s : RevisionRow} (h : insertRevision s c = .ok c') :
    revision? s.modelRef s.revisionNumber c = none ∧
      ∃ revisions, c.revisions.insert? s = some revisions ∧ c' = { c with revisions } := by
  obtain ⟨_, hfresh, h⟩ := bind_eq_ok.1 h
  obtain ⟨revisions, hs, h⟩ := bind_eq_ok.1 h
  cases h
  exact ⟨not_not.1 (raiseIf_eq_ok.1 hfresh), revisions, orRaise_eq_ok.1 hs, rfl⟩

/-- The family, the model and the revision that `create_model` inserts. -/
structure NewModel (now : Timestamp) (refs : ModelRefs) (d : ModelData) (c : Centre)
    (families : Table FamilyRow) (models : Table ModelRow) (revisions : Table RevisionRow) :
    Prop where
  family : c.families.insert? ⟨refs.familyRef, d.familyName, some refs.modelRef, now, now⟩ =
    some families
  model : c.models.insert? (newModel now refs d) = some models
  fresh : revision? refs.modelRef 1 c = none
  revision : c.revisions.insert? (newRevision now refs.revisionRef refs.modelRef 1 d) =
    some revisions

theorem createModel_eq_ok {refs : ModelRefs} {d : ModelData} {v : ModelView}
    (h : createModel now refs d c = .ok (v, c')) : ∃ families models revisions,
      NewModel now refs d c families models revisions ∧
        c' = { c with families, models, revisions } := by
  obtain ⟨families, hf, h⟩ := bind_eq_ok.1 h
  obtain ⟨models, hm, h⟩ := bind_eq_ok.1 h
  obtain ⟨_, hr, h⟩ := bind_eq_ok.1 h
  obtain ⟨hfresh, revisions, hs, rfl⟩ := insertRevision_eq_ok hr
  exact ⟨families, models, revisions, ⟨orRaise_eq_ok.1 hf, orRaise_eq_ok.1 hm, hfresh, hs⟩,
    withModel_eq_ok h⟩

/-- The model that an edit or a verification of its current revision is about. -/
structure Expected (familyRef : String) (rev : ℕ) (m : ModelRow) (c : Centre) : Prop where
  current : currentModel? familyRef c = some m
  number : m.currentRevision = rev

def afterModelEdit (now : Timestamp) (familyRef : String) (rev : ℕ) (d : ModelData)
    (m : ModelRow) (revisions : Table RevisionRow) (c : Centre) : Centre :=
  { c with
    families := c.families.update (fun f => f.familyRef = familyRef)
      (fun f => { f with updatedAt := now }) fun f => Table.key_self f
    models := c.models.update (fun x => x.modelRef = m.modelRef) (ModelRow.edited now (rev + 1) d)
      fun x => Table.key_self x
    revisions := revisions }

theorem updateModel_eq_ok {familyRef revisionRef : String} {d : ModelData} {v : ModelView}
    (h : updateModel now familyRef rev revisionRef d c = .ok (v, c')) : ∃ m revisions,
      Expected familyRef rev m c ∧ revision? m.modelRef (rev + 1) c = none ∧
        c.revisions.insert? (newRevision now revisionRef m.modelRef (rev + 1) d) =
          some revisions ∧
        c' = afterModelEdit now familyRef rev d m revisions c := by
  obtain ⟨m, hm, h⟩ := bind_eq_ok.1 h
  obtain ⟨_, -, h⟩ := bind_eq_ok.1 h
  obtain ⟨_, hrev, h⟩ := bind_eq_ok.1 h
  obtain ⟨_, hr, h⟩ := bind_eq_ok.1 h
  obtain ⟨hfresh, revisions, hs, rfl⟩ := insertRevision_eq_ok hr
  exact ⟨m, revisions, ⟨orRaise_eq_ok.1 hm, not_not.1 (raiseIf_eq_ok.1 hrev)⟩, hfresh, hs,
    withModel_eq_ok h⟩

theorem verifiableModel_eq_ok {familyRef : String} {m : ModelRow}
    (h : verifiableModel familyRef rev c = .ok m) :
    Expected familyRef rev m c ∧ openVerification? m.modelRef c = none := by
  obtain ⟨m', hm, h⟩ := bind_eq_ok.1 h
  obtain ⟨_, hrev, h⟩ := bind_eq_ok.1 h
  obtain ⟨_, -, h⟩ := bind_eq_ok.1 h
  cases hopen : openVerification? m'.modelRef c with
  | none =>
    rw [hopen] at h
    cases h
    exact ⟨⟨orRaise_eq_ok.1 hm, not_not.1 (raiseIf_eq_ok.1 hrev)⟩, hopen⟩
  | some v =>
    rw [hopen] at h
    cases h

theorem requestModelVerification_eq_ok {familyRef verificationRef : String} {v : ModelView}
    (h : requestModelVerification now familyRef rev verificationRef c = .ok (v, c')) :
    ∃ m s n verifications, Expected familyRef rev m c ∧ openVerification? m.modelRef c = none ∧
      revision? m.modelRef rev c = some s ∧
      c.verifications.insert? (newVerification now verificationRef familyRef s n) =
        some verifications ∧ c' = { c with verifications } := by
  obtain ⟨m, hm, h⟩ := bind_eq_ok.1 h
  obtain ⟨s, hs, h⟩ := bind_eq_ok.1 h
  obtain ⟨n, -, h⟩ := bind_eq_ok.1 h
  obtain ⟨verifications, hv, h⟩ := bind_eq_ok.1 h
  obtain ⟨hexp, hopen⟩ := verifiableModel_eq_ok hm
  exact ⟨m, s, n, verifications, hexp, hopen, orRaise_eq_ok.1 hs, orRaise_eq_ok.1 hv,
    withModel_eq_ok h⟩

/-- A report that is accepted is about this request and this model. -/
structure Reported (q : VerificationReport) (v : VerificationRow) (m : ModelRow) (c : Centre) :
    Prop where
  request : v ∈ c.verifications
  command_ref : v.verificationRef = q.commandRef
  running : v.status = .running
  claimed : v.workerInstanceId = some q.workerInstanceId
  model : m ∈ c.models
  model_ref : m.modelRef = v.modelRef

theorem reportedVerification_eq_ok {q : VerificationReport} {v : VerificationRow} {m : ModelRow}
    (h : reportedVerification q c = .ok (v, m)) : Reported q v m c := by
  obtain ⟨n, -, h⟩ := bind_eq_ok.1 h
  obtain ⟨_, hv, h⟩ := bind_eq_ok.1 h
  obtain ⟨_, hm, h⟩ := bind_eq_ok.1 h
  obtain ⟨_, hclaim, h⟩ := bind_eq_ok.1 h
  cases h
  obtain ⟨hv, -⟩ := Option.filter_eq_some_iff.1 (orRaise_eq_ok.1 hv)
  obtain ⟨hvmem, href⟩ := find?_eq_some_iff.1 hv
  obtain ⟨hmmem, hmref⟩ := find?_eq_some_iff.1 (orRaise_eq_ok.1 hm)
  have hclaim := not_or.1 (raiseIf_eq_ok.1 hclaim)
  exact ⟨hvmem, href, not_not.1 hclaim.1, not_not.1 hclaim.2, hmmem, hmref⟩

def finishedVerifications (now : Timestamp) (q : VerificationReport) (v : VerificationRow)
    (c : Centre) : Table VerificationRow :=
  c.verifications.update (fun x => x.verificationRef = v.verificationRef)
    (VerificationRow.finish now q) fun x => Table.key_self x

def ModelRow.judged (now : Timestamp) (q : VerificationReport) (m : ModelRow) : ModelRow :=
  { m with status := if q.succeeded then .verified else .draft, updatedAt := now }

/-- The models after a report about the current revision of this model. -/
def judgedModels (now : Timestamp) (q : VerificationReport) (m : ModelRow) (c : Centre) :
    Table ModelRow :=
  c.models.update (fun x => x.modelRef = m.modelRef) (ModelRow.judged now q)
    fun x => Table.key_self x

theorem finishModelVerification_eq_ok {q : VerificationReport} {st : VerificationStatus}
    (h : finishModelVerification now q c = .ok (st, c')) : ∃ v m, Reported q v m c ∧
      st = q.status ∧
      (CurrentFor v m c ∧ m.status ≠ .disabled ∧ c' = { c with
          verifications := finishedVerifications now q v c, models := judgedModels now q m c } ∨
        ¬ (CurrentFor v m c ∧ m.status ≠ .disabled) ∧
          c' = { c with verifications := finishedVerifications now q v c }) := by
  obtain ⟨⟨v, m⟩, hv, h⟩ := bind_eq_ok.1 h
  refine ⟨v, m, reportedVerification_eq_ok hv, ?_⟩
  dsimp only at h
  by_cases hcurrent : CurrentFor v m c ∧ m.status ≠ .disabled
  · rw [if_pos hcurrent] at h
    cases h
    exact ⟨rfl, .inl ⟨hcurrent.1, hcurrent.2, rfl⟩⟩
  · rw [if_neg hcurrent] at h
    cases h
    exact ⟨rfl, .inr ⟨hcurrent, rfl⟩⟩

theorem createRun_eq_ok {q : Training.RunCreation} {v : Training.RunView}
    (h : createRun now q c = .ok (v, c')) : ∃ db,
      Training.createRun now q { c.runTables with registry := c.registry } = .ok (v, db) ∧
        c' = { c with runTables := { db with registry := c.runTables.registry } } := by
  unfold createRun at h
  split at h
  · next hrun =>
    cases h
    exact ⟨_, hrun, rfl⟩
  · cases h

end DataJuicer.TrainingNodes
