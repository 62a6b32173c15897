import DataJuicer.Navigation.WriterLockInterference

/-! # The calls of the writer lock under interference

One specification for each function of the lock: what it finds out about the markers while
its call holds the `flock`, and that its removals and bodies meet the guarantee.
-/

namespace DataJuicer.Navigation.WriterLock

open Prog

def contract (s : Setup) (c : CallId) : Contract World Answer :=
  ⟨exec (s.process c) c, Rely c, Guarantee s c⟩

/-- The operations that read and leave the shared state as it is. -/
def Op.Looks : Op → Prop
  | lstatParent | resolveParent | accessParent | lstatLock | openParent | openLock => True
  | fstatLock | fchmodLock | fsyncParent | tokenHex _ | unlockedBody | safeToClear => True
  | lstat _ | openMarker _ | fstat _ | read _ _ _ | stat _ | fchmod _ | fsync _ => True
  | _ => False

theorem Op.Looks.exec_eq {p : ProcessId} {c : CallId} {op : Op} (h : op.Looks) {w : World}
    {a : Answer op} {w' : World} (ha : exec p c w op a = some w') : w' = w := by
  unfold exec at ha
  split at ha
  all_goals first
    | exact h.elim
    | (cases ha; rfl)
    | (obtain rfl := looked_eq ha; rfl)
    | (split_ifs at ha; cases ha; rfl)
    | (split at ha <;> first | (split_ifs at ha; cases ha; rfl) | (cases ha; rfl) | cases ha)

theorem Op.Looks.guarantee {s : Setup} {c : CallId} {op : Op} (h : op.Looks) (w : World)
    (a : Answer op) (w' : World) : Guarantee s c w op a w' := by
  cases op <;> first | exact h.elim | trivial

theorem look_meets {s : Setup} {c : CallId} {ε α : Type} {P : World → Prop} {op : Op}
    {next : Answer op → Prog Answer ε α} {post : Except ε α → World → Prop} {w : World}
    (hlook : op.Looks) (hP : (contract s c).Stable P) (h : P w)
    (hnext : ∀ w a, P w → exec (s.process c) c w op a = some w →
      (next a).Meets (contract s c) post w) : (act op next).Meets (contract s c) post w := by
  refine meets_act hP h fun w a w' hw ha => ?_
  obtain rfl := hlook.exec_eq ha
  exact ⟨hlook.guarantee _ _ _, hnext _ a hw ha⟩

theorem looks_keeps {s : Setup} {c : CallId} {ε α : Type} {P : World → Prop}
    {p : Prog Answer ε α} (hp : p.AllOps Op.Looks) (hP : (contract s c).Stable P) {w : World}
    (h : P w) : p.Meets (contract s c) (fun _ w => P w) w := by
  refine hp.keeps (fun op hop w a w' hw ha => ?_) hP h
  obtain rfl := hop.exec_eq ha
  exact ⟨hw, hop.guarantee _ _ _⟩

theorem looks_wrapped {β : Type} (message : String) (r : Except OSError β) :
    (wrapped message r).AllOps Op.Looks := by
  cases r <;> trivial

theorem looks_raw {β : Type} (r : Except OSError β) : (raw r).AllOps Op.Looks := by
  cases r <;> trivial

theorem looks_raiseIf (q : Prop) [Decidable q] (e : WriterLockError) :
    (raiseIf q e : FileProg Unit).AllOps Op.Looks := by
  unfold raiseIf
  split_ifs <;> trivial

theorem looks_perform {op : Op} (h : op.Looks) : (perform op).AllOps Op.Looks :=
  ⟨h, fun _ => trivial⟩

theorem allOps_discard {α : Type} {Q : Op → Prop} {p : FileProg α} (h : p.AllOps Q) :
    (discard p).AllOps Q :=
  h.bind fun _ => trivial

theorem looks_validateWriterLockPath (path : LockPath) :
    (validateWriterLockPath path).AllOps Op.Looks := by
  refine (looks_raiseIf _ _).bind fun _ => ?_
  refine AllOps.bind (looks_perform ⟨⟩) fun a => (looks_wrapped _ a).bind fun parent => ?_
  refine AllOps.bind (looks_perform ⟨⟩) fun a => (looks_wrapped _ a).bind fun resolved => ?_
  refine (looks_raiseIf _ _).bind fun _ => AllOps.bind (looks_perform ⟨⟩) fun accessible => ?_
  refine (looks_raiseIf _ _).bind fun _ => AllOps.bind (looks_perform ⟨⟩) fun lock => ?_
  split
  · trivial
  · trivial
  · exact (looks_raiseIf _ _).bind fun _ => looks_raiseIf _ _

theorem looks_openLockFile (path : LockPath) : (openLockFile path).AllOps Op.Looks := by
  refine (looks_validateWriterLockPath path).bind fun _ => ?_
  refine AllOps.bind (looks_perform ⟨⟩) fun a => (looks_wrapped _ a).bind fun _ => ?_
  refine AllOps.bind (looks_perform ⟨⟩) fun a => (looks_wrapped _ a).bind fun _ => ?_
  refine AllOps.bind (looks_perform ⟨⟩) fun a => (looks_raw a).bind fun metadata => ?_
  exact (looks_raiseIf _ _).bind fun _ => AllOps.bind (looks_perform ⟨⟩) fun a => looks_raw a

theorem looks_validateQuarantineMarker (path : MarkerName) :
    (validateQuarantineMarker path).AllOps Op.Looks := by
  refine AllOps.bind (looks_perform ⟨⟩) fun a => (looks_wrapped _ a).bind fun metadata => ?_
  exact (looks_raiseIf _ _).bind fun _ => trivial

theorem looks_openParentDescriptor : openParentDescriptor.AllOps Op.Looks :=
  AllOps.bind (looks_perform ⟨⟩) fun a => looks_wrapped _ a

/-- Call `c` has the `flock`, which it took when there had been `n` markers. -/
structure Held (c : CallId) (n : ℕ) (w : World) : Prop where
  flock : w.flock = some (.call c)
  since : w.flockSince = n
  created : n ≤ w.created
  counted : ∀ f ∈ w.files, f.serial < w.created

/-- An assertion that interference keeps and that says the lock is held. -/
structure Holding (s : Setup) (c : CallId) (n : ℕ) (P : World → Prop) : Prop where
  stable : (contract s c).Stable P
  held : ∀ w, P w → Held c n w

theorem Held.holding (s : Setup) (c : CallId) (n : ℕ) : Holding s c n (Held c n) where
  stable w w' hw hr := by
    obtain ⟨hflock, hsince, -⟩ := hr.held hw.flock
    exact ⟨hflock, hsince.trans hw.since, hw.created.trans hr.created, hr.counted hw.counted⟩
  held _ h := h

namespace Holding

variable {s : Setup} {c : CallId} {n : ℕ} {P : World → Prop}

theorem and (hP : Holding s c n P) {Q : World → Prop} (hQ : (contract s c).Stable Q) :
    Holding s c n fun w => P w ∧ Q w where
  stable := hP.stable.and hQ
  held w h := hP.held w h.1

/-- A marker that was seen stays, as its content grows. -/
theorem exists_marker (hP : Holding s c n P) {Q : MarkerFile → Prop}
    (hQ : ∀ f f', f.Grew f' → Q f → Q f') :
    Holding s c n fun w => P w ∧ ∃ f ∈ w.files, Q f where
  stable w w' hw hr := by
    obtain ⟨hp, f, hf, hq⟩ := hw
    obtain ⟨-, -, hkept⟩ := hr.held (hP.held w hp).flock
    obtain ⟨f', hf', hgrew⟩ := hkept f hf
    exact ⟨hP.stable w w' hp hr, f', hf', hQ f f' hgrew hq⟩
  held w h := hP.held w h.1

/-- Markers of some names that were seen absent are younger than the lock. -/
theorem fresh (hP : Holding s c n P) (q : MarkerName → Prop) :
    Holding s c n fun w => P w ∧ ∀ f ∈ w.files, q f.name → n ≤ f.serial where
  stable w w' hw hr := by
    obtain ⟨hp, hall⟩ := hw
    refine ⟨hP.stable w w' hp hr, fun f' hf' hq => ?_⟩
    rcases hr.fresh f' hf' with ⟨f, hf, hgrew⟩ | hle
    · rw [hgrew.serial]
      exact hall f hf (hgrew.name ▸ hq)
    · exact (hP.held w hp).created.trans hle
  held w h := hP.held w h.1

end Holding

/-- A result under an assertion: what it tells when there is one. -/
def Yields {ε α : Type} (P : World → Prop) (R : α → World → Prop) (r : Except ε α) (w : World) :
    Prop := P w ∧ ∀ a, r = .ok a → R a w

section Yields

variable {s : Setup} {c : CallId} {ε α β : Type} {P P₁ : World → Prop} {R : α → World → Prop}
  {R' : β → World → Prop} {w : World}

theorem yields_error {e : ε} (hP : (contract s c).Stable P) (h : P w) :
    (done (.error e) : Prog Answer ε α).Meets (contract s c) (Yields P R) w :=
  meets_done hP h fun _ h => ⟨h, fun _ he => nomatch he⟩

theorem yields_ok {a : α} (hP : (contract s c).Stable fun w => P w ∧ R a w) (h : P w)
    (hr : R a w) : (done (.ok a) : Prog Answer ε α).Meets (contract s c) (Yields P R) w := by
  refine meets_done hP ⟨h, hr⟩ fun w h => ⟨h.1, fun b hb => ?_⟩
  cases hb
  exact h.2

theorem yields_bind_of {p : Prog Answer ε α} {f : α → Prog Answer ε β}
    (h : p.Meets (contract s c) (Yields P₁ R) w) (hP : ∀ w, P₁ w → P w)
    (hf : ∀ a w, P₁ w → R a w → (f a).Meets (contract s c) (Yields P R') w) :
    (p.bind f).Meets (contract s c) (Yields P R') w :=
  h.bind (fun a w hw => hf a w hw.1 (hw.2 a rfl)) fun _ w hw =>
    ⟨hP w hw.1, fun _ he => nomatch he⟩

theorem yields_bind {p : Prog Answer ε α} {f : α → Prog Answer ε β}
    (h : p.Meets (contract s c) (Yields P R) w)
    (hf : ∀ a w, P w → R a w → (f a).Meets (contract s c) (Yields P R') w) :
    (p.bind f).Meets (contract s c) (Yields P R') w :=
  yields_bind_of h (fun _ h => h) hf

/-- A program that only looks, before the rest of a function. -/
theorem looks_bind {p : Prog Answer ε α} {f : α → Prog Answer ε β} (hp : p.AllOps Op.Looks)
    (hP : (contract s c).Stable P) (h : P w)
    (hf : ∀ a w, P w → (f a).Meets (contract s c) (Yields P R') w) :
    (p.bind f).Meets (contract s c) (Yields P R') w :=
  (looks_keeps hp hP h).bind hf fun _ _ hw => ⟨hw, fun _ he => nomatch he⟩

/-- The check of a condition, after which it is false. -/
theorem raiseIf_bind {q : Prop} [Decidable q] {e : WriterLockError} {f : Unit → FileProg β}
    (hP : (contract s c).Stable P) (h : P w)
    (hf : ¬ q → (f ()).Meets (contract s c) (Yields P R') w) :
    ((raiseIf q e).bind f).Meets (contract s c) (Yields P R') w := by
  unfold raiseIf
  split_ifs with hq
  · exact yields_error hP h
  · exact hf hq

end Yields

theorem World.opened_eq {w : World} {h : Handle} {f : MarkerFile} (hf : f ∈ w.files)
    (hname : f.name = h.name) (hserial : f.serial = h.serial) : w.opened h = some f := by
  have hfind : w.files.find? h.name = some f := Table.find?_eq_some_iff.2 ⟨hf, hname⟩
  simp [World.opened, hfind, hserial]

def Begins (h : Handle) (bytes : PyStr) (f : MarkerFile) : Prop :=
  f.name = h.name ∧ f.serial = h.serial ∧ bytes <+: f.content

theorem Begins.grew {h : Handle} {bytes : PyStr} (f f' : MarkerFile) (hf : f.Grew f')
    (hb : Begins h bytes f) : Begins h bytes f' :=
  ⟨hf.name.trans hb.1, hf.serial.trans hb.2.1, hb.2.2.trans hf.content⟩

section Reading

variable {s : Setup} {c : CallId} {n : ℕ} {P : World → Prop} {w : World}

theorem readChunks_meets (hP : Holding s c n P) {h : Handle} {fuel : ℕ} {payload : PyStr}
    (hw : P w) (hread : ∃ f ∈ w.files, Begins h payload f) :
    (readChunks h fuel payload).Meets (contract s c)
      (Yields P fun bytes w => ∃ f ∈ w.files, Begins h bytes f) w := by
  induction fuel generalizing payload w with
  | zero => exact yields_ok (hP.exists_marker Begins.grew).stable hw hread
  | succ fuel ih =>
    unfold readChunks
    split_ifs with hlong
    · exact yields_ok (hP.exists_marker Begins.grew).stable hw hread
    · refine look_meets (P := fun w => P w ∧ ∃ f ∈ w.files, Begins h payload f) trivial
        (hP.exists_marker Begins.grew).stable ⟨hw, hread⟩ fun w a hw ha => ?_
      obtain ⟨hw, f, hf, hname, hserial, hprefix⟩ := hw
      cases a with
      | error e => exact yields_error hP.stable hw
      | ok chunk =>
        have hopened := World.opened_eq hf hname hserial
        simp only [exec, hopened] at ha
        split_ifs at ha with hchunk
        have hnext : Begins h (payload ++ chunk) f := by
          refine ⟨hname, hserial, ?_⟩
          obtain ⟨rest, hrest⟩ := hprefix
          rw [← hrest, List.drop_left] at hchunk
          rw [← hrest]
          exact List.prefix_append_right_inj _ |>.2 hchunk.2.1
        change Meets _ _ (if chunk = [] then _ else _) w
        split_ifs
        · exact yields_ok (hP.exists_marker Begins.grew).stable hw
            ⟨f, hf, hname, hserial, hprefix⟩
        · exact ih hw ⟨f, hf, hnext⟩

def Carries (h : Handle) (token : PyStr) (f : MarkerFile) : Prop :=
  f.name = h.name ∧ ∃ bytes, bytes <+: f.content ∧ markerToken? bytes = some token

theorem Carries.grew {h : Handle} {token : PyStr} (f f' : MarkerFile) (hf : f.Grew f')
    (hc : Carries h token f) : Carries h token f' := by
  obtain ⟨hname, bytes, hb, ht⟩ := hc
  exact ⟨hf.name.trans hname, bytes, hb.trans hf.content, ht⟩

theorem readMarkerToken_meets (hP : Holding s c n P) {h : Handle} (hw : P w)
    (hopen : ∃ f ∈ w.files, Begins h [] f) :
    (readMarkerToken h).Meets (contract s c)
      (Yields P fun token w => ∃ f ∈ w.files, Carries h token f) w := by
  refine yields_bind (readChunks_meets hP hw hopen) fun bytes w hw hread => ?_
  obtain ⟨f, hf, hname, -, hprefix⟩ := hread
  cases htoken : markerToken? bytes with
  | none => exact yields_error hP.stable hw
  | some token =>
    exact yields_ok (hP.exists_marker Carries.grew).stable hw ⟨f, hf, hname, bytes, hprefix, htoken⟩

/-- `fstat` of an open marker told its device and inode. -/
def Stats (h : Handle) (metadata : FileStat) (f : MarkerFile) : Prop :=
  f.name = h.name ∧ f.serial = h.serial ∧ metadata.device = f.device ∧ metadata.inode = f.inode

theorem Stats.grew {h : Handle} {metadata : FileStat} (f f' : MarkerFile) (hf : f.Grew f')
    (hs : Stats h metadata f) : Stats h metadata f' :=
  ⟨hf.name.trans hs.1, hf.serial.trans hs.2.1, hs.2.2.1.trans hf.device.symm,
    hs.2.2.2.trans hf.inode.symm⟩

def Identified (path : MarkerName) (i : MarkerIdentity) (f : MarkerFile) : Prop :=
  f.name = path ∧ i.Names f

theorem Identified.grew {path : MarkerName} {i : MarkerIdentity} (f f' : MarkerFile)
    (hf : f.Grew f') (h : Identified path i f) : Identified path i f' :=
  ⟨hf.name.trans h.1, h.2.grew hf⟩

/-- While the lock is held, an inspection that succeeds is of the marker that is there. -/
theorem inspectMarker_meets (hP : Holding s c n P) (path : MarkerName) (hw : P w) :
    (inspectMarker path).Meets (contract s c)
      (Yields P fun i w => ∃ f ∈ w.files, Identified path i f) w := by
  refine look_meets trivial hP.stable hw fun w a hw ha => ?_
  cases a with
  | error e => exact yields_error hP.stable hw
  | ok h =>
    simp only [exec] at ha
    split at ha
    · next f hfind =>
      obtain ⟨hf, hname⟩ := Table.find?_eq_some_iff.1 hfind
      split_ifs at ha with hh
      have hopen : ∃ f ∈ w.files, Begins h [] f :=
        ⟨f, hf, hh ▸ hname, hh ▸ rfl, List.nil_prefix⟩
      refine look_meets trivial (hP.exists_marker Begins.grew).stable ⟨hw, hopen⟩
        fun w a hw ha => ?_
      obtain ⟨hw, hopen⟩ := hw
      cases a with
      | error e => exact yields_error hP.stable hw
      | ok metadata =>
        obtain ⟨f, hf, hname, hserial, -⟩ := id hopen
        simp only [exec, World.opened_eq hf hname hserial] at ha
        split_ifs at ha with hids
        have hP' : Holding s c n fun w => P w ∧ ∃ f ∈ w.files, Stats h metadata f :=
          hP.exists_marker Stats.grew
        have hw' : P w ∧ ∃ f ∈ w.files, Stats h metadata f :=
          ⟨hw, f, hf, hname, hserial, hids.1, hids.2⟩
        change ((readMarkerToken h).bind _).Meets _ _ w
        refine yields_bind_of (readMarkerToken_meets hP' hw' hopen) (fun _ hw => hw.1)
          fun token w hw htoken => ?_
        obtain ⟨hw, f, hf, hname, hserial, hdevice, hinode⟩ := hw
        obtain ⟨g, hg, hgname, hbytes⟩ := htoken
        -- one name, one marker
        obtain rfl : f = g := Table.eq_of_key hf hg (hname.trans hgname.symm)
        have hpath : f.name = path := hname.trans (by rw [hh])
        have hi : Identified path ⟨path, token, metadata.device, metadata.inode⟩ f :=
          ⟨hpath, hpath.symm, hdevice, hinode, hbytes⟩
        have hidentified : Holding s c n fun w => P w ∧ ∃ f ∈ w.files,
            Identified path ⟨path, token, metadata.device, metadata.inode⟩ f :=
          hP.exists_marker Identified.grew
        have hstable := hidentified.stable
        refine look_meets trivial hstable ⟨hw, f, hf, hi⟩ fun w a hw ha => ?_
        cases a with
        | error e => exact yields_error hP.stable hw.1
        | ok current => exact raiseIf_bind hP.stable hw.1 fun _ => yields_ok hstable hw.1 hw.2
    · cases ha

def Inspected (n : ℕ) (path : MarkerName) (w : World) : Option MarkerIdentity → Prop
  | some i => ∃ f ∈ w.files, Identified path i f
  | none => ∀ f ∈ w.files, f.name = path → n ≤ f.serial

theorem not_looked_missing {w : World} {path : MarkerName}
    (h : w.looked path (.error .fileNotFound) = some w) : ∀ f ∈ w.files, f.name ≠ path := by
  simp only [World.looked] at h
  split_ifs at h with hnone
  exact Table.find?_eq_none_iff.1 (Option.isNone_iff_eq_none.1 hnone)

/-- The first look alone tells a missing marker. -/
theorem validateQuarantineMarker_meets (hP : Holding s c n P) (path : MarkerName) (hw : P w) :
    (validateQuarantineMarker path).Meets (contract s c) (fun r w => P w ∧
      ∀ m, r = .error (.lock m (some .fileNotFound)) → Inspected n path w none) w := by
  refine look_meets trivial hP.stable hw fun w a hw ha => ?_
  cases a with
  | ok metadata =>
    change ((raiseIf _ _).bind _).Meets _ _ w
    unfold raiseIf
    split_ifs
    · exact meets_done hP.stable hw fun w hw => ⟨hw, fun m hm => by cases hm⟩
    · exact meets_done hP.stable hw fun w hw => ⟨hw, fun m hm => by cases hm⟩
  | error e =>
    by_cases he : e = .fileNotFound
    · subst he
      have hmissing := not_looked_missing ha
      refine meets_done (hP.fresh (· = path)).stable ⟨hw, fun f hf hname => ?_⟩
        fun w hw => ⟨hw.1, fun m _ => hw.2⟩
      exact absurd hname (hmissing f hf)
    · refine meets_done hP.stable hw fun w hw => ⟨hw, fun m hm => ?_⟩
      cases hm
      exact absurd rfl he

theorem markerIdentity_meets (hP : Holding s c n P) (path : MarkerName) (hw : P w) :
    (markerIdentity path).Meets (contract s c)
      (Yields P fun found w => Inspected n path w found) w := by
  refine (validateQuarantineMarker_meets hP path hw).attempt_bind fun r w hr => ?_
  obtain ⟨hw, hmissing⟩ := hr
  split
  · next m => exact yields_ok (hP.fresh (· = path)).stable hw (hmissing m rfl)
  · exact yields_error hP.stable hw
  · refine looks_bind looks_openParentDescriptor hP.stable hw fun _ w hw => ?_
    refine (inspectMarker_meets hP path hw).attempt_bind fun r w hr => ?_
    obtain ⟨hw, hfound⟩ := hr
    split
    · exact yields_error hP.stable hw
    · exact yields_error hP.stable hw
    · next i => exact yields_ok (hP.exists_marker Identified.grew).stable hw (hfound i rfl)

theorem Holding.present (hP : Holding s c n P) (identities : List MarkerIdentity) (k : ℕ) :
    Holding s c n fun w => P w ∧ Present identities k w where
  stable w w' hw hr :=
    ⟨hP.stable w w' hw.1 hr, hw.2.kept (hr.held (hP.held w hw.1).flock).2.2⟩
  held w h := hP.held w h.1

theorem Holding.inspected (hP : Holding s c n P) (path : MarkerName)
    (found : Option MarkerIdentity) : Holding s c n fun w => P w ∧ Inspected n path w found := by
  cases found with
  | none => exact hP.fresh (· = path)
  | some i => exact hP.exists_marker Identified.grew

/-- What inspecting listed markers tells: those found, or that none is older than the lock. -/
structure Listed (n k : ℕ) (names : List MarkerName) (w : World)
    (identities : List MarkerIdentity) : Prop where
  present : Present identities k w
  paths : (identities.map (·.path)).Sublist names
  unseen : identities = [] → ∀ f ∈ w.files, f.name ∈ names → n ≤ f.serial

theorem Holding.listed (hP : Holding s c n P) (k : ℕ) (names : List MarkerName)
    (identities : List MarkerIdentity) :
    Holding s c n fun w => P w ∧ Listed n k names w identities where
  stable w w' hw hr := by
    obtain ⟨hp, hpresent, hpaths, hunseen⟩ := hw
    refine ⟨hP.stable w w' hp hr, ?_, hpaths, fun hnil => ?_⟩
    · exact ((hP.present identities k).stable w w' ⟨hp, hpresent⟩ hr).2
    · exact ((hP.fresh (· ∈ names)).stable w w' ⟨hp, hunseen hnil⟩ hr).2
  held w h := hP.held w h.1

theorem markerIdentities_meets {k : ℕ} {names : List MarkerName} (hP : Holding s c n P)
    (hnames : ∀ w, P w → ∀ name ∈ names, ∃ f ∈ w.files, f.name = name ∧ f.serial < k)
    (hw : P w) :
    (markerIdentities names).Meets (contract s c)
      (Yields P fun identities w => Listed n k names w identities) w := by
  induction names generalizing P w with
  | nil =>
    exact yields_ok (hP.listed k [] []).stable hw ⟨by simp [Present], by simp, by simp⟩
  | cons path paths ih =>
    refine yields_bind (markerIdentity_meets hP path hw) fun found w hw hfound => ?_
    have hP' := hP.inspected path found
    refine yields_bind_of (ih hP' (fun w hw name hname => hnames w hw.1 name (by simp [hname]))
      ⟨hw, hfound⟩) (fun _ hw => hw.1) fun identities w hw hlisted => ?_
    obtain ⟨hw, hfound⟩ := hw
    refine yields_ok (hP.listed k (path :: paths) (found.toList ++ identities)).stable hw ?_
    cases found with
    | none =>
      refine ⟨hlisted.present, hlisted.paths.cons path, fun hnil f hf hname => ?_⟩
      rcases List.mem_cons.1 hname with hname | hname
      · exact hfound f hf hname
      · exact hlisted.unseen hnil f hf hname
    | some i =>
      obtain ⟨f, hf, hname, hnames'⟩ := hfound
      have hpath : i.path = path := hnames'.path.trans hname
      refine ⟨?_, ?_, fun hnil => by simp at hnil⟩
      · intro j hj
        rcases List.mem_cons.1 hj with rfl | hj
        · obtain ⟨g, hg, hgname, hlt⟩ := hnames w hw path (by simp)
          obtain rfl : f = g := Table.eq_of_key hf hg (hname.trans hgname.symm)
          exact ⟨f, hf, hnames', hlt⟩
        · exact hlisted.present j hj
      · simpa [hpath] using hlisted.paths

/-- What a capture tells: markers that were there by its scan, or that none is older. -/
structure Captures (s : Setup) (c : CallId) (n : ℕ) (w : World)
    (captured : WriterMarkerState × List MarkerIdentity) : Prop where
  state : ∃ active quarantines, captured.1 = markerState s.path.name active quarantines ∧
    captured.2 = active.toList ++ quarantines
  present : Present captured.2 (w.scannedAt c) w
  nodup : (captured.2.map (·.path)).Nodup
  unseen : captured.2 = [] → ∀ f ∈ w.files, n ≤ f.serial

theorem Holding.captures (hP : Holding s c n P)
    (captured : WriterMarkerState × List MarkerIdentity) :
    Holding s c n fun w => P w ∧ Captures s c n w captured where
  stable w w' hw hr := by
    obtain ⟨hp, hstate, hpresent, hnodup, hunseen⟩ := hw
    refine ⟨hP.stable w w' hp hr, hstate, ?_, hnodup, fun hnil f hf => ?_⟩
    · rw [hr.scanned]
      exact ((hP.present captured.2 _).stable w w' ⟨hp, hpresent⟩ hr).2
    · have hall : P w ∧ ∀ f ∈ w.files, (fun _ => True) f.name → n ≤ f.serial :=
        ⟨hp, fun f hf _ => hunseen hnil f hf⟩
      exact ((hP.fresh fun _ => True).stable w w' hall hr).2 f hf trivial
  held w h := hP.held w h.1

theorem Holding.scanned (hP : Holding s c n P) (k : ℕ) :
    Holding s c n fun w => P w ∧ w.scannedAt c = k :=
  hP.and fun _ _ hw hr => hr.scanned.trans hw

theorem Holding.names (hP : Holding s c n P) (names : List MarkerName) (k : ℕ) :
    Holding s c n fun w =>
      P w ∧ ∀ name ∈ names, ∃ f ∈ w.files, f.name = name ∧ f.serial < k where
  stable w w' hw hr := by
    obtain ⟨hp, hall⟩ := hw
    refine ⟨hP.stable w w' hp hr, fun name hname => ?_⟩
    obtain ⟨f, hf, hfname, hlt⟩ := hall name hname
    obtain ⟨f', hf', hgrew⟩ := (hr.held (hP.held w hp).flock).2.2 f hf
    exact ⟨f', hf', hgrew.name.trans hfname, hgrew.serial ▸ hlt⟩
  held w h := hP.held w h.1

theorem nodup_names (files : Table MarkerFile) :
    ((files.rows.map (·.name)).filter (·.isQuarantine)).Nodup :=
  files.nodup_keys.filter _

/-- Between two looks at the directory the markers of the lock holder do not change. -/
theorem captureMarkerState_meets (hP : Holding s c n P)
    (hscan : ∀ w k, P w → P { w with scannedAt := Function.update w.scannedAt c k }) (hw : P w) :
    (captureMarkerState s.path.name).Meets (contract s c)
      (Yields P fun captured w => Captures s c n w captured) w := by
  refine yields_bind (markerIdentity_meets hP .active hw) fun active w hw hactive => ?_
  refine meets_act (hP.inspected .active active).stable ⟨hw, hactive⟩
    fun w a w' hw ha => ⟨trivial, ?_⟩
  obtain ⟨hw, hactive⟩ := hw
  cases a with
  | error e =>
    cases ha
    exact yields_error hP.stable hw
  | ok names =>
    simp only [contract, exec] at ha
    split_ifs at ha with hnames
    cases ha
    set w' : World := { w with scannedAt := Function.update w.scannedAt c w.created }
    have hp : P w' := hscan w w.created hw
    change ((markerIdentities _).bind _).Meets _ _ w'
    set sorted := names.insertionSort fun a b => a.fileName s.path.name ≤ b.fileName s.path.name
    have hperm : sorted.Perm names := List.perm_insertionSort _ _
    have hmem : ∀ name, name ∈ sorted ↔ name.isQuarantine ∧ ∃ f ∈ w.files, f.name = name := by
      intro name
      rw [hperm.mem_iff, hnames]
      simp [and_comm]
    have hcounted := (hP.held w hw).counted
    -- what the scan saw stays true while the lock is held
    have hP₂ := ((((hP.inspected .active active).scanned w.created).present active.toList
      w.created).names sorted w.created).fresh fun name => name.isQuarantine ∧ name ∉ sorted
    have hw₂ : (((((P w' ∧ Inspected n .active w' active) ∧ w'.scannedAt c = w.created) ∧
        Present active.toList w.created w') ∧
        ∀ name ∈ sorted, ∃ f ∈ w'.files, f.name = name ∧ f.serial < w.created) ∧
        ∀ f ∈ w'.files, (f.name.isQuarantine ∧ f.name ∉ sorted) → n ≤ f.serial) := by
      refine ⟨⟨⟨⟨⟨hp, hactive⟩, Function.update_self _ _ _⟩, ?_⟩, ?_⟩, ?_⟩
      · intro i hi
        cases active with
        | none => simp at hi
        | some j =>
          obtain rfl : i = j := by simpa using hi
          obtain ⟨f, hf, hi⟩ := hactive
          exact ⟨f, hf, hi.2, hcounted f hf⟩
      · intro name hname
        obtain ⟨-, f, hf, hfname⟩ := (hmem name).1 hname
        exact ⟨f, hf, hfname, hcounted f hf⟩
      · rintro f hf ⟨hquarantine, hnot⟩
        exact absurd ((hmem f.name).2 ⟨hquarantine, f, hf, rfl⟩) hnot
    refine yields_bind_of (markerIdentities_meets (k := w.created) hP₂ (fun _ hw => hw.1.2) hw₂)
      (fun _ hw => hw.1.1.1.1.1) fun quarantines w'' hw hlisted => ?_
    obtain ⟨⟨⟨⟨⟨hw, hactive⟩, hscanned⟩, hpresent⟩, -⟩, hother⟩ := hw
    have hcaptures : Captures s c n w''
        (markerState s.path.name active quarantines, active.toList ++ quarantines) := by
      constructor
      · exact ⟨active, quarantines, rfl, rfl⟩
      · intro i hi
        rw [hscanned]
        rcases List.mem_append.1 hi with hi | hi
        · exact hpresent i hi
        · exact hlisted.present i hi
      · have hsorted : sorted.Nodup := hperm.nodup_iff.2 (hnames ▸ nodup_names w.files)
        have hquarantines := hsorted.sublist hlisted.paths
        cases active with
        | none => exact hquarantines
        | some i =>
          obtain ⟨f, -, hname, hi⟩ := hactive
          refine List.nodup_cons.2 ⟨fun hin => ?_, hquarantines⟩
          have hpath : i.path = .active := hi.path.trans hname
          have hin : i.path.isQuarantine = true := ((hmem _).1 (hlisted.paths.subset hin)).1
          simp [hpath, MarkerName.isQuarantine] at hin
      · intro hnil f hf
        obtain ⟨hnone, rfl⟩ := List.append_eq_nil_iff.1 hnil
        obtain rfl : active = none := Option.toList_eq_nil_iff.1 hnone
        by_cases hactive' : f.name = .active
        · exact hactive f hf hactive'
        · by_cases hin : f.name ∈ sorted
          · exact hlisted.unseen rfl f hf hin
          · refine hother f hf ⟨?_, hin⟩
            cases hname : f.name with
            | active => exact absurd hname hactive'
            | quarantine recoveryRef => rfl
    refine raiseIf_bind hP.stable hw fun _ => raiseIf_bind hP.stable hw fun _ => ?_
    exact yields_ok (hP.captures _).stable hw hcaptures

theorem navigationWriterQuarantinePresent_meets (hP : Holding s c n P)
    (hscan : ∀ w k, P w → P { w with scannedAt := Function.update w.scannedAt c k }) (hw : P w) :
    (navigationWriterQuarantinePresent s.path).Meets (contract s c)
      (Yields P fun present w => present = false → ∀ f ∈ w.files, n ≤ f.serial) w := by
  change (((validateWriterLockPath s.path).bind _).bind _).Meets _ _ w
  rw [bind_assoc]
  refine looks_bind (looks_validateWriterLockPath s.path) hP.stable hw fun _ w hw => ?_
  change (((captureMarkerState s.path.name).bind _).bind _).Meets _ _ w
  rw [bind_assoc]
  refine yields_bind (captureMarkerState_meets hP hscan hw) fun captured w hw hcaptures => ?_
  refine meets_done (hP.captures captured).stable ⟨hw, hcaptures⟩ fun w hw => ⟨hw.1, ?_⟩
  rintro present hpresent hfalse
  cases hpresent
  obtain ⟨active, quarantines, hstate, hids⟩ := hw.2.state
  refine hw.2.unseen ?_
  rw [hstate] at hfalse
  rw [hids]
  simp only [markerState, Bool.or_eq_false_iff, Bool.not_eq_false', List.isEmpty_iff] at hfalse
  obtain ⟨hactive, rfl⟩ := hfalse
  cases active <;> simp_all

end Reading

section Removing

variable {s : Setup} {c : CallId} {n : ℕ} {P Q : World → Prop} {w : World}

theorem looks_readChunks (h : Handle) (fuel : ℕ) (payload : PyStr) :
    (readChunks h fuel payload).AllOps Op.Looks := by
  induction fuel generalizing payload with
  | zero => trivial
  | succ fuel ih =>
    unfold readChunks
    split_ifs
    · trivial
    · refine AllOps.bind (looks_perform ⟨⟩) fun a => (looks_raw a).bind fun chunk => ?_
      split_ifs
      · trivial
      · exact ih _

theorem looks_readMarkerToken (h : Handle) : (readMarkerToken h).AllOps Op.Looks := by
  refine (looks_readChunks h 258 []).bind fun bytes => ?_
  split <;> trivial

/-- A removal: `P` until the marker is gone, `Q` from then on. -/
theorem removeQuarantineMarker_meets (hP : (contract s c).Stable P) (hQ : (contract s c).Stable Q)
    (hPQ : ∀ w, P w → Q w) (expected : MarkerIdentity)
    (hflock : ∀ w, P w → w.flock = some (.call c))
    (hmay : ∀ w f, P w → w.files.find? expected.path = some f → MayRemove c w f)
    (hgone : ∀ w, P w → Q { w with files := w.files.delete fun f => f.name = expected.path })
    (hw : P w) :
    (removeQuarantineMarker expected).Meets (contract s c) (fun _ w => Q w) w := by
  have herror : ∀ w, P w → ∀ e, (done (.error e) : FileProg Bool).Meets (contract s c)
      (fun _ w => Q w) w := fun w hw e => meets_done hP hw fun w hw => hPQ w hw
  have hbind : ∀ {β : Type} {p : FileProg β} {f : β → FileProg Bool} {w : World},
      p.AllOps Op.Looks → P w → (∀ b w, P w → (f b).Meets (contract s c) (fun _ w => Q w) w) →
      (p.bind f).Meets (contract s c) (fun _ w => Q w) w :=
    fun hp hw hf => (looks_keeps hp hP hw).bind hf fun e w hw => hPQ w hw
  refine (looks_keeps (looks_validateQuarantineMarker expected.path) hP hw).attempt_bind
    fun r w hw => ?_
  split
  · exact meets_done hP hw fun w hw => hPQ w hw
  · exact herror w hw _
  · refine hbind looks_openParentDescriptor hw fun _ w hw => ?_
    refine hbind (looks_perform ⟨⟩) hw fun a w hw => hbind (looks_wrapped _ a) hw
      fun handle w hw => ?_
    refine hbind (looks_perform ⟨⟩) hw fun a w hw => hbind (looks_raw a) hw fun metadata w hw => ?_
    refine hbind (looks_raiseIf _ _) hw fun _ w hw => hbind (looks_raiseIf _ _) hw fun _ w hw => ?_
    refine hbind (looks_readMarkerToken handle) hw fun token w hw => ?_
    refine hbind (looks_raiseIf _ _) hw fun _ w hw => ?_
    refine hbind (looks_perform ⟨⟩) hw fun a w hw => hbind (looks_raw a) hw fun current w hw => ?_
    refine hbind (looks_raiseIf _ _) hw fun _ w hw => ?_
    refine meets_act hP hw fun w a w' hw ha => ?_
    cases a with
    | error e =>
      cases ha
      exact ⟨trivial, herror w hw _⟩
    | ok _ =>
      simp only [contract, exec] at ha
      split_ifs at ha
      cases ha
      refine ⟨⟨hflock w hw, fun f hf => hmay w f hw hf⟩, ?_⟩
      have hsync : ((perform .fsyncParent).bind fun a => (raw a).bind fun _ =>
          (done (.ok true) : FileProg Bool)).AllOps Op.Looks :=
        AllOps.bind (looks_perform ⟨⟩) fun a => (looks_raw a).bind fun _ => trivial
      exact looks_keeps hsync hQ (hgone w hw)

/-- The operations that write to a marker disturb no assertion. -/
def Op.Writes : Op → Prop
  | create _ | write _ _ => True
  | op => op.Looks

theorem exec_error_create {p : ProcessId} {w w' : World} {name : MarkerName} {e : OSError}
    (h : exec p c w (.create name) (.error e) = some w') : w' = w := by
  cases e with
  | fileExists =>
    simp only [exec] at h
    split_ifs at h
    cases h
    rfl
  | _ => cases h; rfl

theorem Op.Writes.keeps {op : Op} (hop : op.Writes) (hP : (contract s c).Stable P) (w : World)
    (a : Answer op) (w' : World) (hw : P w) (ha : exec (s.process c) c w op a = some w') :
    P w' ∧ Guarantee s c w op a w' := by
  by_cases hlook : op.Looks
  · obtain rfl := hlook.exec_eq ha
    exact ⟨hw, hlook.guarantee _ _ _⟩
  cases op with
  | create name =>
    refine ⟨?_, trivial⟩
    cases a with
    | error e => exact exec_error_create ha ▸ hw
    | ok file =>
      simp only [exec] at ha
      split_ifs at ha
      obtain ⟨files, hfiles, rfl⟩ := Option.map_eq_some_iff.1 ha
      exact hP _ _ hw (rely_create hfiles)
  | write h payload =>
    refine ⟨?_, trivial⟩
    cases a with
    | error e =>
      cases ha
      exact hw
    | ok written =>
      simp only [exec] at ha
      split_ifs at ha
      cases ha
      exact hP _ _ hw (rely_append h _)
  | _ => exact absurd hop hlook

theorem writes_of_looks {ε α : Type} {p : Prog Answer ε α} (h : p.AllOps Op.Looks) :
    p.AllOps Op.Writes :=
  h.mono fun op hop => by cases op <;> first | exact hop | trivial

theorem writes_writeAll (h : Handle) (skip : ℕ) (bytes : PyStr) :
    (writeAll h skip bytes).AllOps Op.Writes := by
  induction bytes generalizing skip with
  | nil => cases skip <;> trivial
  | cons b bytes ih =>
    cases skip with
    | zero => exact ⟨trivial, fun a => (writes_of_looks (looks_raw a)).bind fun written => ih _⟩
    | succ skip => exact ih skip

/-- The rest of a creation once the file is there. -/
theorem writes_fill (handle : Handle) (name : MarkerName) (token : PyStr) : (do
    writeAll handle 0 (PyStr.ofString "v1:" ++ token ++ [10])
    raw (← perform (.fchmod handle))
    raw (← perform (.fsync handle))
    let metadata ← raw (← perform (.fstat handle))
    raw (← perform .fsyncParent)
    return (⟨name, token, metadata.device, metadata.inode⟩ : MarkerIdentity)).AllOps Op.Writes := by
  refine (writes_writeAll handle 0 _).bind fun _ => writes_of_looks ?_
  refine AllOps.bind (looks_perform ⟨⟩) fun a => (looks_raw a).bind fun _ => ?_
  refine AllOps.bind (looks_perform ⟨⟩) fun a => (looks_raw a).bind fun _ => ?_
  refine AllOps.bind (looks_perform ⟨⟩) fun a => (looks_raw a).bind fun metadata => ?_
  exact AllOps.bind (looks_perform ⟨⟩) fun a => (looks_raw a).bind fun _ => trivial

theorem writes_createMarker (name : MarkerName) : (createMarker name).AllOps Op.Writes := by
  refine (writes_of_looks (@looks_perform (.tokenHex 32) ⟨⟩)).bind fun token => ?_
  refine (writes_of_looks looks_openParentDescriptor).bind fun _ => ⟨trivial, fun a => ?_⟩
  change (Prog.bind (done (.ok a)) _).AllOps Op.Writes
  rw [done_ok_bind]
  split
  · exact (writes_of_looks (allOps_discard (looks_validateQuarantineMarker name))).bind
      fun _ => trivial
  · trivial
  · next handle file => exact writes_fill handle name token

/-- After a creation that returns, the marker is there. -/
theorem createMarker_meets (hP : Holding s c n P) (name : MarkerName) (hw : P w) :
    (createMarker name).Meets (contract s c)
      (Yields P fun _ w => ∃ f ∈ w.files, f.name = name) w := by
  have hP' := hP.exists_marker (Q := fun f => f.name = name) fun f f' hf h => hf.name.trans h
  refine looks_bind (looks_perform ⟨⟩) hP.stable hw fun token w hw => ?_
  refine looks_bind looks_openParentDescriptor hP.stable hw fun _ w hw => ?_
  refine meets_act hP.stable hw fun w a w' hw ha => ⟨trivial, ?_⟩
  cases a with
  | error e =>
    obtain rfl := exec_error_create ha
    by_cases he : e = .fileExists
    · subst he
      change ((discard (validateQuarantineMarker name)).bind _).Meets _ _ _
      exact looks_bind (allOps_discard (looks_validateQuarantineMarker name)) hP.stable hw
        fun _ w hw => yields_error hP.stable hw
    · cases e <;> first
        | exact absurd rfl he
        | (change (done _).Meets _ _ _; exact yields_error hP.stable hw)
  | ok file =>
    obtain ⟨handle, device, inode⟩ := file
    simp only [contract, exec] at ha
    split_ifs at ha
    obtain ⟨files, hfiles, rfl⟩ := Option.map_eq_some_iff.1 ha
    have hcreated : ∃ f ∈ files, f.name = name :=
      ⟨_, (Table.mem_insert? hfiles).2 (.inr rfl), rfl⟩
    refine ((writes_fill handle name token).keeps (fun op hop w a w' hw ha => ?_) hP'.stable
      ⟨hP.stable _ _ hw (rely_create hfiles), hcreated⟩).mono fun r w hw => ⟨hw.1, fun _ _ => hw.2⟩
    exact hop.keeps hP'.stable w a w' hw ha

theorem createMarker_returns (name : MarkerName) : (createMarker name).Returns (·.path = name) := by
  refine Returns.bind _ fun token => Returns.bind _ fun _ => Returns.bind _ fun a => ?_
  split
  · exact Returns.bind _ fun _ _ h => nomatch h
  · exact fun _ h => nomatch h
  · refine Returns.bind _ fun _ => Returns.bind _ fun _ => Returns.bind _ fun _ => ?_
    refine Returns.bind _ fun _ => Returns.bind _ fun _ => Returns.bind _ fun _ => ?_
    refine Returns.bind _ fun metadata => Returns.bind _ fun _ => Returns.bind _ fun _ a h => ?_
    cases h
    rfl

end Removing

/-- Call `c` has not come to a body. -/
structure Idle (c : CallId) (w : World) : Prop where
  counted : ∀ f ∈ w.files, f.serial < w.created
  body : w.body c = .before
  clearance : w.clearance c = .before

/-- Call `c` is inside no body. -/
structure Resting (c : CallId) (w : World) : Prop where
  body : w.body c ≠ .inside
  clearance : ∀ captured, w.clearance c ≠ .inside captured

theorem Idle.resting {c : CallId} {w : World} (h : Idle c w) : Resting c w :=
  ⟨by simp [h.body], by simp [h.clearance]⟩

theorem stable_idle (s : Setup) (c : CallId) : (contract s c).Stable (Idle c) :=
  fun _ _ h hr => ⟨hr.counted h.counted, hr.body.trans h.body, hr.clearance.trans h.clearance⟩

theorem stable_resting (s : Setup) (c : CallId) : (contract s c).Stable (Resting c) :=
  fun _ _ h hr => ⟨hr.body ▸ h.body, hr.clearance ▸ h.clearance⟩

/-- The operations that neither remove a marker nor have to do with a body. -/
def Op.Quiet : Op → Prop
  | unlink _ | enterBody | leaveBody | enterClearance _ _ _ | leaveClearance => False
  | _ => True

/-- The quiet operations that do not take the lock. -/
def Op.Tail : Op → Prop
  | flock | tryFlock => False
  | op => op.Quiet

theorem Op.Tail.keeps {s : Setup} {c : CallId} {op : Op} (hop : op.Tail) (w : World)
    (a : Answer op) (w' : World) (hw : Resting c w)
    (ha : (contract s c).exec w op a = some w') :
    Resting c w' ∧ (contract s c).guar w op a w' := by
  constructor
  · have hchange := exec_change ha
    cases hchange with
    | unlink | enterBody | leaveBody | enterClearance | leaveClearance => exact hop.elim
    | _ => exact ⟨hw.body, hw.clearance⟩
  · cases op <;> first | exact hop.elim | exact ⟨hw.body, hw.clearance⟩ | trivial

theorem Op.Quiet.keeps {s : Setup} {c : CallId} {op : Op} (hop : op.Quiet) (w : World)
    (a : Answer op) (w' : World) (hw : Idle c w)
    (ha : (contract s c).exec w op a = some w') :
    Idle c w' ∧ (contract s c).guar w op a w' := by
  constructor
  · have hchange := exec_change ha
    cases hchange with
    | unlink | enterBody | leaveBody | enterClearance | leaveClearance => exact hop.elim
    | create inserted =>
      exact ⟨(rely_create (c := c) inserted).counted hw.counted, hw.body, hw.clearance⟩
    | append h bytes =>
      exact ⟨(rely_append (c := c) h bytes).counted hw.counted, hw.body, hw.clearance⟩
    | _ => exact ⟨hw.counted, hw.body, hw.clearance⟩
  · cases op <;> first
      | exact hop.elim
      | exact ⟨hw.body, hw.clearance⟩
      | exact ⟨hw.resting.body, hw.resting.clearance⟩
      | trivial

section Calls

variable {s : Setup} {c : CallId} {w : World}

theorem tail_keeps {ε α : Type} {p : Prog Answer ε α} (hp : p.AllOps Op.Tail)
    (hw : Resting c w) : p.Meets (contract s c) (fun _ w => Resting c w) w :=
  hp.keeps (fun _ hop w a w' => hop.keeps w a w') (stable_resting s c) hw

theorem quiet_keeps {ε α : Type} {p : Prog Answer ε α} (hp : p.AllOps Op.Quiet)
    (hw : Idle c w) : p.Meets (contract s c) (fun _ w => Idle c w) w :=
  hp.keeps (fun _ hop w a w' => hop.keeps w a w') (stable_idle s c) hw

theorem tail_of_looks {ε α : Type} {p : Prog Answer ε α} (h : p.AllOps Op.Looks) :
    p.AllOps Op.Tail :=
  h.mono fun op hop => by cases op <;> first | exact hop.elim | trivial

theorem quiet_of_writes {ε α : Type} {p : Prog Answer ε α} (h : p.AllOps Op.Writes) :
    p.AllOps Op.Quiet :=
  h.mono fun op hop => by cases op <;> first | exact hop.elim | trivial

theorem quiet_of_looks {ε α : Type} {p : Prog Answer ε α} (h : p.AllOps Op.Looks) :
    p.AllOps Op.Quiet :=
  quiet_of_writes (writes_of_looks h)

theorem tail_perform {op : Op} (h : op.Tail) : (perform op).AllOps Op.Tail :=
  ⟨h, fun _ => trivial⟩

theorem quiet_perform {op : Op} (h : op.Quiet) : (perform op).AllOps Op.Quiet :=
  ⟨h, fun _ => trivial⟩

theorem resting_bind {α β : Type} {p : FileProg α} {f : α → FileProg β}
    (hp : p.Meets (contract s c) (fun _ w => Resting c w) w)
    (hf : ∀ a w, Resting c w → (f a).Meets (contract s c) (fun _ w => Resting c w) w) :
    (p.bind f).Meets (contract s c) (fun _ w => Resting c w) w :=
  hp.bind hf fun _ _ h => h

theorem resting_discard {α : Type} {p : FileProg α}
    (hp : p.Meets (contract s c) (fun _ w => Resting c w) w) :
    (discard p).Meets (contract s c) (fun _ w => Resting c w) w :=
  resting_bind hp fun _ _ hw => meets_done (stable_resting s c) hw fun _ h => h

theorem resting_finallyDo {α : Type} {p : FileProg α} {cleanup : FileProg Unit}
    (hp : p.Meets (contract s c) (fun _ w => Resting c w) w) (hc : cleanup.AllOps Op.Tail) :
    (p.finallyDo cleanup).Meets (contract s c) (fun _ w => Resting c w) w := by
  refine hp.attempt_bind fun r w hw => resting_bind (tail_keeps hc hw) fun _ w hw => ?_
  exact meets_done (stable_resting s c) hw fun _ h => h

/-- What the holder of the lock knows before its body. -/
def Locked (c : CallId) (n : ℕ) (w : World) : Prop := Held c n w ∧ Idle c w

theorem Locked.holding (s : Setup) (c : CallId) (n : ℕ) : Holding s c n (Locked c n) :=
  (Held.holding s c n).and (stable_idle s c)

theorem Locked.scan {n : ℕ} (w : World) (k : ℕ) (h : Locked c n w) :
    Locked c n { w with scannedAt := Function.update w.scannedAt c k } :=
  ⟨⟨h.1.flock, h.1.since, h.1.created, h.1.counted⟩, ⟨h.2.counted, h.2.body, h.2.clearance⟩⟩

theorem Idle.lock (h : Idle c w) :
    Locked c w.created { w with flock := some (.call c), flockSince := w.created } :=
  ⟨⟨rfl, rfl, le_rfl, h.counted⟩, ⟨h.counted, h.body, h.clearance⟩⟩

/-- What a lease is taken with: the own active marker, and no marker older than the lock. -/
def Leased (c : CallId) (n : ℕ) (w : World) : Prop :=
  (Locked c n w ∧ ∀ f ∈ w.files, True → n ≤ f.serial) ∧ ∃ f ∈ w.files, f.name = .active

theorem Leased.holding (s : Setup) (c : CallId) (n : ℕ) : Holding s c n (Leased c n) :=
  ((Locked.holding s c n).fresh fun _ => True).exists_marker (Q := fun f => f.name = .active)
    fun _ _ hf h => hf.name.trans h

theorem acquireLease_meets (hw : Idle c w) :
    (acquireLease s.path).Meets (contract s c)
      (fun r w => Resting c w ∧
        ∀ lease, r = .ok lease → lease.path = .active ∧ ∃ n, Leased c n w) w := by
  refine meets_act (stable_idle s c) hw fun w a w' hw ha => ⟨⟨hw.body, hw.clearance⟩, ?_⟩
  cases a with
  | error e =>
    cases ha
    exact meets_done (stable_idle s c) hw fun w hw => ⟨hw.resting, fun _ h => nomatch h⟩
  | ok _ =>
    obtain ⟨-, rfl⟩ := takeFlock_eq ha
    have hP := Locked.holding s c w.created
    have hfresh := hP.fresh fun _ => True
    have hmeets : ((navigationWriterQuarantinePresent s.path).bind fun present =>
        (raiseIf present (.quarantined quarantinedMessage)).bind fun _ =>
          createMarker .active).Meets (contract s c)
        (Yields (Locked c w.created) fun lease w' => lease.path = .active ∧ Leased c w.created w')
        { w with flock := some (.call c), flockSince := w.created } := by
      refine yields_bind (navigationWriterQuarantinePresent_meets hP Locked.scan hw.lock)
        fun present w' hw' hpresent => ?_
      refine raiseIf_bind hP.stable hw' fun hnot => ?_
      have hall : ∀ f ∈ w'.files, True → w.created ≤ f.serial :=
        fun f hf _ => hpresent (by simpa using hnot) f hf
      refine ((createMarker_meets hfresh .active ⟨hw', hall⟩).returns
        (createMarker_returns .active)).mono fun r w'' hr => ⟨hr.1.1.1, fun lease h => ?_⟩
      exact ⟨hr.2 lease h, hr.1.1, hr.1.2 lease h⟩
    refine hmeets.mono fun r w' hr => ⟨hr.1.2.resting, fun lease h => ?_⟩
    obtain ⟨hpath, hleased⟩ := hr.2 lease h
    exact ⟨hpath, _, hleased⟩

/-- After the body: what its end found of the lease stays the most the lease can be. -/
structure Ended (c : CallId) (safe : Bool) (w : World) : Prop where
  body : w.body c = .ended safe
  clearance : w.clearance c = .before
  lease : w.leaseSafe c = true → safe = true

theorem stable_ended (s : Setup) (c : CallId) (safe : Bool) :
    (contract s c).Stable (Ended c safe) :=
  fun _ _ h hr => ⟨hr.body.trans h.body, hr.clearance.trans h.clearance,
    fun hsafe => h.lease (hr.safe hsafe)⟩

theorem Ended.resting {safe : Bool} (h : Ended c safe w) : Resting c w :=
  ⟨by simp [h.body], by simp [h.clearance]⟩

/-- The end of a body, with the lock still held and its own active marker. -/
def Leaving (c : CallId) (n : ℕ) (safe : Bool) (w : World) : Prop :=
  (Held c n w ∧ Ended c safe w) ∧ ∀ f ∈ w.files, f.name = .active → n ≤ f.serial

theorem Leaving.holding (s : Setup) (c : CallId) (n : ℕ) (safe : Bool) :
    Holding s c n (Leaving c n safe) :=
  ((Held.holding s c n).and (stable_ended s c safe)).fresh (· = .active)

/-- Inside the body, with the lock held. -/
def Inside (c : CallId) (n : ℕ) (w : World) : Prop :=
  (Held c n w ∧ w.body c = .inside ∧ w.clearance c = .before) ∧
    ∀ f ∈ w.files, f.name = .active → n ≤ f.serial

theorem Inside.holding (s : Setup) (c : CallId) (n : ℕ) : Holding s c n (Inside c n) := by
  refine ((Held.holding s c n).and fun w w' hw hr => ?_).fresh (· = .active)
  exact ⟨hr.body.trans hw.1, hr.clearance.trans hw.2⟩

theorem releaseLease_meets {n : ℕ} {safe : Bool} (lease : MarkerIdentity)
    (hlease : lease.path = .active) (hw : Leaving c n safe w) :
    (releaseLease lease).Meets (contract s c) (fun _ w => Resting c w) w := by
  have hclose : (discard (perform .close)).AllOps Op.Tail := allOps_discard (tail_perform ⟨⟩)
  refine look_meets trivial (Leaving.holding s c n safe).stable hw fun w a hw ha => ?_
  cases a with
  | false => exact tail_keeps hclose hw.1.2.resting
  | true =>
    simp only [exec] at ha
    split_ifs at ha with hsafe
    have htrue : safe = true := hw.1.2.lease hsafe.symm
    subst htrue
    have hremove : (removeQuarantineMarker lease).Meets (contract s c)
      (fun _ w => Resting c w) w := by
      refine removeQuarantineMarker_meets (Leaving.holding s c n true).stable (stable_resting s c)
        (fun w hw => hw.1.2.resting) lease (fun w hw => hw.1.1.flock) (fun w f hw hf => ?_)
        (fun w hw => ⟨hw.1.2.resting.body, hw.1.2.resting.clearance⟩) hw
      obtain ⟨hmem, hname⟩ := Table.find?_eq_some_iff.1 hf
      have hactive : f.name = .active := hname.trans hlease
      exact .inl ⟨hactive, hw.1.1.since ▸ hw.2 f hmem hactive, hw.1.2.body⟩
    change ((discard (removeQuarantineMarker lease)).bind _).Meets _ _ w
    exact resting_bind (resting_discard hremove) fun _ w hw => tail_keeps hclose hw

theorem holdLease_meets (hcall : s.call c = .writer true) (hw : Idle c w) :
    (holdLease s.path).Meets (contract s c) (fun _ w => Resting c w) w := by
  refine (looks_keeps (looks_openLockFile s.path) (stable_idle s c) hw).bind (fun _ w hw => ?_)
    fun e w hw => hw.resting
  refine (acquireLease_meets hw).attempt_bind fun r w hr => ?_
  obtain ⟨hresting, hlease⟩ := hr
  cases r with
  | error e =>
    exact tail_keeps ((allOps_discard (@tail_perform .close ⟨⟩)).bind fun _ => trivial) hresting
  | ok lease =>
    obtain ⟨hpath, n, hleased⟩ := hlease lease rfl
    refine meets_act (Leased.holding s c n).stable hleased fun w a w' hw ha => ?_
    obtain ⟨⟨⟨hheld, hidle⟩, hall⟩, hactive⟩ := hw
    cases ha
    refine ⟨⟨hcall, hheld.flock, hidle.body, hidle.clearance, hactive, fun f hf => ?_⟩, ?_⟩
    · rw [hheld.since]
      exact hall f hf trivial
    -- inside the body
    set w' : World := { w with
      body := Function.update w.body c .inside
      leaseSafe := Function.update w.leaseSafe c true }
    have hinside : Inside c n w' :=
      ⟨⟨⟨hheld.flock, hheld.since, hheld.created, hheld.counted⟩,
        Function.update_self _ _ _, hidle.clearance⟩, fun f hf _ => hall f hf trivial⟩
    refine meets_act (Inside.holding s c n).stable hinside fun w a w' hw ha => ?_
    obtain ⟨⟨hheld, hbody, hclearance⟩, hfresh⟩ := hw
    cases ha
    refine ⟨hbody, ?_⟩
    have hleaving : Leaving c n (w.leaseSafe c)
        { w with body := Function.update w.body c (.ended (w.leaseSafe c)) } :=
      ⟨⟨⟨hheld.flock, hheld.since, hheld.created, hheld.counted⟩,
        Function.update_self _ _ _, hclearance, id⟩, hfresh⟩
    change ((releaseLease lease).bind _).Meets _ _ _
    refine resting_bind (releaseLease_meets lease hpath hleaving) fun _ w hw => ?_
    exact tail_keeps (tail_of_looks (looks_raiseIf _ _)) hw

theorem navigationWriterLock_meets {enabled : Bool} (hcall : s.call c = .writer enabled)
    (hw : Idle c w) :
    (navigationWriterLock enabled s.path).Meets (contract s c) (fun _ w => Resting c w) w := by
  unfold navigationWriterLock
  split_ifs with henabled
  · subst henabled
    refine meets_act (stable_idle s c) hw fun w a w' hw ha => ⟨trivial, ?_⟩
    obtain rfl := takeCapacity_eq ha
    have hidle : Idle c { w with capacity := Function.update w.capacity (s.process c) true } :=
      ⟨hw.counted, hw.body, hw.clearance⟩
    exact resting_finallyDo (holdLease_meets hcall hidle) (tail_perform ⟨⟩)
  · have hquiet : ((perform .unlockedBody).bind fun returned =>
        raiseIf (!returned) .body).AllOps Op.Tail :=
      AllOps.bind (tail_perform ⟨⟩) fun returned => tail_of_looks (looks_raiseIf _ _)
    exact tail_keeps hquiet hw.resting

/-- A clearance whose body has completed, with these markers still to remove. -/
def Clearing (c : CallId) (n : ℕ) (captured : Capture) (identities : List MarkerIdentity)
    (w : World) : Prop :=
  (Held c n w ∧ w.body c = .before ∧ w.clearance c = .completed captured) ∧
    Present identities captured.scannedAt w

theorem Clearing.holding (s : Setup) (c : CallId) (n : ℕ) (captured : Capture)
    (identities : List MarkerIdentity) : Holding s c n (Clearing c n captured identities) := by
  refine Holding.present ((Held.holding s c n).and fun w w' hw hr => ?_) identities _
  exact ⟨hr.body.trans hw.1, hr.clearance.trans hw.2⟩

theorem Clearing.resting {n : ℕ} {captured : Capture} {identities : List MarkerIdentity}
    (h : Clearing c n captured identities w) : Resting c w :=
  ⟨by simp [h.1.2.1], by simp [h.1.2.2]⟩

theorem removeMarkers_meets {n : ℕ} {captured : Capture} {identities : List MarkerIdentity}
    (hsub : identities ⊆ captured.identities) (hnodup : (identities.map (·.path)).Nodup)
    (hw : Clearing c n captured identities w) :
    (removeMarkers identities).Meets (contract s c) (fun _ w => Resting c w) w := by
  induction identities generalizing w with
  | nil => exact meets_done (stable_resting s c) hw.resting fun _ h => h
  | cons i is ih =>
    obtain ⟨hi, hsub⟩ := List.cons_subset.1 hsub
    obtain ⟨hnot, hnodup⟩ := List.nodup_cons.1 hnodup
    have hremove : (removeQuarantineMarker i).Meets (contract s c)
        (fun _ w => Clearing c n captured is w) w := by
      refine removeQuarantineMarker_meets (Clearing.holding s c n captured (i :: is)).stable
        (Clearing.holding s c n captured is).stable
        (fun w hw => ⟨hw.1, fun j hj => hw.2 j (List.mem_cons_of_mem i hj)⟩) i
        (fun w hw => hw.1.1.flock) (fun w f hw hf => ?_) (fun w hw => ?_) hw
      · obtain ⟨hmem, hname⟩ := Table.find?_eq_some_iff.1 hf
        obtain ⟨g, hg, hnames, hlt⟩ := hw.2 i List.mem_cons_self
        obtain rfl : f = g := Table.eq_of_key hmem hg (hname.trans hnames.path)
        exact .inr ⟨captured, hw.1.2.2, hlt, i, hi, hnames⟩
      · obtain ⟨⟨hheld, hstages⟩, hpresent⟩ := hw
        refine ⟨⟨⟨hheld.flock, hheld.since, hheld.created, fun f hf => ?_⟩, hstages⟩,
          fun j hj => ?_⟩
        · exact hheld.counted f (Table.mem_delete.1 hf).1
        · obtain ⟨g, hg, hnames, hlt⟩ := hpresent j (List.mem_cons_of_mem i hj)
          refine ⟨g, World.delete_kept hg fun hname => hnot ?_, hnames, hlt⟩
          exact List.mem_map.2 ⟨j, hj, hnames.path.trans hname⟩
    have hstable := (Clearing.holding s c n captured is).stable
    have hdiscard : (discard (removeQuarantineMarker i)).Meets (contract s c)
        (fun _ w => Clearing c n captured is w) w :=
      hremove.bind (fun _ w hw => meets_done hstable hw fun _ h => h) fun _ _ h => h
    exact hdiscard.bind (fun _ w hw => ih hsub hnodup hw) fun _ w hw => hw.resting

/-- Inside the body of a clearance, with the captured markers still there. -/
def Auditing (c : CallId) (n : ℕ) (captured : Capture) (w : World) : Prop :=
  (Held c n w ∧ w.body c = .before ∧ w.clearance c = .inside captured) ∧
    Present captured.identities captured.scannedAt w

theorem Auditing.holding (s : Setup) (c : CallId) (n : ℕ) (captured : Capture) :
    Holding s c n (Auditing c n captured) := by
  refine Holding.present ((Held.holding s c n).and fun w w' hw hr => ?_) _ _
  exact ⟨hr.body.trans hw.1, hr.clearance.trans hw.2⟩

theorem auditing_meets {n : ℕ} {captured : Capture}
    (hnodup : (captured.identities.map (·.path)).Nodup) (hw : Auditing c n captured w) :
    ((perform .leaveClearance).bind fun returned => (raiseIf (!returned) .body).bind fun _ =>
      removeMarkers captured.identities).Meets (contract s c) (fun _ w => Resting c w) w := by
  refine meets_act (Auditing.holding s c n captured).stable hw fun w a w' hw ha => ⟨trivial, ?_⟩
  obtain ⟨⟨hheld, hbody, hinside⟩, hpresent⟩ := hw
  simp only [contract, exec, hinside] at ha
  cases ha
  cases a with
  | false =>
    have hfailed : Resting c (w.setClearance c .failed) :=
      ⟨by simp [World.setClearance, hbody], by simp [World.setClearance]⟩
    exact meets_done (stable_resting s c) hfailed fun _ h => h
  | true =>
    change (removeMarkers captured.identities).Meets _ _ _
    exact @removeMarkers_meets _ _ _ n captured _ (List.Subset.refl _) hnodup
      ⟨⟨⟨hheld.flock, hheld.since, hheld.created, hheld.counted⟩, hbody,
        Function.update_self _ _ _⟩, hpresent⟩

theorem exec_error_tryFlock {p : ProcessId} {w' : World} {e : OSError}
    (h : exec p c w .tryFlock (.error e) = some w') : w' = w := by
  cases e with
  | blockingIOError =>
    simp only [exec] at h
    split_ifs at h
    cases h
    rfl
  | _ => cases h; rfl

theorem clearMarkers_meets {expected : String}
    (hexpected : ∀ e absent, s.call c = .clearance e absent → expected = e ∧ absent = true)
    (hw : Idle c w) :
    (clearMarkers s.path expected).Meets (contract s c) (fun _ w => Resting c w) w := by
  refine meets_act (stable_idle s c) hw fun w a w' hw ha => ⟨⟨hw.body, hw.clearance⟩, ?_⟩
  cases a with
  | error e =>
    obtain rfl := exec_error_tryFlock ha
    cases e <;> exact meets_done (stable_idle s c) hw fun w hw => hw.resting
  | ok _ =>
    obtain ⟨-, rfl⟩ := takeFlock_eq ha
    have hlock := hw.lock
    generalize w.created = n at hlock
    have hP := Locked.holding s c n
    change ((captureMarkerState s.path.name).bind _).Meets _ _ _
    refine (captureMarkerState_meets hP Locked.scan hlock).bind (fun captured w' hr => ?_)
      fun e w' hr => hr.1.2.resting
    obtain ⟨state, identities⟩ := captured
    obtain ⟨hlocked, hcaptures⟩ := hr
    have hcaptures := hcaptures _ rfl
    change ((raiseIf _ _).bind _).Meets _ _ w'
    unfold raiseIf
    split_ifs with hsha
    · exact meets_done hP.stable hlocked fun w hw => hw.2.resting
    · refine meets_act (hP.captures (state, identities)).stable ⟨hlocked, hcaptures⟩
        fun w a w' hw ha => ?_
      obtain ⟨⟨hheld, hidle⟩, hcaptures⟩ := hw
      cases ha
      have hconfirmed : Capture.Confirmed s c ⟨expected, state, identities, w.scannedAt c⟩ :=
        ⟨not_not.1 hsha, hcaptures.state, hexpected⟩
      refine ⟨⟨hheld.flock, hidle.body, hidle.clearance, hconfirmed, hcaptures.present⟩, ?_⟩
      have hauditing : Auditing c n ⟨expected, state, identities, w.scannedAt c⟩
          (w.setClearance c (.inside ⟨expected, state, identities, w.scannedAt c⟩)) :=
        ⟨⟨⟨hheld.flock, hheld.since, hheld.created, hheld.counted⟩, hidle.body,
          Function.update_self _ _ _⟩, hcaptures.present⟩
      exact auditing_meets hcaptures.nodup hauditing

theorem exec_tryCapacity {p : ProcessId} {w' : World} {acquired : Bool}
    (h : exec p c w .tryCapacity acquired = some w') (hw : Idle c w) : Idle c w' := by
  cases acquired with
  | true =>
    obtain rfl := takeCapacity_eq h
    exact ⟨hw.counted, hw.body, hw.clearance⟩
  | false =>
    simp only [exec] at h
    split_ifs at h
    cases h
    exact hw

theorem navigationWriterQuarantineClearance_meets {expected : String} {absent : Bool}
    (hexpected : absent = true → ∀ e absent', s.call c = .clearance e absent' →
      expected = e ∧ absent' = true) (hw : Idle c w) :
    (navigationWriterQuarantineClearance s.path expected absent).Meets (contract s c)
      (fun _ w => Resting c w) w := by
  change ((raiseIf _ _).bind _).Meets _ _ w
  unfold raiseIf
  split_ifs with habsent
  · exact meets_done (stable_idle s c) hw fun w hw => hw.resting
  have habsent : absent = true := by simpa using habsent
  refine (looks_keeps (looks_validateWriterLockPath s.path) (stable_idle s c) hw).bind
    (fun _ w hw => ?_) fun _ w hw => hw.resting
  refine meets_act (stable_idle s c) hw fun w a w' hw ha => ⟨trivial, ?_⟩
  have hidle := exec_tryCapacity ha hw
  cases a with
  | false => exact meets_done (stable_idle s c) hidle fun w hw => hw.resting
  | true =>
    refine resting_finallyDo ?_ (tail_perform ⟨⟩)
    refine (looks_keeps (looks_openLockFile s.path) (stable_idle s c) hidle).bind
      (fun _ w hw => ?_) fun _ w hw => hw.resting
    exact resting_finallyDo (clearMarkers_meets (hexpected habsent) hw)
      (allOps_discard (tail_perform ⟨⟩))

theorem looks_inspectMarker (path : MarkerName) : (inspectMarker path).AllOps Op.Looks := by
  refine AllOps.bind (looks_perform ⟨⟩) fun a => (looks_raw a).bind fun handle => ?_
  refine AllOps.bind (looks_perform ⟨⟩) fun a => (looks_raw a).bind fun metadata => ?_
  refine (looks_readMarkerToken handle).bind fun token => AllOps.bind (looks_perform ⟨⟩) fun a => ?_
  exact (looks_raw a).bind fun current => (looks_raiseIf _ _).bind fun _ => trivial

theorem looks_markerIdentity (path : MarkerName) : (markerIdentity path).AllOps Op.Looks := by
  refine (looks_validateQuarantineMarker path).attempt.bind fun r => ?_
  split
  · trivial
  · trivial
  · refine looks_openParentDescriptor.bind fun _ =>
      (looks_inspectMarker path).attempt.bind fun r => ?_
    split <;> trivial

theorem looks_markerIdentities (paths : List MarkerName) :
    (markerIdentities paths).AllOps Op.Looks := by
  induction paths with
  | nil => trivial
  | cons path paths ih => exact (looks_markerIdentity path).bind fun _ => ih.bind fun _ => trivial

theorem quiet_navigationWriterMarkerState (path : LockPath) :
    (navigationWriterMarkerState path).AllOps Op.Quiet := by
  refine (quiet_of_looks (looks_validateWriterLockPath path)).bind fun _ => AllOps.bind ?_
    fun captured => trivial
  refine (quiet_of_looks (looks_markerIdentity _)).bind fun active => ?_
  refine AllOps.bind (quiet_perform ⟨⟩) fun a => (quiet_of_looks (looks_wrapped _ a)).bind
    fun names => ?_
  refine (quiet_of_looks (looks_markerIdentities _)).bind fun quarantines => ?_
  refine (quiet_of_looks (looks_raiseIf _ _)).bind fun _ => ?_
  exact (quiet_of_looks (looks_raiseIf _ _)).bind fun _ => trivial

theorem quiet_ensureNavigationWriterQuarantine (path : LockPath) (recoveryRef : Option PyStr) :
    (ensureNavigationWriterQuarantine path recoveryRef).AllOps Op.Quiet := by
  refine (quiet_of_looks (looks_validateWriterLockPath path)).bind fun _ => AllOps.bind ?_
    fun markerRef => ?_
  · unfold recoveryRefOrFresh
    split
    · trivial
    · exact AllOps.bind (quiet_perform ⟨⟩) fun _ => trivial
  · refine (quiet_of_looks (looks_raiseIf _ _)).bind fun _ => ?_
    refine (quiet_of_looks (looks_markerIdentity _)).bind fun found => ?_
    cases found with
    | some i => trivial
    | none =>
      exact (allOps_discard (quiet_of_writes (writes_createMarker _))).bind fun _ => trivial

theorem quiet_quarantineActiveWriter (leases : List CallId) :
    (quarantineActiveWriter leases).AllOps Op.Quiet := by
  induction leases with
  | nil => trivial
  | cons lease leases ih => exact AllOps.bind (quiet_perform ⟨⟩) fun _ => ih

theorem quiet_refreshedStatus (path : LockPath) : (refreshedStatus path).AllOps Op.Quiet :=
  (quiet_navigationWriterMarkerState path).bind fun _ => trivial

theorem quiet_probeFlock (path : LockPath) : (probeFlock path).AllOps Op.Quiet := by
  refine AllOps.bind (quiet_perform ⟨⟩) fun a => ?_
  split
  · exact quiet_refreshedStatus path
  · trivial
  · exact (quiet_navigationWriterMarkerState path).bind fun _ => trivial

theorem quiet_navigationWriterCoordinationStatus (path : LockPath) :
    (navigationWriterCoordinationStatus path).AllOps Op.Quiet := by
  refine (quiet_navigationWriterMarkerState path).bind fun state => ?_
  split_ifs
  · trivial
  · refine AllOps.bind (quiet_perform ⟨⟩) fun acquired => ?_
    split_ifs
    · refine AllOps.finallyDo ?_ (quiet_perform ⟨⟩)
      refine (quiet_of_looks (looks_openLockFile path)).bind fun _ => ?_
      exact (quiet_probeFlock path).finallyDo (allOps_discard (quiet_perform ⟨⟩))
    · exact quiet_refreshedStatus path
  · trivial

theorem Call.meets (hw : Idle c w) :
    ((s.call c).program s.path).Meets (contract s c) (fun _ _ => True) w := by
  cases hcall : s.call c with
  | writer enabled => exact (navigationWriterLock_meets hcall hw).mono fun _ _ _ => trivial
  | clearance expected absent =>
    refine (navigationWriterQuarantineClearance_meets (fun h e absent' he => ?_) hw).mono
      fun _ _ _ => trivial
    rw [hcall] at he
    cases he
    exact ⟨rfl, h⟩
  | clear absent =>
    refine (quiet_keeps (quiet_navigationWriterMarkerState s.path) hw).bind
      (fun expected w hw => ?_) fun _ _ _ => trivial
    refine (navigationWriterQuarantineClearance_meets (fun _ e absent' he => ?_) hw).mono
      fun _ _ _ => trivial
    rw [hcall] at he
    cases he
  | ensureQuarantine recoveryRef =>
    exact (quiet_keeps (allOps_discard (quiet_ensureNavigationWriterQuarantine s.path recoveryRef))
      hw).mono fun _ _ _ => trivial
  | quarantineActive leases =>
    exact (quiet_keeps (quiet_quarantineActiveWriter leases) hw).mono fun _ _ _ => trivial
  | coordinationStatus =>
    exact (quiet_keeps (allOps_discard (quiet_navigationWriterCoordinationStatus s.path))
      hw).mono fun _ _ _ => trivial

end Calls

end DataJuicer.Navigation.WriterLock
