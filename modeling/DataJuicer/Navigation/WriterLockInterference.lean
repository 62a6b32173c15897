import DataJuicer.Navigation.WriterLock

/-! # Interference between the calls of the writer lock

What one operation of a call does to the shared state, what the other calls may rely on, and
what each operation of a call has to meet for it.
-/

namespace DataJuicer.Navigation.WriterLock

/-- The same marker later: only its content has grown. -/
structure MarkerFile.Grew (f f' : MarkerFile) : Prop where
  name : f'.name = f.name
  serial : f'.serial = f.serial
  device : f'.device = f.device
  inode : f'.inode = f.inode
  content : f.content <+: f'.content

theorem MarkerFile.Grew.refl (f : MarkerFile) : f.Grew f := ⟨rfl, rfl, rfl, rfl, List.prefix_rfl⟩

theorem MarkerFile.Grew.trans {f g h : MarkerFile} (hfg : f.Grew g) (hgh : g.Grew h) :
    f.Grew h where
  name := hgh.name.trans hfg.name
  serial := hgh.serial.trans hfg.serial
  device := hgh.device.trans hfg.device
  inode := hgh.inode.trans hfg.inode
  content := hfg.content.trans hgh.content

structure MarkerIdentity.Names (i : MarkerIdentity) (f : MarkerFile) : Prop where
  path : i.path = f.name
  device : i.device = f.device
  inode : i.inode = f.inode
  token : ∃ bytes, bytes <+: f.content ∧ markerToken? bytes = some i.token

theorem MarkerIdentity.Names.grew {i : MarkerIdentity} {f f' : MarkerFile} (h : i.Names f)
    (hf : f.Grew f') : i.Names f' where
  path := h.path.trans hf.name.symm
  device := h.device.trans hf.device.symm
  inode := h.inode.trans hf.inode.symm
  token := by
    obtain ⟨bytes, hb, ht⟩ := h.token
    exact ⟨bytes, hb.trans hf.content, ht⟩

/-- The captured state is the one whose hash the operator of call `c` gave. -/
structure Capture.Confirmed (s : Setup) (c : CallId) (captured : Capture) : Prop where
  sha256 : captured.state.sha256 = captured.expected
  state : ∃ active quarantines, captured.state = markerState s.path.name active quarantines ∧
    captured.identities = active.toList ++ quarantines
  expected : ∀ e absent, s.call c = .clearance e absent → captured.expected = e ∧ absent = true

/-- Identities of markers that are there and are among the first `k` that were created. -/
def Present (identities : List MarkerIdentity) (k : ℕ) (w : World) : Prop :=
  ∀ i ∈ identities, ∃ f ∈ w.files, i.Names f ∧ f.serial < k

/-- The captured identities are those of markers that are still there. -/
def Capture.Present (captured : Capture) (w : World) : Prop :=
  WriterLock.Present captured.identities captured.scannedAt w

/-- What an operation of call `c` can do to the shared state. -/
inductive Change (p : ProcessId) (c : CallId) (w : World) : (op : Op) → Answer op → World → Prop
  | same {op : Op} {a : Answer op} : Change p c w op a w
  | capacity {op : Op} {a : Answer op} (taken : Bool) :
      Change p c w op a { w with capacity := Function.update w.capacity p taken }
  | lock {op : Op} {a : Answer op} (hop : op = .flock ∨ op = .tryFlock) (free : w.flock = none) :
      Change p c w op a { w with flock := some (.call c), flockSince := w.created }
  | unlock {inherited : Bool} (held : w.flock = some (.call c)) :
      Change p c w .close inherited
        { w with flock := if inherited then some .children else none }
  | create {name : MarkerName} {handle : Handle} {device inode : ℕ} {files : Table MarkerFile}
      (inserted : w.files.insert? ⟨name, w.created, device, inode, []⟩ = some files) :
      Change p c w (.create name) (.ok (handle, device, inode))
        { w with files, created := w.created + 1 }
  | append {op : Op} {a : Answer op} (h : Handle) (bytes : PyStr) :
      Change p c w op a (w.append h bytes)
  | unlink {name : MarkerName} {f : MarkerFile} (found : w.files.find? name = some f) :
      Change p c w (.unlink name) (.ok ())
        { w with files := w.files.delete fun f => f.name = name }
  | scan {names : List MarkerName}
      (listed : names = (w.files.rows.map (·.name)).filter (·.isQuarantine)) :
      Change p c w .scandir (.ok names)
        { w with scannedAt := Function.update w.scannedAt c w.created }
  | enterBody : Change p c w .enterBody ()
      { w with body := Function.update w.body c .inside,
               leaseSafe := Function.update w.leaseSafe c true }
  | leaveBody {returned : Bool} : Change p c w .leaveBody returned
      { w with body := Function.update w.body c (.ended (w.leaseSafe c)) }
  | markUnsafe {op : Op} {a : Answer op} (d : CallId) :
      Change p c w op a { w with leaseSafe := Function.update w.leaseSafe d false }
  | enterClearance {expected : String} {state : WriterMarkerState}
      {identities : List MarkerIdentity} :
      Change p c w (.enterClearance expected state identities) ()
        (w.setClearance c (.inside ⟨expected, state, identities, w.scannedAt c⟩))
  | leaveClearance {returned : Bool} {captured : Capture}
      (inside : w.clearance c = .inside captured) :
      Change p c w .leaveClearance returned
        (w.setClearance c (if returned then .completed captured else .failed))

theorem looked_eq {w w' : World} {name : MarkerName} {answer : Except OSError FileStat}
    (h : w.looked name answer = some w') : w' = w := by
  unfold World.looked at h
  split at h
  all_goals first | (split_ifs at h; cases h; rfl) | (cases h; rfl) | cases h

theorem takeCapacity_eq {w w' : World} {p : ProcessId} (h : w.takeCapacity p = some w') :
    w' = { w with capacity := Function.update w.capacity p true } := by
  unfold World.takeCapacity at h
  split_ifs at h
  cases h
  rfl

theorem takeFlock_eq {w w' : World} {c : CallId} (h : w.takeFlock c = some w') :
    w.flock = none ∧ w' = { w with flock := some (.call c), flockSince := w.created } := by
  unfold World.takeFlock at h
  split_ifs at h with hfree
  cases h
  exact ⟨hfree, rfl⟩

theorem exec_change {p : ProcessId} {c : CallId} {w w' : World} {op : Op} {a : Answer op}
    (h : exec p c w op a = some w') : Change p c w op a w' := by
  unfold exec at h
  split at h
  -- the operations that only look
  all_goals first
    | (cases h; exact .same)
    | (obtain rfl := looked_eq h; exact .same)
    | (obtain rfl := takeCapacity_eq h; exact .capacity true)
    | (obtain ⟨hfree, rfl⟩ := takeFlock_eq h; exact .lock (by simp) hfree)
    | (split_ifs at h; cases h; exact .same)
    | (split at h <;> first | (split_ifs at h; cases h; exact .same) | (cases h; exact .same) |
        (cases h; done))
    | skip
  · cases h
    exact .capacity false
  · next inherited =>
    split at h
    · next hheld =>
      cases h
      exact .unlock hheld
    · cases h
      exact .same
  · split_ifs at h with hfound
    cases h
    obtain ⟨f, hf⟩ := Option.isSome_iff_exists.1 hfound
    exact .unlink hf
  · split_ifs at h with hhandle
    obtain ⟨files, hfiles, rfl⟩ := Option.map_eq_some_iff.1 h
    exact .create hfiles
  · split_ifs at h
    cases h
    exact .append _ _
  · split_ifs at h with hnames
    cases h
    exact .scan hnames
  · cases h
    exact .enterBody
  · cases h
    exact .leaveBody
  · cases h
    exact .markUnsafe _
  · cases h
    exact .enterClearance
  · split at h
    · next hinside =>
      cases h
      exact .leaveClearance hinside
    · cases h

/-- What a call relies on: while it has the `flock`, nobody else removes a marker. -/
structure Rely (c : CallId) (w w' : World) : Prop where
  created : w.created ≤ w'.created
  counted : (∀ f ∈ w.files, f.serial < w.created) → ∀ f ∈ w'.files, f.serial < w'.created
  fresh : ∀ f' ∈ w'.files, (∃ f ∈ w.files, f.Grew f') ∨ w.created ≤ f'.serial
  held : w.flock = some (.call c) → w'.flock = some (.call c) ∧ w'.flockSince = w.flockSince ∧
    ∀ f ∈ w.files, ∃ f' ∈ w'.files, f.Grew f'
  body : w'.body c = w.body c
  safe : w'.leaseSafe c = true → w.leaseSafe c = true
  clearance : w'.clearance c = w.clearance c
  scanned : w'.scannedAt c = w.scannedAt c

def MayRemove (c : CallId) (w : World) (f : MarkerFile) : Prop :=
  (f.name = .active ∧ w.flockSince ≤ f.serial ∧ w.body c = .ended true) ∨
    ∃ captured, w.clearance c = .completed captured ∧
      f.serial < captured.scannedAt ∧ ∃ i ∈ captured.identities, i.Names f

/-- What the operations that matter to the others have to meet. -/
def Guarantee (s : Setup) (c : CallId) (w : World) : (op : Op) → Answer op → World → Prop
  | .unlink name, .ok (), _ => w.flock = some (.call c) ∧
      ∀ f, w.files.find? name = some f → MayRemove c w f
  | .enterBody, _, _ => s.call c = .writer true ∧ w.flock = some (.call c) ∧
      w.body c = .before ∧ w.clearance c = .before ∧
      (∃ f ∈ w.files, f.name = .active) ∧ ∀ f ∈ w.files, w.flockSince ≤ f.serial
  | .leaveBody, _, _ => w.body c = .inside
  | .flock, _, _ | .tryFlock, _, _ => w.body c = .before ∧ w.clearance c = .before
  | .close, _, _ => w.body c ≠ .inside ∧ ∀ captured, w.clearance c ≠ .inside captured
  | .enterClearance expected state identities, _, _ =>
    w.flock = some (.call c) ∧ w.body c = .before ∧ w.clearance c = .before ∧
      Capture.Confirmed s c ⟨expected, state, identities, w.scannedAt c⟩ ∧
      Capture.Present ⟨expected, state, identities, w.scannedAt c⟩ w
  | _, _, _ => True

/-- A step that leaves the directory alone. -/
theorem Rely.of_files {c : CallId} {w w' : World} (hfiles : w'.files = w.files)
    (hcreated : w'.created = w.created)
    (hflock : w.flock = some (.call c) →
      w'.flock = some (.call c) ∧ w'.flockSince = w.flockSince)
    (hbody : w'.body c = w.body c) (hsafe : w'.leaseSafe c = true → w.leaseSafe c = true)
    (hclearance : w'.clearance c = w.clearance c) (hscanned : w'.scannedAt c = w.scannedAt c) :
    Rely c w w' where
  created := hcreated.ge
  counted h := by rwa [hfiles, hcreated]
  fresh f' hf := .inl ⟨f', hfiles ▸ hf, .refl f'⟩
  held h := ⟨(hflock h).1, (hflock h).2, fun f hf => ⟨f, hfiles.symm ▸ hf, .refl f⟩⟩
  body := hbody
  safe := hsafe
  clearance := hclearance
  scanned := hscanned

theorem World.mem_append {w : World} {h : Handle} {bytes : PyStr} {f' : MarkerFile} :
    f' ∈ (w.append h bytes).files ↔ ∃ f ∈ w.files,
      (if f.name = h.name ∧ f.serial = h.serial then
        { f with content := f.content ++ bytes } else f) = f' :=
  List.mem_map

theorem MarkerFile.grew_ite (f : MarkerFile) (q : Prop) [Decidable q] (bytes : PyStr) :
    f.Grew (if q then { f with content := f.content ++ bytes } else f) := by
  split_ifs
  · exact ⟨rfl, rfl, rfl, rfl, List.prefix_append _ _⟩
  · exact .refl f

theorem World.append_back {w : World} {h : Handle} {bytes : PyStr} {f' : MarkerFile}
    (hf : f' ∈ (w.append h bytes).files) : ∃ f ∈ w.files, f.Grew f' := by
  obtain ⟨f, hmem, rfl⟩ := World.mem_append.1 hf
  exact ⟨f, hmem, f.grew_ite _ _⟩

theorem World.append_kept {w : World} {f : MarkerFile} (h : Handle) (bytes : PyStr)
    (hf : f ∈ w.files) : ∃ f' ∈ (w.append h bytes).files, f.Grew f' :=
  ⟨_, World.mem_append.2 ⟨f, hf, rfl⟩, f.grew_ite _ _⟩

theorem World.delete_kept {w : World} {f : MarkerFile} {name : MarkerName} (hf : f ∈ w.files)
    (hn : f.name ≠ name) : f ∈ w.files.delete fun f => f.name = name :=
  Table.mem_delete.2 ⟨hf, hn⟩

/-- A new marker disturbs nobody, its creator included. -/
theorem rely_create {c : CallId} {w : World} {name : MarkerName} {device inode : ℕ}
    {files : Table MarkerFile}
    (h : w.files.insert? ⟨name, w.created, device, inode, []⟩ = some files) :
    Rely c w { w with files, created := w.created + 1 } := by
  have hmem : ∀ f, f ∈ files ↔ _ := fun f => Table.mem_insert? h
  constructor
  · exact Nat.le_succ _
  · intro hcount f hf
    rcases (hmem f).1 hf with hf | rfl
    · exact (hcount f hf).trans (Nat.lt_succ_self _)
    · exact Nat.lt_succ_self _
  · intro f hf
    rcases (hmem f).1 hf with hf | rfl
    · exact .inl ⟨f, hf, .refl f⟩
    · exact .inr le_rfl
  · exact fun h => ⟨h, rfl, fun f hf => ⟨f, (hmem f).2 (.inl hf), .refl f⟩⟩
  · rfl
  · exact id
  · rfl
  · rfl

theorem rely_append {c : CallId} {w : World} (h : Handle) (bytes : PyStr) :
    Rely c w (w.append h bytes) := by
  constructor
  · exact le_rfl
  · intro hcount f' hf
    obtain ⟨f, hf, hgrew⟩ := World.append_back hf
    exact hgrew.serial ▸ hcount f hf
  · exact fun f' hf => .inl (World.append_back hf)
  · exact fun hheld => ⟨hheld, rfl, fun f hf => World.append_kept h bytes hf⟩
  · rfl
  · exact id
  · rfl
  · rfl

theorem Change.rely {s : Setup} {p : ProcessId} {c d : CallId} {w w' : World} {op : Op}
    {a : Answer op} (h : Change p c w op a w') (hg : Guarantee s c w op a w') (hcd : c ≠ d) :
    Rely d w w' := by
  have hdc : d ≠ c := hcd.symm
  cases h with
  | same => exact .of_files rfl rfl (fun h => ⟨h, rfl⟩) rfl id rfl rfl
  | capacity taken => exact .of_files rfl rfl (fun h => ⟨h, rfl⟩) rfl id rfl rfl
  | lock hop free => exact .of_files rfl rfl (fun h => by simp [free] at h) rfl id rfl rfl
  | unlock held =>
    refine .of_files rfl rfl (fun h => ?_) rfl id rfl rfl
    rw [held] at h
    cases h
    exact absurd rfl hcd
  | create inserted => exact rely_create inserted
  | append h bytes => exact rely_append h bytes
  | unlink found =>
    constructor
    · exact le_rfl
    · exact fun hcount f hf => hcount f (Table.mem_delete.1 hf).1
    · exact fun f hf => .inl ⟨f, (Table.mem_delete.1 hf).1, .refl f⟩
    · intro hheld
      rw [hg.1] at hheld
      cases hheld
      exact absurd rfl hcd
    · rfl
    · exact id
    · rfl
    · rfl
  | scan listed =>
    exact .of_files rfl rfl (fun h => ⟨h, rfl⟩) rfl id rfl (Function.update_of_ne hdc _ _)
  | enterBody =>
    refine .of_files rfl rfl (fun h => ⟨h, rfl⟩) (Function.update_of_ne hdc _ _)
      (fun h => ?_) rfl rfl
    simpa [Function.update_of_ne hdc] using h
  | leaveBody =>
    exact .of_files rfl rfl (fun h => ⟨h, rfl⟩) (Function.update_of_ne hdc _ _) id rfl rfl
  | markUnsafe e =>
    refine .of_files rfl rfl (fun h => ⟨h, rfl⟩) rfl (fun h => ?_) rfl rfl
    by_cases hde : d = e
    · subst hde
      simp at h
    · simpa [Function.update_of_ne hde] using h
  | enterClearance =>
    exact .of_files rfl rfl (fun h => ⟨h, rfl⟩) rfl id (Function.update_of_ne hdc _ _) rfl
  | leaveClearance inside =>
    exact .of_files rfl rfl (fun h => ⟨h, rfl⟩) rfl id (Function.update_of_ne hdc _ _) rfl

/-- Nothing outside disturbs a call whose process lives. -/
theorem outside_rely {s : Setup} {c : CallId} {w w' : World} {n : Outside}
    (h : outside s.process w n = some w') (hends : (machine s).ends n c = false) :
    Rely c w w' := by
  cases n with
  | crash p inherited =>
    have hp : s.process c ≠ p := by simpa [machine] using hends
    cases h
    exact .of_files rfl rfl (fun h => by simp [h, hp]) (by simp [hp]) id (by simp [hp]) rfl
  | childrenEnd =>
    simp only [outside] at h
    split_ifs at h with hchildren
    cases h
    exact .of_files rfl rfl (fun h => by simp [hchildren] at h) rfl id rfl rfl

structure Inv (s : Setup) (w : World) : Prop where
  counted : ∀ f ∈ w.files, f.serial < w.created
  since : w.flockSince ≤ w.created
  scanned : ∀ c, w.scannedAt c ≤ w.created
  inside : ∀ c, w.body c = .inside →
    w.flock = some (.call c) ∧ ∃ f ∈ w.files, f.name = .active
  one : ∀ c, w.body c = .before ∨ w.clearance c = .before
  writer : ∀ c, w.body c ≠ .before → s.call c = .writer true
  clearing : ∀ c captured, w.clearance c = .inside captured →
    w.flock = some (.call c) ∧ captured.Present w
  confirmed : ∀ c captured,
    w.clearance c = .inside captured ∨ w.clearance c = .completed captured →
      captured.Confirmed s c ∧ captured.scannedAt ≤ w.created

theorem Inv.initial (s : Setup) : Inv s .initial := by
  constructor <;> simp [World.initial]

theorem Present.kept {identities : List MarkerIdentity} {k : ℕ} {w w' : World}
    (h : Present identities k w) (hkept : ∀ f ∈ w.files, ∃ f' ∈ w'.files, f.Grew f') :
    Present identities k w' := by
  intro i hi
  obtain ⟨f, hf, hnames, hlt⟩ := h i hi
  obtain ⟨f', hf', hgrew⟩ := hkept f hf
  exact ⟨f', hf', hnames.grew hgrew, hgrew.serial ▸ hlt⟩

/-- A step that keeps the directory, the counters and the stages of all calls. -/
theorem Inv.of_stages {s : Setup} {w w' : World} (h : Inv s w) (hcreated : w.created ≤ w'.created)
    (hcounted : ∀ f ∈ w'.files, f.serial < w'.created)
    (hsince : w'.flockSince ≤ w'.created)
    (hscanned : ∀ c, w'.scannedAt c ≤ w'.created) (hbody : w'.body = w.body)
    (hclearance : w'.clearance = w.clearance)
    (hheld : ∀ c, w.flock = some (.call c) →
      (w.body c = .inside ∨ ∃ captured, w.clearance c = .inside captured) →
      w'.flock = some (.call c) ∧ ∀ f ∈ w.files, ∃ f' ∈ w'.files, f.Grew f') : Inv s w' where
  counted := hcounted
  since := hsince
  scanned := hscanned
  inside c hc := by
    rw [hbody] at hc
    obtain ⟨hflock, f, hf, hname⟩ := h.inside c hc
    obtain ⟨hflock', hkept⟩ := hheld c hflock (.inl hc)
    obtain ⟨f', hf', hgrew⟩ := hkept f hf
    exact ⟨hflock', f', hf', hgrew.name.trans hname⟩
  one c := by rw [hbody, hclearance]; exact h.one c
  writer c hc := h.writer c (hbody ▸ hc)
  clearing c captured hc := by
    rw [hclearance] at hc
    obtain ⟨hflock, hpresent⟩ := h.clearing c captured hc
    obtain ⟨hflock', hkept⟩ := hheld c hflock (.inr ⟨captured, hc⟩)
    exact ⟨hflock', hpresent.kept hkept⟩
  confirmed c captured hc := by
    rw [hclearance] at hc
    obtain ⟨hconfirmed, hle⟩ := h.confirmed c captured hc
    exact ⟨hconfirmed, hle.trans hcreated⟩

theorem Inv.create {s : Setup} {w : World} {name : MarkerName} {device inode : ℕ}
    {files : Table MarkerFile} (h : Inv s w)
    (inserted : w.files.insert? ⟨name, w.created, device, inode, []⟩ = some files) :
    Inv s { w with files, created := w.created + 1 } := by
  have hmem : ∀ f, f ∈ files ↔ _ := fun f => Table.mem_insert? inserted
  refine h.of_stages (Nat.le_succ _) ?_ (h.since.trans (Nat.le_succ _))
    (fun d => (h.scanned d).trans (Nat.le_succ _)) rfl rfl
    fun d hd _ => ⟨hd, fun f hf => ⟨f, (hmem f).2 (.inl hf), .refl f⟩⟩
  intro f hf
  rcases (hmem f).1 hf with hf | rfl
  · exact (h.counted f hf).trans (Nat.lt_succ_self _)
  · exact Nat.lt_succ_self _

theorem Inv.append {s : Setup} {w : World} (h : Inv s w) (handle : Handle) (bytes : PyStr) :
    Inv s (w.append handle bytes) := by
  refine h.of_stages le_rfl ?_ h.since h.scanned rfl rfl
    fun d hd _ => ⟨hd, fun f hf => World.append_kept handle bytes hf⟩
  intro f' hf
  obtain ⟨f, hf, hgrew⟩ := World.append_back hf
  exact hgrew.serial ▸ h.counted f hf

/-- The holder that removes a marker is inside neither body. -/
theorem Inv.unlink {s : Setup} {c : CallId} {w : World} {name : MarkerName} {f : MarkerFile}
    (h : Inv s w) (hheld : w.flock = some (.call c)) (hmay : MayRemove c w f) :
    Inv s { w with files := w.files.delete fun f => f.name = name } := by
  refine h.of_stages le_rfl (fun f hf => h.counted f (Table.mem_delete.1 hf).1) h.since
    h.scanned rfl rfl fun d hd hinside => ?_
  rw [hheld] at hd
  cases hd
  rcases hmay with ⟨-, -, hended⟩ | ⟨captured, hcompleted, -⟩
  · rcases h.one c with hone | hone
    · simp [hended] at hone
    · simp [hended, hone] at hinside
  · rcases h.one c with hone | hone
    · simp [hcompleted, hone] at hinside
    · simp [hcompleted] at hone

theorem Inv.scan {s : Setup} {w : World} (h : Inv s w) (c : CallId) :
    Inv s { w with scannedAt := Function.update w.scannedAt c w.created } := by
  refine h.of_stages le_rfl h.counted h.since (fun d => ?_) rfl rfl
    fun d hd _ => ⟨hd, fun f hf => ⟨f, hf, .refl f⟩⟩
  by_cases hdc : d = c
  · simp [hdc]
  · simpa [Function.update_of_ne hdc] using h.scanned d

theorem Inv.enterBody {s : Setup} {c : CallId} {w : World} (h : Inv s w)
    (hcall : s.call c = .writer true) (hheld : w.flock = some (.call c))
    (hclear : w.clearance c = .before) (hactive : ∃ f ∈ w.files, f.name = .active) :
    Inv s { w with body := Function.update w.body c .inside,
                   leaseSafe := Function.update w.leaseSafe c true } where
  counted := h.counted
  since := h.since
  scanned := h.scanned
  inside d hd := by
    by_cases hdc : d = c
    · subst hdc
      exact ⟨hheld, hactive⟩
    · exact h.inside d (by simpa [Function.update_of_ne hdc] using hd)
  one d := by
    by_cases hdc : d = c
    · subst hdc
      exact .inr hclear
    · simpa [Function.update_of_ne hdc] using h.one d
  writer d hd := by
    by_cases hdc : d = c
    · subst hdc
      exact hcall
    · exact h.writer d (by simpa [Function.update_of_ne hdc] using hd)
  clearing := h.clearing
  confirmed := h.confirmed

theorem Inv.leaveBody {s : Setup} {c : CallId} {w : World} {safe : Bool} (h : Inv s w)
    (hinside : w.body c = .inside) :
    Inv s { w with body := Function.update w.body c (.ended safe) } where
  counted := h.counted
  since := h.since
  scanned := h.scanned
  inside d hd := by
    by_cases hdc : d = c
    · simp [hdc] at hd
    · exact h.inside d (by simpa [Function.update_of_ne hdc] using hd)
  one d := by
    by_cases hdc : d = c
    · subst hdc
      rcases h.one d with hone | hone
      · simp [hinside] at hone
      · exact .inr hone
    · simpa [Function.update_of_ne hdc] using h.one d
  writer d hd := by
    by_cases hdc : d = c
    · subst hdc
      exact h.writer d (by simp [hinside])
    · exact h.writer d (by simpa [Function.update_of_ne hdc] using hd)
  clearing := h.clearing
  confirmed := h.confirmed

theorem Inv.enterClearance {s : Setup} {c : CallId} {w : World} {captured : Capture}
    (h : Inv s w) (hheld : w.flock = some (.call c)) (hbody : w.body c = .before)
    (hconfirmed : captured.Confirmed s c) (hscanned : captured.scannedAt ≤ w.created)
    (hpresent : captured.Present w) : Inv s (w.setClearance c (.inside captured)) where
  counted := h.counted
  since := h.since
  scanned := h.scanned
  inside := h.inside
  one d := by
    by_cases hdc : d = c
    · subst hdc
      exact .inl hbody
    · simpa [World.setClearance, Function.update_of_ne hdc] using h.one d
  writer := h.writer
  clearing d captured' hd := by
    by_cases hdc : d = c
    · subst hdc
      obtain rfl : captured = captured' := by simpa [World.setClearance] using hd
      exact ⟨hheld, hpresent⟩
    · have hother : w.clearance d = .inside captured' := by
        simpa [World.setClearance, Function.update_of_ne hdc] using hd
      exact h.clearing d captured' hother
  confirmed d captured' hd := by
    by_cases hdc : d = c
    · subst hdc
      obtain rfl : captured = captured' := by simpa [World.setClearance] using hd
      exact ⟨hconfirmed, hscanned⟩
    · exact h.confirmed d captured'
        (by simpa [World.setClearance, Function.update_of_ne hdc] using hd)

theorem Inv.leaveClearance {s : Setup} {c : CallId} {w : World} {captured : Capture}
    (h : Inv s w) (returned : Bool) (hinside : w.clearance c = .inside captured) :
    Inv s (w.setClearance c (if returned then .completed captured else .failed)) where
  counted := h.counted
  since := h.since
  scanned := h.scanned
  inside := h.inside
  one d := by
    by_cases hdc : d = c
    · subst hdc
      rcases h.one d with hone | hone
      · exact .inl hone
      · simp [hinside] at hone
    · simpa [World.setClearance, Function.update_of_ne hdc] using h.one d
  writer := h.writer
  clearing d captured' hd := by
    by_cases hdc : d = c
    · subst hdc
      cases returned <;> simp [World.setClearance] at hd
    · exact h.clearing d captured'
        (by simpa [World.setClearance, Function.update_of_ne hdc] using hd)
  confirmed d captured' hd := by
    by_cases hdc : d = c
    · subst hdc
      have hcap : captured' = captured := by
        cases returned <;> simp [World.setClearance] at hd
        exact hd.symm
      exact hcap ▸ h.confirmed d captured (.inl hinside)
    · exact h.confirmed d captured'
        (by simpa [World.setClearance, Function.update_of_ne hdc] using hd)

theorem Change.inv {s : Setup} {p : ProcessId} {c : CallId} {w w' : World} {op : Op}
    {a : Answer op} (h : Change p c w op a w') (hg : Guarantee s c w op a w') (hi : Inv s w) :
    Inv s w' := by
  have hrefl : ∀ f ∈ w.files, ∃ f' ∈ w.files, f.Grew f' := fun f hf => ⟨f, hf, .refl f⟩
  cases h with
  | same => exact hi
  | capacity taken =>
    exact hi.of_stages le_rfl hi.counted hi.since hi.scanned rfl rfl fun d hd _ => ⟨hd, hrefl⟩
  | lock hop free =>
    exact hi.of_stages le_rfl hi.counted le_rfl hi.scanned rfl rfl
      fun d hd _ => by simp [free] at hd
  | unlock held =>
    refine hi.of_stages le_rfl hi.counted hi.since hi.scanned rfl rfl fun d hd hinside => ?_
    rw [held] at hd
    cases hd
    rcases hinside with hinside | ⟨captured, hinside⟩
    · exact absurd hinside hg.1
    · exact absurd hinside (hg.2 captured)
  | create inserted => exact hi.create inserted
  | append h bytes => exact hi.append h bytes
  | unlink found =>
    obtain ⟨hheld, hmay⟩ := hg
    exact hi.unlink hheld (hmay _ found)
  | scan => exact hi.scan c
  | enterBody =>
    obtain ⟨hcall, hheld, -, hclear, hactive, -⟩ := hg
    exact hi.enterBody hcall hheld hclear hactive
  | leaveBody => exact hi.leaveBody hg
  | markUnsafe e =>
    exact hi.of_stages le_rfl hi.counted hi.since hi.scanned rfl rfl fun d hd _ => ⟨hd, hrefl⟩
  | enterClearance =>
    obtain ⟨hheld, hbody, -, hconfirmed, hpresent⟩ := hg
    exact hi.enterClearance hheld hbody hconfirmed (hi.scanned c) hpresent
  | leaveClearance inside => exact hi.leaveClearance _ inside

theorem BodyState.crash_ne_inside (b : BodyState) : b.crash ≠ .inside := by
  cases b <;> simp [crash]

theorem BodyState.crash_eq_before {b : BodyState} : b.crash = .before ↔ b = .before := by
  cases b <;> simp [crash]

theorem ClearanceState.crash_ne_inside (t : ClearanceState) (captured : Capture) :
    t.crash ≠ .inside captured := by
  cases t <;> simp [crash]

theorem ClearanceState.crash_eq_before {t : ClearanceState} : t.crash = .before ↔ t = .before := by
  cases t <;> simp [crash]

theorem ClearanceState.crash_eq_completed {t : ClearanceState} {captured : Capture} :
    t.crash = .completed captured ↔ t = .completed captured := by
  cases t <;> simp [crash]

theorem Inv.outside {s : Setup} {w w' : World} {n : Outside} (hi : Inv s w)
    (h : outside s.process w n = some w') : Inv s w' := by
  cases n with
  | crash p inherited =>
    cases h
    constructor
    · exact hi.counted
    · exact hi.since
    · exact hi.scanned
    · intro d hd
      by_cases hp : s.process d = p
      · exact absurd (by simpa [hp] using hd) (w.body d).crash_ne_inside
      · obtain ⟨hheld, hactive⟩ := hi.inside d (by simpa [hp] using hd)
        exact ⟨by simp [hheld, hp], hactive⟩
    · intro d
      by_cases hp : s.process d = p
      · simpa [hp, BodyState.crash_eq_before, ClearanceState.crash_eq_before] using hi.one d
      · simpa [hp] using hi.one d
    · intro d hd
      refine hi.writer d fun h => hd ?_
      by_cases hp : s.process d = p <;> simp [h, BodyState.crash]
    · intro d captured hd
      by_cases hp : s.process d = p
      · exact absurd (by simpa [hp] using hd) ((w.clearance d).crash_ne_inside captured)
      · obtain ⟨hheld, hpresent⟩ := hi.clearing d captured (by simpa [hp] using hd)
        exact ⟨by simp [hheld, hp], hpresent⟩
    · intro d captured hd
      refine hi.confirmed d captured ?_
      by_cases hp : s.process d = p
      · simp only [hp, if_true, ClearanceState.crash_eq_completed] at hd
        exact .inr (hd.resolve_left ((w.clearance d).crash_ne_inside captured))
      · simpa [hp] using hd
  | childrenEnd =>
    simp only [WriterLock.outside] at h
    split_ifs at h with hchildren
    cases h
    exact hi.of_stages le_rfl hi.counted hi.since hi.scanned rfl rfl
      fun d hd _ => by simp [hchildren] at hd

end DataJuicer.Navigation.WriterLock
