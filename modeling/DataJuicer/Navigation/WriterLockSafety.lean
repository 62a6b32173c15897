import DataJuicer.Navigation.WriterLockCalls

/-! # The writer lock fails closed

Over every interleaving of the calls, with crashes at any point, two bodies never overlap,
and a marker that a crash, a quarantine or a recovery leaves behind keeps all later bodies
out until an operator clears the very state that contains it.
-/

namespace DataJuicer.Navigation.WriterLock

variable {s : Setup}

/-- A step of the pool of calls, with what its operation guarantees. -/
inductive Happens (s : Setup) : World → LockEvent → World → Prop
  | act {c : CallId} {op : Op} {a : Answer op} {w w' : World}
      (done : exec (s.process c) c w op a = some w') (guarantee : Guarantee s c w op a w') :
      Happens s w (.act c op a) w'
  | outside {n : Outside} {w w' : World} (h : outside s.process w n = some w') :
      Happens s w (.outside n) w'

theorem Happens.inv {w w' : World} {e : LockEvent} (h : Happens s w e w') (hi : Inv s w) :
    Inv s w' := by
  cases h with
  | act done guarantee => exact (exec_change done).inv guarantee hi
  | outside h => exact hi.outside h

abbrev LockTransition := Transition LockPool LockEvent

/-- Every transition of a run is one of these steps, from a state that meets the invariant. -/
theorem run_happens {xs : List LockTransition} {p : LockPool}
    (h : Run (machine s).Step s.pool xs p) :
    ∀ x ∈ xs, Inv s x.pre.shared ∧ Happens s x.pre.shared x.label x.post.shared := by
  have hsound : (machine s).Sound Rely (Guarantee s) s.pool := by
    intro c q hq
    cases hq
    exact Call.meets ⟨by simp [Setup.pool, World.initial], rfl, rfl⟩
  have hguar := hsound.run h
    (fun c d w op a w' hcd ha hg => (exec_change ha).rely hg hcd)
    (fun n c w w' hends h => outside_rely h hends)
  have hhappens : ∀ x ∈ xs, Happens s x.pre.shared x.label x.post.shared := by
    intro x hx
    have hstep := h.step_of_mem hx
    obtain ⟨pre, label, post⟩ := x
    cases label with
    | act c op a =>
      obtain ⟨next, -, hexec, -⟩ := Machine.step_act_iff.1 hstep
      exact .act hexec (hguar _ hx c op a rfl)
    | outside n => exact .outside (Machine.step_outside_iff.1 hstep).1
  let inv := fun p : LockPool => Inv s p.shared
  have hstep : ∀ x : LockTransition, inv x.pre →
      Happens s x.pre.shared x.label x.post.shared →
      (machine s).Step x.pre x.label x.post → inv x.post := fun x hx hok _ => hok.inv hx
  have hinv := h.invariant (Inv.initial s : inv s.pool) hhappens hstep
  exact fun x hx => ⟨(hinv.2 x hx).1, hhappens x hx⟩

def StartsBody (x : LockTransition) : Prop := ∃ c, x.label = .act c .enterBody ()

def Removes (c : CallId) (x : LockTransition) (f : MarkerFile) : Prop :=
  x.label = .act c (.unlink f.name) (.ok ()) ∧ f ∈ x.pre.shared.files

/-- One file, now and at another time. -/
def MarkerFile.Same (f f' : MarkerFile) : Prop := f'.name = f.name ∧ f'.serial = f.serial

/-- A clearance completes its body; it captured marker `f`, in the state the operator named. -/
def CompletesClearance (s : Setup) (c : CallId) (x : LockTransition) (f : MarkerFile) : Prop :=
  x.label = .act c .leaveClearance true ∧
    ∃ captured, x.pre.shared.clearance c = .inside captured ∧ captured.Confirmed s c ∧
      f.serial < captured.scannedAt ∧
      ∃ i ∈ captured.identities, ∃ f' ∈ x.pre.shared.files, f.Same f' ∧ i.Names f'

/-- A call of `quarantine_active_writer` marks the lease of call `c` while its body runs. -/
def MarksUnsafe (c : CallId) (x : LockTransition) : Prop :=
  (∃ d, x.label = .act d (.markUnsafe c) ()) ∧ x.pre.shared.body c = .inside

/-- What leaves a marker behind that has to keep later bodies out, after the steps `xs`. -/
inductive Blocks (s : Setup) (xs : List LockTransition) (x : LockTransition) (f : MarkerFile) :
    Prop
  /-- A process dies inside a body, and this is the active marker. -/
  | crash {c : CallId} {p : ProcessId} {inherited : Bool}
      (label : x.label = .outside (.crash p inherited)) (process : s.process c = p)
      (inside : x.pre.shared.body c = .inside) (mem : f ∈ x.pre.shared.files)
      (active : f.name = .active)
  /-- A body ends after `quarantine_active_writer`, and this is the active marker. -/
  | quarantined {c : CallId} {returned : Bool} (label : x.label = .act c .leaveBody returned)
      (marked : ∃ v ∈ xs, MarksUnsafe c v) (mem : f ∈ x.pre.shared.files)
      (active : f.name = .active)
  /-- A quarantine marker is created while no writer has the lock. -/
  | recovery {c : CallId} {handle : Handle} {device inode : ℕ}
      (label : x.label = .act c (.create f.name) (.ok (handle, device, inode)))
      (quarantine : f.name.isQuarantine) (mem : f ∈ x.post.shared.files)
      (noWriter : ∀ d, x.pre.shared.flock = some (.call d) → s.call d ≠ .writer true)

/-- The lock over a whole run. -/
structure FailsClosed (s : Setup) (xs : List LockTransition) : Prop where
  exclusive : ∀ x ∈ xs, ∀ c d, x.post.shared.body c = .inside → x.post.shared.body d = .inside →
    c = d
  marked : ∀ x ∈ xs, ∀ w ∈ [x.pre.shared, x.post.shared], ∀ c, w.body c = .inside →
    ∃ f ∈ w.files, f.name = .active
  quarantines : ∀ xs₁ x xs₂, xs = xs₁ ++ x :: xs₂ → ∀ d leases,
    s.call d = .quarantineActive leases → x.post.threads d = some (.done (.ok ())) →
    ∀ c ∈ leases, ∃ v ∈ xs₁ ++ [x], v.label = .act d (.markUnsafe c) ()
  blocks : ∀ xs₁ x xs₂ y xs₃, xs = xs₁ ++ x :: (xs₂ ++ y :: xs₃) → ∀ f, Blocks s xs₁ x f →
    StartsBody y → ∃ z ∈ xs₂, ∃ c, CompletesClearance s c z f
  standing : ∀ xs₁ x xs₂ y xs₃, xs = xs₁ ++ x :: (xs₂ ++ y :: xs₃) →
    ∀ f ∈ x.post.shared.files, f.name.isQuarantine →
    (∀ d, x.post.shared.flock = some (.call d) → s.call d ≠ .writer true) → StartsBody y →
    ∃ z ∈ xs₁ ++ x :: xs₂, ∃ c, CompletesClearance s c z f
  removal : ∀ xs₁ x xs₂, xs = xs₁ ++ x :: xs₂ → ∀ c f, Removes c x f →
    s.call c ≠ .writer true →
    (∃ z ∈ xs₁, CompletesClearance s c z f) ∧
    ∃ y ∈ xs₁, (∃ names, y.label = .act c .scandir (.ok names)) ∧
      ∃ g ∈ y.pre.shared.files, g.Grew f
  failed : ∀ x ∈ xs, ∀ c, x.label = .act c .leaveClearance false → ∀ y ∈ xs, ∀ f, ¬ Removes c y f

/-- Marker `f` is there, older than the lock of every call that could pass it by or remove it. -/
structure Blocked (s : Setup) (f : MarkerFile) (w : World) : Prop where
  there : ∃ f' ∈ w.files, f.Grew f'
  older : f.serial < w.created
  writer : ∀ c, w.flock = some (.call c) → s.call c = .writer true → w.body c = .before →
    f.serial < w.flockSince
  own : ∀ c, w.flock = some (.call c) → w.body c = .inside ∨ w.body c = .ended true →
    f.name = .active → f.serial < w.flockSince
  cleared : ∀ c captured, w.flock = some (.call c) → w.clearance c = .completed captured →
    ¬ (f.serial < captured.scannedAt ∧ ∃ i ∈ captured.identities, i.path = f.name)

theorem Blocked.of_flock {f : MarkerFile} {w : World} (there : ∃ f' ∈ w.files, f.Grew f')
    (older : f.serial < w.created) (hflock : ∀ c, w.flock ≠ some (.call c)) : Blocked s f w where
  there := there
  older := older
  writer c hc := absurd hc (hflock c)
  own c hc := absurd hc (hflock c)
  cleared c _ hc := absurd hc (hflock c)

/-- A step of the same holder, or of nobody, that leaves the stages and the lock alone. -/
theorem Blocked.of_same {f : MarkerFile} {w w' : World} (h : Blocked s f w)
    (hkept : ∀ g ∈ w.files, ∃ g' ∈ w'.files, g.Grew g') (hcreated : w.created ≤ w'.created)
    (hflock : w'.flock = w.flock) (hsince : w'.flockSince = w.flockSince)
    (hbody : w'.body = w.body) (hclearance : w'.clearance = w.clearance) : Blocked s f w' where
  there := by
    obtain ⟨g, hg, hgrew⟩ := h.there
    obtain ⟨g', hg', hgrew'⟩ := hkept g hg
    exact ⟨g', hg', hgrew.trans hgrew'⟩
  older := h.older.trans_le hcreated
  writer := by rw [hflock, hsince, hbody]; exact h.writer
  own := by rw [hflock, hsince, hbody]; exact h.own
  cleared := by rw [hflock, hclearance]; exact h.cleared

theorem Blocked.not_enterBody {f : MarkerFile} {c : CallId} {w w' : World} {a : Unit}
    (h : Blocked s f w) (hg : Guarantee s c w .enterBody a w') : False := by
  obtain ⟨hcall, hflock, hbefore, -, -, hall⟩ := hg
  obtain ⟨g, hmem, hgrew⟩ := h.there
  have hle : w.flockSince ≤ f.serial := hgrew.serial ▸ hall g hmem
  exact absurd (h.writer c hflock hcall hbefore) (Nat.not_lt.2 hle)

theorem Blocked.unlink {f f₀ : MarkerFile} {c : CallId} {w w' : World} {name : MarkerName}
    (h : Blocked s f w) (hg : Guarantee s c w (.unlink name) (.ok ()) w')
    (found : w.files.find? name = some f₀) : f.name ≠ name := by
  obtain ⟨hflock, hmay⟩ := hg
  obtain ⟨hmem₀, hname₀⟩ := Table.find?_eq_some_iff.1 found
  obtain ⟨g, hmem, hgrew⟩ := h.there
  rintro rfl
  obtain rfl : f₀ = g := Table.eq_of_key hmem₀ hmem (hname₀.trans hgrew.name.symm)
  rcases hmay f₀ found with ⟨hactive, hsince, hended⟩ | ⟨captured, hcompleted, hlt, i, hi, hnames⟩
  · rw [hgrew.serial] at hsince
    have hlt := h.own c hflock (.inr hended) (hname₀.symm.trans hactive)
    exact absurd hlt (Nat.not_lt.2 hsince)
  · refine h.cleared c captured hflock hcompleted ⟨hgrew.serial ▸ hlt, i, hi, ?_⟩
    exact hnames.path.trans hname₀

theorem Blocked.outside {f : MarkerFile} {w w' : World} {n : Outside} (h : Blocked s f w)
    (hn : outside s.process w n = some w') : Blocked s f w' := by
  cases n with
  | crash p inherited =>
    have hcall : ∀ c, w'.flock = some (.call c) → w.flock = some (.call c) ∧ s.process c ≠ p := by
      cases hn
      intro c hc
      dsimp only at hc
      split at hc
      · next d hd =>
        by_cases hp : s.process d = p
        · rw [if_pos hp] at hc
          cases inherited <;> cases hc
        · rw [if_neg hp, hd] at hc
          cases hc
          exact ⟨hd, hp⟩
      · next hd => exact absurd hc (hd c)
    cases hn
    constructor
    · exact h.there
    · exact h.older
    · intro c hc hwriter hbefore
      obtain ⟨hflock, hp⟩ := hcall c hc
      exact h.writer c hflock hwriter (by simpa [hp] using hbefore)
    · intro c hc hbody
      obtain ⟨hflock, hp⟩ := hcall c hc
      exact h.own c hflock (by simpa [hp] using hbody)
    · intro c captured hc hcompleted
      obtain ⟨hflock, hp⟩ := hcall c hc
      exact h.cleared c captured hflock (by simpa [hp] using hcompleted)
  | childrenEnd =>
    simp only [WriterLock.outside] at hn
    split_ifs at hn with hchildren
    cases hn
    exact .of_flock h.there h.older (by simp)

/-- One operation: the marker keeps bodies out, or a clearance of it completes its body. -/
theorem Blocked.change {f : MarkerFile} {c : CallId} {w w' : World} {op : Op} {a : Answer op}
    (h : Blocked s f w) (hi : Inv s w) (change : Change (s.process c) c w op a w')
    (hg : Guarantee s c w op a w') :
    Blocked s f w' ∨ (PoolEvent.act c op a : LockEvent) = .act c .leaveClearance true ∧
      ∃ captured, w.clearance c = .inside captured ∧ f.serial < captured.scannedAt ∧
        ∃ i ∈ captured.identities, i.path = f.name := by
  have hrefl : ∀ g ∈ w.files, ∃ g' ∈ w.files, g.Grew g' := fun g hg => ⟨g, hg, .refl g⟩
  cases change with
  | same => exact .inl h
  | capacity taken => exact .inl (h.of_same hrefl le_rfl rfl rfl rfl rfl)
  | lock hop free =>
    have hidle : w.body c = .before ∧ w.clearance c = .before := by
      rcases hop with rfl | rfl
      · exact hg
      · exact hg
    refine .inl ⟨h.there, h.older, fun d hd _ _ => h.older, fun d hd _ _ => h.older,
      fun d captured hd hcompleted => ?_⟩
    cases hd
    simp [hidle.2] at hcompleted
  | @unlock inherited held =>
    refine .inl (.of_flock h.there h.older fun d hd => ?_)
    cases inherited <;> simp at hd
  | create inserted =>
    exact .inl (h.of_same (fun g hg => ⟨g, (Table.mem_insert? inserted).2 (.inl hg), .refl g⟩)
      (Nat.le_succ _) rfl rfl rfl rfl)
  | append hd bytes =>
    exact .inl (h.of_same (fun g hg => World.append_kept hd bytes hg) le_rfl rfl rfl rfl rfl)
  | unlink found =>
    have hname := h.unlink hg found
    obtain ⟨g, hmem, hgrew⟩ := h.there
    have hkept := World.delete_kept hmem (hgrew.name.trans_ne hname)
    exact .inl ⟨⟨g, hkept, hgrew⟩, h.older, h.writer, h.own, h.cleared⟩
  | scan listed => exact .inl (h.of_same hrefl le_rfl rfl rfl rfl rfl)
  | enterBody => exact (h.not_enterBody hg).elim
  | leaveBody =>
    have hinside : w.body c = .inside := hg
    have hflock := (hi.inside c hinside).1
    refine .inl ⟨h.there, h.older, fun d hd hcall hbefore => ?_, fun d hd hbody hactive => ?_,
      h.cleared⟩
    · rw [hflock] at hd
      cases hd
      simp at hbefore
    · rw [hflock] at hd
      cases hd
      exact h.own c hflock (.inl hinside) hactive
  | markUnsafe e => exact .inl (h.of_same hrefl le_rfl rfl rfl rfl rfl)
  | enterClearance =>
    refine .inl ⟨h.there, h.older, h.writer, h.own, fun d captured hd hcompleted => ?_⟩
    have hd : w.flock = some (.call d) := hd
    rw [hg.1] at hd
    cases hd
    simp [World.setClearance] at hcompleted
  | @leaveClearance returned captured inside =>
    have hflock := (hi.clearing c captured inside).1
    by_cases hcap : returned = true ∧ f.serial < captured.scannedAt ∧
        ∃ i ∈ captured.identities, i.path = f.name
    · obtain ⟨rfl, hlt, hpath⟩ := hcap
      exact .inr ⟨rfl, captured, inside, hlt, hpath⟩
    · refine .inl ⟨h.there, h.older, h.writer, h.own, fun d captured' hd hcompleted hnot => hcap ?_⟩
      have hd : w.flock = some (.call d) := hd
      rw [hflock] at hd
      cases hd
      cases returned with
      | false => simp [World.setClearance] at hcompleted
      | true =>
        obtain rfl : captured = captured' := by simpa [World.setClearance] using hcompleted
        exact ⟨rfl, hnot⟩

theorem Blocked.step {f : MarkerFile} {x : LockTransition} (h : Blocked s f x.pre.shared)
    (hi : Inv s x.pre.shared) (hx : Happens s x.pre.shared x.label x.post.shared) :
    (∃ c, CompletesClearance s c x f) ∧ ¬ StartsBody x ∨
      Blocked s f x.post.shared ∧ ¬ StartsBody x := by
  have hnot : ¬ StartsBody x := by
    rintro ⟨c, hc⟩
    rw [hc] at hx
    cases hx with
    | act done guarantee => exact h.not_enterBody guarantee
  obtain ⟨⟨w, threads⟩, label, ⟨w', threads'⟩⟩ := x
  simp only at h hi hx
  cases hx with
  | outside hn => exact .inr ⟨h.outside hn, hnot⟩
  | @act c op a _ _ done guarantee =>
    rcases h.change hi (exec_change done) guarantee with hblocked | hcleared
    · exact .inr ⟨hblocked, hnot⟩
    · obtain ⟨hlabel, captured, hinside, hlt, i, hmem, hpath⟩ := hcleared
      refine .inl ⟨⟨c, hlabel, captured, hinside,
        (hi.confirmed c captured (.inl hinside)).1, hlt, i,
        hmem, ?_⟩, hnot⟩
      obtain ⟨g, hg, hnames, -⟩ := (hi.clearing c captured hinside).2 i hmem
      obtain ⟨f', hf', hgrew⟩ := h.there
      have hname : key f' = key g := hgrew.name.trans (hpath.symm.trans hnames.path)
      exact ⟨f', hf', ⟨hgrew.name, hgrew.serial⟩, Table.eq_of_key hf' hg hname ▸ hnames⟩

/-- What leaves a marker behind makes it keep later bodies out. -/
theorem Blocks.blocked {xs : List LockTransition} {f : MarkerFile} {x : LockTransition}
    (h : Blocks s xs x f) (hi : Inv s x.pre.shared)
    (hlease : ∀ c, (∃ v ∈ xs, MarksUnsafe c v) → x.pre.shared.leaseSafe c = false)
    (hx : Happens s x.pre.shared x.label x.post.shared) : Blocked s f x.post.shared := by
  obtain ⟨⟨w, threads⟩, label, ⟨w', threads'⟩⟩ := x
  simp only at hi hlease hx ⊢
  cases h with
  | @crash c p inherited hlabel process inside mem active =>
    obtain rfl : label = .outside (.crash p inherited) := hlabel
    cases hx with
    | outside hn =>
      cases hn
      refine .of_flock ⟨f, mem, .refl f⟩ (hi.counted f mem) fun d => ?_
      have hflock := (hi.inside c inside).1
      cases inherited <;> simp [hflock, process]
  | @quarantined c returned hlabel marked mem active =>
    obtain rfl : label = .act c .leaveBody returned := hlabel
    cases hx with
    | act done guarantee =>
      cases done
      have hinside : w.body c = .inside := guarantee
      have hflock := (hi.inside c hinside).1
      have hclear : w.clearance c = .before := by
        rcases hi.one c with h | h
        · simp [hinside] at h
        · exact h
      have hlease := hlease c marked
      refine ⟨⟨f, mem, .refl f⟩, hi.counted f mem, fun d hd _ hbefore => ?_,
        fun d hd hbody _ => ?_, fun d captured hd hcompleted => ?_⟩
      all_goals
        have hd : w.flock = some (.call d) := hd
        rw [hflock] at hd
        cases hd
      · simp at hbefore
      · simp [hlease] at hbody
      · simp [hclear] at hcompleted
  | @recovery c handle device inode hlabel quarantine mem noWriter =>
    obtain rfl : label = .act c (.create f.name) (.ok (handle, device, inode)) := hlabel
    cases hx with
    | act done guarantee =>
      simp only [exec] at done
      split_ifs at done
      obtain ⟨files, hfiles, rfl⟩ := Option.map_eq_some_iff.1 done
      have hnew : f = ⟨f.name, w.created, device, inode, []⟩ := by
        rcases (Table.mem_insert? hfiles).1 mem with hold | hnew
        · exact absurd rfl (Table.insert?_fresh hfiles f hold)
        · exact hnew
      have hserial : f.serial = w.created := congrArg MarkerFile.serial hnew
      refine ⟨⟨f, mem, .refl f⟩, hserial ▸ Nat.lt_succ_self _, fun d hd hcall _ => ?_,
        fun d _ _ hactive => ?_, fun d captured hd hcompleted => ?_⟩
      · exact absurd hcall (noWriter d hd)
      · rw [hactive] at quarantine
        cases quarantine
      · rintro ⟨hlt, -⟩
        have hle := (hi.confirmed d captured (.inr hcompleted)).2
        exact absurd hlt (Nat.not_lt.2 (hserial ▸ hle))

/-- Nothing outside sets a stage but to failed, or counts or renames a marker. -/
theorem outside_same {w w' : World} {n : Outside} (h : outside s.process w n = some w') :
    w'.files = w.files ∧ w'.created = w.created ∧ w'.scannedAt = w.scannedAt ∧
      (∀ c, w'.clearance c = w.clearance c ∨
        w'.clearance c = .failed ∧ ∃ captured, w.clearance c = .inside captured) ∧
      ∀ c, w.body c ≠ .before → w'.body c ≠ .before := by
  cases n with
  | crash p inherited =>
    cases h
    refine ⟨rfl, rfl, rfl, fun c => ?_, fun c hc => ?_⟩
    · by_cases hp : s.process c = p
      · simp only [hp, if_true]
        cases hc : w.clearance c with
        | inside captured => exact .inr ⟨rfl, captured, rfl⟩
        | _ => exact .inl rfl
      · exact .inl (by simp [hp])
    · by_cases hp : s.process c = p
      · simpa [hp, BodyState.crash_eq_before] using hc
      · simpa [hp] using hc
  | childrenEnd =>
    simp only [WriterLock.outside] at h
    split_ifs at h
    cases h
    exact ⟨rfl, rfl, rfl, fun c => .inl rfl, fun c hc => hc⟩

theorem Happens.enters {w w' : World} {e : LockEvent} {c : CallId} {captured : Capture}
    (h : Happens s w e w') (hpre : w.clearance c ≠ .inside captured)
    (hpost : w'.clearance c = .inside captured) : captured.scannedAt = w.scannedAt c := by
  cases h with
  | outside hn =>
    rcases (outside_same hn).2.2.2.1 c with hc | ⟨hc, -⟩
    · exact absurd (hc.symm.trans hpost) hpre
    · rw [hc] at hpost
      cases hpost
  | @act d op a _ _ done guarantee =>
    have hchange := exec_change done
    cases hchange with
    | enterClearance =>
      by_cases hcd : c = d
      · subst hcd
        simp only [World.setClearance, Function.update_self] at hpost
        cases hpost
        rfl
      · exact absurd (by simpa [World.setClearance, Function.update_of_ne hcd] using hpost) hpre
    | @leaveClearance returned =>
      by_cases hcd : c = d
      · subst hcd
        cases returned <;> simp [World.setClearance] at hpost
      · exact absurd (by simpa [World.setClearance, Function.update_of_ne hcd] using hpost) hpre
    | _ => exact absurd hpost hpre

theorem Happens.completes {w w' : World} {e : LockEvent} {c : CallId} {captured : Capture}
    (h : Happens s w e w') (hpre : w.clearance c ≠ .completed captured)
    (hpost : w'.clearance c = .completed captured) :
    e = .act c .leaveClearance true ∧ w.clearance c = .inside captured := by
  cases h with
  | outside hn =>
    rcases (outside_same hn).2.2.2.1 c with hc | ⟨hc, -⟩
    · exact absurd (hc.symm.trans hpost) hpre
    · rw [hc] at hpost
      cases hpost
  | @act d op a _ _ done guarantee =>
    have hchange := exec_change done
    cases hchange with
    | enterClearance =>
      by_cases hcd : c = d
      · subst hcd
        simp [World.setClearance] at hpost
      · exact absurd (by simpa [World.setClearance, Function.update_of_ne hcd] using hpost) hpre
    | @leaveClearance returned captured' inside =>
      by_cases hcd : c = d
      · subst hcd
        cases returned with
        | false => simp [World.setClearance] at hpost
        | true =>
          obtain rfl : captured' = captured := by simpa [World.setClearance] using hpost
          exact ⟨rfl, inside⟩
      · exact absurd (by simpa [World.setClearance, Function.update_of_ne hcd] using hpost) hpre
    | _ => exact absurd hpost hpre

theorem Happens.scans {w w' : World} {e : LockEvent} {c : CallId} {k : ℕ}
    (h : Happens s w e w') (hpre : w.scannedAt c ≠ k) (hpost : w'.scannedAt c = k) :
    (∃ names, e = .act c .scandir (.ok names)) ∧ w.created = k := by
  cases h with
  | outside hn =>
    rw [(outside_same hn).2.2.1] at hpost
    exact absurd hpost hpre
  | @act d op a _ _ done guarantee =>
    have hchange := exec_change done
    cases hchange with
    | scan =>
      by_cases hcd : c = d
      · subst hcd
        exact ⟨⟨_, rfl⟩, by simpa using hpost⟩
      · exact absurd (by simpa [Function.update_of_ne hcd] using hpost) hpre
    | _ => exact absurd hpost hpre

/-- A marker is from before the step, or counted from it on. -/
theorem Happens.fresh {w w' : World} {e : LockEvent} (h : Happens s w e w') :
    w.created ≤ w'.created ∧
      ∀ f' ∈ w'.files, (∃ f ∈ w.files, f.Grew f') ∨ w.created ≤ f'.serial := by
  cases h with
  | outside hn =>
    obtain ⟨hfiles, hcreated, -⟩ := outside_same hn
    exact ⟨hcreated.ge, fun f' hf' => .inl ⟨f', hfiles ▸ hf', .refl f'⟩⟩
  | @act d op a _ _ done guarantee =>
    have hrely := (exec_change done).rely guarantee (Nat.ne_of_lt (Nat.lt_succ_self d))
    exact ⟨hrely.created, hrely.fresh⟩

/-- A stage that is over stays as it is. -/
theorem Happens.stays {w w' : World} {e : LockEvent} (c : CallId) (h : Happens s w e w') :
    (w.clearance c = .failed → w'.clearance c = .failed) ∧
      (∀ captured, w.clearance c = .completed captured → w'.clearance c = .completed captured) ∧
      (w.body c ≠ .before → w'.body c ≠ .before) := by
  cases h with
  | outside hn =>
    obtain ⟨-, -, -, hclear, hbody⟩ := outside_same hn
    refine ⟨fun h => ?_, fun captured h => ?_, hbody c⟩
    · rcases hclear c with hc | ⟨hc, -⟩
      · exact hc.trans h
      · exact hc
    · rcases hclear c with hc | ⟨-, captured', hc⟩
      · exact hc.trans h
      · simp [hc] at h
  | @act d op a _ _ done guarantee =>
    have hchange := exec_change done
    by_cases hcd : c = d
    · subst hcd
      cases hchange with
      | enterBody => exact ⟨id, fun _ => id, fun _ => by simp⟩
      | leaveBody => exact ⟨id, fun _ => id, fun _ => by simp⟩
      | enterClearance =>
        have hbefore := guarantee.2.2.1
        exact ⟨fun h => by simp [hbefore] at h, fun _ h => by simp [hbefore] at h, id⟩
      | leaveClearance inside =>
        exact ⟨fun h => by simp [inside] at h, fun _ h => by simp [inside] at h, id⟩
      | _ => exact ⟨id, fun _ => id, id⟩
    · cases hchange with
      | enterBody | leaveBody => exact ⟨id, fun _ => id, by simp [Function.update_of_ne hcd]⟩
      | enterClearance | leaveClearance =>
        exact ⟨by simp [World.setClearance, Function.update_of_ne hcd],
          by simp [World.setClearance, Function.update_of_ne hcd], id⟩
      | _ => exact ⟨id, fun _ => id, id⟩

theorem Happens.staysUnsafe {w w' : World} {e : LockEvent} {c : CallId} (h : Happens s w e w')
    (hsafe : w.leaseSafe c = false) (hbody : w.body c ≠ .before) : w'.leaseSafe c = false := by
  cases h with
  | @outside n _ _ hn =>
    cases n with
    | crash p inherited =>
      cases hn
      exact hsafe
    | childrenEnd =>
      simp only [WriterLock.outside] at hn
      split_ifs at hn
      cases hn
      exact hsafe
  | @act d op a _ _ done guarantee =>
    have hchange := exec_change done
    cases hchange with
    | enterBody =>
      by_cases hcd : c = d
      · subst hcd
        exact absurd guarantee.2.2.1 hbody
      · exact (Function.update_of_ne hcd _ _).trans hsafe
    | markUnsafe e =>
      by_cases hce : c = e
      · subst hce
        exact Function.update_self _ _ _
      · exact (Function.update_of_ne hce _ _).trans hsafe
    | _ => exact hsafe

section Runs

variable {xs : List LockTransition} {p : LockPool}

theorem prefix_of_mem {xs : List LockTransition} {x : LockTransition}
    (h : Run (machine s).Step s.pool xs p) (hx : x ∈ xs) :
    ∃ ys zs, xs = ys ++ x :: zs ∧ Run (machine s).Step s.pool ys x.pre := by
  obtain ⟨ys, zs, rfl⟩ := List.append_of_mem hx
  exact ⟨ys, zs, rfl, h.split.1⟩

theorem completed_of_run (h : Run (machine s).Step s.pool xs p) {c : CallId} {captured : Capture}
    (hc : p.shared.clearance c = .completed captured) :
    ∃ z ∈ xs, z.label = .act c .leaveClearance true ∧
      z.pre.shared.clearance c = .inside captured := by
  obtain ⟨z, hz, hpre, hpost⟩ := h.caused (Q := fun p => p.shared.clearance c = .completed captured)
    (by simp [Setup.pool, World.initial]) hc
  exact ⟨z, hz, (run_happens h z hz).2.completes hpre hpost⟩

theorem scanned_of_run (h : Run (machine s).Step s.pool xs p) {c : CallId} {captured : Capture}
    (hc : p.shared.clearance c = .inside captured) (hpos : 0 < captured.scannedAt) :
    ∃ y ∈ xs, (∃ names, y.label = .act c .scandir (.ok names)) ∧
      y.pre.shared.created = captured.scannedAt := by
  obtain ⟨e, he, hpre, hpost⟩ := h.caused (Q := fun p => p.shared.clearance c = .inside captured)
    (by simp [Setup.pool, World.initial]) hc
  have hscanned := (run_happens h e he).2.enters hpre hpost
  obtain ⟨ys, zs, rfl, hys⟩ := prefix_of_mem h he
  obtain ⟨y, hy, hpre, hpost⟩ := hys.caused
    (Q := fun p => p.shared.scannedAt c = captured.scannedAt)
    (by simpa [Setup.pool, World.initial] using (Nat.ne_of_lt hpos)) hscanned.symm
  exact ⟨y, List.mem_append_left _ hy, (run_happens hys y hy).2.scans hpre hpost⟩

/-- A marker counted before some state of a run was in the directory of that state. -/
theorem older_of_run {q : LockPool} (h : Run (machine s).Step p xs q)
    (hx : ∀ x ∈ xs, Happens s x.pre.shared x.label x.post.shared) {f : MarkerFile}
    (hf : f ∈ q.shared.files) (hlt : f.serial < p.shared.created) :
    ∃ g ∈ p.shared.files, g.Grew f := by
  let older := fun q : LockPool => p.shared.created ≤ q.shared.created ∧
    ∀ f ∈ q.shared.files, f.serial < p.shared.created → ∃ g ∈ p.shared.files, g.Grew f
  have hinit : older p := ⟨le_rfl, fun f hf _ => ⟨f, hf, .refl f⟩⟩
  have hlast : older q := by
    refine h.keeps hinit fun x hxs ⟨hle, hall⟩ => ?_
    obtain ⟨hcreated, hfresh⟩ := (hx x hxs).fresh
    refine ⟨hle.trans hcreated, fun f' hf' hlt => ?_⟩
    rcases hfresh f' hf' with ⟨f, hf, hgrew⟩ | hge
    · obtain ⟨g, hg, hgrew'⟩ := hall f hf (hgrew.serial ▸ hlt)
      exact ⟨g, hg, hgrew'.trans hgrew⟩
    · exact absurd hlt (Nat.not_lt.2 (hle.trans hge))
  exact hlast.2 f hf hlt

theorem unsafe_of_run (h : Run (machine s).Step s.pool xs p) {c : CallId}
    (hmarked : ∃ v ∈ xs, MarksUnsafe c v) : p.shared.leaseSafe c = false := by
  obtain ⟨v, hv, ⟨d, hlabel⟩, hinside⟩ := hmarked
  have hhappens := run_happens h
  have hmark := (hhappens v hv).2
  obtain ⟨ys, zs, rfl⟩ := List.append_of_mem hv
  have hpost : v.post.shared.leaseSafe c = false ∧ v.post.shared.body c ≠ .before := by
    refine ⟨?_, (hmark.stays c).2.2 (by simp [hinside])⟩
    rw [hlabel] at hmark
    cases hmark with
    | act done guarantee =>
      rw [← Option.some.inj done]
      exact Function.update_self _ _ _
  refine (h.split.2.2.keeps (Q := fun p => p.shared.leaseSafe c = false ∧ p.shared.body c ≠ .before)
    hpost fun z hz ⟨hsafe, hbody⟩ => ?_).1
  have hz := (hhappens z (by simp [hz])).2
  exact ⟨hz.staysUnsafe hsafe hbody, (hz.stays c).2.2 hbody⟩

/-- What remains of a call of `quarantine_active_writer`; it has marked the other leases. -/
theorem marks_of_run (h : Run (machine s).Step s.pool xs p) {d : CallId} {leases : List CallId}
    (hcall : s.call d = .quarantineActive leases) {q : FileProg Unit}
    (hq : p.threads d = some q) : ∃ marked rest, leases = marked ++ rest ∧
      q = quarantineActiveWriter rest ∧
      ∀ c ∈ marked, ∃ v ∈ xs, v.label = .act d (.markUnsafe c) () := by
  let marks := fun (ys : List LockTransition) (p : LockPool) => ∀ q, p.threads d = some q →
    ∃ marked rest, leases = marked ++ rest ∧ q = quarantineActiveWriter rest ∧
      ∀ c ∈ marked, ∃ v ∈ ys, v.label = .act d (.markUnsafe c) ()
  have hinit : marks [] s.pool := by
    intro q hq
    cases hq
    exact ⟨[], leases, rfl, by rw [hcall]; rfl, by simp⟩
  refine h.history (Q := marks) hinit (fun ys x _ hys hx q hq => ?_) q hq
  have hmore : ∀ {c}, (∃ v ∈ ys, v.label = .act d (.markUnsafe c) ()) →
      ∃ v ∈ ys ++ [x], v.label = .act d (.markUnsafe c) () :=
    fun ⟨v, hv, hlabel⟩ => ⟨v, List.mem_append_left _ hv, hlabel⟩
  obtain ⟨pre, label, post⟩ := x
  cases label with
  | outside n =>
    rw [(Machine.step_outside_iff.1 hx).2] at hq
    dsimp only at hq
    split_ifs at hq
    obtain ⟨marked, rest, hleases, hrest, hall⟩ := hys q hq
    exact ⟨marked, rest, hleases, hrest, fun c hc => hmore (hall c hc)⟩
  | act e op a =>
    obtain ⟨next, hthread, -, hthreads⟩ := Machine.step_act_iff.1 hx
    rw [hthreads] at hq
    by_cases hde : d = e
    · subst hde
      rw [Function.update_self] at hq
      cases hq
      obtain ⟨marked, rest, hleases, hrest, hall⟩ := hys _ hthread
      cases rest with
      | nil => cases hrest
      | cons lease rest =>
        cases hrest
        refine ⟨marked ++ [lease], rest, by simp [hleases], rfl, fun c hc => ?_⟩
        rcases List.mem_append.1 hc with hc | hc
        · exact hmore (hall c hc)
        · obtain rfl := List.mem_singleton.1 hc
          exact ⟨_, List.mem_concat_self, rfl⟩
    · rw [Function.update_of_ne hde] at hq
      obtain ⟨marked, rest, hleases, hrest, hall⟩ := hys q hq
      exact ⟨marked, rest, hleases, hrest, fun c hc => hmore (hall c hc)⟩

theorem Removes.mayRemove {x : LockTransition} {c : CallId} {f : MarkerFile}
    (h : Removes c x f) (hx : Happens s x.pre.shared x.label x.post.shared) :
    MayRemove c x.pre.shared f := by
  obtain ⟨hlabel, hmem⟩ := h
  rw [hlabel] at hx
  cases hx with
  | act done guarantee => exact guarantee.2 f (Table.find?_eq_some_iff.2 ⟨hmem, rfl⟩)

/-- While a marker keeps bodies out, one starts only after a clearance of it. -/
theorem Blocked.until {q r : LockPool} {f : MarkerFile} (h : Run (machine s).Step q xs r)
    (hx : ∀ x ∈ xs, Inv s x.pre.shared ∧ Happens s x.pre.shared x.label x.post.shared)
    (hb : Blocked s f q.shared) {xs₁ xs₂ : List LockTransition} {y : LockTransition}
    (hxs : xs = xs₁ ++ y :: xs₂) (hy : StartsBody y) :
    ∃ z ∈ xs₁, ∃ c, CompletesClearance s c z f :=
  (h.first_good (p := fun q => Blocked s f q.shared) hb
    fun x hmem hb => hb.step (hx x hmem).1 (hx x hmem).2).1 xs₁ y xs₂ hxs hy

theorem cleared_of_run (h : Run (machine s).Step s.pool xs p) {f : MarkerFile} {c : CallId}
    {captured : Capture} (hf : f ∈ p.shared.files)
    (hc : p.shared.clearance c = .completed captured) (hlt : f.serial < captured.scannedAt)
    (hpath : ∃ i ∈ captured.identities, i.path = f.name) :
    ∃ z ∈ xs, CompletesClearance s c z f ∧ z.pre.shared.clearance c = .inside captured := by
  obtain ⟨z, hz, hlabel, hinside⟩ := completed_of_run h hc
  have hhappens := run_happens h
  have hi := (hhappens z hz).1
  obtain ⟨hconfirmed, hle⟩ := hi.confirmed c captured (.inl hinside)
  obtain ⟨i, himem, hpath⟩ := hpath
  obtain ⟨g, hg, hnames, -⟩ := (hi.clearing c captured hinside).2 i himem
  obtain ⟨ys, zs, rfl⟩ := List.append_of_mem hz
  obtain ⟨-, hstep, hrest⟩ := h.split
  obtain ⟨g', hg', hgrew⟩ := older_of_run ((Run.single hstep).append hrest)
    (fun x hx => (hhappens x (List.mem_append_right _ hx)).2) hf (hlt.trans_le hle)
  have hname : key g' = key g := hgrew.name.symm.trans (hpath.symm.trans hnames.path)
  obtain rfl : g' = g := Table.eq_of_key hg' hg hname
  exact ⟨z, hz, ⟨hlabel, captured, hinside, hconfirmed, hlt, i, himem, g', hg',
    ⟨hgrew.name.symm, hgrew.serial.symm⟩, hnames⟩, hinside⟩

/-- A clearance whose body failed never may remove a marker, before or after. -/
theorem failed_of_run (h : Run (machine s).Step s.pool xs p) {x y : LockTransition} {c : CallId}
    {f : MarkerFile} (hx : x ∈ xs) (hfail : x.label = .act c .leaveClearance false) (hy : y ∈ xs) :
    ¬ Removes c y f := by
  intro hremoves
  have hhappens := run_happens h
  have hmay := hremoves.mayRemove (hhappens y hy).2
  obtain ⟨ys, zs, rfl⟩ := List.append_of_mem hx
  obtain ⟨hpre, hstep, hrest⟩ := h.split
  obtain ⟨captured, hinside, hfailed⟩ : ∃ captured, x.pre.shared.clearance c = .inside captured ∧
      x.post.shared.clearance c = .failed := by
    have hhappens := (hhappens x hx).2
    rw [hfail] at hhappens
    cases hhappens with
    | act done guarantee =>
      simp only [exec] at done
      split at done
      · next captured hcaptured =>
        refine ⟨captured, hcaptured, ?_⟩
        rw [← Option.some.inj done]
        exact Function.update_self _ _ _
      · cases done
  have hone := (hhappens y hy).1.one c
  rcases List.mem_append.1 hy with hys | hzs
  · -- before: what allowed the removal would still hold at the failure
    obtain ⟨us, vs, rfl⟩ := List.append_of_mem hys
    have hback := hpre.split.2.1
    have hrun := (Run.single hback).append hpre.split.2.2
    have hstays : ∀ z ∈ [y] ++ vs, Happens s z.pre.shared z.label z.post.shared :=
      fun z hz => (hhappens z (by simp at hz ⊢; tauto)).2
    rcases hmay with ⟨-, -, hended⟩ | ⟨captured', hcompleted, -⟩
    · have hbody := hrun.keeps (Q := fun p => p.shared.body c ≠ .before) (by simp [hended])
        fun z hz => ((hstays z hz).stays c).2.2
      rcases (hhappens x hx).1.one c with hbefore | hbefore
      · exact hbody hbefore
      · simp [hinside] at hbefore
    · have hkept := hrun.keeps (Q := fun p => p.shared.clearance c = .completed captured')
        hcompleted fun z hz => ((hstays z hz).stays c).2.1 captured'
      simp [hinside] at hkept
  · rcases List.mem_cons.1 hzs with rfl | hzs
    · rw [hremoves.1] at hfail
      cases hfail
    · obtain ⟨us, vs, rfl⟩ := List.append_of_mem hzs
      have hkept := hrest.split.1.keeps (Q := fun p => p.shared.clearance c = .failed) hfailed
        fun z hz => ((hhappens z (by simp [hz])).2.stays c).1
      rcases hmay with ⟨-, -, hended⟩ | ⟨captured', hcompleted, -⟩
      · simp [hended, hkept] at hone
      · simp [hkept] at hcompleted

end Runs

/-- The lock fails closed over every run of its calls. -/
theorem writer_lock_fails_closed (s : Setup) {xs : List LockTransition} {p : LockPool}
    (h : Run (machine s).Step s.pool xs p) : FailsClosed s xs := by
  have hhappens := run_happens h
  constructor
  · intro x hx c d hc hd
    have hi := (hhappens x hx).2.inv (hhappens x hx).1
    have hflock := (hi.inside c hc).1
    rw [(hi.inside d hd).1] at hflock
    cases hflock
    rfl
  · intro x hx w hw c hc
    obtain ⟨hi, hx⟩ := hhappens x hx
    rcases List.mem_pair.1 hw with rfl | rfl
    · exact (hi.inside c hc).2
    · exact ((hx.inv hi).inside c hc).2
  · rintro xs₁ x xs₂ rfl d leases hcall hdone c hc
    obtain ⟨hpre, hstep, -⟩ := h.split
    obtain ⟨marked, rest, rfl, hrest, hall⟩ := marks_of_run (hpre.snoc hstep) hcall hdone
    cases rest with
    | nil => exact hall c (by simpa using hc)
    | cons lease rest => cases hrest
  · rintro xs₁ x xs₂ y xs₃ rfl f hblocks hy
    obtain ⟨hi, hx⟩ := hhappens x (by simp)
    have hlease := fun c => unsafe_of_run (c := c) h.split.1
    exact (hblocks.blocked hi hlease hx).until h.split.2.2
      (fun z hz => hhappens z (by simp [hz])) rfl hy
  · rintro xs₁ x xs₂ y xs₃ rfl f hf hquarantine hwriter hy
    obtain ⟨hi, hx⟩ := hhappens x (by simp)
    have hi := hx.inv hi
    obtain ⟨hpre, hstep, hrest⟩ := h.split
    by_cases hcleared : ∃ c captured, x.post.shared.clearance c = .completed captured ∧
        f.serial < captured.scannedAt ∧ ∃ i ∈ captured.identities, i.path = f.name
    · obtain ⟨c, captured, hc, hlt, hpath⟩ := hcleared
      obtain ⟨z, hz, hclears, -⟩ := cleared_of_run (hpre.snoc hstep) hf hc hlt hpath
      refine ⟨z, ?_, c, hclears⟩
      rcases List.mem_append.1 hz with hz | hz
      · exact List.mem_append_left _ hz
      · exact List.mem_append_right _ (List.mem_cons.2 (.inl (List.mem_singleton.1 hz)))
    · have hblocked : Blocked s f x.post.shared := by
        refine ⟨⟨f, hf, .refl f⟩, hi.counted f hf, fun d hd hcall => absurd hcall (hwriter d hd),
          fun d _ _ hactive => ?_, fun c captured _ hc hnot => hcleared ⟨c, captured, hc, hnot⟩⟩
        rw [hactive] at hquarantine
        cases hquarantine
      obtain ⟨z, hz, hclears⟩ := hblocked.until hrest (fun z hz => hhappens z (by simp [hz])) rfl hy
      exact ⟨z, by simp [hz], hclears⟩
  · rintro xs₁ x xs₂ rfl c f hremoves hcall
    obtain ⟨hi, hx⟩ := hhappens x (by simp)
    rcases hremoves.mayRemove hx with ⟨-, -, hended⟩ | ⟨captured, hc, hlt, i, himem, hnames⟩
    · exact absurd (hi.writer c (by simp [hended])) hcall
    · have hpre := h.split.1
      obtain ⟨z, hz, hclears, hinside⟩ :=
        cleared_of_run hpre hremoves.2 hc hlt ⟨i, himem, hnames.path⟩
      refine ⟨⟨z, hz, hclears⟩, ?_⟩
      obtain ⟨ys, zs, rfl, hys⟩ := prefix_of_mem hpre hz
      obtain ⟨y, hy, hscan, hcount⟩ := scanned_of_run hys hinside (Nat.zero_lt_of_lt hlt)
      refine ⟨y, List.mem_append_left _ hy, hscan, ?_⟩
      obtain ⟨us, vs, rfl⟩ := List.append_of_mem hy
      have hsplit : us ++ y :: vs ++ z :: zs = us ++ y :: (vs ++ z :: zs) := by simp
      rw [hsplit] at hpre
      obtain ⟨-, hstep, hrest⟩ := hpre.split
      exact older_of_run ((Run.single hstep).append hrest)
        (fun x hx => (hhappens x (by simp at hx ⊢; tauto)).2) hremoves.2 (hcount ▸ hlt)
  · exact fun x hx c hfail y hy f => failed_of_run h hx hfail hy

def privateDirectory : PathStat := ⟨false, true, false, true, false⟩

def privateFile : PathStat := ⟨false, false, true, true, false⟩

def token : PyStr := List.replicate 64 48

def markerBytes : PyStr := PyStr.ofString "v1:" ++ token ++ [10]

def lockName : PyStr := PyStr.ofString "writer.lock"

def deadMarker : MarkerIdentity := ⟨.active, token, 1, 2⟩

def deadState : WriterMarkerState := markerState lockName (some deadMarker) []

/-- Writers, of which call 0 dies, a clearance after it, and a quarantine of call 3. -/
def writers : Setup where
  path := ⟨true, lockName⟩
  call
    | 2 => .clearance deadState.sha256 true
    | 4 => .quarantineActive [3]
    | _ => .writer true
  process
    | 4 => 3
    | c => c

def validates (c : CallId) : List LockEvent :=
  [.act c .lstatParent (.ok privateDirectory), .act c .resolveParent (.ok true),
   .act c .accessParent true, .act c .lstatLock (.ok privateFile)]

def opensLock (c : CallId) : List LockEvent :=
  validates c ++
  ([.act c .openParent (.ok ()), .act c .openLock (.ok ()), .act c .fstatLock (.ok privateFile),
    .act c .fchmodLock (.ok ())] : List LockEvent)

/-- From the thread capacity to the inspection of the markers. -/
def locks (c : CallId) : List LockEvent :=
  ([.act c .acquireCapacity ()] : List LockEvent) ++ opensLock c ++
  ([.act c .flock (.ok ())] : List LockEvent) ++ validates c

/-- No marker is there, and the body starts under a new one. -/
def enters (c : CallId) (marker : Handle) (inode : ℕ) : List LockEvent :=
  [.act c (.lstat .active) (.error .fileNotFound), .act c .scandir (.ok []),
   .act c (.tokenHex 32) token, .act c .openParent (.ok ()),
   .act c (.create .active) (.ok (marker, 1, inode)), .act c (.write marker markerBytes) (.ok 68),
   .act c (.fchmod marker) (.ok ()), .act c (.fsync marker) (.ok ()),
   .act c (.fstat marker) (.ok ⟨true, 1, inode⟩), .act c .fsyncParent (.ok ()),
   .act c .enterBody ()]

/-- Call `c` inspects the marker of the dead writer. -/
def inspects (c : CallId) : List LockEvent :=
  [.act c (.lstat .active) (.ok ⟨true, 1, 2⟩), .act c .openParent (.ok ()),
   .act c (.openMarker .active) (.ok ⟨.active, 0⟩), .act c (.fstat ⟨.active, 0⟩) (.ok ⟨true, 1, 2⟩),
   .act c (.read ⟨.active, 0⟩ 0 257) (.ok markerBytes), .act c (.read ⟨.active, 0⟩ 68 189) (.ok []),
   .act c (.stat .active) (.ok ⟨true, 1, 2⟩)]

def leaves (c : CallId) : List LockEvent := [.act c .close false, .act c .releaseCapacity ()]

/-- Call 1 finds the marker of the dead writer, a clearance removes it, and call 3 starts. -/
def writerDies : List LockEvent :=
  locks 0 ++ enters 0 ⟨.active, 0⟩ 2 ++ ([.outside (.crash 0 false)] : List LockEvent) ++
  locks 1 ++ inspects 1 ++ ([.act 1 .scandir (.ok [])] : List LockEvent) ++ leaves 1 ++
  validates 2 ++ ([.act 2 .tryCapacity true] : List LockEvent) ++ opensLock 2 ++
  ([.act 2 .tryFlock (.ok ())] : List LockEvent) ++ inspects 2 ++
  ([.act 2 .scandir (.ok []),
    .act 2 (.enterClearance deadState.sha256 deadState [deadMarker]) (),
    .act 2 .leaveClearance true] : List LockEvent) ++ inspects 2 ++
  ([.act 2 (.unlink .active) (.ok ()), .act 2 .fsyncParent (.ok ())] :
    List LockEvent) ++ leaves 2 ++
  locks 3 ++ enters 3 ⟨.active, 1⟩ 3 ++
  ([.act 4 (.markUnsafe 3) (), .act 3 .leaveBody true, .act 3 .safeToClear false] :
    List LockEvent) ++ leaves 3

theorem clearedWriter_failsClosed : ∃ xs p,
    (machine writers).play writers.pool writerDies = some (xs, p) ∧ FailsClosed writers xs := by
  have hplay : ((machine writers).play writers.pool writerDies).isSome := by decide +kernel
  obtain ⟨⟨xs, p⟩, h⟩ := Option.isSome_iff_exists.1 hplay
  exact ⟨xs, p, h, writer_lock_fails_closed writers (Machine.run_of_play h)⟩

end DataJuicer.Navigation.WriterLock
