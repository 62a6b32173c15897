import DataJuicer.RunSpecs.Preparation

/-! # Active parameters

A parameter is active when it has no condition, or when the parameter that its condition is about
is active and has the value. The loop over the definitions finds exactly these, in any order.
-/

namespace DataJuicer.RunSpecs

open Transaction Models

/-- A definition whose chain of conditions has this many links. -/
inductive Grounded (definitions : List ParameterDefinition) : ℕ → ParameterDefinition → Prop
  | free {d : ParameterDefinition} (h : d.visibleWhen = none) : Grounded definitions 0 d
  | controlled {d e : ParameterDefinition} {condition : VisibilityCondition} {n : ℕ}
      (h : d.visibleWhen = some condition) (he : e ∈ definitions)
      (hname : e.name = condition.parameterKey) (hground : Grounded definitions n e) :
      Grounded definitions (n + 1) d

structure WellFormed (definitions : List ParameterDefinition) : Prop where
  names : (definitions.map ParameterDefinition.name).Nodup
  grounded : ∀ d ∈ definitions, ∃ n, Grounded definitions n d

theorem grounded_unique {definitions : List ParameterDefinition} {d : ParameterDefinition}
    (hnames : (definitions.map ParameterDefinition.name).Nodup) {m n : ℕ}
    (h : Grounded definitions m d) (h' : Grounded definitions n d) : m = n := by
  induction h generalizing n with
  | free hnone =>
    cases h' with
    | free => rfl
    | controlled hsome => rw [hnone] at hsome; cases hsome
  | controlled hsome he hname _ ih =>
    cases h' with
    | free hnone => rw [hsome] at hnone; cases hnone
    | controlled hsome' he' hname' hground' =>
      rw [hsome] at hsome'
      cases hsome'
      obtain rfl := List.inj_on_of_nodup_map hnames he he' (hname.trans hname'.symm)
      rw [ih hground']

namespace StageContext

variable (c : StageContext)

/-- The conditions hold along the whole chain. -/
inductive Active : ParameterDefinition → Prop
  | automatic {d : ParameterDefinition} (h : c.Automatic d) : Active d
  | free {d : ParameterDefinition} (h : d.visibleWhen = none) : Active d
  | controlled {d e : ParameterDefinition} {condition : VisibilityCondition} {v : JsonScalar}
      (h : d.visibleWhen = some condition) (he : e ∈ c.definitions)
      (hname : e.name = condition.parameterKey) (hactive : Active e) (hmanual : ¬ c.Automatic e)
      (hvalue : normalizeParameterValue c.texts.repr e (c.value e) = .ok v)
      (hequals : v.eq condition.equals) : Active d

/-- What the loop has found out so far is right. -/
structure Resolved (s : StageState) : Prop where
  active : ∀ d ∈ c.definitions, ∀ b, s.active d.name = some b → (b = true ↔ c.Active d)
  normalized : ∀ d ∈ c.definitions, ∀ v, s.normalized d.name = some v ↔
    s.active d.name = some true ∧ ¬ c.Automatic d ∧
      normalizeParameterValue c.texts.repr d (c.value d) = .ok v
  accepted : ∀ d ∈ c.definitions, s.active d.name = some true → ¬ c.Automatic d →
    ∃ v, normalizeParameterValue c.texts.repr d (c.value d) = .ok v
  sensitive : ∀ d ∈ c.definitions, d.name ∈ s.sensitive ↔
    d.sensitive ∧ s.active d.name = some true
  defined : ∀ n, s.normalized n ≠ none → ∃ d ∈ c.definitions, d.name = n

def Refused (e : PrepareError) : Prop :=
  ∃ d ∈ c.definitions, c.Active d ∧ ¬ c.Automatic d ∧
    ∃ failure, normalizeParameterValue c.texts.repr d (c.value d) = .error failure ∧
      e = match failure with
        | .value message => .validation "invalid_parameter" (c.stageMessage message)
        | .overflow => .raised

/-- What a call of `resolve` does to the state. -/
structure Resolves (d : ParameterDefinition) (s : StageState) (b : Bool) (s' : StageState) :
    Prop where
  resolved : c.Resolved s'
  active : s'.active d.name = some b
  kept : ∀ n b, s.active n = some b → s'.active n = some b
  waiting : ∀ n ∈ s.resolving, s'.active n = s.active n
  resolving : s'.resolving = s.resolving

/-- A call finds out whether the parameter is active, or is refused a value. -/
def Answers (d : ParameterDefinition) (s : StageState)
    (answer : Except PrepareError (Bool × StageState)) : Prop :=
  (∀ b s', answer = .ok (b, s') → c.Resolves d s b s') ∧ ∀ e, answer = .error e → c.Refused e

variable {c} {d e : ParameterDefinition} {s s' : StageState}

theorem name_injective (hnames : (c.definitions.map ParameterDefinition.name).Nodup)
    (hd : d ∈ c.definitions) (he : e ∈ c.definitions) (h : d.name = e.name) : d = e :=
  List.inj_on_of_nodup_map hnames hd he h

theorem byName_eq (hnames : (c.definitions.map ParameterDefinition.name).Nodup)
    (hd : d ∈ c.definitions) : byName c.definitions d.name = some d := by
  cases h : byName c.definitions d.name with
  | none =>
    have hnone := List.find?_eq_none.1 h d (List.mem_reverse.2 hd)
    simp at hnone
  | some e =>
    have hname : e.name = d.name := by simpa using List.find?_some h
    rw [name_injective hnames (mem_of_byName h) hd hname]

theorem resolved_initial (c : StageContext) : c.Resolved .initial := by
  constructor <;> simp [StageState.initial]

section

variable (hnames : (c.definitions.map ParameterDefinition.name).Nodup) (hd : d ∈ c.definitions)
  (hnew : s.active d.name = none)

include hnames hd hnew

/-- The state after a parameter has become active. -/
theorem resolved_activate (hs : c.Resolved s) (hactive : c.Active d)
    {normalized : String → Option JsonScalar}
    (haccepted : ¬ c.Automatic d →
      ∃ v, normalizeParameterValue c.texts.repr d (c.value d) = .ok v)
    (hother : ∀ n, n ≠ d.name → normalized n = s.normalized n)
    (hself : ∀ v, normalized d.name = some v ↔ ¬ c.Automatic d ∧
      normalizeParameterValue c.texts.repr d (c.value d) = .ok v) :
    c.Resolved (activate d { s with normalized }) := by
  constructor
  · intro e he b hb
    by_cases hname : e.name = d.name
    · obtain rfl := name_injective hnames he hd hname
      have hb : b = true := by simpa [activate] using hb.symm
      simp [hb, hactive]
    · exact hs.active e he b (by simpa [activate, Function.update_of_ne hname] using hb)
  · intro e he v
    by_cases hname : e.name = d.name
    · obtain rfl := name_injective hnames he hd hname
      simpa [activate] using hself v
    · simpa [activate, Function.update_of_ne hname, hother _ hname] using hs.normalized e he v
  · intro e he he'
    by_cases hname : e.name = d.name
    · obtain rfl := name_injective hnames he hd hname
      exact haccepted
    · exact hs.accepted e he (by simpa [activate, Function.update_of_ne hname] using he')
  · intro e he
    by_cases hname : e.name = d.name
    · obtain rfl := name_injective hnames he hd hname
      have hnot : e.name ∉ s.sensitive := by simp [hs.sensitive e he, hnew]
      cases hsensitive : e.sensitive <;> simp [activate, hsensitive, hnot]
    · have hold := hs.sensitive e he
      cases hsensitive : d.sensitive <;>
        simp [activate, hsensitive, hold, hname]
  · intro n hn
    by_cases hname : n = d.name
    · exact ⟨d, hd, hname.symm⟩
    · exact hs.defined n (by simpa [activate, hother _ hname] using hn)

theorem resolved_deactivate (hs : c.Resolved s) (hinactive : ¬ c.Active d)
    (resolving : List String) :
    c.Resolved { s with
      resolving
      active := Function.update s.active d.name (some false) } := by
  constructor
  · intro e he b hb
    by_cases hname : e.name = d.name
    · obtain rfl := name_injective hnames he hd hname
      have hb : b = false := by simpa using hb.symm
      simp [hb, hinactive]
    · exact hs.active e he b (by simpa [Function.update_of_ne hname] using hb)
  · intro e he v
    by_cases hname : e.name = d.name
    · obtain rfl := name_injective hnames he hd hname
      simp [hs.normalized e he, hnew]
    · simpa [Function.update_of_ne hname] using hs.normalized e he v
  · intro e he he'
    by_cases hname : e.name = d.name
    · simp [hname] at he'
    · exact hs.accepted e he (by simpa [Function.update_of_ne hname] using he')
  · intro e he
    by_cases hname : e.name = d.name
    · obtain rfl := name_injective hnames he hd hname
      simp [hs.sensitive e he, hnew]
    · simpa [Function.update_of_ne hname] using hs.sensitive e he
  · exact hs.defined

end

theorem Resolved.withResolving (hs : c.Resolved s) (resolving : List String) :
    c.Resolved { s with resolving } :=
  ⟨hs.active, hs.normalized, hs.accepted, hs.sensitive, hs.defined⟩

section

variable (hnames : (c.definitions.map ParameterDefinition.name).Nodup)

include hnames

theorem accept_ok (hd : d ∈ c.definitions) (hs : c.Resolved s) (hnew : s.active d.name = none)
    (hactive : c.Active d) (hmanual : ¬ c.Automatic d) {b : Bool}
    (h : c.accept d s = .ok (b, s')) : c.Resolved s' ∧ s'.active d.name = some b ∧
      (∀ n, n ≠ d.name → s'.active n = s.active n) ∧
        s'.resolving = s.resolving.filter (· ≠ d.name) := by
  unfold accept at h
  split at h
  · next v hv =>
    cases h
    refine ⟨resolved_activate hnames hd hnew hs hactive (fun _ => ⟨v, hv⟩) ?_ ?_, ?_, ?_, rfl⟩
    · intro n hn
      exact Function.update_of_ne hn _ _
    · intro w
      simp [hv, hmanual]
    · simp [activate]
    · intro n hn
      exact Function.update_of_ne hn _ _
  · cases h
  · cases h

omit hnames in
theorem accept_error (hd : d ∈ c.definitions) (hactive : c.Active d) (hmanual : ¬ c.Automatic d)
    {e : PrepareError} (h : c.accept d s = .error e) : c.Refused e := by
  refine ⟨d, hd, hactive, hmanual, ?_⟩
  unfold accept at h
  split at h
  · cases h
  · next message hv =>
    cases h
    exact ⟨_, hv, rfl⟩
  · next hv =>
    cases h
    exact ⟨_, hv, rfl⟩

omit hnames in
theorem filter_resolving {resolving : List String} (h : d.name ∉ resolving) :
    resolving.filter (· ≠ d.name) = resolving := by
  rw [List.filter_eq_self]
  intro m hm
  exact decide_eq_true fun heq => h (heq ▸ hm)

omit hnames in
/-- A call that decides about its own parameter only. -/
theorem resolves_of {b : Bool} (hnew : s.active d.name = none) (hfree : d.name ∉ s.resolving)
    (hs : c.Resolved s') (hactive : s'.active d.name = some b)
    (hother : ∀ n, n ≠ d.name → s'.active n = s.active n)
    (hresolving : s'.resolving = s.resolving) :
    c.Resolves d s b s' := by
  refine ⟨hs, hactive, ?_, ?_, hresolving⟩
  · intro n b hb
    have hn : n ≠ d.name := by
      rintro rfl
      rw [hnew] at hb
      cases hb
    rwa [hother n hn]
  · intro n hn
    exact hother n fun heq => hfree (heq ▸ hn)

omit hnames in
/-- A call that decides about its own parameter after the one of its condition. -/
theorem resolves_through {b b₁ : Bool} {s₁ : StageState} (hnew : s.active d.name = none)
    (hfree : d.name ∉ s.resolving)
    (hr : c.Resolves e { s with resolving := d.name :: s.resolving } b₁ s₁)
    (hs : c.Resolved s') (hactive : s'.active d.name = some b)
    (hother : ∀ n, n ≠ d.name → s'.active n = s₁.active n)
    (hresolving : s'.resolving = s.resolving) : c.Resolves d s b s' := by
  refine ⟨hs, hactive, ?_, ?_, hresolving⟩
  · intro n b hb
    have hn : n ≠ d.name := by
      rintro rfl
      rw [hnew] at hb
      cases hb
    rw [hother n hn]
    exact hr.kept n b hb
  · intro n hn
    rw [hother n fun heq => hfree (heq ▸ hn)]
    exact hr.waiting n (List.mem_cons_of_mem _ hn)

theorem resolves_automatic (hd : d ∈ c.definitions) (hs : c.Resolved s)
    (hnew : s.active d.name = none) (hfree : d.name ∉ s.resolving) (hauto : c.Automatic d) :
    c.Resolves d s true (activate d s) := by
  have hnone : ∀ v, s.normalized d.name = some v ↔ ¬ c.Automatic d ∧
      normalizeParameterValue c.texts.repr d (c.value d) = .ok v := by
    intro v
    simp [hs.normalized d hd, hnew, hauto]
  refine resolves_of hnew hfree (resolved_activate hnames hd hnew hs (.automatic hauto)
    (absurd hauto) (fun _ _ => rfl) hnone) ?_ ?_ (filter_resolving hfree)
  · simp [activate]
  · intro n hn
    exact Function.update_of_ne hn _ _

theorem active_controlled_iff (hmanual : ¬ c.Automatic d) {condition : VisibilityCondition}
    (hsome : d.visibleWhen = some condition) (he : e ∈ c.definitions)
    (hname : e.name = condition.parameterKey) : c.Active d ↔ c.Active e ∧ ¬ c.Automatic e ∧
      ∃ v, normalizeParameterValue c.texts.repr e (c.value e) = .ok v ∧ v.eq condition.equals := by
  constructor
  · intro h
    cases h with
    | automatic hauto => exact absurd hauto hmanual
    | free hnone => rw [hsome] at hnone; cases hnone
    | controlled hsome' he' hname' hactive hmanual' hvalue hequals =>
      rw [hsome] at hsome'
      cases hsome'
      obtain rfl := name_injective hnames he he' (hname.trans hname'.symm)
      exact ⟨hactive, hmanual', _, hvalue, hequals⟩
  · rintro ⟨hactive, hmanual', v, hvalue, hequals⟩
    exact .controlled hsome he hname hactive hmanual' hvalue hequals

/-- The test of `resolve` on the state after the controller. -/
theorem controller_test_iff (hmanual : ¬ c.Automatic d) {condition : VisibilityCondition}
    (hsome : d.visibleWhen = some condition) (he : e ∈ c.definitions)
    (hname : e.name = condition.parameterKey) (hs : c.Resolved s) {b : Bool}
    (hb : s.active e.name = some b) :
    (b ∧ (s.normalized e.name).any fun v => v.eq condition.equals) ↔ c.Active d := by
  rw [active_controlled_iff hnames hmanual hsome he hname, ← hs.active e he b hb]
  constructor
  · rintro ⟨rfl, hany⟩
    obtain ⟨v, hv, hequals⟩ := Option.any_eq_true _ _ |>.1 hany
    obtain ⟨-, hmanual', hvalue⟩ := (hs.normalized e he v).1 hv
    exact ⟨rfl, hmanual', v, hvalue, hequals⟩
  · rintro ⟨rfl, hmanual', v, hvalue, hequals⟩
    have hv := (hs.normalized e he v).2 ⟨hb, hmanual', hvalue⟩
    exact ⟨rfl, by simpa [hv] using hequals⟩

omit hnames in
theorem answers_ok {b : Bool} (h : c.Resolves d s b s') : c.Answers d s (.ok (b, s')) := by
  refine ⟨?_, by simp⟩
  rintro b' t ⟨⟩
  exact h

theorem resolve_decided (hd : d ∈ c.definitions) (hs : c.Resolved s) (hnot : d.name ∉ s.resolving)
    (h : s.active d.name ≠ none ∨ c.Automatic d) : c.Answers d s (c.resolve d hd s) := by
  rw [resolve]
  split
  · next b hactive => exact answers_ok ⟨hs, hactive, fun _ _ h => h, fun _ _ => rfl, rfl⟩
  · next hnew =>
    have hauto : c.Automatic d := h.resolve_left (not_not.2 hnew)
    rw [dif_neg hnot, if_pos hauto]
    exact answers_ok (resolves_automatic hnames hd hs hnew hnot hauto)

theorem resolve_free (hd : d ∈ c.definitions) (hs : c.Resolved s) (hnot : d.name ∉ s.resolving)
    (hnone : d.visibleWhen = none) : c.Answers d s (c.resolve d hd s) := by
  by_cases hdecided : s.active d.name ≠ none ∨ c.Automatic d
  · exact resolve_decided hnames hd hs hnot hdecided
  · obtain ⟨hnew, hmanual⟩ := not_or.1 hdecided
    have hnew : s.active d.name = none := not_not.1 hnew
    have hresolve : c.resolve d hd s =
        c.accept d { s with resolving := d.name :: s.resolving } := by
      rw [resolve]
      simp only [hnew, dif_neg hnot, if_neg hmanual, hnone]
    rw [hresolve]
    refine ⟨fun b s' h => ?_, fun e h => accept_error hd (.free hnone) hmanual h⟩
    obtain ⟨hs', hactive, hother, hresolving⟩ :=
      accept_ok hnames hd (hs.withResolving (d.name :: s.resolving)) hnew (.free hnone) hmanual h
    refine resolves_of hnew hnot hs' hactive hother ?_
    rw [hresolving]
    simpa using filter_resolving hnot

/-- The rest of a call after its controller has been resolved. -/
theorem answers_after {condition : VisibilityCondition} (hd : d ∈ c.definitions)
    (hnew : s.active d.name = none) (hnot : d.name ∉ s.resolving) (hmanual : ¬ c.Automatic d)
    (hsome : d.visibleWhen = some condition) (he : e ∈ c.definitions)
    (hname : e.name = condition.parameterKey) {b : Bool} {s₁ : StageState}
    (hr : c.Resolves e { s with resolving := d.name :: s.resolving } b s₁) :
    c.Answers d s (if b ∧ (s₁.normalized e.name).any fun v => v.eq condition.equals then
        c.accept d s₁
      else .ok (false, { s₁ with
        resolving := s₁.resolving.filter (· ≠ d.name)
        active := Function.update s₁.active d.name (some false) })) := by
  have hnew₁ : s₁.active d.name = none := (hr.waiting _ List.mem_cons_self).trans hnew
  have hresolving₁ : s₁.resolving.filter (· ≠ d.name) = s.resolving := by
    rw [hr.resolving]
    simpa using filter_resolving hnot
  have hiff := controller_test_iff hnames hmanual hsome he hname hr.resolved hr.active
  split
  · next htest =>
    have hactive := hiff.1 htest
    refine ⟨fun b' s' h => ?_, fun e' h => accept_error hd hactive hmanual h⟩
    obtain ⟨hs', hactive', hother, hresolving⟩ :=
      accept_ok hnames hd hr.resolved hnew₁ hactive hmanual h
    exact resolves_through hnew hnot hr hs' hactive' hother (hresolving.trans hresolving₁)
  · next htest =>
    have hinactive : ¬ c.Active d := fun hactive => htest (hiff.2 hactive)
    refine answers_ok (resolves_through hnew hnot hr
      (resolved_deactivate hnames hd hnew₁ hr.resolved hinactive _) ?_ ?_ hresolving₁)
    · simp
    · intro n hn
      exact Function.update_of_ne hn _ _

theorem resolve_controlled {condition : VisibilityCondition} (hd : d ∈ c.definitions)
    (hs : c.Resolved s) (hnot : d.name ∉ s.resolving) (hsome : d.visibleWhen = some condition)
    (he : e ∈ c.definitions) (hname : e.name = condition.parameterKey)
    (hcontroller : c.Answers e { s with resolving := d.name :: s.resolving }
      (c.resolve e he { s with resolving := d.name :: s.resolving })) :
    c.Answers d s (c.resolve d hd s) := by
  by_cases hdecided : s.active d.name ≠ none ∨ c.Automatic d
  · exact resolve_decided hnames hd hs hnot hdecided
  · obtain ⟨hnew, hmanual⟩ := not_or.1 hdecided
    have hnew : s.active d.name = none := not_not.1 hnew
    have hbyName : byName c.definitions condition.parameterKey = some e :=
      hname ▸ byName_eq hnames he
    obtain ⟨hok, herror⟩ := hcontroller
    rw [resolve]
    simp only [hnew, dif_neg hnot, if_neg hmanual, hsome]
    split
    · next hnone => rw [hbyName] at hnone; cases hnone
    · next controller hfound =>
      obtain rfl : e = controller := by
        rw [hbyName] at hfound
        exact Option.some.inj hfound
      split
      · next err herr =>
        refine ⟨by simp, fun e' h => ?_⟩
        cases h
        exact herror _ herr
      · next b s₁ hresult =>
        exact answers_after hnames hd hnew hnot hmanual hsome he hname (hok b s₁ hresult)

theorem resolve_spec {n : ℕ} (hground : Grounded c.definitions n d) (hd : d ∈ c.definitions)
    (hs : c.Resolved s) (hfree : ∀ e ∈ c.definitions, e.name ∈ s.resolving →
      ∀ m, Grounded c.definitions m e → n < m) : c.Answers d s (c.resolve d hd s) := by
  induction hground generalizing s with
  | @free d hnone =>
    have hnot : d.name ∉ s.resolving :=
      fun hmem => absurd (hfree d hd hmem 0 (.free hnone)) (lt_irrefl 0)
    exact resolve_free hnames hd hs hnot hnone
  | @controlled d e condition n hsome he hname hground ih =>
    have hnot : d.name ∉ s.resolving := fun hmem =>
      absurd (hfree d hd hmem (n + 1) (.controlled hsome he hname hground)) (lt_irrefl _)
    -- Those that wait for the controller are higher in their chains.
    have hchain : ∀ f ∈ c.definitions, f.name ∈ d.name :: s.resolving →
        ∀ m, Grounded c.definitions m f → n < m := by
      intro f hf hmem m hm
      rcases List.mem_cons.1 hmem with hself | hmem
      · obtain rfl := name_injective hnames hf hd hself
        rw [grounded_unique hnames hm (.controlled hsome he hname hground)]
        exact Nat.lt_succ_self n
      · exact (Nat.lt_succ_self n).trans (hfree f hf hmem m hm)
    exact resolve_controlled hnames hd hs hnot hsome he hname
      (ih he (hs.withResolving (d.name :: s.resolving)) hchain)

end

/-- What the loop leaves: every parameter has been decided. -/
structure Decided (c : StageContext) (s : StageState) : Prop where
  normalized : ∀ d ∈ c.definitions, ∀ v, s.normalized d.name = some v ↔
    c.Active d ∧ ¬ c.Automatic d ∧
      normalizeParameterValue c.texts.repr d (c.value d) = .ok v
  accepted : ∀ d ∈ c.definitions, c.Active d → ¬ c.Automatic d →
    ∃ v, normalizeParameterValue c.texts.repr d (c.value d) = .ok v
  sensitive : ∀ d ∈ c.definitions, d.name ∈ s.sensitive ↔ d.sensitive ∧ c.Active d
  defined : ∀ n, s.normalized n ≠ none → ∃ d ∈ c.definitions, d.name = n

theorem resolveAll_spec (hwf : WellFormed c.definitions) {ds : List ParameterDefinition}
    (hds : ∀ d ∈ ds, d ∈ c.definitions) (hs : c.Resolved s) (hresolving : s.resolving = []) :
    (∀ s', c.resolveAll ds hds s = .ok s' → c.Resolved s' ∧
      (∀ n b, s.active n = some b → s'.active n = some b) ∧
        ∀ d ∈ ds, s'.active d.name ≠ none) ∧
      ∀ e, c.resolveAll ds hds s = .error e → c.Refused e := by
  induction ds generalizing s with
  | nil =>
    refine ⟨?_, by simp [resolveAll]⟩
    rintro s' h
    cases h
    exact ⟨hs, fun _ _ h => h, by simp⟩
  | cons d ds ih =>
    have hd := hds d List.mem_cons_self
    obtain ⟨n, hground⟩ := hwf.grounded d hd
    obtain ⟨hok, herror⟩ := resolve_spec hwf.names hground hd hs (by simp [hresolving])
    unfold resolveAll
    constructor
    · intro s' h
      obtain ⟨⟨b, s₁⟩, hresult, h⟩ := bind_eq_ok.1 h
      have hr := hok b s₁ hresult
      obtain ⟨hs', hkept, hdecided⟩ :=
        (ih _ hr.resolved (hr.resolving.trans hresolving)).1 s' h
      refine ⟨hs', fun n b hb => hkept n b (hr.kept n b hb), ?_⟩
      rw [List.forall_mem_cons]
      exact ⟨by simp [hkept _ _ hr.active], hdecided⟩
    · intro e h
      rcases bind_eq_error.1 h with h | ⟨⟨b, s₁⟩, hresult, h⟩
      · exact herror e h
      · have hr := hok b s₁ hresult
        exact (ih _ hr.resolved (hr.resolving.trans hresolving)).2 e h

/-- The loop decides about every parameter. -/
theorem decided_of_resolveAll (hwf : WellFormed c.definitions)
    (h : c.resolveAll c.definitions (fun _ h => h) .initial = .ok s) : c.Decided s := by
  obtain ⟨hs, -, hall⟩ := (resolveAll_spec hwf _ (resolved_initial c) rfl).1 s h
  have hactive : ∀ d ∈ c.definitions, s.active d.name = some true ↔ c.Active d := by
    intro d hd
    obtain ⟨b, hb⟩ := Option.ne_none_iff_exists'.1 (hall d hd)
    rw [hb, ← hs.active d hd b hb, Option.some.injEq]
  constructor
  · intro d hd v
    rw [hs.normalized d hd, hactive d hd]
  · intro d hd h
    exact hs.accepted d hd ((hactive d hd).2 h)
  · intro d hd
    rw [hs.sensitive d hd, hactive d hd]
  · exact hs.defined

end StageContext

end DataJuicer.RunSpecs
