import DataJuicer.PublicContract.NeverRaises

/-! # References of actions

The actions of a turn are numbered. Calls of a group share the number of the group, and every other
call has its own.
-/

namespace DataJuicer.PublicContract

variable {cfg : ProjectorConfig} {D : Requirement} {now : Seconds} {ref : String}
  {act : String → ActionSignal → Prop} {w w' : Projector} {es : Given}

inductive ActionKey
  | group (group : String)
  | call (callId : String)

def ActionSignal.Grouped (cfg : ProjectorConfig) (a : ActionSignal) : Prop :=
  (cfg.registry.resolve a.toolName).visibility = .grouped

instance (a : ActionSignal) : Decidable (a.Grouped cfg) :=
  inferInstanceAs (Decidable (_ = _))

def ActionSignal.key (cfg : ProjectorConfig) (a : ActionSignal) : ActionKey :=
  if a.Grouped cfg then .group (cfg.registry.resolve a.toolName).group else .call a.callId

/-- A call of a turn is grouped or not. -/
def OneKind (cfg : ProjectorConfig) (acts : String → ActionSignal → Prop) : Prop :=
  ∀ t a b, acts t a → acts t b → a.callId = b.callId → (a.Grouped cfg ↔ b.Grouped cfg)

structure GivenNumber where
  turnId : String
  key : ActionKey
  number : ℕ

/-- The numbers that were given, and the tables; `acts` are the actions of the whole run. -/
structure NumberLink (cfg : ProjectorConfig) (acts : String → ActionSignal → Prop)
    (l : Set GivenNumber) (w : Projector) : Prop where
  groups : ∀ t g a, w.groupedActions (t, g) = some a → ⟨t, .group g, a.actionRef⟩ ∈ l
  calls : ∀ t c a, w.actionsByCall (t, c) = some a →
    ⟨t, .call c, a.actionRef⟩ ∈ l ∨ ∃ b, acts t b ∧ b.callId = c ∧ b.Grouped cfg
  group_known : ∀ t g n, ⟨t, .group g, n⟩ ∈ l →
    ∃ a, w.groupedActions (t, g) = some a ∧ a.actionRef = n
  call_known : ∀ t c n, ⟨t, .call c, n⟩ ∈ l →
    (∃ a, w.actionsByCall (t, c) = some a ∧ a.actionRef = n) ∧
      ∃ b, acts t b ∧ b.callId = c ∧ ¬ b.Grouped cfg
  bound : ∀ t k n, ⟨t, k, n⟩ ∈ l → n ≤ w.nextActionNumber t
  injective : ∀ t k k' n, ⟨t, k, n⟩ ∈ l → ⟨t, k', n⟩ ∈ l → k = k'

section

variable {acts : String → ActionSignal → Prop} {l : Set GivenNumber} {t : String}
  {a : ActionSignal} {d : PublicActionDefinition}

theorem numberLink_new : NumberLink cfg acts ∅ .new where
  groups _ _ _ h := nomatch h
  calls _ _ _ h := nomatch h
  group_known _ _ _ h := h.elim
  call_known _ _ _ h := h.elim
  bound _ _ _ h := h.elim
  injective _ _ _ _ h := h.elim

/-- Fields that are not of the actions may change. -/
theorem NumberLink.of_tables (h : NumberLink cfg acts l w)
    (hgroups : w'.groupedActions = w.groupedActions) (hcalls : w'.actionsByCall = w.actionsByCall)
    (hnext : w'.nextActionNumber = w.nextActionNumber) : NumberLink cfg acts l w' := by
  obtain ⟨progress, turnUpdates, actionsByCall, groupedActions, nextActionNumber, seen⟩ := w'
  subst hgroups hcalls hnext
  exact ⟨h.groups, h.calls, h.group_known, h.call_known, h.bound, h.injective⟩

theorem NumberLink.next (h : NumberLink cfg acts l w) {k : ActionKey}
    (hfresh : ∀ n, ⟨t, k, n⟩ ∉ l) :
    let n := w.nextActionNumber t + 1
    let l' := insert ⟨t, k, n⟩ l
    (∀ t' k' n', ⟨t', k', n'⟩ ∈ l' → n' ≤ Function.update w.nextActionNumber t n t') ∧
      ∀ t' k₁ k₂ n', ⟨t', k₁, n'⟩ ∈ l' → ⟨t', k₂, n'⟩ ∈ l' → k₁ = k₂ := by
  intro n l'
  have hnew : ∀ k', (⟨t, k', n⟩ : GivenNumber) ∉ l := fun k' hmem =>
    Nat.not_succ_le_self _ (h.bound t k' n hmem)
  constructor
  · intro t' k' n' hmem
    by_cases ht : t' = t
    · subst ht
      rw [Function.update_self]
      rcases hmem with hmem | hmem
      · exact (GivenNumber.mk.inj hmem).2.2.le
      · exact (h.bound _ _ _ hmem).trans (Nat.le_succ _)
    · rw [Function.update_of_ne ht]
      rcases hmem with hmem | hmem
      · exact absurd (GivenNumber.mk.inj hmem).1 ht
      · exact h.bound _ _ _ hmem
  · intro t' k₁ k₂ n' h₁ h₂
    rcases h₁ with h₁ | h₁ <;> rcases h₂ with h₂ | h₂
    · exact (GivenNumber.mk.inj h₁).2.1.trans (GivenNumber.mk.inj h₂).2.1.symm
    · obtain ⟨rfl, rfl, rfl⟩ := GivenNumber.mk.inj h₁
      exact absurd h₂ (hnew k₂)
    · obtain ⟨rfl, rfl, rfl⟩ := GivenNumber.mk.inj h₂
      exact absurd h₁ (hnew k₁)
    · exact h.injective _ _ _ _ h₁ h₂

theorem NumberLink.newGroup (h : NumberLink cfg acts l w)
    (hnone : w.groupedActions (t, d.group) = none) :
    NumberLink cfg acts (insert ⟨t, .group d.group, (w.groupedAction t d).1.actionRef⟩ l)
      (w.groupedAction t d).2 := by
  have hfresh : ∀ n, (⟨t, .group d.group, n⟩ : GivenNumber) ∉ l := fun n hmem => by
    obtain ⟨a, ha, -⟩ := h.group_known t _ n hmem
    rw [hnone] at ha
    cases ha
  obtain ⟨hbound, hinjective⟩ := h.next hfresh
  unfold Projector.groupedAction
  rw [hnone]
  refine ⟨fun t' g a ha => ?_, fun t' c a ha => ?_, fun t' g n hmem => ?_, fun t' c n hmem => ?_,
    hbound, hinjective⟩
  · by_cases hkey : (t', g) = (t, d.group)
    · obtain ⟨rfl, rfl⟩ := Prod.mk.inj hkey
      have ha' := (Function.update_self (t', d.group) _ w.groupedActions).symm.trans ha
      rw [← Option.some.inj ha']
      exact Set.mem_insert _ _
    · have ha' := (Function.update_of_ne hkey _ w.groupedActions).symm.trans ha
      exact Set.mem_insert_of_mem _ (h.groups t' g a ha')
  · exact (h.calls t' c a ha).imp_left (Set.mem_insert_of_mem _)
  · rcases hmem with hmem | hmem
    · obtain ⟨rfl, hg, rfl⟩ := GivenNumber.mk.inj hmem
      obtain rfl := ActionKey.group.inj hg
      exact ⟨_, Function.update_self .., rfl⟩
    · obtain ⟨a, ha, hn⟩ := h.group_known t' g n hmem
      have hkey : (t', g) ≠ (t, d.group) := fun he => by
        rw [he, hnone] at ha
        cases ha
      exact ⟨a, (Function.update_of_ne hkey _ w.groupedActions).trans ha, hn⟩
  · rcases hmem with hmem | hmem
    · cases (GivenNumber.mk.inj hmem).2.1
    · exact h.call_known t' c n hmem

theorem NumberLink.newCall (h : NumberLink cfg acts l w) (hacts : acts t a)
    (hgrouped : ¬ a.Grouped cfg) (hnone : w.actionsByCall (t, a.callId) = none) :
    NumberLink cfg acts (insert ⟨t, .call a.callId, (w.newAction t d).1.actionRef⟩ l)
      ((w.newAction t d).2.setCall t a.callId (w.newAction t d).1) := by
  have hfresh : ∀ n, (⟨t, .call a.callId, n⟩ : GivenNumber) ∉ l := fun n hmem => by
    obtain ⟨⟨b, hb, -⟩, -⟩ := h.call_known t _ n hmem
    rw [hnone] at hb
    cases hb
  obtain ⟨hbound, hinjective⟩ := h.next hfresh
  refine ⟨fun t' g b hb => ?_, fun t' c b hb => ?_, fun t' g n hmem => ?_, fun t' c n hmem => ?_,
    hbound, hinjective⟩
  · exact Set.mem_insert_of_mem _ (h.groups t' g b hb)
  · by_cases hkey : (t', c) = (t, a.callId)
    · obtain ⟨rfl, rfl⟩ := Prod.mk.inj hkey
      have hb' := (Function.update_self (t', a.callId) _ w.actionsByCall).symm.trans hb
      rw [← Option.some.inj hb']
      exact .inl (Set.mem_insert _ _)
    · have hb' := (Function.update_of_ne hkey _ w.actionsByCall).symm.trans hb
      exact (h.calls t' c b hb').imp_left (Set.mem_insert_of_mem _)
  · rcases hmem with hmem | hmem
    · cases (GivenNumber.mk.inj hmem).2.1
    · exact h.group_known t' g n hmem
  · rcases hmem with hmem | hmem
    · obtain ⟨rfl, hc, rfl⟩ := GivenNumber.mk.inj hmem
      obtain rfl := ActionKey.call.inj hc
      exact ⟨⟨_, Function.update_self .., rfl⟩, a, hacts, rfl, hgrouped⟩
    · obtain ⟨⟨b, hb, hn⟩, hvisible⟩ := h.call_known t' c n hmem
      have hkey : (t', c) ≠ (t, a.callId) := fun he => by
        rw [he, hnone] at hb
        cases hb
      exact ⟨⟨b, (Function.update_of_ne hkey _ w.actionsByCall).trans hb, hn⟩, hvisible⟩

theorem NumberLink.groupCall (h : NumberLink cfg acts l w) (hkind : OneKind cfg acts)
    (hacts : acts t a) (hgrouped : a.Grouped cfg) (action : ActionState) :
    NumberLink cfg acts l (w.setCall t a.callId action) := by
  refine ⟨h.groups, fun t' c b hb => ?_, h.group_known, fun t' c n hmem => ?_, h.bound, h.injective⟩
  · by_cases hkey : (t', c) = (t, a.callId)
    · obtain ⟨rfl, rfl⟩ := Prod.mk.inj hkey
      exact .inr ⟨a, hacts, rfl, hgrouped⟩
    · exact h.calls t' c b ((Function.update_of_ne hkey _ w.actionsByCall).symm.trans hb)
  · obtain ⟨⟨b, hb, hn⟩, b', hacts', hcall, hvisible⟩ := h.call_known t' c n hmem
    have hkey : (t', c) ≠ (t, a.callId) := fun he => by
      obtain ⟨rfl, rfl⟩ := Prod.mk.inj he
      exact hvisible ((hkind _ a b' hacts hacts' hcall.symm).1 hgrouped)
    exact ⟨⟨b, (Function.update_of_ne hkey _ w.actionsByCall).trans hb, hn⟩, b', hacts', hcall,
      hvisible⟩

theorem NumberLink.actionOf_grouped (h : NumberLink cfg acts l w) (hkind : OneKind cfg acts)
    (hacts : acts t a) (hgrouped : a.Grouped cfg) :
    let grouped := w.groupedAction t (cfg.registry.resolve a.toolName)
    NumberLink cfg acts
      (insert ⟨t, .group (cfg.registry.resolve a.toolName).group, grouped.1.actionRef⟩ l)
      (grouped.2.setCall t a.callId grouped.1) := by
  intro grouped
  refine NumberLink.groupCall ?_ hkind hacts hgrouped grouped.1
  cases hg : w.groupedActions (t, (cfg.registry.resolve a.toolName).group) with
  | none => exact h.newGroup hg
  | some action =>
    have hgrouped' : grouped = (action, w) := by
      unfold grouped Projector.groupedAction
      rw [hg]
    rw [hgrouped', Set.insert_eq_of_mem (h.groups _ _ _ hg)]
    exact h

theorem NumberLink.actionOf_call (h : NumberLink cfg acts l w) (hkind : OneKind cfg acts)
    (hacts : acts t a) (hgrouped : ¬ a.Grouped cfg) :
    let out := w.actionOf t a.callId (cfg.registry.resolve a.toolName)
    NumberLink cfg acts (insert ⟨t, .call a.callId, out.1.actionRef⟩ l) out.2 := by
  intro out
  have hcall : (cfg.registry.resolve a.toolName).visibility ≠ .grouped := hgrouped
  cases hc : w.actionsByCall (t, a.callId) with
  | none =>
    have hout : out = ((w.newAction t (cfg.registry.resolve a.toolName)).1,
        (w.newAction t (cfg.registry.resolve a.toolName)).2.setCall t a.callId
          (w.newAction t (cfg.registry.resolve a.toolName)).1) := by
      unfold out Projector.actionOf
      rw [if_neg hcall, hc]
    rw [hout]
    exact h.newCall hacts hgrouped hc
  | some action =>
    have hout : out = (action, w) := by
      unfold out Projector.actionOf
      rw [if_neg hcall, hc]
    rw [hout]
    rcases h.calls _ _ _ hc with hmem | ⟨b, hb, hsame, hgrouped'⟩
    · rw [Set.insert_eq_of_mem hmem]
      exact h
    · exact absurd ((hkind _ a b hacts hb hsame.symm).2 hgrouped') hgrouped

theorem NumberLink.action (h : NumberLink cfg acts l w) (hkind : OneKind cfg acts)
    (hacts : acts t a) :
    let out := w.actionOf t a.callId (cfg.registry.resolve a.toolName)
    NumberLink cfg acts (insert ⟨t, a.key cfg, out.1.actionRef⟩ l) out.2 := by
  intro out
  unfold ActionSignal.key
  by_cases hgrouped : a.Grouped cfg
  · have hout : out = ((w.groupedAction t (cfg.registry.resolve a.toolName)).1,
        (w.groupedAction t (cfg.registry.resolve a.toolName)).2.setCall t a.callId
          (w.groupedAction t (cfg.registry.resolve a.toolName)).1) := if_pos hgrouped
    rw [if_pos hgrouped, hout]
    exact h.actionOf_grouped hkind hacts hgrouped
  · rw [if_neg hgrouped]
    exact h.actionOf_call hkind hacts hgrouped

theorem NumberLink.number_unique (h : NumberLink cfg acts l w) {k : ActionKey} {n m : ℕ}
    (hn : ⟨t, k, n⟩ ∈ l) (hm : ⟨t, k, m⟩ ∈ l) : n = m := by
  cases k with
  | group g =>
    obtain ⟨a, ha, rfl⟩ := h.group_known t g n hn
    obtain ⟨b, hb, rfl⟩ := h.group_known t g m hm
    obtain rfl := Option.some.inj (ha.symm.trans hb)
    rfl
  | call c =>
    obtain ⟨⟨a, ha, rfl⟩, -⟩ := h.call_known t c n hn
    obtain ⟨⟨b, hb, rfl⟩, -⟩ := h.call_known t c m hm
    obtain rfl := Option.some.inj (ha.symm.trans hb)
    rfl

end

def actionNumber : EventBody → Option ℕ
  | .action _ number _ _ _ _ => some number
  | _ => none

def EventsNumbered (cfg : ProjectorConfig) (act : String → ActionSignal → Prop)
    (es : Given) (l : Set GivenNumber) : Prop :=
  ∀ t body n, (t, body) ∈ es → actionNumber body = some n →
    ∃ a, act t a ∧ ⟨t, a.key cfg, n⟩ ∈ l

section

variable {acts : String → ActionSignal → Prop} {l l' : Set GivenNumber}

theorem EventsNumbered.none {t : String} {body : EventBody} (h : actionNumber body = none) :
    EventsNumbered cfg act [(t, body)] l := by
  intro t' body' n hmem hn
  obtain ⟨rfl, rfl⟩ := Prod.mk.inj (List.mem_singleton.1 hmem)
  rw [h] at hn
  cases hn

theorem numberLink_of_move (hkind : OneKind cfg acts) (hacts : ∀ t a, act t a → acts t a)
    (h : NumberLink cfg acts l w) (hmove : Move cfg D now ref act w es w') :
    ∃ l', l ⊆ l' ∧ NumberLink cfg acts l' w' ∧ EventsNumbered cfg act es l' := by
  cases hmove with
  | start | startText | delta | finish =>
    exact ⟨l, Set.Subset.rfl, h.of_tables rfl rfl rfl, .none rfl⟩
  | queue | see =>
    exact ⟨l, Set.Subset.rfl, h.of_tables rfl rfl rfl, fun _ _ _ hmem => nomatch hmem⟩
  | input | artifact | final => exact ⟨l, Set.Subset.rfl, h, .none rfl⟩
  | @action turnId a hact hshown =>
    refine ⟨_, Set.subset_insert _ l, h.action hkind (hacts _ _ hact), fun t body n hmem hn => ?_⟩
    obtain ⟨rfl, rfl⟩ := Prod.mk.inj (List.mem_singleton.1 hmem)
    obtain rfl := Option.some.inj hn
    exact ⟨a, hact, Set.mem_insert _ _⟩

theorem numberLink_of_path (hkind : OneKind cfg acts) (hacts : ∀ t a, act t a → acts t a)
    (h : NumberLink cfg acts l w) (hpath : Path cfg D now ref act w es w') :
    ∃ l', l ⊆ l' ∧ NumberLink cfg acts l' w' ∧ EventsNumbered cfg act es l' := by
  induction hpath with
  | nil => exact ⟨l, Set.Subset.rfl, h, fun _ _ _ hmem => nomatch hmem⟩
  | snoc _ hmove ih =>
    obtain ⟨l₁, hsub, hlink, hevents⟩ := ih
    obtain ⟨l₂, hsub', hlink', hevents'⟩ := numberLink_of_move hkind hacts hlink hmove
    refine ⟨l₂, hsub.trans hsub', hlink', fun t body n hmem hn => ?_⟩
    rcases List.mem_append.1 hmem with hmem | hmem
    · obtain ⟨a, ha, hl⟩ := hevents t body n hmem hn
      exact ⟨a, ha, hsub' hl⟩
    · exact hevents' t body n hmem hn

end

def Numbers (x : Projected) (turnId : String) (a : ActionSignal) (n : ℕ) : Prop :=
  x.label.1.Acts turnId a ∧ ∃ out, x.label.2 = .ok out ∧
    ∃ e ∈ out, e.1 = turnId ∧ actionNumber e.2.body = some n

def RunActs (xs : List Projected) (turnId : String) (a : ActionSignal) : Prop :=
  ∃ x ∈ xs, x.label.1.Acts turnId a

theorem acts_unique {call : Call} {t t' : String} {a b : ActionSignal} (h : call.Acts t a)
    (h' : call.Acts t' b) : a = b := by
  cases call with
  | flush => exact h.elim
  | project s taskRef now =>
    obtain ⟨parsed, hparsed, hbody, -⟩ := h
    obtain ⟨parsed', hparsed', hbody', -⟩ := h'
    obtain rfl := Except.ok.inj (hparsed.symm.trans hparsed')
    exact SignalBody.action.inj (hbody.symm.trans hbody')

theorem exists_numbers {xs : List Projected} {acts : String → ActionSignal → Prop}
    (h : Run (projection cfg).step .new xs w) (hkind : OneKind cfg acts)
    (hacts : ∀ x ∈ xs, ∀ t a, x.label.1.Acts t a → acts t a) :
    Opened w ∧ ∃ l, NumberLink cfg acts l w ∧
      ∀ x ∈ xs, ∀ t a n, Numbers x t a n → ⟨t, a.key cfg, n⟩ ∈ l := by
  induction h with
  | nil => exact ⟨opened_new, ∅, numberLink_new, fun _ hx => nomatch hx⟩
  | @snoc u v xs e hrun hstep ih =>
    obtain ⟨hopened, l, hlink, hnumbers⟩ := ih fun x hx => hacts x (List.mem_append_left _ hx)
    obtain ⟨es, hpath, -, hout⟩ := exists_path (D := fun _ _ => True) hopened
      (callMeets_of_forall (fun _ _ => trivial) e.1) hstep
    obtain ⟨l', hsub, hlink', hevents⟩ :=
      numberLink_of_path hkind (hacts _ List.mem_concat_self) hlink hpath
    refine ⟨opened_of_path hpath hopened, l', hlink', fun x hx t a n hn => ?_⟩
    rcases List.mem_append.1 hx with hx | hx
    · exact hsub (hnumbers x hx t a n hn)
    · obtain rfl := List.mem_singleton.1 hx
      obtain ⟨hact, out, hreply, p, hp, rfl, hnumber⟩ := hn
      rw [hout out hreply] at hevents
      have hmem : (p.1, p.2.body) ∈ given out := List.mem_map.2 ⟨p, hp, rfl⟩
      obtain ⟨b, hb, hl⟩ := hevents p.1 p.2.body n hmem hnumber
      rwa [acts_unique hact hb]

/--
In every run of a new projector two actions of a turn have one number exactly when they are calls
of one group or one call that is not grouped, provided each call of a turn is grouped or not.
-/
theorem action_numbers {xs : List Projected} {x y : Projected} {turnId : String}
    {a b : ActionSignal} {n m : ℕ} (h : Run (projection cfg).step .new xs w)
    (hkind : OneKind cfg (RunActs xs)) (hx : x ∈ xs) (hy : y ∈ xs) (ha : Numbers x turnId a n)
    (hb : Numbers y turnId b m) : n = m ↔ a.key cfg = b.key cfg := by
  obtain ⟨-, l, hlink, hnumbers⟩ := exists_numbers h hkind fun x hx t a hact => ⟨x, hx, hact⟩
  have hn := hnumbers x hx turnId a n ha
  have hm := hnumbers y hy turnId b m hb
  constructor
  · rintro rfl
    exact hlink.injective _ _ _ _ hn hm
  · intro hkey
    rw [hkey] at hn
    exact hlink.number_unique hn hm

def sampleAction (callId : String) : ActionSignal :=
  ⟨.start, "describe_processing_action_tool", callId, .running, none, ⟨none, none, none⟩⟩

def sampleActionSignal (signalId callId : String) : Signal :=
  ⟨1, signalId, 0, "web-1", "turn-1", "task-1", "run-1", .action (sampleAction callId)⟩

def groupedCalls : List Call :=
  [.project (sampleActionSignal "s1" "c1") "task_ref_1" 0,
    .project (sampleActionSignal "s2" "c2") "task_ref_1" 1]

def groupedRun : List Projected := (projection sampleConfig).serve .new groupedCalls

def sampleActionEvent : PublicEvent :=
  ⟨"task_ref_1", .action .start 1 (defaultRegistry.resolve
    "describe_processing_action_tool") .running
    none none⟩

theorem action_numbers_grouped : ∃ x ∈ groupedRun, ∃ y ∈ groupedRun, ∃ n m,
    Numbers x "turn-1" (sampleAction "c1") n ∧ Numbers y "turn-1" (sampleAction "c2") m ∧
      n = m := by
  have hrun := (projection sampleConfig).serve_run .new groupedCalls
  have hvalid (signalId callId : String) (h : (signalId, callId) ∈ [("s1", "c1"), ("s2", "c2")]) :
      validateSpecialistSignal (sampleActionSignal signalId callId) =
        .ok (sampleActionSignal signalId callId) := by
    rcases h with _ | ⟨_, _ | ⟨_, h⟩⟩
    · decide +kernel
    · decide +kernel
    · cases h
  have hacts : ∀ x ∈ groupedRun, ∀ t a, x.label.1.Acts t a → ∃ callId, a = sampleAction callId := by
    rintro x (_ | ⟨_, _ | ⟨_, h⟩⟩) t a hact
    · obtain ⟨parsed, hparsed, hbody, -⟩ := hact
      obtain rfl := Except.ok.inj ((hvalid "s1" "c1" (by decide)).symm.trans hparsed)
      exact ⟨"c1", (SignalBody.action.inj hbody).symm⟩
    · obtain ⟨parsed, hparsed, hbody, -⟩ := hact
      obtain rfl := Except.ok.inj ((hvalid "s2" "c2" (by decide)).symm.trans hparsed)
      exact ⟨"c2", (SignalBody.action.inj hbody).symm⟩
    · cases h
  have hkind : OneKind sampleConfig (RunActs groupedRun) := by
    rintro t a b ⟨x, hx, ha⟩ ⟨y, hy, hb⟩ -
    obtain ⟨c, rfl⟩ := hacts x hx t a ha
    obtain ⟨c', rfl⟩ := hacts y hy t b hb
    exact Iff.rfl
  have hreplies : groupedRun[0].label.2 = .ok [("turn-1", sampleActionEvent)] ∧
      groupedRun[1].label.2 = .ok [("turn-1", sampleActionEvent)] := by decide +kernel
  have hfirst : Numbers groupedRun[0] "turn-1" (sampleAction "c1") 1 :=
    ⟨⟨_, hvalid "s1" "c1" (by decide), rfl, rfl⟩, _, hreplies.1, _, List.mem_cons_self, rfl, rfl⟩
  have hsecond : Numbers groupedRun[1] "turn-1" (sampleAction "c2") 1 :=
    ⟨⟨_, hvalid "s2" "c2" (by decide), rfl, rfl⟩, _, hreplies.2, _, List.mem_cons_self, rfl, rfl⟩
  exact ⟨_, List.getElem_mem _, _, List.getElem_mem _, 1, 1, hfirst, hsecond,
    (action_numbers hrun hkind (List.getElem_mem _) (List.getElem_mem _) hfirst hsecond).2 rfl⟩

end DataJuicer.PublicContract
