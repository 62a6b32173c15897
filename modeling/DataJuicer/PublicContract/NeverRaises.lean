import DataJuicer.PublicContract.Moves
import DataJuicer.PublicContract.RawConditions

/-! # Projections that never raise

A call of the projector raises exactly when a reference or a text that is shown as it is is not
safe, or a match of the patterns takes in a place where a text is changed to be shown; and the
fields that the call has changed by then stay changed.
-/

namespace DataJuicer.PublicContract

open Raising

variable {cfg : ProjectorConfig} {D : Requirement} {now : Seconds} {ref : String}
  {act : String → ActionSignal → Prop} {w w' : Projector} {es : Given} {k : ProgressKey}
  {st : ProgressState}

theorem actionOf_progress (w : Projector) (turnId callId : String) (d : PublicActionDefinition) :
    (w.actionOf turnId callId d).2.progress = w.progress := by
  unfold Projector.actionOf Projector.groupedAction
  split
  · cases w.groupedActions (turnId, d.group) <;> rfl
  · cases w.actionsByCall (turnId, callId) <;> rfl

def FromBefore (ref : String) (w : Projector) (es : Given) (k : ProgressKey)
    (st : ProgressState) : Prop :=
  (∃ st₀, w.progress.lookup k = some st₀ ∧ st₀.taskRef = st.taskRef ∧
      (st₀.started = true → st.started = true)) ∨
    st.taskRef = ref ∧ st.started = true ∧ ∃ summary count,
      (k.1, .progressStart k.2 summary count) ∈ es

theorem fromBefore_put {key : ProgressKey} {st₁ : ProgressState}
    (h : (w.put key st₁).progress.lookup k = some st) (hkey : FromBefore ref w es key st₁) :
    FromBefore ref w es k st := by
  by_cases hk : k = key
  · subst hk
    rw [lookup_put] at h
    cases h
    exact hkey
  · rw [lookup_put_ne hk] at h
    exact .inl ⟨st, h, rfl, id⟩

theorem fromBefore_of_move (h : Move cfg D now ref act w es w')
    (hst : w'.progress.lookup k = some st) : FromBefore ref w es k st := by
  cases h with
  | start hnone =>
    exact fromBefore_put hst (.inr ⟨rfl, rfl, none, none, List.mem_cons_self⟩)
  | startText hnone hbudget =>
    exact fromBefore_put hst (.inr ⟨rfl, rfl, _, _, List.mem_cons_self⟩)
  | @queue key st₀ st₁ h₀ hsame hopen =>
    have hboth : st₁.cleared.taskRef = st₀.cleared.taskRef ∧
        st₁.cleared.started = st₀.cleared.started := by
      rw [hsame]
      exact ⟨rfl, rfl⟩
    refine fromBefore_put hst (.inl ⟨st₀, h₀, ?_, ?_⟩)
    · exact hboth.1.symm
    · exact fun h => hboth.2.trans h
  | @delta key st₀ h₀ hemits hD =>
    refine fromBefore_put hst (.inl ⟨st₀, h₀, ?_, ?_⟩)
    · rfl
    · exact id
  | @finish key st₀ status count h₀ hnil hopen =>
    refine fromBefore_put hst (.inl ⟨st₀, h₀, ?_, ?_⟩)
    · rfl
    · exact id
  | action h =>
    rw [actionOf_progress] at hst
    exact .inl ⟨st, hst, rfl, id⟩
  | input | artifact | final | see => exact .inl ⟨st, hst, rfl, id⟩

theorem fromBefore_of_path (h : Path cfg D now ref act w es w')
    (hst : w'.progress.lookup k = some st) : FromBefore ref w es k st := by
  induction h generalizing st with
  | nil => exact .inl ⟨st, hst, rfl, id⟩
  | snoc _ hmove ih =>
    rcases fromBefore_of_move hmove hst with ⟨st₁, hst₁, href, hstarted⟩ | ⟨href, hstarted, h⟩
    · rcases ih hst₁ with ⟨st₀, hst₀, href₀, hstarted₀⟩ | ⟨href₀, hstarted₀, h⟩
      · exact .inl ⟨st₀, hst₀, href₀.trans href, fun h => hstarted (hstarted₀ h)⟩
      · obtain ⟨summary, count, hmem⟩ := h
        exact .inr ⟨href.symm.trans href₀, hstarted hstarted₀, summary, count,
          List.mem_append_left _ hmem⟩
    · obtain ⟨summary, count, hmem⟩ := h
      exact .inr ⟨href, hstarted, summary, count, List.mem_append_right _ hmem⟩

theorem lookup_new : Projector.new.progress.lookup k = none := AList.lookup_empty k

def Opened (w : Projector) : Prop := ∀ k st, w.progress.lookup k = some st → st.started = true

theorem opened_new : Opened .new := by
  intro k st h
  rw [lookup_new] at h
  cases h

theorem opened_of_path (h : Path cfg D now ref act w es w') (hw : Opened w) : Opened w' := by
  intro k st hst
  rcases fromBefore_of_path h hst with ⟨st₀, hst₀, -, hstarted⟩ | ⟨-, hstarted, -⟩
  · exact hstarted (hw k st₀ hst₀)
  · exact hstarted

theorem flushMeets_of_forall (hD : ∀ k st, D k st) {force : Bool} {keys : List ProgressKey} :
    FlushMeets cfg D now force w keys := by
  induction keys generalizing w with
  | nil => trivial
  | cons key keys ih => exact ⟨fun st _ _ _ => hD key st, fun _ _ _ => ih⟩

/-- The requirement that is always met. -/
theorem callMeets_of_forall (hD : ∀ k st, D k st) (call : Call) : CallMeets cfg D w call := by
  cases call with
  | flush now turnId force => exact flushMeets_of_forall hD
  | project s taskRef now =>
    intro parsed _ _
    unfold BodyMeets
    split
    · dsimp only
      intro _
      unfold ProgressMeets
      split
      · exact flushMeets_of_forall hD
      · intro _ _ _ _
        exact hD _ _
    · exact flushMeets_of_forall hD
    · trivial

theorem exists_path {call : Call} {r : Except ProjectionError (List (String × PublicEvent))}
    (hw : Opened w) (hD : CallMeets cfg D w call)
    (h : (projection cfg).step w (call, r) w') :
    ∃ es, Path cfg D call.time call.taskRef call.Acts w es w' ∧ CallStarts w call es ∧
      ∀ out, r = .ok out → es = given out := by
  have hmoves := effect_moves hw hD
  cases r with
  | ok out =>
    obtain ⟨hpath, hstarts⟩ := hmoves.returns out w' h
    refine ⟨given out, hpath, hstarts, fun out' hout => ?_⟩
    cases hout
    rfl
  | error e =>
    obtain ⟨es, hpath, hstarts⟩ := hmoves.raises e w' h
    exact ⟨es, hpath, hstarts, nofun⟩

/-- A transition of the projector. -/
abbrev Projected :=
  Transition Projector (Call × Except ProjectionError (List (String × PublicEvent)))

/-- What the database says of ASCII characters. -/
def asciiChars : CharData := ⟨Char.isAlphanum, Char.isDigit⟩

def sampleConfig : ProjectorConfig := ⟨asciiChars, defaultRegistry, 2⟩

def sampleProgress (signalId : String) (operation : ProgressOperation) (text : Option String) :
    Signal :=
  ⟨1, signalId, 0, "web-1", "turn-1", "task-1", "run-1", .progress ⟨operation, .inspection, text,
    if operation = .finish then .completed else .running, ⟨none, none, none⟩⟩⟩

end DataJuicer.PublicContract
