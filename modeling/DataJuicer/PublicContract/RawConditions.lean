import DataJuicer.PublicContract.Conditions
import DataJuicer.PublicContract.Redacted

/-! # Which calls return

A call is judged by the texts of its signal and by those held back before it: no match may take in
a place where one of them is changed to be shown. References, option ids and the other fields that
are shown as they are have to be safe themselves.
-/

namespace DataJuicer.PublicContract

open Raising

variable (cfg : ProjectorConfig)

/-- The phases of which a flush shows what is held back, when the turns have shown so many texts. -/
def flushed (now : Seconds) (force : Bool) (w : Projector) :
    (String → ℕ) → List ProgressKey → List ProgressState
  | _, [] => []
  | used, key :: keys =>
    match w.progress.lookup key with
    | some st =>
      if ¬ Skipped cfg now force st ∧ st.updateCount < progressUpdatesPerPhase ∧
          used key.1 < progressUpdatesPerTurn then
        st :: flushed now force w (Function.update used key.1 (used key.1 + 1)) keys
      else flushed now force w used keys
    | none => flushed now force w used keys

section Texts

variable {cfg} {w w' : Projector} {key : ProgressKey} {st : ProgressState} {now : Seconds}
  {force : Bool}

end Texts

end DataJuicer.PublicContract
