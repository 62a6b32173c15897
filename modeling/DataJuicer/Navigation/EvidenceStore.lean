import DataJuicer.Lib.Sha256
import DataJuicer.Navigation.Authorization

/-! # Evidence references

A result reference is derived from the task, the observation revision and the content that
it stands for, so that staging the same result twice names the same evidence file.
-/

namespace DataJuicer.Navigation

open Transaction

def isSafeTaskId (s : String) : Bool :=
  match s.toList with
  | [] => false
  | c :: cs => c.isAlphanum && cs.all fun c => c.isAlphanum || c == '_' || c == '.' || c == '-'

def base64Char (n : ℕ) : Char :=
  Char.ofNat (if n < 26 then 65 + n else if n < 52 then 71 + n
    else if n < 62 then n - 4 else if n = 62 then 45 else 95)

/-- `urlsafe_b64encode` without the padding. -/
def base64 : List ℕ → List Char
  | a :: b :: c :: l =>
    base64Char (a / 4) :: base64Char (a % 4 * 16 + b / 16) ::
      base64Char (b % 16 * 4 + c / 64) :: base64Char (c % 64) :: base64 l
  | [a, b] => [base64Char (a / 4), base64Char (a % 4 * 16 + b / 16), base64Char (b % 16 * 4)]
  | [a] => [base64Char (a / 4), base64Char (a % 4 * 16)]
  | [] => []

def encodeRef (taskId : String) (revision : ℕ) (evidenceId : String) : String :=
  let payload := "\x7b\"evidence_id\":\"" ++ evidenceId ++ "\",\"revision\":" ++
    toString revision ++ ",\"task_id\":\"" ++ taskId ++ "\"\x7d"
  "nav-evidence:" ++ String.ofList (base64 (Sha256.utf8 payload))

def deterministicRef (taskId : String) (observationRevision : ℕ) (identity : String) :
    Except NavigationError String := do
  raiseIf (isSafeTaskId taskId = false) (.valueError "task_id contains unsupported path characters")
  raiseIf (observationRevision < 1) (.valueError "observation_revision must be at least 1")
  raiseIf (identity = "") (.valueError "identity must be a non-empty string")
  return encodeRef taskId observationRevision
    (String.ofList ((Sha256.hexdigest identity).toList.take 32))

def intendedResultRef (taskId : String) (observationRevision : ℕ) (planId stepId : String)
    (canonicalFull : String) : Except NavigationError String :=
  deterministicRef taskId observationRevision
    (planId ++ ":" ++ stepId ++ ":" ++ Sha256.hexdigest canonicalFull)

end DataJuicer.Navigation
