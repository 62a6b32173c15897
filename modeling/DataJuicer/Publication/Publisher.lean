import DataJuicer.Lib.Interleaving

/-! # Publishing into the compatibility root

`CompatibilityPublisher.publish` copies each candidate into a temporary directory of the date root
and renames it to its clip, and a journal of the run says how far it got. The file system does one
operation of any of the publishers at a time, and other programs add outputs of their own; every
operation may fail, and a publisher may end between any two.
-/

namespace DataJuicer.Publication

/-- The trees under directories, as they are fingerprinted. -/
class ArtifactTree (Tree : Type) where
  empty : Tree
  isEmpty : Tree → Bool
  /-- `_tree_sha256`, unless the tree has something that cannot be fingerprinted. -/
  sha256 : Tree → Option String

/-- What stands at a name of the date root. -/
inductive Entry (Tree : Type)
  | directory (tree : Tree)
  /-- A file, or a link. -/
  | other

inductive DateRoot (Tree : Type)
  | missing
  | danglingLink
  | file
  /-- A directory, or a link to one. -/
  | directory (isLink : Bool) (entries : String → Option (Entry Tree))

inductive ItemState
  | pending
  | preexisting
  | staged
  | committed
  deriving DecidableEq

inductive JournalState
  | intent
  | staged
  | committing
  | committed
  deriving DecidableEq

structure JournalItem where
  sourceClip : String
  sha256 : String
  state : ItemState
  deriving DecidableEq

structure Journal where
  jobRef : String
  runRef : String
  datasetDate : String
  state : JournalState
  items : List JournalItem
  deriving DecidableEq

inductive JournalFile
  | written (j : Journal)
  | other
  deriving DecidableEq

/-- The date roots of `finish_data`, and the journals of the runs with their temporary files. -/
structure World (Tree : Type) where
  dates : String → DateRoot Tree
  journals : String → Option JournalFile
  journalTemporaries : String → Option JournalFile

variable {Tree : Type}

def DateRoot.entries : DateRoot Tree → String → Option (Entry Tree)
  | directory _ entries => entries
  | _ => fun _ => none

/-- `exists()` follows links. -/
def DateRoot.exists : DateRoot Tree → Bool
  | missing | danglingLink => false
  | file | directory _ _ => true

def DateRoot.isDirectory : DateRoot Tree → Bool
  | directory _ _ => true
  | _ => false

def DateRoot.isRealDirectory : DateRoot Tree → Bool
  | directory isLink _ => !isLink
  | _ => false

def DateRoot.setEntry (name : String) (e : Option (Entry Tree)) : DateRoot Tree → DateRoot Tree
  | directory isLink entries => directory isLink (Function.update entries name e)
  | d => d

def World.entry (w : World Tree) (date name : String) : Option (Entry Tree) :=
  (w.dates date).entries name

def World.setEntry (w : World Tree) (date name : String) (e : Option (Entry Tree)) : World Tree :=
  { w with dates := Function.update w.dates date ((w.dates date).setEntry name e) }

/-- `mkdir` of a date root -/
def World.makeDateRoot? (w : World Tree) (date : String) : Option (World Tree) :=
  match w.dates date with
  | .missing => some { w with
      dates := Function.update w.dates date (.directory false fun _ => none) }
  | _ => none

def World.setJournalTemporary (w : World Tree) (runRef : String) (f : Option JournalFile) :
    World Tree :=
  { w with journalTemporaries := Function.update w.journalTemporaries runRef f }

def World.replaceJournal (w : World Tree) (runRef : String) (f : JournalFile) : World Tree where
  dates := w.dates
  journals := Function.update w.journals runRef (some f)
  journalTemporaries := Function.update w.journalTemporaries runRef none

def Entry.isDirectory : Entry Tree → Bool
  | directory _ => true
  | other => false

section

variable [ArtifactTree Tree]

def Entry.isEmptyDirectory : Entry Tree → Bool
  | directory tree => ArtifactTree.isEmpty tree
  | other => false

def Entry.sha256 : Entry Tree → Option String
  | directory tree => ArtifactTree.sha256 tree
  | other => none

/-- A rename replaces an empty directory by a directory, and a file by a file. -/
def Entry.replaces : Entry Tree → Option (Entry Tree) → Bool
  | _, none => true
  | directory _, some e => e.isEmptyDirectory
  | other, some e => !e.isDirectory

end

inductive FileOp
  | ensureJournalRoot
  | journalExists
  | finishRootRegular
  | dateRootExists (date : String)
  | dateRootRegular (date : String)
  | candidateRegular (root : String)
  | candidateSha256 (root : String)
  | entryExists (date name : String)
  | entryRegular (date name : String)
  | entrySha256 (date name : String)
  | journalTemporaryExists
  | createJournalTemporary
  | writeJournalTemporary (j : Journal)
  | replaceJournal
  | syncDirectory
  | makeDateRoot (date : String)
  | makeDirectory (date name : String)
  | setPrivateMode
  | copyEntries (date name : String)
  | replaceEntry (date source target : String)
  deriving DecidableEq

/-- `false` and `none` also stand for an exception of the operating system. -/
abbrev FileOp.Answer (Tree : Type) : FileOp → Type
  | candidateSha256 _ | entrySha256 _ _ => Option String
  -- whether all of the text was written
  | writeJournalTemporary _ => Option Bool
  -- what is in the copy, and whether it is complete
  | copyEntries _ _ => Tree × Bool
  | _ => Bool

variable [ArtifactTree Tree]

def World.exec (runRef : String) (w : World Tree) : (op : FileOp) → op.Answer Tree →
    Option (World Tree)
  | .journalExists, b => if b = (w.journals runRef).isSome then some w else none
  | .dateRootExists date, b => if b = (w.dates date).exists then some w else none
  | .dateRootRegular date, b => if b = (w.dates date).isRealDirectory then some w else none
  | .entryExists date name, b => if b = (w.entry date name).isSome then some w else none
  | .entryRegular date name, b =>
    if b = (w.entry date name).any Entry.isDirectory then some w else none
  | .entrySha256 date name, some h =>
    if (w.entry date name).bind Entry.sha256 = some h then some w else none
  | .journalTemporaryExists, b =>
    if b = (w.journalTemporaries runRef).isSome then some w else none
  | .createJournalTemporary, true =>
    if w.journalTemporaries runRef = none then
      some (w.setJournalTemporary runRef (some .other))
    else none
  | .writeJournalTemporary j, some whole =>
    some (w.setJournalTemporary runRef (some (if whole then .written j else .other)))
  | .replaceJournal, true => (w.journalTemporaries runRef).map (w.replaceJournal runRef)
  | .makeDateRoot date, true => w.makeDateRoot? date
  | .makeDirectory date name, true =>
    if (w.dates date).isDirectory = true ∧ (w.entry date name).isNone = true then
      some (w.setEntry date name (some (.directory ArtifactTree.empty)))
    else none
  | .copyEntries date name, (tree, _) =>
    if (w.entry date name).any Entry.isDirectory then
      some (w.setEntry date name (some (.directory tree)))
    else some w
  | .replaceEntry date source target, true =>
    match w.entry date source with
    | some e =>
      if e.replaces (w.entry date target) then
        some ((w.setEntry date source none).setEntry date target (some e))
      else none
    | none => none
  -- What is outside of the modelled files may answer anything, and a failure changes nothing.
  | _, _ => some w

inductive PublishError
  | runtime (code message : String)
  | os

abbrev PublishProg (Tree : Type) := Prog (FileOp.Answer Tree) PublishError

def recoveryRequired (message : String) : PublishError :=
  .runtime "publication_recovery_required" message

/-- The error has the code `publication_recovery_required`. -/
def PublishError.IsRecovery (e : PublishError) : Prop := ∃ message, e = recoveryRequired message

instance (e : PublishError) : Decidable e.IsRecovery :=
  match e with
  | .runtime code message =>
    decidable_of_iff (code = "publication_recovery_required")
      ⟨fun h => ⟨message, congrArg (PublishError.runtime · message) h⟩,
        fun h => h.elim fun _ h => (PublishError.runtime.inj h).1⟩
  | .os => isFalse fun h => h.elim fun _ h => PublishError.noConfusion h

def invalidRequest (message : String) : PublishError := .runtime "invalid_runtime_request" message

def expect (b : Bool) (e : PublishError) : PublishProg Tree Unit :=
  if b then pure () else Prog.raise e

def FileOp.perform (op : FileOp) : PublishProg Tree (op.Answer Tree) := Prog.perform op

/-- `[A-Za-z0-9_-]` -/
def nameChar (c : Char) : Bool := c.isAlphanum || c = '_' || c = '-'

/-- `_CLIP_RE` -/
def clipName (s : String) : Bool :=
  s.toList.head?.any Char.isAlphanum && s.toList.all nameChar

/-- `_OPAQUE_REF_RE` -/
def opaqueRef (s : String) : Bool :=
  clipName s && decide (16 ≤ s.toList.length ∧ s.toList.length ≤ 128)

/-- `_DATE_RE` -/
def dateText (s : String) : Bool := decide (s.toList.length = 8) && s.toList.all Char.isDigit

/-- `_HEX_SHA256_RE` -/
def hexSha256 (s : String) : Bool :=
  decide (s.toList.length = 64) && s.toList.all fun c => c.isDigit || ('a' ≤ c && c ≤ 'f')

def entrySha256 (date name code : String) : PublishProg Tree String := do
  match ← FileOp.perform (.entrySha256 date name) with
  | some h => return h
  | none => Prog.raise (.runtime code "An artifact tree could not be fingerprinted safely.")

def candidateSha256 (root code : String) : PublishProg Tree String := do
  match ← FileOp.perform (.candidateSha256 root) with
  | some h => return h
  | none => Prog.raise (.runtime code "An artifact tree could not be fingerprinted safely.")

def writeJournal (j : Journal) : PublishProg Tree Unit := do
  if ← FileOp.perform .journalTemporaryExists then
    Prog.raise (recoveryRequired "A publication journal temporary file already exists.")
  else
    expect (← FileOp.perform .createJournalTemporary) .os
    match ← FileOp.perform (.writeJournalTemporary j) with
    | none => Prog.raise .os
    | some _ =>
      expect (← FileOp.perform .replaceJournal) .os
      expect (← FileOp.perform .syncDirectory) .os

/-- `_copy_tree_bytes` into the date root -/
def copyTree (date name candidateRoot : String) : PublishProg Tree Unit := do
  expect (← FileOp.perform (.candidateRegular candidateRoot)) (.runtime "missing_runtime_input"
    "A required synchronized input directory is unavailable.")
  expect (← FileOp.perform (.dateRootRegular date)) (.runtime "unsafe_runtime_path"
    "A Runtime copy destination parent is unavailable.")
  expect (← FileOp.perform (.makeDirectory date name)) .os
  expect (← FileOp.perform .setPrivateMode) (.runtime "unsafe_runtime_path"
    "A Runtime copy destination could not be secured safely.")
  let copied ← FileOp.perform (.copyEntries date name)
  expect copied.2 (.runtime "unsafe_runtime_input" "A runtime input could not be copied safely.")
  let sourceHash ← candidateSha256 candidateRoot "unsafe_runtime_input"
  let destinationHash ← entrySha256 date name "unsafe_runtime_output"
  expect (sourceHash = destinationHash) (.runtime "runtime_input_changed"
    "A runtime input tree changed during byte-copy.")

structure PublicationItem where
  sourceClip : String
  candidateRoot : String
  expectedTreeSha256 : String

/-- The arguments of `publish`, apart from the run. -/
structure PublicationRequest where
  jobRef : String
  datasetDate : String
  items : List PublicationItem

structure PlanRow where
  item : PublicationItem
  temporary : Option String

def temporaryPrefix : String := ".annotation-"

def temporaryName (runRef : String) (index : ℕ) : String :=
  temporaryPrefix ++ runRef ++ "-" ++ toString index

def invalidCandidates : PublishError :=
  invalidRequest "Publication candidates must be unique real directories."

def checkItems : List String → List PublicationItem → PublishProg Tree Unit
  | _, [] => pure ()
  | seen, item :: items => do
    expect (clipName item.sourceClip) (invalidRequest "source clip is not a normalized identifier.")
    expect (hexSha256 item.expectedTreeSha256) (invalidRequest "Candidate hash is invalid.")
    if item.sourceClip ∈ seen then Prog.raise invalidCandidates
    else
      expect (← FileOp.perform (.candidateRegular item.candidateRoot)) invalidCandidates
      let actual ← candidateSha256 item.candidateRoot "unsafe_runtime_output"
      expect (actual = item.expectedTreeSha256) (.runtime "publication_candidate_changed"
        "A publication candidate changed before commit.")
      checkItems (item.sourceClip :: seen) items

/-- The target is a real directory with the expected hash. -/
def targetMatches (date : String) (item : PublicationItem) : PublishProg Tree Bool := do
  if ← FileOp.perform (.entryRegular date item.sourceClip) then
    let h ← entrySha256 date item.sourceClip "publication_target_unsafe"
    return decide (h = item.expectedTreeSha256)
  else return false

/-- The loop that makes `publication_plan`. -/
def planItems (runRef date : String) : ℕ → List PublicationItem → PublishProg Tree (List PlanRow)
  | _, [] => pure []
  | index, item :: items => do
    if ← FileOp.perform (.entryExists date item.sourceClip) then
      expect (← targetMatches date item) (.runtime "publication_conflict"
        "An existing compatibility output differs from the candidate.")
      return ⟨item, none⟩ :: (← planItems runRef date (index + 1) items)
    else if ← FileOp.perform (.entryExists date (temporaryName runRef index)) then
      Prog.raise (recoveryRequired "A publication temporary directory already exists.")
    else
      return ⟨item, some (temporaryName runRef index)⟩ ::
        (← planItems runRef date (index + 1) items)

/-- The journal before anything is written to `finish_data`. -/
def intentJournal (runRef : String) (request : PublicationRequest) (rows : List PlanRow) :
    Journal where
  jobRef := request.jobRef
  runRef := runRef
  datasetDate := request.datasetDate
  state := .intent
  items := rows.map fun row => ⟨row.item.sourceClip, row.item.expectedTreeSha256,
    if row.temporary.isNone then .preexisting else .pending⟩

def JournalItem.setState (state : ItemState) (item : JournalItem) : JournalItem :=
  { item with state := state }

def Journal.setItem (j : Journal) (index : ℕ) (itemState : ItemState) (state : JournalState) :
    Journal :=
  { j with state := state, items := j.items.modify index (JournalItem.setState itemState) }

/-- Every missing clip is staged before one is committed. -/
def stageItems (date : String) : ℕ → List PlanRow → Journal → PublishProg Tree Journal
  | _, [], j => pure j
  | index, ⟨_, none⟩ :: rows, j => stageItems date (index + 1) rows j
  | index, ⟨item, some temporary⟩ :: rows, j => do
    copyTree date temporary item.candidateRoot
    let copiedHash ← entrySha256 date temporary "unsafe_runtime_output"
    expect (copiedHash = item.expectedTreeSha256) (.runtime "publication_candidate_changed"
      "A candidate changed while being staged for publication.")
    writeJournal (j.setItem index .staged .staged)
    stageItems date (index + 1) rows (j.setItem index .staged .staged)

/-- The missing targets are still missing. -/
def recheckTargets (date : String) : List PlanRow → PublishProg Tree Unit
  | [] => pure ()
  | row :: rows => do
    if row.temporary.isSome then
      expect (!(← FileOp.perform (.entryExists date row.item.sourceClip))) (recoveryRequired
        "A compatibility target changed during publication staging.")
      recheckTargets date rows
    else recheckTargets date rows

/-- A row is committed, up to its journal. -/
def commitRow (date : String) : PlanRow → PublishProg Tree Unit
  | ⟨item, none⟩ => do
    expect (← targetMatches date item) (recoveryRequired
      "A pre-existing compatibility target changed during publication.")
  | ⟨item, some temporary⟩ => do
    expect (!(← FileOp.perform (.entryExists date item.sourceClip))) (recoveryRequired
      "A compatibility target changed before commit.")
    let copiedHash ← entrySha256 date temporary "unsafe_runtime_output"
    expect (copiedHash = item.expectedTreeSha256) (.runtime "publication_candidate_changed"
      "A staged publication candidate changed before commit.")
    expect (← FileOp.perform (.replaceEntry date temporary item.sourceClip)) .os
    expect (← FileOp.perform .syncDirectory) .os

def commitItems (date : String) (total : ℕ) : ℕ → List PlanRow → Journal → List String →
    PublishProg Tree (List String)
  | _, [], _, committed => pure committed
  | index, row :: rows, j, committed => do
    commitRow date row
    expect (← targetMatches date row.item) (recoveryRequired
      "A compatibility target changed after publication.")
    let committed := committed ++ [row.item.sourceClip]
    let j := j.setItem index .committed
      (if committed.length = total then .committed else .committing)
    writeJournal j
    commitItems date total (index + 1) rows j committed

/-- The body of the `try` of `publish`. -/
def commitPlan (date : String) (dateRootMissing : Bool) (rows : List PlanRow) (j : Journal) :
    PublishProg Tree (List String) := do
  if dateRootMissing then
    expect (← FileOp.perform (.makeDateRoot date)) .os
    expect (← FileOp.perform .syncDirectory) .os
  let j ← stageItems date 0 rows j
  recheckTargets date rows
  commitItems date rows.length 0 rows j []

/-- The handler of the `try` of `publish`. -/
def recovering (e : PublishError) : PublishError :=
  if e.IsRecovery then e
  else recoveryRequired "Compatibility publication requires operator recovery."

/-- The checks of `publish` before its journal; says whether the date root is missing. -/
def prepare (runRef : String) (request : PublicationRequest) :
    PublishProg Tree (Bool × List PlanRow) := do
  expect (opaqueRef request.jobRef) (invalidRequest "job_ref is not a normalized identifier.")
  expect (opaqueRef runRef) (invalidRequest "run_ref is not a normalized identifier.")
  expect (dateText request.datasetDate)
    (invalidRequest "dataset_date is not a normalized identifier.")
  expect (!request.items.isEmpty) (invalidRequest "Publication requires at least one candidate.")
  expect (← FileOp.perform .ensureJournalRoot) (.runtime "unsafe_runtime_path"
    "A private Runtime directory could not be secured safely.")
  expect (!(← FileOp.perform .journalExists)) (recoveryRequired
    "This publication already has a journal; recover it first.")
  expect (← FileOp.perform .finishRootRegular) (.runtime "publication_target_unavailable"
    "The compatibility finish root is unavailable.")
  let dateRootExists ← FileOp.perform (.dateRootExists request.datasetDate)
  if ← FileOp.perform (.dateRootExists request.datasetDate) then
    expect (← FileOp.perform (.dateRootRegular request.datasetDate)) (.runtime
      "publication_target_unsafe" "The compatibility date root is unsafe.")
  checkItems [] request.items
  let rows ← planItems runRef request.datasetDate 0 request.items
  return (!dateRootExists, rows)

/-- `publish`; returns `committed_source_clips`. -/
def publish (runRef : String) (request : PublicationRequest) :
    PublishProg Tree (List String) := do
  let plan ← prepare runRef request
  let j := intentJournal runRef request plan.2
  writeJournal j
  match ← (commitPlan request.datasetDate plan.1 plan.2 j).attempt with
  | Except.ok committed => return committed
  | Except.error e => Prog.raise (recovering e)

inductive Outside (Tree : Type)
  /-- These publishers end. -/
  | crash (ended : String → Bool)
  /-- Another program adds an output, which is no temporary directory of a publisher. -/
  | addEntry (date name : String) (e : Entry Tree)
  /-- Another program makes a date root. -/
  | addDateRoot (date : String)

def World.outside (w : World Tree) : Outside Tree → Option (World Tree)
  | .crash _ => some w
  | .addEntry date name e =>
    if temporaryPrefix.toList.isPrefixOf name.toList = false ∧
      (w.entry date name).isNone = true then
      some (w.setEntry date name (some e))
    else none
  | .addDateRoot date => w.makeDateRoot? date

/-- A publisher is named by its run. -/
def publicationMachine (Tree : Type) [ArtifactTree Tree] :
    Machine (World Tree) String (Outside Tree) (FileOp.Answer Tree) where
  exec := World.exec
  outside := World.outside
  ends
    | .crash ended, runRef => ended runRef
    | _, _ => false

abbrev PublicationPool (Tree : Type) :=
  Pool (World Tree) String (FileOp.Answer Tree) PublishError (List String)

abbrev PublicationTransition (Tree : Type) :=
  Transition (PublicationPool Tree) (PoolEvent String (Outside Tree) (FileOp.Answer Tree))

def PublicationPool.initial (start : World Tree) (requests : String → PublicationRequest) :
    PublicationPool Tree :=
  ⟨start, fun runRef => some (publish runRef (requests runRef))⟩

end DataJuicer.Publication
