import DataJuicer.Lib.Interleaving
import DataJuicer.Lib.PyText
import DataJuicer.Lib.Sha256
import DataJuicer.Lib.Table

/-! # The navigation writer lock

The writer lock is a `flock` on one file with markers beside it. The functions of the lock
are programs over single file operations; an operation that asks the outside carries its
answer, so that a run of the programs fixes every choice of the system.
-/

namespace DataJuicer.Navigation.WriterLock

open Prog (raiseIf)

/-- The markers beside the lock file: its name with `.active`, `.quarantine` or more. -/
inductive MarkerName
  | active
  | quarantine (recoveryRef : Option PyStr)
  deriving DecidableEq

def MarkerName.isQuarantine : MarkerName → Bool
  | active => false
  | quarantine _ => true

def MarkerName.fileName (lock : PyStr) : MarkerName → PyStr
  | active => lock ++ PyStr.ofString ".active"
  | quarantine none => lock ++ PyStr.ofString ".quarantine"
  | quarantine (some ref) => lock ++ PyStr.ofString ".quarantine." ++ ref

/-- An open marker; the serial number tells files of one name apart. -/
structure Handle where
  name : MarkerName
  serial : ℕ
  deriving DecidableEq

inductive OSError
  | fileNotFound
  | fileExists
  | blockingIOError
  | other (typeName : String)
  deriving DecidableEq

def OSError.typeName : OSError → String
  | fileNotFound => "FileNotFoundError"
  | fileExists => "FileExistsError"
  | blockingIOError => "BlockingIOError"
  | other name => name

/-- What `lstat` and `fstat` tell of a marker. -/
structure FileStat where
  privateRegular : Bool
  device : ℕ
  inode : ℕ

/-- What `lstat` tells of the lock file or its directory. -/
structure PathStat where
  symlink : Bool
  directory : Bool
  regular : Bool
  ownUid : Bool
  groupOrOtherWritable : Bool

structure MarkerIdentity where
  path : MarkerName
  token : PyStr
  device : ℕ
  inode : ℕ
  deriving DecidableEq

structure WriterMarkerState where
  sha256 : String
  activePresent : Bool
  quarantinePresent : Bool
  markerEntrySha256s : List String
  deriving DecidableEq

inductive WriterLockError
  | lock (message : String) (cause : Option OSError)
  | quarantined (message : String)
  | os (error : OSError)
  | unicodeEncode
  | body

abbrev CallId := ℕ

abbrev ProcessId := ℕ

inductive Op
  | acquireCapacity
  | tryCapacity
  | releaseCapacity
  | lstatParent
  | resolveParent
  | accessParent
  | lstatLock
  | openParent
  | openLock
  | fstatLock
  | fchmodLock
  | flock
  | tryFlock
  | close
  | lstat (name : MarkerName)
  | openMarker (name : MarkerName)
  | fstat (handle : Handle)
  | read (handle : Handle) (offset room : ℕ)
  | stat (name : MarkerName)
  | unlink (name : MarkerName)
  | fsyncParent
  | tokenHex (bytes : ℕ)
  | create (name : MarkerName)
  | write (handle : Handle) (payload : PyStr)
  | fchmod (handle : Handle)
  | fsync (handle : Handle)
  | scandir
  | enterBody
  | leaveBody
  | safeToClear
  | markUnsafe (lease : CallId)
  | enterClearance (expected : String) (state : WriterMarkerState)
      (identities : List MarkerIdentity)
  | leaveClearance
  | unlockedBody
  deriving DecidableEq

/-- The answer of each operation; a yielded body answers whether it returned. -/
@[reducible] def Answer : Op → Type
  | .acquireCapacity | .releaseCapacity | .enterBody | .markUnsafe _ => Unit
  | .enterClearance _ _ _ => Unit
  | .tryCapacity | .accessParent | .leaveBody | .safeToClear | .leaveClearance => Bool
  | .unlockedBody => Bool
  | .close => Bool
  | .lstatParent | .lstatLock | .fstatLock => Except OSError PathStat
  | .resolveParent => Except OSError Bool
  | .openParent | .openLock | .fchmodLock | .flock | .tryFlock => Except OSError Unit
  | .lstat _ | .stat _ | .fstat _ => Except OSError FileStat
  | .openMarker _ => Except OSError Handle
  | .read _ _ _ => Except OSError PyStr
  | .unlink _ | .fsyncParent | .fchmod _ | .fsync _ => Except OSError Unit
  | .tokenHex _ => PyStr
  | .create _ => Except OSError (Handle × ℕ × ℕ)
  | .write _ _ => Except OSError ℕ
  | .scandir => Except OSError (List MarkerName)

abbrev FileProg (α : Type) := Prog Answer WriterLockError α

def perform (op : Op) : FileProg (Answer op) := Prog.perform op

/-- The configured lock file: the name of the file and whether its path is absolute. -/
structure LockPath where
  absolute : Bool
  name : PyStr

/-- A program whose result is not looked at. -/
def discard {α : Type} (p : FileProg α) : FileProg Unit := do
  let _ ← p

/-- An answer, with its `OSError` raised as it is. -/
def raw {β : Type} : Except OSError β → FileProg β
  | Except.ok b => pure b
  | Except.error e => .raise (.os e)

/-- An answer, with its `OSError` raised as a lock error. -/
def wrapped {β : Type} (message : String) : Except OSError β → FileProg β
  | Except.ok b => pure b
  | Except.error e => .raise (.lock (message ++ e.typeName) (some e))

def lockError {β : Type} (message : String) : FileProg β := .raise (.lock message none)

def lockErrorIf (p : Prop) [Decidable p] (message : String) : FileProg Unit :=
  raiseIf p (.lock message none)

def validateWriterLockPath (path : LockPath) : FileProg Unit := do
  lockErrorIf (path.absolute = false ∨ path.name ∈ [[], PyStr.ofString ".", PyStr.ofString ".."])
    "VLA_NAVIGATION_WRITER_LOCK_PATH must be an absolute file path"
  let parent ← wrapped "cannot inspect writer lock parent: " (← perform .lstatParent)
  let resolved ← wrapped "cannot inspect writer lock parent: " (← perform .resolveParent)
  lockErrorIf (resolved = false) "writer lock parent must not traverse symlinks"
  let accessible ← perform .accessParent
  lockErrorIf (parent.symlink || !parent.directory || !parent.ownUid ||
    parent.groupOrOtherWritable || !accessible) "writer lock parent is not private to the service"
  match ← perform .lstatLock with
  | Except.error .fileNotFound => pure ()
  | Except.error e => .raise (.lock ("cannot inspect writer lock: " ++ e.typeName) (some e))
  | Except.ok lock =>
    lockErrorIf lock.symlink "writer lock path cannot be a symlink"
    lockErrorIf (!lock.regular || !lock.ownUid || lock.groupOrOtherWritable)
      "writer lock must be a private service-owned regular file"

def validateQuarantineMarker (path : MarkerName) : FileProg FileStat := do
  let metadata ← wrapped "cannot inspect writer quarantine marker: " (← perform (.lstat path))
  lockErrorIf (!metadata.privateRegular)
    "writer quarantine marker must be a private service-owned regular file"
  return metadata

def openParentDescriptor : FileProg Unit := do
  wrapped "cannot open writer lock parent: " (← perform .openParent)

/-- The loop over `os.write`; `skip` bytes of the rest are written already. -/
def writeAll (handle : Handle) : ℕ → PyStr → FileProg Unit
  | _, [] => pure ()
  | skip + 1, _ :: rest => writeAll handle skip rest
  | 0, b :: rest => do
    let written ← raw (← perform (.write handle (b :: rest)))
    writeAll handle (written - 1) rest

def quarantinedMessage : String :=
  "navigation writers are quarantined pending an operator safety check"

def createMarker (markerPath : MarkerName) : FileProg MarkerIdentity := do
  let token ← perform (.tokenHex 32)
  openParentDescriptor
  match ← perform (.create markerPath) with
  | Except.error .fileExists =>
    discard (validateQuarantineMarker markerPath)
    .raise (.quarantined quarantinedMessage)
  | Except.error e =>
    .raise (.lock ("cannot create writer quarantine marker: " ++ e.typeName) (some e))
  | Except.ok (handle, _) =>
    writeAll handle 0 (PyStr.ofString "v1:" ++ token ++ [10])
    raw (← perform (.fchmod handle))
    raw (← perform (.fsync handle))
    let metadata ← raw (← perform (.fstat handle))
    raw (← perform .fsyncParent)
    return ⟨markerPath, token, metadata.device, metadata.inode⟩

/-- The loop over `os.read`: what was read when it ends, at most 257 bytes. -/
def readChunks (handle : Handle) : ℕ → PyStr → FileProg PyStr
  | 0, payload => pure payload
  | fuel + 1, payload =>
    if 256 < payload.length then pure payload
    else do
      let chunk ← raw (← perform (.read handle payload.length (257 - payload.length)))
      if chunk = [] then return payload else readChunks handle fuel (payload ++ chunk)

def markerToken? (bytes : PyStr) : Option PyStr :=
  let payload := PyStr.strip bytes
  if 256 < bytes.length ∨ ¬ (∀ b ∈ bytes, b < 128) then none
  else if ¬ (PyStr.ofString "v1:" <+: payload) ∨ payload.length ≠ 67 then none
  else some (payload.drop 3)

def readMarkerToken (handle : Handle) : FileProg PyStr := do
  match markerToken? (← readChunks handle 258 []) with
  | some token => return token
  | none => lockError "writer quarantine marker is malformed"

def changedMessage : String := "writer quarantine marker changed while it was active"

def removeQuarantineMarker (expected : MarkerIdentity) : FileProg Bool := do
  match ← (validateQuarantineMarker expected.path).attempt with
  | Except.error (.lock _ (some .fileNotFound)) => return false
  | Except.error e => .raise e
  | Except.ok _ =>
    openParentDescriptor
    let handle ← wrapped "cannot open writer quarantine marker: "
      (← perform (.openMarker expected.path))
    let metadata ← raw (← perform (.fstat handle))
    lockErrorIf (!metadata.privateRegular) changedMessage
    lockErrorIf (metadata.device ≠ expected.device ∨ metadata.inode ≠ expected.inode)
      changedMessage
    let token ← readMarkerToken handle
    lockErrorIf (token ≠ expected.token) changedMessage
    let current ← raw (← perform (.stat expected.path))
    lockErrorIf (current.device ≠ metadata.device ∨ current.inode ≠ metadata.inode)
      changedMessage
    raw (← perform (.unlink expected.path))
    raw (← perform .fsyncParent)
    return true

/-- The part of the inspection under `except OSError`. -/
def inspectMarker (path : MarkerName) : FileProg MarkerIdentity := do
  let handle ← raw (← perform (.openMarker path))
  let metadata ← raw (← perform (.fstat handle))
  let token ← readMarkerToken handle
  let current ← raw (← perform (.stat path))
  lockErrorIf (current.device ≠ metadata.device ∨ current.inode ≠ metadata.inode)
    "writer quarantine marker changed while it was inspected"
  return ⟨path, token, metadata.device, metadata.inode⟩

def markerIdentity (path : MarkerName) : FileProg (Option MarkerIdentity) := do
  match ← (validateQuarantineMarker path).attempt with
  | Except.error (.lock _ (some .fileNotFound)) => return none
  | Except.error e => .raise e
  | Except.ok _ =>
    openParentDescriptor
    match ← (inspectMarker path).attempt with
    | Except.error (.os e) =>
      .raise (.lock ("cannot inspect writer quarantine marker: " ++ e.typeName) (some e))
    | Except.error e => .raise e
    | Except.ok identity => return some identity

def markerIdentities : List MarkerName → FileProg (List MarkerIdentity)
  | [] => pure []
  | path :: paths => do
    let identity ← markerIdentity path
    let identities ← markerIdentities paths
    return identity.toList ++ identities

def hexdigest (bytes : PyStr) : String :=
  .ofList ((Sha256.digest bytes).flatMap fun b =>
    [Sha256.hexDigit (b / 16), Sha256.hexDigit (b % 16)])

def MarkerIdentity.line (lock : PyStr) (item : MarkerIdentity) : PyStr :=
  item.path.fileName lock ++ PyStr.ofString "=" ++ item.token

/-- The text whose hash names a marker state. -/
def markerPayload (lock : PyStr) (active : Option MarkerIdentity)
    (quarantines : List MarkerIdentity) : PyStr :=
  let lines := (PyStr.ofString "active=" ++ active.elim [] (·.token)) ::
    quarantines.map (·.line lock)
  lines.flatMap (· ++ [10])

def markerState (lock : PyStr) (active : Option MarkerIdentity)
    (quarantines : List MarkerIdentity) : WriterMarkerState where
  sha256 := hexdigest (markerPayload lock active quarantines)
  activePresent := active.isSome
  quarantinePresent := !quarantines.isEmpty
  markerEntrySha256s := (active.toList ++ quarantines).map fun item => hexdigest (item.line lock)

def captureMarkerState (lock : PyStr) : FileProg (WriterMarkerState × List MarkerIdentity) := do
  let active ← markerIdentity .active
  let names ← wrapped "cannot enumerate writer quarantine markers: " (← perform .scandir)
  let quarantines ← markerIdentities
    (names.insertionSort fun a b => a.fileName lock ≤ b.fileName lock)
  raiseIf (¬ ∀ b ∈ markerPayload lock active quarantines, b < 128) .unicodeEncode
  -- the line of the active marker has the name of the lock, which the payload may lack
  raiseIf (¬ ∀ b ∈ (active.toList ++ quarantines).flatMap (·.line lock), b < 128) .unicodeEncode
  return (markerState lock active quarantines, active.toList ++ quarantines)

def navigationWriterMarkerState (path : LockPath) : FileProg WriterMarkerState := do
  validateWriterLockPath path
  let (state, _) ← captureMarkerState path.name
  return state

def navigationWriterQuarantinePresent (path : LockPath) : FileProg Bool := do
  let state ← navigationWriterMarkerState path
  return state.activePresent || state.quarantinePresent

def openLockFile (path : LockPath) : FileProg Unit := do
  validateWriterLockPath path
  wrapped "cannot open writer lock: " (← perform .openParent)
  wrapped "cannot open writer lock: " (← perform .openLock)
  let metadata ← raw (← perform .fstatLock)
  lockErrorIf (!metadata.regular || !metadata.ownUid)
    "writer lock must be a service-owned regular file"
  raw (← perform .fchmodLock)

/-- From the `flock` to the lease: nothing is cleared when this raises. -/
def acquireLease (path : LockPath) : FileProg MarkerIdentity := do
  wrapped "writer lock operation failed: " (← perform .flock)
  let present ← navigationWriterQuarantinePresent path
  raiseIf present (.quarantined quarantinedMessage)
  createMarker .active

/-- What follows the yield; when the removal raises, the descriptor stays open. -/
def releaseLease (lease : MarkerIdentity) : FileProg Unit := do
  let safe ← perform .safeToClear
  if safe then discard (removeQuarantineMarker lease) else pure ()
  discard (perform .close)

/-- The part under the thread capacity. -/
def holdLease (path : LockPath) : FileProg Unit := do
  openLockFile path
  match ← (acquireLease path).attempt with
  | Except.error e => do
    discard (perform .close)
    .raise e
  | Except.ok lease => do
    perform .enterBody
    let returned ← perform .leaveBody
    releaseLease lease
    raiseIf (!returned) .body

def navigationWriterLock (enabled : Bool) (path : LockPath) : FileProg Unit :=
  if enabled then do
    perform .acquireCapacity
    (holdLease path).finallyDo (perform .releaseCapacity)
  else do
    let returned ← perform .unlockedBody
    raiseIf (!returned) .body

def removeMarkers : List MarkerIdentity → FileProg Unit
  | [] => pure ()
  | identity :: identities => do
    discard (removeQuarantineMarker identity)
    removeMarkers identities

/-- The clearance under its `flock`. -/
def clearMarkers (path : LockPath) (expectedMarkerStateSha256 : String) : FileProg Unit := do
  match ← perform .tryFlock with
  | Except.error .blockingIOError => lockError "a navigation writer process group is still active"
  | Except.error e => .raise (.lock ("writer lock operation failed: " ++ e.typeName) (some e))
  | Except.ok () =>
    let (state, identities) ← captureMarkerState path.name
    raiseIf (state.sha256 ≠ expectedMarkerStateSha256)
      (.quarantined "writer quarantine changed after the operator confirmation")
    perform (.enterClearance expectedMarkerStateSha256 state identities)
    let returned ← perform .leaveClearance
    raiseIf (!returned) .body
    removeMarkers identities

/-- The part under the thread capacity. -/
def holdClearance (path : LockPath) (expectedMarkerStateSha256 : String) : FileProg Unit := do
  openLockFile path
  (clearMarkers path expectedMarkerStateSha256).finallyDo (discard (perform .close))

def navigationWriterQuarantineClearance (path : LockPath) (expectedMarkerStateSha256 : String)
    (allWriterProcessGroupsAbsent : Bool) : FileProg Unit := do
  lockErrorIf (!allWriterProcessGroupsAbsent)
    ("writer quarantine requires confirmation that all writer process " ++ "groups are absent")
  validateWriterLockPath path
  let acquired ← perform .tryCapacity
  lockErrorIf (!acquired) "a navigation writer is still active"
  (holdClearance path expectedMarkerStateSha256).finallyDo (perform .releaseCapacity)

def clearNavigationWriterQuarantine (path : LockPath) (allWriterProcessGroupsAbsent : Bool) :
    FileProg Unit := do
  let expected ← navigationWriterMarkerState path
  navigationWriterQuarantineClearance path expected.sha256 allWriterProcessGroupsAbsent

def recoveryRefCharacters : PyStr :=
  PyStr.ofString "abcdefghijklmnopqrstuvwxyzABCDEFGHIJKLMNOPQRSTUVWXYZ0123456789_-"

def recoveryRefOrFresh : Option PyStr → FileProg PyStr
  | some (c :: ref) => pure (c :: ref)
  | _ => do
    let suffix ← perform (.tokenHex 16)
    return PyStr.ofString "recovery_" ++ suffix

def ensureNavigationWriterQuarantine (path : LockPath) (recoveryRef : Option PyStr) :
    FileProg MarkerName := do
  validateWriterLockPath path
  let markerRef ← recoveryRefOrFresh recoveryRef
  lockErrorIf (markerRef = [] ∨ 128 < markerRef.length ∨
    ¬ ∀ c ∈ markerRef, c ∈ recoveryRefCharacters) "writer recovery reference is invalid"
  let markerPath := MarkerName.quarantine (some markerRef)
  match ← markerIdentity markerPath with
  | some _ => return markerPath
  | none =>
    discard (createMarker markerPath)
    return markerPath

/-- Called in a context that carries these leases. -/
def quarantineActiveWriter : List CallId → FileProg Unit
  | [] => pure ()
  | lease :: leases => do
    perform (.markUnsafe lease)
    quarantineActiveWriter leases

/-- `busy`, or `quarantined` when a marker says so by now. -/
def refreshedStatus (path : LockPath) : FileProg String := do
  let refreshed ← navigationWriterMarkerState path
  return if refreshed.quarantinePresent then "quarantined" else "busy"

/-- The status when an active marker is there and the thread capacity is taken. -/
def probeFlock (path : LockPath) : FileProg String := do
  match ← perform .tryFlock with
  | Except.error .blockingIOError => refreshedStatus path
  | Except.error e => .raise (.lock ("writer lock operation failed: " ++ e.typeName) (some e))
  | Except.ok () =>
    let refreshed ← navigationWriterMarkerState path
    return if refreshed.quarantinePresent || refreshed.activePresent then "quarantined"
      else "available"

def probeLock (path : LockPath) : FileProg String := do
  openLockFile path
  (probeFlock path).finallyDo (discard (perform .close))

def probeCapacity (path : LockPath) : FileProg String := do
  let acquired ← perform .tryCapacity
  if acquired then (probeLock path).finallyDo (perform .releaseCapacity) else refreshedStatus path

def navigationWriterCoordinationStatus (path : LockPath) : FileProg String := do
  let state ← navigationWriterMarkerState path
  if state.quarantinePresent then return "quarantined"
  else if state.activePresent then probeCapacity path
  else return "available"

structure MarkerFile where
  name : MarkerName
  serial : ℕ
  device : ℕ
  inode : ℕ
  content : PyStr

instance : Keyed MarkerFile MarkerName := ⟨MarkerFile.name⟩

/-- Who keeps the `flock`: a call, or children that inherited a descriptor of a closed one. -/
inductive Owner
  | call (c : CallId)
  | children
  deriving DecidableEq

inductive BodyState
  | before
  | inside
  | ended (safe : Bool)
  | crashed

def BodyState.crash : BodyState → BodyState
  | inside => crashed
  | stage => stage

/-- What a clearance captured before its body, and how many markers there were by then. -/
structure Capture where
  expected : String
  state : WriterMarkerState
  identities : List MarkerIdentity
  scannedAt : ℕ

inductive ClearanceState
  | before
  | inside (captured : Capture)
  | completed (captured : Capture)
  | failed

def ClearanceState.crash : ClearanceState → ClearanceState
  | inside _ => failed
  | stage => stage

/--
The directory and the locks. The fields from `flockSince` on, save the leases, only observe:
how many markers existed when the lock was taken, when a call scanned the directory, and how
far its body is.
-/
structure World where
  files : Table MarkerFile
  created : ℕ
  flock : Option Owner
  capacity : ProcessId → Bool
  leaseSafe : CallId → Bool
  flockSince : ℕ
  scannedAt : CallId → ℕ
  body : CallId → BodyState
  clearance : CallId → ClearanceState

def World.opened (w : World) (h : Handle) : Option MarkerFile :=
  (w.files.find? h.name).filter (·.serial = h.serial)

def World.looked (w : World) (name : MarkerName) (answer : Except OSError FileStat) :
    Option World :=
  match answer, w.files.find? name with
  | .ok metadata, some f =>
    if metadata.device = f.device ∧ metadata.inode = f.inode then some w else none
  | .ok _, none => none
  | .error .fileNotFound, f => if f.isNone then some w else none
  | .error _, _ => some w

def World.takeCapacity (w : World) (p : ProcessId) : Option World :=
  if w.capacity p then none else some { w with capacity := Function.update w.capacity p true }

def World.takeFlock (w : World) (c : CallId) : Option World :=
  if w.flock = none then some { w with flock := some (.call c), flockSince := w.created } else none

def World.append (w : World) (h : Handle) (bytes : PyStr) : World :=
  { w with files := w.files.update (fun f => f.name = h.name ∧ f.serial = h.serial) fun f =>
      { f with content := f.content ++ bytes } }

def World.setClearance (w : World) (c : CallId) (stage : ClearanceState) : World :=
  { w with clearance := Function.update w.clearance c stage }

/-- One operation of call `c` of process `p` with its answer, when it can have this answer. -/
def exec (p : ProcessId) (c : CallId) (w : World) : (op : Op) → Answer op → Option World
  | .acquireCapacity, () => w.takeCapacity p
  | .tryCapacity, true => w.takeCapacity p
  | .tryCapacity, false => if w.capacity p then some w else none
  | .releaseCapacity, () => some { w with capacity := Function.update w.capacity p false }
  | .lstatParent, _ | .resolveParent, _ | .accessParent, _ | .lstatLock, _ => some w
  | .openParent, _ | .openLock, _ | .fstatLock, _ | .fchmodLock, _ => some w
  | .fchmod _, _ | .fsync _, _ | .fsyncParent, _ | .tokenHex _, _ | .unlockedBody, _ => some w
  | .flock, .ok () => w.takeFlock c
  | .flock, .error _ => some w
  | .tryFlock, .ok () => w.takeFlock c
  | .tryFlock, .error .blockingIOError => if w.flock = none then none else some w
  | .tryFlock, .error _ => some w
  -- the answer of a close tells whether children still have the descriptor
  | .close, inherited =>
    if w.flock = some (.call c) then
      some { w with flock := if inherited then some .children else none }
    else some w
  | .lstat name, answer => w.looked name answer
  | .stat name, answer => w.looked name answer
  | .openMarker name, .ok handle =>
    match w.files.find? name with
    | some f => if handle = ⟨name, f.serial⟩ then some w else none
    | none => none
  | .openMarker name, .error .fileNotFound =>
    if (w.files.find? name).isNone then some w else none
  | .openMarker _, .error _ => some w
  | .fstat h, .ok metadata =>
    match w.opened h with
    | some f => if metadata.device = f.device ∧ metadata.inode = f.inode then some w else none
    | none => some w
  | .fstat _, .error _ => some w
  | .read h offset room, .ok chunk =>
    match w.opened h with
    | some f =>
      if chunk.length ≤ room ∧ chunk <+: f.content.drop offset ∧
          (chunk = [] → f.content.length ≤ offset) then some w else none
    | none => some w
  | .read _ _ _, .error _ => some w
  | .unlink name, .ok () =>
    if (w.files.find? name).isSome then
      some { w with files := w.files.delete fun f => f.name = name }
    else none
  | .unlink _, .error _ => some w
  | .create name, .ok (handle, device, inode) =>
    if handle = ⟨name, w.created⟩ ∧ ∀ f ∈ w.files, (f.device, f.inode) ≠ (device, inode) then
      (w.files.insert? ⟨name, w.created, device, inode, []⟩).map fun files =>
        { w with files, created := w.created + 1 }
    else none
  | .create name, .error .fileExists => if (w.files.find? name).isSome then some w else none
  | .create _, .error _ => some w
  | .write h payload, .ok written =>
    if 0 < written ∧ written ≤ payload.length then some (w.append h (payload.take written))
    else none
  | .write _ _, .error _ => some w
  | .scandir, .ok names =>
    if names = (w.files.rows.map (·.name)).filter (·.isQuarantine) then
      some { w with scannedAt := Function.update w.scannedAt c w.created }
    else none
  | .scandir, .error _ => some w
  | .enterBody, () =>
    some { w with body := Function.update w.body c .inside,
                  leaseSafe := Function.update w.leaseSafe c true }
  | .leaveBody, _ => some { w with body := Function.update w.body c (.ended (w.leaseSafe c)) }
  | .safeToClear, safe => if safe = w.leaseSafe c then some w else none
  | .markUnsafe d, () => some { w with leaseSafe := Function.update w.leaseSafe d false }
  | .enterClearance expected state identities, () =>
    some (w.setClearance c (.inside ⟨expected, state, identities, w.scannedAt c⟩))
  | .leaveClearance, returned =>
    match w.clearance c with
    | .inside captured =>
      some (w.setClearance c (if returned then .completed captured else .failed))
    | _ => none

/-- What happens without a call: a process dies, or the last inheriting child ends. -/
inductive Outside
  | crash (p : ProcessId) (inherited : Bool)
  | childrenEnd

inductive Call
  | writer (enabled : Bool)
  | clearance (expectedMarkerStateSha256 : String) (allWriterProcessGroupsAbsent : Bool)
  | clear (allWriterProcessGroupsAbsent : Bool)
  | ensureQuarantine (recoveryRef : Option PyStr)
  | quarantineActive (leases : List CallId)
  | coordinationStatus

/-- The lock file, and for each call what it calls and in which process. -/
structure Setup where
  path : LockPath
  call : CallId → Call
  process : CallId → ProcessId

def Call.program (path : LockPath) : Call → FileProg Unit
  | writer enabled => navigationWriterLock enabled path
  | clearance expected absent => navigationWriterQuarantineClearance path expected absent
  | clear absent => clearNavigationWriterQuarantine path absent
  | ensureQuarantine recoveryRef => discard (ensureNavigationWriterQuarantine path recoveryRef)
  | quarantineActive leases => quarantineActiveWriter leases
  | coordinationStatus => discard (navigationWriterCoordinationStatus path)

def outside (process : CallId → ProcessId) (w : World) : Outside → Option World
  | .crash p inherited =>
    let flock := match w.flock with
      | some (.call c) =>
        if process c = p then (if inherited then some .children else none) else w.flock
      | flock => flock
    some { w with
      flock
      capacity := Function.update w.capacity p false
      body := fun c => if process c = p then (w.body c).crash else w.body c
      clearance := fun c => if process c = p then (w.clearance c).crash else w.clearance c }
  | .childrenEnd =>
    if w.flock = some .children then some { w with flock := none } else none

def machine (s : Setup) : Machine World CallId Outside Answer where
  exec c := exec (s.process c) c
  outside := outside s.process
  ends
    | .crash p _, c => s.process c = p
    | .childrenEnd, _ => false

/-- No marker, no lock taken, nothing started. -/
def World.initial : World where
  files := .empty
  created := 0
  flock := none
  capacity _ := false
  leaseSafe _ := false
  flockSince := 0
  scannedAt _ := 0
  body _ := .before
  clearance _ := .before

abbrev LockPool := Pool World CallId Answer WriterLockError Unit

abbrev LockEvent := PoolEvent CallId Outside Answer

def Setup.pool (s : Setup) : LockPool :=
  ⟨.initial, fun c => some ((s.call c).program s.path)⟩

end DataJuicer.Navigation.WriterLock
