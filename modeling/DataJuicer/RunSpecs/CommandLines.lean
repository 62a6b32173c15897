import DataJuicer.RunSpecs.BuiltStages

/-! # Command lines

Every token of a command line has a role. A flag comes from the launcher, from the fixed arguments,
from a parameter or from the platform, and a command line is unambiguous when no two of these set
the same one.
-/

namespace DataJuicer.RunSpecs

open Transaction Models

/-- What a token of a command line is there for. -/
inductive Role
  /-- The executable or the entrypoint. -/
  | program
  /-- An option of the launcher or a fixed argument; its flag ends in front of a `=`. -/
  | option
  /-- A flag of this parameter, or of the platform. -/
  | flag (owner : Option ParameterDefinition)
  | value (owner : Option ParameterDefinition)

structure Word where
  text : String
  role : Role

namespace Word

def flag? (w : Word) : Option String :=
  match w.role with
  | .program | .value _ => none
  | .option => some (tokenFlag w.text)
  | .flag _ => some w.text

def owner? (w : Word) : Option ParameterDefinition :=
  match w.role with
  | .program | .option => none
  | .flag d | .value d => d

end Word

/-- The flags that a command line sets. -/
def flagsOf (words : List Word) : List String := words.filterMap Word.flag?

@[simp]
theorem flagsOf_append (v w : List Word) : flagsOf (v ++ w) = flagsOf v ++ flagsOf w :=
  List.filterMap_append

/-- The words of `parameterTokens`. -/
def parameterWords (d : ParameterDefinition) (value : JsonScalar) (text : String) : List Word :=
  if d.argumentStyle = .flagWhenTrue then
    (if value.truthy then [⟨d.cliFlag, .flag (some d)⟩] else [])
  else [⟨d.cliFlag, .flag (some d)⟩, ⟨text, .value (some d)⟩]

/-- The words of `argumentTokens`. -/
def argumentWords (text : ParameterDefinition → JsonScalar → String)
    (parameters : String → Option JsonScalar) : List ParameterDefinition → List Word
  | [] => []
  | d :: ds =>
    match parameters d.name with
    | none => argumentWords text parameters ds
    | some value => parameterWords d value (text d value) ++ argumentWords text parameters ds

namespace Prepared

variable (p : Prepared) (runRef : String) (port : Option ℕ) (version : VersionMeta)

def launcherTokens : List String :=
  if p.usesTorchrun then torchrunOptions p.nprocPerNode (port.getD 0) else []

/-- The words of `argvHead`. -/
def headWords : List Word :=
  ⟨p.template.executable, .program⟩ :: ((p.launcherTokens port).map fun t => ⟨t, .option⟩) ++
    ⟨p.template.entrypoint, .program⟩ :: p.template.fixedArgv.map fun t => ⟨t, .option⟩

/-- The words of `manifestTokens`. -/
def manifestWords : List Word :=
  match p.datasetManifestPath runRef version with
  | some path => [⟨datasetManifestFlag, .flag none⟩, ⟨path, .value none⟩]
  | none => []

/-- The words of `argv`. -/
def words (text : ParameterDefinition → JsonScalar → String) (n : ℕ)
    (parameters : String → Option JsonScalar) : List Word :=
  p.headWords port ++ p.manifestWords runRef version ++
    argumentWords text parameters p.definitions ++
      [⟨p.template.outputFlag, .flag none⟩, ⟨p.output runRef version n, .value none⟩]

end Prepared

def launcherFlags : List String :=
  ["--nnodes", "--nproc_per_node", "--master_addr", "--master_port", "--node_rank"]

/-- The flag of an active parameter is on the command line. -/
def StageContext.Emitted (c : StageContext) (d : ParameterDefinition) : Prop :=
  d.argumentStyle = .flagWhenTrue → (c.value d).truthy

instance (c : StageContext) : DecidablePred c.Emitted :=
    fun _ => inferInstanceAs (Decidable (_ → _))

/-- A token that is shown; the value of a sensitive parameter may be another text. -/
def Shown (w : Word) (t : String) : Prop :=
  w.text = t ∨ ∃ d, w.role = .value (some d) ∧ d.sensitive

/-- The command line of a built stage sets each flag once, and the right one. -/
structure Unambiguous (c : StageContext) (p : Prepared) (runRef : String) (port : Option ℕ)
    (version : VersionMeta) (b : BuiltStage) (words : List Word) : Prop where
  tokens : b.privateSpec.argv = words.map Word.text
  output_once : (flagsOf words).count p.template.outputFlag = 1
  output_value : ∃ front, words =
    front ++ [⟨p.template.outputFlag, .flag none⟩, ⟨b.outputDirectory, .value none⟩]
  manifest : ∀ path, p.datasetManifestPath runRef version = some path →
    (flagsOf words).count datasetManifestFlag = 1 ∧ ∃ front back, words =
      front ++ ⟨datasetManifestFlag, .flag none⟩ :: ⟨path, .value none⟩ :: back
  parameter_once : ∀ d ∈ c.definitions, c.Active d →
    (flagsOf words).count d.cliFlag = if c.Emitted d then 1 else 0
  parameter_flag : ∀ d ∈ c.definitions, c.Active d → c.Emitted d →
    ⟨d.cliFlag, .flag (some d)⟩ ∈ words
  owned : ∀ w ∈ words, ∀ d, w.owner? = some d → d ∈ c.definitions ∧ c.Active d
  fixed : ∀ token ∈ p.template.fixedArgv, tokenFlag token ≠ p.template.outputFlag ∧
    (p.datasetManifestPath runRef version ≠ none → tokenFlag token ≠ datasetManifestFlag) ∧
      ∀ d ∈ c.definitions, c.Active d → tokenFlag token ≠ d.cliFlag
  shown : List.Forall₂ Shown words b.runSpec.argv

/-- The flags of a stage that no validator compares do not collide. -/
structure NoCollision (c : StageContext) (p : Prepared) : Prop where
  output_fixed : ∀ token ∈ p.template.fixedArgv, tokenFlag token ≠ p.template.outputFlag
  output_launcher : p.usesTorchrun → p.template.outputFlag ∉ launcherFlags
  parameter_launcher : p.usesTorchrun → ∀ d ∈ c.definitions, c.Active d →
    d.cliFlag ∉ launcherFlags
  parameters : ∀ d ∈ c.definitions, ∀ e ∈ c.definitions, c.Active d → c.Active e → d ≠ e →
    d.cliFlag = e.cliFlag → ¬ c.Emitted d

section

variable {text text' : ParameterDefinition → JsonScalar → String}
  {parameters : String → Option JsonScalar} {d : ParameterDefinition}
  {ds : List ParameterDefinition}

theorem map_text_parameterWords (d : ParameterDefinition) (value : JsonScalar) (s : String) :
    (parameterWords d value s).map Word.text = parameterTokens d value s := by
  unfold parameterWords parameterTokens
  split
  · split <;> rfl
  · rfl

theorem map_text_argumentWords (ds : List ParameterDefinition) :
    (argumentWords text parameters ds).map Word.text = argumentTokens text parameters ds := by
  induction ds with
  | nil => rfl
  | cons d ds ih =>
    unfold argumentWords argumentTokens
    cases parameters d.name with
    | none => exact ih
    | some v => simp only [List.map_append, map_text_parameterWords, ih]

theorem Prepared.map_text_headWords (p : Prepared) (port : Option ℕ) :
    (p.headWords port).map Word.text = p.argvHead port := by
  unfold Prepared.headWords Prepared.argvHead Prepared.launcherTokens
  split <;> simp [Function.comp_def]

theorem Prepared.map_text_manifestWords (p : Prepared) (runRef : String) (version : VersionMeta) :
    (p.manifestWords runRef version).map Word.text = p.manifestTokens runRef version := by
  unfold Prepared.manifestWords Prepared.manifestTokens
  cases p.datasetManifestPath runRef version <;> rfl

theorem Prepared.map_text_words (p : Prepared) (runRef : String) (port : Option ℕ)
    (version : VersionMeta) (n : ℕ) :
    (p.words runRef port version text n parameters).map Word.text =
      p.argv runRef port version text n parameters := by
  unfold Prepared.words Prepared.argv
  simp [p.map_text_headWords, p.map_text_manifestWords, map_text_argumentWords]

/-- A parameter of a stage gets a flag. -/
def emits (parameters : String → Option JsonScalar) (d : ParameterDefinition) : Bool :=
  (parameters d.name).any fun v => d.argumentStyle ≠ .flagWhenTrue || v.truthy

theorem flagsOf_argumentWords (ds : List ParameterDefinition) :
    flagsOf (argumentWords text parameters ds) =
      (ds.filter fun d => emits parameters d).map ParameterDefinition.cliFlag := by
  induction ds with
  | nil => rfl
  | cons d ds ih =>
    unfold argumentWords
    split
    · next hnone => simp [ih, emits, hnone]
    · next v hsome =>
      rw [flagsOf_append, ih]
      by_cases hstyle : d.argumentStyle = .flagWhenTrue
      · by_cases htrue : v.truthy <;>
          simp [parameterWords, emits, hsome, hstyle, htrue, flagsOf, Word.flag?]
      · simp [parameterWords, emits, hsome, hstyle, flagsOf, Word.flag?]

theorem mem_argumentWords {w : Word} (hw : w ∈ argumentWords text parameters ds) :
    ∃ d ∈ ds, parameters d.name ≠ none ∧ w.owner? = some d := by
  induction ds with
  | nil => simp [argumentWords] at hw
  | cons d ds ih =>
    unfold argumentWords at hw
    split at hw
    · obtain ⟨e, he, hrest⟩ := ih hw
      exact ⟨e, List.mem_cons_of_mem d he, hrest⟩
    · next v hsome =>
      rcases List.mem_append.1 hw with hw | hw
      · refine ⟨d, List.mem_cons_self, by simp [hsome], ?_⟩
        unfold parameterWords at hw
        split at hw
        · split at hw
          · rw [List.mem_singleton] at hw
            rw [hw]
            rfl
          · simp at hw
        · simp only [List.mem_cons, List.not_mem_nil, or_false] at hw
          rcases hw with rfl | rfl <;> rfl
      · obtain ⟨e, he, hrest⟩ := ih hw
        exact ⟨e, List.mem_cons_of_mem d he, hrest⟩

theorem flag_mem_argumentWords (hd : d ∈ ds) (h : emits parameters d) :
    ⟨d.cliFlag, .flag (some d)⟩ ∈ argumentWords text parameters ds := by
  induction ds with
  | nil => simp at hd
  | cons e ds ih =>
    unfold argumentWords
    rcases List.mem_cons.1 hd with rfl | hd
    · cases hsome : parameters d.name with
      | none => simp [emits, hsome] at h
      | some v =>
        apply List.mem_append_left
        by_cases hstyle : d.argumentStyle = .flagWhenTrue
        · have htrue : v.truthy := by simpa [emits, hsome, hstyle] using h
          simp [parameterWords, hstyle, htrue]
        · simp [parameterWords, hstyle]
    · split
      · exact ih hd
      · exact List.mem_append_right _ (ih hd)

theorem shown_map_text (words : List Word) : List.Forall₂ Shown words (words.map Word.text) := by
  induction words with
  | nil => exact .nil
  | cons w words ih => exact .cons (.inl rfl) ih

theorem shown_argumentWords (ds : List ParameterDefinition) :
    List.Forall₂ Shown (argumentWords rendered parameters ds)
      (argumentTokens safeRendered parameters ds) := by
  induction ds with
  | nil => exact .nil
  | cons d ds ih =>
    unfold argumentWords argumentTokens
    cases parameters d.name with
    | none => exact ih
    | some v =>
      refine List.rel_append ?_ ih
      unfold parameterWords parameterTokens
      split
      · split
        · exact .cons (.inl rfl) .nil
        · exact .nil
      · refine .cons (.inl rfl) (.cons ?_ .nil)
        cases hsensitive : d.sensitive with
        | true => exact .inr ⟨d, rfl, hsensitive⟩
        | false => exact .inl (by simp [safeRendered, hsensitive])

theorem Prepared.shown_words (p : Prepared) (runRef : String) (port : Option ℕ)
    (version : VersionMeta) (n : ℕ) :
    List.Forall₂ Shown (p.words runRef port version rendered n parameters)
      (p.argv runRef port version safeRendered n parameters) := by
  unfold Prepared.words Prepared.argv
  rw [← p.map_text_headWords, ← p.map_text_manifestWords]
  refine List.rel_append (List.rel_append (List.rel_append ?_ ?_) (shown_argumentWords _)) ?_
  · exact shown_map_text _
  · exact shown_map_text _
  · exact .cons (.inl rfl) (.cons (.inl rfl) .nil)

end

end DataJuicer.RunSpecs
