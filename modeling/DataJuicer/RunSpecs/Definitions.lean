import DataJuicer.Lib.Doubles
import DataJuicer.Lib.PyText
import DataJuicer.Lib.Transaction

/-! # Model configurations

What a model family registers: a launch template and the definitions of its parameters. The
request model and the stored model validate the same definitions, each with its own rules.
-/

namespace DataJuicer.RunSpecs

open Transaction

/-- An `int` or a `float`. -/
inductive Number
  | int (n : ℤ)
  | float (x : Double)
  deriving DecidableEq

/-- The exact value that Python compares. -/
def Number.value : Number → DoubleValue
  | .int n => .finite n
  | .float x => x.value

def Number.lt (a b : Number) : Bool := a.value.lt b.value

inductive JsonScalar
  | bool (b : Bool)
  | number (x : Number)
  | str (s : String)
  deriving DecidableEq

/-- `==` of two scalars; a `bool` is a number. -/
def JsonScalar.eq : JsonScalar → JsonScalar → Bool
  | .str s, .str t => s = t
  | .bool b, .bool c => b = c
  | .number x, .number y => x.value.eq y.value
  | .bool b, .number x | .number x, .bool b => (DoubleValue.finite (if b then 1 else 0)).eq x.value
  | .str _, _ | _, .str _ => false

/-- What the standard library makes of texts and doubles. -/
structure Texts where
  /-- `str.casefold` -/
  casefold : String → String
  /-- The `repr` of a double with an integer as its value. -/
  repr : ℤ → String
  /-- `int` of a text, unless it raises. -/
  int : String → Option ℤ

/-- `OverflowError` of the conversion of an integer -/
def overflowMessage : String := "int too large to convert to float"

def isFinite : Number → Except String Bool
  | .int n => do
    raiseIf (doubleOfInt n = none) overflowMessage
    return true
  | .float x => .ok x.value.isFinite

def maxSafeInteger : ℤ := 9007199254740991

/-- The characters that a single-line value does not have. -/
def hasControl (s : String) : Bool := s.toList.any fun c => c = '\x00' || c = '\n' || c = '\r'

def isWordChar (c : Char) : Bool := c.isAlphanum || c = '_'

/-- `^[A-Za-z][A-Za-z0-9_]{0,99}$` -/
def matchesKey (s : String) : Bool :=
  match s.toList with
  | c :: cs => c.isAlpha && cs.length ≤ 99 && cs.all isWordChar
  | [] => false

/-- `^--[A-Za-z0-9][A-Za-z0-9_-]{0,99}$` -/
def matchesFlag (s : String) : Bool :=
  match s.toList with
  | '-' :: '-' :: c :: cs =>
    c.isAlphanum && cs.length ≤ 99 && cs.all fun d => isWordChar d || d = '-'
  | _ => false

/-- `^[A-Za-z][A-Za-z0-9_-]{0,63}$` -/
def matchesGroup (s : String) : Bool :=
  match s.toList with
  | c :: cs => c.isAlpha && cs.length ≤ 63 && cs.all fun d => isWordChar d || d = '-'
  | [] => false

structure ParameterChoice where
  value : String
  label : String
  deriving DecidableEq

inductive SemanticRole
  | hyperparameter
  | stageInput
  deriving DecidableEq

inductive ArgumentStyle
  | value
  | explicitBoolean
  | flagWhenTrue
  deriving DecidableEq

/-- The five types; a `number` is a `float` of the stored model. -/
inductive ParameterType
  | integer
  | number
  | boolean
  | enum
  | string
  deriving DecidableEq

/-- The group that a form shows a parameter in. -/
structure DisplayGroup where
  group : Option String
  label : Option String
  order : Option ℕ
  deriving DecidableEq

structure VisibilityCondition where
  parameterKey : String
  equals : JsonScalar
  deriving DecidableEq

/-- `valid_default`, and the same test of the value of a condition -/
def ParameterType.admits : ParameterType → JsonScalar → Bool
  | .integer, .number (.int _) => true
  | .number, .number _ => true
  | .boolean, .bool _ => true
  | .enum, .str _ => true
  | .string, .str _ => true
  | _, _ => false

def Number.isInt : Number → Bool
  | .int _ => true
  | .float _ => false

/-- `abs(n) > _MAX_SAFE_INTEGER` of an integer -/
def Number.unsafeInteger : Number → Bool
  | .int n => maxSafeInteger < |n|
  | .float _ => false

def JsonScalar.unsafeInteger : JsonScalar → Bool
  | .number x => x.unsafeInteger
  | _ => false

def boundsCross (minimum maximum : Option Number) : Bool :=
  match minimum, maximum with
  | some a, some b => b.lt a
  | _, _ => false

def lengthsCross (minimum maximum : Option ℕ) : Bool :=
  match minimum, maximum with
  | some a, some b => b < a
  | _, _ => false

/-- The error of a constraint on a single field. -/
def fieldMessage (field : String) : String := "invalid " ++ field

/-- `reject_control_characters` of a choice, with the bounds of its fields -/
def choiceText (value : String) : Except String String := do
  raiseIf (¬ (1 ≤ value.length ∧ value.length ≤ 200)) (fieldMessage "choices")
  raiseIf (hasControl value) "enum choices cannot contain control characters"
  raiseIf (stripText value = "") "enum choices cannot be blank"
  return stripText value

def ParameterChoice.validate (c : ParameterChoice) : Except String ParameterChoice := do
  return ⟨← choiceText c.value, ← choiceText c.label⟩

def validateChoices : List ParameterChoice → Except String (List ParameterChoice)
  | [] => .ok []
  | c :: cs => do return (← c.validate) :: (← validateChoices cs)

def DisplayGroup.FieldsValid (g : DisplayGroup) : Prop :=
  g.group.all matchesGroup ∧ (g.label.all fun s => 2 ≤ s.length && s.length ≤ 30) ∧
    g.order.all (· ≤ 1000)

instance : DecidablePred DisplayGroup.FieldsValid := fun _ => inferInstanceAs (Decidable (_ ∧ _))

/-- The checks of `validate_definition` on the display group. -/
def DisplayGroup.validate (g : DisplayGroup) : Except String Unit :=
  match g.group with
  | none => raiseIf (g.label ≠ none ∨ g.order ≠ none)
      "display group metadata requires display_group"
  | some _ => raiseIf (g.label = none ∨ g.order = none) "display_group requires a label and order"

def ParameterType.defaultStyle : ParameterType → ArgumentStyle
  | .boolean => .flagWhenTrue
  | _ => .value

def validateStyle (type : ParameterType) (style : ArgumentStyle) : Except String Unit :=
  if type = .boolean then
    raiseIf (style = .value) "boolean parameters require explicit_boolean or flag_when_true"
  else
    raiseIf (style ≠ .value)
      "explicit_boolean and flag_when_true are only valid for boolean parameters"

namespace Api

/-- `ParameterDefinition` of a request -/
structure ParameterDefinition where
  key : String
  label : String
  type : ParameterType
  semanticRole : SemanticRole
  default : JsonScalar
  description : Option String
  minimum : Option Number
  maximum : Option Number
  choices : List ParameterChoice
  stringMinLength : Option ℕ
  stringMaxLength : Option ℕ
  visibleWhen : Option VisibilityCondition
  display : DisplayGroup
  sensitive : Bool
  cliFlag : Option String
  argumentStyle : Option ArgumentStyle
  deriving DecidableEq

namespace ParameterDefinition

structure FieldsValid (d : ParameterDefinition) : Prop where
  key : matchesKey d.key
  label : 1 ≤ d.label.length ∧ d.label.length ≤ 200
  description : d.description.all (·.length ≤ 120)
  choices : d.choices.length ≤ 100
  string_min : d.stringMinLength.all (· ≤ 512)
  string_max : d.stringMaxLength.all (· ≤ 512)
  visible_when : d.visibleWhen.all fun c => matchesKey c.parameterKey
  display : d.display.FieldsValid
  cli_flag : d.cliFlag.all matchesFlag

instance (d : ParameterDefinition) : Decidable d.FieldsValid :=
  decidable_of_iff (matchesKey d.key ∧ (1 ≤ d.label.length ∧ d.label.length ≤ 200) ∧
      d.description.all (·.length ≤ 120) ∧ d.choices.length ≤ 100 ∧
      d.stringMinLength.all (· ≤ 512) ∧ d.stringMaxLength.all (· ≤ 512) ∧
      (d.visibleWhen.all fun c => matchesKey c.parameterKey) ∧ d.display.FieldsValid ∧
      d.cliFlag.all matchesFlag)
    ⟨fun ⟨h₁, h₂, h₃, h₄, h₅, h₆, h₇, h₈, h₉⟩ => ⟨h₁, h₂, h₃, h₄, h₅, h₆, h₇, h₈, h₉⟩,
      fun h => ⟨h.key, h.label, h.description, h.choices, h.string_min, h.string_max,
        h.visible_when, h.display, h.cli_flag⟩⟩

def finiteBound : Option Number → Except String Unit
  | none => .ok ()
  | some x => do raiseIf (¬ (← isFinite x)) "numeric bounds must be finite"

/-- The checks of `validate_definition` on the bounds -/
def validateBounds (d : ParameterDefinition) : Except String Unit := do
  raiseIf (boundsCross d.minimum d.maximum) "minimum cannot exceed maximum"
  finiteBound d.minimum
  finiteBound d.maximum
  if d.type = .integer then do
    raiseIf (¬ (d.minimum.all Number.isInt ∧ d.maximum.all Number.isInt))
      "integer parameter bounds must be integers"
    raiseIf (d.default.unsafeInteger ∨
        d.minimum.any Number.unsafeInteger ∨ d.maximum.any Number.unsafeInteger)
      "integer parameters must stay within the JavaScript safe integer range"
  else
    raiseIf (d.type ≠ .number ∧ (d.minimum ≠ none ∨ d.maximum ≠ none))
      "minimum and maximum are only supported for numeric parameters"

def validateNumericDefault (d : ParameterDefinition) : Except String Unit :=
  match d.default with
  | .number x => do
    raiseIf (¬ (← isFinite x)) "numeric default must be finite"
    raiseIf (d.minimum.any fun b => x.lt b) "numeric default cannot be below minimum"
    raiseIf (d.maximum.any fun b => b.lt x) "numeric default cannot exceed maximum"
  | _ => .ok ()

/-- The checks on the choices -/
def validateEnum (d : ParameterDefinition) : Except String Unit :=
  if d.type = .enum then do
    raiseIf (d.choices = []) "enum parameters require at least one choice"
    raiseIf (¬ (d.choices.map ParameterChoice.value).Nodup) "enum choice values must be unique"
    raiseIf (¬ ∃ c ∈ d.choices, d.default = .str c.value)
      "enum default must be one of the choices"
  else raiseIf (d.choices ≠ []) "choices are only supported for enum parameters"

/-- The checks on the lengths and on the default of a string -/
def validateText (d : ParameterDefinition) : Except String Unit := do
  raiseIf (d.type ≠ .string ∧ (d.stringMinLength ≠ none ∨ d.stringMaxLength ≠ none))
    "string length limits are only supported for string parameters"
  raiseIf (lengthsCross d.stringMinLength d.stringMaxLength)
    "string_min_length cannot exceed string_max_length"
  match d.type, d.default with
  | .string, .str s => do
    raiseIf (512 < s.length ∨ hasControl s)
      "string default must be a safe single-line value of at most 512 characters"
    raiseIf (d.stringMinLength.any (s.length < ·))
      "string default is shorter than string_min_length"
    raiseIf (d.stringMaxLength.any (· < s.length)) "string default exceeds string_max_length"
  | _, _ => return ()

def style (d : ParameterDefinition) : ArgumentStyle := d.argumentStyle.getD d.type.defaultStyle

/-- The checks of a definition in their order; `d` has its choices as they are kept. -/
def validateDefinition (d : ParameterDefinition) : Except String ParameterDefinition := do
  raiseIf (d.semanticRole = .stageInput ∧ d.type ≠ .string) "stage input parameters must be strings"
  raiseIf (d.semanticRole = .stageInput ∧ d.visibleWhen ≠ none)
    "stage input parameters cannot depend on another parameter"
  raiseIf (¬ d.type.admits d.default) "default must match the declared parameter type"
  validateStyle d.type d.style
  d.validateBounds
  d.validateNumericDefault
  d.validateEnum
  d.validateText
  d.display.validate
  return { d with argumentStyle := some d.style }

def validate (d : ParameterDefinition) : Except String ParameterDefinition := do
  raiseIf (¬ d.FieldsValid) (fieldMessage "parameter_definitions")
  let choices ← validateChoices d.choices
  { d with choices }.validateDefinition

def flag (d : ParameterDefinition) : String := d.cliFlag.getD ("--" ++ d.key)

end ParameterDefinition

end Api

inductive LauncherKind
  | torchrun
  | direct
  deriving DecidableEq

inductive RuntimeKind
  | system
  | conda
  deriving DecidableEq

structure RuntimeEnvironment where
  kind : RuntimeKind
  condaEnvironment : Option String
  deriving DecidableEq

/-- `^[A-Za-z0-9][A-Za-z0-9_.-]{0,127}$` -/
def matchesCondaName (s : String) : Bool :=
  match s.toList with
  | c :: cs => c.isAlphanum && cs.length ≤ 127 && cs.all fun d => isWordChar d || d = '.' || d = '-'
  | [] => false

def RuntimeEnvironment.validate (e : RuntimeEnvironment) : Except String Unit := do
  raiseIf (¬ e.condaEnvironment.all matchesCondaName) (fieldMessage "conda_environment")
  raiseIf (e.kind = .conda ∧ e.condaEnvironment = none) "conda runtime requires conda_environment"
  raiseIf (e.kind = .system ∧ e.condaEnvironment ≠ none)
    "system runtime cannot declare conda_environment"

inductive MonitoringFormat
  | plain
  | transformers
  | jsonl
  deriving DecidableEq

def shellMeta : List Char := [';', '&', '|', '\x60', '$', '<', '>']

/-- A text without control characters and shell syntax. -/
def plainToken (s : String) : Bool :=
  s.toList.all fun c => c ∉ shellMeta && !(c = '\x00' || c = '\n' || c = '\r')

def safeRef (s : String) : Bool :=
  match s.toList with
  | c :: cs => c.isAlphanum && cs.length ≤ 199 &&
      cs.all fun d => isWordChar d || d = '.' || d = ':' || d = '-'
  | [] => false

structure LaunchTemplate where
  domain : String
  serverRef : String
  workingDirectory : String
  launcherKind : Option LauncherKind
  executable : String
  entrypoint : String
  fixedArgv : List String
  outputRoot : String
  outputFlag : String
  runtimeEnvironment : RuntimeEnvironment
  /-- The format of the monitoring contract. -/
  monitoring : MonitoringFormat
  deriving DecidableEq

/-- `rsplit("/", 1)[-1]` -/
def lastComponent (path : String) : String := String.ofList (path.toList.rtakeWhile (· ≠ '/'))

namespace LaunchTemplate

def inferredLauncher (t : LaunchTemplate) : LauncherKind :=
  if lastComponent t.executable = "torchrun" then .torchrun else .direct

def launcher (t : LaunchTemplate) : LauncherKind := t.launcherKind.getD t.inferredLauncher

def tokenValid (bound : ℕ) (s : String) : Prop := 1 ≤ s.length ∧ s.length ≤ bound ∧ plainToken s

instance (bound : ℕ) (s : String) : Decidable (tokenValid bound s) :=
  inferInstanceAs (Decidable (_ ∧ _))

def validate (t : LaunchTemplate) : Except String LaunchTemplate := do
  raiseIf (¬ (1 ≤ t.domain.length ∧ t.domain.length ≤ 100 ∧
    t.domain.toList.all fun c => isWordChar c || c = '.' || c = '-')) (fieldMessage "domain")
  raiseIf (¬ safeRef t.serverRef) "server_ref contains unsupported characters"
  raiseIf (¬ (tokenValid 1000 t.workingDirectory ∧ tokenValid 500 t.executable ∧
    tokenValid 1000 t.entrypoint ∧ tokenValid 1000 t.outputRoot))
    "launch template values cannot contain shell syntax or control characters"
  raiseIf (200 < t.fixedArgv.length) (fieldMessage "fixed_argv")
  raiseIf (¬ t.fixedArgv.all fun token => tokenValid 1000 token)
    "fixed_argv cannot contain shell syntax, control characters, or empty tokens"
  raiseIf (¬ matchesFlag t.outputFlag) (fieldMessage "output_flag")
  t.runtimeEnvironment.validate
  return { t with launcherKind := some t.launcher }

end LaunchTemplate

inductive DataAccessMode
  | datapilotManaged
  | selfManaged
  deriving DecidableEq

structure ModelConfigurationRequest where
  launchTemplate : LaunchTemplate
  dataAccessMode : DataAccessMode
  parameterDefinitions : List Api.ParameterDefinition
  deriving DecidableEq

def tokenFlag (token : String) : String :=
  if "--".toList.isPrefixOf token.toList then
    String.ofList (token.toList.takeWhile (· ≠ '='))
  else token

def datasetManifestFlag : String := "--dataset_manifest"

/-- A key with the key of the parameter that its definition depends on. -/
abbrev Dependencies := List (String × String)

/-- One more visited name leaves fewer elements to go to. -/
theorem unvisited_lt {α : Type} (name : α → String) {l : List α} {visited : List String} {a : α}
    (ha : a ∈ l) (hnew : name a ∉ visited) :
    (l.filter fun b => name b ∉ name a :: visited).length <
      (l.filter fun b => name b ∉ visited).length := by
  have hsplit : (l.filter fun b => name b ∉ name a :: visited) =
      (l.filter fun b => name b ∉ visited).filter fun b => name b ≠ name a := by
    rw [List.filter_filter]
    apply List.filter_congr
    simp
  rw [hsplit, List.length_filter_lt_length_iff_exists]
  exact ⟨a, by simpa [ha] using hnew, by simp⟩

theorem mem_of_lookup {dependencies : Dependencies} {current next : String}
    (h : dependencies.lookup current = some next) : (current, next) ∈ dependencies := by
  obtain ⟨l₁, l₂, rfl, -⟩ := List.lookup_eq_some_iff.1 h
  simp

def walkDependencies (dependencies : Dependencies) (visited : List String) (current : String) :
    Except String Unit :=
  match _h : dependencies.lookup current with
  | none => .ok ()
  | some next =>
    if _hvisited : current ∈ visited then .error "parameter dependencies cannot contain a cycle"
    else walkDependencies dependencies (current :: visited) next
  termination_by (dependencies.filter fun e => e.1 ∉ visited).length
  decreasing_by exact unvisited_lt Prod.fst (mem_of_lookup _h) _hvisited

def walkAll (dependencies : Dependencies) : Dependencies → Except String Unit
  | [] => .ok ()
  | e :: es => do
    walkDependencies dependencies [] e.1
    walkAll dependencies es

def conditionValue (key : String) (controller : Api.ParameterDefinition) (expected : JsonScalar) :
    Except String Unit := do
  raiseIf (¬ controller.type.admits expected)
    ("dependency value for " ++ key ++ " must match " ++ controller.key ++ " type")
  raiseIf (controller.type = .enum ∧ ¬ ∃ c ∈ controller.choices, expected = .str c.value)
    ("dependency value for " ++ key ++ " is not an allowed choice")
  match expected with
  | .number x => do
    raiseIf (controller.minimum.any fun b => x.lt b)
      ("dependency value for " ++ key ++ " is below the controller minimum")
    raiseIf (controller.maximum.any fun b => b.lt x)
      ("dependency value for " ++ key ++ " exceeds the controller maximum")
  | .str s =>
    if controller.type = .string then do
      raiseIf (hasControl s) ("dependency value for " ++ key ++ " contains control characters")
      raiseIf (controller.stringMinLength.any (s.length < ·))
        ("dependency value for " ++ key ++ " is shorter than the controller minimum length")
      raiseIf (controller.stringMaxLength.any (· < s.length))
        ("dependency value for " ++ key ++ " exceeds the controller maximum length")
    else return ()
  | .bool _ => return ()

def dependency (definitions : List Api.ParameterDefinition) (key : String)
    (condition : VisibilityCondition) : Except String (String × String) := do
  let controller ← orRaise
    ("parameter dependency for " ++ key ++ " references an unknown parameter")
    (definitions.find? fun d => d.key = condition.parameterKey)
  raiseIf (controller.key = key) "parameter dependency cannot reference itself"
  conditionValue key controller condition.equals
  return (key, controller.key)

/-- `dependencies` of the definitions in their order. -/
def collectDependencies (definitions : List Api.ParameterDefinition) :
    List Api.ParameterDefinition → Except String Dependencies
  | [] => .ok []
  | d :: ds =>
    match d.visibleWhen with
    | none => collectDependencies definitions ds
    | some condition => do
      return (← dependency definitions d.key condition) :: (← collectDependencies definitions ds)

def validateGroups (casefold : String → String) (groups : List (String × String × ℕ))
    (labels : List (String × String)) : List DisplayGroup → Except String Unit
  | [] => .ok ()
  | ⟨none, _, _⟩ :: rest => validateGroups casefold groups labels rest
  | ⟨some group, label, order⟩ :: rest => do
    let metadata := (label.getD "", order.getD 0)
    raiseIf ((groups.lookup group).any (· ≠ metadata))
      "parameters in one display group must share its label and order"
    raiseIf ((labels.lookup (casefold metadata.1)).any (· ≠ group))
      "display group labels must be unique"
    validateGroups casefold ((group, metadata) :: groups)
      ((casefold metadata.1, group) :: labels) rest

def validateDefinitions : List Api.ParameterDefinition →
    Except String (List Api.ParameterDefinition)
  | [] => .ok []
  | d :: ds => do return (← d.validate) :: (← validateDefinitions ds)

namespace ModelConfigurationRequest

def parameterFlags (c : ModelConfigurationRequest) : List String :=
  c.parameterDefinitions.map Api.ParameterDefinition.flag

def fixedTokenFlags (c : ModelConfigurationRequest) : List String :=
  c.launchTemplate.fixedArgv.map tokenFlag

/-- The flags of parameters that the fixed arguments set, the first in order in front. -/
def duplicateFixedFlags (c : ModelConfigurationRequest) : List String :=
  (c.parameterFlags.filter fun f => f ∈ c.fixedTokenFlags).mergeSort

def reservePlatformOutputFlag (casefold : String → String) (c : ModelConfigurationRequest) :
    Except String Unit := do
  raiseIf (1 < (c.parameterDefinitions.filter fun d => d.semanticRole = .stageInput).length)
    "a model family can declare at most one stage input parameter"
  validateGroups casefold [] [] (c.parameterDefinitions.map Api.ParameterDefinition.display)
  raiseIf (c.launchTemplate.outputFlag ∈ c.parameterFlags)
    "output_flag is platform-managed and cannot be used by a parameter definition"
  raiseIf (c.duplicateFixedFlags ≠ [])
    ("fixed_argv cannot redeclare registered parameter flag " ++ c.duplicateFixedFlags.headD "")
  raiseIf (c.dataAccessMode = .datapilotManaged ∧ (datasetManifestFlag ∈ c.parameterFlags ∨
      datasetManifestFlag ∈ c.fixedTokenFlags ∨
        c.launchTemplate.outputFlag = datasetManifestFlag))
    "--dataset_manifest is reserved for DataPilot managed data"
  let dependencies ← collectDependencies c.parameterDefinitions c.parameterDefinitions
  walkAll dependencies dependencies

def validate (casefold : String → String) (c : ModelConfigurationRequest) :
    Except String ModelConfigurationRequest := do
  let launchTemplate ← c.launchTemplate.validate
  raiseIf (¬ (1 ≤ c.parameterDefinitions.length ∧ c.parameterDefinitions.length ≤ 200))
    (fieldMessage "parameter_definitions")
  let parameterDefinitions ← validateDefinitions c.parameterDefinitions
  raiseIf (¬ (parameterDefinitions.map Api.ParameterDefinition.key).Nodup)
    "parameter keys must be unique"
  let c := { c with launchTemplate, parameterDefinitions }
  c.reservePlatformOutputFlag casefold
  return c

end ModelConfigurationRequest

end DataJuicer.RunSpecs
