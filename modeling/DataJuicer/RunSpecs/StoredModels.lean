import DataJuicer.RunSpecs.Definitions

/-! # Stored models

The definitions of a request are adapted before they are stored. A run reads them back with the
rules of the stored model and normalises its values by them.
-/

namespace DataJuicer.RunSpecs

open Transaction

/-- A definition as `_adapt_model` writes it. -/
structure StoredDefinition where
  name : String
  label : String
  kind : ParameterType
  semanticRole : SemanticRole
  default : JsonScalar
  description : String
  minimum : Option Number
  maximum : Option Number
  choices : Option (List ParameterChoice)
  stringMinLength : Option ℕ
  stringMaxLength : Option ℕ
  visibleWhen : Option VisibilityCondition
  display : DisplayGroup
  sensitive : Bool
  cliFlag : String
  argumentStyle : ArgumentStyle

def adaptDefinition (d : Api.ParameterDefinition) : StoredDefinition where
  name := d.key
  label := d.label
  kind := d.type
  semanticRole := d.semanticRole
  default := d.default
  description := d.description.getD ""
  minimum := d.minimum
  maximum := d.maximum
  choices := if d.choices = [] then none else some d.choices
  stringMinLength := d.stringMinLength
  stringMaxLength := d.stringMaxLength
  visibleWhen := d.visibleWhen
  display := d.display
  sensitive := d.sensitive
  cliFlag := d.flag
  argumentStyle := d.style

/-- `_adapt_model` -/
structure StoredConfiguration where
  launchTemplate : LaunchTemplate
  parameterDefinitions : List StoredDefinition
  dataAccessMode : DataAccessMode

def adaptModel (c : ModelConfigurationRequest) : StoredConfiguration where
  launchTemplate := c.launchTemplate
  parameterDefinitions := c.parameterDefinitions.map adaptDefinition
  dataAccessMode := c.dataAccessMode

def Number.toDouble (repr : ℤ → String) : Number → Option Double
  | .int n => Double.ofInt repr n
  | .float x => some x

/-- What stops a value: a `ValueError` with its text, or an `OverflowError`. -/
inductive ParameterFailure
  | value (message : String)
  | overflow

namespace Models

/-- `ParameterDefinition` of the stored model -/
structure ParameterDefinition where
  name : String
  label : String
  kind : ParameterType
  semanticRole : SemanticRole
  cliFlag : String
  argumentStyle : ArgumentStyle
  default : JsonScalar
  sensitive : Bool
  minimum : Option Double
  maximum : Option Double
  choices : Option (List ParameterChoice)
  stringMinLength : Option ℕ
  stringMaxLength : Option ℕ
  description : String
  visibleWhen : Option VisibilityCondition
  display : DisplayGroup
  deriving DecidableEq

/-- The last checks of `normalize_parameter_value` -/
def checkRange (d : ParameterDefinition) (x : DoubleValue) : Except ParameterFailure Unit := do
  raiseIf (d.minimum.any fun b => x.lt b.value) (.value (d.name ++ " is below its minimum"))
  raiseIf (d.maximum.any fun b => b.value.lt x) (.value (d.name ++ " exceeds its maximum"))

def checkText (d : ParameterDefinition) (s : String) : Except ParameterFailure Unit := do
  raiseIf (512 < s.length ∨ hasControl s) (.value (d.name ++ " must be a safe string"))
  raiseIf (d.kind = .enum ∧ ¬ ∃ c ∈ d.choices.getD [], s = c.value)
    (.value (d.name ++ " is not an allowed choice"))
  raiseIf (d.kind = .string ∧ d.stringMinLength.any (s.length < ·))
    (.value (d.name ++ " is shorter than its minimum length"))
  raiseIf (d.kind = .string ∧ d.stringMaxLength.any (· < s.length))
    (.value (d.name ++ " exceeds its maximum length"))

def normalizeParameterValue (repr : ℤ → String) (d : ParameterDefinition) (value : JsonScalar) :
    Except ParameterFailure JsonScalar :=
  match d.kind, value with
  | .boolean, .bool b => .ok (.bool b)
  | .boolean, _ => .error (.value (d.name ++ " must be a boolean"))
  | .integer, .number (.int n) => do
    raiseIf (maxSafeInteger < |n|) (.value (d.name ++ " exceeds the safe integer range"))
    checkRange d (.finite n)
    return .number (.int n)
  | .integer, _ => .error (.value (d.name ++ " must be an integer"))
  | .number, .number x => do
    let x ← orRaise .overflow (x.toDouble repr)
    raiseIf (¬ x.value.isFinite) (.value (d.name ++ " must be finite"))
    checkRange d x.value
    return .number (.float x)
  | .number, _ => .error (.value (d.name ++ " must be a number"))
  | .enum, .str s | .string, .str s => do
    checkText d s
    return .str s
  | .enum, _ | .string, _ => .error (.value (d.name ++ " must be a safe string"))

/-- A bound as a field of type `float`. -/
def boundValue (repr : ℤ → String) : Option Number → Except String (Option Double)
  | none => .ok none
  | some x => some <$> orRaise (fieldMessage "minimum or maximum") (x.toDouble repr)

structure FieldsValid (s : StoredDefinition) : Prop where
  name : matchesKey s.name
  label : s.label.length ≤ 200
  cli_flag : matchesFlag s.cliFlag
  choices : s.choices.all (·.length ≤ 100)
  string_min : s.stringMinLength.all (· ≤ 512)
  string_max : s.stringMaxLength.all (· ≤ 512)
  description : s.description.length ≤ 120
  visible_when : s.visibleWhen.all fun c => matchesKey c.parameterKey
  display : s.display.FieldsValid

instance (s : StoredDefinition) : Decidable (FieldsValid s) :=
  decidable_of_iff (matchesKey s.name ∧ s.label.length ≤ 200 ∧ matchesFlag s.cliFlag ∧
      s.choices.all (·.length ≤ 100) ∧ s.stringMinLength.all (· ≤ 512) ∧
      s.stringMaxLength.all (· ≤ 512) ∧ s.description.length ≤ 120 ∧
      (s.visibleWhen.all fun c => matchesKey c.parameterKey) ∧ s.display.FieldsValid)
    ⟨fun ⟨h₁, h₂, h₃, h₄, h₅, h₆, h₇, h₈, h₉⟩ => ⟨h₁, h₂, h₃, h₄, h₅, h₆, h₇, h₈, h₉⟩,
      fun h => ⟨h.name, h.label, h.cli_flag, h.choices, h.string_min, h.string_max,
        h.description, h.visible_when, h.display⟩⟩

def storedChoices : Option (List ParameterChoice) → Except String (Option (List ParameterChoice))
  | none => .ok none
  | some choices => some <$> validateChoices choices

/-- `float(bound).is_integer()` -/
def isInteger (x : Double) : Bool :=
  match x.value with
  | .finite q => q.den = 1
  | _ => false

/-- `abs(bound) > _MAX_SAFE_INTEGER` -/
def unsafeBound (x : Double) : Bool :=
  match x.value with
  | .finite q => (maxSafeInteger : ℚ) < |q|
  | .posInf | .negInf => true
  | .nan => false

namespace ParameterDefinition

/-- The checks of `validate_definition` on the bounds -/
def validateBounds (d : ParameterDefinition) : Except String Unit := do
  raiseIf (d.minimum.any fun a => d.maximum.any fun b => b.value.lt a.value)
    "minimum cannot exceed maximum"
  raiseIf (¬ (d.minimum.all (·.value.isFinite) ∧ d.maximum.all (·.value.isFinite)))
    "numeric bounds must be finite"
  if d.kind = .integer then do
    raiseIf (¬ (d.minimum.all isInteger ∧ d.maximum.all isInteger))
      "integer parameter bounds must be integers"
    raiseIf (d.minimum.any unsafeBound ∨ d.maximum.any unsafeBound)
      "integer parameter bounds exceed the safe integer range"
  else
    raiseIf (d.kind ≠ .number ∧ (d.minimum ≠ none ∨ d.maximum ≠ none))
      "minimum and maximum are only valid for numeric parameters"

/-- The checks on the choices and the lengths -/
def validateEnum (d : ParameterDefinition) : Except String Unit :=
  if d.kind = .enum then
    raiseIf (d.choices.getD [] = [] ∨ ¬ ((d.choices.getD []).map ParameterChoice.value).Nodup)
      "enum parameters require unique choices"
  else raiseIf (d.choices ≠ none) "choices are only valid for enum parameters"

def validateLengths (d : ParameterDefinition) : Except String Unit := do
  raiseIf (d.kind ≠ .string ∧ (d.stringMinLength ≠ none ∨ d.stringMaxLength ≠ none))
    "string length limits are only valid for string parameters"
  raiseIf (lengthsCross d.stringMinLength d.stringMaxLength)
    "string_min_length cannot exceed string_max_length"

/-- The checks of a definition in their order; the default passes as a value. -/
def validateDefinition (repr : ℤ → String) (d : ParameterDefinition) : Except String Unit := do
  raiseIf (d.semanticRole = .stageInput ∧ d.kind ≠ .string) "stage input parameters must be strings"
  raiseIf (d.semanticRole = .stageInput ∧ d.visibleWhen ≠ none)
    "stage input parameters cannot depend on another parameter"
  validateStyle d.kind d.argumentStyle
  d.validateBounds
  d.validateEnum
  d.validateLengths
  d.display.validate
  match normalizeParameterValue repr d d.default with
  | .ok _ => return ()
  | .error (.value message) => .error message
  | .error .overflow => .error overflowMessage

end ParameterDefinition

def modelValidate (repr : ℤ → String) (s : StoredDefinition) :
    Except String ParameterDefinition := do
  raiseIf (¬ FieldsValid s) (fieldMessage "parameter_definitions")
  let minimum ← boundValue repr s.minimum
  let maximum ← boundValue repr s.maximum
  let choices ← storedChoices s.choices
  let d : ParameterDefinition := ⟨s.name, s.label, s.kind, s.semanticRole, s.cliFlag,
    s.argumentStyle, s.default, s.sensitive, minimum, maximum, choices, s.stringMinLength,
    s.stringMaxLength, s.description, s.visibleWhen, s.display⟩
  d.validateDefinition repr
  return d

def validateStored (repr : ℤ → String) :
    List StoredDefinition → Except String (List ParameterDefinition)
  | [] => .ok []
  | s :: rest => do return (← modelValidate repr s) :: (← validateStored repr rest)

end Models

end DataJuicer.RunSpecs
