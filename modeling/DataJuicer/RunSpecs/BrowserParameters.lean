import DataJuicer.RunSpecs.AcceptedModels
import DataJuicer.RunSpecs.AcceptedAgain

/-! # Parameters in the browser

The form of a run walks along the conditions again, over the definitions that the platform projects
and with the numbers of a script, which are all doubles.
-/

namespace DataJuicer.RunSpecs

open Transaction Models

/-- A value that a comparison of the form meets. -/
inductive JsValue
  | string (s : String)
  | number (x : DoubleValue)
  | boolean (b : Bool)
  /-- A function or an object that every object inherits under this name. -/
  | member (name : String)

/-- `===` -/
def JsValue.strictEq : JsValue → JsValue → Bool
  | .string s, .string t => s = t
  | .number x, .number y => x.eq y
  | .boolean b, .boolean c => b = c
  | _, _ => false

def Number.toJs : Number → DoubleValue
  | .int n =>
    match doubleOfInt n with
    | some q => .finite q
    | none => if 0 < n then .posInf else .negInf
  | .float x => x.value

def JsonScalar.toJs : JsonScalar → JsValue
  | .bool b => .boolean b
  | .number x => .number x.toJs
  | .str s => .string s

/-- The members of `Object.prototype` -/
def objectMembers : List String :=
  ["constructor", "__defineGetter__", "__defineSetter__", "hasOwnProperty", "__lookupGetter__",
    "__lookupSetter__", "isPrototypeOf", "propertyIsEnumerable", "toString", "valueOf",
    "__proto__", "toLocaleString"]

/-- `values[key]`, unless it is undefined. -/
def readProperty (values : List (String × JsValue)) (key : String) : Option JsValue :=
  values.lookup key <|> if key ∈ objectMembers then some (.member key) else none

structure TrainingParameterDefinition where
  key : String
  default : JsValue
  /-- The key of the controller, and the value that it is compared with. -/
  visibleWhen : Option (String × JsValue)

def isTrainingParameterEnabled (definitions : List TrainingParameterDefinition)
    (values : List (String × JsValue)) (parameterKey : String) (resolving : List String) : Bool :=
  match _hfound : definitions.find? fun item => item.key = parameterKey with
  | none => false
  | some definition =>
    match definition.visibleWhen with
    | none => true
    | some (controllerKey, equals) =>
      if _hresolving : parameterKey ∈ resolving then false
      else match definitions.find? fun item => item.key = controllerKey with
        | none => false
        | some controller =>
          isTrainingParameterEnabled definitions values controller.key
              (parameterKey :: resolving) &&
            ((readProperty values controller.key).getD controller.default).strictEq equals
  termination_by (definitions.filter fun e => e.key ∉ resolving).length
  decreasing_by
    have hkey : definition.key = parameterKey := by simpa using List.find?_some _hfound
    have hmem := List.mem_of_find?_eq_some _hfound
    have hlt := unvisited_lt TrainingParameterDefinition.key hmem (hkey.symm ▸ _hresolving)
    rwa [hkey] at hlt

def enabledTrainingParameters (definitions : List TrainingParameterDefinition)
    (values : List (String × JsValue)) : List TrainingParameterDefinition :=
  definitions.filter fun d => isTrainingParameterEnabled definitions values d.key []

/-- `_project_model` of one definition -/
def projectDefinition (d : StoredDefinition) : TrainingParameterDefinition where
  key := d.name
  default := d.default.toJs
  visibleWhen := d.visibleWhen.map fun condition => (condition.parameterKey, condition.equals.toJs)

/-- A definition as a viewer without the right to manage models gets it. -/
def safeDefinition (sensitiveKeys : List String) (d : StoredDefinition) :
    TrainingParameterDefinition where
  key := d.name
  default := if d.sensitive then .string hidden else d.default.toJs
  visibleWhen := (projectDefinition d).visibleWhen.filter fun condition =>
    condition.1 ∉ sensitiveKeys

def modelProjection (manages : Bool) (definitions : List StoredDefinition) :
    List TrainingParameterDefinition :=
  if manages then definitions.map projectDefinition
  else definitions.map (safeDefinition
    ((definitions.filter fun d => d.sensitive).map StoredDefinition.name))

/-- No sensitive controller is hidden from the viewer. -/
def NothingHidden (manages : Bool) (definitions : List StoredDefinition) : Prop :=
  manages ∨ ∀ d ∈ definitions, ∀ condition, d.visibleWhen = some condition →
    ∀ e ∈ definitions, e.name = condition.parameterKey → ¬ e.sensitive

/-- The conditions hold along the whole chain, by this test of a controller. -/
inductive ChainHolds (definitions : List ParameterDefinition)
    (test : ParameterDefinition → JsonScalar → Prop) : ParameterDefinition → Prop
  | free {d : ParameterDefinition} (h : d.visibleWhen = none) : ChainHolds definitions test d
  | controlled {d e : ParameterDefinition} {condition : VisibilityCondition}
      (h : d.visibleWhen = some condition) (he : e ∈ definitions)
      (hname : e.name = condition.parameterKey) (hchain : ChainHolds definitions test e)
      (htest : test e condition.equals) : ChainHolds definitions test d

section

variable {definitions : List ParameterDefinition}
  {test test' : ParameterDefinition → JsonScalar → Prop} {d e : ParameterDefinition}

theorem chainHolds_controlled_iff (hnames : (definitions.map ParameterDefinition.name).Nodup)
    {condition : VisibilityCondition} (h : d.visibleWhen = some condition) (he : e ∈ definitions)
    (hname : e.name = condition.parameterKey) :
    ChainHolds definitions test d ↔ ChainHolds definitions test e ∧ test e condition.equals := by
  constructor
  · intro hchain
    cases hchain with
    | free hnone => rw [h] at hnone; cases hnone
    | controlled h' he' hname' hchain htest =>
      rw [h] at h'
      cases h'
      obtain rfl := List.inj_on_of_nodup_map hnames he he' (hname.trans hname'.symm)
      exact ⟨hchain, htest⟩
  · rintro ⟨hchain, htest⟩
    exact .controlled h he hname hchain htest

/-- Two tests find the same chains when they agree on every controller that both reach. -/
theorem chains_agree_iff (hwf : WellFormed definitions) :
    (∀ d ∈ definitions, ChainHolds definitions test d ↔ ChainHolds definitions test' d) ↔
      ∀ d ∈ definitions, ∀ condition, d.visibleWhen = some condition → ∀ e ∈ definitions,
        e.name = condition.parameterKey → ChainHolds definitions test e →
          ChainHolds definitions test' e →
            (test e condition.equals ↔ test' e condition.equals) := by
  constructor
  · intro hall d hd condition h e he hname hchain _
    have hiff := hall d hd
    rw [chainHolds_controlled_iff hwf.names h he hname, chainHolds_controlled_iff
      hwf.names h he hname,
      ← hall e he] at hiff
    simpa [hchain] using hiff
  · intro hall d hd
    obtain ⟨n, hground⟩ := hwf.grounded d hd
    induction hground with
    | free hnone => exact iff_of_true (.free hnone) (.free hnone)
    | controlled h he hname _ ih =>
      rw [chainHolds_controlled_iff hwf.names h he hname, chainHolds_controlled_iff
        hwf.names h he hname,
        ← ih he]
      exact and_congr_right fun hchain =>
        hall _ hd _ h _ he hname hchain ((ih he).1 hchain)

end

structure ProjectedAs (manages : Bool) (d : ParameterDefinition)
    (j : TrainingParameterDefinition) : Prop where
  key : j.key = d.name
  visibleWhen : j.visibleWhen =
    d.visibleWhen.map fun condition => (condition.parameterKey, condition.equals.toJs)
  default : (manages ∨ ¬ d.sensitive) → j.default = d.default.toJs

def browserTest (values : List (String × JsValue)) (e : ParameterDefinition)
    (equals : JsonScalar) : Prop :=
  ((readProperty values e.name).getD e.default.toJs).strictEq equals.toJs

theorem find_projectedAs {manages : Bool} {ds : List ParameterDefinition}
    {js : List TrainingParameterDefinition} (h : List.Forall₂ (ProjectedAs manages) ds js)
    (hnames : (ds.map ParameterDefinition.name).Nodup) {d : ParameterDefinition} (hd : d ∈ ds) :
    ∃ j, (js.find? fun item => item.key = d.name) = some j ∧ ProjectedAs manages d j := by
  induction h with
  | nil => simp at hd
  | @cons e j ds js hej _ ih =>
    rw [List.map_cons, List.nodup_cons] at hnames
    rcases List.mem_cons.1 hd with rfl | hd
    · exact ⟨j, List.find?_cons_of_pos (by simp [hej.key]), hej⟩
    · obtain ⟨j', hj', hproject⟩ := ih hnames.2 hd
      refine ⟨j', ?_, hproject⟩
      have hne : e.name ≠ d.name := fun heq => hnames.1 (heq ▸ List.mem_map_of_mem hd)
      rw [List.find?_cons_of_neg (by simpa [hej.key] using hne)]
      exact hj'

section

variable {manages : Bool} {ds : List ParameterDefinition} {js : List TrainingParameterDefinition}
  {values : List (String × JsValue)} {d : ParameterDefinition}

theorem enabled_iff (h : List.Forall₂ (ProjectedAs manages) ds js)
    (hnames : (ds.map ParameterDefinition.name).Nodup)
    (hshown : ∀ d ∈ ds, ∀ condition, d.visibleWhen = some condition → ∀ e ∈ ds,
      e.name = condition.parameterKey → manages ∨ ¬ e.sensitive)
    {n : ℕ} (hground : Grounded ds n d) (hd : d ∈ ds) {resolving : List String}
    (hfree : ∀ e ∈ ds, e.name ∈ resolving → ∀ m, Grounded ds m e → n < m) :
    isTrainingParameterEnabled js values d.name resolving ↔
      ChainHolds ds (browserTest values) d := by
  induction hground generalizing resolving with
  | @free d hnone =>
    obtain ⟨j, hj, hproject⟩ := find_projectedAs h hnames hd
    have hvisible : j.visibleWhen = none := by rw [hproject.visibleWhen, hnone]; rfl
    refine iff_of_true ?_ (.free hnone)
    rw [isTrainingParameterEnabled]
    split
    · next hnot => rw [hj] at hnot; cases hnot
    · next j' hj' =>
      obtain rfl := Option.some.inj (hj.symm.trans hj')
      rw [hvisible]
  | @controlled d e condition n hsome he hname hground ih =>
    obtain ⟨j, hj, hproject⟩ := find_projectedAs h hnames hd
    obtain ⟨k, hk, hcontroller⟩ := find_projectedAs h hnames he
    have hvisible : j.visibleWhen = some (condition.parameterKey, condition.equals.toJs) := by
      rw [hproject.visibleWhen, hsome]
      rfl
    have hnot : d.name ∉ resolving := fun hmem =>
      absurd (hfree d hd hmem (n + 1) (.controlled hsome he hname hground)) (lt_irrefl _)
    have hchain : ∀ f ∈ ds, f.name ∈ d.name :: resolving → ∀ m, Grounded ds m f → n < m := by
      intro f hf hmem m hm
      rcases List.mem_cons.1 hmem with hself | hmem
      · obtain rfl := List.inj_on_of_nodup_map hnames hf hd hself
        rw [grounded_unique hnames hm (.controlled hsome he hname hground)]
        exact Nat.lt_succ_self n
      · exact (Nat.lt_succ_self n).trans (hfree f hf hmem m hm)
    have hdefault := hcontroller.default (hshown d hd condition hsome e he hname)
    rw [isTrainingParameterEnabled]
    split
    · next hmissing => rw [hj] at hmissing; cases hmissing
    · next j' hj' =>
      obtain rfl := Option.some.inj (hj.symm.trans hj')
      rw [hvisible]
      simp only [dif_neg hnot, ← hname, hk, hcontroller.key, hdefault, Bool.and_eq_true,
        ih he hchain, chainHolds_controlled_iff hnames hsome he hname]
      rfl

end

/-- The test of `resolve`, on the normalised value. -/
def serverTest (c : StageContext) (e : ParameterDefinition) (equals : JsonScalar) : Prop :=
  ∃ v, normalizeParameterValue c.texts.repr e (c.value e) = .ok v ∧ v.eq equals

def valueTest (c : StageContext) (e : ParameterDefinition) (equals : JsonScalar) : Prop :=
  (c.value e).eq equals

def formValues (supplied : List (String × JsonScalar)) : List (String × JsValue) :=
  supplied.map fun e => (e.1, e.2.toJs)

section

variable {c : StageContext} {d e : ParameterDefinition}

theorem not_automatic (h : c.source = .manual) : ¬ c.Automatic d := by
  rintro ⟨hsource, -⟩
  rw [h] at hsource
  cases hsource

theorem active_iff_chainHolds (h : c.source = .manual) :
    c.Active d ↔ ChainHolds c.definitions (serverTest c) d := by
  constructor
  · intro hactive
    induction hactive with
    | automatic hauto => exact absurd hauto (not_automatic h)
    | free hnone => exact .free hnone
    | controlled hsome he hname _ _ hvalue hequals ih =>
      exact .controlled hsome he hname ih ⟨_, hvalue, hequals⟩
  · intro hchain
    induction hchain with
    | free hnone => exact .free hnone
    | controlled hsome he hname _ htest ih =>
      obtain ⟨v, hvalue, hequals⟩ := htest
      exact .controlled hsome he hname ih (not_automatic h) hvalue hequals

theorem lookup_formValues (supplied : List (String × JsonScalar)) (key : String) :
    (formValues supplied).lookup key = (supplied.lookup key).map JsonScalar.toJs := by
  induction supplied with
  | nil => rfl
  | cons entry rest ih =>
    obtain ⟨name, value⟩ := entry
    unfold formValues at ih ⊢
    rw [List.map_cons, List.lookup_cons, List.lookup_cons]
    cases key == name with
    | true => rfl
    | false => exact ih

theorem browserTest_iff (equals : JsonScalar) :
    browserTest (formValues c.supplied) e equals ↔
      (c.supplied.lookup e.name ≠ none ∨ e.name ∉ objectMembers) ∧
        (c.value e).toJs.strictEq equals.toJs := by
  unfold browserTest readProperty StageContext.value
  rw [lookup_formValues]
  cases hsupplied : c.supplied.lookup e.name with
  | some v => simp
  | none =>
    by_cases hmember : e.name ∈ objectMembers
    · simp only [hmember, if_true]
      cases equals <;> simp [JsValue.strictEq, JsonScalar.toJs]
    · simp [hmember]

theorem toJs_of_some {n q : ℤ} (h : doubleOfInt n = some q) :
    (Number.int n).toJs = .finite q := by
  simp only [Number.toJs, h]

theorem toJs_of_none {n : ℤ} (h : doubleOfInt n = none) (q : ℚ) :
    (Number.int n).toJs ≠ .finite q := by
  simp only [Number.toJs, h]
  split <;> simp

theorem toJs_of_toDouble {repr : ℤ → String} {x : Number} {X : Double}
    (h : x.toDouble repr = some X) : x.toJs = X.value := by
  cases x with
  | float y =>
    obtain rfl : y = X := Option.some.inj h
    rfl
  | int n =>
    have h : Double.ofInt repr n = some X := h
    rw [ofInt_value h]
    apply toJs_of_some
    unfold Double.ofInt at h
    split at h
    · next hlt => exact if_pos hlt
    · cases h

theorem toJs_eq_iff {m n : ℤ} (hsafe : ¬ maxSafeInteger < |n|) :
    (Number.int n).toJs.eq (Number.int m).toJs ↔ n = m := by
  have hsmall : |n| < 2 ^ 53 := by
    unfold maxSafeInteger at hsafe
    omega
  rw [toJs_of_some (doubleOfInt_of_abs_lt hsmall)]
  by_cases hm : |m| < 2 ^ 53
  · rw [toJs_of_some (doubleOfInt_of_abs_lt hm)]
    simp [DoubleValue.eq]
  · have hlarge := roundInt_large (not_lt.1 hm)
    have hne : n ≠ m := by
      rintro rfl
      exact hm hsmall
    refine iff_of_false ?_ hne
    cases hdouble : doubleOfInt m with
    | none => simpa [DoubleValue.eq] using (toJs_of_none hdouble n).symm
    | some q =>
      rw [toJs_of_some hdouble]
      obtain rfl := doubleOfInt_eq_some hdouble
      have hround : n ≠ roundInt m := by
        intro heq
        rw [heq] at hsmall
        omega
      simpa [DoubleValue.eq] using hround

theorem toJs_of_value {x y : Number} (h : x.value = y.value) : x.toJs = y.toJs := by
  have hmixed : ∀ {n : ℤ} {X : Double}, X.value = .finite n → (Number.int n).toJs = X.value := by
    intro n X hX
    have hround : roundInt n = n := roundInt_of_representable (X.representable n hX)
    have hsome : doubleOfInt n = some n := by
      have hbounded : |n| < 2 ^ 1024 := by
        have hcast := X.bounded n hX
        rw [← Int.cast_abs] at hcast
        exact Int.cast_lt.1 (hcast.trans_eq (Int.cast_pow 2 1024).symm)
      unfold doubleOfInt
      rw [hround, if_pos hbounded]
    rw [toJs_of_some hsome, hX]
  cases x with
  | int n =>
    cases y with
    | int m =>
      have hcast : (n : ℚ) = m := DoubleValue.finite.inj h
      obtain rfl : n = m := by exact_mod_cast hcast
      rfl
    | float Y => exact hmixed h.symm
  | float X =>
    cases y with
    | int m => exact (hmixed h).symm
    | float Y => exact h

/-- What a value that passes is made of. -/
theorem normalize_cases {repr : ℤ → String} {v w : JsonScalar}
    (h : normalizeParameterValue repr d v = .ok w) :
    (d.kind = .number ∧ ∃ x X, v = .number x ∧ x.toDouble repr = some X ∧ X.value.isFinite ∧
        w = .number (.float X)) ∨
      w = v ∧ ((d.kind = .boolean ∧ ∃ b, v = .bool b) ∨
        (d.kind = .integer ∧ ∃ n, v = .number (.int n) ∧ ¬ maxSafeInteger < |n|) ∨
        ((d.kind = .enum ∨ d.kind = .string) ∧ ∃ s, v = .str s)) := by
  unfold normalizeParameterValue at h
  split at h
  · next b hkind =>
    exact .inr ⟨(Except.ok.inj h).symm, .inl ⟨hkind, b, rfl⟩⟩
  · cases h
  · next n hkind =>
    obtain ⟨_, hsafe, h⟩ := bind_eq_ok.1 h
    obtain ⟨_, -, h⟩ := bind_eq_ok.1 h
    rw [raiseIf_eq_ok] at hsafe
    exact .inr ⟨(Except.ok.inj h).symm, .inr (.inl ⟨hkind, n, rfl, hsafe⟩)⟩
  · cases h
  · next x hkind =>
    obtain ⟨X, hX, h⟩ := bind_eq_ok.1 h
    obtain ⟨_, hfinite, h⟩ := bind_eq_ok.1 h
    obtain ⟨_, -, h⟩ := bind_eq_ok.1 h
    rw [raiseIf_eq_ok, not_not] at hfinite
    exact .inl ⟨hkind, x, X, rfl, orRaise_eq_ok.1 hX, hfinite, (Except.ok.inj h).symm⟩
  · cases h
  · next s hkind =>
    obtain ⟨_, -, h⟩ := bind_eq_ok.1 h
    exact .inr ⟨(Except.ok.inj h).symm, .inr (.inr ⟨.inl hkind, s, rfl⟩)⟩
  · next s hkind =>
    obtain ⟨_, -, h⟩ := bind_eq_ok.1 h
    exact .inr ⟨(Except.ok.inj h).symm, .inr (.inr ⟨.inr hkind, s, rfl⟩)⟩
  · cases h
  · cases h

/-- The value of a controller and the value of a condition are compared alike everywhere: the value
is not looked up among the inherited members, and numbers with one double are that double. -/
structure PlainComparison (c : StageContext) (e : ParameterDefinition) (equals : JsonScalar) :
    Prop where
  member : c.supplied.lookup e.name = none → e.name ∈ objectMembers →
    ¬ valueTest c e equals ∧ ¬ serverTest c e equals
  number : c.supplied.lookup e.name ≠ none ∨ e.name ∉ objectMembers → e.kind = .number →
    ∀ x y, c.value e = .number x → equals = .number y → x.toJs = y.toJs →
      x.value = x.toJs ∧ y.value = x.toJs

section

variable {v equals : JsonScalar}

theorem serverTest_iff (h : normalizeParameterValue c.texts.repr e (c.value e) = .ok v) :
    serverTest c e equals ↔ v.eq equals := by
  unfold serverTest
  rw [h]
  simp

theorem eq_iff_of_finite {x y : DoubleValue} (h : x.isFinite) : x.eq y ↔ x = y := by
  cases x <;> simp_all [DoubleValue.eq, DoubleValue.isFinite]

theorem eq_iff_of_finite_right {x y : DoubleValue} (h : y.isFinite) : x.eq y ↔ x = y := by
  cases y <;> cases x <;> simp_all [DoubleValue.eq, DoubleValue.isFinite]

/-- Values other than floats are compared as the form does. -/
theorem strictEq_iff (hadmits : e.kind.admits equals)
    (hvalue : (e.kind = .boolean ∧ ∃ b, v = .bool b) ∨
      (e.kind = .integer ∧ ∃ n, v = .number (.int n) ∧ ¬ maxSafeInteger < |n|) ∨
      ((e.kind = .enum ∨ e.kind = .string) ∧ ∃ s, v = .str s)) :
    v.toJs.strictEq equals.toJs ↔ v.eq equals := by
  have hcases := admits_iff.1 hadmits
  rcases hvalue with ⟨hkind, b, rfl⟩ | ⟨hkind, n, rfl, hsafe⟩ | ⟨hkind, s, rfl⟩
  · obtain ⟨b', rfl⟩ : ∃ b', equals = .bool b' := by simpa [hkind] using hcases
    rfl
  · obtain ⟨m, rfl⟩ : ∃ m, equals = .number (.int m) := by simpa [hkind] using hcases
    have hsame : (JsonScalar.number (.int n)).eq (.number (.int m)) ↔ n = m := by
      simp [JsonScalar.eq, Number.value, DoubleValue.eq]
    rw [hsame, ← toJs_eq_iff hsafe]
    rfl
  · obtain ⟨s', rfl⟩ : ∃ s', equals = .str s' := by
      rcases hkind with hkind | hkind <;> simpa [hkind] using hcases
    rfl

/-- Floats are compared as the form does when both numbers are the double. -/
theorem number_tests_iff {x y : Number} {X : Double} (hX : x.toJs = X.value)
    (hfinite : X.value.isFinite) :
    ((X.value.eq y.value ↔ x.value.eq y.value) ∧ (X.value.eq y.value ↔ X.value.eq y.toJs)) ↔
      (x.toJs = y.toJs → x.value = x.toJs ∧ y.value = x.toJs) := by
  have hserver := @eq_iff_of_finite _ y.value hfinite
  have hform := @eq_iff_of_finite _ y.toJs hfinite
  have hexact : X.value = y.value → X.value = y.toJs :=
    fun heq => toJs_of_value (x := .float X) heq
  rw [hserver, hform, hX]
  constructor
  · rintro ⟨hvalue, hjs⟩ heq
    have hy := hjs.2 heq
    have hxy := hvalue.1 hy
    rw [eq_iff_of_finite_right (hy ▸ hfinite)] at hxy
    exact ⟨hxy.trans hy.symm, hy.symm⟩
  · intro hboth
    refine ⟨⟨fun hy => ?_, fun hxy => ?_⟩, ⟨hexact, fun hjs => (hboth hjs).2.symm⟩⟩
    · rw [eq_iff_of_finite_right (hy ▸ hfinite), (hboth (hexact hy)).1, hy]
    · have hsame : x.value = y.value := by simpa [DoubleValue.eq] using (of_decide_eq_true hxy).1
      have hjs : X.value = y.toJs := hX ▸ toJs_of_value hsame
      exact (hboth hjs).2.symm

theorem tests_agree_iff (h : normalizeParameterValue c.texts.repr e (c.value e) = .ok v)
    (hadmits : e.kind.admits equals) :
    ((serverTest c e equals ↔ valueTest c e equals) ∧
      (serverTest c e equals ↔ browserTest (formValues c.supplied) e equals)) ↔
        PlainComparison c e equals := by
  have hserver : serverTest c e equals ↔ v.eq equals := serverTest_iff h
  have hbrowser := @browserTest_iff c e equals
  by_cases hfound : c.supplied.lookup e.name ≠ none ∨ e.name ∉ objectMembers
  · have hmember : ¬ (c.supplied.lookup e.name = none ∧ e.name ∈ objectMembers) := by
      rwa [not_and_or]
    simp only [hfound, true_and] at hbrowser
    rcases normalize_cases h with ⟨hkind, x, X, hx, hX, hfinite, rfl⟩ | ⟨rfl, hvalue⟩
    · obtain ⟨y, rfl⟩ : ∃ y, equals = .number y := by
        simpa [hkind] using admits_iff.1 hadmits
      have hjs := toJs_of_toDouble hX
      have htests := number_tests_iff (y := y) hjs hfinite
      have hserver' : serverTest c e (.number y) ↔ X.value.eq y.value := hserver
      have hvalue' : valueTest c e (.number y) ↔ x.value.eq y.value := by
        rw [valueTest, hx]
        rfl
      have hform : browserTest (formValues c.supplied) e (.number y) ↔ X.value.eq y.toJs := by
        rw [hbrowser, hx, ← hjs]
        rfl
      rw [hserver', hvalue', hform, htests]
      constructor
      · intro hboth
        refine ⟨fun hnone hmem => absurd ⟨hnone, hmem⟩ hmember, ?_⟩
        rintro - - x' y' hx' ⟨⟩ heq
        obtain rfl : x = x' := JsonScalar.number.inj (hx.symm.trans hx')
        exact hboth heq
      · intro hplain
        exact hplain.number hfound hkind x y hx rfl
    · have hform := strictEq_iff hadmits hvalue
      refine iff_of_true ⟨hserver, ?_⟩ ⟨fun hnone hmem => absurd ⟨hnone, hmem⟩ hmember, ?_⟩
      · rw [hserver, hbrowser, hform]
      · rintro - hkind x y hx -
        rcases hvalue with ⟨hkind', -⟩ | ⟨hkind', -⟩ | ⟨hkind' | hkind', -⟩ <;>
          rw [hkind] at hkind' <;> cases hkind'
  · have hhidden : ¬ browserTest (formValues c.supplied) e equals :=
      fun hb => hfound (hbrowser.1 hb).1
    rw [not_or, not_not, not_not] at hfound
    constructor
    · rintro ⟨hvalue, hform⟩
      have hno : ¬ serverTest c e equals := fun hs => hhidden (hform.1 hs)
      refine ⟨fun _ _ => ⟨fun hv => hno (hvalue.2 hv), hno⟩, fun hor => ?_⟩
      exact absurd hfound (by rwa [not_and_or])
    · intro hplain
      obtain ⟨hvalue, hno⟩ := hplain.member hfound.1 hfound.2
      exact ⟨iff_of_false hno hvalue, iff_of_false hno hhidden⟩

end

end

end DataJuicer.RunSpecs
