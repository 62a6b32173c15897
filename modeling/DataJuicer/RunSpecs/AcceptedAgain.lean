import DataJuicer.RunSpecs.StoredModels

/-! # Definitions that are accepted again

A definition is validated twice, by the request model and by the stored model. The second one
compares doubles where the first compares integers; rounding keeps the order, so what the first
accepts the second accepts too.
-/

namespace DataJuicer.RunSpecs

open Transaction Models

section

variable {repr : ℤ → String} {x y : Number} {X Y : Double}

theorem ofInt_value {n : ℤ} (h : Double.ofInt repr n = some X) :
    X.value = .finite (roundInt n) := by
  unfold Double.ofInt at h
  split at h
  · rw [← Option.some.inj h]
  · cases h

theorem exists_toDouble (h : isFinite x = .ok true) :
    ∃ X, x.toDouble repr = some X ∧ X.value.isFinite := by
  cases x with
  | int n =>
    obtain ⟨_, hdouble, -⟩ := bind_eq_ok.1 h
    rw [raiseIf_eq_ok] at hdouble
    have hlt : |roundInt n| < 2 ^ 1024 := by
      by_contra hge
      exact hdouble (if_neg hge)
    exact ⟨_, dif_pos hlt, rfl⟩
  | float y => exact ⟨y, rfl, Except.ok.inj h⟩

/-- Doubles are in the order of their numbers. -/
theorem toDouble_not_lt (hx : x.toDouble repr = some X) (hy : y.toDouble repr = some Y)
    (hX : X.value.isFinite) (hY : Y.value.isFinite) (h : ¬ y.lt x) :
    ¬ Y.value.lt X.value := by
  have hfinite : ∀ {v : DoubleValue}, v.isFinite → ∃ q, v = .finite q := by
    intro v hv
    cases v with
    | finite q => exact ⟨q, rfl⟩
    | posInf => cases hv
    | negInf => cases hv
    | nan => cases hv
  obtain ⟨P, hP⟩ := hfinite hX
  obtain ⟨Q, hQ⟩ := hfinite hY
  rw [hP, hQ]
  suffices hle : P ≤ Q by simpa [DoubleValue.lt] using hle
  cases x with
  | int m =>
    obtain rfl : (roundInt m : ℚ) = P := by
      rw [ofInt_value hx] at hP
      exact DoubleValue.finite.inj hP
    cases y with
    | int n =>
      obtain rfl : (roundInt n : ℚ) = Q := by
        rw [ofInt_value hy] at hQ
        exact DoubleValue.finite.inj hQ
      have hle : m ≤ n := by simpa [Number.lt, Number.value, DoubleValue.lt] using h
      exact_mod_cast roundInt_mono hle
    | float y =>
      obtain rfl : y = Y := Option.some.inj hy
      have hle : (m : ℚ) ≤ Q := by simpa [Number.lt, Number.value, DoubleValue.lt, hQ] using h
      exact roundInt_le_of_le (y.representable Q hQ) hle
  | float x =>
    obtain rfl : x = X := Option.some.inj hx
    cases y with
    | int n =>
      obtain rfl : (roundInt n : ℚ) = Q := by
        rw [ofInt_value hy] at hQ
        exact DoubleValue.finite.inj hQ
      have hle : P ≤ (n : ℚ) := by simpa [Number.lt, Number.value, DoubleValue.lt, hP] using h
      exact le_roundInt_of_le (x.representable P hP) hle
    | float y =>
      obtain rfl : y = Y := Option.some.inj hy
      simpa [Number.lt, Number.value, DoubleValue.lt, hP, hQ] using h

theorem toDouble_of_safe {n : ℤ} (h : ¬ maxSafeInteger < |n|)
    (hX : Double.ofInt repr n = some X) : X.value = .finite n := by
  rw [ofInt_value hX, roundInt_of_abs_lt]
  unfold maxSafeInteger at h
  omega

end

theorem strip_again (p : Char → Bool) (l : List Char) :
    (((l.dropWhile p).rdropWhile p).dropWhile p).rdropWhile p = (l.dropWhile p).rdropWhile p := by
  have hdrop : ((l.dropWhile p).rdropWhile p).dropWhile p = (l.dropWhile p).rdropWhile p := by
    obtain ⟨rest, hrest⟩ := List.rdropWhile_prefix p (l.dropWhile p)
    cases hstrip : (l.dropWhile p).rdropWhile p with
    | nil => rfl
    | cons a t =>
      rw [hstrip] at hrest
      have hhead : p a = false := by
        have hne : l.dropWhile p ≠ [] := by simp [← hrest]
        have := List.head_dropWhile_not p hne
        simpa [← hrest] using this
      rw [List.dropWhile_cons_of_neg (by simp [hhead])]
  rw [hdrop, List.rdropWhile_idempotent]

theorem stripText_again (s : String) : stripText (stripText s) = stripText s := by
  unfold stripText
  rw [String.toList_ofList, strip_again]

theorem stripText_sublist (s : String) : (stripText s).toList.Sublist s.toList := by
  unfold stripText
  rw [String.toList_ofList]
  exact (List.rdropWhile_prefix _ _).sublist.trans (List.dropWhile_sublist _)

theorem choiceText_again {s t : String} (h : choiceText s = .ok t) : choiceText t = .ok t := by
  obtain ⟨_, hlength, h⟩ := bind_eq_ok.1 h
  obtain ⟨_, hcontrol, h⟩ := bind_eq_ok.1 h
  obtain ⟨_, hblank, h⟩ := bind_eq_ok.1 h
  cases h
  rw [raiseIf_eq_ok] at hlength hcontrol hblank
  have hsublist := stripText_sublist s
  have hlength' : 1 ≤ (stripText s).length ∧ (stripText s).length ≤ 200 := by
    constructor
    · rw [Nat.one_le_iff_ne_zero, ne_eq, String.length_eq_zero_iff]
      exact hblank
    · rw [← String.length_toList]
      rw [not_not, ← String.length_toList] at hlength
      exact hsublist.length_le.trans hlength.2
  have hcontrol' : ¬ hasControl (stripText s) := by
    intro hany
    apply hcontrol
    unfold hasControl at hany ⊢
    rw [List.any_eq_true] at hany ⊢
    obtain ⟨c, hc, hbad⟩ := hany
    exact ⟨c, hsublist.subset hc, hbad⟩
  unfold choiceText
  rw [stripText_again, raiseIf, if_neg (not_not.2 hlength'), raiseIf, if_neg hcontrol', raiseIf,
    if_neg hblank]
  rfl

theorem validate_choice_again {c d : ParameterChoice} (h : c.validate = .ok d) :
    d.validate = .ok d := by
  obtain ⟨value, hvalue, h⟩ := bind_eq_ok.1 h
  obtain ⟨label, hlabel, h⟩ := bind_eq_ok.1 h
  cases h
  unfold ParameterChoice.validate
  rw [choiceText_again hvalue, choiceText_again hlabel]
  rfl

theorem validateChoices_again {cs ds : List ParameterChoice} (h : validateChoices cs = .ok ds) :
    validateChoices ds = .ok ds ∧ ds.length = cs.length := by
  induction cs generalizing ds with
  | nil =>
    cases h
    exact ⟨rfl, rfl⟩
  | cons c cs ih =>
    obtain ⟨d, hd, h⟩ := bind_eq_ok.1 h
    obtain ⟨rest, hrest, h⟩ := bind_eq_ok.1 h
    cases h
    obtain ⟨hagain, hlength⟩ := ih hrest
    unfold validateChoices
    rw [validate_choice_again hd, hagain]
    exact ⟨rfl, by simp [hlength]⟩

section

variable {d d' : Api.ParameterDefinition}

structure Checked (d : Api.ParameterDefinition) : Prop where
  string : ¬ (d.semanticRole = .stageInput ∧ d.type ≠ .string)
  free : ¬ (d.semanticRole = .stageInput ∧ d.visibleWhen ≠ none)
  admits : d.type.admits d.default
  style : validateStyle d.type d.style = .ok ()
  bounds : d.validateBounds = .ok ()
  default : d.validateNumericDefault = .ok ()
  enum : d.validateEnum = .ok ()
  text : d.validateText = .ok ()
  display : d.display.validate = .ok ()

theorem validateDefinition_eq_ok : d.validateDefinition = .ok d' ↔
    Checked d ∧ d' = { d with argumentStyle := some d.style } := by
  unfold Api.ParameterDefinition.validateDefinition
  constructor
  · intro h
    obtain ⟨_, hstring, h⟩ := bind_eq_ok.1 h
    obtain ⟨_, hfree, h⟩ := bind_eq_ok.1 h
    obtain ⟨_, hadmits, h⟩ := bind_eq_ok.1 h
    obtain ⟨_, hstyle, h⟩ := bind_eq_ok.1 h
    obtain ⟨_, hbounds, h⟩ := bind_eq_ok.1 h
    obtain ⟨_, hdefault, h⟩ := bind_eq_ok.1 h
    obtain ⟨_, henum, h⟩ := bind_eq_ok.1 h
    obtain ⟨_, htext, h⟩ := bind_eq_ok.1 h
    obtain ⟨_, hdisplay, h⟩ := bind_eq_ok.1 h
    cases h
    rw [raiseIf_eq_ok] at hstring hfree hadmits
    exact ⟨⟨hstring, hfree, not_not.1 hadmits, hstyle, hbounds, hdefault, henum, htext, hdisplay⟩,
      rfl⟩
  · rintro ⟨h, rfl⟩
    simp only [raiseIf, if_neg h.string, if_neg h.free, if_neg (not_not.2 h.admits), h.style,
      h.bounds, h.default, h.enum, h.text, h.display]
    rfl

/-- A definition that has been validated is kept as it is. -/
theorem validate_again (h : d.validate = .ok d') : d'.validate = .ok d' ∧ Checked d' := by
  obtain ⟨_, hfields, h⟩ := bind_eq_ok.1 h
  obtain ⟨choices, hchoices, h⟩ := bind_eq_ok.1 h
  rw [raiseIf_eq_ok, not_not] at hfields
  obtain ⟨hagain, hlength⟩ := validateChoices_again hchoices
  obtain ⟨hchecked, rfl⟩ := validateDefinition_eq_ok.1 h
  set e : Api.ParameterDefinition := { d with choices } with he
  have hchecked' : Checked { e with argumentStyle := some e.style } :=
    ⟨hchecked.string, hchecked.free, hchecked.admits, hchecked.style, hchecked.bounds,
      hchecked.default, hchecked.enum, hchecked.text, hchecked.display⟩
  refine ⟨?_, hchecked'⟩
  have hfields' : Api.ParameterDefinition.FieldsValid { e with argumentStyle := some e.style } :=
    ⟨hfields.key, hfields.label, hfields.description, hlength ▸ hfields.choices,
      hfields.string_min, hfields.string_max, hfields.visible_when, hfields.display,
      hfields.cli_flag⟩
  unfold Api.ParameterDefinition.validate
  rw [raiseIf, if_neg (not_not.2 hfields')]
  change (validateChoices choices >>= fun choices => _) = _
  rw [hagain]
  exact validateDefinition_eq_ok.2 ⟨hchecked', rfl⟩

structure Parsed (d : Api.ParameterDefinition) : Prop where
  fields : d.FieldsValid
  choices : validateChoices d.choices = .ok d.choices
  checked : Checked d

theorem parsed_of_validate (h : d.validate = .ok d') : Parsed d' := by
  obtain ⟨hagain, hchecked⟩ := validate_again h
  obtain ⟨_, hfields, hrest⟩ := bind_eq_ok.1 hagain
  obtain ⟨choices, hchoices, hrest⟩ := bind_eq_ok.1 hrest
  rw [raiseIf_eq_ok, not_not] at hfields
  obtain ⟨-, heq⟩ := validateDefinition_eq_ok.1 hrest
  have hsame : d'.choices = choices := congrArg Api.ParameterDefinition.choices heq
  exact ⟨hfields, hsame ▸ hchoices, hchecked⟩

def BoundAs (repr : ℤ → String) : Option Number → Option Double → Prop :=
  Option.Rel fun x X => x.toDouble repr = some X ∧ X.value.isFinite

theorem exists_boundValue (repr : ℤ → String) {b : Option Number}
    (h : Api.ParameterDefinition.finiteBound b = .ok ()) :
    ∃ B, boundValue repr b = .ok B ∧ BoundAs repr b B := by
  cases b with
  | none => exact ⟨none, rfl, .none⟩
  | some x =>
    obtain ⟨finite, hfinite, htrue⟩ := bind_eq_ok.1 h
    rw [raiseIf_eq_ok, not_not] at htrue
    obtain ⟨X, hX, hvalue⟩ : ∃ X, x.toDouble repr = some X ∧ X.value.isFinite :=
      exists_toDouble (htrue ▸ hfinite)
    refine ⟨some X, ?_, .some ⟨hX, hvalue⟩⟩
    simp only [boundValue, hX]
    rfl

theorem storedChoices_adapt (h : validateChoices d.choices = .ok d.choices) :
    storedChoices (adaptDefinition d).choices = .ok (adaptDefinition d).choices := by
  unfold adaptDefinition
  dsimp only
  split
  · rfl
  · simp only [storedChoices, h]
    rfl

/-- The definition that `model_validate` builds. -/
def storedDefinition (d : Api.ParameterDefinition) (minimum maximum : Option Double) :
    ParameterDefinition where
  name := d.key
  label := d.label
  kind := d.type
  semanticRole := d.semanticRole
  cliFlag := d.flag
  argumentStyle := d.style
  default := d.default
  sensitive := d.sensitive
  minimum
  maximum
  choices := if d.choices = [] then none else some d.choices
  stringMinLength := d.stringMinLength
  stringMaxLength := d.stringMaxLength
  description := d.description.getD ""
  visibleWhen := d.visibleWhen
  display := d.display

variable {repr : ℤ → String} {minimum maximum : Option Double}

theorem choices_getD (d : Api.ParameterDefinition) :
    (storedDefinition d minimum maximum).choices.getD [] = d.choices := by
  unfold storedDefinition
  dsimp only
  split
  · next h => exact h.symm
  · rfl

section

variable {a b : Option Number} {A B : Option Double}

theorem BoundAs.eq_none_iff (h : BoundAs repr a A) : a = none ↔ A = none := by
  cases h <;> simp

theorem BoundAs.finite (h : BoundAs repr a A) : A.all (·.value.isFinite) := by
  cases h with
  | none => rfl
  | some h => exact h.2

theorem BoundAs.integer (h : BoundAs repr a A) (hint : a.all Number.isInt)
    (hsafe : ¬ a.any Number.unsafeInteger) : A.all isInteger ∧ ¬ A.any unsafeBound := by
  cases h with
  | none => simp
  | @some x X h =>
    cases x with
    | float y => cases hint
    | int n =>
      have hsafe : ¬ maxSafeInteger < |n| := by simpa [Number.unsafeInteger] using hsafe
      have hvalue := toDouble_of_safe hsafe h.1
      constructor
      · simp [isInteger, hvalue]
      · have hcast : ¬ (maxSafeInteger : ℚ) < |(n : ℚ)| := by exact_mod_cast hsafe
        simpa [unsafeBound, hvalue] using hcast

theorem BoundAs.not_cross (hA : BoundAs repr a A) (hB : BoundAs repr b B)
    (h : ¬ boundsCross a b) : ¬ A.any fun x => B.any fun y => y.value.lt x.value := by
  cases hA with
  | none => simp
  | some hx =>
    cases hB with
    | none => simp
    | some hy => exact toDouble_not_lt hx.1 hy.1 hx.2 hy.2 h

theorem BoundAs.not_below (h : BoundAs repr a A) {x : Number} {X : Double}
    (hx : x.toDouble repr = some X) (hX : X.value.isFinite) (hlow : ¬ a.any fun y => x.lt y) :
    ¬ A.any fun y => X.value.lt y.value := by
  cases h with
  | none => simp
  | some hy => exact toDouble_not_lt hy.1 hx hy.2 hX hlow

theorem BoundAs.not_above (h : BoundAs repr a A) {x : Number} {X : Double}
    (hx : x.toDouble repr = some X) (hX : X.value.isFinite) (hhigh : ¬ a.any fun y => y.lt x) :
    ¬ A.any fun y => y.value.lt X.value := by
  cases h with
  | none => simp
  | some hy => exact toDouble_not_lt hx hy.1 hX hy.2 hhigh

end

section

variable (hmin : BoundAs repr d.minimum minimum) (hmax : BoundAs repr d.maximum maximum)

include hmin hmax

theorem storedDefinition_bounds (h : d.validateBounds = .ok ()) :
    (storedDefinition d minimum maximum).validateBounds = .ok () := by
  obtain ⟨_, hcross, h⟩ := bind_eq_ok.1 h
  obtain ⟨_, -, h⟩ := bind_eq_ok.1 h
  obtain ⟨_, -, h⟩ := bind_eq_ok.1 h
  rw [raiseIf_eq_ok] at hcross
  have hfinite : (storedDefinition d minimum maximum).minimum.all (·.value.isFinite) ∧
      (storedDefinition d minimum maximum).maximum.all (·.value.isFinite) :=
    ⟨hmin.finite, hmax.finite⟩
  have hcross' : ¬ (storedDefinition d minimum maximum).minimum.any fun x =>
      (storedDefinition d minimum maximum).maximum.any fun y => y.value.lt x.value :=
    hmin.not_cross hmax hcross
  unfold ParameterDefinition.validateBounds
  rw [raiseIf, if_neg hcross', raiseIf, if_neg (not_not.2 hfinite)]
  change (if d.type = .integer then _ else _) = _
  split at h
  · next hkind =>
    obtain ⟨_, hint, h⟩ := bind_eq_ok.1 h
    rw [raiseIf_eq_ok, not_not] at hint
    rw [raiseIf_eq_ok, not_or, not_or] at h
    have hminimum := hmin.integer hint.1 h.2.1
    have hmaximum := hmax.integer hint.2 h.2.2
    rw [if_pos hkind, raiseIf, if_neg (not_not.2 ⟨hminimum.1, hmaximum.1⟩)]
    exact raiseIf_eq_ok.2 (not_or.2 ⟨hminimum.2, hmaximum.2⟩)
  · next hkind =>
    rw [raiseIf_eq_ok] at h
    rw [if_neg hkind, raiseIf_eq_ok]
    rintro ⟨hnumber, hsome⟩
    refine h ⟨hnumber, ?_⟩
    rwa [ne_eq, ne_eq, hmin.eq_none_iff, hmax.eq_none_iff]

theorem storedDefinition_range {x : Number} {X : Double} (hdefault : d.default = .number x)
    (h : d.validateNumericDefault = .ok ()) (hx : x.toDouble repr = some X)
    (hX : X.value.isFinite) : checkRange (storedDefinition d minimum maximum) X.value = .ok () := by
  unfold Api.ParameterDefinition.validateNumericDefault at h
  rw [hdefault] at h
  obtain ⟨_, -, h⟩ := bind_eq_ok.1 h
  obtain ⟨_, -, h⟩ := bind_eq_ok.1 h
  obtain ⟨_, hlow, h⟩ := bind_eq_ok.1 h
  rw [raiseIf_eq_ok] at hlow h
  have hlow' : ¬ (storedDefinition d minimum maximum).minimum.any fun y => X.value.lt y.value :=
    hmin.not_below hx hX hlow
  have hhigh' : ¬ (storedDefinition d minimum maximum).maximum.any fun y => y.value.lt X.value :=
    hmax.not_above hx hX h
  unfold checkRange
  rw [raiseIf, if_neg hlow']
  exact raiseIf_eq_ok.2 hhigh'

end

theorem storedDefinition_enum (h : d.validateEnum = .ok ()) :
    (storedDefinition d minimum maximum).validateEnum = .ok () := by
  unfold Api.ParameterDefinition.validateEnum at h
  unfold ParameterDefinition.validateEnum
  rw [choices_getD]
  change (if d.type = .enum then _ else _) = _
  split at h
  · next hkind =>
    obtain ⟨_, hempty, h⟩ := bind_eq_ok.1 h
    obtain ⟨_, hnodup, -⟩ := bind_eq_ok.1 h
    rw [raiseIf_eq_ok] at hempty hnodup
    rw [if_pos hkind, raiseIf_eq_ok, not_or]
    exact ⟨hempty, hnodup⟩
  · next hkind =>
    rw [raiseIf_eq_ok, not_not] at h
    rw [if_neg hkind, raiseIf_eq_ok, not_not]
    exact if_pos h

theorem storedDefinition_lengths (h : d.validateText = .ok ()) :
    (storedDefinition d minimum maximum).validateLengths = .ok () := by
  obtain ⟨_, hkind, h⟩ := bind_eq_ok.1 h
  obtain ⟨_, hcross, -⟩ := bind_eq_ok.1 h
  rw [raiseIf_eq_ok] at hkind hcross
  unfold ParameterDefinition.validateLengths
  have hkind' : ¬ ((storedDefinition d minimum maximum).kind ≠ .string ∧
      ((storedDefinition d minimum maximum).stringMinLength ≠ none ∨
        (storedDefinition d minimum maximum).stringMaxLength ≠ none)) := hkind
  rw [raiseIf, if_neg hkind']
  exact raiseIf_eq_ok.2 hcross

theorem choice_safe {cs ds : List ParameterChoice} (h : validateChoices cs = .ok ds) :
    ∀ c ∈ ds, c.value.length ≤ 200 ∧ ¬ hasControl c.value := by
  induction cs generalizing ds with
  | nil =>
    cases h
    simp
  | cons c cs ih =>
    obtain ⟨e, he, h⟩ := bind_eq_ok.1 h
    obtain ⟨rest, hrest, h⟩ := bind_eq_ok.1 h
    cases h
    rw [List.forall_mem_cons]
    refine ⟨?_, ih hrest⟩
    obtain ⟨value, hvalue, he⟩ := bind_eq_ok.1 he
    obtain ⟨label, -, he⟩ := bind_eq_ok.1 he
    cases he
    obtain ⟨_, hlength, htext⟩ := bind_eq_ok.1 (choiceText_again hvalue)
    obtain ⟨_, hcontrol, -⟩ := bind_eq_ok.1 htext
    rw [raiseIf_eq_ok] at hlength hcontrol
    exact ⟨(not_not.1 hlength).2, hcontrol⟩

theorem checkText_eq_ok {m : ParameterDefinition} {s : String} : checkText m s = .ok () ↔
    s.length ≤ 512 ∧ ¬ hasControl s ∧
      (m.kind = .enum → ∃ c ∈ m.choices.getD [], s = c.value) ∧
      (m.kind = .string → ¬ m.stringMinLength.any (s.length < ·) ∧
        ¬ m.stringMaxLength.any (· < s.length)) := by
  unfold checkText
  rw [unit_bind_eq_ok, unit_bind_eq_ok, unit_bind_eq_ok, raiseIf_eq_ok, raiseIf_eq_ok,
    raiseIf_eq_ok, raiseIf_eq_ok]
  constructor
  · rintro ⟨hsafe, hchoice, hshort, hlong⟩
    rw [not_or, not_lt] at hsafe
    refine ⟨hsafe.1, hsafe.2, fun hkind => ?_, fun hkind => ⟨?_, ?_⟩⟩
    · by_contra hnone
      exact hchoice ⟨hkind, hnone⟩
    · exact fun hany => hshort ⟨hkind, hany⟩
    · exact fun hany => hlong ⟨hkind, hany⟩
  · rintro ⟨hlength, hcontrol, hchoice, hlengths⟩
    refine ⟨not_or.2 ⟨not_lt.2 hlength, hcontrol⟩, ?_, ?_, ?_⟩
    · exact fun ⟨hkind, hnone⟩ => hnone (hchoice hkind)
    · exact fun ⟨hkind, hany⟩ => (hlengths hkind).1 hany
    · exact fun ⟨hkind, hany⟩ => (hlengths hkind).2 hany

theorem exists_default_double {x : Number} (hdefault : d.default = .number x)
    (h : d.validateNumericDefault = .ok ()) :
    ∃ X, x.toDouble repr = some X ∧ X.value.isFinite := by
  unfold Api.ParameterDefinition.validateNumericDefault at h
  rw [hdefault] at h
  obtain ⟨finite, hfinite, h⟩ := bind_eq_ok.1 h
  obtain ⟨_, htrue, -⟩ := bind_eq_ok.1 h
  rw [raiseIf_eq_ok, not_not] at htrue
  exact exists_toDouble (htrue ▸ hfinite)

theorem checkText_default (h : Parsed d) {s : String} (hdefault : d.default = .str s)
    (hkind : d.type = .enum ∨ d.type = .string) :
    checkText (storedDefinition d minimum maximum) s = .ok () := by
  rw [checkText_eq_ok, choices_getD]
  rcases hkind with hkind | hkind
  · have henum := h.checked.enum
    unfold Api.ParameterDefinition.validateEnum at henum
    rw [if_pos hkind] at henum
    obtain ⟨_, -, henum⟩ := bind_eq_ok.1 henum
    obtain ⟨_, -, henum⟩ := bind_eq_ok.1 henum
    rw [raiseIf_eq_ok, not_not, hdefault] at henum
    obtain ⟨c, hc, hvalue⟩ := henum
    obtain rfl := JsonScalar.str.inj hvalue
    obtain ⟨hlength, hcontrol⟩ := choice_safe h.choices c hc
    refine ⟨hlength.trans (by decide), hcontrol, fun _ => ⟨c, hc, rfl⟩, fun hstring => ?_⟩
    have hstring : d.type = .string := hstring
    rw [hkind] at hstring
    cases hstring
  · have htext := h.checked.text
    unfold Api.ParameterDefinition.validateText at htext
    rw [hkind, hdefault] at htext
    obtain ⟨_, -, htext⟩ := bind_eq_ok.1 htext
    obtain ⟨_, -, htext⟩ := bind_eq_ok.1 htext
    obtain ⟨_, hsafe, htext⟩ := bind_eq_ok.1 htext
    obtain ⟨_, hshort, hlong⟩ := bind_eq_ok.1 htext
    rw [raiseIf_eq_ok] at hsafe hshort hlong
    rw [not_or, not_lt] at hsafe
    refine ⟨hsafe.1, hsafe.2, fun henum => ?_, fun _ => ⟨hshort, hlong⟩⟩
    have henum : d.type = .enum := henum
    rw [hkind] at henum
    cases henum

theorem admits_iff {t : ParameterType} {v : JsonScalar} : t.admits v ↔
    (t = .integer ∧ ∃ n, v = .number (.int n)) ∨ (t = .number ∧ ∃ x, v = .number x) ∨
      (t = .boolean ∧ ∃ b, v = .bool b) ∨ ((t = .enum ∨ t = .string) ∧ ∃ s, v = .str s) := by
  cases t <;> rcases v with b | (n | x) | s <;> simp [ParameterType.admits]

theorem exists_normal_default (h : Parsed d) (hmin : BoundAs repr d.minimum minimum)
    (hmax : BoundAs repr d.maximum maximum) : ∃ v,
      normalizeParameterValue repr (storedDefinition d minimum maximum) d.default = .ok v := by
  have hkind : (storedDefinition d minimum maximum).kind = d.type := rfl
  unfold normalizeParameterValue
  rw [hkind]
  rcases admits_iff.1 h.checked.admits with ⟨htype, n, hdefault⟩ | ⟨htype, x, hdefault⟩ |
    ⟨htype, b, hdefault⟩ | ⟨htype, s, hdefault⟩
  · obtain ⟨X, hX, hfinite⟩ : ∃ X, (Number.int n).toDouble repr = some X ∧ X.value.isFinite :=
      exists_default_double hdefault h.checked.default
    have hsafe : ¬ maxSafeInteger < |n| := by
      have hbounds := h.checked.bounds
      obtain ⟨_, -, hbounds⟩ := bind_eq_ok.1 hbounds
      obtain ⟨_, -, hbounds⟩ := bind_eq_ok.1 hbounds
      obtain ⟨_, -, hbounds⟩ := bind_eq_ok.1 hbounds
      rw [if_pos htype] at hbounds
      obtain ⟨_, -, hbounds⟩ := bind_eq_ok.1 hbounds
      rw [raiseIf_eq_ok, hdefault] at hbounds
      intro hlarge
      exact hbounds (.inl (decide_eq_true hlarge))
    have hrange := storedDefinition_range hmin hmax hdefault h.checked.default hX hfinite
    rw [toDouble_of_safe hsafe hX] at hrange
    refine ⟨.number (.int n), ?_⟩
    simp only [htype, hdefault, raiseIf, if_neg hsafe, hrange]
    rfl
  · obtain ⟨X, hX, hfinite⟩ : ∃ X, x.toDouble repr = some X ∧ X.value.isFinite :=
      exists_default_double hdefault h.checked.default
    have hrange := storedDefinition_range hmin hmax hdefault h.checked.default hX hfinite
    refine ⟨.number (.float X), ?_⟩
    simp only [htype, hdefault, hX, bind_eq_ok]
    refine ⟨X, rfl, ⟨⟩, raiseIf_eq_ok.2 (not_not.2 hfinite), ⟨⟩, hrange, rfl⟩
  · exact ⟨.bool b, by simp only [htype, hdefault]⟩
  · have htext : checkText (storedDefinition d minimum maximum) s = .ok () :=
      checkText_default h hdefault htype
    refine ⟨.str s, ?_⟩
    rcases htype with htype | htype <;> simp only [htype, hdefault, htext] <;> rfl

theorem matchesFlag_key {key : String} (h : matchesKey key) : matchesFlag ("--" ++ key) := by
  unfold matchesKey at h
  unfold matchesFlag
  rw [String.toList_append]
  split at h
  · next c cs hkey =>
    simp only [Bool.and_eq_true, decide_eq_true_eq, List.all_eq_true] at h
    obtain ⟨⟨halpha, hlength⟩, hword⟩ := h
    have hword' : ∀ d ∈ cs, isWordChar d || d = '-' := fun d hd => by simp [hword d hd]
    rw [hkey]
    simpa [Char.isAlphanum, halpha, hlength] using hword'
  · cases h

theorem fieldsValid_adapt (h : d.FieldsValid) : Models.FieldsValid (adaptDefinition d) := by
  refine ⟨h.key, h.label.2, ?_, ?_, h.string_min, h.string_max, ?_, h.visible_when, h.display⟩
  · have hflag := h.cli_flag
    unfold adaptDefinition Api.ParameterDefinition.flag
    cases hcli : d.cliFlag with
    | none => exact matchesFlag_key h.key
    | some flag =>
      rw [hcli] at hflag
      exact hflag
  · unfold adaptDefinition
    dsimp only
    split
    · rfl
    · exact decide_eq_true h.choices
  · have hdescription := h.description
    unfold adaptDefinition
    cases hsome : d.description with
    | none => exact Nat.zero_le _
    | some text =>
      rw [hsome] at hdescription
      exact of_decide_eq_true hdescription

/-- A definition that the request model accepts is accepted by the stored model. -/
theorem modelValidate_of_parsed (repr : ℤ → String) (h : Parsed d) :
    ∃ m, modelValidate repr (adaptDefinition d) = .ok m := by
  have hbounds := h.checked.bounds
  obtain ⟨_, -, hbounds⟩ := bind_eq_ok.1 hbounds
  obtain ⟨⟨⟩, hminimum, hbounds⟩ := bind_eq_ok.1 hbounds
  obtain ⟨⟨⟩, hmaximum, -⟩ := bind_eq_ok.1 hbounds
  obtain ⟨minimum, hmin, hminAs⟩ := exists_boundValue repr hminimum
  obtain ⟨maximum, hmax, hmaxAs⟩ := exists_boundValue repr hmaximum
  obtain ⟨v, hv⟩ := exists_normal_default h hminAs hmaxAs
  have hvalid : (storedDefinition d minimum maximum).validateDefinition repr = .ok () := by
    unfold ParameterDefinition.validateDefinition
    simp only [bind_eq_ok]
    refine ⟨⟨⟩, raiseIf_eq_ok.2 h.checked.string, ⟨⟩, raiseIf_eq_ok.2 h.checked.free, ⟨⟩,
      h.checked.style, ⟨⟩, storedDefinition_bounds hminAs hmaxAs h.checked.bounds, ⟨⟩,
      storedDefinition_enum h.checked.enum, ⟨⟩, storedDefinition_lengths h.checked.text, ⟨⟩,
      h.checked.display, ?_⟩
    have hdefault : (storedDefinition d minimum maximum).default = d.default := rfl
    rw [hdefault, hv]
    rfl
  refine ⟨storedDefinition d minimum maximum, ?_⟩
  unfold modelValidate
  simp only [bind_eq_ok]
  exact ⟨⟨⟩, raiseIf_eq_ok.2 (not_not.2 (fieldsValid_adapt h.fields)), minimum, hmin,
    maximum, hmax, _,
    storedChoices_adapt h.choices, ⟨⟩, hvalid, rfl⟩

theorem parsed_of_validateDefinitions {ds ds' : List Api.ParameterDefinition}
    (h : validateDefinitions ds = .ok ds') : ∀ d ∈ ds', Parsed d := by
  induction ds generalizing ds' with
  | nil =>
    cases h
    simp
  | cons d ds ih =>
    obtain ⟨e, he, h⟩ := bind_eq_ok.1 h
    obtain ⟨rest, hrest, h⟩ := bind_eq_ok.1 h
    cases h
    rw [List.forall_mem_cons]
    exact ⟨parsed_of_validate he, ih hrest⟩

theorem parsed_of_configuration {casefold : String → String} {c c' : ModelConfigurationRequest}
    (h : c.validate casefold = .ok c') : ∀ d ∈ c'.parameterDefinitions, Parsed d := by
  unfold ModelConfigurationRequest.validate at h
  obtain ⟨_, -, h⟩ := bind_eq_ok.1 h
  obtain ⟨_, -, h⟩ := bind_eq_ok.1 h
  obtain ⟨definitions, hdefinitions, h⟩ := bind_eq_ok.1 h
  obtain ⟨_, -, h⟩ := bind_eq_ok.1 h
  obtain ⟨_, -, h⟩ := bind_eq_ok.1 h
  cases h
  exact parsed_of_validateDefinitions hdefinitions

/-- The stored definitions of an accepted configuration are accepted again. -/
theorem exists_validateStored (repr : ℤ → String) {ds : List Api.ParameterDefinition}
    (h : ∀ d ∈ ds, Parsed d) : ∃ ms, validateStored repr (ds.map adaptDefinition) = .ok ms := by
  induction ds with
  | nil => exact ⟨[], rfl⟩
  | cons d ds ih =>
    rw [List.forall_mem_cons] at h
    obtain ⟨m, hm⟩ := modelValidate_of_parsed repr h.1
    obtain ⟨ms, hms⟩ := ih h.2
    refine ⟨m :: ms, ?_⟩
    rw [List.map_cons]
    unfold validateStored
    rw [hm, hms]
    rfl

end

end DataJuicer.RunSpecs
