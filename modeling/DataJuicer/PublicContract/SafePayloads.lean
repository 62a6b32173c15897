import DataJuicer.PublicContract.PublicEvents

/-! # When an event can be built

The keys of a payload and the texts that are fixed pass the check in every case, so that only the
texts of the signal decide.
-/

namespace DataJuicer.PublicContract

open Transaction Regex

/-- A text without a match of the patterns. -/
def Safe (db : CharData) (s : String) : Prop := containsUnsafePublicText db s = false

instance (db : CharData) : DecidablePred (Safe db) :=
  fun s => inferInstanceAs (Decidable (containsUnsafePublicText db s = false))

/-- What a match of the thirteen patterns cannot be without. -/
def tellingPatterns : List Regex :=
  [exact "/", exact ":\\", exact "\\\\", char space, choice [word "sk-", oneOf ":="],
    choice (["密码", "口令", "密钥", "令牌"].map exact), word "id",
    choice [word "nav_plan_", words ["step", "phase"]],
    choice [word "_tool", word "_navigation_data_task", word "_workflow"],
    choice [word "MainRouter", word "NavigationDataAgent", word "Agent", word "AgentScope"],
    word "-", times (char hexDigit) 24 empty,
    choice [choice [exact "%", word "percent"], exact "百分之", exact "%"]]

/-- The text has none of it, so no pattern matches, whatever the database says. -/
def Plain (s : String) : Prop := ∀ r ∈ tellingPatterns, r.search s.toList = false

instance : DecidablePred Plain := fun _ => List.decidableBAll _ tellingPatterns

theorem secret_leads (db : CharData) : Leads (secret db) (choice [word "sk-", oneOf ":="]) :=
  .right (.alt (.left (.refl _)) (.right (.right (.left (.refl _)))))

theorem internalRef_leads (db : CharData) :
    Leads (internalRef db) (choice [word "nav_plan_", words ["step", "phase"]]) :=
  .right (.left (.alt (.left (.refl _)) (.right (.right (.left (.refl _))))))

theorem toolName_leads (db : CharData) : Leads (toolName db)
    (choice [word "_tool", word "_navigation_data_task", word "_workflow"]) :=
  .right (.left (.alt (.right (.times 2 (.right (.refl _)))) (.alt (.right (.refl _))
    (.right (.right (.left (.refl _)))))))

theorem agentName_leads (db : CharData) : Leads (agentName db)
    (choice [word "MainRouter", word "NavigationDataAgent", word "Agent", word "AgentScope"]) :=
  .right (.left (.alt (.refl _) (.alt (.refl _)
    (.alt (.right (.right (.left (.refl _)))) (.refl _)))))

theorem percent_leads (db : CharData) : Leads (percent db)
    (choice [choice [exact "%", word "percent"], exact "百分之", exact "%"]) :=
  .alt (.right (.right (.right (.right (.left (.alt (.refl _) (.left (.refl _))))))))
    (.alt (.left (.refl _)) (.refl _))

theorem patterns_lead (db : CharData) : List.Forall₂ Leads [unixPath db, windowsPath db,
    uncPath, bearer db, secret db, cnSecret, internalId db, internalRef db, toolName db,
    agentName db, uuid db, longHex db, percent db] tellingPatterns :=
  .cons (.right (.left (.refl _))) <| .cons (.right (.right (.left (.refl _)))) <|
    .cons (.left (.refl _)) <| .cons (.right (.right (.left (.left (.refl _))))) <|
    .cons (secret_leads db) <| .cons (.left (.refl _)) <|
    .cons (.right (.right (.right (.left (.refl _))))) <| .cons (internalRef_leads db) <|
    .cons (toolName_leads db) <| .cons (agentName_leads db) <|
    .cons (.right (.times 8 (.left (.refl _)))) <| .cons (.right (leads_times _ _ _)) <|
    .cons (percent_leads db) .nil

theorem safe_of_plain {db : CharData} {s : String} (h : Plain s) : Safe db s :=
  any_search_of_leads (patterns_lead db) h

/-- The texts of the enumerations. -/
def fixedTexts : List String :=
  ["setup", "inspection", "planning", "preparation", "extract_sync", "finish_assembly",
    "human_decision", "annotation", "tracking", "projection", "verification", "generic",
    "running", "background", "completed", "failed", "interrupted", "active", "waiting_user",
    "pausing", "paused", "cancelling", "cancelled", "needs_replan", "superseded",
    "high_risk_confirmation", "single_select", "multi_select", "calibration_preview", "low",
    "medium", "high"]

theorem plain_fixedTexts : ∀ s ∈ fixedTexts, Plain s := by
  decide +kernel

theorem plain_phase (p : Phase) : Plain p.text :=
  plain_fixedTexts _ (by cases p <;> simp [Phase.text, fixedTexts])

theorem plain_progressStatus (s : ProgressStatus) : Plain s.text :=
  plain_fixedTexts _ (by cases s <;> simp [ProgressStatus.text, fixedTexts])

theorem plain_actionStatus (s : ActionStatus) : Plain s.text :=
  plain_fixedTexts _ (by cases s <;> simp [ActionStatus.text, fixedTexts])

theorem plain_taskStatus (s : TaskStatus) : Plain s.text :=
  plain_fixedTexts _ (by cases s <;> simp [TaskStatus.text, fixedTexts])

theorem plain_interactionKind (k : InteractionKind) : Plain k.text :=
  plain_fixedTexts _ (by cases k <;> simp [InteractionKind.text, fixedTexts])

theorem plain_risk (r : Risk) : Plain r.text :=
  plain_fixedTexts _ (by cases r <;> simp [Risk.text, fixedTexts])

namespace EventBody

def countTexts (count : Option Count) : List String := (count.map Count.unit).toList

def optionTexts (o : InteractionOption) : List String :=
  o.optionId :: o.label :: o.description.toList

def texts : EventBody → List String
  | progressStart _ summary count => summary.toList ++ countTexts count
  | progressDelta _ summary count => summary :: countTexts count
  | progressEnd _ _ count => countTexts count
  | action _ actionRef d _ summary count =>
    ["action-" ++ toString actionRef, d.actionCode, d.displayName, d.group] ++ summary.toList ++
      countTexts count
  | interactionRequired r =>
    r.interactionRef :: r.title :: r.summary :: r.options.flatMap optionTexts ++
      r.expiresAt.toList
  | artifactReady artifactRef label mediaType => artifactRef :: label :: mediaType.toList
  | final text _ => [text]

end EventBody

def RefOk (taskRef : String) : Prop := LengthIn 8 200 (trim taskRef) ∧ IsRef (trim taskRef)

instance : DecidablePred RefOk := fun s =>
  inferInstanceAs (Decidable (LengthIn 8 200 (trim s) ∧ IsRef (trim s)))

section Payloads

variable {db : CharData}

@[simp] theorem check_str {s : String} : checkPayload db (.str s) = .ok () ↔ Safe db s :=
  raiseIf_eq_ok.trans (Bool.not_eq_true _).to_iff

@[simp] theorem check_int {n : ℤ} : checkPayload db (.int n) = .ok () := rfl

@[simp] theorem check_bool {b : Bool} : checkPayload db (.bool b) = .ok () := rfl

@[simp] theorem check_null : checkPayload db .null = .ok () := rfl

theorem checkItems_eq_ok {vs : List Json} :
    checkItems db vs = .ok () ↔ ∀ v ∈ vs, checkPayload db v = .ok () := by
  induction vs with
  | nil => exact iff_of_true rfl (List.forall_mem_nil _)
  | cons v vs ih =>
    rw [List.forall_mem_cons, ← ih]
    exact unit_bind_eq_ok

theorem checkEntries_eq_ok {es : Dict} :
    checkEntries db es = .ok () ↔ ∀ e ∈ es, checkPayload db e.2 = .ok () := by
  induction es with
  | nil => exact iff_of_true rfl (List.forall_mem_nil _)
  | cons e es ih =>
    rw [List.forall_mem_cons, ← ih]
    exact unit_bind_eq_ok

@[simp] theorem check_arr {vs : List Json} :
    checkPayload db (.arr vs) = .ok () ↔ ∀ v ∈ vs, checkPayload db v = .ok () :=
  checkItems_eq_ok

def publicKeys : List String :=
  ["phase", "status", "summary", "count", "done", "total", "unit", "action_ref", "action_code",
    "display_name", "group", "interaction_ref", "kind", "blocking", "risk", "title", "options",
    "option_id", "label", "destructive", "description", "interaction_revision",
    "expected_task_revision", "expires_at", "artifact_ref", "media_type", "text", "task_status"]

theorem not_forbidden_of_public : ∀ k ∈ publicKeys, k ∉ forbiddenPublicKeys := by
  decide +kernel

theorem check_obj {es : Dict} (hkeys : ∀ k ∈ es.map Prod.fst, k ∈ publicKeys) :
    checkPayload db (.obj es) = .ok () ↔ ∀ e ∈ es, checkPayload db e.2 = .ok () := by
  have hnone : ¬ ∃ k ∈ forbiddenPublicKeys, k ∈ es.map Prod.fst := by
    rintro ⟨k, hk, hmem⟩
    exact not_forbidden_of_public k (hkeys k hmem) hk
  refine unit_bind_eq_ok.trans ?_
  rw [raiseIf_eq_ok, checkEntries_eq_ok]
  exact and_iff_right hnone

theorem check_countEntry {count : Option Count} :
    (∀ e ∈ EventBody.countEntry count, checkPayload db e.2 = .ok ()) ↔
      ∀ t ∈ EventBody.countTexts count, Safe db t := by
  cases count with
  | none => simp [EventBody.countEntry, EventBody.countTexts]
  | some c =>
    have hkeys : ∀ k ∈ ([("done", .int c.done), ("total", .int c.total), ("unit", .str c.unit)] :
        Dict).map Prod.fst, k ∈ publicKeys := by
      simp [publicKeys]
    simp [EventBody.countEntry, EventBody.countTexts, check_obj hkeys]

theorem check_textEntry {key : String} {t : Option String} :
    (∀ e ∈ EventBody.textEntry key t, checkPayload db e.2 = .ok ()) ↔
      ∀ s ∈ t.toList, Safe db s := by
  cases t <;> simp [EventBody.textEntry]

theorem check_option {o : InteractionOption} :
    checkPayload db (EventBody.optionPayload o) = .ok () ↔
    ∀ t ∈ EventBody.optionTexts o, Safe db t := by
  have hkeys : ∀ k ∈ ([("option_id", Json.str o.optionId), ("label", Json.str o.label),
      ("destructive", Json.bool o.destructive)] ++
        EventBody.textEntry "description" o.description : Dict).map Prod.fst,
      k ∈ publicKeys := by
    cases o.description <;> simp [EventBody.textEntry, publicKeys]
  unfold EventBody.optionPayload
  rw [check_obj hkeys]
  simp only [List.forall_mem_append, check_textEntry, EventBody.optionTexts]
  simp [and_assoc]

theorem textEntry_keys {key : String} {t : Option String} (h : key ∈ publicKeys) :
    ∀ k ∈ (EventBody.textEntry key t).map Prod.fst, k ∈ publicKeys := by
  cases t with
  | none => simp [EventBody.textEntry]
  | some t => simpa [EventBody.textEntry] using h

theorem countEntry_keys {count : Option Count} :
    ∀ k ∈ (EventBody.countEntry count).map Prod.fst, k ∈ publicKeys := by
  cases count <;> simp [EventBody.countEntry, publicKeys]

theorem payload_keys (body : EventBody) : ∀ k ∈ body.payload.map Prod.fst, k ∈ publicKeys := by
  cases body with
  | progressStart phase summary count =>
    simp only [EventBody.payload, List.map_cons, List.map_append, List.forall_mem_cons,
      List.forall_mem_append, List.cons_append]
    exact ⟨by simp [publicKeys], textEntry_keys (by simp [publicKeys]), countEntry_keys⟩
  | progressDelta phase summary count =>
    simp only [EventBody.payload, List.map_cons, List.forall_mem_cons]
    exact ⟨by simp [publicKeys], by simp [publicKeys], countEntry_keys⟩
  | progressEnd phase status count =>
    simp only [EventBody.payload, List.map_cons, List.forall_mem_cons]
    exact ⟨by simp [publicKeys], by simp [publicKeys], countEntry_keys⟩
  | action operation actionRef d status summary count =>
    simp only [EventBody.payload, List.map_append, List.forall_mem_append]
    exact ⟨⟨by simp [publicKeys], textEntry_keys (by simp [publicKeys])⟩, countEntry_keys⟩
  | interactionRequired r => simp [EventBody.payload, publicKeys]
  | artifactReady artifactRef label mediaType =>
    simp only [EventBody.payload, List.map_append, List.forall_mem_append]
    exact ⟨by simp [publicKeys], textEntry_keys (by simp [publicKeys])⟩
  | final text status => simp [EventBody.payload, publicKeys]

theorem check_payload (body : EventBody) :
    checkPayload db (.obj body.payload) = .ok () ↔ ∀ t ∈ body.texts, Safe db t := by
  rw [check_obj (payload_keys body)]
  cases body with
  | progressStart phase summary count =>
    simp only [EventBody.payload, EventBody.texts, List.forall_mem_cons, List.forall_mem_append,
      check_textEntry, check_countEntry, check_str, List.cons_append,
      safe_of_plain (plain_phase phase), true_and]
  | progressDelta phase summary count =>
    simp only [EventBody.payload, EventBody.texts, List.forall_mem_cons, check_countEntry,
      check_str, safe_of_plain (plain_phase phase), true_and]
  | progressEnd phase status count =>
    simp only [EventBody.payload, EventBody.texts, List.forall_mem_cons, check_countEntry,
      check_str, safe_of_plain (plain_phase phase),
      safe_of_plain (plain_progressStatus status), true_and]
  | action operation actionRef d status summary count =>
    simp only [EventBody.payload, EventBody.texts, List.forall_mem_cons, List.forall_mem_append,
      check_textEntry, check_countEntry, check_str, List.not_mem_nil,
      safe_of_plain (plain_phase d.phase), safe_of_plain (plain_actionStatus status),
      IsEmpty.forall_iff, implies_true, and_true]
  | interactionRequired r =>
    have hexpires : checkPayload db ((r.expiresAt.map Json.str).getD .null) = .ok () ↔
        ∀ t ∈ r.expiresAt.toList, Safe db t := by
      cases r.expiresAt <;> simp
    simp only [EventBody.payload, EventBody.texts, List.forall_mem_cons, List.forall_mem_append,
      check_str, check_bool, check_int, check_arr, List.forall_mem_map, check_option, hexpires,
      safe_of_plain (plain_interactionKind r.interactionKind), safe_of_plain (plain_risk r.risk),
      List.forall_mem_flatMap, List.cons_append, List.not_mem_nil, true_and, IsEmpty.forall_iff,
      implies_true, and_true]
  | artifactReady artifactRef label mediaType =>
    simp only [EventBody.payload, EventBody.texts, List.forall_mem_cons, List.cons_append,
      List.nil_append, check_textEntry, check_str]
  | final text status =>
    simp only [EventBody.payload, EventBody.texts, List.forall_mem_cons, check_str,
      safe_of_plain (plain_taskStatus status), List.not_mem_nil, IsEmpty.forall_iff,
      implies_true, and_true]

theorem event_eq_ok {taskRef : String} {body : EventBody} {e : PublicEvent} :
    event db taskRef body = .ok e ↔
      RefOk taskRef ∧ (∀ t ∈ body.texts, Safe db t) ∧ e = ⟨trim taskRef, body⟩ := by
  unfold event require
  rw [unit_bind_eq_ok, raiseIf_eq_ok, not_not, unit_bind_eq_ok, check_payload]
  exact and_congr_right fun _ => and_congr_right fun _ =>
    ⟨fun h => (Except.ok.inj h).symm, fun h => congrArg _ h.symm⟩

end Payloads

end DataJuicer.PublicContract
