import DataJuicer.Lib.JsonStrings
import DataJuicer.Navigation.Consistency

/-! # Segment selections as sets

Normalising a selection leaves names that normalising leaves alone. The key under which a task
is stored tells two selections apart when one of them repeats a name, so a session can hold two
tasks for the same set of segments; the overlap of targets compares sets.
-/

namespace DataJuicer.Navigation

open PyStr Table Transaction

/-- An item that normalising keeps as it is. -/
structure IsName (s : PyStr) : Prop where
  ne_nil : s ≠ []
  stripped : strip s = s
  plain : decodeJsonStringList s = none

theorem isName_of_mem_normalizeItems {n : ℕ} {items : List PyStr} {s : PyStr}
    (h : s ∈ normalizeItems n items) : IsName s := by
  induction n generalizing items with
  | zero => cases h
  | succ n ih =>
    obtain ⟨item, _, h⟩ := List.mem_flatMap.1 h
    dsimp only at h
    split at h
    · cases h
    · rename_i hne
      split at h
      · exact ih h
      · rename_i hplain
        obtain rfl := List.mem_singleton.1 h
        exact ⟨hne, strip_strip item, hplain⟩

theorem normalizeItems_names {n : ℕ} {items : List PyStr} (h : ∀ s ∈ items, IsName s) :
    normalizeItems (n + 1) items = items := by
  induction items with
  | nil => rfl
  | cons s items ih =>
    have hs := h s List.mem_cons_self
    have htail := ih fun t ht => h t (List.mem_cons_of_mem s ht)
    unfold normalizeItems at htail ⊢
    rw [List.flatMap_cons, htail]
    simp [hs.stripped, hs.ne_nil, hs.plain]

theorem noneIfEmpty_eq_some {l r : List PyStr} : noneIfEmpty l = some r ↔ l = r ∧ r ≠ [] := by
  unfold noneIfEmpty
  split_ifs with h <;> grind

theorem names_of_normalizeSegments {a : SegmentsArg} {l : List PyStr}
    (h : normalizeSegments a = some l) : l ≠ [] ∧ ∀ s ∈ l, IsName s := by
  cases a with
  | none => cases h
  | text s =>
    simp only [normalizeSegments] at h
    split at h
    · cases h
    · rename_i hne
      split at h
      · obtain ⟨rfl, hl⟩ := noneIfEmpty_eq_some.1 h
        exact ⟨hl, fun s hs => isName_of_mem_normalizeItems hs⟩
      · rename_i hplain
        cases h
        refine ⟨List.cons_ne_nil _ _, fun t ht => ?_⟩
        obtain rfl := List.mem_singleton.1 ht
        exact ⟨hne, strip_strip s, hplain⟩
  | items items =>
    obtain ⟨rfl, hl⟩ := noneIfEmpty_eq_some.1 h
    exact ⟨hl, fun s hs => isName_of_mem_normalizeItems hs⟩

/-- Normalising twice is normalising once. -/
theorem normalizeSegments_stored (a : SegmentsArg) :
    normalizeSegments (storedArg (normalizeSegments a)) = normalizeSegments a := by
  cases ha : normalizeSegments a with
  | none => rfl
  | some l =>
    obtain ⟨hne, hnames⟩ := names_of_normalizeSegments ha
    have hsame : normalizeItems (nestingBound l) l = l := normalizeItems_names hnames
    simp only [storedArg, normalizeSegments, hsame]
    exact noneIfEmpty_eq_some.2 ⟨rfl, hne⟩

theorem segmentsKey_congr {a b : SegmentsArg} (h : normalizeSegments a = normalizeSegments b) :
    segmentsKey a = segmentsKey b := by
  unfold segmentsKey
  rw [h]

/-- Both selections are of everything, or they have the same set of names. -/
def SameSelection (a b : SegmentsArg) : Prop :=
  match normalizeSegments a, normalizeSegments b with
  | none, none => True
  | some l, some r => l ⊆ r ∧ r ⊆ l
  | _, _ => False

instance (a b : SegmentsArg) : Decidable (SameSelection a b) := by
  unfold SameSelection
  split <;> infer_instance

/-- If the two selections have the same set of names, they repeat each name equally often. -/
def EquallyOften (a b : SegmentsArg) : Prop :=
  SameSelection a b → ∀ l ∈ normalizeSegments a, ∀ r ∈ normalizeSegments b,
    ∀ s ∈ l, l.count s = r.count s

instance (a b : SegmentsArg) : Decidable (EquallyOften a b) := by
  unfold EquallyOften
  infer_instance

theorem segmentsKey_eq_iff {a b : SegmentsArg} : segmentsKey a = segmentsKey b ↔
    SameSelection a b ∧ ∀ l ∈ normalizeSegments a, ∀ r ∈ normalizeSegments b,
      ∀ s ∈ l, l.count s = r.count s := by
  unfold segmentsKey SameSelection
  cases normalizeSegments a with
  | none =>
    cases normalizeSegments b with
    | none => simp
    | some r => simpa using (encodeList_ne_ofString (sorted r)).symm
  | some l =>
    cases normalizeSegments b with
    | none => simpa using encodeList_ne_ofString (sorted l)
    | some r =>
      have hkey : encodeList (sorted l) = encodeList (sorted r) ↔ l.Perm r :=
        encodeList_injective.eq_iff.trans sorted_eq_iff
      simp only [hkey, Option.mem_some_iff, forall_eq']
      constructor
      · intro h
        exact ⟨⟨h.subset, h.symm.subset⟩, fun s _ => h.count_eq s⟩
      · rintro ⟨⟨_, hsub⟩, hcount⟩
        refine List.perm_iff_count.2 fun s => ?_
        by_cases hs : s ∈ l
        · exact hcount s hs
        · rw [List.count_eq_zero_of_not_mem hs,
            List.count_eq_zero_of_not_mem fun h => hs (hsub h)]

theorem segmentsKey_iff_same {a b : SegmentsArg} :
    (segmentsKey a = segmentsKey b ↔ SameSelection a b) ↔ EquallyOften a b := by
  rw [segmentsKey_eq_iff, and_iff_left_iff_imp]
  rfl

theorem SameSelection.lists {a b : SegmentsArg} (h : SameSelection a b) :
    (normalizeSegments a = none ∧ normalizeSegments b = none) ∨
      ∃ l r, normalizeSegments a = some l ∧ normalizeSegments b = some r ∧ l ⊆ r ∧ r ⊆ l := by
  unfold SameSelection at h
  split at h
  · rename_i ha hb
    exact .inl ⟨ha, hb⟩
  · rename_i l r ha hb
    exact .inr ⟨l, r, ha, hb, h⟩
  · exact h.elim

/-- The overlap of two targets is decided by the sets that they denote. -/
theorem navigationTargetsOverlap_congr {a b : SegmentsArg} (h : SameSelection a b) (d e : String)
    (c : SegmentsArg) : navigationTargetsOverlap d a e c = navigationTargetsOverlap d b e c := by
  rw [Bool.eq_iff_iff, navigationTargetsOverlap_iff, navigationTargetsOverlap_iff]
  rcases h.lists with ⟨ha, hb⟩ | ⟨l, r, ha, hb, hlr, hrl⟩
  · rw [ha, hb]
  · simp only [ha, hb, Option.some.injEq]
    constructor
    · rintro ⟨hd, hshare⟩
      refine ⟨hd, ?_⟩
      rintro _ m rfl hm
      obtain ⟨s, hs, hs'⟩ := hshare l m rfl hm
      exact ⟨s, hlr hs, hs'⟩
    · rintro ⟨hd, hshare⟩
      refine ⟨hd, ?_⟩
      rintro _ m rfl hm
      obtain ⟨s, hs, hs'⟩ := hshare r m rfl hm
      exact ⟨s, hrl hs, hs'⟩

theorem navigationTargetsOverlap_of_same {a b : SegmentsArg} (h : SameSelection a b) (d : String) :
    navigationTargetsOverlap d a d b = true := by
  rw [navigationTargetsOverlap_congr h, navigationTargetsOverlap_iff]
  refine ⟨rfl, fun l r hl hr => ?_⟩
  obtain rfl := Option.some_inj.1 (hl.symm.trans hr)
  obtain ⟨s, hs⟩ := List.exists_mem_of_ne_nil l (names_of_normalizeSegments hl).1
  exact ⟨s, hs, hs⟩

structure SelectionsKeyed (db : NavigationDb) : Prop where
  keyed : ∀ t ∈ db.tasks, t.segmentsKey = segmentsKey (storedArg t.segments)
  unique : ∀ t ∈ db.tasks, ∀ t' ∈ db.tasks, t.replayKey = t'.replayKey → t = t'

/-- The task is updated by this request, under the unique index on replays. -/
structure Rekeyed (db : NavigationDb) (op : Op) (t t' : TaskRow) : Prop where
  target : ∃ call expected changes, op = .updateTaskForSession call t.taskId expected changes
  keyed : t'.segmentsKey = segmentsKey (storedArg t'.segments)
  index : ∀ r ∈ db.tasks, r.taskId ≠ t.taskId → r.replayKey ≠ t'.replayKey

section Runs

variable {db db' : NavigationDb} {op : Op}

theorem TaskMove.rekeyed {t t' : TaskRow} (h : TaskMove db op t t') :
    t'.replayKey = t.replayKey ∧ t'.segments = t.segments ∨ Rekeyed db op t t' := by
  cases h with
  | triggered h => obtain ⟨n, rfl⟩ := h; exact .inl ⟨rfl, rfl⟩
  | written _ _ h | activated _ _ h | guided _ _ _ h => rw [h]; exact .inl ⟨rfl, rfl⟩
  | merged ht _ _ h hindex =>
    subst ht
    exact .inr ⟨⟨_, _, _, rfl⟩, by rw [h]; rfl, hindex⟩

theorem Rekeyed.taskId {t t' u u' : TaskRow} (h : Rekeyed db op t t') (h' : Rekeyed db op u u') :
    t.taskId = u.taskId := by
  obtain ⟨_, _, _, hop⟩ := h.target
  obtain ⟨_, _, _, hop'⟩ := h'.target
  rw [hop] at hop'
  injection hop'

theorem SelectionsKeyed.changed {tasks : Table TaskRow} (h : SelectionsKeyed db)
    (hrows : Rowwise (TaskMove db op) db.tasks tasks) (htasks : db'.tasks = tasks) :
    SelectionsKeyed db' := by
  subst htasks
  constructor
  · intro t' ht'
    obtain ⟨t, ht, hmove⟩ := hrows.exists_pre t' ht'
    rcases hmove.rekeyed with ⟨hkey, hsegments⟩ | hnew
    · have hcolumn : t'.segmentsKey = t.segmentsKey := congrArg (fun k => k.2.2.2.1) hkey
      rw [hcolumn, hsegments, h.keyed t ht]
    · exact hnew.keyed
  · intro t' ht' u' hu' heq
    obtain ⟨t, ht, htmove⟩ := hrows.exists_pre t' ht'
    obtain ⟨u, hu, humove⟩ := hrows.exists_pre u' hu'
    have hsame : t.taskId = u.taskId → t' = u' := fun hid =>
      eq_of_key ht' hu' (htmove.taskId.trans (hid.trans humove.taskId.symm))
    apply hsame
    by_contra hne
    rcases htmove.rekeyed with ⟨hkey, _⟩ | hnew
    · rcases humove.rekeyed with ⟨hkey', _⟩ | hnew'
      · have hold := h.unique t ht u hu (hkey.symm.trans (heq.trans hkey'))
        exact hne (congrArg TaskRow.taskId hold)
      · exact hnew'.index t ht hne (hkey.symm.trans heq)
    · rcases humove.rekeyed with ⟨hkey', _⟩ | hnew'
      · exact hnew.index u hu (Ne.symm hne) (hkey'.symm.trans heq.symm)
      · exact hne (hnew.taskId hnew')

/-- Rows are added or taken away, then triggers fire. -/
theorem SelectionsKeyed.regrouped {grown : Table TaskRow}
    (hkeyed : ∀ t ∈ grown, t.segmentsKey = segmentsKey (storedArg t.segments))
    (hunique : ∀ t ∈ grown, ∀ t' ∈ grown, t.replayKey = t'.replayKey → t = t')
    (hrows : Rowwise TaskRow.Bumped grown db'.tasks) : SelectionsKeyed db' := by
  constructor
  · intro t' ht'
    obtain ⟨t, ht, n, rfl⟩ := hrows.exists_pre t' ht'
    exact hkeyed t ht
  · intro t' ht' u' hu' heq
    obtain ⟨t, ht, n, rfl⟩ := hrows.exists_pre t' ht'
    obtain ⟨u, hu, m, rfl⟩ := hrows.exists_pre u' hu'
    obtain rfl := hunique t ht u hu heq
    exact eq_of_key ht' hu' rfl

theorem SelectionsKeyed.commit (h : SelectionsKeyed db) (hc : Commits db op db') :
    SelectionsKeyed db' := by
  obtain ⟨_, hmove⟩ := hc
  generalize htasks : db'.tasks = tasks at hmove
  cases hmove with
  | changed hrows => exact h.changed hrows htasks
  | created _ _ _ _ _ hgrown hrows hkey hindex =>
    refine .regrouped ?_ ?_ (htasks ▸ hrows)
    · intro r hr
      rcases (hgrown r).1 hr with hr | rfl
      · exact h.keyed r hr
      · exact hkey
    · intro r hr r' hr' heq
      rcases (hgrown r).1 hr with hr | rfl
      · rcases (hgrown r').1 hr' with hr' | rfl
        · exact h.unique r hr r' hr' heq
        · exact absurd heq (hindex r hr)
      · rcases (hgrown r').1 hr' with hr' | rfl
        · exact absurd heq.symm (hindex r' hr')
        · rfl
  | deleted _ _ _ hrest hrows =>
    refine .regrouped ?_ ?_ (htasks ▸ hrows)
    · exact fun r hr => h.keyed r ((hrest r).1 hr).1
    · exact fun r hr r' hr' => h.unique r ((hrest r).1 hr).1 r' ((hrest r').1 hr').1

theorem SelectionsKeyed.of_run {l : List (Transition NavigationDb Event)}
    (h : Run Step .initial l db) : SelectionsKeyed db := by
  have hstart : SelectionsKeyed .initial :=
    ⟨fun t ht => absurd ht (not_mem_empty t), fun t ht => absurd ht (not_mem_empty t)⟩
  refine h.keeps hstart fun x hx hpre => ?_
  exact (h.step_of_mem hx).of_commit hpre fun r hr => hpre.commit (perform_commits hr)

end Runs

structure TaskRow.SameTarget (t : TaskRow) (a : TaskAttempt) : Prop where
  web : t.createdByWebSessionId = stripText a.web
  agentscope : t.agentscopeSessionId = stripText a.agentscope
  date : t.date = a.date
  target : t.target = a.target

section Attempts

variable {db : NavigationDb} {now : Timestamp} {request : TaskAttempt}

theorem replayKey_eq_row_iff {t : TaskRow} (hkeyed :
    t.segmentsKey = segmentsKey (storedArg t.segments)) :
    t.replayKey = (request.row now).replayKey ↔ t.SameTarget request ∧
      segmentsKey (storedArg t.segments) = segmentsKey request.segments := by
  have hnormal : segmentsKey (storedArg (normalizeSegments request.segments)) =
      segmentsKey request.segments := segmentsKey_congr (normalizeSegments_stored _)
  simp only [TaskRow.replayKey, TaskAttempt.row, Prod.mk.injEq, hkeyed, hnormal]
  constructor
  · rintro ⟨hweb, hagentscope, hdate, hkey, htarget⟩
    exact ⟨⟨hweb, hagentscope, hdate, htarget⟩, hkey⟩
  · rintro ⟨⟨hweb, hagentscope, hdate, htarget⟩, hkey⟩
    exact ⟨hweb, hagentscope, hdate, hkey, htarget⟩

theorem createTaskAttempt_existing {t : TaskRow} (hweb : isBlank request.web = false)
    (hagentscope : isBlank request.agentscope = false) :
    createTaskAttempt now request db = .ok ((t, false), db) ↔
      db.tasks.rows.find? (fun t => t.replayKey = (request.row now).replayKey) = some t := by
  unfold createTaskAttempt
  simp only [hweb, hagentscope, raiseIf, Bool.false_eq_true, if_false]
  constructor
  · intro h
    obtain ⟨_, _, h⟩ := bind_eq_ok.1 h
    obtain ⟨_, _, h⟩ := bind_eq_ok.1 h
    split at h
    · rename_i found hfound
      cases h
      exact hfound
    · obtain ⟨_, _, h⟩ := bind_eq_ok.1 h
      obtain ⟨_, _, h⟩ := bind_eq_ok.1 h
      obtain ⟨_, _, h⟩ := bind_eq_ok.1 h
      split at h <;> cases h
  · intro h
    rw [h]
    rfl

theorem SelectionsKeyed.existing_iff (h : SelectionsKeyed db) (hweb : isBlank request.web = false)
    (hagentscope : isBlank request.agentscope = false) {t : TaskRow} :
    createTaskAttempt now request db = .ok ((t, false), db) ↔ t ∈ db.tasks ∧
      t.SameTarget request ∧
        segmentsKey (storedArg t.segments) = segmentsKey request.segments := by
  rw [createTaskAttempt_existing hweb hagentscope]
  constructor
  · intro hfind
    have ht : t ∈ db.tasks := List.mem_of_find?_eq_some hfind
    have hkey : t.replayKey = (request.row now).replayKey := by simpa using List.find?_some hfind
    exact ⟨ht, (replayKey_eq_row_iff (h.keyed t ht)).1 hkey⟩
  · rintro ⟨ht, hsame⟩
    have hkey : t.replayKey = (request.row now).replayKey :=
      (replayKey_eq_row_iff (h.keyed t ht)).2 hsame
    have hsome : (db.tasks.rows.find? fun t =>
        t.replayKey = (request.row now).replayKey).isSome = true := by
      rw [List.find?_isSome]
      exact ⟨t, ht, decide_eq_true hkey⟩
    obtain ⟨t', hfind⟩ := Option.isSome_iff_exists.1 hsome
    have ht' : t' ∈ db.tasks := List.mem_of_find?_eq_some hfind
    have hkey' : t'.replayKey = (request.row now).replayKey := by
      simpa using List.find?_some hfind
    rwa [h.unique t ht t' ht' (hkey.trans hkey'.symm)]

structure SelectionsDenoteSets (a b : SegmentsArg) (now : Timestamp) (request : TaskAttempt)
    (db : NavigationDb) : Prop where
  terminates : ∀ items n, nestingBound items ≤ n →
    normalizeItems n items = normalizeItems (nestingBound items) items
  recursive : ∀ items, normalizeSegments (.items items) =
    noneIfEmpty (items.flatMap fun item =>
      if PyStr.strip item = [] then []
      else match decodeJsonStringList (PyStr.strip item) with
        | some decoded => (normalizeSegments (.items decoded)).getD []
        | none => [PyStr.strip item])
  idempotent : normalizeSegments (storedArg (normalizeSegments a)) = normalizeSegments a
  key_iff : segmentsKey a = segmentsKey b ↔ SameSelection a b
  existing_iff : ∀ t, createTaskAttempt now request db = .ok ((t, false), db) ↔ t ∈ db.tasks ∧
    t.SameTarget request ∧ SameSelection (storedArg t.segments) request.segments
  overlap : SameSelection a b → ∀ d, navigationTargetsOverlap d a d b = true ∧
    ∀ e c, navigationTargetsOverlap d a e c = navigationTargetsOverlap d b e c

/--
In every database, selections denote sets exactly when no name is repeated more often in one
of two selections with the same set, be it the two given or the request and a stored task.
-/
theorem selections_denote_sets_iff {l : List (Transition NavigationDb Event)}
    (h : Run Step .initial l db) (hweb : isBlank request.web = false)
    (hagentscope : isBlank request.agentscope = false) (a b : SegmentsArg) (now : Timestamp) :
    SelectionsDenoteSets a b now request db ↔ EquallyOften a b ∧
      ∀ t ∈ db.tasks, t.SameTarget request →
        EquallyOften (storedArg t.segments) request.segments := by
  have hkeyed := SelectionsKeyed.of_run h
  constructor
  · intro hsets
    refine ⟨segmentsKey_iff_same.1 hsets.key_iff, fun t ht htarget => ?_⟩
    rw [← segmentsKey_iff_same]
    constructor
    · intro hkey
      exact ((hsets.existing_iff t).1
        ((hkeyed.existing_iff hweb hagentscope).2 ⟨ht, htarget, hkey⟩)).2.2
    · intro hsame
      exact ((hkeyed.existing_iff hweb hagentscope).1
        ((hsets.existing_iff t).2 ⟨ht, htarget, hsame⟩)).2.2
  · rintro ⟨hab, htasks⟩
    constructor
    · intro items n hn
      obtain ⟨k, rfl⟩ := Nat.exists_eq_add_of_le hn
      exact normalizeItems_eq (fun s hs => length_lt_nestingBound hs) k
    · exact normalizeSegments_items
    · exact normalizeSegments_stored a
    · exact segmentsKey_iff_same.2 hab
    · intro t
      rw [hkeyed.existing_iff hweb hagentscope]
      constructor
      · rintro ⟨ht, htarget, hkey⟩
        exact ⟨ht, htarget, (segmentsKey_iff_same.2 (htasks t ht htarget)).1 hkey⟩
      · rintro ⟨ht, htarget, hsame⟩
        exact ⟨ht, htarget, (segmentsKey_iff_same.2 (htasks t ht htarget)).2 hsame⟩
    · intro hsame d
      exact ⟨navigationTargetsOverlap_of_same hsame d, navigationTargetsOverlap_congr hsame d⟩

end Attempts

def onceNamed : TaskAttempt :=
  { Sample.attempt "a" "web-a" "agent-a" with segments := .items [ofString "seg"] }

def twiceNamed : TaskAttempt :=
  { Sample.attempt "b" "web-a" "agent-a" with segments := .items [ofString "seg", ofString "seg"] }

/-- The session has a task for one segment. -/
def onceNamedDb : NavigationDb := stores.final .initial [.createTaskAttempt 0 onceNamed]

/-- A request that names the same segment twice gets a second task. -/
theorem twiceNamed_creates_second :
    Run Step .initial (stores.serve .initial [.createTaskAttempt 0 onceNamed]) onceNamedDb ∧
      ¬ SelectionsDenoteSets onceNamed.segments twiceNamed.segments 1 twiceNamed onceNamedDb ∧
      ((createTaskAttempt 1 twiceNamed onceNamedDb).toOption.map fun r => r.1.2) = some true := by
  refine ⟨stores.serve_run _ _, ?_, by decide⟩
  intro h
  have hkey := h.key_iff.2 (by decide)
  exact absurd hkey (by decide)

/-- A request for the same two segments in another order and nested gets the existing task. -/
def nestedPair : TaskAttempt :=
  { Sample.attempt "b" "web-a" "agent-a" with segments := .text (ofString "[\"y\", \" x \"]") }

def listedPair : TaskAttempt :=
  { Sample.attempt "a" "web-a" "agent-a" with segments := .items [ofString "x", [], ofString "y"] }

def listedPairDb : NavigationDb := stores.final .initial [.createTaskAttempt 0 listedPair]

theorem nestedPair_denotes_set :
    SelectionsDenoteSets listedPair.segments nestedPair.segments 1 nestedPair listedPairDb := by
  refine (selections_denote_sets_iff (stores.serve_run .initial [.createTaskAttempt 0 listedPair])
    (by decide) (by decide) _ _ 1).2 ?_
  have htasks : ∀ t ∈ listedPairDb.tasks,
      EquallyOften (storedArg t.segments) nestedPair.segments := by decide
  exact ⟨by decide, fun t ht _ => htasks t ht⟩

end DataJuicer.Navigation
