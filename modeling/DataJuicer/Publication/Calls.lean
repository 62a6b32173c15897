import DataJuicer.Publication.Contract

/-! # The calls of a publisher

Each part of `publish` meets the contract of its run. Before the journal nothing of the run is
changed; from then on the journal is what was written last and what it says is so, which every
operation keeps.
-/

namespace DataJuicer.Publication

open Prog ArtifactTree

variable {Tree : Type}

def FileOp.Reads : FileOp → Prop
  | createJournalTemporary | writeJournalTemporary _ | replaceJournal | makeDateRoot _
  | makeDirectory _ _ | copyEntries _ _ | replaceEntry _ _ _ => False
  | _ => True

def OwnTemporary (start : World Tree) (request : PublicationRequest) (r : String)
    (date name : String) : Prop :=
  date = request.datasetDate ∧ ∃ i, name = temporaryName r i ∧ start.entry date name = none

/-- The operation replaces neither a journal nor a clip. -/
def FileOp.Plain (start : World Tree) (request : PublicationRequest) (r : String) : FileOp → Prop
  | replaceJournal | replaceEntry _ _ _ => False
  | makeDirectory date name | copyEntries date name => OwnTemporary start request r date name
  | _ => True

/-- What such an operation does. -/
structure PlainStep (start : World Tree) (request : PublicationRequest) (r : String)
    (w w' : World Tree) : Prop where
  journals : w'.journals = w.journals
  others : ∀ q, q ≠ r → w'.journalTemporaries q = w.journalTemporaries q
  entries : ∀ date name, w'.entry date name = w.entry date name ∨
    OwnTemporary start request r date name

section Parts

variable {start : World Tree} {request : PublicationRequest} {r : String} {w : World Tree}

theorem FileOp.Reads.plain {op : FileOp} (h : op.Reads) : op.Plain start request r := by
  cases op <;> first | exact h.elim | trivial

theorem PlainStep.refl (w : World Tree) : PlainStep start request r w w :=
  ⟨rfl, fun _ _ => rfl, fun _ _ => .inl rfl⟩

theorem PlainStep.setEntry {date name : String} {e : Option (Entry Tree)}
    (h : OwnTemporary start request r date name) :
    PlainStep start request r w (w.setEntry date name e) := by
  refine ⟨rfl, fun _ _ => rfl, fun d n => ?_⟩
  by_cases hname : d = date ∧ n = name
  · obtain ⟨rfl, rfl⟩ := hname
    exact .inr h
  · exact .inl (entry_setEntry_ne hname)

theorem PlainStep.journalTemporary (f : Option JournalFile) :
    PlainStep start request r w (w.setJournalTemporary r f) :=
  ⟨rfl, fun _ hq => Function.update_of_ne hq _ _, fun _ _ => .inl rfl⟩

theorem perform_allOps {Q : FileOp → Prop} {op : FileOp} (h : Q op) :
    (op.perform : PublishProg Tree (op.Answer Tree)).AllOps Q :=
  ⟨h, fun _ => trivial⟩

theorem expect_allOps {Q : FileOp → Prop} (b : Bool) (e : PublishError) :
    (expect b e : PublishProg Tree Unit).AllOps Q := by
  cases b <;> trivial

theorem entrySha256_reads (date name code : String) :
    (entrySha256 date name code : PublishProg Tree String).AllOps FileOp.Reads := by
  refine (perform_allOps trivial).bind fun a => ?_
  cases a <;> trivial

theorem candidateSha256_reads (root code : String) :
    (candidateSha256 root code : PublishProg Tree String).AllOps FileOp.Reads := by
  refine (perform_allOps trivial).bind fun a => ?_
  cases a <;> trivial

theorem targetMatches_reads (date : String) (item : PublicationItem) :
    (targetMatches date item : PublishProg Tree Bool).AllOps FileOp.Reads := by
  refine (perform_allOps trivial).bind fun a => ?_
  cases a with
  | true => exact (entrySha256_reads _ _ _).bind fun _ => trivial
  | false => trivial

theorem checkItems_reads (seen : List String) (items : List PublicationItem) :
    (checkItems seen items : PublishProg Tree Unit).AllOps FileOp.Reads := by
  induction items generalizing seen with
  | nil => trivial
  | cons item items ih =>
    refine (expect_allOps _ _).bind fun _ => (expect_allOps _ _).bind fun _ => ?_
    split_ifs
    · trivial
    · refine (perform_allOps trivial).bind fun _ => (expect_allOps _ _).bind fun _ => ?_
      refine (candidateSha256_reads _ _).bind fun _ => (expect_allOps _ _).bind fun _ => ?_
      exact ih _

theorem copyTree_plain {date name : String} (h : OwnTemporary start request r date name)
    (root : String) :
    (copyTree date name root : PublishProg Tree Unit).AllOps (FileOp.Plain start request r) := by
  have hmono : ∀ op : FileOp, op.Reads → op.Plain start request r := fun _ hop => hop.plain
  refine (perform_allOps trivial).bind fun _ => (expect_allOps _ _).bind fun _ => ?_
  refine (perform_allOps trivial).bind fun _ => (expect_allOps _ _).bind fun _ => ?_
  refine (perform_allOps h).bind fun _ => (expect_allOps _ _).bind fun _ => ?_
  refine (perform_allOps trivial).bind fun _ => (expect_allOps _ _).bind fun _ => ?_
  refine (perform_allOps h).bind fun _ => (expect_allOps _ _).bind fun _ => ?_
  refine ((candidateSha256_reads _ _).mono hmono).bind fun _ => ?_
  exact ((entrySha256_reads _ _ _).mono hmono).bind fun _ => expect_allOps _ _

theorem expect_bind_meets {α : Type} {C : Contract (World Tree) (FileOp.Answer Tree)}
    {P : World Tree → Prop}
    (hP : C.Stable P) {b : Bool} {e : PublishError}
    {f : Unit → PublishProg Tree α}
    {post : Except PublishError α → World Tree → Prop} (h : P w)
    (herror : ∀ w, P w → post (.error e) w) (hok : b = true → (f ()).Meets C post w) :
    ((expect b e).bind f).Meets C post w := by
  cases b with
  | true => exact hok rfl
  | false => exact meets_done hP h herror

theorem planItems_reads (date : String) (index : ℕ) (items : List PublicationItem) :
    (planItems r date index items : PublishProg Tree (List PlanRow)).AllOps FileOp.Reads := by
  induction items generalizing index with
  | nil => trivial
  | cons item items ih =>
    refine (perform_allOps (by trivial)).bind fun there => ?_
    cases there with
    | true =>
      refine (targetMatches_reads _ _).bind fun _ => (expect_allOps _ _).bind fun _ => ?_
      exact (ih _).bind fun _ => trivial
    | false =>
      refine (perform_allOps (by trivial)).bind fun there => ?_
      cases there with
      | true => trivial
      | false => exact (ih _).bind fun _ => trivial

theorem checkItems_returns (seen : List String) (items : List PublicationItem) :
    (checkItems seen items : PublishProg Tree Unit).Returns fun _ =>
      ∀ item ∈ items, clipName item.sourceClip = true := by
  induction items generalizing seen with
  | nil => exact fun _ _ _ hitem => nomatch hitem
  | cons item items ih =>
    unfold checkItems
    cases hclip : clipName item.sourceClip with
    | false => exact fun _ hres => nomatch hres
    | true =>
      refine Returns.bind (expect true _) fun _ => Returns.bind (expect _ _) fun _ => ?_
      split_ifs
      · exact fun _ hres => nomatch hres
      · refine Returns.bind (FileOp.perform _) fun _ => Returns.bind (expect _ _) fun _ => ?_
        refine Returns.bind (candidateSha256 _ _) fun _ => Returns.bind (expect _ _) fun _ => ?_
        exact (ih _).mono fun _ h => List.forall_mem_cons.2 ⟨hclip, h⟩

theorem recheckTargets_reads (date : String) (rows : List PlanRow) :
    (recheckTargets date rows : PublishProg Tree Unit).AllOps FileOp.Reads := by
  induction rows with
  | nil => trivial
  | cons row rows ih =>
    unfold recheckTargets
    split_ifs
    · exact (perform_allOps (by trivial)).bind fun _ => (expect_allOps _ _).bind fun _ => ih
    · exact ih

end Parts

variable [ArtifactTree Tree]

section PlainSteps

variable {start : World Tree} {request : PublicationRequest} {r : String} {w w' : World Tree}
  {op : FileOp} {a : op.Answer Tree}

theorem exec_reads (hop : op.Reads) (h : w.exec r op a = some w') : w' = w := by
  cases op with
  | journalExists | dateRootExists | dateRootRegular | entryExists | entryRegular
  | journalTemporaryExists => exact (Option.ite_some_none_eq_some.1 h).2.symm
  | entrySha256 date name =>
    cases a with
    | none => exact (Option.some.inj h).symm
    | some x => exact (Option.ite_some_none_eq_some.1 h).2.symm
  | ensureJournalRoot | finishRootRegular | candidateRegular | candidateSha256 | syncDirectory
  | setPrivateMode => exact (Option.some.inj h).symm
  | createJournalTemporary | writeJournalTemporary | replaceJournal | makeDateRoot | makeDirectory
  | copyEntries | replaceEntry => exact hop.elim

theorem exec_plain (hop : op.Plain start request r) (h : w.exec r op a = some w') :
    PlainStep start request r w w' := by
  by_cases hreads : op.Reads
  · rw [exec_reads hreads h]
    exact .refl w
  · cases op with
    | createJournalTemporary =>
      cases a with
      | false => exact Option.some.inj h ▸ .refl w
      | true => exact (Option.ite_some_none_eq_some.1 h).2 ▸ .journalTemporary _
    | writeJournalTemporary j =>
      cases a with
      | none => exact Option.some.inj h ▸ .refl w
      | some whole => exact Option.some.inj h ▸ .journalTemporary _
    | makeDateRoot date =>
      cases a with
      | false => exact Option.some.inj h ▸ .refl w
      | true =>
        obtain ⟨hjournals, htemporaries, hentries⟩ := makeDateRoot?_eq_some h
        exact ⟨hjournals, fun q _ => congrFun htemporaries q, fun _ _ => .inl (hentries _ _)⟩
    | makeDirectory date name =>
      cases a with
      | false => exact Option.some.inj h ▸ .refl w
      | true => exact (Option.ite_some_none_eq_some.1 h).2 ▸ .setEntry hop
    | copyEntries date name =>
      have hcopied : (if (w.entry date name).any Entry.isDirectory then
          some (w.setEntry date name (some (.directory a.1))) else some w) = some w' := h
      split_ifs at hcopied
      · exact Option.some.inj hcopied ▸ .setEntry hop
      · exact Option.some.inj hcopied ▸ .refl w
    | replaceJournal | replaceEntry => exact hop.elim
    | _ => exact absurd trivial hreads

theorem PlainStep.kept (h : PlainStep start request r w w') : Kept w w' := by
  intro date name e hname he _
  rcases h.entries date name with hsame | ⟨-, i, hi, -⟩
  · exact hsame.trans he
  · exact absurd ⟨r, i, hi⟩ hname

theorem PlainStep.guarantee (h : PlainStep start request r w w') (hstart : start.journals r = none)
    (hjournal : w.journals r ≠ none) : Guarantee start request r w w' := by
  refine ⟨fun q hq => ⟨congrFun h.journals q, h.others q hq⟩, fun date name => ?_,
    .inl (congrFun h.journals r)⟩
  refine (h.entries date name).imp_right fun hown => ?_
  obtain ⟨hdate, i, hi, hnone⟩ := hown
  exact ⟨hdate, hstart, hjournal, .inl ⟨i, hi, hnone⟩⟩

end PlainSteps

/-- The journal is what was written last, and what it says is so. -/
structure Opened (r : String) (request : PublicationRequest) (j : Journal) (w : World Tree) :
    Prop where
  holds : JournalHolds r request w j
  saved : ∃ f, w.journals r = some f ∧ Wrote j f

/-- Nothing of the run is changed. -/
structure Untouched (start : World Tree) (r : String) (w : World Tree) : Prop where
  journal : w.journals r = start.journals r
  temporaries : ∀ date i,
    w.entry date (temporaryName r i) = start.entry date (temporaryName r i)

section Programs

variable {start : World Tree} {request : PublicationRequest} {r : String} {w w' : World Tree}
  {j : Journal} {α β : Type}

theorem stable_journalHolds :
    (publicationContract start request r).Stable fun w => JournalHolds r request w j :=
  fun _ _ h hrely => h.kept hrely.kept

theorem stable_opened : (publicationContract start request r).Stable (Opened r request j) := by
  rintro w w' ⟨hholds, f, hf, hwrote⟩ hrely
  exact ⟨hholds.kept hrely.kept, f, hrely.journal.trans hf, hwrote⟩

theorem stable_untouched : (publicationContract start request r).Stable (Untouched start r) :=
  fun _ _ h hrely => ⟨hrely.journal.trans h.journal, fun date i =>
    (hrely.temporaries date i).trans (h.temporaries date i)⟩

theorem stable_settled {date clip expected : String} (hclip : clipName clip = true) :
    (publicationContract start request r).Stable fun w => Settled w date clip expected :=
  fun _ _ h hrely => h.kept hclip hrely.kept

theorem Opened.journal_ne_none (h : Opened r request j w) : w.journals r ≠ none := by
  obtain ⟨f, hf, -⟩ := h.saved
  rw [hf]
  exact Option.some_ne_none f

theorem Opened.plain (h : Opened r request j w) (hstep : PlainStep start request r w w') :
    Opened r request j w' := by
  obtain ⟨f, hf, hwrote⟩ := h.saved
  exact ⟨h.holds.kept hstep.kept, f, (congrFun hstep.journals r).trans hf, hwrote⟩

theorem reads_meets {P : World Tree → Prop} (hP : (publicationContract start request r).Stable P)
    {p : PublishProg Tree α} (hp : p.AllOps FileOp.Reads) (h : P w) :
    p.Meets (publicationContract start request r) (fun _ w => P w) w := by
  refine hp.keeps (fun op hop w a w' hw hexec => ?_) hP h
  obtain rfl := exec_reads hop hexec
  exact ⟨hw, .refl _⟩

theorem plain_meets (hstart : start.journals r = none) {p : PublishProg Tree α}
    (hp : p.AllOps (FileOp.Plain start request r)) (h : Opened r request j w) :
    p.Meets (publicationContract start request r) (fun _ w => Opened r request j w) w := by
  refine hp.keeps (fun op hop w a w' hw hexec => ?_) stable_opened h
  have hstep : PlainStep start request r w w' := exec_plain hop hexec
  exact ⟨hw.plain hstep, hstep.guarantee hstart hw.journal_ne_none⟩

/-- The rule of an operation that reads. -/
theorem read_meets {P : World Tree → Prop} (hP : (publicationContract start request r).Stable P)
    {op : FileOp} (hop : op.Reads) {next : op.Answer Tree → PublishProg Tree α}
    {post : Except PublishError α → World Tree → Prop} (h : P w)
    (hnext : ∀ w a, P w → w.exec r op a = some w →
      (next a).Meets (publicationContract start request r) post w) :
    (Prog.act op next).Meets (publicationContract start request r) post w := by
  refine meets_act hP h fun w a w' hw hexec => ?_
  obtain rfl : w' = w := exec_reads hop hexec
  exact ⟨.refl _, hnext _ a hw hexec⟩

/-- What is read of an entry stays so when the others keep it. -/
theorem entrySha256_meets {P : World Tree → Prop} {Q : String → World Tree → Prop}
    (hP : (publicationContract start request r).Stable P)
    (hQ : ∀ x, (publicationContract start request r).Stable (Q x)) {date name : String}
    (hread : ∀ w x, P w → (w.entry date name).bind Entry.sha256 = some x → Q x w)
    (code : String) (h : P w) :
    (entrySha256 date name code).Meets (publicationContract start request r)
      (fun res w => P w ∧ ∀ x, res = .ok x → Q x w) w := by
  refine read_meets hP (by trivial) h fun w a hw hexec => ?_
  cases a with
  | none => exact meets_done hP hw fun _ hw => ⟨hw, fun _ hres => nomatch hres⟩
  | some x =>
    have hx := hread w x hw (Option.ite_some_none_eq_some.1 hexec).1
    refine meets_done (hP.and (hQ x)) ⟨hw, hx⟩ fun _ hw => ⟨hw.1, fun y hres => ?_⟩
    obtain rfl := Except.ok.inj hres
    exact hw.2

theorem sha256_eq_some {e : Option (Entry Tree)} {x : String}
    (h : e.bind Entry.sha256 = some x) : ∃ t : Tree, e = some (.directory t) ∧
      sha256 t = some x := by
  obtain ⟨e, rfl, he⟩ := Option.bind_eq_some_iff.1 h
  cases e with
  | directory t => exact ⟨t, rfl, he⟩
  | other => cases he

theorem targetMatches_meets {P : World Tree → Prop}
    (hP : (publicationContract start request r).Stable P) {date : String} {item : PublicationItem}
    (hclip : clipName item.sourceClip = true) (h : P w) :
    (targetMatches date item).Meets (publicationContract start request r)
      (fun res w => P w ∧ (res = .ok true →
        Settled w date item.sourceClip item.expectedTreeSha256)) w := by
  refine read_meets hP (by trivial) h fun w a hw _ => ?_
  cases a with
  | false => exact meets_done hP hw fun _ hw => ⟨hw, fun hres => nomatch hres⟩
  | true =>
    refine (entrySha256_meets (Q := fun x w => Settled w date item.sourceClip x) hP
      (fun _ => stable_settled hclip) (fun _ _ _ hread _ => sha256_eq_some hread) _ hw).bind
      (fun x w hw => ?_) fun _ _ hw => ⟨hw.1, fun hres => nomatch hres⟩
    have hstable : (publicationContract start request r).Stable fun w =>
        Settled w date item.sourceClip x := stable_settled hclip
    refine meets_done (hP.and hstable) ⟨hw.1, hw.2 x rfl⟩
      fun w hw => ⟨hw.1, fun hres => ?_⟩
    have hx := of_decide_eq_true (Except.ok.inj hres)
    exact hx ▸ hw.2

end Programs
section Journals

variable {start : World Tree} {request : PublicationRequest} {r : String} {w w' : World Tree}
  {j : Journal}

theorem Guarantee.journalTemporary (f : Option JournalFile) :
    Guarantee start request r w (w.setJournalTemporary r f) :=
  ⟨fun _ hq => ⟨rfl, Function.update_of_ne hq _ _⟩, fun _ _ => .inl rfl, .inl rfl⟩

theorem Guarantee.replaceJournal {f : JournalFile} (hstart : start.journals r = none)
    (hwrote : Wrote j f) (h : JournalHolds r request w j) :
    Guarantee start request r w (w.replaceJournal r f) := by
  refine ⟨fun q hq => ⟨Function.update_of_ne hq _ _, Function.update_of_ne hq _ _⟩,
    fun _ _ => .inl rfl, .inr ⟨hstart, j, f, Function.update_self _ _ _, hwrote, ?_⟩⟩
  exact h.kept (.of_eq fun _ _ => rfl)

/-- The temporary file of a journal that holds was written. -/
def Drafted (r : String) (request : PublicationRequest) (j : Journal) (w : World Tree) : Prop :=
  JournalHolds r request w j ∧ ∃ f, w.journalTemporaries r = some f ∧ Wrote j f

theorem stable_drafted : (publicationContract start request r).Stable (Drafted r request j) := by
  rintro w w' ⟨hholds, f, hf, hwrote⟩ hrely
  exact ⟨hholds.kept hrely.kept, f, hrely.journalTemporary.trans hf, hwrote⟩

def JournalPost (r : String) (request : PublicationRequest) (j : Journal)
    (res : Except PublishError Unit) (w : World Tree) : Prop :=
  (∀ u, res = .ok u → Opened r request j w) ∧ ∀ e, res = .error e → e = .os ∨ e.IsRecovery

theorem journalPost_os (w : World Tree) :
    (Prog.raise .os : PublishProg Tree Unit).Meets (publicationContract start request r)
      (JournalPost r request j) w :=
  fun _ _ => ⟨fun _ hres => (nomatch hres), fun _ hres => .inl (Except.error.inj hres).symm⟩

theorem writeJournal_meets (hstart : start.journals r = none) (h : JournalHolds r request w j) :
    (writeJournal j).Meets (publicationContract start request r) (JournalPost r request j) w := by
  refine read_meets stable_journalHolds (by trivial) h fun w there hw _ => ?_
  cases there with
  | true =>
    exact fun _ _ => ⟨fun _ hres => (nomatch hres), fun _ hres =>
      .inr ⟨_, (Except.error.inj hres).symm⟩⟩
  | false =>
    refine meets_act stable_journalHolds hw fun w created w' hw hexec => ?_
    cases created with
    | false =>
      obtain rfl := Option.some.inj hexec
      exact ⟨.refl _, journalPost_os _⟩
    | true =>
      obtain ⟨-, rfl⟩ := Option.ite_some_none_eq_some.1 hexec
      have hcreated : JournalHolds r request (w.setJournalTemporary r (some .other)) j :=
        hw.kept (.of_eq fun _ _ => rfl)
      refine ⟨.journalTemporary _, meets_act stable_journalHolds hcreated
        fun w whole w' hw hexec => ?_⟩
      cases whole with
      | none =>
        obtain rfl := Option.some.inj hexec
        exact ⟨.refl _, journalPost_os _⟩
      | some whole =>
        obtain rfl := Option.some.inj hexec
        have hdraft : Drafted r request j
            (w.setJournalTemporary r (some (if whole then .written j else .other))) := by
          refine ⟨hw.kept (.of_eq fun _ _ => rfl), _, Function.update_self _ _ _, ?_⟩
          cases whole with
          | true => exact .inl rfl
          | false => exact .inr rfl
        refine ⟨.journalTemporary _, meets_act stable_drafted hdraft
          fun w replaced w' hw hexec => ?_⟩
        cases replaced with
        | false =>
          obtain rfl := Option.some.inj hexec
          exact ⟨.refl _, journalPost_os _⟩
        | true =>
          obtain ⟨hholds, f, hf, hwrote⟩ := hw
          obtain ⟨g, hg, rfl⟩ := Option.map_eq_some_iff.1 hexec
          obtain rfl := Option.some.inj (hg.symm.trans hf)
          have hopened : Opened r request j (w.replaceJournal r g) :=
            ⟨hholds.kept (.of_eq fun _ _ => rfl), g, Function.update_self _ _ _, hwrote⟩
          refine ⟨.replaceJournal hstart hwrote hholds, ?_⟩
          refine read_meets stable_opened (by trivial) hopened fun w synced hw _ => ?_
          cases synced with
          | false => exact journalPost_os _
          | true =>
            exact meets_done stable_opened hw
              fun _ hw => ⟨fun _ _ => hw, fun _ hres => nomatch hres⟩

end Journals

structure RowHolds (start : World Tree) (request : PublicationRequest) (r : String) (row : PlanRow)
    (w : World Tree) : Prop where
  settled : row.temporary = none →
    Settled w request.datasetDate row.item.sourceClip row.item.expectedTreeSha256
  own : ∀ t, row.temporary = some t → OwnTemporary start request r request.datasetDate t

section Plans

variable {start : World Tree} {request : PublicationRequest} {r : String} {w w' : World Tree}
  {j : Journal} {α : Type}

theorem stable_rows {rows : List PlanRow}
    (hclips : ∀ row ∈ rows, clipName row.item.sourceClip = true) :
    (publicationContract start request r).Stable fun w =>
      ∀ row ∈ rows, RowHolds start request r row w :=
  fun _ _ h hrely row hrow => ⟨fun hnone => ((h row hrow).settled hnone).kept (hclips row hrow)
    hrely.kept, (h row hrow).own⟩

def Planned (start : World Tree) (request : PublicationRequest) (r : String)
    (items : List PublicationItem) (res : Except PublishError (List PlanRow)) (w : World Tree) :
    Prop :=
  Untouched start r w ∧ ∀ rows, res = .ok rows →
    rows.map PlanRow.item = items ∧ ∀ row ∈ rows, RowHolds start request r row w

theorem planned_cons {items : List PublicationItem} (row : PlanRow)
    (hclips : ∀ item ∈ row.item :: items, clipName item.sourceClip = true) {index : ℕ}
    (hrow : RowHolds start request r row w)
    (h : (planItems r request.datasetDate index items).Meets (publicationContract start request r)
      (Planned start request r items) w) :
    ((planItems r request.datasetDate index items).bind fun rows => pure (row :: rows)).Meets
      (publicationContract start request r) (Planned start request r (row.item :: items)) w := by
  have hstable : (publicationContract start request r).Stable (RowHolds start request r row) :=
    fun _ _ h hrely => ⟨fun hnone => (h.settled hnone).kept
      (hclips _ List.mem_cons_self) hrely.kept,
      h.own⟩
  have hframed := h.frame (planItems_reads _ _ _) (fun op hop w a w' hw hexec => by
    obtain rfl : w' = w := exec_reads hop hexec
    exact hw) hstable hrow
  refine hframed.bind (fun rows w hw => ?_) fun _ _ hw => ⟨hw.1.1, fun _ hres => nomatch hres⟩
  obtain ⟨⟨huntouched, hplanned⟩, hrow⟩ := hw
  obtain ⟨hitems, hrows⟩ := hplanned rows rfl
  have hall : ∀ row' ∈ row :: rows, clipName row'.item.sourceClip = true := by
    intro row' hrow'
    refine hclips _ ?_
    rw [← hitems]
    exact List.mem_map_of_mem (f := PlanRow.item) hrow'
  refine meets_done (stable_untouched.and (stable_rows hall)) ⟨huntouched, ?_⟩ fun w hw =>
    ⟨hw.1, fun rows' hres => ?_⟩
  · exact List.forall_mem_cons.2 ⟨hrow, hrows⟩
  · obtain rfl := Except.ok.inj hres
    exact ⟨by rw [List.map_cons, hitems], hw.2⟩

theorem planItems_meets {items : List PublicationItem} {index : ℕ}
    (hclips : ∀ item ∈ items, clipName item.sourceClip = true) (h : Untouched start r w) :
    (planItems r request.datasetDate index items).Meets (publicationContract start request r)
      (Planned start request r items) w := by
  induction items generalizing index w with
  | nil =>
    refine meets_done stable_untouched h fun w hw => ⟨hw, fun rows hres => ?_⟩
    obtain rfl := Except.ok.inj hres
    exact ⟨rfl, fun row hrow => nomatch hrow⟩
  | cons item items ih =>
    obtain ⟨hclip, hrest⟩ := List.forall_mem_cons.1 hclips
    have herror : ∀ e w, Untouched start r w →
        Planned start request r (item :: items) (.error e) w :=
      fun _ _ hw => ⟨hw, fun _ hres => nomatch hres⟩
    refine read_meets stable_untouched (by trivial) h fun w there hw _ => ?_
    cases there with
    | true =>
      refine (targetMatches_meets stable_untouched hclip hw).bind (fun same w hw => ?_)
        fun e w hw => herror e w hw.1
      refine expect_bind_meets stable_untouched hw.1 (herror _) fun hsame => ?_
      have hsettled := hw.2 (congrArg Except.ok hsame)
      exact planned_cons ⟨item, none⟩ hclips ⟨fun _ => hsettled, fun _ ht => nomatch ht⟩
        (ih hrest hw.1)
    | false =>
      refine read_meets stable_untouched (by trivial) hw fun w there hw hexec => ?_
      cases there with
      | true => exact meets_done stable_untouched hw (herror _)
      | false =>
        have hnone : w.entry request.datasetDate (temporaryName r index) = none := by
          have hread := (Option.ite_some_none_eq_some.1 hexec).1
          cases hentry : w.entry request.datasetDate (temporaryName r index) with
          | none => rfl
          | some x =>
            rw [hentry] at hread
            cases hread
        have hown : OwnTemporary start request r request.datasetDate (temporaryName r index) :=
          ⟨rfl, index, rfl, (hw.temporaries _ _).symm.trans hnone⟩
        refine planned_cons ⟨item, some (temporaryName r index)⟩ hclips
          ⟨fun hnone => (nomatch hnone), fun t ht => ?_⟩ (ih hrest hw)
        obtain rfl := Option.some.inj ht
        exact hown

/-- What `publish` knows before it writes its journal. -/
def Prepared (start : World Tree) (request : PublicationRequest) (r : String)
    (res : Except PublishError (Bool × List PlanRow)) (w : World Tree) : Prop :=
  Untouched start r w ∧ ∀ plan, res = .ok plan → start.journals r = none ∧ request.items ≠ [] ∧
    (∀ item ∈ request.items, clipName item.sourceClip = true) ∧
    plan.2.map PlanRow.item = request.items ∧ ∀ row ∈ plan.2, RowHolds start request r row w

end Plans

section Prepare

variable {start : World Tree} {request : PublicationRequest} {r : String} {w w' : World Tree}

theorem prepare_meets (h : Untouched start r w) :
    (prepare r request).Meets (publicationContract start request r)
      (Prepared start request r) w := by
  have herror : ∀ e w, Untouched start r w → Prepared start request r (.error e) w :=
    fun _ _ hw => ⟨hw, fun _ hres => nomatch hres⟩
  refine expect_bind_meets stable_untouched h (herror _) fun _ => ?_
  refine expect_bind_meets stable_untouched h (herror _) fun _ => ?_
  refine expect_bind_meets stable_untouched h (herror _) fun _ => ?_
  refine expect_bind_meets stable_untouched h (herror _) fun hitems => ?_
  have hsome : request.items ≠ [] := by
    intro hnil
    rw [hnil] at hitems
    cases hitems
  refine read_meets stable_untouched (by trivial) h fun w _ hw _ => ?_
  refine expect_bind_meets stable_untouched hw (herror _) fun _ => ?_
  refine read_meets stable_untouched (by trivial) hw fun w there hw hexec => ?_
  refine expect_bind_meets stable_untouched hw (herror _) fun hthere => ?_
  have hstart : start.journals r = none := by
    have hread := (Option.ite_some_none_eq_some.1 hexec).1
    rw [← hw.journal]
    cases hjournal : w.journals r with
    | none => rfl
    | some f =>
      rw [hread, hjournal] at hthere
      cases hthere
  refine read_meets stable_untouched (by trivial) hw fun w _ hw _ => ?_
  refine expect_bind_meets stable_untouched hw (herror _) fun _ => ?_
  refine read_meets stable_untouched (by trivial) hw fun w dateRootExists hw _ => ?_
  -- The rest is the same whether the date root was there.
  have hrest : ∀ {w : World Tree}, Untouched start r w →
      ((checkItems [] request.items).bind fun _ =>
        (planItems r request.datasetDate 0 request.items).bind fun rows =>
          (pure (!dateRootExists, rows) : PublishProg Tree (Bool × List PlanRow))).Meets
        (publicationContract start request r) (Prepared start request r) w := by
    intro w hw
    refine ((reads_meets stable_untouched (checkItems_reads _ _) hw).returns
      (checkItems_returns _ _)).bind (fun _ w hw => ?_) fun e w hw => herror e w hw.1
    obtain ⟨hw, hclips⟩ := hw
    have hclips := hclips _ rfl
    refine (planItems_meets hclips hw).bind (fun rows w hw => ?_) fun e w hw => herror e w hw.1
    obtain ⟨hw, hplanned⟩ := hw
    obtain ⟨hmap, hrows⟩ := hplanned rows rfl
    have hall : ∀ row ∈ rows, clipName row.item.sourceClip = true := by
      intro row hrow
      refine hclips _ ?_
      rw [← hmap]
      exact List.mem_map_of_mem hrow
    refine meets_done (stable_untouched.and (stable_rows hall)) ⟨hw, hrows⟩ fun w hw =>
      ⟨hw.1, fun plan hres => ?_⟩
    obtain rfl := Except.ok.inj hres
    exact ⟨hstart, hsome, hclips, hmap, hw.2⟩
  refine read_meets stable_untouched (by trivial) hw fun w there hw _ => ?_
  cases there with
  | false => exact hrest hw
  | true =>
    refine read_meets stable_untouched (by trivial) hw fun w regular hw _ => ?_
    exact expect_bind_meets stable_untouched hw (herror _) fun _ => hrest hw

end Prepare

section Commit

variable {start : World Tree} {request : PublicationRequest} {r : String} {w w' : World Tree}
  {j : Journal}

def Copied (request : PublicationRequest) (temporary expected : String) (w : World Tree) : Prop :=
  ∃ t : Tree, w.entry request.datasetDate temporary = some (.directory t) ∧
    sha256 t = some expected

theorem stable_copied {temporary : String} (hown : OwnTemporary start request r request.datasetDate
    temporary) (expected : String) :
    (publicationContract start request r).Stable (Copied request temporary expected) := by
  obtain ⟨-, i, rfl, -⟩ := hown
  rintro w w' ⟨t, ht, hexpected⟩ hrely
  exact ⟨t, (hrely.temporaries _ _).trans ht, hexpected⟩

theorem stageItems_meets (hstart : start.journals r = none) {rows : List PlanRow} {index : ℕ}
    (hrows : ∀ row ∈ rows, ∀ t, row.temporary = some t →
      OwnTemporary start request r request.datasetDate t) (h : Opened r request j w) :
    (stageItems request.datasetDate index rows j).Meets (publicationContract start request r)
      (fun res w => ∀ j', res = .ok j' → Opened r request j' w) w := by
  induction rows generalizing index j w with
  | nil =>
    refine meets_done stable_opened h fun w hw j' hres => ?_
    obtain rfl := Except.ok.inj hres
    exact hw
  | cons row rows ih =>
    obtain ⟨hrow, hrest⟩ := List.forall_mem_cons.1 hrows
    obtain ⟨item, temporary⟩ := row
    cases temporary with
    | none => exact ih hrest h
    | some temporary =>
      have hown := hrow temporary rfl
      refine (plain_meets hstart (copyTree_plain hown _) h).bind (fun _ w hw => ?_)
        fun _ _ _ _ hres => nomatch hres
      refine (reads_meets stable_opened (entrySha256_reads _ _ _) hw).bind (fun _ w hw => ?_)
        fun _ _ _ _ hres => nomatch hres
      refine expect_bind_meets stable_opened hw (fun _ _ _ hres => nomatch hres) fun _ => ?_
      refine (writeJournal_meets hstart (hw.holds.stage index)).bind (fun u w hw => ?_)
        fun _ _ _ _ hres => nomatch hres
      exact ih hrest (hw.1 u rfl)

/-- The rename of a copy over a target that is missing or empty. -/
theorem replaceEntry_guarantee {item : PublicationItem} {temporary : String}
    (hstart : start.journals r = none) (hitem : item ∈ request.items)
    (hclip : clipName item.sourceClip = true)
    (hown : OwnTemporary start request r request.datasetDate temporary)
    (hjournal : w.journals r ≠ none) (hcopied : Copied request temporary item.expectedTreeSha256 w)
    (hexec : w.exec r (.replaceEntry request.datasetDate temporary item.sourceClip)
      true = some w') :
    w'.journals = w.journals ∧ Guarantee start request r w w' := by
  obtain ⟨t, ht, hexpected⟩ := hcopied
  obtain ⟨-, i, rfl, hnone⟩ := hown
  have hne : item.sourceClip ≠ temporaryName r i := fun he =>
    not_isTemporary hclip ⟨r, i, he⟩
  simp only [World.exec, ht] at hexec
  obtain ⟨hreplaces, rfl⟩ := Option.ite_some_none_eq_some.1 hexec
  refine ⟨rfl, fun _ _ => ⟨rfl, rfl⟩, fun d n => ?_, .inl rfl⟩
  by_cases htarget : d = request.datasetDate ∧ n = item.sourceClip
  · obtain ⟨rfl, rfl⟩ := htarget
    refine .inr ⟨rfl, hstart, hjournal, .inr ⟨item, hitem, rfl, hclip, fun e he => ?_, t, ?_,
      hexpected⟩⟩
    · rw [he] at hreplaces
      intro hlasting
      exact Bool.false_ne_true (hlasting.symm.trans hreplaces)
    · refine entry_setEntry_self ?_
      rw [isDirectory_setEntry]
      exact isDirectory_of_entry ht
  · by_cases hsource : d = request.datasetDate ∧ n = temporaryName r i
    · obtain ⟨rfl, rfl⟩ := hsource
      exact .inr ⟨rfl, hstart, hjournal, .inl ⟨i, rfl, hnone⟩⟩
    · exact .inl ((entry_setEntry_ne htarget).trans (entry_setEntry_ne hsource))

theorem commitRow_meets (hstart : start.journals r = none) {row : PlanRow}
    (hitem : row.item ∈ request.items)
    (hown : ∀ t, row.temporary = some t → OwnTemporary start request r request.datasetDate t)
    (h : Opened r request j w) :
    (commitRow request.datasetDate row).Meets (publicationContract start request r)
      (fun _ w => Opened r request j w) w := by
  have hclip := h.holds.clips _ hitem
  obtain ⟨item, temporary⟩ := row
  cases temporary with
  | none =>
    exact reads_meets stable_opened ((targetMatches_reads _ _).bind fun _ => expect_allOps _ _) h
  | some temporary =>
    have hown := hown temporary rfl
    have hcopied := stable_copied hown
    refine read_meets stable_opened (by trivial) h fun w there hw _ => ?_
    refine expect_bind_meets stable_opened hw (fun _ hw => hw) fun _ => ?_
    refine (entrySha256_meets (Q := Copied request temporary) stable_opened hcopied
      (fun _ _ _ hread => sha256_eq_some hread) _ hw).bind (fun x w hw => ?_) fun _ _ hw => hw.1
    refine expect_bind_meets stable_opened hw.1 (fun _ hw => hw) fun hx => ?_
    obtain rfl : x = item.expectedTreeSha256 := of_decide_eq_true hx
    refine meets_act (stable_opened.and (hcopied _)) ⟨hw.1, hw.2 _ rfl⟩
      fun w replaced w' hw hexec => ?_
    cases replaced with
    | false =>
      obtain rfl := Option.some.inj hexec
      exact ⟨.refl _, meets_done stable_opened hw.1 fun _ hw => hw⟩
    | true =>
      obtain ⟨hjournals, hguarantee⟩ := replaceEntry_guarantee hstart hitem hclip hown
        hw.1.journal_ne_none hw.2 hexec
      obtain ⟨f, hf, hwrote⟩ := hw.1.saved
      have hopened : Opened r request j w' :=
        ⟨hw.1.holds.kept hguarantee.kept, f, (congrFun hjournals r).trans hf, hwrote⟩
      refine ⟨hguarantee, ?_⟩
      refine read_meets stable_opened (by trivial) hopened fun w synced hw _ => ?_
      exact reads_meets stable_opened (expect_allOps _ _) hw

theorem JournalHolds.length (h : JournalHolds r request w j) :
    j.items.length = request.items.length := by
  have hlengths := congrArg List.length h.items
  rwa [List.length_map, List.length_map] at hlengths

/-- The journal and the clips after a prefix of the rows. -/
structure CommittedUpTo (request : PublicationRequest) (index : ℕ) (j : Journal)
    (committed : List String) : Prop where
  clips : committed = (request.items.take index).map PublicationItem.sourceClip
  items : ∀ k < index, ∀ it, j.items[k]? = some it → it.state = .committed
  last : index = request.items.length → index ≠ 0 → j.state = .committed

theorem CommittedUpTo.next {index : ℕ} {committed : List String} {item : PublicationItem}
    (h : CommittedUpTo request index j committed) (hitem : request.items[index]? = some item)
    (hclips : committed.length = index) :
    CommittedUpTo request (index + 1) (j.setItem index .committed
      (if (committed ++ [item.sourceClip]).length = request.items.length then .committed
        else .committing)) (committed ++ [item.sourceClip]) := by
  refine ⟨?_, fun k hk it hit => ?_, fun hlast _ => ?_⟩
  · rw [List.take_add_one, hitem, h.clips]
    simp
  · have hget := hit
    simp only [Journal.setItem, List.getElem?_modify] at hget
    obtain ⟨it₀, h₀, rfl⟩ := Option.map_eq_some_iff.1 hget
    by_cases hindex : index = k
    · rw [if_pos hindex]
      rfl
    · rw [if_neg hindex]
      exact h.items k (by omega) it₀ h₀
  · refine if_pos ?_
    rw [List.length_append, hclips]
    exact hlast

/-- What `publish` returns. -/
def CommittedAll (request : PublicationRequest) (r : String)
    (res : Except PublishError (List String)) (w : World Tree) : Prop :=
  ∀ clips, res = .ok clips → clips = request.items.map PublicationItem.sourceClip ∧
    ∃ j, Opened r request j w ∧ j.state = .committed

theorem commitItems_meets (hstart : start.journals r = none) (hsome : request.items ≠ [])
    {rows : List PlanRow} {index : ℕ} {committed : List String}
    (hitems : request.items.drop index = rows.map PlanRow.item)
    (hrows : ∀ row ∈ rows, ∀ t, row.temporary = some t →
      OwnTemporary start request r request.datasetDate t)
    (hcommitted : CommittedUpTo request index j committed) (hindex : index ≤ request.items.length)
    (h : Opened r request j w) :
    (commitItems request.datasetDate request.items.length index rows j committed).Meets
      (publicationContract start request r) (CommittedAll request r) w := by
  induction rows generalizing index j committed w with
  | nil =>
    have hlength : request.items.length ≤ index := List.drop_eq_nil_iff.1 hitems
    refine meets_done stable_opened h fun w hw clips hres => ?_
    obtain rfl := Except.ok.inj hres
    refine ⟨?_, j, hw, hcommitted.last (Nat.le_antisymm hindex hlength) ?_⟩
    · rw [hcommitted.clips, List.take_of_length_le hlength]
    · rintro rfl
      exact hsome (List.length_eq_zero_iff.1 (Nat.le_zero.1 hlength))
  | cons row rows ih =>
    obtain ⟨hrow, hrest⟩ := List.forall_mem_cons.1 hrows
    have hget : request.items[index]? = some row.item := by
      have hhead := congrArg (fun l => l[0]?) hitems
      simpa using hhead
    have hlt : index < request.items.length := (List.getElem?_eq_some_iff.1 hget).1
    have hdrop : request.items.drop (index + 1) = rows.map PlanRow.item := by
      rw [← List.tail_drop, hitems]
      rfl
    have hmem : row.item ∈ request.items := List.mem_of_getElem? hget
    have hlength : committed.length = index := by
      rw [hcommitted.clips, List.length_map, List.length_take]
      omega
    have herror : ∀ e (w : World Tree), CommittedAll request r (.error e) w :=
      fun _ _ _ hres => nomatch hres
    refine (commitRow_meets hstart hmem hrow h).bind (fun _ w hw => ?_) fun e w _ => herror e w
    refine (targetMatches_meets stable_opened (hw.holds.clips _ hmem) hw).bind
      (fun same w hw => ?_) fun e w _ => herror e w
    refine expect_bind_meets (P := fun _ => True) (fun _ _ _ _ => trivial) trivial
      (fun w _ => herror _ w) fun hsame => ?_
    have hsettled := hw.2 (congrArg Except.ok hsame)
    have hnext := hcommitted.next hget hlength
    have hholds := hw.1.holds.commit (if (committed ++ [row.item.sourceClip]).length =
      request.items.length then .committed else .committing) hget hsettled
      fun hlast k hk it hit => by
        have hklength := (List.getElem?_eq_some_iff.1 hit).1
        rw [hw.1.holds.length] at hklength
        have htotal : (committed ++ [row.item.sourceClip]).length = request.items.length := by
          by_contra hnot
          rw [if_neg hnot] at hlast
          cases hlast
        rw [List.length_append, hlength] at htotal
        have hklt : k < index := by
          simp only [List.length_singleton] at htotal
          omega
        exact hcommitted.items k hklt it hit
    refine (writeJournal_meets hstart hholds).bind (fun u w hw => ?_) fun e w _ => herror e w
    exact ih hdrop hrest hnext hlt (hw.1 u rfl)

theorem commitPlan_meets (hstart : start.journals r = none) (hsome : request.items ≠ [])
    {rows : List PlanRow} (hitems : rows.map PlanRow.item = request.items)
    (hrows : ∀ row ∈ rows, ∀ t, row.temporary = some t →
      OwnTemporary start request r request.datasetDate t) (missing : Bool)
    (h : Opened r request j w) :
    (commitPlan request.datasetDate missing rows j).Meets (publicationContract start request r)
      (CommittedAll request r) w := by
  have herror : ∀ e (w : World Tree), CommittedAll request r (.error e) w :=
    fun _ _ _ hres => nomatch hres
  have hlength : rows.length = request.items.length := by
    rw [← hitems, List.length_map]
  have hrest : ∀ {w : World Tree}, Opened r request j w →
      ((stageItems request.datasetDate 0 rows j).bind fun j =>
        (recheckTargets request.datasetDate rows).bind fun _ =>
          commitItems request.datasetDate rows.length 0 rows j []).Meets
        (publicationContract start request r) (CommittedAll request r) w := by
    intro w hw
    refine (stageItems_meets hstart hrows hw).bind (fun j w hw => ?_) fun e w _ => herror e w
    refine (reads_meets stable_opened (recheckTargets_reads _ _) (hw j rfl)).bind
      (fun _ w hw => ?_) fun e w _ => herror e w
    rw [hlength]
    refine commitItems_meets hstart hsome hitems.symm hrows ⟨rfl, ?_, ?_⟩ (Nat.zero_le _) hw
    · exact fun k hk => absurd hk (Nat.not_lt_zero k)
    · exact fun _ hne => absurd rfl hne
  cases missing with
  | false => exact hrest h
  | true =>
    refine meets_act stable_opened h fun w made w' hw hexec => ?_
    have hstep : PlainStep start request r w w' := exec_plain (by trivial) hexec
    refine ⟨hstep.guarantee hstart hw.journal_ne_none, ?_⟩
    refine expect_bind_meets stable_opened (hw.plain hstep) (fun w _ => herror _ w) fun _ => ?_
    refine read_meets stable_opened (by trivial) (hw.plain hstep) fun w synced hw _ => ?_
    exact expect_bind_meets stable_opened hw (fun w _ => herror _ w) fun _ => hrest hw

theorem intentJournal_holds {rows : List PlanRow}
    (hclips : ∀ item ∈ request.items, clipName item.sourceClip = true)
    (hitems : rows.map PlanRow.item = request.items)
    (hrows : ∀ row ∈ rows, RowHolds start request r row w) :
    JournalHolds r request w (intentJournal r request rows) := by
  refine ⟨⟨rfl, rfl, rfl⟩, ?_, hclips, fun it hit hst => ?_, ?_⟩
  · rw [← hitems]
    simp [intentJournal]
  · obtain ⟨row, hrow, rfl⟩ := List.mem_map.1 hit
    cases htemporary : row.temporary with
    | none => exact (hrows row hrow).settled htemporary
    | some t =>
      rw [htemporary] at hst
      rcases hst with hst | hst <;> cases hst
  · intro hst
    cases hst

theorem recovering_isRecovery (e : PublishError) : (recovering e).IsRecovery := by
  unfold recovering
  split_ifs with h
  · exact h
  · exact ⟨_, rfl⟩

def PublishPost (start : World Tree) (request : PublicationRequest) (r : String)
    (res : Except PublishError (List String)) (w : World Tree) : Prop :=
  CommittedAll request r res w ∧ ∀ e, res = .error e →
    e = .os ∨ e.IsRecovery ∨ w.journals r = start.journals r

theorem publish_meets (request : PublicationRequest) (r : String) (h : Untouched start r w) :
    (publish r request).Meets (publicationContract start request r)
      (PublishPost start request r) w := by
  refine (prepare_meets h).bind (fun plan w hw => ?_) fun e w hw =>
    ⟨fun _ hres => (nomatch hres), fun _ _ => .inr (.inr hw.1.journal)⟩
  obtain ⟨hstart, hsome, hclips, hitems, hrows⟩ := hw.2 plan rfl
  refine (writeJournal_meets hstart (intentJournal_holds hclips hitems hrows)).bind
    (fun u w hw => ?_) fun e w hw => ⟨fun _ hres => (nomatch hres), fun e' he => ?_⟩
  · refine (commitPlan_meets hstart hsome hitems (fun row hrow => (hrows row hrow).own) plan.1
      (hw.1 u rfl)).attempt_bind fun res w hw => ?_
    cases res with
    | error e =>
      refine fun _ _ => ⟨fun _ hres => (nomatch hres), fun e' he => ?_⟩
      obtain rfl := Except.error.inj he
      exact .inr (.inl (recovering_isRecovery e))
    | ok clips =>
      obtain ⟨hclips, j, hopened, hstate⟩ := hw clips rfl
      refine meets_done stable_opened hopened fun w hw => ⟨fun clips' hres => ?_, ?_⟩
      · obtain rfl := Except.ok.inj hres
        exact ⟨hclips, j, hw, hstate⟩
      · exact fun _ he => nomatch he
  · obtain rfl := Except.error.inj he
    exact (hw.2 e rfl).imp_right .inl

end Commit

end DataJuicer.Publication
