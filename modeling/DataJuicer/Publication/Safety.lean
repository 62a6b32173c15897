import DataJuicer.Publication.Calls

/-! # Publications that fail

However the operations of any number of publishers interleave with each other and with other
programs, whichever of them fail and wherever publishers end, nothing that was published is lost,
what is new is what was to be published, and the journals say what is so.
-/

namespace DataJuicer.Publication

open Prog ArtifactTree

variable {Tree : Type} [ArtifactTree Tree]

section Runs

variable {start w w' : World Tree} {requests : String → PublicationRequest} {r : String}

theorem publications_correct (start : World Tree) (requests : String → PublicationRequest) :
    (publicationMachine Tree).Correct Rely
      (fun r w _ _ w' => Guarantee start (requests r) r w w')
      (fun r => PublishPost start (requests r) r) (PublicationPool.initial start requests) := by
  intro r q hq
  obtain rfl := Option.some.inj hq
  exact publish_meets (requests r) r ⟨rfl, fun _ _ => rfl⟩

theorem publications_run {p : PublicationPool Tree} {xs : List (PublicationTransition Tree)}
    (h : Run (publicationMachine Tree).Step (PublicationPool.initial start requests) xs p) :
    (publicationMachine Tree).Correct Rely
      (fun r w _ _ w' => Guarantee start (requests r) r w w')
      (fun r => PublishPost start (requests r) r) p ∧
    ∀ x ∈ xs, ∀ r op a, x.label = .act r op a →
      Guarantee start (requests r) r x.pre.shared x.post.shared :=
  (publications_correct start requests).run h
    (fun _ _ _ _ _ _ hne _ hguarantee => hguarantee.rely hne.symm)
    fun _ _ _ _ _ hout => outside_rely hout

/-- Another program has added the entry, or a run that wrote its journal has changed it. -/
def Attributed (start : World Tree) (requests : String → PublicationRequest)
    (xs : List (PublicationTransition Tree)) (w : World Tree) (date name : String) : Prop :=
  (∃ x ∈ xs, ∃ e, x.label = .outside (.addEntry date name e)) ∨
    ∃ r, (requests r).datasetDate = date ∧ start.journals r = none ∧ w.journals r ≠ none ∧
      ((∃ i, name = temporaryName r i) ∨
        ∃ item ∈ (requests r).items, name = item.sourceClip ∧ clipName name = true ∧
          Settled w date name item.expectedTreeSha256)

/-- The journal of a run is untouched, or what it says is so. -/
def JournalSound (start : World Tree) (request : PublicationRequest) (r : String)
    (w : World Tree) : Prop :=
  w.journals r = start.journals r ∨ start.journals r = none ∧
    ∃ j f, w.journals r = some f ∧ Wrote j f ∧ JournalHolds r request w j

/-- What every step keeps. -/
structure FinishData (start : World Tree) (requests : String → PublicationRequest)
    (xs : List (PublicationTransition Tree)) (w : World Tree) : Prop where
  kept : ∀ date name e, start.entry date name = some e → e.Lasting → w.entry date name = some e
  changed : ∀ date name, w.entry date name = start.entry date name ∨
    Attributed start requests xs w date name
  journals : ∀ r, JournalSound start (requests r) r w

theorem Attributed.mono {xs ys : List (PublicationTransition Tree)} {date name : String}
    (h : Attributed start requests xs w date name) (hsub : xs ⊆ ys) (hkept : Kept w w')
    (hjournals : ∀ r, w.journals r ≠ none → w'.journals r ≠ none) :
    Attributed start requests ys w' date name := by
  rcases h with ⟨x, hx, e, hlabel⟩ | ⟨r, hdate, hstart, hjournal, hname⟩
  · exact .inl ⟨x, hsub hx, e, hlabel⟩
  · refine .inr ⟨r, hdate, hstart, hjournals r hjournal, hname.imp_right ?_⟩
    rintro ⟨item, hitem, heq, hclip, hsettled⟩
    exact ⟨item, hitem, heq, hclip, hsettled.kept hclip hkept⟩

theorem JournalSound.kept {request : PublicationRequest} (h : JournalSound start request r w)
    (hkept : Kept w w') (hjournal : w'.journals r = w.journals r) :
    JournalSound start request r w' := by
  rcases h with hsame | ⟨hstart, j, f, hf, hwrote, hholds⟩
  · exact .inl (hjournal.trans hsame)
  · exact .inr ⟨hstart, j, f, hjournal.trans hf, hwrote, hholds.kept hkept⟩

theorem Guarantee.journals_ne_none {request : PublicationRequest}
    (h : Guarantee start request r w w') (q : String) (hq : w.journals q ≠ none) :
    w'.journals q ≠ none := by
  by_cases hqr : q = r
  · subst hqr
    rcases h.journal with hsame | ⟨-, j, f, hf, -⟩
    · rw [hsame]
      exact hq
    · rw [hf]
      exact Option.some_ne_none f
  · rw [(h.others q hqr).1]
    exact hq

/-- An operation of a publisher. -/
theorem FinishData.act {xs ys : List (PublicationTransition Tree)}
    (h : FinishData start requests xs w) (hsub : xs ⊆ ys)
    (hguarantee : Guarantee start (requests r) r w w') : FinishData start requests ys w' := by
  refine ⟨fun date name e he hlasting => ?_, fun date name => ?_, fun q => ?_⟩
  · have hentry := h.kept date name e he hlasting
    rcases hguarantee.entries date name with
      hsame | ⟨-, -, -, ⟨i, -, hnone⟩ | ⟨-, -, -, -, hold, -⟩⟩
    · exact hsame.trans hentry
    · rw [hnone] at he
      cases he
    · exact absurd hlasting (hold e hentry)
  · rcases hguarantee.entries date name with
      hsame | ⟨hdate, hstart, hjournal, ⟨i, hi, -⟩ | ⟨item, hitem, heq, hclip, -, t, ht, hhash⟩⟩
    · rw [hsame]
      exact (h.changed date name).imp_right fun hold =>
        hold.mono hsub hguarantee.kept hguarantee.journals_ne_none
    · exact .inr (.inr ⟨r, hdate.symm, hstart, hguarantee.journals_ne_none r hjournal,
        .inl ⟨i, hi⟩⟩)
    · exact .inr (.inr ⟨r, hdate.symm, hstart, hguarantee.journals_ne_none r hjournal,
        .inr ⟨item, hitem, heq, hclip, fun _ => ⟨t, ht, hhash⟩⟩⟩)
  · by_cases hq : q = r
    · subst hq
      rcases hguarantee.journal with hsame | hwritten
      · exact (h.journals q).kept hguarantee.kept hsame
      · exact .inr hwritten
    · exact (h.journals q).kept hguarantee.kept (hguarantee.others q hq).1

theorem FinishData.outside {xs : List (PublicationTransition Tree)}
    {x : PublicationTransition Tree} {o : Outside Tree} (h : FinishData start requests xs w)
    (hx : x.label = .outside o) (hout : w.outside o = some w') :
    FinishData start requests (xs ++ [x]) w' := by
  obtain ⟨hjournals, hentries⟩ := outside_entries hout
  have hkept : Kept w w' := (outside_rely (r := "") hout).kept
  refine ⟨fun date name e he hlasting => ?_, fun date name => ?_, fun q =>
    (h.journals q).kept hkept (congrFun hjournals q)⟩
  · have hentry := h.kept date name e he hlasting
    rcases hentries date name with hsame | ⟨hnone, -⟩
    · exact hsame.trans hentry
    · rw [hnone] at hentry
      cases hentry
  · rcases hentries date name with hsame | ⟨-, e, ho⟩
    · rw [hsame]
      refine (h.changed date name).imp_right fun hold =>
        hold.mono (List.subset_append_left _ _) hkept fun q hq => ?_
      rw [hjournals]
      exact hq
    · refine .inr (.inl ⟨x, List.mem_append_right _ List.mem_cons_self, e, ?_⟩)
      rw [hx, ho]

theorem finishData_run {p : PublicationPool Tree} {xs : List (PublicationTransition Tree)}
    (h : Run (publicationMachine Tree).Step (PublicationPool.initial start requests) xs p) :
    FinishData start requests xs p.shared := by
  refine h.history (Q := fun m q => FinishData start requests m q.shared)
    ⟨fun _ _ _ he _ => he, fun _ _ => .inl rfl, fun _ => .inl rfl⟩ ?_
  intro m x hpre hdata hstep
  obtain ⟨pre, label, post⟩ := x
  cases label with
  | act r op a =>
    have hguarantee := (publications_run (hpre.snoc hstep)).2 _ List.mem_concat_self r op a rfl
    exact hdata.act (List.subset_append_left _ _) hguarantee
  | outside o => exact hdata.outside rfl (Machine.step_outside_iff.1 hstep).1

end Runs

namespace PublicationSample

structure Text where
  content : String

instance : ArtifactTree Text where
  empty := ⟨""⟩
  isEmpty t := t.content = ""
  sha256 t := some t.content

def hash : String := String.ofList (List.replicate 64 'a')

def runRef : String := "run-000000000001"

def request : PublicationRequest where
  jobRef := "job-000000000001"
  datasetDate := "20260101"
  items := [⟨"clip_a", "final/clip_a", hash⟩]

/-- A clip that was published before. -/
def earlier : Entry Text := .directory ⟨"earlier"⟩

def start : World Text where
  dates date := if date = "20260101" then
    .directory false fun name => if name = "clip_b" then some earlier else none
    else .missing
  journals _ := none
  journalTemporaries _ := none

abbrev Event := PoolEvent String (Outside Text) (FileOp.Answer Text)

def act (op : FileOp) (a : op.Answer Text) : Event := .act runRef op a

def journal (state : JournalState) (itemState : ItemState) : Journal :=
  ⟨"job-000000000001", runRef, "20260101", state, [⟨"clip_a", hash, itemState⟩]⟩

def writes (j : Journal) : List Event :=
  [act .journalTemporaryExists false, act .createJournalTemporary true,
    act (.writeJournalTemporary j) (some true), act .replaceJournal true, act .syncDirectory true]

def temporary : String := temporaryName runRef 0

/-- The only clip is checked, staged and renamed. -/
def upToRename : List Event :=
  [act .ensureJournalRoot true, act .journalExists false, act .finishRootRegular true,
    act (.dateRootExists "20260101") true, act (.dateRootExists "20260101") true,
    act (.dateRootRegular "20260101") true,
    act (.candidateRegular "final/clip_a") true, act (.candidateSha256 "final/clip_a") (some hash),
    act (.entryExists "20260101" "clip_a") false, act (.entryExists "20260101" temporary) false] ++
  writes (journal .intent .pending) ++
  [act (.candidateRegular "final/clip_a") true, act (.dateRootRegular "20260101") true,
    act (.makeDirectory "20260101" temporary) true, act .setPrivateMode true,
    act (.copyEntries "20260101" temporary) (⟨hash⟩, true),
    act (.candidateSha256 "final/clip_a") (some hash),
    act (.entrySha256 "20260101" temporary) (some hash),
    act (.entrySha256 "20260101" temporary) (some hash)] ++
  writes (journal .staged .staged) ++
  [act (.entryExists "20260101" "clip_a") false, act (.entryExists "20260101" "clip_a") false,
    act (.entrySha256 "20260101" temporary) (some hash),
    act (.replaceEntry "20260101" temporary "clip_a") true]

/-- The publisher ends between the rename and its journal. -/
def crashed : List Event := upToRename ++ [.outside (.crash fun _ => true)]

def completed : List Event := upToRename ++
  [act .syncDirectory true, act (.entryRegular "20260101" "clip_a") true,
    act (.entrySha256 "20260101" "clip_a") (some hash)] ++ writes (journal .committed .committed)

def returned : Option (PublishProg Text (List String)) → Option (List String)
  | some (.done (.ok clips)) => some clips
  | _ => none

theorem eq_done_of_returned {q : Option (PublishProg Text (List String))} {clips : List String}
    (h : returned q = some clips) : q = some (.done (.ok clips)) := by
  rcases q with _ | (_ | clips') | _
  · cases h
  · cases h
  · obtain rfl := Option.some.inj h
    rfl
  · cases h

def played (events : List Event) :
    Option (List (PublicationTransition Text) × PublicationPool Text) :=
  (publicationMachine Text).play (PublicationPool.initial start fun _ => request) events

end PublicationSample

section Results

open PublicationSample

variable {start w w' : World Tree} {requests : String → PublicationRequest} {r : String}

/--
Whatever operations fail and wherever publishers end, every entry of the date roots stays, unless
it is an empty directory. What is new was added by another program, or it is of a run that has
written its journal: a temporary directory, or a clip whose tree has the expected hash.
-/
theorem publications_keep_entries {p : PublicationPool Tree}
    {xs : List (PublicationTransition Tree)}
    (h : Run (publicationMachine Tree).Step (PublicationPool.initial start requests) xs p) :
    (∀ date name e, start.entry date name = some e → e.Lasting →
      p.shared.entry date name = some e) ∧
    ∀ date name, p.shared.entry date name ≠ start.entry date name →
      Attributed start requests xs p.shared date name :=
  ⟨(finishData_run h).kept, fun date name hne =>
    ((finishData_run h).changed date name).resolve_left hne⟩

theorem publications_keep_entries_crashed : ∃ xs p,
    Run (publicationMachine Text).Step (PublicationPool.initial PublicationSample.start
      fun _ => request) xs p ∧
    p.shared.entry "20260101" "clip_b" = some earlier ∧
    p.shared.entry "20260101" "clip_a" ≠ none ∧
    Attributed PublicationSample.start (fun _ => request) xs p.shared "20260101" "clip_a" := by
  have hplayed : ((played crashed).map fun out =>
      (out.2.shared.entry "20260101" "clip_a").isSome) = some true := by
    decide +kernel
  obtain ⟨⟨xs, p⟩, hplay, hsome⟩ := Option.map_eq_some_iff.1 hplayed
  have hrun := Machine.run_of_play hplay
  have hne : p.shared.entry "20260101" "clip_a" ≠ none := by
    intro hnone
    rw [hnone] at hsome
    cases hsome
  obtain ⟨hkept, hchanged⟩ := publications_keep_entries hrun
  exact ⟨xs, p, hrun, hkept "20260101" "clip_b" earlier rfl rfl, hne,
    hchanged "20260101" "clip_a" hne⟩

/--
At any point of any run, a journal that was written says what is so: its items are those of the
request, an item that it calls preexisting or committed has its tree in the date root, and it is
committed only when all of its items are.
-/
theorem journals_hold {p : PublicationPool Tree} {xs : List (PublicationTransition Tree)}
    (h : Run (publicationMachine Tree).Step (PublicationPool.initial start requests) xs
      p) (r : String)
    {j : Journal} (hj : p.shared.journals r = some (.written j)) :
    start.journals r = some (.written j) ∨ JournalHolds r (requests r) p.shared j := by
  rcases (finishData_run h).journals r with hsame | ⟨-, j', f, hf, hwrote, hholds⟩
  · exact .inl (hsame.symm.trans hj)
  · obtain rfl := Option.some.inj (hf.symm.trans hj)
    rcases hwrote with hwrote | hwrote
    · obtain rfl := JournalFile.written.inj hwrote
      exact .inr hholds
    · cases hwrote

theorem journals_hold_crashed : ∃ xs p,
    Run (publicationMachine Text).Step (PublicationPool.initial PublicationSample.start
      fun _ => request) xs p ∧
    p.shared.journals runRef = some (.written (journal .staged .staged)) ∧
    JournalHolds runRef request p.shared (journal .staged .staged) := by
  have hplayed : ((played crashed).map fun out => out.2.shared.journals runRef) =
      some (some (.written (journal .staged .staged))) := by
    decide +kernel
  obtain ⟨⟨xs, p⟩, hplay, hjournal⟩ := Option.map_eq_some_iff.1 hplayed
  have hrun := Machine.run_of_play hplay
  refine ⟨xs, p, hrun, hjournal, (journals_hold hrun runRef hjournal).resolve_left ?_⟩
  intro hstart
  cases hstart

/--
A publication that returns has committed all of its clips, and its journal says so unless its last
write ended early. One that raises has not written a journal, unless the error asks for a recovery
or is one of the operating system.
-/
theorem publication_results {p : PublicationPool Tree} {xs : List (PublicationTransition Tree)}
    (h : Run (publicationMachine Tree).Step (PublicationPool.initial start requests) xs p)
    (r : String) :
    (∀ clips, p.threads r = some (.done (.ok clips)) →
      clips = (requests r).items.map PublicationItem.sourceClip ∧
      (∀ item ∈ (requests r).items, Settled p.shared (requests r).datasetDate item.sourceClip
        item.expectedTreeSha256) ∧
      ∃ j f, p.shared.journals r = some f ∧ Wrote j f ∧ JournalHolds r (requests r) p.shared j ∧
        j.state = .committed ∧ ∀ it ∈ j.items, it.state = .committed) ∧
    ∀ e, p.threads r = some (.done (.error e)) →
      e = .os ∨ e.IsRecovery ∨ p.shared.journals r = start.journals r := by
  have hcorrect := (publications_run h).1
  constructor
  · intro clips hdone
    obtain ⟨hclips, j, hopened, hstate⟩ := (hcorrect r _ hdone _ .refl).1 clips rfl
    obtain ⟨f, hf, hwrote⟩ := hopened.saved
    have hall := hopened.holds.complete hstate
    refine ⟨hclips, fun item hitem => ?_, j, f, hf, hwrote, hopened.holds, hstate, hall⟩
    have hmem : (item.sourceClip, item.expectedTreeSha256) ∈
        (requests r).items.map fun item => (item.sourceClip, item.expectedTreeSha256) :=
      List.mem_map_of_mem hitem
    rw [← hopened.holds.items] at hmem
    obtain ⟨it, hit, hpair⟩ := List.mem_map.1 hmem
    obtain ⟨hclip, hhash⟩ := Prod.mk.inj hpair
    rw [← hclip, ← hhash]
    exact hopened.holds.settled it hit (.inr (hall it hit))
  · exact fun e hdone => (hcorrect r _ hdone _ .refl).2 e rfl

theorem publication_results_completed : ∃ xs p,
    Run (publicationMachine Text).Step (PublicationPool.initial PublicationSample.start
      fun _ => request) xs p ∧
    p.threads runRef = some (.done (.ok ["clip_a"])) ∧
    ∃ j f, p.shared.journals runRef = some f ∧ Wrote j f ∧
      JournalHolds runRef request p.shared j ∧ j.state = .committed := by
  have hplayed : ((played completed).map fun out => returned (out.2.threads runRef)) =
      some (some ["clip_a"]) := by
    decide +kernel
  obtain ⟨⟨xs, p⟩, hplay, hreturned⟩ := Option.map_eq_some_iff.1 hplayed
  have hrun := Machine.run_of_play hplay
  have hdone := eq_done_of_returned hreturned
  obtain ⟨-, -, j, f, hf, hwrote, hholds, hstate, -⟩ :=
    (publication_results hrun runRef).1 ["clip_a"] hdone
  exact ⟨xs, p, hrun, hdone, j, f, hf, hwrote, hholds, hstate⟩

end Results

end DataJuicer.Publication
