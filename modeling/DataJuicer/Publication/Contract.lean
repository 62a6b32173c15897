import DataJuicer.Publication.Publisher

/-! # What a publisher guarantees and relies on

A publisher changes entries of the date root only after its journal is there: its own temporary
directories, and clips that are missing or empty, which get a tree with the expected hash. The
others keep its journal and its temporary directories, and every entry that a rename does not
replace.
-/

namespace DataJuicer.Publication

open Prog ArtifactTree

variable {Tree : Type}

theorem temporaryName_toList (runRef : String) (i : ℕ) : (temporaryName runRef i).toList =
    temporaryPrefix.toList ++ (runRef.toList ++ '-' :: (toString i).toList) := by
  simp [temporaryName]

theorem dash_not_mem_toString (n : ℕ) : '-' ∉ (toString n).toList := by
  intro h
  rw [Nat.toString_eq_repr, Nat.toList_repr] at h
  have hdigit := Nat.isDigit_of_mem_toDigits (by decide) (by decide) h
  exact absurd hdigit (by decide)

theorem temporaryName_inj {r q : String} {i k : ℕ} (h : temporaryName r i = temporaryName q k) :
    r = q := by
  have hlists := congrArg String.toList h
  rw [temporaryName_toList, temporaryName_toList] at hlists
  have hdashes := congrArg List.reverse (List.append_cancel_left hlists)
  simp only [List.reverse_append, List.reverse_cons, List.append_assoc, List.cons_append,
    List.nil_append] at hdashes
  have hdrop : ∀ (n : ℕ) (l : List Char),
      ((toString n).toList.reverse ++ '-' :: l).dropWhile (fun c => c ≠ '-') = '-' :: l := by
    intro n l
    rw [List.dropWhile_append_of_pos]
    · simp
    · intro c hc
      have hne : c ≠ '-' := fun he => dash_not_mem_toString n (he ▸ List.mem_reverse.1 hc)
      simpa using hne
  have htails := congrArg (List.dropWhile fun c => c ≠ '-') hdashes
  rw [hdrop, hdrop] at htails
  exact String.toList_injective (List.reverse_inj.1 (List.cons.inj htails).2)

def IsTemporary (name : String) : Prop := ∃ r i, name = temporaryName r i

theorem temporaryPrefix_isPrefixOf (r : String) (i : ℕ) :
    temporaryPrefix.toList.isPrefixOf (temporaryName r i).toList = true := by
  rw [temporaryName_toList, List.isPrefixOf_iff_prefix]
  exact List.prefix_append _ _

theorem not_isTemporary {clip : String} (h : clipName clip = true) : ¬ IsTemporary clip := by
  rintro ⟨r, i, rfl⟩
  have hhead : (temporaryName r i).toList.head? = some '.' := by
    rw [temporaryName_toList]
    rfl
  unfold clipName at h
  rw [hhead] at h
  exact absurd (Bool.and_eq_true_iff.1 h).1 (by decide)

section Entries

variable {w : World Tree} {date name d n : String} {e e' : Option (Entry Tree)}

theorem entry_setEntry_ne (h : ¬ (d = date ∧ n = name)) :
    (w.setEntry date name e).entry d n = w.entry d n := by
  unfold World.entry World.setEntry
  by_cases hd : d = date
  · subst hd
    have hn : n ≠ name := fun hn => h ⟨rfl, hn⟩
    dsimp only
    rw [Function.update_self]
    cases w.dates d with
    | directory isLink entries => exact Function.update_of_ne hn _ _
    | missing | danglingLink | file => rfl
  · dsimp only
    rw [Function.update_of_ne hd]

theorem entry_setEntry_self (h : (w.dates date).isDirectory = true) :
    (w.setEntry date name e).entry date name = e := by
  unfold World.entry World.setEntry
  dsimp only
  rw [Function.update_self]
  cases hd : w.dates date with
  | directory isLink entries => exact Function.update_self _ _ _
  | missing | danglingLink | file =>
    rw [hd] at h
    cases h

theorem isDirectory_of_entry {x : Entry Tree} (h : w.entry date name = some x) :
    (w.dates date).isDirectory = true := by
  unfold World.entry at h
  cases hd : w.dates date with
  | directory isLink entries => rfl
  | missing | danglingLink | file =>
    rw [hd] at h
    cases h

theorem isDirectory_setEntry :
    ((w.setEntry date name e).dates d).isDirectory = (w.dates d).isDirectory := by
  unfold World.setEntry
  by_cases hd : d = date
  · subst hd
    dsimp only
    rw [Function.update_self]
    cases w.dates d <;> rfl
  · dsimp only
    rw [Function.update_of_ne hd]

theorem makeDateRoot?_eq_some {w' : World Tree} (h : w.makeDateRoot? date = some w') :
    w'.journals = w.journals ∧ w'.journalTemporaries = w.journalTemporaries ∧
      ∀ d n, w'.entry d n = w.entry d n := by
  unfold World.makeDateRoot? at h
  cases hdate : w.dates date with
  | missing =>
    rw [hdate] at h
    obtain rfl := Option.some.inj h
    refine ⟨rfl, rfl, fun d n => ?_⟩
    unfold World.entry
    by_cases hd : d = date
    · subst hd
      dsimp only
      rw [Function.update_self, hdate]
      rfl
    · dsimp only
      rw [Function.update_of_ne hd]
  | danglingLink | file | directory =>
    rw [hdate] at h
    cases h

theorem outside_entries {w' : World Tree} {o : Outside Tree} (h : w.outside o = some w') :
    w'.journals = w.journals ∧ ∀ date name, w'.entry date name = w.entry date name ∨
      w.entry date name = none ∧ ∃ e, o = .addEntry date name e := by
  cases o with
  | crash ended =>
    obtain rfl := Option.some.inj h
    exact ⟨rfl, fun _ _ => .inl rfl⟩
  | addEntry date name e =>
    obtain ⟨⟨-, hnone⟩, rfl⟩ := Option.ite_some_none_eq_some.1 h
    refine ⟨rfl, fun d n => ?_⟩
    by_cases hname : d = date ∧ n = name
    · obtain ⟨rfl, rfl⟩ := hname
      exact .inr ⟨Option.isNone_iff_eq_none.1 hnone, e, rfl⟩
    · exact .inl (entry_setEntry_ne hname)
  | addDateRoot date =>
    obtain ⟨hjournals, -, hentries⟩ := makeDateRoot?_eq_some h
    exact ⟨hjournals, fun _ _ => .inl (hentries _ _)⟩

end Entries

variable [ArtifactTree Tree]

/-- An entry that no rename replaces: anything but an empty directory. -/
def Entry.Lasting (e : Entry Tree) : Prop := e.isEmptyDirectory = false

/-- Every lasting entry that is not a temporary directory stays. -/
def Kept (w w' : World Tree) : Prop :=
  ∀ date name e, ¬ IsTemporary name → w.entry date name = some e → e.Lasting →
    w'.entry date name = some e

def Settled (w : World Tree) (date clip expected : String) : Prop :=
  (∀ t : Tree, isEmpty t = true → sha256 t ≠ some expected) →
    ∃ t : Tree, w.entry date clip = some (.directory t) ∧ sha256 t = some expected

theorem Settled.kept {w w' : World Tree} {date clip expected : String}
    (h : Settled w date clip expected) (hclip : clipName clip = true) (hkept : Kept w w') :
    Settled w' date clip expected := by
  intro hne
  obtain ⟨t, ht, hexpected⟩ := h hne
  have hlasting : (Entry.directory t).Lasting := by
    cases he : isEmpty t with
    | true => exact absurd hexpected (hne t he)
    | false => exact he
  exact ⟨t, hkept _ _ _ (not_isTemporary hclip) ht hlasting, hexpected⟩

structure JournalHolds (runRef : String) (request : PublicationRequest) (w : World Tree)
    (j : Journal) : Prop where
  run : j.jobRef = request.jobRef ∧ j.runRef = runRef ∧ j.datasetDate = request.datasetDate
  items : j.items.map (fun it => (it.sourceClip, it.sha256)) =
    request.items.map fun item => (item.sourceClip, item.expectedTreeSha256)
  clips : ∀ item ∈ request.items, clipName item.sourceClip = true
  settled : ∀ it ∈ j.items, it.state = .preexisting ∨ it.state = .committed →
    Settled w request.datasetDate it.sourceClip it.sha256
  complete : j.state = .committed → ∀ it ∈ j.items, it.state = .committed

/-- What is at the place of a journal after it was written. -/
def Wrote (j : Journal) (f : JournalFile) : Prop := f = .written j ∨ f = .other

section Journals

variable {r : String} {request : PublicationRequest} {w w' : World Tree} {j : Journal}

theorem JournalHolds.clip (h : JournalHolds r request w j) {it : JournalItem} (hit : it ∈ j.items) :
    clipName it.sourceClip = true := by
  have hmem : (it.sourceClip, it.sha256) ∈
      j.items.map fun it => (it.sourceClip, it.sha256) := List.mem_map_of_mem hit
  rw [h.items] at hmem
  obtain ⟨item, hitem, hpair⟩ := List.mem_map.1 hmem
  rw [← (Prod.mk.inj hpair).1]
  exact h.clips item hitem

theorem JournalHolds.kept (h : JournalHolds r request w j) (hkept : Kept w w') :
    JournalHolds r request w' j :=
  ⟨h.run, h.items, h.clips, fun it hit hst => (h.settled it hit hst).kept (h.clip hit) hkept,
    h.complete⟩

theorem mem_modify {index : ℕ} {itemState : ItemState} {items : List JournalItem}
    {it : JournalItem} (h : it ∈ items.modify index (JournalItem.setState itemState)) :
    (∃ k, k ≠ index ∧ items[k]? = some it) ∨
      ∃ it₀, items[index]? = some it₀ ∧ it = it₀.setState itemState := by
  obtain ⟨k, hk⟩ := List.mem_iff_getElem?.1 h
  rw [List.getElem?_modify] at hk
  obtain ⟨it₀, h₀, rfl⟩ := Option.map_eq_some_iff.1 hk
  by_cases hindex : index = k
  · subst hindex
    exact .inr ⟨it₀, h₀, if_pos rfl⟩
  · exact .inl ⟨k, fun he => hindex he.symm, h₀.trans (congrArg some (if_neg hindex).symm)⟩

theorem map_modify (index : ℕ) (itemState : ItemState) (items : List JournalItem) :
    (items.modify index (JournalItem.setState itemState)).map
      (fun it => (it.sourceClip, it.sha256)) = items.map fun it => (it.sourceClip, it.sha256) := by
  apply List.ext_getElem?
  intro k
  rw [List.getElem?_map, List.getElem?_map, List.getElem?_modify]
  cases items[k]? with
  | none => rfl
  | some it => by_cases hindex : index = k <;> simp [hindex, JournalItem.setState]

theorem JournalHolds.stage (h : JournalHolds r request w j) (index : ℕ) :
    JournalHolds r request w (j.setItem index .staged .staged) := by
  refine ⟨h.run, (map_modify _ _ _).trans h.items, h.clips, fun it hit hst => ?_, ?_⟩
  · rcases mem_modify hit with ⟨k, -, hk⟩ | ⟨it₀, -, rfl⟩
    · exact h.settled it (List.mem_of_getElem? hk) hst
    · rcases hst with hst | hst <;> cases hst
  · intro hst
    cases hst

theorem JournalHolds.commit (h : JournalHolds r request w j) {index : ℕ} {item : PublicationItem}
    (state : JournalState) (hitem : request.items[index]? = some item)
    (hsettled : Settled w request.datasetDate item.sourceClip item.expectedTreeSha256)
    (hcomplete : state = .committed → ∀ k, k ≠ index → ∀ it,
      j.items[k]? = some it → it.state = .committed) :
    JournalHolds r request w (j.setItem index .committed state) := by
  refine ⟨h.run, (map_modify _ _ _).trans h.items, h.clips, fun it hit hst => ?_, ?_⟩
  · rcases mem_modify hit with ⟨k, -, hk⟩ | ⟨it₀, h₀, rfl⟩
    · exact h.settled it (List.mem_of_getElem? hk) hst
    · have hpair := congrArg (fun l => l[index]?) h.items
      simp only [List.getElem?_map, h₀, hitem, Option.map_some, Option.some.injEq,
        Prod.mk.injEq] at hpair
      obtain ⟨hclip, hhash⟩ := hpair
      simp only [JournalItem.setState, hclip, hhash]
      exact hsettled
  · intro hst it hit
    rcases mem_modify hit with ⟨k, hk, hget⟩ | ⟨it₀, -, rfl⟩
    · exact hcomplete hst k hk it hget
    · rfl

end Journals

def Changes (start : World Tree) (request : PublicationRequest) (r : String) (w w' : World Tree)
    (date name : String) : Prop :=
  date = request.datasetDate ∧ start.journals r = none ∧ w.journals r ≠ none ∧
    ((∃ i, name = temporaryName r i ∧ start.entry date name = none) ∨
      ∃ item ∈ request.items, name = item.sourceClip ∧ clipName name = true ∧
        (∀ e, w.entry date name = some e → ¬ e.Lasting) ∧
        ∃ t : Tree, w'.entry date name = some (.directory t) ∧
          sha256 t = some item.expectedTreeSha256)

structure Guarantee (start : World Tree) (request : PublicationRequest) (r : String)
    (w w' : World Tree) : Prop where
  others : ∀ q, q ≠ r →
    w'.journals q = w.journals q ∧ w'.journalTemporaries q = w.journalTemporaries q
  entries : ∀ date name, w'.entry date name = w.entry date name ∨
    Changes start request r w w' date name
  journal : w'.journals r = w.journals r ∨ start.journals r = none ∧
    ∃ j f, w'.journals r = some f ∧ Wrote j f ∧ JournalHolds r request w' j

structure Rely (r : String) (w w' : World Tree) : Prop where
  journal : w'.journals r = w.journals r
  journalTemporary : w'.journalTemporaries r = w.journalTemporaries r
  temporaries : ∀ date i, w'.entry date (temporaryName r i) = w.entry date (temporaryName r i)
  kept : Kept w w'

def publicationContract (start : World Tree) (request : PublicationRequest) (r : String) :
    Contract (World Tree) (FileOp.Answer Tree) where
  exec := World.exec r
  rely := Rely r
  guar w _ _ w' := Guarantee start request r w w'

section Contracts

variable {start : World Tree} {request : PublicationRequest} {r q : String} {w w' : World Tree}

theorem Kept.of_eq (h : ∀ date name, w'.entry date name = w.entry date name) : Kept w w' :=
  fun date name _ _ he _ => (h date name).trans he

theorem Guarantee.refl (w : World Tree) : Guarantee start request r w w :=
  ⟨fun _ _ => ⟨rfl, rfl⟩, fun _ _ => .inl rfl, .inl rfl⟩

theorem Guarantee.kept (h : Guarantee start request r w w') : Kept w w' := by
  intro date name e hname he hlasting
  rcases h.entries date name with hsame | ⟨-, -, -, ⟨i, hi, -⟩ | ⟨-, -, -, -, hold, -⟩⟩
  · exact hsame.trans he
  · exact absurd ⟨r, i, hi⟩ hname
  · exact absurd hlasting (hold e he)

/-- What a publisher guarantees is what the others rely on. -/
theorem Guarantee.rely (h : Guarantee start request r w w') (hne : q ≠ r) : Rely q w w' := by
  refine ⟨(h.others q hne).1, (h.others q hne).2, fun date i => ?_, h.kept⟩
  rcases h.entries date (temporaryName q i) with hsame | ⟨-, -, -, ⟨k, hk, -⟩ | ⟨-, -, -, hclip, -⟩⟩
  · exact hsame
  · exact absurd (temporaryName_inj hk) hne
  · exact absurd ⟨q, i, rfl⟩ (not_isTemporary hclip)

theorem outside_rely {o : Outside Tree} (h : w.outside o = some w') : Rely r w w' := by
  cases o with
  | crash ended =>
    obtain rfl := Option.some.inj h
    exact ⟨rfl, rfl, fun _ _ => rfl, .of_eq fun _ _ => rfl⟩
  | addEntry date name e =>
    obtain ⟨⟨hname, hnone⟩, rfl⟩ := Option.ite_some_none_eq_some.1 h
    refine ⟨rfl, rfl, fun d i => entry_setEntry_ne ?_, fun d n x _ hx _ => ?_⟩
    · rintro ⟨-, rfl⟩
      rw [temporaryPrefix_isPrefixOf] at hname
      cases hname
    · refine (entry_setEntry_ne ?_).trans hx
      rintro ⟨rfl, rfl⟩
      rw [hx] at hnone
      cases hnone
  | addDateRoot date =>
    obtain ⟨hjournals, htemporaries, hentries⟩ := makeDateRoot?_eq_some h
    exact ⟨congrFun hjournals r, congrFun htemporaries r, fun _ _ => hentries _ _, .of_eq hentries⟩

end Contracts

end DataJuicer.Publication
