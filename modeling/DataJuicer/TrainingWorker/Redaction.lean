import DataJuicer.TrainingWorker.PollingTimes

/-! # Secrets in a log

The secrets of a run are replaced in the text of a record, and control sequences are removed
from it afterwards. So no secret is shown, unless a record writes one with control sequences
between its characters.
-/

namespace DataJuicer.TrainingWorker

open Lines Transaction

section

variable {u v w : List Char}

theorem infix_of_infix_append (hu : ∀ c ∈ u, c ∉ w) (h : w <:+: u ++ v) : w <:+: v := by
  induction u with
  | nil => exact h
  | cons c u ih =>
    rw [List.forall_mem_cons] at hu
    rw [List.cons_append, List.infix_cons_iff] at h
    rcases h with h | h
    · rcases List.prefix_cons_iff.1 h with rfl | ⟨w', rfl, -⟩
      · exact List.nil_infix
      · exact absurd List.mem_cons_self hu.1
    · exact ih hu.2 h

variable {old new s : List Char}

theorem prefix_of_replaceAll (hnew : new ≠ []) (hw : ∀ c ∈ new, c ∉ w)
    (h : w <+: replaceAll old new s) : w <+: s := by
  fun_induction replaceAll old new s generalizing w with
  | case1 => exact h
  | case2 c cs hold ih =>
    obtain ⟨d, new, rfl⟩ := List.exists_cons_of_ne_nil hnew
    rw [List.cons_append, List.prefix_cons_iff] at h
    rcases h with rfl | ⟨w', rfl, -⟩
    · exact List.nil_prefix
    · exact absurd List.mem_cons_self (hw d List.mem_cons_self)
  | case3 c cs hold ih =>
    rw [List.prefix_cons_iff] at h
    rcases h with rfl | ⟨w', rfl, hw'⟩
    · exact List.nil_prefix
    · rw [List.cons_prefix_cons]
      exact ⟨rfl, ih (fun d hd hmem => hw d hd (List.mem_cons_of_mem c hmem)) hw'⟩

/-- What has no character of the replacement was there before. -/
theorem infix_of_replaceAll (hnew : new ≠ []) (hw : ∀ c ∈ new, c ∉ w)
    (h : w <:+: replaceAll old new s) : w <:+: s := by
  fun_induction replaceAll old new s with
  | case1 => exact h
  | case2 c cs hold ih =>
    have hrest := ih (infix_of_infix_append hw h)
    exact List.infix_cons (hrest.trans (List.drop_suffix _ cs).isInfix)
  | case3 c cs hold ih =>
    rw [List.infix_cons_iff] at h ⊢
    rcases h with h | h
    · rw [List.prefix_cons_iff] at h
      rcases h with rfl | ⟨w', rfl, hw'⟩
      · exact .inl List.nil_prefix
      · left
        rw [List.cons_prefix_cons]
        exact ⟨rfl, prefix_of_replaceAll hnew
          (fun d hd hmem => hw d hd (List.mem_cons_of_mem c hmem)) hw'⟩
    · exact .inr (ih h)

theorem not_infix_replaceAll (hnew : new ≠ []) (hold : old ≠ []) (hw : ∀ c ∈ new, c ∉ old) :
    ¬ old <:+: replaceAll old new s := by
  fun_induction replaceAll old new s with
  | case1 =>
    intro h
    exact hold (List.infix_nil.1 h)
  | case2 c cs hfound ih =>
    intro h
    exact ih (infix_of_infix_append hw h)
  | case3 c cs hnone ih =>
    intro h
    rcases List.infix_cons_iff.1 h with h | h
    · refine hnone (List.isPrefixOf_iff_prefix.2 ?_)
      rcases List.prefix_cons_iff.1 h with rfl | ⟨old', hcons, hold'⟩
      · exact List.nil_prefix
      · rw [hcons, List.cons_prefix_cons]
        refine ⟨rfl, prefix_of_replaceAll hnew (fun d hd hmem => hw d hd ?_) hold'⟩
        rw [hcons]
        exact List.mem_cons_of_mem c hmem
    · exact ih h

end

/-- The characters that stand for a secret. -/
def mask : List Char := "********".toList

theorem mask_eq : mask = List.replicate 8 '*' := by decide

section

variable {redactions : List String} {secret s : String} {w : List Char}

theorem notMem_of_mem_mask (hw : '*' ∉ w) : ∀ c ∈ mask, c ∉ w := by
  intro c hc
  rw [mask_eq] at hc
  rwa [List.eq_of_mem_replicate hc]

theorem redact_cons (secret : String) (redactions : List String) (s : String) :
    redact (secret :: redactions) s = redact redactions (if secret = "" then s
      else String.ofList (replaceAll secret.toList mask s.toList)) := rfl

theorem infix_of_redact (hw : '*' ∉ w) (h : w <:+: (redact redactions s).toList) :
    w <:+: s.toList := by
  induction redactions generalizing s with
  | nil => exact h
  | cons other redactions ih =>
    rw [redact_cons] at h
    have hrest := ih h
    split at hrest
    · exact hrest
    · rw [String.toList_ofList] at hrest
      exact infix_of_replaceAll (by decide) (notMem_of_mem_mask hw) hrest

/-- Later replacements do not bring a secret back. -/
theorem not_infix_redact (hmem : secret ∈ redactions) (hne : secret ≠ "")
    (hstar : '*' ∉ secret.toList) : ¬ secret.toList <:+: (redact redactions s).toList := by
  induction redactions generalizing s with
  | nil => simp at hmem
  | cons other redactions ih =>
    by_cases hother : secret = other
    · subst hother
      intro h
      rw [redact_cons] at h
      have hrest := infix_of_redact hstar h
      rw [if_neg hne, String.toList_ofList] at hrest
      refine not_infix_replaceAll (by decide) ?_ (notMem_of_mem_mask hstar) hrest
      rwa [Ne, String.toList_eq_nil_iff]
    · exact ih ((List.mem_cons.1 hmem).resolve_left hother)

end

/-- The texts that `_ANSI_CSI` matches. -/
inductive ControlSequence : List Char → Prop
  | mk {parameters intermediates : List Char} {final : Char}
      (hparameters : ∀ c ∈ parameters, '0' ≤ c ∧ c ≤ '?')
      (hintermediates : ∀ c ∈ intermediates, ' ' ≤ c ∧ c ≤ '/')
      (hfinal : '@' ≤ final ∧ final ≤ '~') :
      ControlSequence ('\x1b' :: '[' :: (parameters ++ intermediates ++ [final]))

def StartsSequence (t : List Char) : Prop := ∃ q, ControlSequence q ∧ q <+: t

section

variable {c d : Char} {state : CsiState} {held params inters q t : List Char}

theorem removeCsi_nil : removeCsi state held [] = held := rfl

theorem removeCsi_escape :
    removeCsi state held ('\x1b' :: t) = held ++ removeCsi .escape ['\x1b'] t := if_pos rfl

theorem removeCsi_text (hc : c ≠ '\x1b') :
    removeCsi .text held (c :: t) = c :: removeCsi .text [] t := if_neg hc

theorem removeCsi_opened (hc : c ≠ '\x1b') : removeCsi .escape held (c :: t) =
    if c = '[' then removeCsi .parameters (held ++ [c]) t
    else held ++ c :: removeCsi .text [] t := if_neg hc

theorem removeCsi_parameters_cons (hc : c ≠ '\x1b') : removeCsi .parameters held (c :: t) =
    if '0' ≤ c ∧ c ≤ '?' then removeCsi .parameters (held ++ [c]) t
    else if ' ' ≤ c ∧ c ≤ '/' then removeCsi .intermediates (held ++ [c]) t
    else if '@' ≤ c ∧ c ≤ '~' then removeCsi .text [] t
    else held ++ c :: removeCsi .text [] t := if_neg hc

theorem removeCsi_intermediates_cons (hc : c ≠ '\x1b') : removeCsi .intermediates held (c :: t) =
    if ' ' ≤ c ∧ c ≤ '/' then removeCsi .intermediates (held ++ [c]) t
    else if '@' ≤ c ∧ c ≤ '~' then removeCsi .text [] t
    else held ++ c :: removeCsi .text [] t := if_neg hc

theorem ne_escape (hd : ¬ d ≤ '\x1b') (h : d ≤ c) : c ≠ '\x1b' := by
  rintro rfl
  exact hd h

theorem removeCsi_intermediates (hinters : ∀ c ∈ inters, ' ' ≤ c ∧ c ≤ '/')
    (hc : '@' ≤ c ∧ c ≤ '~') :
    removeCsi .intermediates held (inters ++ c :: t) = removeCsi .text [] t := by
  induction inters generalizing held with
  | nil =>
    have hesc : c ≠ '\x1b' := ne_escape (by decide) hc.1
    have hinter : ¬ (' ' ≤ c ∧ c ≤ '/') := fun h => absurd (Char.le_trans hc.1 h.2) (by decide)
    rw [List.nil_append, removeCsi_intermediates_cons hesc, if_neg hinter, if_pos hc]
  | cons d inters ih =>
    rw [List.forall_mem_cons] at hinters
    have hesc : d ≠ '\x1b' := ne_escape (by decide) hinters.1.1
    rw [List.cons_append, removeCsi_intermediates_cons hesc, if_pos hinters.1]
    exact ih hinters.2

theorem removeCsi_parameters (hparams : ∀ c ∈ params, '0' ≤ c ∧ c ≤ '?')
    (hinters : ∀ c ∈ inters, ' ' ≤ c ∧ c ≤ '/') (hc : '@' ≤ c ∧ c ≤ '~') :
    removeCsi .parameters held (params ++ inters ++ c :: t) = removeCsi .text [] t := by
  induction params generalizing held with
  | nil =>
    cases inters with
    | nil =>
      have hesc : c ≠ '\x1b' := ne_escape (by decide) hc.1
      have hparam : ¬ ('0' ≤ c ∧ c ≤ '?') := fun h => absurd (Char.le_trans hc.1 h.2) (by decide)
      have hinter : ¬ (' ' ≤ c ∧ c ≤ '/') := fun h => absurd (Char.le_trans hc.1 h.2) (by decide)
      rw [List.nil_append, List.nil_append, removeCsi_parameters_cons hesc, if_neg hparam,
        if_neg hinter, if_pos hc]
    | cons d inters =>
      rw [List.forall_mem_cons] at hinters
      have hesc : d ≠ '\x1b' := ne_escape (by decide) hinters.1.1
      have hparam : ¬ ('0' ≤ d ∧ d ≤ '?') :=
        fun h => absurd (Char.le_trans h.1 hinters.1.2) (by decide)
      rw [List.nil_append, List.cons_append, removeCsi_parameters_cons hesc, if_neg hparam,
        if_pos hinters.1]
      exact removeCsi_intermediates hinters.2 hc
  | cons d params ih =>
    rw [List.forall_mem_cons] at hparams
    have hesc : d ≠ '\x1b' := ne_escape (by decide) hparams.1.1
    rw [List.cons_append, List.cons_append, removeCsi_parameters_cons hesc, if_pos hparams.1]
    exact ih hparams.2

theorem removeCsi_sequence (hq : ControlSequence q) :
    removeCsi .text [] (q ++ t) = removeCsi .text [] t := by
  cases hq with
  | mk hparams hinters hfinal =>
    rw [List.cons_append, removeCsi_escape, List.nil_append, List.cons_append,
      removeCsi_opened (by decide), if_pos rfl, List.append_assoc, List.singleton_append]
    exact removeCsi_parameters hparams hinters hfinal

/-- A sequence that does not end is text. -/
theorem removeCsi_intermediates_open (h : ∀ inters final, inters ++ [final] <+: t →
    (∀ c ∈ inters, ' ' ≤ c ∧ c ≤ '/') → ¬ ('@' ≤ final ∧ final ≤ '~')) :
    removeCsi .intermediates held t = held ++ removeCsi .text [] t := by
  induction t generalizing held with
  | nil => rw [removeCsi_nil, removeCsi_nil, List.append_nil]
  | cons c t ih =>
    by_cases hesc : c = '\x1b'
    · subst hesc
      rw [removeCsi_escape, removeCsi_escape, List.nil_append]
    · rw [removeCsi_text hesc, removeCsi_intermediates_cons hesc]
      split
      · next hinter =>
        rw [ih, List.append_assoc, List.singleton_append]
        intro inters final hpre hinters
        exact h (c :: inters) final (List.cons_prefix_cons.2 ⟨rfl, hpre⟩)
          (List.forall_mem_cons.2 ⟨hinter, hinters⟩)
      · rw [if_neg (h [] c (List.cons_prefix_cons.2 ⟨rfl, List.nil_prefix⟩) (by simp))]

theorem removeCsi_parameters_open (h : ∀ params inters final,
    params ++ inters ++ [final] <+: t → (∀ c ∈ params, '0' ≤ c ∧ c ≤ '?') →
      (∀ c ∈ inters, ' ' ≤ c ∧ c ≤ '/') → ¬ ('@' ≤ final ∧ final ≤ '~')) :
    removeCsi .parameters held t = held ++ removeCsi .text [] t := by
  induction t generalizing held with
  | nil => rw [removeCsi_nil, removeCsi_nil, List.append_nil]
  | cons c t ih =>
    by_cases hesc : c = '\x1b'
    · subst hesc
      rw [removeCsi_escape, removeCsi_escape, List.nil_append]
    · rw [removeCsi_text hesc, removeCsi_parameters_cons hesc]
      split
      · next hparam =>
        rw [ih, List.append_assoc, List.singleton_append]
        intro params inters final hpre hparams
        exact h (c :: params) inters final (List.cons_prefix_cons.2 ⟨rfl, hpre⟩)
          (List.forall_mem_cons.2 ⟨hparam, hparams⟩)
      · split
        · next hinter =>
          rw [removeCsi_intermediates_open, List.append_assoc, List.singleton_append]
          intro inters final hpre hinters
          exact h [] (c :: inters) final (List.cons_prefix_cons.2 ⟨rfl, hpre⟩) (by simp)
            (List.forall_mem_cons.2 ⟨hinter, hinters⟩)
        · rw [if_neg (h [] [] c (List.cons_prefix_cons.2 ⟨rfl, List.nil_prefix⟩) (by simp)
            (by simp))]

/-- What does not begin a control sequence is shown. -/
theorem removeCsi_char (h : ¬ StartsSequence (c :: t)) :
    removeCsi .text [] (c :: t) = c :: removeCsi .text [] t := by
  by_cases hesc : c = '\x1b'
  · subst hesc
    rw [removeCsi_escape, List.nil_append]
    cases t with
    | nil => rfl
    | cons d t =>
      by_cases hd : d = '['
      · subst hd
        rw [removeCsi_text (by decide), removeCsi_opened (by decide), if_pos rfl]
        refine removeCsi_parameters_open fun params inters final hpre hparams hinters hfinal => ?_
        refine h ⟨_, .mk hparams hinters hfinal, ?_⟩
        simpa [List.cons_prefix_cons] using hpre
      · by_cases hd' : d = '\x1b'
        · subst hd'
          rw [removeCsi_escape, removeCsi_escape]
          rfl
        · rw [removeCsi_text hd', removeCsi_opened hd', if_neg hd]
          rfl
  · exact removeCsi_text hesc

end

/-- The text goes on with these characters, but for control sequences before each of them. -/
inductive Spells : List Char → List Char → Prop
  | done (t : List Char) : Spells [] t
  | char {c : Char} {s t : List Char} (hc : ¬ StartsSequence (c :: t)) (h : Spells s t) :
      Spells (c :: s) (c :: t)
  | sequence {q s t : List Char} (hq : ControlSequence q) (h : Spells s t) : Spells s (q ++ t)

/-- No control sequence of `p ++ t` goes over the end of `p`. -/
def EndsSequences (p t : List Char) : Prop :=
  ∀ a q b, ControlSequence q → p ++ t = a ++ q ++ b →
    (a ++ q).length ≤ p.length ∨ p.length ≤ a.length

/-- The secret is written with control sequences between its characters. -/
def Interrupted (secret text : List Char) : Prop :=
  ∃ p t, text = p ++ t ∧ EndsSequences p t ∧ Spells secret t ∧ ¬ secret <+: t

section

variable {c : Char} {p q s t u : List Char}

theorem ControlSequence.eq_cons (hq : ControlSequence q) :
    ∃ rest, q = '\x1b' :: rest ∧ '\x1b' ∉ rest := by
  cases hq with
  | mk hparams hinters hfinal =>
    refine ⟨_, rfl, ?_⟩
    simp only [List.mem_cons, List.mem_append, List.not_mem_nil, or_false, not_or]
    exact ⟨by decide, ⟨fun h => absurd (hparams _ h).1 (by decide),
      fun h => absurd (hinters _ h).1 (by decide)⟩, (ne_escape (by decide) hfinal.1).symm⟩

theorem prefix_eq_of_final {body body' : List Char} {final final' : Char}
    (hbody : ∀ c ∈ body, ¬ '@' ≤ c) (hbody' : ∀ c ∈ body', ¬ '@' ≤ c) (hfinal : '@' ≤ final)
    (hfinal' : '@' ≤ final') (h : body ++ [final] <+: body' ++ [final']) :
    body ++ [final] = body' ++ [final'] := by
  induction body generalizing body' with
  | nil =>
    cases body' with
    | nil => simpa [List.cons_prefix_cons] using h
    | cons c body' =>
      rw [List.nil_append, List.cons_append, List.cons_prefix_cons] at h
      exact absurd hfinal (h.1 ▸ hbody' c List.mem_cons_self)
  | cons c body ih =>
    rw [List.forall_mem_cons] at hbody
    cases body' with
    | nil =>
      rw [List.cons_append, List.nil_append, List.cons_prefix_cons] at h
      exact absurd hfinal' (h.1 ▸ hbody.1)
    | cons d body' =>
      rw [List.forall_mem_cons] at hbody'
      rw [List.cons_append, List.cons_append, List.cons_prefix_cons] at h
      rw [List.cons_append, List.cons_append, h.1, ih hbody.2 hbody'.2 h.2]

theorem ControlSequence.body (hq : ControlSequence q) : ∃ body final, (∀ c ∈ body, ¬ '@' ≤ c) ∧
    '@' ≤ final ∧ q = '\x1b' :: '[' :: (body ++ [final]) := by
  cases hq with
  | mk hparams hinters hfinal =>
    refine ⟨_, _, fun c hc hle => ?_, hfinal.1, rfl⟩
    rcases List.mem_append.1 hc with hc | hc
    · exact absurd (Char.le_trans hle (hparams c hc).2) (by decide)
    · exact absurd (Char.le_trans hle (hinters c hc).2) (by decide)

/-- One text begins with one control sequence at most. -/
theorem ControlSequence.eq_of_prefix {q' : List Char} (hq : ControlSequence q)
    (hq' : ControlSequence q') (h : q <+: t) (h' : q' <+: t) : q = q' := by
  obtain ⟨body, final, hbody, hfinal, rfl⟩ := hq.body
  obtain ⟨body', final', hbody', hfinal', rfl⟩ := hq'.body
  rcases List.prefix_or_prefix_of_prefix h h' with h | h
  · simp only [List.cons_prefix_cons, true_and] at h
    rw [prefix_eq_of_final hbody hbody' hfinal hfinal' h]
  · simp only [List.cons_prefix_cons, true_and] at h
    rw [prefix_eq_of_final hbody' hbody hfinal' hfinal h]

theorem text_cases (t : List Char) : t = [] ∨ (∃ q t', ControlSequence q ∧ t = q ++ t') ∨
    ∃ c t', ¬ StartsSequence (c :: t') ∧ t = c :: t' := by
  by_cases h : StartsSequence t
  · obtain ⟨q, hq, t', rfl⟩ := h
    exact .inr (.inl ⟨q, t', hq, rfl⟩)
  · cases t with
    | nil => exact .inl rfl
    | cons c t => exact .inr (.inr ⟨c, t, h, rfl⟩)

theorem prefix_removeCsi_of_spells (h : Spells s t) : s <+: removeCsi .text [] t := by
  induction h with
  | done => exact List.nil_prefix
  | char hc _ ih =>
    rw [removeCsi_char hc, List.cons_prefix_cons]
    exact ⟨rfl, ih⟩
  | sequence hq _ ih => rwa [removeCsi_sequence hq]

theorem spells_of_prefix_removeCsi (h : s <+: removeCsi .text [] t) : Spells s t := by
  obtain ⟨n, hn⟩ : ∃ n, t.length ≤ n := ⟨_, le_rfl⟩
  induction n generalizing s t with
  | zero =>
    rw [Nat.le_zero, List.length_eq_zero_iff] at hn
    subst hn
    rw [List.prefix_nil.1 h]
    exact .done _
  | succ n ih =>
    rcases text_cases t with rfl | ⟨q, t, hq, rfl⟩ | ⟨c, t, hc, rfl⟩
    · rw [List.prefix_nil.1 h]
      exact .done _
    · obtain ⟨rest, rfl, -⟩ := hq.eq_cons
      rw [removeCsi_sequence hq] at h
      refine .sequence hq (ih h ?_)
      rw [List.cons_append, List.length_cons, List.length_append] at hn
      omega
    · rw [removeCsi_char hc, List.prefix_cons_iff] at h
      rcases h with rfl | ⟨s, rfl, hs⟩
      · exact .done _
      · exact .char hc (ih hs (Nat.le_of_succ_le_succ hn))

theorem endsSequences_nil (t : List Char) : EndsSequences [] t :=
  fun _ _ _ _ _ => .inr (Nat.zero_le _)

theorem EndsSequences.cons (hc : ¬ StartsSequence (c :: (p ++ t))) (h : EndsSequences p t) :
    EndsSequences (c :: p) t := by
  intro a q b hq heq
  cases a with
  | nil => exact absurd ⟨q, hq, b, by simpa using heq.symm⟩ hc
  | cons d a =>
    rw [List.cons_append, List.cons_append, List.cons_append, List.cons.injEq] at heq
    rcases h a q b hq heq.2 with h | h
    · left
      simpa using h
    · right
      simpa using h

theorem endsSequences_of_append (h : EndsSequences (u ++ p) t) : EndsSequences p t := by
  intro a q b hq heq
  have hall := h (u ++ a) q b hq (by simp [heq])
  simp only [List.length_append] at hall ⊢
  omega

theorem EndsSequences.append (hq : ControlSequence q) (h : EndsSequences p t) :
    EndsSequences (q ++ p) t := by
  intro a q' b hq' heq
  by_cases ha : q.length ≤ a.length
  · obtain ⟨a, rfl⟩ : q <+: a := by
      refine List.prefix_of_prefix_length_le ⟨p ++ t, ?_⟩ ⟨q' ++ b, rfl⟩ ha
      rw [← List.append_assoc, heq, List.append_assoc]
    have hcancel : p ++ t = a ++ q' ++ b := by simpa using heq
    have hrest := h a q' b hq' hcancel
    simp only [List.length_append] at hrest ⊢
    omega
  · cases a with
    | nil =>
      obtain rfl : q' = q := hq'.eq_of_prefix hq ⟨b, heq.symm⟩ ⟨p ++ t, by simp⟩
      left
      simp
    | cons d a =>
      -- The sequence that goes over the end would begin inside of this one.
      obtain ⟨rest, rfl, hrest⟩ := hq.eq_cons
      obtain ⟨rest', rfl, -⟩ := hq'.eq_cons
      refine absurd ?_ hrest
      simp only [List.cons_append, List.cons.injEq, List.append_assoc] at heq
      have hlt : a.length < rest.length := by simpa using ha
      have hget := congrArg (fun l => l[a.length]?) heq.2
      simp only [List.getElem?_append_left hlt, List.getElem?_append_right (le_refl a.length),
        Nat.sub_self, List.getElem?_cons_zero] at hget
      exact List.mem_of_getElem? hget

/-- What is shown goes on with these characters where the text spells them. -/
theorem infix_removeCsi_iff (s text : List Char) : s <:+: removeCsi .text [] text ↔
    ∃ p t, text = p ++ t ∧ EndsSequences p t ∧ Spells s t := by
  obtain ⟨n, hn⟩ : ∃ n, text.length ≤ n := ⟨_, le_rfl⟩
  induction n generalizing text with
  | zero =>
    rw [Nat.le_zero, List.length_eq_zero_iff] at hn
    subst hn
    constructor
    · intro h
      rw [List.infix_nil.1 h]
      exact ⟨[], [], rfl, endsSequences_nil _, .done _⟩
    · rintro ⟨p, t, htext, -, h⟩
      obtain ⟨rfl, rfl⟩ := List.append_eq_nil_iff.1 htext.symm
      exact (prefix_removeCsi_of_spells h).isInfix
  | succ n ih =>
    rcases text_cases text with rfl | ⟨q, text, hq, rfl⟩ | ⟨c, text, hc, rfl⟩
    · exact ih [] (Nat.zero_le _)
    · have hlen : text.length ≤ n := by
        obtain ⟨rest, rfl, -⟩ := hq.eq_cons
        rw [List.cons_append, List.length_cons, List.length_append] at hn
        omega
      rw [removeCsi_sequence hq, ih text hlen]
      constructor
      · rintro ⟨p, t, rfl, hp, h⟩
        exact ⟨q ++ p, t, (List.append_assoc _ _ _).symm, hp.append hq, h⟩
      · rintro ⟨p, t, htext, hp, h⟩
        cases p with
        | nil =>
          obtain rfl : t = q ++ text := htext.symm
          have hshown := prefix_removeCsi_of_spells h
          rw [removeCsi_sequence hq] at hshown
          exact ⟨[], text, rfl, endsSequences_nil _, spells_of_prefix_removeCsi hshown⟩
        | cons d p =>
          have hle : q.length ≤ (d :: p).length := by
            simpa using hp [] q text hq htext.symm
          obtain ⟨p', hp'⟩ := List.prefix_of_prefix_length_le ⟨text, htext⟩ ⟨t, rfl⟩ hle
          rw [← hp'] at hp htext
          rw [List.append_assoc] at htext
          exact ⟨p', t, List.append_cancel_left htext, endsSequences_of_append hp, h⟩
    · have hlen : text.length ≤ n := Nat.le_of_succ_le_succ hn
      rw [removeCsi_char hc, List.infix_cons_iff, ih text hlen]
      constructor
      · rintro (h | ⟨p, t, rfl, hp, h⟩)
        · rw [← removeCsi_char hc] at h
          exact ⟨[], c :: text, rfl, endsSequences_nil _, spells_of_prefix_removeCsi h⟩
        · exact ⟨c :: p, t, rfl, hp.cons hc, h⟩
      · rintro ⟨p, t, htext, hp, h⟩
        cases p with
        | nil =>
          obtain rfl : t = c :: text := htext.symm
          left
          rw [← removeCsi_char hc]
          exact prefix_removeCsi_of_spells h
        | cons d p =>
          rw [List.cons_append, List.cons.injEq] at htext
          obtain ⟨rfl, rfl⟩ := htext
          exact .inr ⟨p, t, rfl, endsSequences_of_append (u := [c]) hp, h⟩

theorem infix_removeCsi_iff_interrupted {secret text : List Char} (h : ¬ secret <:+: text) :
    secret <:+: removeCsi .text [] text ↔ Interrupted secret text := by
  rw [infix_removeCsi_iff, Interrupted]
  refine exists_congr fun p => exists_congr fun t => ?_
  constructor
  · rintro ⟨rfl, hp, hs⟩
    exact ⟨rfl, hp, hs, fun hpre => h (List.infix_append_of_infix_right hpre.isInfix)⟩
  · rintro ⟨htext, hp, hs, -⟩
    exact ⟨htext, hp, hs⟩

end

section

variable {r : Readers} {source : LogSource} {secret : String} {raw : List UInt8}
  {raws : List (List UInt8)} {w : List Char}

def lastRow (r : Readers) (source : LogSource) (raw : List UInt8) : List Char :=
  (lineText r source.redactions raw).toList.rtakeWhile (· ≠ '\r')

theorem secret_shown_iff (hmem : secret ∈ source.redactions) (hne : secret ≠ "")
    (hstar : '*' ∉ secret.toList) :
    secret.toList <:+: (normaliseTerminalRecord (lineText r source.redactions raw)).toList ↔
      Interrupted secret.toList (lastRow r source raw) := by
  unfold normaliseTerminalRecord
  rw [String.toList_ofList]
  refine infix_removeCsi_iff_interrupted fun h => ?_
  exact not_infix_redact hmem hne hstar (h.trans (List.rtakeWhile_suffix _ _).isInfix)

theorem infix_of_joinLines {lines : List String} (hne : w ≠ []) (hw : '\n' ∉ w)
    (h : w <:+: joinLines lines) : ∃ line ∈ lines, w <:+: line.toList := by
  induction lines with
  | nil => exact absurd (List.infix_nil.1 h) hne
  | cons line lines ih =>
    cases lines with
    | nil => exact ⟨line, List.mem_singleton_self _, by simpa [joinLines] using h⟩
    | cons next lines =>
      have hjoin : joinLines (line :: next :: lines) =
          line.toList ++ '\n' :: joinLines (next :: lines) := by
        simp [joinLines, List.intercalate_cons_cons]
      rw [hjoin, List.infix_append_iff] at h
      rcases h with h | h | ⟨u, v, rfl, hu, hv⟩
      · exact ⟨line, List.mem_cons_self, h⟩
      · have hrest := infix_of_infix_append (u := ['\n']) (by simpa using hw) h
        obtain ⟨l, hl, hin⟩ := ih hrest
        exact ⟨l, List.mem_cons_of_mem _ hl, hin⟩
      · rcases List.prefix_cons_iff.1 hv with rfl | ⟨v, rfl, -⟩
        · exact ⟨line, List.mem_cons_self, by simpa using hu.isInfix⟩
        · simp at hw

theorem infix_of_mem_chunks {n : ℕ} {text : List Char} {chunk : String}
    (h : chunk ∈ chunks n text) : chunk.toList <:+: text := by
  fun_induction chunks n text with
  | case1 => simp at h
  | case2 c cs ih =>
    rcases List.mem_cons.1 h with rfl | h
    · rw [String.toList_ofList]
      exact (List.cons_prefix_cons.2 ⟨rfl, List.take_prefix _ _⟩).isInfix
    · exact (ih h).trans (List.infix_cons (List.drop_suffix _ _).isInfix)

theorem exists_of_mem_readLines {present : CheckpointExists} {shown : List String}
    {events : List Dict}
    {line : String} (h : readLines r present source raws = .ok (shown, events))
    (hline : line ∈ shown) :
    ∃ raw ∈ raws, line = normaliseTerminalRecord (lineText r source.redactions raw) := by
  induction raws generalizing shown events with
  | nil =>
    cases h
    simp at hline
  | cons raw raws ih =>
    obtain ⟨event, shown', events', -, hrest, rfl, -⟩ := readLines_cons_eq_ok h
    split at hline
    · obtain ⟨raw', hmem, hraw⟩ := ih hrest hline
      exact ⟨raw', List.mem_cons_of_mem _ hmem, hraw⟩
    · rcases List.mem_cons.1 hline with rfl | hline
      · exact ⟨raw, List.mem_cons_self, rfl⟩
      · obtain ⟨raw', hmem, hraw⟩ := ih hrest hline
        exact ⟨raw', List.mem_cons_of_mem _ hmem, hraw⟩

end

/-- What a call finds: the log when it is a regular file, and the checkpoints on disk. -/
structure LogCall where
  file : Option (List UInt8)
  present : CheckpointExists

def LogCall.records (call : LogCall) (logOffset : ℕ) : List (List UInt8) :=
  (call.file.map fun content => logBatch content logOffset).getD []

/-- The offset in the ledger and the updates that were queued. -/
structure LogLedger where
  logOffset : ℕ
  queue : List Dict

def LogLedger.initial : LogLedger := ⟨0, []⟩

/-- A call of `_collect_log` on any file. -/
inductive CollectStep (r : Readers) (source : LogSource) : LogLedger → LogCall → LogLedger → Prop
  | collect (c : LogLedger) (call : LogCall) : CollectStep r source c call
      ⟨(collectLog r call.present source c.logOffset call.file).logOffset,
        c.queue ++ (collectLog r call.present source c.logOffset call.file).queued⟩

section

variable {r : Readers} {source : LogSource} {secret : String}

/-- A log update in whose message the secret can be read. -/
def Shows (secret : String) (update : Dict) : Prop :=
  Json.get update "kind" = .str "log" ∧
    ∃ message, Json.get update "message" = .str message ∧ secret.toList <:+: message.toList

theorem not_shows_of_mem_queued {present : CheckpointExists} {content : List UInt8} {logOffset : ℕ}
    (hmem : secret ∈ source.redactions) (hne : secret ≠ "") (hstar : '*' ∉ secret.toList)
    (hnewline : '\n' ∉ secret.toList) (hraws : ∀ raw ∈ logBatch content logOffset,
      ¬ Interrupted secret.toList (lastRow r source raw)) :
    ∀ p ∈ (collectLog r present source logOffset (some content)).queued, ¬ Shows secret p := by
  intro p hp hshows
  have hend := collectLog_end r present source content logOffset
  generalize collectLog r present source logOffset (some content) = c at hp hend
  cases hend with
  | raised | blank => simp at hp
  | @taken shown events hread hv =>
    have hshown := (readLines_eq_ok hread).2.1.2 hv
    have hupdate := List.takeWhile_prefix _ |>.subset hp
    unfold logUpdates at hupdate
    rw [if_neg hshown, List.mem_append, List.mem_map, List.mem_map] at hupdate
    obtain ⟨hkind, message, hmessage, hin⟩ := hshows
    rcases hupdate with ⟨chunk, hchunk, rfl⟩ | ⟨event, hevent, rfl⟩
    · obtain rfl : chunk = message := by simpa [logUpdate, payloadHead, Json.get_cons]
        using hmessage
      obtain ⟨line, hline, hsecret⟩ := infix_of_joinLines (by simpa using hne) hnewline
        (hin.trans (infix_of_mem_chunks hchunk))
      obtain ⟨raw, hraw, rfl⟩ := exists_of_mem_readLines hread hline
      exact hraws raw hraw ((secret_shown_iff hmem hne hstar).1 hsecret)
    · exact (shape_of_readLines hread event hevent).kind_ne_log hkind

/-- The secret can be read in no update. -/
def LogLedger.Hides (secret : String) (c : LogLedger) : Prop := ∀ p ∈ c.queue, ¬ Shows secret p

theorem hides_of_step {x : Transition LogLedger LogCall} (hmem : secret ∈ source.redactions)
    (hne : secret ≠ "") (hstar : '*' ∉ secret.toList) (hnewline : '\n' ∉ secret.toList)
    (hx : x.pre.Hides secret) (hraws : ∀ raw ∈ x.label.records x.pre.logOffset,
      ¬ Interrupted secret.toList (lastRow r source raw))
    (h : CollectStep r source x.pre x.label x.post) : x.post.Hides secret := by
  obtain ⟨c, call, c'⟩ := x
  dsimp only at hx hraws h ⊢
  cases h with
  | collect =>
    unfold LogLedger.Hides
    rw [List.forall_mem_append]
    refine ⟨hx, ?_⟩
    obtain ⟨file, present⟩ := call
    cases file with
    | none => simp [collectLog]
    | some content => exact not_shows_of_mem_queued hmem hne hstar hnewline hraws

/--
No call shows a secret without `*` and newlines, when no record read has the secret on its last
row with control sequences between its characters.
-/
theorem logUpdates_redacted (r : Readers) (source : LogSource) {secret : String}
    {l : List (Transition LogLedger LogCall)} {c : LogLedger}
    (h : Run (CollectStep r source) .initial l c) (hmem : secret ∈ source.redactions)
    (hne : secret ≠ "") (hstar : '*' ∉ secret.toList) (hnewline : '\n' ∉ secret.toList)
    (hl : ∀ x ∈ l, ∀ raw ∈ x.label.records x.pre.logOffset,
      ¬ Interrupted secret.toList (lastRow r source raw)) :
    c.Hides secret := by
  have hinitial : LogLedger.initial.Hides secret := by simp [LogLedger.Hides, LogLedger.initial]
  exact (h.invariant hinitial hl
    fun x hx hraws hstep => hides_of_step hmem hne hstar hnewline hx hraws hstep).1

end

namespace Sample

def secretSource : LogSource := ⟨some "stage", .plain, ["secret"]⟩

def secretCall (text : String) : LogCall := ⟨some (ascii text), fun _ => .ok true⟩

/-- What a first call collects. -/
def collectSecret (text : String) : LogLedger :=
  ⟨(collectLog logReaders (fun _ => .ok true) secretSource 0 (some (ascii text))).logOffset,
    [] ++ (collectLog logReaders (fun _ => .ok true) secretSource 0 (some (ascii text))).queued⟩

theorem run_collectSecret (text : String) : Run (CollectStep logReaders secretSource) .initial
    [⟨.initial, secretCall text, collectSecret text⟩] (collectSecret text) :=
  .single (.collect _ _)

end Sample

/-- A change of the style within the secret goes through the replacement and is removed later. -/
theorem interruptedSecret_shown : ∃ (source : LogSource) (l : List (Transition LogLedger LogCall))
    (c : LogLedger), (∀ secret ∈ source.redactions,
        secret ≠ "" ∧ '*' ∉ secret.toList ∧ '\n' ∉ secret.toList) ∧
      Run (CollectStep Sample.logReaders source) .initial l c ∧
        ∃ secret ∈ source.redactions, ¬ c.Hides secret := by
  refine ⟨Sample.secretSource, _, _, by decide, Sample.run_collectSecret
    "se\x1b[0mcret\n", "secret",
    List.mem_singleton_self _, fun h => ?_⟩
  have hqueue : (Sample.collectSecret "se\x1b[0mcret\n").queue =
      [logUpdate (some "stage") "secret"] := by decide +kernel
  exact h (logUpdate (some "stage") "secret") (by simp [hqueue])
    ⟨rfl, "secret", rfl, List.infix_refl _⟩

/-- A secret that is highlighted as a whole is not shown. -/
theorem highlightedSecret_redacted :
    (Sample.collectSecret "\x1b[1msecret\x1b[0m\n").Hides "secret" := by
  refine logUpdates_redacted Sample.logReaders Sample.secretSource (Sample.run_collectSecret _)
    (List.mem_singleton_self _) (by decide) (by decide) (by decide) ?_
  rw [List.forall_mem_singleton]
  have hrecords : (Sample.secretCall "\x1b[1msecret\x1b[0m\n").records 0 =
      [Sample.ascii "\x1b[1msecret\x1b[0m\n"] := by decide +kernel
  change ∀ raw ∈ (Sample.secretCall "\x1b[1msecret\x1b[0m\n").records 0, _
  rw [hrecords, List.forall_mem_singleton, ← secret_shown_iff (List.mem_singleton_self _)
    (by decide) (by decide)]
  decide +kernel

end DataJuicer.TrainingWorker
