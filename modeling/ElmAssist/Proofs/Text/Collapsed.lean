/-
  Collapsed and trimmed texts.

  * `words_collapse`: collapsing keeps the words of a text, so that nothing is left to be done
    the second time (`collapse_collapse`).
  * `filter_collapse`: it keeps the characters that are not blank, in their order.
  * `collapse_eq_self_iff`: it changes nothing iff no blank stands at either end of the text and
    every stretch of blanks within is a single space; so words with single spaces between them
    stay as they are (`collapse_joined`).
  * `isTrimmed_trim`: a trimmed text has no blank at either end.
-/
import Mathlib.Data.List.DropRight
import ElmAssist.Proofs.Text.Words

namespace ElmAssist.Text

variable {s w : String} {ws : List String} {cs : List Char} {c : Char}

/-! ## The words of a collapsed text -/

theorem AreWords.isWord (h : AreWords cs ws) : ∀ w ∈ ws, IsWord w.toList := by
  induction h with
  | nil => simp
  | cons _ hw _ _ ih => exact List.forall_mem_cons.2 ⟨hw, ih⟩

theorem isWord_of_words (h : words s = w :: ws) :
    ∀ v ∈ w.toList :: ws.map String.toList, IsWord v := by
  intro v hv
  obtain ⟨u, hu, rfl⟩ := List.mem_map.1 (List.map_cons ▸ hv)
  exact (words_eq_iff.1 h).isWord u hu

theorem toList_collapse (h : words s = w :: ws) :
    (collapse s).toList = joined w.toList (ws.map String.toList) := by
  rw [collapse, h, String.toList_intercalate, List.map_cons, ← intercalate_joined]
  rfl

theorem collapse_of_words_nil (h : words s = []) : collapse s = "" := by
  rw [collapse, h]
  rfl

/-- **Collapsing keeps the words.** -/
theorem words_collapse (s : String) : words (collapse s) = words s := by
  cases h : words s with
  | nil =>
    rw [collapse_of_words_nil h]
    rfl
  | cons w ws =>
    have hid : String.ofList ∘ String.toList = id := funext fun _ => String.ofList_toList
    rw [words, toList_collapse h, wordsFrom_joined (isWord_of_words h), ← List.map_cons,
      List.map_map, hid, List.map_id]

theorem collapse_collapse (s : String) : collapse (collapse s) = collapse s := by
  rw [collapse, words_collapse, collapse]

/-! ## Characters that are not blank -/

/-- The characters of the words are those that are not blank. -/
theorem AreWords.filter_eq (h : AreWords cs ws) :
    cs.filter (!isBlank ·) = ws.flatMap String.toList := by
  induction h with
  | nil hblank => simpa [List.filter_eq_nil_iff] using hblank
  | @cons before after w ws hbefore hw _ _ ih =>
    have hnone : before.filter (!isBlank ·) = [] := by
      simpa [List.filter_eq_nil_iff] using hbefore
    have hall : w.toList.filter (!isBlank ·) = w.toList := by
      simpa [List.filter_eq_self] using hw.notBlank
    rw [List.filter_append, List.filter_append, hnone, hall, ih, List.flatMap_cons,
      List.nil_append]

/-- **Collapsing keeps what is not blank**, in order. -/
theorem filter_collapse (s : String) :
    (collapse s).toList.filter (!isBlank ·) = s.toList.filter (!isBlank ·) := by
  rw [(words_eq_iff.1 (words_collapse s)).filter_eq, (words_eq_iff.1 rfl).filter_eq]

/-! ## Single spaces -/

/-- No blank stands at either end. -/
structure IsTrimmed (cs : List Char) : Prop where
  first : ∀ c ∈ cs.head?, isBlank c = false
  last : ∀ c ∈ cs.getLast?, isBlank c = false

/-- Every stretch of blanks is a single space. -/
def HasSingleSpaces (cs : List Char) : Prop :=
  ∀ run, run <:+: cs → run ≠ [] → (∀ c ∈ run, isBlank c = true) → run = [' ']

/-- No blank stands at either end, and every stretch of blanks within is a single space. -/
structure IsCollapsed (cs : List Char) : Prop extends IsTrimmed cs where
  spaces : HasSingleSpaces cs

theorem HasSingleSpaces.of_infix {ds : List Char} (h : HasSingleSpaces cs) (hds : ds <:+: cs) :
    HasSingleSpaces ds :=
  fun run hrun => h run (hrun.trans hds)

/-- A character in front of single spaces, unless it makes one of them longer. -/
theorem HasSingleSpaces.cons (h : HasSingleSpaces cs)
    (hc : isBlank c = true → c = ' ' ∧ ∀ d ∈ cs.head?, isBlank d = false) :
    HasSingleSpaces (c :: cs) := by
  intro run hrun hne hblank
  rcases List.infix_cons_iff.1 hrun with hrun | hrun
  · obtain ⟨b, rest, rfl⟩ := List.exists_cons_of_ne_nil hne
    obtain ⟨rfl, hrest⟩ := List.cons_prefix_cons.1 hrun
    obtain ⟨rfl, hhead⟩ := hc (hblank b List.mem_cons_self)
    -- A second blank would have to stand directly behind the first.
    cases rest with
    | nil => rfl
    | cons d rest =>
      obtain ⟨behind, rfl⟩ := hrest
      have hd := hblank d (List.mem_cons_of_mem _ List.mem_cons_self)
      exact absurd hd (by simp [hhead d rfl])
  · exact h run hrun hne hblank

theorem HasSingleSpaces.word_append {word : List Char} (h : HasSingleSpaces cs)
    (hword : ∀ c ∈ word, isBlank c = false) : HasSingleSpaces (word ++ cs) := by
  induction word with
  | nil => exact h
  | cons c word ih =>
    obtain ⟨hc, hrest⟩ := List.forall_mem_cons.1 hword
    exact (ih hrest).cons (by simp [hc])

theorem hasSingleSpaces_nil : HasSingleSpaces [] :=
  fun _ hrun hne => absurd (List.infix_nil.1 hrun) hne

/-- Words with single spaces between them are collapsed. -/
theorem isCollapsed_joined {first : List Char} {rest : List (List Char)}
    (h : ∀ w ∈ first :: rest, IsWord w) : IsCollapsed (joined first rest) := by
  induction rest generalizing first with
  | nil =>
    have hfirst := (h first List.mem_cons_self).notBlank
    have hspaces := hasSingleSpaces_nil.word_append hfirst
    rw [List.append_nil] at hspaces
    rw [joined, List.flatMap_nil, List.append_nil]
    refine ⟨⟨fun c hc => ?_, fun c hc => ?_⟩, hspaces⟩
    · exact hfirst c (List.mem_of_head? hc)
    · exact hfirst c (List.mem_of_getLast? hc)
  | cons second rest ih =>
    obtain ⟨⟨hne, hfirst⟩, hrest⟩ := List.forall_mem_cons.1 h
    obtain ⟨⟨hhead, hlast⟩, hspaces⟩ := ih hrest
    have hcut : joined first (second :: rest) = first ++ ' ' :: joined second rest := by
      simp [joined]
    have hnext : joined second rest ≠ [] := by
      simp [joined, (hrest second List.mem_cons_self).ne_nil]
    rw [hcut]
    refine ⟨⟨fun c hc => ?_, fun c hc => ?_⟩, ?_⟩
    · rw [List.head?_append_of_ne_nil _ hne] at hc
      exact hfirst c (List.mem_of_head? hc)
    · rw [List.getLast?_append_cons, List.getLast?_cons_of_ne_nil hnext] at hc
      exact hlast c hc
    · exact (hspaces.cons fun _ => ⟨rfl, hhead⟩).word_append hfirst

/-- What stands behind a word in a collapsed text: a space in front of each further word. -/
theorem AreWords.eq_flatMap (h : AreWords cs ws) (hhead : ∀ c ∈ cs.head?, isBlank c = true)
    (hlast : ∀ c ∈ cs.getLast?, isBlank c = false) (hspaces : HasSingleSpaces cs) :
    cs = (ws.map String.toList).flatMap (' ' :: ·) := by
  induction h with
  | @nil cs hblank =>
    cases hend : cs.getLast? with
    | none => rw [List.getLast?_eq_none_iff.1 hend]; rfl
    | some c =>
      have hc := hblank c (List.mem_of_getLast? hend)
      exact absurd hc (by simp [hlast c hend])
  | @cons before after w ws hbefore hw hafter _ ih =>
    obtain ⟨c, word, hword⟩ := List.exists_cons_of_ne_nil hw.ne_nil
    have hne : before ≠ [] := by
      rintro rfl
      have hc := hw.notBlank c (by simp [hword])
      exact absurd (hhead c (by simp [hword])) (by simp [hc])
    have hspace : before = [' '] := hspaces before (List.prefix_append _ _).isInfix hne hbefore
    have hrest : after <:+: before ++ (w.toList ++ after) :=
      ((List.suffix_append _ _).trans (List.suffix_append _ _)).isInfix
    have hend : ∀ c ∈ after.getLast?, isBlank c = false := fun c hc =>
      hlast c (List.mem_getLast?_append_of_mem_getLast?
        (List.mem_getLast?_append_of_mem_getLast? hc))
    rw [hspace, List.map_cons, List.flatMap_cons, ← ih hafter hend (hspaces.of_infix hrest)]
    rfl

/-- A collapsed text is its words with single spaces between them. -/
theorem AreWords.eq_intercalate (h : AreWords cs ws) (hcs : IsCollapsed cs) :
    cs = [' '].intercalate (ws.map String.toList) := by
  obtain ⟨⟨hhead, hlast⟩, hspaces⟩ := hcs
  cases h with
  | nil hblank =>
    exact AreWords.eq_flatMap (.nil hblank) (fun c hc => hblank c (List.mem_of_head? hc)) hlast
      hspaces
  | @cons before after w ws hbefore hw hafter hrest =>
    have hnone : before = [] := by
      cases before with
      | nil => rfl
      | cons c before =>
        have hc := hbefore c List.mem_cons_self
        exact absurd hc (by simp [hhead c rfl])
    subst hnone
    rw [List.nil_append] at hlast hspaces ⊢
    have hend : ∀ c ∈ after.getLast?, isBlank c = false := fun c hc =>
      hlast c (List.mem_getLast?_append_of_mem_getLast? hc)
    rw [List.map_cons, intercalate_joined, joined,
      ← hrest.eq_flatMap hafter hend (hspaces.of_infix (List.suffix_append _ _).isInfix)]

/-- **Collapsing changes nothing** about the texts that are collapsed, and about no others. -/
theorem collapse_eq_self_iff : collapse s = s ↔ IsCollapsed s.toList := by
  constructor
  · intro h
    rw [← h]
    cases hs : words s with
    | nil =>
      rw [collapse_of_words_nil hs]
      exact ⟨⟨by simp, by simp⟩, hasSingleSpaces_nil⟩
    | cons w ws =>
      rw [toList_collapse hs]
      exact isCollapsed_joined (isWord_of_words hs)
  · intro h
    apply String.toList_injective
    rw [collapse, String.toList_intercalate]
    exact ((words_eq_iff.1 rfl).eq_intercalate h).symm

/-- Words with single spaces between them stay as they are. -/
theorem collapse_joined {first : List Char} {rest : List (List Char)}
    (h : ∀ w ∈ first :: rest, IsWord w) :
    collapse (String.ofList (joined first rest)) = String.ofList (joined first rest) := by
  rw [collapse_eq_self_iff, String.toList_ofList]
  exact isCollapsed_joined h

/-- A single word stays as it is. -/
theorem collapse_word (h : IsWord cs) : collapse (String.ofList cs) = String.ofList cs := by
  have hjoined := @collapse_joined cs [] (by simpa using h)
  rwa [joined, List.flatMap_nil, List.append_nil] at hjoined

/-! ## Trimmed texts -/

theorem isTrimmed_trim (s : String) : IsTrimmed (trim s).toList := by
  rw [trim, trimBy, String.toList_ofList]
  constructor
  · intro c hc
    obtain ⟨rest, hrest⟩ := List.rdropWhile_prefix isBlank (s.toList.dropWhile isBlank)
    have hnot := List.head?_dropWhile_not isBlank s.toList
    rw [← hrest, List.head?_append] at hnot
    rw [trimList, ← List.rdropWhile] at hc
    simpa [Option.mem_def.1 hc] using hnot
  · intro c hc
    have hnot := List.head?_dropWhile_not isBlank (s.toList.dropWhile isBlank).reverse
    rw [trimList, List.getLast?_reverse] at hc
    simpa [Option.mem_def.1 hc] using hnot

end ElmAssist.Text
