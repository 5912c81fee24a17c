/-
  Words, and blanks at the ends of texts.

  The words of a text are those that it has been joined from with single spaces
  (`wordsFrom_joined`).  A text without words is blank, and any other has a first word
  (`words_cases`).  The words that are read in a text are the only ones it has (`words_eq_iff`).
  Blanks at its ends do not count when a text is trimmed (`trim_around`).
-/
import ElmAssist.Text.Blank
import Mathlib.Data.List.TakeWhile

namespace ElmAssist.Text

/-! ## Words -/

/-- A word: characters that are not blank. -/
structure IsWord (cs : List Char) : Prop where
  ne_nil : cs ≠ []
  notBlank : ∀ c ∈ cs, isBlank c = false

/-- Some words with single spaces between them. -/
def joined (first : List Char) (rest : List (List Char)) : List Char :=
  first ++ rest.flatMap (' ' :: ·)

theorem intercalate_joined (first : List Char) (rest : List (List Char)) :
    [' '].intercalate (first :: rest) = joined first rest := by
  induction rest generalizing first with
  | nil => simp [joined]
  | cons second rest ih =>
    rw [List.intercalate_cons_cons, ih]
    simp [joined]

theorem wordsFrom_append {word cs : List Char} (rest : List Char)
    (h : ∀ c ∈ cs, isBlank c = false) :
    wordsFrom word (cs ++ rest) = wordsFrom (cs.reverse ++ word) rest := by
  induction cs generalizing word with
  | nil => rfl
  | cons c cs ih =>
    obtain ⟨hc, hcs⟩ := List.forall_mem_cons.1 h
    rw [List.cons_append, wordsFrom, hc, if_neg Bool.false_ne_true, ih hcs, List.reverse_cons,
      List.append_assoc]
    rfl

/-- The words of a text are those that it has been joined from. -/
theorem wordsFrom_joined {first : List Char} {rest : List (List Char)}
    (h : ∀ w ∈ first :: rest, IsWord w) : wordsFrom [] (joined first rest) = first :: rest := by
  induction rest generalizing first with
  | nil =>
    obtain ⟨hne, hfirst⟩ := h first List.mem_cons_self
    rw [joined, wordsFrom_append _ hfirst]
    simp [wordsFrom, hne]
  | cons second rest ih =>
    obtain ⟨⟨hne, hfirst⟩, hrest⟩ := List.forall_mem_cons.1 h
    have hspace : isBlank ' ' = true := rfl
    rw [joined, wordsFrom_append _ hfirst, List.flatMap_cons, List.cons_append, wordsFrom, hspace,
      if_pos rfl, show second ++ _ = joined second rest from rfl, ih hrest]
    simp [hne]

/-! ## The first word -/

/-- `w` is the first word of `s`: only blanks stand in front of it, and it ends at a blank or
    at the end. -/
structure IsFirstWord (s w : String) : Prop where
  word : IsWord w.toList
  around : ∃ before after, s.toList = before ++ (w.toList ++ after) ∧
    (∀ c ∈ before, isBlank c = true) ∧ ∀ c ∈ after.head?, isBlank c = true

theorem wordsFrom_blanks {before : List Char} (cs : List Char)
    (h : ∀ c ∈ before, isBlank c = true) : wordsFrom [] (before ++ cs) = wordsFrom [] cs := by
  induction before with
  | nil => rfl
  | cons c before ih =>
    rw [List.forall_mem_cons] at h
    rw [List.cons_append, wordsFrom, if_pos h.1, if_pos List.isEmpty_nil, ih h.2]

/-- A word that is being read ends where a blank follows. -/
theorem wordsFrom_of_head {word after : List Char} (hword : word ≠ [])
    (h : ∀ c ∈ after.head?, isBlank c = true) :
    wordsFrom word after = word.reverse :: wordsFrom [] after := by
  cases after with
  | nil => simp [wordsFrom, hword]
  | cons c rest =>
    have hc : isBlank c = true := h c rfl
    simp [wordsFrom, hword, hc]

theorem head?_words_of_isFirstWord {s w : String} (h : IsFirstWord s w) :
    (words s).head? = some w := by
  obtain ⟨⟨hne, hword⟩, before, after, hs, hbefore, hafter⟩ := h
  have hreverse : w.toList.reverse ++ [] ≠ [] := by simpa using hne
  rw [words, hs, wordsFrom_blanks _ hbefore, wordsFrom_append _ hword,
    wordsFrom_of_head hreverse hafter]
  simp

/-- **A text has no word**, or it has a first one. -/
theorem words_cases (s : String) :
    (words s = [] ∧ ∀ c ∈ s.toList, isBlank c = true) ∨
      ∃ w, IsFirstWord s w ∧ (words s).head? = some w := by
  have hbefore : ∀ c ∈ s.toList.takeWhile isBlank, isBlank c = true := fun c hc =>
    List.mem_takeWhile_imp hc
  have hs := (List.takeWhile_append_dropWhile (p := isBlank) (l := s.toList)).symm
  cases hrest : s.toList.dropWhile isBlank with
  | nil =>
    rw [hrest] at hs
    refine .inl ⟨?_, fun c hc => hbefore c (by rwa [hs, List.append_nil] at hc)⟩
    rw [words, hs, wordsFrom_blanks _ hbefore]
    rfl
  | cons first rest =>
    have hfirst : isBlank first = false := by
      have hne : s.toList.dropWhile isBlank ≠ [] := by simp [hrest]
      simpa [hrest] using List.head_dropWhile_not isBlank hne
    -- The first word goes on as long as no blank comes.
    have hword : IsFirstWord s (String.ofList (first :: rest.takeWhile (!isBlank ·))) := by
      refine ⟨⟨by simp, ?_⟩, _, rest.dropWhile (!isBlank ·), ?_, hbefore, fun c hc => ?_⟩
      · rw [String.toList_ofList, List.forall_mem_cons]
        exact ⟨hfirst, fun c hc => by simpa using List.mem_takeWhile_imp hc⟩
      · rw [String.toList_ofList, List.cons_append, List.takeWhile_append_dropWhile, ← hrest]
        exact hs
      · have hnot := List.head?_dropWhile_not (!isBlank ·) rest
        rw [Option.mem_def.1 hc] at hnot
        simpa using hnot
    exact .inr ⟨_, hword, head?_words_of_isFirstWord hword⟩

/-! ## All words -/

/-- The words of a text: only blanks stand in front of each and behind the last one, and each ends
    at a blank or at the end. -/
inductive AreWords : List Char → List String → Prop
  | nil {cs : List Char} : (∀ c ∈ cs, isBlank c = true) → AreWords cs []
  | cons {before after : List Char} {w : String} {ws : List String} :
      (∀ c ∈ before, isBlank c = true) → IsWord w.toList → (∀ c ∈ after.head?, isBlank c = true) →
      AreWords after ws → AreWords (before ++ (w.toList ++ after)) (w :: ws)

theorem AreWords.blank_cons {c : Char} {cs : List Char} {ws : List String} (hc : isBlank c = true)
    (h : AreWords cs ws) : AreWords (c :: cs) ws := by
  cases h with
  | nil hblank => exact .nil (List.forall_mem_cons.2 ⟨hc, hblank⟩)
  | @cons before _ _ _ hbefore hw hafter hrest =>
    exact @AreWords.cons (c :: before) _ _ _ (List.forall_mem_cons.2 ⟨hc, hbefore⟩) hw hafter hrest

/-- A word that ends, if it has been begun, in front of words that are read. -/
theorem AreWords.behind {word after : List Char} (hword : ∀ c ∈ word, isBlank c = false)
    (hafter : ∀ c ∈ after.head?, isBlank c = true)
    (h : AreWords after ((wordsFrom [] after).map String.ofList)) :
    AreWords (word.reverse ++ after) ((wordsFrom word after).map String.ofList) := by
  by_cases hempty : word = []
  · rw [hempty]
    exact h
  · have hw : IsWord (String.ofList word.reverse).toList := by
      rw [String.toList_ofList]
      exact ⟨by simpa using hempty, fun c hc => hword c (List.mem_reverse.1 hc)⟩
    have hall := @AreWords.cons [] after _ _ (by simp) hw hafter h
    rw [String.toList_ofList, List.nil_append] at hall
    rwa [wordsFrom_of_head hempty hafter, List.map_cons]

/-- What is read is the words of the text, of which `word` has been read. -/
theorem areWords_wordsFrom {word : List Char} (cs : List Char)
    (hword : ∀ c ∈ word, isBlank c = false) :
    AreWords (word.reverse ++ cs) ((wordsFrom word cs).map String.ofList) := by
  induction cs generalizing word with
  | nil => exact .behind hword (by simp) (.nil (by simp))
  | cons c rest ih =>
    cases hc : isBlank c with
    | true =>
      refine .behind hword (by simpa using hc) ?_
      rw [wordsFrom, if_pos hc, if_pos List.isEmpty_nil]
      exact .blank_cons hc (@ih [] (by simp))
    | false =>
      have hrest := @ih (c :: word) (List.forall_mem_cons.2 ⟨hc, hword⟩)
      rw [List.reverse_cons, List.append_assoc, List.singleton_append] at hrest
      rwa [wordsFrom, hc, if_neg Bool.false_ne_true]

/-- **A text has the words that are read in it**, and no others. -/
theorem words_eq_iff {s : String} {ws : List String} : words s = ws ↔ AreWords s.toList ws := by
  constructor
  · rintro rfl
    exact @areWords_wordsFrom [] s.toList (by simp)
  · intro h
    rw [words]
    generalize s.toList = cs at h
    induction h with
    | nil hblank =>
      have hnil := wordsFrom_blanks [] hblank
      rw [List.append_nil] at hnil
      rw [hnil]
      rfl
    | @cons before after w ws hbefore hw hafter _ ih =>
      have hne : w.toList.reverse ++ [] ≠ [] := by simpa using hw.ne_nil
      rw [wordsFrom_blanks _ hbefore, wordsFrom_append _ hw.notBlank, wordsFrom_of_head hne hafter,
        List.map_cons, ih]
      simp

/-! ## Trimming -/

variable {p : Char → Bool}

theorem trimList_append_left {lead : List Char} (cs : List Char) (h : lead.all p = true) :
    trimList p (lead ++ cs) = trimList p cs := by
  rw [trimList, List.dropWhile_append_of_pos (List.all_eq_true.1 h), trimList]

theorem trimList_append_right {trail : List Char} (cs : List Char) (h : trail.all p = true) :
    trimList p (cs ++ trail) = trimList p cs := by
  have hall := List.all_eq_true.1 h
  have hnil : (trail ++ []).dropWhile p = [] := List.dropWhile_append_of_pos hall
  rw [List.append_nil] at hnil
  rw [trimList, trimList, List.dropWhile_append]
  split
  · next hempty => rw [hnil, List.isEmpty_iff.1 hempty]
  · rw [List.reverse_append,
      List.dropWhile_append_of_pos fun c hc => hall c (List.mem_reverse.1 hc)]

/-- Blanks around a text do not count when it is trimmed. -/
theorem trim_around {lead trail : List Char} (cs : List Char) (hlead : lead.all isBlank = true)
    (htrail : trail.all isBlank = true) :
    trim (String.ofList (lead ++ (cs ++ trail))) = trim (String.ofList cs) := by
  rw [trim, trimBy, String.toList_ofList, trimList_append_left _ hlead, trimList_append_right _ htrail,
    trim, trimBy, String.toList_ofList]

end ElmAssist.Text
