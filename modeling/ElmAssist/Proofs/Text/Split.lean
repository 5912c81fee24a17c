/-
  Cutting a text at a character, and putting it together again.

  * `splitList_append`, `splitList_append_right`, `splitList_intercalate`: the pieces of a text
    that is put together of others.
  * `split_dot`, `intercalate_split`, `split_intercalate`: a text is cut at its dots, and
    its segments are put together again.
  * `cutLast_eq_some_iff`: where a text is cut at its last separator.
-/
import ElmAssist.Text.Split

namespace ElmAssist.Text

/-! ## Pieces -/

theorem splitList_append (sep : Char) (as bs : List Char) :
    splitList sep (as ++ sep :: bs) = splitList sep as ++ splitList sep bs := by
  induction as with
  | nil => simp [splitList]
  | cons a as ih =>
    rw [List.cons_append, splitList, splitList, ih]
    split
    · rfl
    · cases hs : splitList sep as with
      | nil => exact absurd hs (splitList_ne_nil sep as)
      | cons piece pieces => rfl

theorem splitList_of_not_mem {sep : Char} {cs : List Char} (h : sep ∉ cs) :
    splitList sep cs = [cs] := by
  induction cs with
  | nil => rfl
  | cons c cs ih =>
    rw [List.mem_cons, not_or] at h
    rw [splitList, ih h.2, if_neg (Ne.symm h.1)]

/-- The first piece ends at the first separator. -/
theorem splitList_append_of_not_mem {sep : Char} {as : List Char} (h : sep ∉ as)
    (bs : List Char) :
    ∃ piece pieces, splitList sep bs = piece :: pieces ∧
      splitList sep (as ++ bs) = (as ++ piece) :: pieces := by
  induction as with
  | nil =>
    obtain ⟨piece, pieces, hs⟩ := List.exists_cons_of_ne_nil (splitList_ne_nil sep bs)
    exact ⟨piece, pieces, hs, hs⟩
  | cons a as ih =>
    rw [List.mem_cons, not_or] at h
    obtain ⟨piece, pieces, hbs, has⟩ := ih h.2
    refine ⟨piece, pieces, hbs, ?_⟩
    rw [List.cons_append, splitList, has, if_neg (Ne.symm h.1), List.cons_append]

/-- A text ends like its last piece. -/
theorem getLast?_splitList {sep c : Char} {cs : List Char} (h : cs.getLast? = some c)
    (hc : c ≠ sep) :
    ∃ init piece, splitList sep cs = init ++ [piece] ∧ piece.getLast? = some c := by
  induction cs with
  | nil => simp at h
  | cons b rest ih =>
    rw [splitList]
    cases rest with
    | nil =>
      obtain rfl : b = c := by simpa using h
      exact ⟨[], [b], by simp [hc, splitList], rfl⟩
    | cons b' rest =>
      obtain ⟨init, piece, hs, hp⟩ := ih (by simpa using h)
      rw [hs]
      split
      · exact ⟨[] :: init, piece, rfl, hp⟩
      · cases init with
        | nil =>
          refine ⟨[], b :: piece, rfl, ?_⟩
          rw [List.getLast?_cons, hp]; rfl
        | cons first init => exact ⟨(b :: first) :: init, piece, rfl, hp⟩

/-- What holds of no separator is found in a text iff it is found in a piece. -/
theorem any_splitList {sep : Char} {P : Char → Bool} (hsep : P sep = false) (cs : List Char) :
    (splitList sep cs).any (·.any P) = cs.any P := by
  induction cs with
  | nil => rfl
  | cons c rest ih =>
    rw [splitList]
    split
    · next h => simp [h, hsep, ih]
    · cases hs : splitList sep rest with
      | nil => exact absurd hs (splitList_ne_nil sep rest)
      | cons piece pieces => simp [← ih, hs, Bool.or_assoc]

/-- No piece holds a separator. -/
theorem not_mem_of_mem_splitList {sep : Char} {cs piece : List Char}
    (h : piece ∈ splitList sep cs) : sep ∉ piece := by
  induction cs generalizing piece with
  | nil =>
    obtain rfl : piece = [] := by simpa [splitList] using h
    exact List.not_mem_nil
  | cons c cs ih =>
    rw [splitList] at h
    split at h
    · rcases List.mem_cons.1 h with rfl | h
      · exact List.not_mem_nil
      · exact ih h
    · next hc =>
      cases hs : splitList sep cs with
      | nil => exact absurd hs (splitList_ne_nil sep cs)
      | cons first rest =>
        rw [hs] at h ih
        rcases List.mem_cons.1 h with rfl | h
        · rw [List.mem_cons, not_or]
          exact ⟨Ne.symm hc, ih List.mem_cons_self⟩
        · exact ih (List.mem_cons_of_mem first h)

theorem joinList_concat {sep : Char} {pieces : List (List Char)} (h : pieces ≠ [])
    (last : List Char) : joinList sep (pieces ++ [last]) = joinList sep pieces ++ sep :: last := by
  fun_induction joinList sep pieces with
  | case1 => exact absurd rfl h
  | case2 piece => rfl
  | case3 piece pieces hne ih =>
    have hpieces : pieces ≠ [] := fun hnil => hne hnil
    rw [List.cons_append, joinList, ih hpieces, List.append_assoc, List.cons_append]
    simp

/-- Characters behind a text that are no separators belong to its last piece. -/
theorem splitList_append_right {sep : Char} {as last : List Char} {init : List (List Char)}
    (has : splitList sep as = init ++ [last]) {bs : List Char} (h : sep ∉ bs) :
    splitList sep (as ++ bs) = init ++ [last ++ bs] := by
  have hmem : last ∈ splitList sep as := by rw [has]; simp
  have hlast : sep ∉ last := not_mem_of_mem_splitList hmem
  have hboth : sep ∉ last ++ bs := List.not_mem_append hlast h
  have hjoin : joinList sep (init ++ [last]) = as := by rw [← has, joinList_splitList]
  by_cases hinit : init = []
  · subst hinit
    rw [← hjoin]
    exact splitList_of_not_mem hboth
  · rw [joinList_concat hinit] at hjoin
    -- What stands in front of the last separator has the other pieces.
    have hfront : splitList sep (joinList sep init) = init := by
      rw [← hjoin, splitList_append, splitList_of_not_mem hlast] at has
      exact List.append_cancel_right has
    rw [← hjoin, List.append_assoc, List.cons_append, splitList_append, hfront,
      splitList_of_not_mem hboth]

/-- **Pieces without separators** that are put together are the pieces of the whole. -/
theorem splitList_intercalate {sep : Char} {pieces : List (List Char)} (hne : pieces ≠ [])
    (h : ∀ piece ∈ pieces, sep ∉ piece) : splitList sep ([sep].intercalate pieces) = pieces := by
  induction pieces with
  | nil => exact absurd rfl hne
  | cons piece pieces ih =>
    rw [List.forall_mem_cons] at h
    cases pieces with
    | nil => rw [List.intercalate_singleton, splitList_of_not_mem h.1]
    | cons next rest =>
      rw [List.intercalate_cons_cons, List.append_assoc, List.singleton_append, splitList_append,
        splitList_of_not_mem h.1, ih (List.cons_ne_nil _ _) h.2, List.singleton_append]

/-- Replacing a separator by a character that is not in the text leaves its pieces. -/
theorem splitList_map {sep new : Char} {cs : List Char} (h : new ∉ cs) :
    splitList new (cs.map fun c => if c = sep then new else c) = splitList sep cs := by
  induction cs with
  | nil => rfl
  | cons c cs ih =>
    rw [List.mem_cons, not_or] at h
    rw [List.map_cons, splitList, splitList, ih h.2]
    by_cases hc : c = sep
    · rw [if_pos hc, if_pos rfl, if_pos hc]
    · rw [if_neg hc, if_neg (Ne.symm h.1), if_neg hc]

/-! ## Segments -/

theorem length_dot : ".".length = 1 := rfl

theorem split_ne_nil (sep : Char) (s : String) : split sep s ≠ [] := by
  rw [split, Ne, List.map_eq_nil_iff]
  exact splitList_ne_nil sep s.toList

/-- **Cutting at a dot** cuts both sides of it. -/
theorem split_dot (s t : String) : split '.' (s ++ "." ++ t) = split '.' s ++ split '.' t := by
  have htoList : (s ++ "." ++ t).toList = s.toList ++ '.' :: t.toList := by simp
  rw [split, htoList, splitList_append, List.map_append]
  rfl

theorem intercalate_ofList (pieces : List (List Char)) :
    ".".intercalate (pieces.map String.ofList) = String.ofList (joinList '.' pieces) := by
  fun_induction joinList '.' pieces with
  | case1 => rfl
  | case2 piece => simp
  | case3 piece pieces hne ih =>
    obtain ⟨next, rest, rfl⟩ := List.exists_cons_of_ne_nil fun h => hne h
    rw [List.map_cons, List.map_cons, String.intercalate_cons_cons, ← List.map_cons, ih]
    simp [String.ofList_append, String.append_assoc]

/-- **The segments of a text**, put together, are the text. -/
theorem intercalate_split (s : String) : ".".intercalate (split '.' s) = s := by
  rw [split, intercalate_ofList, joinList_splitList, String.ofList_toList]

/-- The segments of texts that are put together with dots are theirs. -/
theorem split_intercalate (front : List String) (last : String) :
    split '.' (".".intercalate (front ++ [last])) =
      front.flatMap (split '.') ++ split '.' last := by
  induction front with
  | nil => simp
  | cons first front ih =>
    obtain ⟨next, rest, hrest⟩ : ∃ next rest, front ++ [last] = next :: rest :=
      List.exists_cons_of_ne_nil (by simp)
    rw [List.cons_append, hrest, String.intercalate_cons_cons, ← hrest, split_dot, ih,
      List.flatMap_cons, List.append_assoc]

/-- Putting texts together with dots adds no other character. -/
theorem not_mem_intercalate {c : Char} (hc : c ≠ '.') {parts : List String}
    (h : ∀ part ∈ parts, c ∉ part.toList) : c ∉ (".".intercalate parts).toList := by
  induction parts with
  | nil => simp
  | cons part parts ih =>
    rw [List.forall_mem_cons] at h
    cases parts with
    | nil => simpa using h.1
    | cons next rest =>
      rw [String.intercalate_cons_cons, String.toList_append, String.toList_append,
        List.mem_append, List.mem_append]
      rintro ((hpart | hdot) | hrest)
      · exact h.1 hpart
      · exact hc (by simpa using hdot)
      · exact ih h.2 hrest

theorem split_of_not_mem {s : String} (h : '.' ∉ s.toList) : split '.' s = [s] := by
  rw [split, splitList_of_not_mem h, List.map_singleton, String.ofList_toList]

/-- Texts without dots that are put together are its segments. -/
theorem split_intercalate_of_not_mem {parts : List String} (hne : parts ≠ [])
    (h : ∀ part ∈ parts, '.' ∉ part.toList) : split '.' (".".intercalate parts) = parts := by
  have hpieces : ∀ piece ∈ parts.map String.toList, '.' ∉ piece := by simpa using h
  have hdot : ".".toList = ['.'] := rfl
  rw [split, String.toList_intercalate, hdot, splitList_intercalate (by simpa using hne) hpieces]
  simp

theorem not_mem_of_mem_split {sep : Char} {s segment : String} (h : segment ∈ split sep s) :
    sep ∉ segment.toList := by
  obtain ⟨piece, hpiece, rfl⟩ := List.mem_map.1 h
  rw [String.toList_ofList]
  exact not_mem_of_mem_splitList hpiece

/-! ## The last separator -/

theorem cutLastList_of_not_mem {sep : Char} {cs : List Char} (h : sep ∉ cs) :
    cutLastList sep cs = none := by
  induction cs with
  | nil => rfl
  | cons c cs ih =>
    rw [List.mem_cons, not_or] at h
    rw [cutLastList, ih h.2, if_neg (Ne.symm h.1)]

theorem cutLastList_append {sep : Char} {after : List Char} (h : sep ∉ after)
    (before : List Char) : cutLastList sep (before ++ sep :: after) = some (before, after) := by
  induction before with
  | nil => rw [List.nil_append, cutLastList, cutLastList_of_not_mem h, if_pos rfl]
  | cons c before ih => rw [List.cons_append, cutLastList, ih]

/-- A list that holds a separator is cut, and none is left behind the cut. -/
theorem exists_cutLastList {sep : Char} {cs : List Char} (h : sep ∈ cs) :
    ∃ before after, cutLastList sep cs = some (before, after) ∧ sep ∉ after := by
  induction cs with
  | nil => cases h
  | cons c cs ih =>
    rw [cutLastList]
    by_cases hcs : sep ∈ cs
    · obtain ⟨before, after, hcut, hafter⟩ := ih hcs
      exact ⟨c :: before, after, by rw [hcut], hafter⟩
    · have hc : c = sep := ((List.mem_cons.1 h).resolve_right hcs).symm
      exact ⟨[], cs, by rw [cutLastList_of_not_mem hcs, if_pos hc], hcs⟩

/-- **Cutting at the last separator** leaves none behind it. -/
theorem cutLast_eq_some_iff {sep : Char} {s before after : String} :
    cutLast sep s = some (before, after) ↔
      s.toList = before.toList ++ sep :: after.toList ∧ sep ∉ after.toList := by
  constructor
  · intro h
    obtain ⟨⟨bs, as⟩, hcut, hparts⟩ := Option.map_eq_some_iff.1 h
    obtain ⟨rfl, rfl⟩ := Prod.mk.inj hparts
    have hs := cutLastList_eq_some hcut
    have hmem : sep ∈ s.toList := by rw [hs]; simp
    obtain ⟨bs', as', hcut', hnot⟩ := exists_cutLastList hmem
    obtain ⟨-, rfl⟩ := Prod.mk.inj (Option.some.inj (hcut.symm.trans hcut'))
    exact ⟨by simpa using hs, by simpa using hnot⟩
  · rintro ⟨hs, hnot⟩
    rw [cutLast, hs, cutLastList_append hnot]
    simp

/-! ## Beginnings -/

theorem begins_iff {s start : String} : begins s start = true ↔ ∃ rest, s = start ++ rest := by
  rw [begins, List.isPrefixOf_iff_prefix]
  constructor
  · rintro ⟨cs, hcs⟩
    refine ⟨String.ofList cs, String.toList_injective ?_⟩
    rw [String.toList_append, String.toList_ofList, hcs]
  · rintro ⟨rest, rfl⟩
    exact ⟨rest.toList, (String.toList_append ..).symm⟩

@[simp] theorem begins_empty (s : String) : begins s "" = true := rfl

@[simp] theorem begins_self (s : String) : begins s s = true :=
  begins_iff.2 ⟨"", (String.append_empty ..).symm⟩

end ElmAssist.Text
