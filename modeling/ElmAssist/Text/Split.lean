/-
  Cutting a text at a character.

  `splitList sep` keeps every piece, the empty ones too, so that joining the
  pieces with `sep` gives the text back (`joinList_splitList`).  `cutLast` cuts
  only at the last occurrence.
-/

namespace ElmAssist.Text

/-- The pieces of a list between the occurrences of `sep`; there is always at
    least one. -/
def splitList (sep : Char) : List Char → List (List Char)
  | [] => [[]]
  | c :: rest =>
    if c = sep then [] :: splitList sep rest
    else match splitList sep rest with
      | [] => [[c]]
      | piece :: pieces => (c :: piece) :: pieces

/-- The pieces with `sep` between neighbours. -/
def joinList (sep : Char) : List (List Char) → List Char
  | [] => []
  | [piece] => piece
  | piece :: pieces => piece ++ sep :: joinList sep pieces

/-- The pieces of a text between the occurrences of `sep`. -/
def split (sep : Char) (s : String) : List String :=
  (splitList sep s.toList).map String.ofList

theorem splitList_ne_nil (sep : Char) (cs : List Char) : splitList sep cs ≠ [] := by
  cases cs with
  | nil => simp [splitList]
  | cons c rest =>
    rw [splitList]
    split
    · simp
    · split <;> simp

/-- **Joining the pieces gives the text back.** -/
theorem joinList_splitList (sep : Char) (cs : List Char) :
    joinList sep (splitList sep cs) = cs := by
  induction cs with
  | nil => rfl
  | cons c rest ih =>
    rw [splitList]
    split
    · rename_i h
      subst h
      match hs : splitList c rest with
      | [] => exact absurd hs (splitList_ne_nil c rest)
      | piece :: pieces => simp [joinList, ← hs, ih]
    · match hs : splitList sep rest with
      | [] => exact absurd hs (splitList_ne_nil sep rest)
      | [piece] => simp_all [joinList]
      | piece :: next :: pieces => simp_all [joinList]

/-- Whether a text begins with another. -/
def begins (s start : String) : Bool :=
  start.toList.isPrefixOf s.toList

/-! ## The last occurrence -/

/-- The parts of a list before and after the last `sep`, if there is one. -/
def cutLastList (sep : Char) : List Char → Option (List Char × List Char)
  | [] => none
  | c :: rest =>
    match cutLastList sep rest with
    | some (before, after) => some (c :: before, after)
    | none => if c = sep then some ([], rest) else none

/-- The parts of a text before and after the last `sep`, if there is one. -/
def cutLast (sep : Char) (s : String) : Option (String × String) :=
  (cutLastList sep s.toList).map fun (before, after) => (String.ofList before, String.ofList after)

theorem cutLastList_eq_some {sep : Char} {cs before after : List Char}
    (h : cutLastList sep cs = some (before, after)) : cs = before ++ sep :: after := by
  induction cs generalizing before after with
  | nil => simp [cutLastList] at h
  | cons c rest ih =>
    rw [cutLastList] at h
    split at h
    · rename_i b a hr
      simp only [Option.some.injEq, Prod.mk.injEq] at h
      obtain ⟨rfl, rfl⟩ := h
      simp [ih hr]
    · split at h
      · simp_all
      · simp at h

end ElmAssist.Text
