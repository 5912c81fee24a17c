/-
  What is left of a name behind a typed text.

  Imports are selected by the characters of their names, but what is left to be typed is
  found segment by segment.  The two agree where the name goes on with a dot behind the
  typed text.  Where it goes on with another character, the last typed segment is none of
  the name's, and all of its segments from there on are left.

  * `exists_last_segment`: a text at the last of its dots.
  * `remainingSegments_eq_nil_iff`: nothing is left iff the whole name is typed.
  * `exists_front`: what is left is the end of the name behind some of its dots, and the
    typed text with a dot stands in front of it iff the name begins with that.
-/
import ElmAssist.Completion.Engine
import ElmAssist.Proofs.Text.Split

namespace ElmAssist

namespace Text

/-! ## In front of a segment -/

/-- What stands in front of a segment: nothing, or a text that ends in a dot. -/
def EndsSegment (front : String) : Prop :=
  front = "" ∨ ∃ s, front = s ++ "."

/-- A text without its last segment. -/
theorem exists_last_segment (s : String) :
    ∃ front last, s = front ++ last ∧ EndsSegment front ∧ '.' ∉ last.toList := by
  suffices h : ∀ cs : List Char, ∃ front last, cs = front ++ last ∧
      (front = [] ∨ ∃ ds, front = ds ++ ['.']) ∧ '.' ∉ last by
    obtain ⟨front, last, hs, hfront, hlast⟩ := h s.toList
    refine ⟨String.ofList front, String.ofList last, ?_, ?_, by simpa using hlast⟩
    · rw [← String.ofList_append, ← hs, String.ofList_toList]
    · rcases hfront with rfl | ⟨ds, rfl⟩
      · exact .inl rfl
      · exact .inr ⟨String.ofList ds, String.ofList_append⟩
  intro cs
  induction cs with
  | nil => exact ⟨[], [], rfl, .inl rfl, List.not_mem_nil⟩
  | cons c cs ih =>
    obtain ⟨front, last, rfl, hfront, hlast⟩ := ih
    rcases hfront with rfl | ⟨ds, rfl⟩
    · by_cases hc : c = '.'
      · exact ⟨[c], last, rfl, .inr ⟨[], by simp [hc]⟩, hlast⟩
      · exact ⟨[], c :: last, rfl, .inl rfl, by simp [hlast, Ne.symm hc]⟩
    · exact ⟨c :: ds ++ ['.'], last, rfl, .inr ⟨c :: ds, rfl⟩, hlast⟩

/-- The segments of a text behind the front of one of them. -/
theorem EndsSegment.split {front : String} (h : EndsSegment front) :
    ∃ segments, ∀ t, Text.split '.' (front ++ t) = segments ++ Text.split '.' t := by
  rcases h with rfl | ⟨s, rfl⟩
  · exact ⟨[], fun t => by rw [String.empty_append, List.nil_append]⟩
  · exact ⟨Text.split '.' s, fun t => split_dot s t⟩

end Text

namespace Completion

open Text

/-! ## Common segments -/

theorem commonLength_append (as bs cs : List String) :
    commonLength (as ++ bs) (as ++ cs) = as.length + commonLength bs cs := by
  induction as with
  | nil => simp
  | cons a as ih =>
    rw [List.cons_append, List.cons_append, commonLength, if_pos rfl, ih, List.length_cons]
    omega

@[simp] theorem commonLength_nil (as : List String) : commonLength as [] = 0 := by
  cases as <;> rfl

theorem commonLength_of_ne {a b : String} (h : a ≠ b) (as bs : List String) :
    commonLength (a :: as) (b :: bs) = 0 := by
  rw [commonLength, if_neg h]

theorem commonLength_self (as : List String) : commonLength as as = as.length := by
  simpa using commonLength_append as [] []

/-! ## What is left of a name -/

/-- Nothing has been typed, so all segments are left. -/
@[simp] theorem remainingSegments_empty (name : String) :
    remainingSegments name "" = split '.' name := by
  simp [remainingSegments]

theorem remainingSegments_of_ne {typed : String} (h : typed ≠ "") (name : String) :
    remainingSegments name typed =
      (split '.' name).drop (commonLength (split '.' name) (split '.' typed)) := by
  have hempty : typed.isEmpty = false := by simpa using h
  rw [remainingSegments, hempty, if_neg Bool.false_ne_true]

theorem remainingSegments_self {name : String} (h : name ≠ "") :
    remainingSegments name name = [] := by
  rw [remainingSegments_of_ne h, commonLength_self, List.drop_length]

/-- Behind a typed text and a dot, the rest of the name is left. -/
theorem remainingSegments_dot {typed : String} (h : typed ≠ "") (rest : String) :
    remainingSegments (typed ++ "." ++ rest) typed = split '.' rest := by
  have hcommon := commonLength_append (split '.' typed) (split '.' rest) []
  rw [List.append_nil, commonLength_nil, Nat.add_zero] at hcommon
  rw [remainingSegments_of_ne h, split_dot, hcommon, List.drop_left]

/-- Where the name goes on within the last typed segment, this segment of it is left as a
    whole, with all that follow. -/
theorem remainingSegments_within {front last : String} {c : Char} (hfront : EndsSegment front)
    (hlast : '.' ∉ last.toList) (hc : c ≠ '.') (rest : String) (htyped : front ++ last ≠ "") :
    remainingSegments (front ++ (last ++ (String.ofList [c] ++ rest))) (front ++ last) =
      split '.' (last ++ (String.ofList [c] ++ rest)) := by
  obtain ⟨segments, hsegments⟩ := hfront.split
  -- The first segment that is left is longer than the last one that is typed.
  have hne : '.' ∉ (last ++ String.ofList [c]).toList := by simpa [hlast] using Ne.symm hc
  obtain ⟨piece, pieces, -, hsplit⟩ := splitList_append_of_not_mem hne rest.toList
  have hname : split '.' (last ++ (String.ofList [c] ++ rest)) =
      String.ofList ((last ++ String.ofList [c]).toList ++ piece) :: pieces.map String.ofList := by
    have htoList : (last ++ (String.ofList [c] ++ rest)).toList =
        (last ++ String.ofList [c]).toList ++ rest.toList := by simp
    rw [split, htoList, hsplit, List.map_cons]
  have hlonger : String.ofList ((last ++ String.ofList [c]).toList ++ piece) ≠ last := by
    intro h
    have hlength := congrArg String.length h
    simp at hlength
  rw [remainingSegments_of_ne htyped, hsegments, hsegments, hname, split_of_not_mem hlast,
    commonLength_append, commonLength_of_ne hlonger, Nat.add_zero, List.drop_left]

/-- The ways in which a name begins with a typed text: it is that text, goes on behind a dot,
    or goes on within its last segment. -/
theorem begins_cases {name typed : String} (h : begins name typed = true) :
    name = typed ∨ (∃ rest, name = typed ++ "." ++ rest) ∨
      ∃ front last c rest, typed = front ++ last ∧ EndsSegment front ∧ '.' ∉ last.toList ∧
        c ≠ '.' ∧ name = front ++ (last ++ (String.ofList [c] ++ rest)) := by
  obtain ⟨rest, rfl⟩ := begins_iff.1 h
  rcases hrest : rest.toList with _ | ⟨c, cs⟩
  · have hempty : rest = "" := by rwa [String.toList_eq_nil_iff] at hrest
    exact .inl (by rw [hempty, String.append_empty])
  · have hcons : rest = String.ofList [c] ++ String.ofList cs := by
      rw [← String.ofList_append, List.singleton_append, ← hrest, String.ofList_toList]
    by_cases hc : c = '.'
    · refine .inr (.inl ⟨String.ofList cs, ?_⟩)
      rw [hcons, hc, String.append_assoc]
    · obtain ⟨front, last, rfl, hfront, hlast⟩ := exists_last_segment typed
      refine .inr (.inr ⟨front, last, c, String.ofList cs, rfl, hfront, hlast, hc, ?_⟩)
      rw [hcons, String.append_assoc]

/-- **Nothing is left** iff the whole name has been typed. -/
theorem remainingSegments_eq_nil_iff {name typed : String} (h : begins name typed = true) :
    remainingSegments name typed = [] ↔ name = typed ∧ typed ≠ "" := by
  by_cases htyped : typed = ""
  · rw [htyped, remainingSegments_empty]
    simpa using split_ne_nil '.' name
  rcases begins_cases h with rfl | ⟨rest, rfl⟩ | ⟨front, last, c, rest, rfl, hfront, hlast, hc, rfl⟩
  · simp [remainingSegments_self htyped, htyped]
  · rw [remainingSegments_dot htyped]
    refine iff_of_false (split_ne_nil '.' rest) fun hself => ?_
    have hlength := congrArg String.length hself.1
    simp only [String.length_append, length_dot] at hlength
    omega
  · rw [remainingSegments_within hfront hlast hc rest htyped]
    refine iff_of_false (split_ne_nil '.' _) fun hself => ?_
    have hlength := congrArg String.length hself.1
    simp at hlength

/-- **What is left of a name** is its end behind some of its dots, up to which it agrees with
    the typed text and a dot; it is what follows these iff the name begins with them. -/
theorem exists_front {name typed : String} (h : begins name typed = true) (hne : name ≠ typed)
    (htyped : typed ≠ "") :
    ∃ front, EndsSegment front ∧ begins (typed ++ ".") front = true ∧
      name = front ++ ".".intercalate (remainingSegments name typed) ∧
      (front = typed ++ "." ↔ begins name (typed ++ ".") = true) := by
  rcases begins_cases h with rfl | ⟨rest, rfl⟩ | ⟨front, last, c, rest, rfl, hfront, hlast, hc, rfl⟩
  · exact absurd rfl hne
  · refine ⟨typed ++ ".", .inr ⟨typed, rfl⟩, begins_self _, ?_, ?_⟩
    · rw [remainingSegments_dot htyped, intercalate_split]
    · exact iff_of_true rfl (begins_iff.2 ⟨rest, rfl⟩)
  · refine ⟨front, hfront, ?_, ?_, iff_of_false ?_ ?_⟩
    · exact begins_iff.2 ⟨last ++ ".", String.append_assoc ..⟩
    · rw [remainingSegments_within hfront hlast hc rest htyped, intercalate_split]
    · intro hself
      have hlength := congrArg String.length hself
      simp only [String.length_append, length_dot] at hlength
      omega
    · intro hdot
      obtain ⟨more, hmore⟩ := begins_iff.1 hdot
      have hlist := congrArg String.toList hmore
      simp [hc] at hlist

end Completion

end ElmAssist
