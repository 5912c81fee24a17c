/-
  Syntax trees and their values.

  A tree has a value if all of its parts have one, and the value has the shape of the tree.
  Records may be written as objects or as lists; `part?` is the value of a field in either.

  * `values?_eq_some_iff`, `memberValues?_eq_some_iff`: the values of items and members.
  * `Raw.rel_part?`: the fields of a value are those of its tree.
-/
import ElmAssist.Json.Reader
import Mathlib.Data.List.Forall2
import Mathlib.Data.Option.Basic

namespace ElmAssist

/-- A function that is defined for all elements of a list gives one result for each. -/
theorem mapM_eq_some_iff {α β : Type} {f : α → Option β} {l : List α} {l' : List β} :
    l.mapM f = some l' ↔ List.Forall₂ (fun a b => f a = some b) l l' := by
  induction l generalizing l' with
  | nil => cases l' <;> simp
  | cons a l ih =>
    rw [List.mapM_cons]
    constructor
    · intro h
      simp only [bind, pure, Option.bind_eq_some_iff, Option.some.injEq] at h
      obtain ⟨b, hb, bs, hbs, rfl⟩ := h
      exact .cons hb (ih.1 hbs)
    · rintro (_ | ⟨hb, hbs⟩)
      rw [hb, ih.2 hbs]
      rfl

namespace Json

variable {raw : Raw} {j : Json} {room : Nat}

/-! ## Values of trees -/

namespace Raw

theorem values?_eq_some_iff {items : List Raw} {vs : List Json} :
    values? room items = some vs ↔ List.Forall₂ (fun item v => value? room item = some v) items vs := by
  rw [← mapM_eq_some_iff]
  have hmapM : values? room items = items.mapM (value? room) := by
    induction items with
    | nil => simp [values?]
    | cons item items ih => rw [values?, List.mapM_cons, ih]
  rw [hmapM]

/-- A member has a value if its key denotes a text and what stands behind it has a value. -/
def memberValue? (room : Nat) (m : Option String × Raw) : Option (String × Json) :=
  m.1.bind fun key => (value? room m.2).map fun v => (key, v)

theorem memberValues?_eq_mapM (room : Nat) (members : List (Option String × Raw)) :
    memberValues? room members = members.mapM (memberValue? room) := by
  induction members with
  | nil => simp [memberValues?]
  | cons m members ih =>
    obtain ⟨key, raw⟩ := m
    rw [memberValues?, List.mapM_cons, ih, memberValue?]
    cases key <;> cases value? room raw <;> rfl

theorem memberValue?_eq_some_iff {m : Option String × Raw} {v : String × Json} :
    memberValue? room m = some v ↔ m.1 = some v.1 ∧ value? room m.2 = some v.2 := by
  obtain ⟨key, raw⟩ := m
  obtain ⟨k, value⟩ := v
  cases key <;> simp [memberValue?, and_comm]

theorem memberValues?_eq_some_iff {members : List (Option String × Raw)}
    {vs : List (String × Json)} : memberValues? room members = some vs ↔
      List.Forall₂ (fun m v => m.1 = some v.1 ∧ value? room m.2 = some v.2) members vs := by
  rw [memberValues?_eq_mapM, mapM_eq_some_iff]
  simp only [memberValue?_eq_some_iff]

/-- Only a text has a text as its value. -/
theorem eq_string_of_value? {s : String} (h : raw.value? room = some (.string s)) :
    raw = .string (some s) := by
  cases raw with
  | string text => cases text <;> simp_all [value?]
  | array items => cases room <;> simp [value?] at h
  | object members => cases room <;> simp [value?] at h
  | null | bool | number => simp [value?] at h

theorem eq_object_of_value? {vs : List (String × Json)} (h : raw.value? room = some (.object vs)) :
    ∃ members room', room = room' + 1 ∧ raw = .object members ∧
      memberValues? room' members = some vs := by
  cases raw with
  | object members => cases room <;> simp_all [value?]
  | array items => cases room <;> simp [value?] at h
  | null | bool | number | string => simp [value?] at h

theorem eq_array_of_value? {vs : List Json} (h : raw.value? room = some (.array vs)) :
    ∃ items room', room = room' + 1 ∧ raw = .array items ∧ values? room' items = some vs := by
  cases raw with
  | array items => cases room <;> simp_all [value?]
  | object members => cases room <;> simp [value?] at h
  | null | bool | number | string => simp [value?] at h

end Raw

/-! ## Records -/

/-- The value of a field of a record: that of the first member with its key in an object, the
    item in its place in a list. -/
def part? (key : String) (place : Nat) : Json → Option Json
  | .object members => (members.find? (·.1 == key)).map (·.2)
  | .array items => items[place]?
  | _ => none

/-- The syntax tree of a field of a record. -/
def Raw.part? (key : String) (place : Nat) : Raw → Option Raw
  | .object members => (members.find? (·.1 == some key)).map (·.2)
  | .array items => items[place]?
  | _ => none

/-- A tree has a value. -/
def Raw.HasValue (raw : Raw) (j : Json) : Prop :=
  ∃ room, raw.value? room = some j

theorem Raw.rel_items {items : List Raw} {vs : List Json}
    (h : List.Forall₂ (fun item v => item.value? room = some v) items vs) (place : Nat) :
    Option.Rel Raw.HasValue items[place]? vs[place]? := by
  induction h generalizing place with
  | nil => exact .none
  | cons hitem _ ih =>
    cases place with
    | zero => exact .some ⟨room, hitem⟩
    | succ place => simpa using ih place

theorem Raw.rel_members {members : List (Option String × Raw)} {vs : List (String × Json)}
    (h : List.Forall₂ (fun m v => m.1 = some v.1 ∧ m.2.value? room = some v.2) members vs)
    (key : String) :
    Option.Rel Raw.HasValue ((members.find? (·.1 == some key)).map (·.2))
      ((vs.find? (·.1 == key)).map (·.2)) := by
  induction h with
  | nil => exact .none
  | cons hm _ ih =>
    rw [List.find?_cons, List.find?_cons, hm.1, Option.some_beq_some]
    split
    · exact .some ⟨room, hm.2⟩
    · exact ih

/-- **The fields of a value** are the values of the fields of its tree. -/
theorem Raw.rel_part? (h : raw.HasValue j) (key : String) (place : Nat) :
    Option.Rel Raw.HasValue (raw.part? key place) (j.part? key place) := by
  obtain ⟨room, h⟩ := h
  cases j with
  | object vs =>
    obtain ⟨members, room, -, rfl, hvs⟩ := Raw.eq_object_of_value? h
    exact Raw.rel_members (Raw.memberValues?_eq_some_iff.1 hvs) key
  | array vs =>
    obtain ⟨items, room, -, rfl, hvs⟩ := Raw.eq_array_of_value? h
    exact Raw.rel_items (Raw.values?_eq_some_iff.1 hvs) place
  | string s =>
    rw [Raw.eq_string_of_value? h]
    exact .none
  | null | bool | number =>
    cases raw with
    | array items => cases room <;> simp [value?] at h
    | object members => cases room <;> simp [value?] at h
    | null | bool | number | string => exact .none

end Json

end ElmAssist
