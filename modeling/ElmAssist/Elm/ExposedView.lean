/-
  The public side of a module: its declarations, in order, as far as its header
  exposes them.
-/
import ElmAssist.Elm.Module

namespace ElmAssist.Elm.Module

/-- The exposed functions and ports. -/
def exposedFunctions (m : Module) : List Function :=
  m.functions.filter fun f => m.exposing.exposesValue f.name

/-- The exposed custom types, with or without their constructors. -/
def exposedTypes (m : Module) : List CustomType :=
  m.types.filter fun t => (m.exposing.exposesType? t.name).isSome

/-- The constructors of the types that are exposed with their constructors, each
    with the type it builds. -/
def exposedConstructors (m : Module) : List (CustomType × String) :=
  (m.exposedTypes.filter fun t => m.exposing.exposesType? t.name == some true).flatMap fun t =>
    t.constructors.map fun c => (t, c)

theorem mem_exposedFunctions {m : Module} {f : Function} :
    f ∈ m.exposedFunctions ↔ f ∈ m.functions ∧ m.exposing.exposesValue f.name = true := by
  simp [exposedFunctions]

theorem mem_exposedTypes {m : Module} {t : CustomType} :
    t ∈ m.exposedTypes ↔ t ∈ m.types ∧ (m.exposing.exposesType? t.name).isSome = true := by
  simp [exposedTypes]

theorem mem_exposedConstructors {m : Module} {t : CustomType} {c : String} :
    (t, c) ∈ m.exposedConstructors ↔
      t ∈ m.types ∧ m.exposing.exposesType? t.name = some true ∧ c ∈ t.constructors := by
  simp only [exposedConstructors, List.mem_flatMap, List.mem_filter, mem_exposedTypes, List.mem_map,
    Prod.mk.injEq, beq_iff_eq]
  constructor
  · rintro ⟨u, ⟨⟨hu, _⟩, he⟩, d, hd, rfl, rfl⟩
    exact ⟨hu, he, hd⟩
  · rintro ⟨ht, he, hc⟩
    exact ⟨t, ⟨⟨ht, by simp [he]⟩, he⟩, c, hc, rfl, rfl⟩

end ElmAssist.Elm.Module
