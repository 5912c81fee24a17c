/-
  What a module shows under an exposing list.

  * `view_within`: the more a list exposes (`Exposing.Within`), the more the module shows.
  * `view_perm_iff`: the entries may be put in any order exactly if no two of them disagree about
    the constructors of a type that has some.
  * `view_monotone`: what is shown is a part of what is declared, in the same order; further entries
    only add to it; and as long as no type is listed twice, the order of the entries does not
    matter.
-/
import ElmAssist.Elm.ExposedView
import Mathlib.Data.List.Basic
import Mathlib.Data.List.Flatten

namespace ElmAssist.Elm

/-! ## Exposing lists -/

/-- The name of the type that an entry lists. -/
def ExposedItem.typeName? : ExposedItem → Option String
  | type name _ => some name
  | _ => none

theorem ExposedItem.opens?_eq_some_iff {item : ExposedItem} {name : String} {b : Bool} :
    item.opens? name = some b ↔ item = .type name b := by
  cases item with
  | value | operator => simp [opens?]
  | type n constructors =>
    rw [opens?, type.injEq]
    split
    · next h => simp [eq_of_beq h]
    · next h => simp [beq_eq_false_iff_ne.1 (Bool.eq_false_iff.2 h)]

namespace Exposing

/-- What `e` exposes, `e'` exposes as well. -/
structure Within (e e' : Exposing) : Prop where
  value : ∀ name, e.exposesValue name = true → e'.exposesValue name = true
  type : ∀ name, (e.exposesType? name).isSome = true → (e'.exposesType? name).isSome = true
  constructors : ∀ name, e.exposesType? name = some true → e'.exposesType? name = some true

theorem within_all (e : Exposing) : e.Within .all :=
  ⟨fun _ _ => rfl, fun _ _ => rfl, fun _ _ => rfl⟩

variable {items : List ExposedItem} {name : String} {b : Bool}

/-- Entries at the end come too late to take anything back. -/
theorem within_append (items more : List ExposedItem) :
    Within (.explicit items) (.explicit (items ++ more)) where
  value name h := by
    rw [exposesValue, List.any_append, Bool.or_eq_true]
    exact .inl h
  type name h := by
    rw [exposesType?, List.findSome?_append, Option.isSome_or, Bool.or_eq_true]
    exact .inl h
  constructors name h := by
    rw [exposesType?] at h
    rw [exposesType?, List.findSome?_append, h, Option.some_or]

theorem mem_of_exposesType? (h : exposesType? name (.explicit items) = some b) :
    .type name b ∈ items := by
  obtain ⟨item, hitem, hopens⟩ := List.exists_of_findSome?_eq_some h
  rwa [← ExposedItem.opens?_eq_some_iff.1 hopens]

theorem isSome_exposesType?_iff :
    (exposesType? name (.explicit items)).isSome = true ↔ ∃ b, .type name b ∈ items := by
  constructor
  · intro h
    obtain ⟨b, hb⟩ := Option.isSome_iff_exists.1 h
    exact ⟨b, mem_of_exposesType? hb⟩
  · rintro ⟨b, hb⟩
    rw [exposesType?, List.findSome?_isSome_iff]
    exact ⟨_, hb, by rw [ExposedItem.opens?_eq_some_iff.2 rfl]; rfl⟩

/-- The entries of a type agree about its constructors. -/
def Agrees (items : List ExposedItem) (name : String) : Prop :=
  ∀ a b, .type name a ∈ items → .type name b ∈ items → a = b

/-- Where the entries agree, the first one is like any other. -/
theorem exposesType?_eq_some_iff (h : Agrees items name) :
    exposesType? name (.explicit items) = some b ↔ .type name b ∈ items := by
  refine ⟨mem_of_exposesType?, fun hb => ?_⟩
  obtain ⟨a, ha⟩ := Option.isSome_iff_exists.1 (isSome_exposesType?_iff.2 ⟨b, hb⟩)
  rw [ha, h a b (mem_of_exposesType? ha) hb]

theorem agrees_of_nodup (h : (items.filterMap ExposedItem.typeName?).Nodup) (name : String) :
    Agrees items name := by
  induction items with
  | nil => exact fun a b ha => absurd ha List.not_mem_nil
  | cons item rest ih =>
    have hlisted : ∀ c, .type name c ∈ rest → name ∈ rest.filterMap ExposedItem.typeName? :=
      fun c hc => List.mem_filterMap.2 ⟨_, hc, rfl⟩
    have hrest : (rest.filterMap ExposedItem.typeName?).Nodup :=
      h.sublist ((List.sublist_cons_self item rest).filterMap _)
    intro a b ha hb
    rcases List.mem_cons.1 ha with rfl | ha'
    · rcases List.mem_cons.1 hb with hb | hb
      · cases hb
        rfl
      · exact absurd (hlisted b hb) (List.nodup_cons.1 h).1
    · rcases List.mem_cons.1 hb with rfl | hb'
      · exact absurd (hlisted a ha') (List.nodup_cons.1 h).1
      · exact ih hrest a b ha' hb'

end Exposing

/-! ## Views -/

/-- What a module shows, or has to show: functions, types, and constructors with their types. -/
@[ext] structure View where
  functions : List Function
  types : List CustomType
  constructors : List (CustomType × String)
  deriving DecidableEq, Repr

/-- Each list of a view is a subsequence of that of another. -/
structure View.Within (v w : View) : Prop where
  functions : v.functions.Sublist w.functions
  types : v.types.Sublist w.types
  constructors : v.constructors.Sublist w.constructors

namespace Module

/-- What a module shows if its header exposes `e`. -/
def view (m : Module) (e : Exposing) : View :=
  let shown : Module := { m with exposing := e }
  ⟨shown.exposedFunctions, shown.exposedTypes, shown.exposedConstructors⟩

/-- What a module declares. -/
def declared (m : Module) : View :=
  ⟨m.functions, m.types, m.types.flatMap fun t => t.constructors.map fun c => (t, c)⟩

/-- The constructors of a type that are shown. -/
def shownConstructors (e : Exposing) (t : CustomType) : List (CustomType × String) :=
  if e.exposesType? t.name = some true then t.constructors.map fun c => (t, c) else []

variable {m : Module} {e e' : Exposing}

/-- The constructors are shown type by type. -/
theorem constructors_view (m : Module) (e : Exposing) :
    (m.view e).constructors = m.types.flatMap (shownConstructors e) := by
  show ((m.types.filter _).filter _).flatMap _ = _
  rw [List.filter_filter]
  induction m.types with
  | nil => rfl
  | cons t rest ih =>
    rw [List.flatMap_cons, ← ih, shownConstructors, List.filter_cons]
    by_cases h : e.exposesType? t.name = some true
    · rw [if_pos h, if_pos (by simp [h])]
      rfl
    · rw [if_neg h, if_neg (by simp [h])]
      rfl

/-- **A longer view**: the more is exposed, the more is shown. -/
theorem view_within (m : Module) (h : e.Within e') : (m.view e).Within (m.view e') where
  functions := List.monotone_filter_right _ fun f hf => h.value f.name hf
  types := List.monotone_filter_right _ fun t ht => h.type t.name ht
  constructors := by
    rw [constructors_view, constructors_view]
    refine List.Sublist.flatMap_right _ fun t _ => ?_
    rw [shownConstructors, shownConstructors]
    split
    · next ht => rw [if_pos (h.constructors t.name ht)]
    · exact List.nil_sublist _

theorem view_all (m : Module) : m.view .all = m.declared := by
  have hfunctions : (m.view .all).functions = m.functions := List.filter_true m.functions
  have htypes : (m.view .all).types = m.types := List.filter_true m.types
  exact View.ext hfunctions htypes (constructors_view m .all)

/-! ## The order of the entries -/

variable {items items' : List ExposedItem}

/-- What is shown depends on what is exposed of the declarations only. -/
theorem view_congr (hvalues : ∀ f ∈ m.functions, e.exposesValue f.name = e'.exposesValue f.name)
    (htypes : ∀ t ∈ m.types,
      (e.exposesType? t.name).isSome = (e'.exposesType? t.name).isSome)
    (hconstructors : ∀ t ∈ m.types, t.constructors ≠ [] →
      (e.exposesType? t.name = some true ↔ e'.exposesType? t.name = some true)) :
    m.view e = m.view e' := by
  refine View.ext (List.filter_congr hvalues) (List.filter_congr htypes) ?_
  rw [constructors_view, constructors_view]
  refine List.flatMap_congr fun t ht => ?_
  by_cases hnil : t.constructors = []
  · rw [shownConstructors, shownConstructors, hnil]
    simp
  · rw [shownConstructors, shownConstructors]
    exact if_congr (hconstructors t ht hnil) rfl rfl

theorem exposesType?_perm_cons {name : String} {b : Bool} (h : .type name b ∈ items) :
    ∃ items', items'.Perm items ∧ Exposing.exposesType? name (.explicit items') = some b := by
  refine ⟨.type name b :: items.erase (.type name b), (List.perm_cons_erase h).symm, ?_⟩
  rw [Exposing.exposesType?, List.findSome?_cons, ExposedItem.opens?_eq_some_iff.2 rfl]

/-- **When the order of the entries does not matter**: exactly if the entries of each declared type
    that has constructors agree about them. -/
theorem view_perm_iff (m : Module) (items : List ExposedItem) :
    (∀ items', items'.Perm items → m.view (.explicit items') = m.view (.explicit items)) ↔
      ∀ t ∈ m.types, t.constructors ≠ [] → Exposing.Agrees items t.name := by
  constructor
  · intro h t ht hne
    obtain ⟨c, hc⟩ := List.exists_mem_of_ne_nil _ hne
    -- An order in which an entry comes first tells whether that entry shows the constructors.
    have hshown : ∀ b, .type t.name b ∈ items →
        ((t, c) ∈ (m.view (.explicit items)).constructors ↔ b = true) := by
      intro b hb
      obtain ⟨items', hperm, hfirst⟩ := exposesType?_perm_cons hb
      rw [← h items' hperm]
      show (t, c) ∈ exposedConstructors _ ↔ _
      rw [mem_exposedConstructors]
      show t ∈ m.types ∧ Exposing.exposesType? t.name (.explicit items') = some true ∧ _ ↔ _
      rw [hfirst, Option.some.injEq]
      exact ⟨fun hmem => hmem.2.1, fun hb => ⟨ht, hb, hc⟩⟩
    intro a b ha hb
    rw [Bool.eq_iff_iff, ← hshown a ha, hshown b hb]
  · intro h items' hperm
    refine view_congr (fun f _ => hperm.any_eq) (fun t _ => ?_) fun t ht hne => ?_
    · rw [Bool.eq_iff_iff, Exposing.isSome_exposesType?_iff, Exposing.isSome_exposesType?_iff]
      simp only [hperm.mem_iff]
    · have hagrees : Exposing.Agrees items' t.name := fun a b ha hb =>
        h t ht hne a b (hperm.mem_iff.1 ha) (hperm.mem_iff.1 hb)
      rw [Exposing.exposesType?_eq_some_iff hagrees, Exposing.exposesType?_eq_some_iff (h t ht hne),
        hperm.mem_iff]

/-- A type that is listed with its constructors and without them. -/
example : let m : Module := { types := [⟨"Color", ["Red"], none⟩] }
    (m.view (.explicit [.type "Color" true, .type "Color" false])).constructors ≠
      (m.view (.explicit [.type "Color" false, .type "Color" true])).constructors := by
  decide

/-! ## Views of a module -/

/-- **What is shown** is a part of what is declared, in the same order.  A further entry, or two
    dots in place of the list, only add to it.  A constructor is shown with its type, and as long as
    no type is listed twice, the order of the entries does not matter. -/
theorem view_monotone (m : Module) (items : List ExposedItem) :
    (m.view (.explicit items)).Within m.declared ∧
    (∀ item, (m.view (.explicit items)).Within (m.view (.explicit (items ++ [item])))) ∧
    (m.view (.explicit items)).Within (m.view .all) ∧
    (∀ t c, (t, c) ∈ (m.view (.explicit items)).constructors →
      t ∈ (m.view (.explicit items)).types ∧ c ∈ t.constructors) ∧
    ((items.filterMap ExposedItem.typeName?).Nodup → ∀ items', items'.Perm items →
      m.view (.explicit items') = m.view (.explicit items)) := by
  have hall := m.view_within (Exposing.within_all (.explicit items))
  refine ⟨m.view_all ▸ hall, fun item => m.view_within (Exposing.within_append items [item]), hall,
    fun t c hc => ?_, fun hnodup => ?_⟩
  · obtain ⟨ht, hopened, hmem⟩ := mem_exposedConstructors.1 hc
    exact ⟨mem_exposedTypes.2 ⟨ht, by rw [hopened]; rfl⟩, hmem⟩
  · exact (view_perm_iff m items).2 fun t _ _ => Exposing.agrees_of_nodup hnodup t.name

/-- A type with its constructors, and one without, listed the other way round. -/
theorem view_monotone_twoTypes :
    let color : CustomType := ⟨"Color", ["Red", "Green"], none⟩
    let shade : CustomType := ⟨"Shade", ["Dark"], none⟩
    let m : Module := { functions := [⟨"mix", none, none⟩], types := [color, shade] }
    let items : List ExposedItem := [.type "Color" true, .value "mix", .type "Shade" false]
    (color, "Green") ∈ (m.view (.explicit items)).constructors ∧
      color ∈ (m.view (.explicit items)).types ∧
      (items.filterMap ExposedItem.typeName?).Nodup ∧ items.reverse.Perm items ∧
      m.view (.explicit items.reverse) = m.view (.explicit items) := by
  intro color shade m items
  obtain ⟨-, -, -, hconstructors, hperm⟩ := view_monotone m items
  have hgreen : (color, "Green") ∈ (m.view (.explicit items)).constructors := by decide
  have hnodup : (items.filterMap ExposedItem.typeName?).Nodup := by decide
  exact ⟨hgreen, (hconstructors _ _ hgreen).1, hnodup, items.reverse_perm,
    hperm hnodup _ items.reverse_perm⟩

end Module

end ElmAssist.Elm
