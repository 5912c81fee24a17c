/-
  The packages that a manifest declares.

  * `PackageMap.ordered_ofEntries`, `PackageMap.mem_ofEntries`: a map of packages is in the
    order of the names, and holds the last value of each.
  * `Manifest.exists_declared`: the packages are those of a map in the contents of the manifest.
-/
import ElmAssist.Project.Manifest
import ElmAssist.Proofs.Json.Tree
import Mathlib.Data.List.Induction
import Mathlib.Data.String.Basic

namespace ElmAssist

open Json

/-! ## Maps of packages -/

/-- The last value that a name has in a list of entries. -/
def IsLastValue (entries : List (String × String)) (name value : String) : Prop :=
  ∃ before after, entries = before ++ (name, value) :: after ∧ ∀ e ∈ after, e.1 ≠ name

namespace PackageMap

/-- The names of a map are in strictly increasing order. -/
def Ordered (map : PackageMap) : Prop :=
  map.Pairwise fun a b => a.1 < b.1

/-- The map that entries make one after the other. -/
def ofEntries (entries : List (String × String)) : PackageMap :=
  entries.foldl (fun map (name, version) => map.insert name version) []

variable {map : PackageMap} {entries : List (String × String)} {name version n v : String}

theorem ofEntries_concat (entries : List (String × String)) (name version : String) :
    ofEntries (entries ++ [(name, version)]) = (ofEntries entries).insert name version := by
  rw [ofEntries, List.foldl_append]
  rfl

/-- A name that is added is there with its value, and all others are there as before. -/
theorem mem_insert (h : map.Ordered) :
    (n, v) ∈ map.insert name version ↔ n = name ∧ v = version ∨ n ≠ name ∧ (n, v) ∈ map := by
  induction map with
  | nil => simp [insert]
  | cons e rest ih =>
    obtain ⟨m, w⟩ := e
    obtain ⟨hm, hrest⟩ := List.pairwise_cons.1 h
    -- The names behind this one are other names.
    have hmem : ∀ k, (k, v) ∈ rest → k ≠ m := fun k hk => (ne_of_lt (hm _ hk)).symm
    rw [insert]
    split
    · next hlt =>
      have hother : n = name → (n, v) ∉ (m, w) :: rest := by
        rintro rfl hn
        rcases List.mem_cons.1 hn with heq | hn
        · exact absurd (congrArg Prod.fst heq) hlt.ne
        · exact absurd (hlt.trans (hm _ hn)) (lt_irrefl n)
      by_cases hn : n = name <;> grind
    · split
      · next heq => grind
      · next hne =>
        rw [List.mem_cons, ih hrest]
        grind

theorem ordered_insert (h : map.Ordered) (name version : String) :
    (map.insert name version).Ordered := by
  induction map with
  | nil => simp [insert, Ordered]
  | cons e rest ih =>
    obtain ⟨m, w⟩ := e
    obtain ⟨hm, hrest⟩ := List.pairwise_cons.1 h
    rw [insert]
    split
    · next hlt =>
      refine List.pairwise_cons.2 ⟨fun e he => ?_, h⟩
      rcases List.mem_cons.1 he with rfl | he
      · exact hlt
      · exact hlt.trans (hm e he)
    · split
      · next heq => exact List.pairwise_cons.2 ⟨heq ▸ hm, hrest⟩
      · next hlt hne =>
        refine List.pairwise_cons.2 ⟨fun e he => ?_, ih hrest⟩
        rcases (mem_insert hrest).1 he with ⟨hname, -⟩ | ⟨-, he⟩
        · exact hname ▸ lt_of_le_of_ne (not_lt.1 hlt) (Ne.symm hne)
        · exact hm e he

/-- **The names of a map** are in order. -/
theorem ordered_ofEntries (entries : List (String × String)) : (ofEntries entries).Ordered := by
  induction entries using List.reverseRecOn with
  | nil => exact .nil
  | append_singleton entries e ih =>
    rw [ofEntries_concat]
    exact ordered_insert ih e.1 e.2

/-- **A map holds the last value** of each name. -/
theorem mem_ofEntries : (n, v) ∈ ofEntries entries ↔ IsLastValue entries n v := by
  induction entries using List.reverseRecOn with
  | nil => simp [ofEntries, IsLastValue]
  | append_singleton entries e ih =>
    obtain ⟨name, version⟩ := e
    rw [ofEntries_concat, mem_insert (ordered_ofEntries entries), ih]
    constructor
    · rintro (⟨rfl, rfl⟩ | ⟨hne, before, after, rfl, hafter⟩)
      · exact ⟨entries, [], rfl, by simp⟩
      · refine ⟨before, after ++ [(name, version)], by simp, fun e he => ?_⟩
        rcases List.mem_append.1 he with he | he
        · exact hafter e he
        · rw [List.mem_singleton.1 he]
          exact hne.symm
    · rintro ⟨before, after, heq, hafter⟩
      rcases List.eq_nil_or_concat after with rfl | ⟨after, e, rfl⟩
      · obtain ⟨-, he⟩ := List.append_inj' heq rfl
        obtain ⟨rfl, rfl⟩ : name = n ∧ version = v := by simpa using he
        exact .inl ⟨rfl, rfl⟩
      · rw [List.concat_eq_append, ← List.cons_append, ← List.append_assoc] at heq
        obtain ⟨rfl, he⟩ := List.append_inj' heq rfl
        obtain rfl : (name, version) = e := by simpa using he
        refine .inr ⟨fun hn => ?_, before, after, rfl, fun e he => ?_⟩
        · exact hafter (name, version) (by simp) hn.symm
        · exact hafter e (by simp [he])

end PackageMap

/-! ## Declared dependencies -/

namespace Manifest

/-- The syntax tree of the map of dependencies that counts.  For an application it is the map
    of the direct ones. -/
def dependencyMap? (legacy : Bool) (tree : Raw) : Option Raw :=
  match legacy, tree.part? "type" 0 with
  | false, some (.string (some "application")) =>
    (tree.part? "dependencies" 3).bind (·.part? "direct" 0)
  | _, _ => tree.part? "dependencies" 2

/-- A map of dependencies has these entries, as they are written one after the other; there are
    none if the map is missing. -/
def HasEntries (map : Option Raw) (entries : List (String × String)) : Prop :=
  match map with
  | some map =>
    map = .object (entries.map fun (name, constraint) => (some name, .string (some constraint)))
  | none => entries = []

/-- The packages that a manifest declares as dependencies. -/
def declared : Manifest → PackageMap
  | .application _ _ direct => direct
  | .package _ dependencies => dependencies
  | .legacy _ _ dependencies => dependencies

/-- Whether a manifest is one of an older compiler. -/
def older : Manifest → Bool
  | .legacy .. => true
  | _ => false

variable {α : Type} {key : String} {j : Json} {raw : Raw} {manifest : Manifest}

theorem find?_of_field? {members : List (String × α)} {value : Option α}
    (h : field? key members = some value) :
    (members.find? (·.1 == key)).map (·.2) = value := by
  rw [← List.head?_filter]
  unfold field? at h
  split at h
  · next hnil => rw [hnil]; exact Option.some.inj h
  · next hone => rw [hone]; exact Option.some.inj h
  · cases h

theorem find?_of_requiredField? {members : List (String × Json)} {value : Json}
    (h : requiredField? key members = some value) :
    (members.find? (·.1 == key)).map (·.2) = some value :=
  find?_of_field? (Option.join_eq_some_iff.1 h)

theorem string?_eq_some_iff {s : String} : j.string? = some s ↔ j = .string s := by
  cases j <;> simp [string?]

/-- A map of packages is an object whose members are texts. -/
theorem hasEntries_of_packages? {map : PackageMap} (hraw : raw.HasValue j)
    (h : packages? j = some map) :
    ∃ entries, HasEntries (some raw) entries ∧ map = PackageMap.ofEntries entries := by
  simp only [packages?, bind, pure, Option.bind_eq_some_iff, Option.some.injEq] at h
  obtain ⟨members, hmembers, entries, hentries, rfl⟩ := h
  obtain rfl : j = .object members := by
    cases j <;> simp_all [object?]
  obtain ⟨room, hvalue⟩ := hraw
  obtain ⟨raws, room, -, rfl, hraws⟩ := Raw.eq_object_of_value? hvalue
  rw [Raw.memberValues?_eq_some_iff] at hraws
  rw [mapM_eq_some_iff] at hentries
  have hmap : raws = entries.map fun (name, constraint) =>
      (some name, .string (some constraint)) := by
    clear hvalue hmembers
    induction hraws generalizing entries with
    | nil =>
      cases hentries
      rfl
    | @cons m v _ _ hm _ ih =>
      cases hentries with
      | cons he hes =>
        obtain ⟨text, htext, rfl⟩ := Option.map_eq_some_iff.1 he
        rw [string?_eq_some_iff] at htext
        have hm : m = (some v.1, .string (some text)) :=
          Prod.ext hm.1 (Raw.eq_string_of_value? (htext ▸ hm.2))
        rw [List.map_cons, ← ih _ hes, hm]
  exact ⟨entries, congrArg Raw.object hmap, rfl⟩

/-- The entries of a map of dependencies that may be missing. -/
theorem hasEntries_of_rel {map : Option Raw} {value : Option Json} {packages : PackageMap}
    (hrel : Option.Rel Raw.HasValue map value)
    (h : value.elim (some []) packages? = some packages) :
    ∃ entries, HasEntries map entries ∧ packages = PackageMap.ofEntries entries := by
  cases hrel with
  | none => exact ⟨[], rfl, (Option.some.inj h).symm⟩
  | some hraw => exact hasEntries_of_packages? hraw h

theorem declared_of_application? {version dirs deps : Json}
    (h : application? version dirs deps = some manifest) :
    manifest.older = false ∧ direct? deps = some manifest.declared := by
  simp only [application?, bind, pure, Option.bind_eq_some_iff, Option.some.injEq] at h
  obtain ⟨version, -, dirs, -, direct, hdirect, rfl⟩ := h
  exact ⟨rfl, hdirect⟩

theorem declared_of_package? {version : Json} {deps : Option Json}
    (h : package? version deps = some manifest) :
    manifest.older = false ∧ deps.elim (some []) packages? = some manifest.declared := by
  cases deps <;>
    simp only [package?, bind, pure, Option.bind_eq_some_iff, Option.some.injEq] at h <;>
    obtain ⟨packages, hpackages, version, -, rfl⟩ := h
  · exact ⟨rfl, congrArg some hpackages⟩
  · exact ⟨rfl, hpackages⟩

theorem declared_of_legacy? {version deps : Option Json} {dirs : Json}
    (h : legacy? version dirs deps = some manifest) :
    manifest.older = true ∧ deps.elim (some []) packages? = some manifest.declared := by
  cases deps <;>
    simp only [legacy?, bind, pure, Option.bind_eq_some_iff, Option.some.injEq] at h <;>
    obtain ⟨version, -, dirs, -, packages, hpackages, rfl⟩ := h
  · exact ⟨rfl, congrArg some hpackages⟩
  · exact ⟨rfl, hpackages⟩

/-- **The dependencies of `elm.json`** stand where its type says. -/
theorem ofJson?_cases (h : ofJson? j = some manifest) : manifest.older = false ∧
    ((j.part? "type" 0 = some (.string "application") ∧
      ∃ deps, j.part? "dependencies" 3 = some deps ∧ direct? deps = some manifest.declared) ∨
    (j.part? "type" 0 = some (.string "package") ∧
      (j.part? "dependencies" 2).elim (some []) packages? = some manifest.declared)) := by
  unfold ofJson? at h
  split at h
  · next members =>
    simp only [bind, Option.bind_eq_some_iff] at h
    obtain ⟨type, htype, tag, htag, version, -, deps, hdeps, h⟩ := h
    obtain rfl := string?_eq_some_iff.1 htag
    have hentry : (Json.object members).part? "dependencies" 3 = deps := find?_of_field? hdeps
    split at h
    · next happlication =>
      subst happlication
      simp only [Option.bind_eq_some_iff] at h
      obtain ⟨dirs, -, d, rfl, h⟩ := h
      have happlication := declared_of_application? h
      exact ⟨happlication.1, .inl ⟨find?_of_requiredField? htype, d, hentry, happlication.2⟩⟩
    · split at h
      · next hpackage =>
        subst hpackage
        have hpackage := declared_of_package? h
        refine ⟨hpackage.1, .inr ⟨find?_of_requiredField? htype, ?_⟩⟩
        rw [show (Json.object members).part? "dependencies" 2 = deps from hentry]
        exact hpackage.2
      · cases h
  · exact (declared_of_application? h).imp_right fun h => .inl ⟨rfl, _, rfl, h⟩
  · exact (declared_of_package? h).imp_right fun h => .inr ⟨rfl, h⟩
  · exact (declared_of_package? h).imp_right fun h => .inr ⟨rfl, h⟩
  · cases h

theorem direct?_cases {deps : Json} {packages : PackageMap} (h : direct? deps = some packages) :
    ∃ direct, deps.part? "direct" 0 = some direct ∧ packages? direct = some packages := by
  unfold direct? at h
  split at h
  · obtain ⟨direct, hdirect, h⟩ := Option.bind_eq_some_iff.1 h
    exact ⟨direct, find?_of_requiredField? hdirect, h⟩
  · exact ⟨_, rfl, h⟩
  · cases h

theorem exists_part? {value : Json} {place : Nat} (hraw : raw.HasValue j)
    (h : j.part? key place = some value) :
    ∃ part, raw.part? key place = some part ∧ part.HasValue value := by
  have hrel := Raw.rel_part? hraw key place
  rw [h] at hrel
  cases hpart : raw.part? key place with
  | none => rw [hpart] at hrel; cases hrel
  | some part =>
    rw [hpart] at hrel
    cases hrel with
    | some hvalue => exact ⟨part, rfl, hvalue⟩

/-- A text that is the value of a field is written in the tree. -/
theorem part?_string {s : String} {place : Nat} (hraw : raw.HasValue j)
    (h : j.part? key place = some (.string s)) :
    raw.part? key place = some (.string (some s)) := by
  obtain ⟨part, hpart, room, hvalue⟩ := exists_part? hraw h
  rw [hpart, Raw.eq_string_of_value? hvalue]

/-- **What is declared in `elm.json`.** -/
theorem exists_entries_of_ofJson? (hraw : raw.HasValue j) (h : ofJson? j = some manifest) :
    manifest.older = false ∧ ∃ entries, HasEntries (dependencyMap? false raw) entries ∧
      manifest.declared = PackageMap.ofEntries entries := by
  refine (ofJson?_cases h).imp_right fun h => ?_
  rcases h with ⟨htype, deps, hdeps, hdirect⟩ | ⟨htype, hdeps⟩
  · obtain ⟨direct, hentry, hpackages⟩ := direct?_cases hdirect
    obtain ⟨rawDeps, hrawDeps, hvalue⟩ := exists_part? hraw hdeps
    obtain ⟨rawDirect, hrawDirect, hvalue⟩ := exists_part? hvalue hentry
    have hmap : dependencyMap? false raw = some rawDirect := by
      simp [dependencyMap?, part?_string hraw htype, hrawDeps, hrawDirect]
    rw [hmap]
    exact hasEntries_of_packages? hvalue hpackages
  · have hmap : dependencyMap? false raw = raw.part? "dependencies" 2 := by
      simp [dependencyMap?, part?_string hraw htype]
    rw [hmap]
    exact hasEntries_of_rel (Raw.rel_part? hraw "dependencies" 2) hdeps

theorem eq_map_of_keyed? {members : List (Option String × Raw)} {keyed : List (String × Raw)}
    (h : keyed? members = some keyed) :
    members = keyed.map fun (key, value) => (some key, value) := by
  rw [keyed?, mapM_eq_some_iff] at h
  induction h with
  | nil => rfl
  | @cons m _ _ _ hm _ ih =>
    obtain ⟨_, value⟩ := m
    obtain ⟨key, rfl, rfl⟩ := Option.map_eq_some_iff.1 hm
    rw [List.map_cons, ← ih]

theorem part?_of_keyed? {members : List (Option String × Raw)} {keyed : List (String × Raw)}
    (h : keyed? members = some keyed) (key : String) (place : Nat) :
    (Raw.object members).part? key place = (keyed.find? (·.1 == key)).map (·.2) := by
  rw [Raw.part?, eq_map_of_keyed? h, List.find?_map, Option.map_map]
  rfl

theorem rel_fieldValue? {field : Option Raw} {value : Option Json}
    (h : fieldValue? field = some value) : Option.Rel Raw.HasValue field value := by
  cases field with
  | none =>
    obtain rfl := Option.some.inj h
    exact .none
  | some raw =>
    obtain ⟨v, hv, rfl⟩ := Option.map_eq_some_iff.1 h
    exact .some ⟨_, hv⟩

/-- **What is declared in `elm-package.json`.** -/
theorem exists_entries_of_ofRaw? (h : ofRaw? raw = some manifest) :
    manifest.older = true ∧ ∃ entries, HasEntries (dependencyMap? true raw) entries ∧
      manifest.declared = PackageMap.ofEntries entries := by
  unfold ofRaw? at h
  split at h
  · next members =>
    simp only [bind, Option.bind_eq_some_iff] at h
    obtain ⟨keyed, hkeyed, -, -, version, -, -, -, dirs, -, field, hfield, deps, hdeps, _, -, h⟩ := h
    have hmap : dependencyMap? true (.object members) = field := by
      rw [dependencyMap?, part?_of_keyed? hkeyed, find?_of_field? hfield]
      exact fun h => by cases h
    rw [hmap]
    exact (declared_of_legacy? h).imp_right (hasEntries_of_rel (rel_fieldValue? hdeps))
  · next items =>
    simp only [bind, Option.bind_eq_some_iff] at h
    obtain ⟨vs, hvs, h⟩ := h
    have hrel := Raw.rel_items (Raw.values?_eq_some_iff.1 hvs) 2
    split at h
    · exact (declared_of_legacy? h).imp_right (hasEntries_of_rel hrel)
    · exact (declared_of_legacy? h).imp_right (hasEntries_of_rel hrel)
    · cases h
  · cases h

/-- **What a manifest declares** is the map of its entries. -/
theorem exists_declared {path : Path} {contents : ByteArray}
    (h : read? path contents = some manifest) :
    manifest.older = isLegacy path ∧ ∃ tree entries, Raw.read? contents.toList = some tree ∧
      HasEntries (dependencyMap? (isLegacy path) tree) entries ∧
      manifest.declared = PackageMap.ofEntries entries := by
  unfold read? at h
  split at h
  · next hlegacy =>
    obtain ⟨tree, htree, h⟩ := Option.bind_eq_some_iff.1 h
    obtain ⟨holder, entries, hentries, hdeclared⟩ := exists_entries_of_ofRaw? h
    exact ⟨holder.trans hlegacy.symm, tree, entries, htree, hlegacy ▸ hentries, hdeclared⟩
  · next hlegacy =>
    obtain ⟨value, hvalue, h⟩ := Option.bind_eq_some_iff.1 h
    obtain ⟨tree, htree, hvalue⟩ := Option.bind_eq_some_iff.1 hvalue
    obtain ⟨holder, entries, hentries, hdeclared⟩ := exists_entries_of_ofJson? ⟨_, hvalue⟩ h
    rw [Bool.not_eq_true] at hlegacy
    exact ⟨holder.trans hlegacy.symm, tree, entries, htree, hlegacy ▸ hentries, hdeclared⟩

end Manifest

end ElmAssist
