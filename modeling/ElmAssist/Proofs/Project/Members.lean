/-
  The members of a manifest.

  * `mapM_of_perm_append`: what is read of members in another order, with others among them.
  * `Manifest.field?_of_perm_append`: the order of members, and members with other keys, do not
    count where a field is looked for.
  * `ofContents_members`: nor do they count for the project.
-/
import ElmAssist.Proofs.Json.ObjectText
import ElmAssist.Proofs.Json.Tree
import ElmAssist.Proofs.Project.Declared
import ElmAssist.Resolver
import Mathlib.Data.List.Perm.Basic

namespace ElmAssist

open Json

/-! ## Members in another order -/

section

variable {α β : Type} {f : α → Option β} {l l' extra : List α}

theorem exists_mapM (h : ∀ a ∈ l, (f a).isSome) : ∃ vs, l.mapM f = some vs := by
  induction l with
  | nil => exact ⟨[], rfl⟩
  | cons a l ih =>
    rw [List.forall_mem_cons] at h
    obtain ⟨v, hv⟩ := Option.isSome_iff_exists.1 h.1
    obtain ⟨vs, hvs⟩ := ih h.2
    exact ⟨v :: vs, mapM_eq_some_iff.2 (.cons hv (mapM_eq_some_iff.1 hvs))⟩

/-- A list in another order gives the same results in another order. -/
theorem exists_mapM_of_perm {vs : List β} (hperm : l'.Perm l) (h : l.mapM f = some vs) :
    ∃ vs', l'.mapM f = some vs' ∧ vs'.Perm vs := by
  obtain ⟨vs', hvs', hperm'⟩ := List.perm_comp_forall₂ hperm (mapM_eq_some_iff.1 h)
  exact ⟨vs', mapM_eq_some_iff.2 hvs', hperm'⟩

/-- **Members in another order**, with others among them, give the same results and those of
    the others. -/
theorem mapM_of_perm_append (hperm : l'.Perm (l ++ extra)) (hextra : ∀ a ∈ extra, (f a).isSome) :
    (l.mapM f = none ∧ l'.mapM f = none) ∨ ∃ vs ws vs', l.mapM f = some vs ∧
      extra.mapM f = some ws ∧ l'.mapM f = some vs' ∧ vs'.Perm (vs ++ ws) := by
  obtain ⟨ws, hws⟩ := exists_mapM hextra
  have happend : (l ++ extra).mapM f = (l.mapM f).map (· ++ ws) := by
    rw [List.mapM_append, hws]
    cases l.mapM f <;> rfl
  cases hl : l.mapM f with
  | none =>
    refine .inl ⟨rfl, Option.eq_none_iff_forall_ne_some.2 fun vs' hvs' => ?_⟩
    obtain ⟨vs, hvs, -⟩ := exists_mapM_of_perm hperm.symm hvs'
    rw [happend, hl] at hvs
    cases hvs
  | some vs =>
    rw [hl] at happend
    obtain ⟨vs', hvs', hperm'⟩ := exists_mapM_of_perm hperm happend
    exact .inr ⟨vs, ws, vs', rfl, hws, hvs', hperm'⟩

end

namespace Manifest

/-! ## Fields -/

section

variable {α : Type} {key : String} {members members' extra : List (String × α)}

theorem field?_of_perm (h : members'.Perm members) : field? key members' = field? key members := by
  have hfilter := h.filter (·.1 == key)
  unfold field?
  split
  · next hnil =>
    rw [hnil] at hfilter
    rw [← hfilter.nil_eq]
  · next m hone =>
    rw [hone] at hfilter
    rw [← List.singleton_perm.1 hfilter]
  · next hnil hone =>
    split
    · next hnil' => rw [hnil'] at hfilter; exact absurd hfilter.eq_nil hnil
    · next m hone' => rw [hone'] at hfilter; exact absurd (List.perm_singleton.1 hfilter) (hone m)
    · rfl

/-- **A field** is found wherever it stands, and whatever other members there are. -/
theorem field?_of_perm_append (hperm : members'.Perm (members ++ extra))
    (hextra : ∀ m ∈ extra, m.1 ≠ key) : field? key members' = field? key members := by
  have hnone : extra.filter (·.1 == key) = [] :=
    List.filter_eq_nil_iff.2 fun m hm => by simpa using hextra m hm
  rw [field?_of_perm hperm, field?, List.filter_append, hnone, List.append_nil, field?]

end

/-- The fields of `elm.json` that are read, by its type. -/
def fieldsOfType (type : String) : List String :=
  if type = "application" then ["type", "elm-version", "source-directories", "dependencies"]
  else if type = "package" then ["type", "elm-version", "dependencies"]
  else ["type"]

/-- The fields of a manifest that are read. -/
def fieldsRead (legacy : Bool) (tree : Raw) : List String :=
  if legacy then ["elm-version", "source-directories", "dependencies"]
  else
    match tree.part? "type" 0 with
    | some (.string (some type)) => fieldsOfType type
    | _ => ["type"]

/-- What `elm.json` is read as depends on its fields alone. -/
theorem ofJson?_object_congr {members members' : List (String × Json)}
    (htype : field? "type" members' = field? "type" members)
    (hfields : ∀ type, requiredField? "type" members = some (.string type) →
      ∀ key ∈ fieldsOfType type, field? key members' = field? key members) :
    ofJson? (.object members') = ofJson? (.object members) := by
  have hrequired : requiredField? "type" members' = requiredField? "type" members := by
    rw [requiredField?, htype, requiredField?]
  rw [ofJson?, ofJson?, hrequired]
  cases hvalue : requiredField? "type" members with
  | none => rfl
  | some value =>
    cases htext : value.string? with
    | none => simp [htext]
    | some type =>
      obtain rfl := string?_eq_some_iff.1 htext
      have hfields := hfields type hvalue
      simp only [bind, Option.bind_some, string?]
      by_cases happlication : type = "application"
      · simp [fieldsOfType, happlication] at hfields
        simp [requiredField?, hfields, happlication]
      · by_cases hpackage : type = "package"
        · simp [fieldsOfType, hpackage] at hfields
          simp [requiredField?, hfields, hpackage]
        · simp [happlication, hpackage]

/-- What `elm-package.json` is read as depends on its fields alone. -/
theorem ofRaw?_object_congr {members members' : List (Option String × Raw)}
    {keyed keyed' : List (String × Raw)} (h : keyed? members = some keyed)
    (h' : keyed? members' = some keyed')
    (hfields : ∀ key ∈ ["elm-version", "source-directories", "dependencies"],
      field? key keyed' = field? key keyed) :
    ofRaw? (.object members') = ofRaw? (.object members) := by
  simp only [List.forall_mem_cons] at hfields
  simp [ofRaw?, h, h', hfields]

/-! ## Members that do not count -/

/-- A member that may be added to a manifest: its key denotes a text other than the fields that
    are read, and in `elm.json`, of which the whole value is built, it has a value. -/
def Ignored (legacy : Bool) (tree : Raw) (m : Option String × Raw) : Prop :=
  (∃ key, m.1 = some key ∧ key ∉ fieldsRead legacy tree) ∧
    (legacy = false → (m.2.value? (maxDepth - 1)).isSome)

variable {members members' extra : List (Option String × Raw)}

/-- The keys of results are those of the members. -/
theorem key_ne_of_mapM {α : Type} {f : Option String × Raw → Option (String × α)}
    (hkey : ∀ m v, f m = some v → m.1 = some v.1) {ms : List (Option String × Raw)}
    {vs : List (String × α)} (h : ms.mapM f = some vs) {key : String}
    (hms : ∀ m ∈ ms, m.1 ≠ some key) : ∀ v ∈ vs, v.1 ≠ key := by
  induction mapM_eq_some_iff.1 h with
  | nil => simp
  | cons hv hvs ih =>
    rw [List.forall_mem_cons] at hms ⊢
    exact ⟨fun hne => hms.1 (hne ▸ hkey _ _ hv), ih (mapM_eq_some_iff.2 hvs) hms.2⟩

theorem Ignored.key_ne {legacy : Bool} {tree : Raw} {m : Option String × Raw} {key : String}
    (h : Ignored legacy tree m) (hkey : key ∈ fieldsRead legacy tree) : m.1 ≠ some key := by
  obtain ⟨⟨k, hk, hnot⟩, -⟩ := h
  rw [hk]
  rintro heq
  exact hnot (Option.some.inj heq ▸ hkey)

theorem type_mem_fieldsRead (tree : Raw) : "type" ∈ fieldsRead false tree := by
  rw [fieldsRead, if_neg Bool.false_ne_true]
  split
  · unfold fieldsOfType
    split
    · simp
    · split <;> simp
  · simp

/-- **The value of `elm.json`** is read in the same way. -/
theorem ofJson?_of_members (hperm : members'.Perm (members ++ extra))
    (hextra : ∀ m ∈ extra, Ignored false (.object members) m) :
    ((Raw.object members').value? maxDepth).bind ofJson? =
      ((Raw.object members).value? maxDepth).bind ofJson? := by
  have hvalue : ∀ ms : List (Option String × Raw), (Raw.object ms).value? maxDepth =
      (ms.mapM (Raw.memberValue? (maxDepth - 1))).map .object := by
    intro ms
    rw [← Raw.memberValues?_eq_mapM]
    rfl
  have hsome : ∀ m ∈ extra, (Raw.memberValue? (maxDepth - 1) m).isSome := by
    intro m hm
    obtain ⟨⟨key, hkey, -⟩, hlimit⟩ := hextra m hm
    simpa [Raw.memberValue?, hkey] using hlimit rfl
  rw [hvalue, hvalue]
  rcases mapM_of_perm_append hperm hsome with ⟨hnone, hnone'⟩ | ⟨vs, ws, vs', hvs, hws, hvs', hvperm⟩
  · rw [hnone, hnone']
  · have hfield : ∀ key ∈ fieldsRead false (.object members), field? key vs' = field? key vs :=
      fun key hkey => field?_of_perm_append hvperm <|
        key_ne_of_mapM (fun _ _ h => (Raw.memberValue?_eq_some_iff.1 h).1) hws
          fun m hm => (hextra m hm).key_ne hkey
    rw [hvs, hvs']
    refine ofJson?_object_congr (hfield _ (type_mem_fieldsRead _)) fun type htype => ?_
    have hraw : (Raw.object members).HasValue (.object vs) :=
      ⟨maxDepth, by rw [hvalue, hvs]; rfl⟩
    have hfields : fieldsRead false (.object members) = fieldsOfType type := by
      rw [fieldsRead, if_neg Bool.false_ne_true,
        part?_string hraw (find?_of_requiredField? htype)]
    rwa [← hfields]

/-- **The tree of `elm-package.json`** is read in the same way. -/
theorem ofRaw?_of_members (hperm : members'.Perm (members ++ extra))
    (hextra : ∀ m ∈ extra, Ignored true (.object members) m) :
    ofRaw? (.object members') = ofRaw? (.object members) := by
  have hsome : ∀ m ∈ extra, (m.1.map fun key => (key, m.2)).isSome := by
    intro m hm
    obtain ⟨⟨key, hkey, -⟩, -⟩ := hextra m hm
    simp [hkey]
  rcases mapM_of_perm_append hperm hsome with ⟨hnone, hnone'⟩ | ⟨vs, ws, vs', hvs, hws, hvs', hvperm⟩
  · have hkeyed : keyed? members = none := hnone
    have hkeyed' : keyed? members' = none := hnone'
    rw [ofRaw?, ofRaw?, hkeyed, hkeyed']
  · refine ofRaw?_object_congr hvs hvs' fun key hkey => field?_of_perm_append hvperm ?_
    refine key_ne_of_mapM (fun m v hv => ?_) hws fun m hm => (hextra m hm).key_ne hkey
    obtain ⟨key, hkey, rfl⟩ := Option.map_eq_some_iff.1 hv
    exact hkey

end Manifest

/-- **The order of the members** of a manifest does not count, nor do members that are not read.
    A text has the members that are written in it; and two texts, of which one has the members of
    the other in any order and members that are not read among them, describe the same project or
    are refused in the same way. -/
theorem ofContents_members (packages : PackageCache) (path : Path) (installed : List String) :
    (∀ texts : List MemberText,
      Raw.read? (MemberText.object texts) = some (.object (texts.map (·.member)))) ∧
    ∀ {contents contents' : ByteArray} {members extra members' : List (Option String × Raw)},
      Raw.read? contents.toList = some (.object members) →
      Raw.read? contents'.toList = some (.object members') →
      members'.Perm (members ++ extra) →
      (∀ m ∈ extra, Manifest.Ignored (Manifest.isLegacy path) (.object members) m) →
      Project.ofContents packages path contents' installed =
        Project.ofContents packages path contents installed := by
  refine ⟨MemberText.read?_object, fun {contents contents'} _ _ _ h h' hperm hextra => ?_⟩
  have hread : Manifest.read? path contents' = Manifest.read? path contents := by
    unfold Manifest.read? parse?
    rw [h, h']
    cases hlegacy : Manifest.isLegacy path with
    | true => exact Manifest.ofRaw?_of_members hperm (hlegacy ▸ hextra)
    | false => exact Manifest.ofJson?_of_members hperm (hlegacy ▸ hextra)
  rw [Project.ofContents, hread, Project.ofContents]

/-- A field whose value is a text. -/
def stringField (key value keyText valueText : String)
    (hkey : readKey keyText.toUTF8.toList = some (some key, []))
    (hquote : valueText.toUTF8.toList.head? = some (byte '"'))
    (hvalue : stringBody {} valueText.toUTF8.toList.tail = some (some value, [])) : MemberText where
  keyText := keyText.toUTF8.toList
  key := some key
  valueText := valueText.toUTF8.toList
  value := .string (some value)
  reads_key := hkey
  reads_value := read?_string hquote hvalue

/-- A package, and one with its fields in another order.  A package has no `source-directories`, so
    those do no harm that are not a list. -/
theorem ofContents_members_package :
    let path : Path := ⟨"/p/elm.json"⟩
    let contents := "\x7b\"type\":\"package\",\"elm-version\":\"0.19.1\"\x7d".toUTF8
    let contents' := ("\x7b\"elm-version\":\"0.19.1\", \"source-directories\" :\"src\"," ++
      "\"type\":\"package\"\x7d").toUTF8
    (Project.ofContents {} path contents []).isOk = true ∧
      Project.ofContents {} path contents' [] = Project.ofContents {} path contents [] := by
  intro path contents contents'
  let type := stringField "type" "package" "\"type\":" "\"package\""
    (by decide +kernel) (by decide +kernel) (by decide +kernel)
  let version := stringField "elm-version" "0.19.1" "\"elm-version\":" "\"0.19.1\""
    (by decide +kernel) (by decide +kernel) (by decide +kernel)
  let directories := stringField "source-directories" "src" " \"source-directories\" :" "\"src\""
    (by decide +kernel) (by decide +kernel) (by decide +kernel)
  obtain ⟨hobject, hmembers⟩ := ofContents_members {} path []
  have h : contents.toList = MemberText.object [type, version] := by decide +kernel
  have h' : contents'.toList = MemberText.object [version, directories, type] := by decide +kernel
  have hperm := (List.perm_append_singleton type [version, directories]).map (·.member)
  have hextra : ∀ m ∈ [directories.member], Manifest.Ignored (Manifest.isLegacy path)
      (.object ([type, version].map (·.member))) m := by
    rw [List.forall_mem_singleton]
    exact ⟨⟨_, rfl, by decide +kernel⟩, fun _ => rfl⟩
  exact ⟨by decide +kernel, hmembers (h ▸ hobject _) (h' ▸ hobject _) hperm hextra⟩

end ElmAssist
