/-
  What the top-level nodes of a file declare.

  A place is a position in the list of nodes, and `nodesBefore` gives the nodes in front of it.
  `InOrder` says that a list holds what is declared at the places, each once and in their order.

  * `Node.Imports`, `Node.DeclaresFunction`, `Node.DeclaresType`, `Node.DeclaresAlias`: the clauses
    and declarations that count.
  * `inOrder_imports`, `inOrder_functions`, `inOrder_types`, `inOrder_aliases`: a module holds what
    they declare, in order.
  * `any_isRecognized_iff`: something is recognised in a file iff one of its nodes counts, or is a
    sound header.
-/
import ElmAssist.Elm.Node
import Mathlib.Data.List.Forall2

namespace ElmAssist.Elm

/-! ## Lists in order -/

/-- `xs` is what is declared, each once and in the order of the places; `declares i x` says that `x`
    is declared at place `i`. -/
def InOrder {α : Type} (declares : ℕ → α → Prop) (xs : List α) : Prop :=
  ∃ places : List ℕ, places.Pairwise (· < ·) ∧ (∀ i, i ∈ places ↔ ∃ x, declares i x) ∧
    List.Forall₂ declares places xs

section Order

variable {α β : Type}

theorem InOrder.imp {declares declares' : ℕ → α → Prop} {xs : List α} (h : InOrder declares xs)
    (himp : ∀ i x, declares i x → declares' i x)
    (hplace : ∀ i x, declares' i x → ∃ y, declares i y) : InOrder declares' xs := by
  obtain ⟨places, hlt, hmem, hall⟩ := h
  refine ⟨places, hlt, fun i => (hmem i).trans ⟨?_, ?_⟩, hall.imp himp⟩
  · rintro ⟨x, hx⟩
    exact ⟨x, himp i x hx⟩
  · rintro ⟨x, hx⟩
    exact hplace i x hx

theorem InOrder.exists_place {declares : ℕ → α → Prop} {xs : List α} {x : α}
    (h : InOrder declares xs) (hx : x ∈ xs) : ∃ i, declares i x := by
  obtain ⟨places, -, -, hall⟩ := h
  induction hall with
  | nil => cases hx
  | cons hdeclares _ ih =>
    rcases List.mem_cons.1 hx with rfl | hx
    · exact ⟨_, hdeclares⟩
    · exact ih hx

/-- What is taken from the elements of a list is in order. -/
theorem inOrder_filterMap (f : β → Option α) (l : List β) :
    InOrder (fun i x => ∃ b, l[i]? = some b ∧ f b = some x) (l.filterMap f) := by
  induction l with
  | nil => exact ⟨[], .nil, by simp, .nil⟩
  | cons b l ih =>
    obtain ⟨places, hlt, hmem, hall⟩ := ih
    -- The places of the other elements are one further back.
    have hbehind : (places.map (· + 1)).Pairwise (· < ·) :=
      List.pairwise_map.2 (hlt.imp fun h => Nat.succ_lt_succ h)
    have hothers : List.Forall₂ (fun i x => ∃ a, (b :: l)[i]? = some a ∧ f a = some x)
        (places.map (· + 1)) (l.filterMap f) :=
      List.forall₂_map_left_iff.2 hall
    cases hb : f b with
    | none =>
      rw [List.filterMap_cons_none hb]
      refine ⟨_, hbehind, fun i => ?_, hothers⟩
      cases i with
      | zero => simp [hb]
      | succ i => simp [hmem]
    | some x =>
      rw [List.filterMap_cons_some hb]
      refine ⟨0 :: places.map (· + 1), List.pairwise_cons.2 ⟨by simp, hbehind⟩, fun i => ?_,
        .cons ⟨b, rfl, hb⟩ hothers⟩
      cases i with
      | zero => simp [hb]
      | succ i => simp [hmem]

end Order

/-! ## Nodes in front -/

/-- The nodes in front of a place, the nearest one first. -/
def nodesBefore (nodes : List Node) (i : ℕ) : List Node :=
  (nodes.take i).reverse

section Before

variable {α : Type} {nodes : List Node} {i : ℕ} {node : Node}

theorem nodesBefore_succ (h : nodes[i]? = some node) :
    nodesBefore nodes (i + 1) = node :: nodesBefore nodes i := by
  rw [nodesBefore, List.take_add_one, h]
  simp [nodesBefore]

theorem exists_of_nodesBefore {rest : List Node} (hi : i ≤ nodes.length)
    (h : nodesBefore nodes i = node :: rest) :
    ∃ j, i = j + 1 ∧ nodes[j]? = some node ∧ rest = nodesBefore nodes j := by
  cases i with
  | zero => cases h
  | succ j =>
    have hj : nodes[j]? = some nodes[j] := List.getElem?_eq_getElem hi
    rw [nodesBefore_succ hj] at h
    cases h
    exact ⟨j, rfl, hj, rfl⟩

theorem getElem?_withBefore (front nodes : List Node) (i : ℕ) : (withBefore front nodes)[i]? =
    nodes[i]?.map fun node => (nodesBefore nodes i ++ front, node) := by
  induction nodes generalizing front i with
  | nil => rfl
  | cons node rest ih =>
    cases i with
    | zero => rfl
    | succ i => simp [withBefore, ih, nodesBefore]

theorem withBefore_append (front nodes others : List Node) :
    withBefore front (nodes ++ others) =
      withBefore front nodes ++ withBefore (nodes.reverse ++ front) others := by
  induction nodes generalizing front with
  | nil => rfl
  | cons node nodes ih => simp [withBefore, ih]

/-- What is taken from the nodes, each seen with those in front of it, is in order. -/
theorem inOrder_entries (f : List Node × Node → Option α) (nodes : List Node) :
    InOrder (fun i x => ∃ node, nodes[i]? = some node ∧ f (nodesBefore nodes i, node) = some x)
      ((withBefore [] nodes).filterMap f) := by
  have hentry : ∀ i x, (∃ entry, (withBefore [] nodes)[i]? = some entry ∧ f entry = some x) ↔
      ∃ node, nodes[i]? = some node ∧ f (nodesBefore nodes i, node) = some x := fun i x => by
    simp [getElem?_withBefore]
  exact (inOrder_filterMap f _).imp (fun i x => (hentry i x).1) fun i x h => ⟨x, (hentry i x).2 h⟩

/-- What is found at the nodes that declare something is in order; `isAt` says what is at a
    place. -/
theorem inOrder_declared {f : List Node × Node → Option α} {declares : Node → α → Prop}
    {isAt : ℕ → α → Prop}
    (hat : ∀ {i node x}, nodes[i]? = some node → f (nodesBefore nodes i, node) = some x → isAt i x)
    (hdeclares : ∀ {i x}, isAt i x → ∃ node, nodes[i]? = some node ∧ declares node x)
    (hexists : ∀ {node x}, declares node x → ∀ front, ∃ y, f (front, node) = some y) :
    InOrder isAt ((withBefore [] nodes).filterMap f) := by
  refine (inOrder_entries f nodes).imp ?_ ?_
  · rintro i x ⟨node, hnode, hx⟩
    exact hat hnode hx
  · intro i x hx
    obtain ⟨node, hnode, hdeclared⟩ := hdeclares hx
    obtain ⟨y, hy⟩ := hexists hdeclared (nodesBefore nodes i)
    exact ⟨y, node, hnode, hy⟩

theorem any_withBefore {p : List Node × Node → Bool} {q : Node → Prop}
    (h : ∀ front node, p (front, node) = true ↔ q node) (front nodes : List Node) :
    (withBefore front nodes).any p = true ↔ ∃ node ∈ nodes, q node := by
  induction nodes generalizing front with
  | nil => simp [withBefore]
  | cons node rest ih =>
    rw [withBefore, List.any_cons, Bool.or_eq_true, h, ih]
    simp

end Before

/-! ## Clauses and declarations -/

/-- An import clause with a name, whether sound or not. -/
inductive Node.Imports : Node → Import → Prop
  | importClause {broken : Bool} {name : String} {shortName : Option String}
      {exposing : Option (List ExposedNode)} :
      Imports (.importClause broken (some name) shortName exposing)
        ⟨Text.collapse name, shortName, exposing.map Exposing.ofNodes⟩

/-- A sound value declaration or port with a name. -/
inductive Node.DeclaresFunction : Node → String → Prop
  | value {name : String} : DeclaresFunction (.value false (some name)) name
  | port {name : String} {type : Option String} :
      DeclaresFunction (.port false (some name) type) name

/-- A sound declaration of a custom type with a name; the variants that have a name are its
    constructors. -/
inductive Node.DeclaresType : Node → String → List String → Prop
  | customType {name : String} {variants : List (Option String)} :
      DeclaresType (.customType false (some name) variants) name (variants.filterMap id)

/-- A sound declaration of a type alias with a name. -/
inductive Node.DeclaresAlias : Node → String → Prop
  | typeAlias {name : String} : DeclaresAlias (.typeAlias false (some name)) name

/-- A sound declaration with a name. -/
inductive Node.IsDeclaration : Node → Prop
  | function {node : Node} {name : String} : node.DeclaresFunction name → IsDeclaration node
  | customType {node : Node} {name : String} {constructors : List String} :
      node.DeclaresType name constructors → IsDeclaration node
  | typeAlias {node : Node} {name : String} : node.DeclaresAlias name → IsDeclaration node

/-- A node that is recognised: a sound header with a name, an import clause with a name, or a sound
    declaration with a name. -/
inductive Node.IsRecognized : Node → Prop
  | header {place : Place} {name : String} {exposing : Option (List ExposedNode)} :
      IsRecognized (.header place false (some name) exposing)
  | imports {node : Node} {i : Import} : node.Imports i → IsRecognized node
  | declaration {node : Node} : node.IsDeclaration → IsRecognized node

section Nodes

variable {front : List Node} {node : Node}

theorem import?_eq_some_iff {i : Import} : import? node = some i ↔ node.Imports i := by
  constructor
  · intro h
    rw [import?.eq_def] at h
    split at h <;> cases h
    exact .importClause
  · rintro ⟨⟩
    rfl

theorem Node.DeclaresFunction.of_function? {f : Function} (h : function? (front, node) = some f) :
    node.DeclaresFunction f.name := by
  rw [function?.eq_def] at h
  split at h
  · next heq =>
    cases heq
    split at h <;> cases h <;> exact .value
  · next heq =>
    cases heq
    cases h
    exact .port
  · cases h

theorem Node.DeclaresFunction.exists_function? {name : String} (h : node.DeclaresFunction name)
    (front : List Node) : ∃ f, function? (front, node) = some f := by
  cases h with
  | value =>
    rw [function?]
    split <;> exact ⟨_, rfl⟩
  | port => exact ⟨_, rfl⟩

theorem customType?_eq_some_iff {t : CustomType} : customType? (front, node) = some t ↔
    node.DeclaresType t.name t.constructors ∧ t.comment = documentation? front := by
  constructor
  · intro h
    rw [customType?.eq_def] at h
    split at h
    · next heq =>
      cases heq
      cases h
      exact ⟨.customType, rfl⟩
    · cases h
  · obtain ⟨name, constructors, comment⟩ := t
    rintro ⟨⟨⟩, rfl⟩
    rfl

theorem Node.DeclaresType.exists_customType? {name : String} {constructors : List String}
    (h : node.DeclaresType name constructors) (front : List Node) :
    ∃ t, customType? (front, node) = some t :=
  ⟨⟨name, constructors, documentation? front⟩, customType?_eq_some_iff.2 ⟨h, rfl⟩⟩

theorem typeAlias?_eq_some_iff {a : TypeAlias} : typeAlias? (front, node) = some a ↔
    node.DeclaresAlias a.name ∧ a.comment = documentation? front := by
  constructor
  · intro h
    rw [typeAlias?.eq_def] at h
    split at h
    · next heq =>
      cases heq
      cases h
      exact ⟨.typeAlias, rfl⟩
    · cases h
  · obtain ⟨name, comment⟩ := a
    rintro ⟨⟨⟩, rfl⟩
    rfl

theorem Node.DeclaresAlias.exists_typeAlias? {name : String} (h : node.DeclaresAlias name)
    (front : List Node) : ∃ a, typeAlias? (front, node) = some a :=
  ⟨⟨name, documentation? front⟩, typeAlias?_eq_some_iff.2 ⟨h, rfl⟩⟩

theorem isRecognized_iff : isRecognized (front, node) = true ↔ node.IsRecognized := by
  simp only [isRecognized, Bool.or_eq_true, Option.isSome_iff_exists]
  constructor
  · rintro ((((⟨x, hx⟩ | ⟨i, hi⟩) | ⟨f, hf⟩) | ⟨t, ht⟩) | ⟨a, ha⟩)
    · rw [header?.eq_def] at hx
      split at hx <;> cases hx
      exact .header
    · exact .imports (import?_eq_some_iff.1 hi)
    · exact .declaration (.function (.of_function? hf))
    · exact .declaration (.customType (customType?_eq_some_iff.1 ht).1)
    · exact .declaration (.typeAlias (typeAlias?_eq_some_iff.1 ha).1)
  · rintro (_ | hi | (hf | ht | ha))
    · exact .inl (.inl (.inl (.inl ⟨_, rfl⟩)))
    · exact .inl (.inl (.inl (.inr ⟨_, import?_eq_some_iff.2 hi⟩)))
    · exact .inl (.inl (.inr (hf.exists_function? front)))
    · exact .inl (.inr (ht.exists_customType? front))
    · exact .inr (ha.exists_typeAlias? front)

end Nodes

/-! ## Modules -/

section Modules

variable (nodes : List Node)

theorem any_isRecognized_iff :
    (withBefore [] nodes).any isRecognized = true ↔ ∃ node ∈ nodes, node.IsRecognized :=
  any_withBefore (fun _ _ => isRecognized_iff) [] nodes

theorem inOrder_imports : InOrder
    (fun i x => ∃ node, nodes[i]? = some node ∧ node.Imports x) (moduleOf nodes).imports := by
  have h := inOrder_filterMap import? nodes
  simp only [import?_eq_some_iff] at h
  exact h

theorem inOrder_functions : InOrder
    (fun i (f : Function) => ∃ node, nodes[i]? = some node ∧ node.DeclaresFunction f.name)
    (moduleOf nodes).functions :=
  inOrder_declared (fun hnode h => ⟨_, hnode, .of_function? h⟩) id fun h => h.exists_function?

theorem inOrder_types : InOrder
    (fun i (t : CustomType) =>
      ∃ node, nodes[i]? = some node ∧ node.DeclaresType t.name t.constructors)
    (moduleOf nodes).types :=
  inOrder_declared (fun hnode h => ⟨_, hnode, (customType?_eq_some_iff.1 h).1⟩) id
    fun h => h.exists_customType?

theorem inOrder_aliases : InOrder
    (fun i (a : TypeAlias) => ∃ node, nodes[i]? = some node ∧ node.DeclaresAlias a.name)
    (moduleOf nodes).aliases :=
  inOrder_declared (fun hnode h => ⟨_, hnode, (typeAlias?_eq_some_iff.1 h).1⟩) id
    fun h => h.exists_typeAlias?

end Modules

end ElmAssist.Elm
