import ConfigAudit.Proofs.Tree.OfJson

/-!
# How resources are named

`Tree.Built` says what was declared in the making of a tree, of which the instances of a kind are
the whole (`Tree.Built.instances_eq`). An instance has the name for which it is a candidate iff no
other instance of its kind is one, wherever the two texts come from and however they were written:
`Tree.resources_identify_instances`.
-/

namespace ConfigAudit

namespace Attributes

/-- A text could name an instance: that of the first entry of its declared address, or if this is
no scalar, that of the first entry of its `name`. -/
inductive IsCandidate (attributes : Attributes) (name : String) : Prop where
  | ofAddress {entry : Value} (first : attributes.first? declaredAddress = some entry)
    (scalar : entry.scalarText? = some name)
  | ofName
    (noAddress : ∀ entry, attributes.first? declaredAddress = some entry → entry.scalarText? = none)
    {entry : Value} (first : attributes.first? "name" = some entry)
    (scalar : entry.scalarText? = some name)

theorem candidateName?_eq_some_iff {attributes : Attributes} {name : String} :
    attributes.candidateName? = some name ↔ attributes.IsCandidate name := by
  rw [candidateName?, text?, text?, Option.or_eq_some_iff, Option.bind_eq_none_iff,
    Option.bind_eq_some_iff, Option.bind_eq_some_iff]
  constructor
  · rintro (⟨entry, first, scalar⟩ | ⟨noAddress, entry, first, scalar⟩)
    · exact .ofAddress first scalar
    · exact .ofName noAddress first scalar
  · rintro (⟨first, scalar⟩ | ⟨noAddress, first, scalar⟩)
    · exact .inl ⟨_, first, scalar⟩
    · exact .inr ⟨noAddress, _, first, scalar⟩

end Attributes

/-- What stands at a position occurs once iff it stands at no other position. -/
theorem count_eq_one_iff {Item : Type} [BEq Item] [LawfulBEq Item] {list : List Item} {index : Nat}
    {item : Item} (found : list[index]? = some item) :
    list.count item = 1 ↔ ∀ other, list[other]? = some item → other = index := by
  induction list generalizing index with
  | nil => exact nomatch found
  | cons head rest inductionHypothesis =>
    cases index with
    | zero =>
      cases found
      rw [List.count_cons_self, Nat.add_eq_right, List.count_eq_zero]
      constructor
      · intro absent other again
        cases other with
        | zero => rfl
        | succ other =>
          have later : rest[other]? = some item := again
          exact absurd (List.mem_of_getElem? later) absent
      · intro only again
        obtain ⟨other, again⟩ := List.getElem?_of_mem again
        exact nomatch only (other + 1) again
    | succ index =>
      by_cases same : head = item
      · subst same
        have again : 0 < rest.count head := List.count_pos_iff.2 (List.mem_of_getElem? found)
        rw [List.count_cons_self]
        constructor
        · intro once
          omega
        · intro only
          exact nomatch only 0 rfl
      · rw [List.count_cons_of_ne same, inductionHypothesis found]
        constructor
        · intro only other again
          cases other with
          | zero => exact absurd (Option.some.inj again) same
          | succ other => exact congrArg Nat.succ (only other again)
        · intro only other again
          exact Nat.succ.inj (only (other + 1) again)

namespace Tree

/-! ## Names within a kind -/

theorem mem_resourcesOfKind_iff {kind : String} {instances : List Attributes} {resource : Resource}
    {attributes : Attributes} :
    (resource, attributes) ∈ resourcesOfKind kind instances ↔
      resource.kind = kind ∧ instances[resource.index]? = some attributes ∧
        resource.name = attributes.candidateName?.filter fun name =>
          (instances.map Attributes.candidateName?).count (some name) == 1 := by
  rw [resourcesOfKind, List.mem_map]
  constructor
  · rintro ⟨⟨_, index⟩, enumerated, same⟩
    cases same
    exact ⟨rfl, List.mem_zipIdx_iff_getElem?.1 enumerated, rfl⟩
  · obtain ⟨_, index, _⟩ := resource
    rintro ⟨rfl, position, rfl⟩
    exact ⟨(attributes, index), List.mem_zipIdx_iff_getElem?.2 position, rfl⟩

/-- A candidate of an instance is kept iff it is one of no other instance. -/
theorem filter_candidateName?_eq_some_iff {instances : List Attributes} {index : Nat}
    {attributes : Attributes} (position : instances[index]? = some attributes) {name : String} :
    (attributes.candidateName?.filter fun name =>
        (instances.map Attributes.candidateName?).count (some name) == 1) = some name ↔
      attributes.IsCandidate name ∧
        ∀ other known, instances[other]? = some known → known.IsCandidate name →
          other = index := by
  rw [Option.filter_eq_some_iff, Attributes.candidateName?_eq_some_iff, beq_iff_eq]
  refine and_congr_right fun candidate => ?_
  have found : (instances.map Attributes.candidateName?)[index]? = some (some name) := by
    rw [List.getElem?_map, position, Option.map_some,
      Attributes.candidateName?_eq_some_iff.2 candidate]
  rw [count_eq_one_iff found]
  simp only [List.getElem?_map, Option.map_eq_some_iff, Attributes.candidateName?_eq_some_iff,
    forall_exists_index, and_imp]

theorem mem_resources_iff {tree : Tree} {resource : Resource} {attributes : Attributes} :
    (resource, attributes) ∈ tree.resources ↔
      (resource, attributes) ∈ resourcesOfKind resource.kind (tree.instances resource.kind) := by
  rw [← filter_kind_resources, List.mem_filter, beq_self_eq_true, and_iff_left rfl]

/-- The resources are the instances of the kinds, one after the other. -/
theorem map_snd_resources (tree : Tree) :
    tree.resources.map Prod.snd = tree.kinds.flatMap fun entry => entry.2 := by
  rw [resources, List.map_flatMap]
  exact congrArg tree.kinds.flatMap (funext fun entry => map_snd_resourcesOfKind entry.1 entry.2)

/-! ## What was declared -/

/-- A tree was made by declaring these instances of each kind, in this order. The tree may have been
read from a document, whose objects are nested blocks then. -/
inductive Built : Tree → (String → List Attributes) → Prop where
  | empty : Built .empty fun _ => []
  | read {document : Json} (canonical : document.Canonical) {tree : Tree}
    (read : ofJson document = .ok tree) {declared : String → List Attributes}
    (entries : ∀ kind,
      (declared kind).map Value.block = (document.entries kind).map Value.ofJson) :
    Built tree declared
  | push {tree : Tree} {declared : String → List Attributes} (built : Built tree declared)
    (kind : String) (attributes : Attributes) :
    Built (tree.push kind attributes) fun other =>
      if other = kind then declared other ++ [attributes] else declared other

/-- The instances of a kind are those that were declared. -/
theorem Built.instances_eq {tree : Tree} {declared : String → List Attributes}
    (built : Built tree declared) (kind : String) : tree.instances kind = declared kind := by
  induction built with
  | empty => rfl
  | read canonical read entries =>
    have same := map_instances_of_ofJson canonical read kind
    have blocks := congrArg (List.map Value.block?) (entries kind)
    rw [List.map_map, List.map_map] at blocks
    exact (List.map_inj_right fun _ _ => Option.some.inj).1 (same.trans blocks.symm)
  | push built pushed attributes inductionHypothesis =>
    rw [Tree.push, instances_declare, inductionHypothesis]

/-! ## Identities -/

/-- The resources of a tree are the declared instances, each once, in ascending order of kind and
position. A resource is named by a text iff this is a candidate of the instance and of no other
instance of the kind. What is declared of other kinds does not matter. -/
theorem resources_identify_instances {tree : Tree} {declared : String → List Attributes}
    (built : Built tree declared) :
    (tree.resources.Pairwise fun earlier later => earlier.1.Precedes later.1) ∧
      (∀ kind index attributes,
        (∃ name, ({ kind, index, name }, attributes) ∈ tree.resources) ↔
          (declared kind)[index]? = some attributes) ∧
      tree.resources.length = tree.resourceCount ∧
      (∀ resource attributes, (resource, attributes) ∈ tree.resources → ∀ name,
        resource.name = some name ↔
          attributes.IsCandidate name ∧
            ∀ index other, (declared resource.kind)[index]? = some other →
              other.IsCandidate name → index = resource.index) ∧
      ∀ other otherDeclared, Built other otherDeclared → ∀ kind,
        otherDeclared kind = declared kind →
          (other.resources.filter fun entry => entry.1.kind == kind) =
            tree.resources.filter fun entry => entry.1.kind == kind := by
  refine ⟨tree.pairwise_resources, fun kind index attributes => ?_, ?_, ?_, ?_⟩
  · simp only [mem_resources_iff, mem_resourcesOfKind_iff, built.instances_eq, true_and]
    exact ⟨fun ⟨_, position, _⟩ => position, fun position => ⟨_, position, rfl⟩⟩
  · rw [resourceCount, ← map_snd_resources, List.length_map]
  · intro resource attributes member name
    obtain ⟨_, position, named⟩ := mem_resourcesOfKind_iff.1 (mem_resources_iff.1 member)
    rw [named, ← built.instances_eq]
    exact filter_candidateName?_eq_some_iff position
  · intro other otherDeclared otherBuilt kind same
    rw [filter_kind_resources, filter_kind_resources, built.instances_eq, otherBuilt.instances_eq,
      same]

/-- A number and a text, the one a name and the other a declared address, read alike and name
nothing. A name after an address that is null is kept, though an instance of another kind has it. -/
theorem resources_identify_instances_of_clashing_names :
    let document : Json := .object [("a", .array
      [.object [("name", .array [.number (.whole 22)])],
        .object [("__address__", .array [.text "22"])]])]
    let byNumber : Attributes := [("name", [.int 22])]
    let byText : Attributes := [("__address__", [.text "22"])]
    let alone : Attributes := [("__address__", [.null]), ("name", [.text "x"])]
    ∃ read declared, ofJson document = .ok read ∧
      Built ((read.push "a" alone).push "b" alone) declared ∧
        declared "a" = [byNumber, byText, alone] ∧
        ({ kind := "a", index := 1, name := none }, byText) ∈
          ((read.push "a" alone).push "b" alone).resources ∧
        ({ kind := "a", index := 2, name := some "x" }, alone) ∈
          ((read.push "a" alone).push "b" alone).resources := by
  intro document byNumber byText alone
  have canonical : document.Canonical := by
    simp only [document, Json.Canonical, Json.CanonicalMembers, Json.CanonicalItems]
    decide
  obtain ⟨tree, read⟩ : ∃ tree, ofJson document = .ok tree := ⟨_, rfl⟩
  have entries : ∀ kind, (if kind = "a" then [byNumber, byText] else []).map Value.block =
      (document.entries kind).map Value.ofJson := by
    intro kind
    rw [Json.entries_object_cons]
    split <;> rfl
  have built := ((Built.read canonical read entries).push "a" alone).push "b" alone
  have numberReads : byNumber.candidateName? = some "22" := by decide
  have textReads : byText.candidateName? = some "22" := by decide
  have aloneReads : alone.candidateName? = some "x" := by decide
  obtain ⟨_, positions, _, names, _⟩ := resources_identify_instances built
  refine ⟨tree, _, read, built, rfl, ?_, ?_⟩
  · obtain ⟨name, member⟩ := (positions "a" 1 byText).2 rfl
    cases name with
    | none => exact member
    | some name =>
      obtain ⟨candidate, only⟩ := (names _ _ member name).1 rfl
      have same := textReads.symm.trans (Attributes.candidateName?_eq_some_iff.2 candidate)
      have shared := Attributes.candidateName?_eq_some_iff.1 (numberReads.trans same)
      exact nomatch only 0 byNumber rfl shared
  · obtain ⟨name, member⟩ := (positions "a" 2 alone).2 rfl
    have named : name = some "x" := by
      refine (names _ _ member "x").2
        ⟨Attributes.candidateName?_eq_some_iff.1 aloneReads, fun index other position candidate => ?_⟩
      have reads := Attributes.candidateName?_eq_some_iff.2 candidate
      match index with
      | 0 =>
        cases position
        exact absurd (numberReads.symm.trans reads) (by decide)
      | 1 =>
        cases position
        exact absurd (textReads.symm.trans reads) (by decide)
      | 2 => rfl
      | _ + 3 => exact nomatch position
    exact named ▸ member

end Tree

end ConfigAudit
