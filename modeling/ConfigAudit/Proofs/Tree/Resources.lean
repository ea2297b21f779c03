import Mathlib.Algebra.GroupWithZero.Nat
import ConfigAudit.Proofs.Members
import ConfigAudit.Tree.Basic

/-!
# The resources of a tree

Every instance of a tree occurs once among its resources, in ascending order of kind and position.
-/

namespace ConfigAudit

namespace Resource

/-- A resource comes before another one if its kind does, or its position within the kind. -/
def Precedes (earlier later : Resource) : Prop :=
  earlier.kind < later.kind ∨ earlier.kind = later.kind ∧ earlier.index < later.index

end Resource

namespace Attributes

/-- Two instances could be named by the same text. -/
def SharesName (one other : Attributes) : Prop :=
  ∃ name, one.candidateName? = some name ∧ other.candidateName? = some name

end Attributes

namespace Tree

/-- The resources of a kind are its instances in the order of declaration, each with its
position. -/
theorem map_resourcesOfKind (kind : String) (instances : List Attributes) :
    (resourcesOfKind kind instances).map (fun (resource, attributes) =>
      (resource.kind, resource.index, attributes)) =
      instances.zipIdx.map fun (attributes, index) => (kind, index, attributes) := by
  simp [resourcesOfKind]

theorem kind_of_mem_resourcesOfKind {kind : String} {instances : List Attributes}
    {resource : Resource} {attributes : Attributes}
    (member : (resource, attributes) ∈ resourcesOfKind kind instances) : resource.kind = kind := by
  simp only [resourcesOfKind, List.mem_map, Prod.mk.injEq, Prod.exists] at member
  obtain ⟨_, _, _, rfl, _⟩ := member
  rfl

theorem map_snd_resourcesOfKind (kind : String) (instances : List Attributes) :
    (resourcesOfKind kind instances).map Prod.snd = instances := by
  rw [resourcesOfKind, List.map_map]
  exact List.zipIdx_map_fst _ _

theorem instances_declare (tree : Tree) (kind : String) (instances : List Attributes)
    (other : String) :
    (tree.declare kind instances).instances other =
      if other = kind then tree.instances other ++ instances else tree.instances other := by
  unfold Tree.instances declare
  split
  case isTrue same => rw [same, tree.sorted.lookup_update_self]; rfl
  case isFalse different => rw [Members.lookup_update_of_ne different]

/-- The instances of a tree are those of its kinds. -/
theorem resourceCount_eq_sum (tree : Tree) :
    tree.resourceCount = (tree.kinds.map fun (_, instances) => instances.length).sum := by
  rw [resourceCount, List.length_flatMap]

/-- The resources of a kind depend on the instances of this kind only. -/
theorem filter_kind_resources (tree : Tree) (kind : String) :
    (tree.resources.filter fun entry => entry.1.kind == kind) =
      resourcesOfKind kind (tree.instances kind) := by
  have ofKind (other : String) (instances : List Attributes) :
      ((resourcesOfKind other instances).filter fun entry => entry.1.kind == kind) =
        if other = kind then resourcesOfKind kind instances else [] := by
    split
    case isTrue same =>
      subst same
      rw [List.filter_eq_self]
      rintro ⟨resource, attributes⟩ member
      exact beq_iff_eq.2 (kind_of_mem_resourcesOfKind member)
    case isFalse different =>
      rw [List.filter_eq_nil_iff]
      rintro ⟨resource, attributes⟩ member same
      exact different ((kind_of_mem_resourcesOfKind member).symm.trans (beq_iff_eq.1 same))
  rw [resources, List.filter_flatMap]
  simp only [ofKind]
  rw [tree.sorted.flatMap_ite_eq, Tree.instances]
  cases tree.kinds.lookup kind <;> rfl

/-- An instance whose name nobody has of a kind leaves the resources of the kind as they are. -/
theorem resourcesOfKind_append {kind : String} {instances : List Attributes}
    {attributes : Attributes}
    (unshared : ∀ known ∈ instances, ¬ attributes.SharesName known) :
    resourcesOfKind kind (instances ++ [attributes]) =
      resourcesOfKind kind instances ++
        [({ kind, index := instances.length, name := attributes.candidateName? }, attributes)] := by
  simp only [resourcesOfKind, List.zipIdx_append, List.map_append, List.map_cons, List.map_nil,
    List.zipIdx_singleton, Nat.zero_add, List.count_append]
  congr 1
  · refine List.map_congr_left ?_
    rintro ⟨known, index⟩ member
    have unsharedKnown := unshared known (List.fst_mem_of_mem_zipIdx member)
    cases named : known.candidateName? with
    | none => rfl
    | some name =>
      have absent : [attributes.candidateName?].count (some name) = 0 :=
        List.count_eq_zero.2 fun same =>
          unsharedKnown ⟨name, (List.mem_singleton.1 same).symm, named⟩
      simp only [Option.filter_some, absent, Nat.add_zero]
  · cases named : attributes.candidateName? with
    | none => rfl
    | some name =>
      have absent : (instances.map Attributes.candidateName?).count (some name) = 0 := by
        refine List.count_eq_zero.2 fun member => ?_
        obtain ⟨known, ofKind, same⟩ := List.mem_map.1 member
        exact unshared known ofKind ⟨name, named, same⟩
      simp [absent]

/-- The instances of a kind are the attributes of the resources of the kind. -/
theorem mem_instances_iff {tree : Tree} {kind : String} {attributes : Attributes} :
    attributes ∈ tree.instances kind ↔
      ∃ resource, (resource, attributes) ∈ tree.resources ∧ resource.kind = kind := by
  constructor
  · intro member
    cases found : tree.kinds.lookup kind with
    | none => simp [Tree.instances, found] at member
    | some instances =>
      rw [Tree.instances, found, Option.getD_some, ← map_snd_resourcesOfKind kind instances,
        List.mem_map] at member
      obtain ⟨⟨resource, _⟩, ofKind, rfl⟩ := member
      have entry := tree.sorted.lookup_eq_some_iff.1 found
      exact ⟨resource, List.mem_flatMap.2 ⟨_, entry, ofKind⟩, kind_of_mem_resourcesOfKind ofKind⟩
  · rintro ⟨resource, member, rfl⟩
    obtain ⟨⟨kind, instances⟩, entry, ofKind⟩ := List.mem_flatMap.1 member
    rw [kind_of_mem_resourcesOfKind ofKind, Tree.instances,
      tree.sorted.lookup_eq_some_iff.2 entry, Option.getD_some,
      ← map_snd_resourcesOfKind kind instances]
    exact List.mem_map_of_mem ofKind

/-- The positions of the resources of a kind ascend. -/
theorem pairwise_resourcesOfKind (kind : String) (instances : List Attributes) :
    (resourcesOfKind kind instances).Pairwise fun earlier later =>
      Resource.Precedes earlier.1 later.1 := by
  have positions : (instances.zipIdx.map Prod.snd).Pairwise (· < ·) := by
    rw [List.zipIdx_map_snd]
    exact List.pairwise_lt_range'
  rw [resourcesOfKind, List.pairwise_map]
  exact (List.pairwise_map.1 positions).imp fun before => .inr ⟨rfl, before⟩

/-- The resources of a tree are the instances of its kinds in order, each with its position. -/
theorem map_resources (tree : Tree) :
    tree.resources.map (fun (resource, attributes) =>
      (resource.kind, resource.index, attributes)) =
      tree.kinds.flatMap fun (kind, instances) =>
        instances.zipIdx.map fun (attributes, index) => (kind, index, attributes) := by
  rw [resources, List.map_flatMap]
  exact congrArg tree.kinds.flatMap (funext fun entry => map_resourcesOfKind entry.1 entry.2)

/-- The resources of a tree ascend by kind and position. -/
theorem pairwise_resources (tree : Tree) :
    tree.resources.Pairwise fun earlier later => Resource.Precedes earlier.1 later.1 := by
  rw [resources, List.pairwise_flatMap]
  refine ⟨fun entry _ => pairwise_resourcesOfKind entry.1 entry.2, ?_⟩
  refine tree.sorted.imp fun before earlier earlierMember later laterMember => .inl ?_
  rw [kind_of_mem_resourcesOfKind earlierMember, kind_of_mem_resourcesOfKind laterMember]
  exact before

end Tree

end ConfigAudit
