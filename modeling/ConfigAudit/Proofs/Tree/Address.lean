import ConfigAudit.Proofs.Number.Numeral
import ConfigAudit.Proofs.Tree.Resources
import ConfigAudit.Suppressions
import ConfigAudit.Tree.OfJson

/-!
# Addresses of resources

An address is the kind of a resource followed by its label, a dot with the name or brackets with
the position. Within a kind the label tells the resources apart. Between two kinds it need not: a
name may go on where the other kind does, and `Resource.Imitates` says exactly when that happens.
-/

namespace ConfigAudit

namespace Resource

/-- What an address says of a resource beside its kind. -/
def label (resource : Resource) : String :=
  match resource.name with
  | some name => "." ++ name
  | none => "[" ++ Numeral.text resource.index ++ "]"

/-- The kind of another resource is the kind of this one, a dot and a further text, and the name of
this one is that text with the label of the other one. -/
def Imitates (one other : Resource) : Prop :=
  ∃ rest, other.kind = one.kind ++ "." ++ rest ∧ one.name = some (rest ++ other.label)

/-- One of two resources imitates the other one. -/
def Clash (one other : Resource) : Prop :=
  one.Imitates other ∨ other.Imitates one

variable {one other : Resource}

theorem address_eq_append (resource : Resource) :
    resource.address = resource.kind ++ resource.label := by
  unfold address label
  cases resource.name <;> simp [String.append_assoc]

theorem toList_label_of_some {name : String} (named : one.name = some name) :
    one.label.toList = '.' :: name.toList := by
  simp [label, named]

theorem toList_label_of_none (nameless : one.name = none) :
    one.label.toList = '[' :: (Numeral.digits one.index ++ [']']) := by
  simp [label, nameless, Numeral.text]

/-- A label begins with a character that is neither a digit nor a closing bracket. -/
theorem exists_toList_label (resource : Resource) :
    ∃ mark rest, resource.label.toList = mark :: rest ∧ mark.isDigit = false ∧ mark ≠ ']' := by
  cases name : resource.name with
  | some text => exact ⟨_, _, toList_label_of_some name, by decide, by decide⟩
  | none => exact ⟨_, _, toList_label_of_none name, by decide, by decide⟩

/-- Labels agree if the names do, and without names the positions. -/
theorem label_eq_label_iff :
    one.label = other.label ↔
      one.name = other.name ∧ (one.name = none → one.index = other.index) := by
  rw [← String.toList_inj]
  cases oneName : one.name with
  | some name =>
    rw [toList_label_of_some oneName]
    cases otherName : other.name with
    | some otherText => simp [toList_label_of_some otherName, String.toList_inj]
    | none => simp [toList_label_of_none otherName]
  | none =>
    rw [toList_label_of_none oneName]
    cases otherName : other.name with
    | some otherText => simp [toList_label_of_some otherName]
    | none =>
      rw [toList_label_of_none otherName]
      constructor
      · intro same
        have digits : Numeral.digits one.index = Numeral.digits other.index := by simpa using same
        have values := congrArg Numeral.value digits
        rw [Numeral.value_digits, Numeral.value_digits] at values
        exact ⟨rfl, fun _ => values⟩
      · rintro ⟨_, positions⟩
        rw [positions rfl]

/-- A label ends in another one only if it is that label, or a name that goes on to it. -/
theorem eq_nil_or_of_label_eq_append {before : List Char}
    (ends : one.label.toList = before ++ other.label.toList) :
    before = [] ∨
      ∃ rest, before = '.' :: rest ∧ one.name = some (String.ofList rest ++ other.label) := by
  cases before with
  | nil => exact .inl rfl
  | cons first rest =>
    refine .inr ?_
    cases name : one.name with
    | some text =>
      rw [toList_label_of_some name, List.cons_append] at ends
      obtain ⟨rfl, characters⟩ := List.cons.inj ends
      refine ⟨rest, rfl, congrArg some (String.toList_inj.1 ?_)⟩
      simpa using characters
    | none =>
      -- the label of the other one would begin inside the brackets
      rw [toList_label_of_none name, List.cons_append] at ends
      obtain ⟨_, inside⟩ := List.cons.inj ends
      obtain ⟨mark, following, begins, noDigit, noBracket⟩ := exists_toList_label other
      have member : mark ∈ Numeral.digits one.index ++ [']'] := by
        rw [inside, begins]
        simp
      rcases List.mem_append.1 member with digit | bracket
      · rw [Numeral.isDigit_of_mem_digits digit] at noDigit
        cases noDigit
      · exact absurd (List.mem_singleton.1 bracket) noBracket

/-- If two addresses are the same text and one kind begins the other, that kind is the other one or
its resource imitates the one of the other kind. -/
theorem eq_or_imitates_of_append {between : List Char}
    (kinds : other.kind.toList = one.kind.toList ++ between)
    (labels : one.label.toList = between ++ other.label.toList) :
    one.kind = other.kind ∧ one.label = other.label ∨ one.Imitates other := by
  rcases eq_nil_or_of_label_eq_append labels with rfl | ⟨rest, rfl, name⟩
  · refine .inl ⟨String.toList_inj.1 ?_, String.toList_inj.1 ?_⟩
    · simpa using kinds.symm
    · simpa using labels
  · refine .inr ⟨String.ofList rest, String.toList_inj.1 ?_, name⟩
    simpa using kinds

theorem Imitates.address_eq (imitates : one.Imitates other) : one.address = other.address := by
  obtain ⟨rest, kind, name⟩ := imitates
  rw [address_eq_append other, kind, address, name]
  simp [String.append_assoc]

/-- Two addresses are the same text iff kinds and labels agree or one resource imitates the
other. -/
theorem address_eq_address_iff :
    one.address = other.address ↔
      one.kind = other.kind ∧ one.label = other.label ∨ one.Clash other := by
  constructor
  · intro same
    rw [address_eq_append, address_eq_append, ← String.toList_inj, String.toList_append,
      String.toList_append, List.append_eq_append_iff] at same
    rcases same with ⟨between, kinds, labels⟩ | ⟨between, kinds, labels⟩
    · exact (eq_or_imitates_of_append kinds labels).imp_right .inl
    · rcases eq_or_imitates_of_append kinds labels with ⟨kind, label⟩ | imitates
      · exact .inl ⟨kind.symm, label.symm⟩
      · exact .inr (.inr imitates)
  · rintro (⟨kind, label⟩ | imitates | imitates)
    · rw [address_eq_append, address_eq_append, kind, label]
    · exact imitates.address_eq
    · exact imitates.address_eq.symm

/-- The kind of a resource that is imitated is longer. -/
theorem Imitates.kind_ne (imitates : one.Imitates other) : one.kind ≠ other.kind := by
  obtain ⟨rest, kind, _⟩ := imitates
  intro same
  have lengths := congrArg String.length (same.trans kind)
  simp only [String.length_append] at lengths
  have dot : ".".length = 1 := by decide
  omega

/-- Resources of one kind have the same address iff they have the same label. -/
theorem address_eq_address_iff_of_kind_eq (kind : one.kind = other.kind) :
    one.address = other.address ↔ one.label = other.label := by
  rw [address_eq_append, address_eq_append, kind, String.append_right_inj]

end Resource

namespace Allowlist

/-- A list with one entry covers the address that is the entry and those that a pattern matches. -/
theorem covers_of_single {entry address : String} {globs : List Glob} :
    covers ⟨[entry], globs⟩ address = true ↔
      entry = address ∨ globs.any (·.matches address) = true := by
  simp [covers, eq_comm (a := entry)]

end Allowlist

namespace Tree

/-- Two instances of a kind have different labels: a name is given to one instance only, and any
other instance is known by its position. -/
theorem pairwise_label_resourcesOfKind (kind : String) (instances : List Attributes) :
    (resourcesOfKind kind instances).Pairwise fun earlier later =>
      earlier.1.label ≠ later.1.label := by
  rw [resourcesOfKind, List.pairwise_map, List.pairwise_iff_forall_sublist]
  rintro ⟨first, firstIndex⟩ ⟨second, secondIndex⟩ both labels
  obtain ⟨names, positions⟩ := Resource.label_eq_label_iff.1 labels
  have ascending : firstIndex < secondIndex := by
    have indices := both.map Prod.snd
    rw [List.zipIdx_map_snd] at indices
    exact List.pairwise_iff_forall_sublist.1 List.pairwise_lt_range' indices
  cases named : first.candidateName?.filter fun name =>
      (instances.map Attributes.candidateName?).count (some name) == 1 with
  | none => exact absurd (positions named) (Nat.ne_of_lt ascending)
  | some name =>
    obtain ⟨firstCandidate, single⟩ := Option.filter_eq_some_iff.1 named
    obtain ⟨secondCandidate, _⟩ := Option.filter_eq_some_iff.1 (names.symm.trans named)
    -- both instances have the name as candidate, so it stands twice among the candidates
    have candidates := (both.map Prod.fst).map Attributes.candidateName?
    rw [List.zipIdx_map_fst] at candidates
    simp only [List.map_cons, List.map_nil, firstCandidate, secondCandidate] at candidates
    have twice : 2 ≤ (instances.map Attributes.candidateName?).count (some name) :=
      List.replicate_sublist_iff.1 candidates
    rw [beq_iff_eq.1 single] at twice
    omega

/-- Two resources of a tree differ in kind or in label. -/
theorem pairwise_kind_or_label (tree : Tree) :
    tree.resources.Pairwise fun earlier later =>
      ¬ (earlier.1.kind = later.1.kind ∧ earlier.1.label = later.1.label) := by
  rw [resources, List.pairwise_flatMap]
  constructor
  · intro entry _
    exact (pairwise_label_resourcesOfKind entry.1 entry.2).imp fun labels same => labels same.2
  · refine tree.sorted.imp fun before earlier earlierMember later laterMember same => ?_
    rw [kind_of_mem_resourcesOfKind earlierMember, kind_of_mem_resourcesOfKind laterMember] at same
    exact String.ne_of_lt before same.1

/-- Two resources of a tree have the same address iff one of them imitates the other one, which no
resource of the same kind does. An allowlist with the address of one of them covers the other one
in that case, and beyond it only by a pattern that matches. -/
theorem pairwise_address_eq_iff_clash (tree : Tree) :
    tree.resources.Pairwise fun earlier later =>
      (earlier.1.address = later.1.address ↔ earlier.1.Clash later.1) ∧
        (earlier.1.kind = later.1.kind → ¬ earlier.1.Clash later.1) ∧
        ∀ globs : List Glob,
          (Allowlist.covers ⟨[earlier.1.address], globs⟩ later.1.address = true ↔
              earlier.1.Clash later.1 ∨ globs.any (·.matches later.1.address) = true) ∧
            (Allowlist.covers ⟨[later.1.address], globs⟩ earlier.1.address = true ↔
              earlier.1.Clash later.1 ∨ globs.any (·.matches earlier.1.address) = true) := by
  refine tree.pairwise_kind_or_label.imp fun {earlier later} different => ?_
  have same : earlier.1.address = later.1.address ↔ earlier.1.Clash later.1 :=
    Resource.address_eq_address_iff.trans (or_iff_right different)
  refine ⟨same, fun kind clash => ?_, fun globs => ⟨?_, ?_⟩⟩
  · rcases clash with imitates | imitates
    · exact imitates.kind_ne kind
    · exact imitates.kind_ne kind.symm
  · rw [Allowlist.covers_of_single, same]
  · rw [Allowlist.covers_of_single, eq_comm, same]

/-- A resource named like an instance of a kind with a dot. Its address, listed verbatim, keeps a
rule from both resources, although the pattern that it also is matches neither. -/
theorem address_shared_between_kinds :
    ∃ tree, ofJson (.object
        [("a", .array [.object [("name", .array [.text "b[0]"])]]),
          ("a.b", .array [.object []])]) = .ok tree ∧
      tree.resources.map Prod.fst = [⟨"a", 0, some "b[0]"⟩, ⟨"a.b", 0, none⟩] ∧
      tree.resources.map (fun entry => entry.1.address) = ["a.b[0]", "a.b[0]"] ∧
      ∃ allowlist, Allowlist.compile ["a.b[0]"] = .ok allowlist ∧
        allowlist.globs.any (·.matches "a.b[0]") = false ∧
        allowlist.covers "a.b[0]" = true := by
  exact ⟨_, rfl, by decide +kernel, by decide +kernel, _, rfl, by decide +kernel,
    by decide +kernel⟩

end Tree

end ConfigAudit
