import ConfigAudit.Proofs.Json.Canonical
import ConfigAudit.Proofs.Tree.OfJson

/-!
# The shape of a configuration tree

`Tree.Stands` says which values of a document stand where the shape of a tree asks for an array or
an object. They are looked at one after the other, in the order of their places, so a document is
read iff each of them is what its place asks for, and else the first one that is not is told:
`Tree.ofJson_tells_first_violation`. What stands inside an attribute has no place in this sense.
-/

namespace ConfigAudit

namespace Json

/-- A value is an object of kinds, each an array of instances, each an object of attributes, each an
array. -/
def HasTreeShape (document : Json) : Prop :=
  ∃ kinds, document = .object kinds ∧
    ∀ kind ∈ kinds, ∃ instances, kind.2 = .array instances ∧
      ∀ item ∈ instances, ∃ members, item = .object members ∧
        ∀ member ∈ members, ∃ entries, member.2 = .array entries

/-- The members of an object; none in any other value. -/
def members : Json → List (String × Json)
  | .object members => members
  | _ => []

theorem eq_object_of_mem_members {value : Json} {member : String × Json}
    (given : member ∈ value.members) : value = .object value.members := by
  cases value with
  | object members => rfl
  | null | bool | number | text | array => cases given

theorem eq_array_of_mem_items {value item : Json} (given : item ∈ value.items) :
    value = .array value.items := by
  cases value with
  | array items => rfl
  | null | bool | number | text | object => cases given

/-- The members of a canonical value are in key order. -/
theorem Canonical.sorted_members {value : Json} (canonical : value.Canonical) :
    Members.Sorted value.members := by
  cases value with
  | object members => exact canonical.1
  | null | bool | number | text | array => exact Members.sorted_nil

theorem Canonical.of_mem_members {value : Json} (canonical : value.Canonical)
    {member : String × Json} (given : member ∈ value.members) : member.2.Canonical := by
  rw [eq_object_of_mem_members given] at canonical
  exact canonicalMembers_iff.1 canonical.2 member given

theorem Canonical.of_mem_items {value item : Json} (canonical : value.Canonical)
    (given : item ∈ value.items) : item.Canonical := by
  rw [eq_array_of_mem_items given] at canonical
  exact canonicalItems_iff.1 canonical item given

theorem form_eq_mapping_iff {value : Json} :
    value.form = .mapping ↔ ∃ members, value = .object members := by
  cases value <;> simp [form]

theorem form_eq_sequence_iff {value : Json} :
    value.form = .sequence ↔ ∃ items, value = .array items := by
  cases value <;> simp [form]

end Json

namespace Tree

/-- A place in a document at which the shape of a tree asks for something. -/
inductive Place where
  | root
  | ofKind (kind : String)
  | ofInstance (kind : String) (index : Nat)
  | ofAttribute (kind : String) (index : Nat) (name : String)
deriving DecidableEq, Repr

namespace Place

/-- The kind below which a place lies. -/
def kind? : Place → Option String
  | root => none
  | ofKind kind | ofInstance kind _ | ofAttribute kind _ _ => some kind

/-- The position of the instance below which a place lies. -/
def index? : Place → Option Nat
  | root | ofKind _ => none
  | ofInstance _ index | ofAttribute _ index _ => some index

/-- The name of the attribute. -/
def name? : Place → Option String
  | root | ofKind _ | ofInstance _ _ => none
  | ofAttribute _ _ name => some name

/-- The order of the places: by kind, then by the position of the instance, then by the name of the
attribute. A place comes before the places below it. -/
def Precedes (left right : Place) : Prop :=
  left.kind? < right.kind? ∨ left.kind? = right.kind? ∧
    (left.index? < right.index? ∨ left.index? = right.index? ∧ left.name? < right.name?)

/-- The way to a place, each step after a slash. -/
def path : Place → String
  | root => ""
  | ofKind kind => "/" ++ kind
  | ofInstance kind index => "/" ++ kind ++ "/" ++ Numeral.text index
  | ofAttribute kind index name => "/" ++ kind ++ "/" ++ Numeral.text index ++ "/" ++ name

/-- The form that a place asks for. -/
def expected : Place → JsonForm
  | root | ofInstance _ _ => .mapping
  | ofKind _ | ofAttribute _ _ _ => .sequence

/-- What a place asks for, in words that the form found in its place completes. -/
def demand : Place → String
  | root => "expected an object of resource kinds, found "
  | ofKind _ => "resource kind must map to a sequence of instances, found "
  | ofInstance _ _ => "resource instance must be a mapping, found "
  | ofAttribute _ _ _ => "attribute must be a sequence, found "

/-- The violation by a value of another form. -/
def violation : Place → JsonForm → TreeError
  | root => .rootForm
  | ofKind kind => .kindForm kind
  | ofInstance kind index => .instanceForm kind index
  | ofAttribute kind index name => .attributeForm kind index name

theorem path_violation (place : Place) (found : JsonForm) :
    (place.violation found).path = place.path := by
  cases place <;> rfl

theorem reason_violation (place : Place) (found : JsonForm) :
    (place.violation found).reason = place.demand ++ found.phrase := by
  cases place <;> rfl

theorem lt_asymm_of_option {Key : Type} [LT Key]
    (asymm : ∀ {left right : Key}, left < right → ¬ right < left) {left right : Option Key}
    (before : left < right) : ¬ right < left := by
  cases left <;> cases right <;> simp_all

theorem Precedes.asymm {left right : Place} (precedes : left.Precedes right) :
    ¬ right.Precedes left := by
  have kinds : left.kind? < right.kind? → ¬ right.kind? < left.kind? :=
    lt_asymm_of_option String.lt_asymm
  have indices : left.index? < right.index? → ¬ right.index? < left.index? :=
    lt_asymm_of_option Nat.lt_asymm
  have names : left.name? < right.name? → ¬ right.name? < left.name? :=
    lt_asymm_of_option String.lt_asymm
  unfold Precedes at precedes ⊢
  grind

end Place

/-- A value stands at a place in a document. -/
inductive Stands (document : Json) : Place → Json → Prop where
  | root : Stands document .root document
  | ofKind {members : List (String × Json)} {kind : String} {value : Json}
      (within : Stands document .root (.object members)) (member : (kind, value) ∈ members) :
      Stands document (.ofKind kind) value
  | ofInstance {kind : String} {items : List Json} {index : Nat} {value : Json}
      (within : Stands document (.ofKind kind) (.array items)) (position : items[index]? = some value) :
      Stands document (.ofInstance kind index) value
  | ofAttribute {kind : String} {index : Nat} {members : List (String × Json)} {name : String}
      {value : Json} (within : Stands document (.ofInstance kind index) (.object members))
      (member : (name, value) ∈ members) :
      Stands document (.ofAttribute kind index name) value

/-- The first value of a document that is not what its place asks for. -/
def IsFirstViolation (document : Json) (place : Place) (value : Json) : Prop :=
  Stands document place value ∧ value.form ≠ place.expected ∧
    ∀ earlier, earlier.Precedes place → ∀ other, Stands document earlier other →
      other.form = earlier.expected

/-- A document has the shape of a tree iff each place has the form that it asks for. -/
theorem hasTreeShape_iff {document : Json} :
    document.HasTreeShape ↔ ∀ place value, Stands document place value → value.form = place.expected := by
  constructor
  · rintro ⟨kinds, rfl, ofKinds⟩ place value stands
    cases stands with
    | root => rfl
    | ofKind within member =>
      cases within
      obtain ⟨instances, same, _⟩ := ofKinds _ member
      exact Json.form_eq_sequence_iff.2 ⟨instances, same⟩
    | ofInstance within position =>
      cases within with | ofKind within member =>
      cases within
      obtain ⟨_, ⟨⟩, ofInstances⟩ := ofKinds _ member
      obtain ⟨attributes, same, _⟩ := ofInstances _ (List.mem_of_getElem? position)
      exact Json.form_eq_mapping_iff.2 ⟨attributes, same⟩
    | ofAttribute within given =>
      cases within with | ofInstance within position =>
      cases within with | ofKind within member =>
      cases within
      obtain ⟨_, ⟨⟩, ofInstances⟩ := ofKinds _ member
      obtain ⟨_, ⟨⟩, ofAttributes⟩ := ofInstances _ (List.mem_of_getElem? position)
      exact Json.form_eq_sequence_iff.2 (ofAttributes _ given)
  · intro expected
    obtain ⟨kinds, rfl⟩ := Json.form_eq_mapping_iff.1 (expected _ _ .root)
    refine ⟨kinds, rfl, fun (kind, value) member => ?_⟩
    have ofKind : Stands (.object kinds) (.ofKind kind) value := .ofKind .root member
    obtain ⟨instances, rfl⟩ := Json.form_eq_sequence_iff.1 (expected _ _ ofKind)
    refine ⟨instances, rfl, fun item ofInstances => ?_⟩
    obtain ⟨index, position⟩ := List.getElem?_of_mem ofInstances
    have ofInstance : Stands (.object kinds) (.ofInstance kind index) item := .ofInstance ofKind position
    obtain ⟨attributes, rfl⟩ := Json.form_eq_mapping_iff.1 (expected _ _ ofInstance)
    refine ⟨attributes, rfl, fun (name, entries) ofAttributes => ?_⟩
    exact Json.form_eq_sequence_iff.1 (expected _ _ (.ofAttribute ofInstance ofAttributes))

/-! ## The places in order -/

/-- The places of an instance and its attributes, with what stands there. -/
def placesOfInstance (kind : String) (entry : Json × Nat) : List (Place × Json) :=
  (.ofInstance kind entry.2, entry.1) ::
    entry.1.members.map fun (name, value) => (.ofAttribute kind entry.2 name, value)

/-- The places of a kind and its instances. -/
def placesOfKind (member : String × Json) : List (Place × Json) :=
  (.ofKind member.1, member.2) :: member.2.items.zipIdx.flatMap (placesOfInstance member.1)

/-- The places of a document. -/
def places (document : Json) : List (Place × Json) :=
  (.root, document) :: document.members.flatMap placesOfKind

/-- The check of what stands at a place. -/
def checkForm (entry : Place × Json) : Except TreeError Unit :=
  if entry.2.form = entry.1.expected then .ok () else .error (entry.1.violation entry.2.form)

theorem checkForm_eq_ok_iff {entry : Place × Json} :
    checkForm entry = .ok () ↔ entry.2.form = entry.1.expected := by
  unfold checkForm
  split <;> simp_all

theorem checkForm_eq_error_iff {entry : Place × Json} {error : TreeError} :
    checkForm entry = .error error ↔
      entry.2.form ≠ entry.1.expected ∧ entry.1.violation entry.2.form = error := by
  unfold checkForm
  split <;> simp_all

theorem stands_of_mem_placesOfInstance {document item value : Json} {kind : String} {index : Nat}
    {place : Place} (within : Stands document (.ofInstance kind index) item)
    (listed : (place, value) ∈ placesOfInstance kind (item, index)) :
    Stands document place value := by
  rcases List.mem_cons.1 listed with same | below
  · cases same
    exact within
  · obtain ⟨_, given, same⟩ := List.mem_map.1 below
    cases same
    have object : item = .object item.members := Json.eq_object_of_mem_members given
    rw [object] at within
    exact .ofAttribute within given

theorem stands_of_mem_placesOfKind {document value : Json} {member : String × Json} {place : Place}
    (within : Stands document (.ofKind member.1) member.2)
    (listed : (place, value) ∈ placesOfKind member) : Stands document place value := by
  rcases List.mem_cons.1 listed with same | below
  · cases same
    exact within
  · obtain ⟨⟨item, index⟩, enumerated, listed⟩ := List.mem_flatMap.1 below
    rw [Json.eq_array_of_mem_items (List.fst_mem_of_mem_zipIdx enumerated)] at within
    have position := List.mem_zipIdx_iff_getElem?.1 enumerated
    exact stands_of_mem_placesOfInstance (.ofInstance within position) listed

/-- The places are those at which something stands. -/
theorem mem_places_iff {document : Json} {place : Place} {value : Json} :
    (place, value) ∈ places document ↔ Stands document place value := by
  constructor
  · intro listed
    rcases List.mem_cons.1 listed with same | below
    · cases same
      exact .root
    · obtain ⟨member, given, listed⟩ := List.mem_flatMap.1 below
      have within : Stands document .root (.object document.members) :=
        Json.eq_object_of_mem_members given ▸ .root
      exact stands_of_mem_placesOfKind (.ofKind within given) listed
  · intro stands
    cases stands with
    | root => exact List.mem_cons_self
    | ofKind within member =>
      cases within
      exact List.mem_cons_of_mem _ (List.mem_flatMap.2 ⟨_, member, List.mem_cons_self⟩)
    | ofInstance within position =>
      cases within with | ofKind within member =>
      cases within
      have enumerated : (value, _) ∈ List.zipIdx _ := List.mem_zipIdx_iff_getElem?.2 position
      exact List.mem_cons_of_mem _ (List.mem_flatMap.2 ⟨_, member,
        List.mem_cons_of_mem _ (List.mem_flatMap.2 ⟨_, enumerated, List.mem_cons_self⟩)⟩)
    | ofAttribute within given =>
      cases within with | ofInstance within position =>
      cases within with | ofKind within member =>
      cases within
      have enumerated : (Json.object _, _) ∈ List.zipIdx _ :=
        List.mem_zipIdx_iff_getElem?.2 position
      exact List.mem_cons_of_mem _ (List.mem_flatMap.2 ⟨_, member,
        List.mem_cons_of_mem _ (List.mem_flatMap.2 ⟨_, enumerated,
          List.mem_cons_of_mem _ (List.mem_map.2 ⟨_, given, rfl⟩)⟩)⟩)

/-- The places of an instance are in order, its attributes being in the order of their names. -/
theorem pairwise_placesOfInstance (kind : String) {entry : Json × Nat}
    (sorted : Members.Sorted entry.1.members) :
    (placesOfInstance kind entry).Pairwise fun earlier later => earlier.1.Precedes later.1 := by
  refine List.pairwise_cons.2 ⟨fun later member => ?_, List.pairwise_map.2 ?_⟩
  · obtain ⟨_, _, rfl⟩ := List.mem_map.1 member
    exact .inr ⟨rfl, .inr ⟨rfl, Option.none_lt_some⟩⟩
  · exact sorted.imp fun lower => .inr ⟨rfl, .inr ⟨rfl, Option.some_lt_some.2 lower⟩⟩

theorem place_of_mem_placesOfInstance {kind : String} {item : Json} {index : Nat}
    {entry : Place × Json} (listed : entry ∈ placesOfInstance kind (item, index)) :
    entry.1.kind? = some kind ∧ entry.1.index? = some index := by
  rcases List.mem_cons.1 listed with rfl | below
  · exact ⟨rfl, rfl⟩
  · obtain ⟨_, _, rfl⟩ := List.mem_map.1 below
    exact ⟨rfl, rfl⟩

theorem pairwise_placesOfKind {member : String × Json} (canonical : member.2.Canonical) :
    (placesOfKind member).Pairwise fun earlier later => earlier.1.Precedes later.1 := by
  refine List.pairwise_cons.2 ⟨fun later listed => ?_, List.pairwise_flatMap.2 ⟨?_, ?_⟩⟩
  · obtain ⟨_, _, listed⟩ := List.mem_flatMap.1 listed
    obtain ⟨kind, index⟩ := place_of_mem_placesOfInstance listed
    exact .inr ⟨kind.symm, .inl (index ▸ Option.none_lt_some)⟩
  · rintro ⟨item, index⟩ enumerated
    have item := canonical.of_mem_items (List.fst_mem_of_mem_zipIdx enumerated)
    exact pairwise_placesOfInstance member.1 item.sorted_members
  · have ascending : (member.2.items.zipIdx.map Prod.snd).Pairwise (· < ·) := by
      rw [List.zipIdx_map_snd]
      exact List.pairwise_lt_range'
    refine (List.pairwise_map.1 ascending).imp fun lower earlier ofEarlier later ofLater => ?_
    obtain ⟨kind, index⟩ := place_of_mem_placesOfInstance ofEarlier
    obtain ⟨laterKind, laterIndex⟩ := place_of_mem_placesOfInstance ofLater
    refine .inr ⟨kind.trans laterKind.symm, .inl ?_⟩
    rw [index, laterIndex]
    exact Option.some_lt_some.2 lower

theorem kind?_of_mem_placesOfKind {member : String × Json} {entry : Place × Json}
    (listed : entry ∈ placesOfKind member) : entry.1.kind? = some member.1 := by
  rcases List.mem_cons.1 listed with rfl | below
  · rfl
  · obtain ⟨_, _, listed⟩ := List.mem_flatMap.1 below
    exact (place_of_mem_placesOfInstance listed).1

/-- The places of a document are in order. -/
theorem pairwise_places {document : Json} (canonical : document.Canonical) :
    (places document).Pairwise fun earlier later => earlier.1.Precedes later.1 := by
  refine List.pairwise_cons.2 ⟨fun later listed => ?_, List.pairwise_flatMap.2 ⟨?_, ?_⟩⟩
  · obtain ⟨member, _, listed⟩ := List.mem_flatMap.1 listed
    exact .inl (kind?_of_mem_placesOfKind listed ▸ Option.none_lt_some)
  · intro member given
    exact pairwise_placesOfKind (canonical.of_mem_members given)
  · refine canonical.sorted_members.imp fun lower earlier ofEarlier later ofLater => .inl ?_
    rw [kind?_of_mem_placesOfKind ofEarlier, kind?_of_mem_placesOfKind ofLater]
    exact Option.some_lt_some.2 lower

/-! ## Reading as a check of the places -/

theorem discard_attributeOfJson (kind : String) (index : Nat) (member : String × Json) :
    discard (attributeOfJson kind index member) =
      checkForm (.ofAttribute kind index member.1, member.2) := by
  obtain ⟨name, value⟩ := member
  cases value with
  | array entries => rw [attributeOfJson_array]; rfl
  | null | bool | number | text | object => rfl

theorem discard_instanceOfJson (kind : String) (entry : Json × Nat) :
    discard (instanceOfJson kind entry) = (placesOfInstance kind entry).forM checkForm := by
  obtain ⟨item, index⟩ := entry
  cases item with
  | object members =>
    have below : (placesOfInstance kind (.object members, index)).forM checkForm =
        (members.map fun (name, value) => (Place.ofAttribute kind index name, value)).forM
          checkForm := rfl
    rw [instanceOfJson, discard_mapM, below]
    simp only [discard_attributeOfJson, List.forM_eq_forM, List.forM_map]
  | null | bool | number | text | array => rfl

theorem discard_instancesOfJson (member : String × Json) :
    discard (instancesOfJson member.1 member.2) = (placesOfKind member).forM checkForm := by
  obtain ⟨kind, value⟩ := member
  cases value with
  | array items =>
    rw [instancesOfJson, discard_mapM]
    simp only [discard_instanceOfJson]
    rw [← forM_flatMap]
    rfl
  | null | bool | number | text | object => rfl

theorem discard_declareAll (tree : Tree) (members : List (String × Json)) :
    discard (declareAll tree members) = (members.flatMap placesOfKind).forM checkForm := by
  rw [forM_flatMap]
  induction members generalizing tree with
  | nil => rfl
  | cons member rest inductionHypothesis =>
    rw [declareAll, discard_bind fun instances => inductionHypothesis _, discard_instancesOfJson]
    rfl

/-- A document is refused by the checks of its places. -/
theorem discard_ofJson (document : Json) :
    discard (ofJson document) = (places document).forM checkForm := by
  cases document with
  | object members => exact discard_declareAll empty members
  | null | bool | number | text | array => rfl

/-- A document is read iff it has the shape of a tree. -/
theorem exists_ofJson_eq_ok_iff {document : Json} :
    (∃ tree, ofJson document = .ok tree) ↔ document.HasTreeShape := by
  rw [← discard_eq_ok_iff, discard_ofJson, forM_eq_ok, hasTreeShape_iff]
  simp only [Prod.forall, checkForm_eq_ok_iff, mem_places_iff]

/-- The checks of the places, each with its place. -/
def checks (document : Json) : List (Place × Except TreeError Unit) :=
  (places document).map fun entry => (entry.1, checkForm entry)

/-- A check finds fault with a place iff what stands there is not what the place asks for. -/
theorem mem_checks_iff {document : Json} {place : Place} {error : TreeError} :
    (place, .error error) ∈ checks document ↔
      ∃ value, Stands document place value ∧ value.form ≠ place.expected ∧
        place.violation value.form = error := by
  constructor
  · intro member
    obtain ⟨⟨place, value⟩, listed, same⟩ := List.mem_map.1 member
    obtain ⟨rfl, refused⟩ := Prod.mk.inj same
    exact ⟨value, mem_places_iff.1 listed, checkForm_eq_error_iff.1 refused⟩
  · rintro ⟨value, stands, refused⟩
    exact List.mem_map.2 ⟨(place, value), mem_places_iff.2 stands,
      congrArg (Prod.mk place) (checkForm_eq_error_iff.2 refused)⟩

/-- What is told of a document that is not read is its first violation. -/
theorem ofJson_eq_error_iff {document : Json} (canonical : document.Canonical)
    {error : TreeError} :
    ofJson document = .error error ↔
      ∃ place value, IsFirstViolation document place value ∧
        place.violation value.form = error := by
  have ordered : (checks document).Pairwise fun earlier later => earlier.1.Precedes later.1 :=
    List.pairwise_map.2 (pairwise_places canonical)
  have same : (places document).forM checkForm = (checks document).forM Prod.snd := by
    simp only [checks, List.forM_eq_forM, List.forM_map]
  rw [← discard_eq_error_iff, discard_ofJson, same,
    forM_eq_error_iff_of_pairwise Place.Precedes (fun _ _ => Place.Precedes.asymm) ordered]
  simp only [mem_checks_iff]
  constructor
  · rintro ⟨place, ⟨value, stands, differs, told⟩, first⟩
    refine ⟨place, value, ⟨stands, differs, fun earlier precedes other standsEarlier => ?_⟩, told⟩
    exact Decidable.byContradiction fun refused =>
      first earlier precedes _ ⟨other, standsEarlier, refused, rfl⟩
  · rintro ⟨place, value, ⟨stands, differs, first⟩, told⟩
    refine ⟨place, ⟨value, stands, differs, told⟩, fun earlier precedes _ => ?_⟩
    rintro ⟨other, standsEarlier, refused, _⟩
    exact refused (first earlier precedes other standsEarlier)

/-- A document is read iff it has the shape of a tree. Else the first value that is not what its
place asks for is told, with the way to this place and with the form found there. No value inside
the array of an attribute is refused, wherever it stands. -/
theorem ofJson_tells_first_violation {document : Json} (canonical : document.Canonical) :
    ((∃ tree, ofJson document = .ok tree) ↔ document.HasTreeShape) ∧
      (∀ path reason,
        (∃ error, ofJson document = .error error ∧ error.path = path ∧ error.reason = reason) ↔
          ∃ place value, IsFirstViolation document place value ∧
            place.path = path ∧ place.demand ++ value.form.phrase = reason) ∧
      ∀ path entry, ∃ value, Value.read path entry = .ok value := by
  refine ⟨exists_ofJson_eq_ok_iff, fun path reason => ?_, fun path entry =>
    ⟨_, Value.read_eq_ok path entry⟩⟩
  constructor
  · rintro ⟨error, failed, rfl, rfl⟩
    obtain ⟨place, value, first, rfl⟩ := (ofJson_eq_error_iff canonical).1 failed
    exact ⟨place, value, first, (place.path_violation _).symm, (place.reason_violation _).symm⟩
  · rintro ⟨place, value, first, rfl, rfl⟩
    exact ⟨_, (ofJson_eq_error_iff canonical).2 ⟨place, value, first, rfl⟩,
      place.path_violation _, place.reason_violation _⟩

/-- An attribute that is no array comes before an instance and a kind that are not what they have to
be, and after an attribute in whose array a block, a map and a list are mixed. -/
theorem ofJson_tells_first_violation_of_attribute :
    let mixed : Json := .array
      [.object [("x", .array [.null])], .object [("x", .array []), ("y", .null)], .array [.null]]
    let document : Json := .object
      [("a", .array [.object [("m", mixed), ("n", .bool true)], .null]), ("b", .null)]
    document.Canonical ∧ ¬ document.HasTreeShape ∧
      ∃ place value, IsFirstViolation document place value ∧ place.path = "/a/0/n" ∧
        place.demand ++ value.form.phrase = "attribute must be a sequence, found a boolean" := by
  intro mixed document
  have canonical : document.Canonical := by
    simp only [document, mixed, Json.Canonical, Json.CanonicalMembers, Json.CanonicalItems]
    decide
  obtain ⟨shape, told, _⟩ := ofJson_tells_first_violation canonical
  have failed : ofJson document = .error (.attributeForm "a" 0 "n" .boolean) := by rfl
  refine ⟨canonical, fun wellShaped => ?_, (told _ _).1 ⟨_, failed, by decide, by decide⟩⟩
  obtain ⟨tree, read⟩ := shape.2 wellShaped
  cases failed.symm.trans read

end Tree

end ConfigAudit
