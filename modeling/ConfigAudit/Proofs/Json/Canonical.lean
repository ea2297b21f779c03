import ConfigAudit.Json.Parser
import ConfigAudit.Proofs.Except

/-!
# Members of a document that was read

Whatever the order and repetitions in which a document gives the members of its objects, the value
that is read has them in strict key order. The machine keeps that of every value it holds.
-/

namespace ConfigAudit

namespace Json

theorem canonicalItems_iff {items : List Json} :
    CanonicalItems items ↔ ∀ item ∈ items, item.Canonical := by
  induction items with
  | nil => simp [CanonicalItems]
  | cons item items inductionHypothesis => simp [CanonicalItems, inductionHypothesis]

theorem canonicalMembers_iff {members : List (String × Json)} :
    CanonicalMembers members ↔ ∀ member ∈ members, member.2.Canonical := by
  induction members with
  | nil => simp [CanonicalMembers]
  | cons member members inductionHypothesis => simp [CanonicalMembers, inductionHypothesis]

theorem CanonicalMembers.insert {members : List (String × Json)}
    (canonical : CanonicalMembers members) (key : String) {value : Json}
    (canonicalValue : value.Canonical) : CanonicalMembers (Members.insert key value members) := by
  unfold Members.insert
  induction members with
  | nil => exact ⟨canonicalValue, trivial⟩
  | cons member rest inductionHypothesis =>
    obtain ⟨otherKey, other⟩ := member
    obtain ⟨canonicalOther, canonicalRest⟩ := canonical
    rw [Members.update]
    split
    · exact ⟨canonicalValue, canonicalOther, canonicalRest⟩
    · split
      · exact ⟨canonicalValue, canonicalRest⟩
      · exact ⟨canonicalOther, inductionHypothesis canonicalRest⟩

/-- Every value that a container holds so far is canonical, and so is an object as a whole. -/
def Frame.Canonical : Frame → Prop
  | .items done => CanonicalItems done
  | .members done _ => Members.Sorted done ∧ CanonicalMembers done

namespace Assembly

/-- Every container that is open is canonical so far, and so is the value of the document. -/
def Canonical : Assembly → Prop
  | .beforeValue frames | .beforeFirstItem frames | .beforeFirstKey frames =>
    ∀ frame ∈ frames, frame.Canonical
  | .afterItem done frames => CanonicalItems done ∧ ∀ frame ∈ frames, frame.Canonical
  | .beforeKey done frames | .afterKey done _ frames | .afterMember done frames =>
    (Members.Sorted done ∧ CanonicalMembers done) ∧ ∀ frame ∈ frames, frame.Canonical
  | .complete value => value.Canonical

/-- Delivering a canonical value keeps the containers canonical. -/
theorem canonical_deliver {value : Json} (canonical : value.Canonical) {frames : List Frame}
    (around : ∀ frame ∈ frames, frame.Canonical) : (deliver value frames).Canonical := by
  cases frames with
  | nil => exact canonical
  | cons frame frames =>
    obtain ⟨innermost, outer⟩ := List.forall_mem_cons.1 around
    cases frame with
    | items done => exact ⟨⟨canonical, innermost⟩, outer⟩
    | members done key =>
      obtain ⟨sorted, canonicalMembers⟩ := innermost
      exact ⟨⟨sorted.insert key value, canonicalMembers.insert key canonical⟩, outer⟩

theorem canonical_beginValue? {frames : List Frame} (around : ∀ frame ∈ frames, frame.Canonical)
    {token : Token} {next : Assembly} (begun : beginValue? frames token = some next) :
    next.Canonical := by
  cases token with
  | openArray | openObject =>
    obtain ⟨_, opened⟩ := Option.ite_none_right_eq_some.1 begun
    cases opened
    exact around
  | text | number | bool | null =>
    cases begun
    refine canonical_deliver ?_ around
    trivial
  | closeArray | closeObject | comma | colon => exact nomatch begun

/-- A token keeps the containers canonical. -/
theorem canonical_step? {assembly next : Assembly} (canonical : assembly.Canonical) {token : Token}
    (step : step? assembly token = some next) : next.Canonical := by
  unfold step? at step
  split at step
  -- a value, or the first item of an array
  case h_1 => exact canonical_beginValue? canonical step
  case h_3 =>
    refine canonical_beginValue? (List.forall_mem_cons.2 ⟨?_, canonical⟩) step
    trivial
  all_goals cases step
  -- the ends of arrays
  case h_2.refl =>
    refine canonical_deliver ?_ canonical
    trivial
  case h_5.refl =>
    obtain ⟨items, around⟩ := canonical
    refine canonical_deliver ?_ around
    exact canonicalItems_iff.2 fun item member =>
      canonicalItems_iff.1 items item (List.mem_reverse.1 member)
  -- the ends of objects
  case h_6.refl =>
    refine canonical_deliver ?_ canonical
    exact ⟨Members.sorted_nil, trivial⟩
  case h_11.refl =>
    obtain ⟨members, around⟩ := canonical
    refine canonical_deliver ?_ around
    exact members
  -- what stands between the parts of a container
  case h_4.refl =>
    obtain ⟨items, around⟩ := canonical
    exact List.forall_mem_cons.2 ⟨items, around⟩
  case h_7.refl => exact ⟨⟨Members.sorted_nil, trivial⟩, canonical⟩
  case h_8.refl => exact canonical
  case h_9.refl =>
    obtain ⟨members, around⟩ := canonical
    exact List.forall_mem_cons.2 ⟨members, around⟩
  case h_10.refl => exact canonical

end Assembly

/-- Every object of a document that is read has its members in strict key order. -/
theorem canonical_of_parse? {document : String} {value : Json}
    (parsed : parse? document = some value) : value.Canonical := by
  simp only [parse?, ofTokens?, Option.bind_eq_bind, Option.bind_eq_some_iff] at parsed
  obtain ⟨tokens, _, final, read, result⟩ := parsed
  have start : (Assembly.beforeValue []).Canonical := nofun
  have canonical : final.Canonical :=
    holds_of_foldlM_eq_some Assembly.Canonical
      (fun _ _ _ _ before step => Assembly.canonical_step? before step) start read
  cases final with
  | complete =>
    cases result
    exact canonical
  | beforeValue | beforeFirstItem | afterItem | beforeFirstKey | beforeKey | afterKey
  | afterMember => exact nomatch result

end Json

end ConfigAudit
