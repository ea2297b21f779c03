import ConfigAudit.Proofs.Except
import ConfigAudit.Workspace

/-!
# Reading what was written

A path that can be followed leads to the place `FilePath.follow`, so that two paths are those of one
file if they lead to one place. Writing a file makes directories and changes what stands at this
place, and nothing else: `Workspace.Keeps`. What was written can be read and written again as long
as later writes go to other places: `Workspace.Holds`.
-/

namespace ConfigAudit

/-- A step that changes a state, and what follows it, from a state on. -/
theorem bind_apply {State Result Rest : Type} (step : StateM State Result)
    (next : Result → StateM State Rest) (state : State) :
    (step >>= next) state = next (step state).1 (step state).2 :=
  rfl

namespace FilePath

/-- The place that a path leads to is where its last step leads from the end of the others. -/
theorem follow_eq (text : String) :
    follow text =
      ((ofText text).lead.foldl Place.take ⟨(ofText text).anchor, []⟩).take (ofText text).last := by
  rcases List.eq_nil_or_concat (steps text) with none | ⟨lead, last, split⟩
  · simp [follow, ofText, none, Place.take]
  · simp [follow, ofText, split]

end FilePath

namespace Place

theorem isWithin_self (place : Place) : place.isWithin place = true := by
  simp [isWithin]

end Place

namespace Workspace

variable {workspace before middle after : Workspace} {place other changed : Place}
  {path text : String}

/-! ## What stands at a place -/

theorem lookup_cons (place headPlace : Place) (text : String) (rest : List (Place × String)) :
    ((headPlace, text) :: rest).lookup place =
      if place = headPlace then some text else rest.lookup place := by
  by_cases same : place = headPlace
  · simp [same]
  · have unequal : (place == headPlace) = false := beq_false_of_ne same
    simp [List.lookup_cons, unequal, same]

theorem lookup_putFile (place other : Place) (text : String) (files : List (Place × String)) :
    (putFile place text files).lookup other =
      if other = place then some text else files.lookup other := by
  induction files with
  | nil => rw [putFile, lookup_cons]
  | cons head rest inductionHypothesis =>
    obtain ⟨headPlace, old⟩ := head
    rw [putFile, lookup_cons]
    split
    case isTrue here =>
      rw [lookup_cons, here]
      split <;> rfl
    case isFalse elsewhere =>
      rw [lookup_cons, inductionHypothesis]
      by_cases same : other = headPlace
      · simp [same, elsewhere]
      · simp [same]

/-- A file that is put somewhere lies there beside the files that were anywhere before. -/
theorem any_putFile (lies : Place → Bool) (place : Place) (text : String)
    (files : List (Place × String)) :
    (putFile place text files).any (fun file => lies file.1) =
      (files.any (fun file => lies file.1) || lies place) := by
  induction files with
  | nil => simp [putFile]
  | cons head rest inductionHypothesis =>
    obtain ⟨headPlace, old⟩ := head
    rw [putFile]
    split
    case isTrue here =>
      subst here
      cases found : lies headPlace <;> simp [found]
    case isFalse => simp [inductionHypothesis, Bool.or_assoc]

/-- Whether a place is a directory unless a file stands there: a path can start there, it was made,
or something lies in it. -/
def isEntered (workspace : Workspace) (place : Place) : Bool :=
  place.names.isEmpty || workspace.directories.any (·.isWithin place) ||
    workspace.files.any (·.1.isWithin place)

theorem node_eq_file_iff :
    workspace.node place = .file text ↔ workspace.files.lookup place = some text := by
  unfold node
  cases workspace.files.lookup place with
  | none => dsimp only; split <;> simp
  | some found => simp

theorem node_of_lookup_eq_none (free : workspace.files.lookup place = none) :
    workspace.node place = if workspace.isEntered place then .directory else .missing := by
  unfold node
  rw [free]
  rfl

theorem node_eq_directory_iff :
    workspace.node place = .directory ↔
      workspace.files.lookup place = none ∧ workspace.isEntered place = true := by
  cases found : workspace.files.lookup place with
  | none =>
    rw [node_of_lookup_eq_none found]
    cases workspace.isEntered place <;> simp
  | some text => simp [node_eq_file_iff.2 found]

theorem lookup_eq_none_of_missing (missing : workspace.node place = .missing) :
    workspace.files.lookup place = none := by
  cases found : workspace.files.lookup place with
  | none => rfl
  | some text => exact nomatch missing.symm.trans (node_eq_file_iff.2 found)

/-- A later workspace has the directories of an earlier one, and its files but for one at a
place. -/
structure Keeps (changed : Place) (before after : Workspace) : Prop where
  directory : ∀ place, before.node place = .directory → after.node place = .directory
  file : ∀ place, place ≠ changed → ∀ text, before.node place = .file text →
    after.node place = .file text

theorem Keeps.refl (changed : Place) (workspace : Workspace) :
    Keeps changed workspace workspace :=
  ⟨fun _ => id, fun _ _ _ => id⟩

theorem Keeps.trans (first : Keeps changed before middle) (second : Keeps changed middle after) :
    Keeps changed before after where
  directory := fun place stands => second.directory place (first.directory place stands)
  file := fun place apart text stands =>
    second.file place apart text (first.file place apart text stands)

/-- A file that is put where no directory stands changes nothing anywhere else. -/
theorem keeps_putFile (free : workspace.node place ≠ .directory) (text : String) :
    Keeps place workspace { workspace with files := putFile place text workspace.files } where
  directory := by
    intro other stands
    have apart : other ≠ place := by
      rintro rfl
      exact free stands
    rw [node_eq_directory_iff] at stands ⊢
    obtain ⟨noFile, lies⟩ := stands
    rw [isEntered] at lies ⊢
    rw [lookup_putFile, if_neg apart, any_putFile (fun file => file.isWithin other)]
    exact ⟨noFile, by rw [← Bool.or_assoc, lies, Bool.true_or]⟩
  file := by
    intro other apart text stands
    rw [node_eq_file_iff] at stands ⊢
    rw [lookup_putFile, if_neg apart, stands]

/-- The file that was put somewhere stands there. -/
theorem node_putFile (place : Place) (text : String) (workspace : Workspace) :
    node { workspace with files := putFile place text workspace.files } place = .file text := by
  rw [node_eq_file_iff, lookup_putFile, if_pos rfl]

/-- A directory that is made where nothing stands changes nothing that was there. -/
theorem keeps_addDirectory (changed place : Place) (workspace : Workspace) :
    Keeps changed workspace
      { workspace with directories := place :: workspace.directories } where
  directory := by
    intro other stands
    rw [node_eq_directory_iff] at stands ⊢
    obtain ⟨noFile, lies⟩ := stands
    refine ⟨noFile, ?_⟩
    simp only [isEntered, Bool.or_eq_true, List.any_cons] at lies ⊢
    exact lies.imp_left (Or.imp_right Or.inr)
  file := by
    intro other _ text stands
    rw [node_eq_file_iff] at stands ⊢
    exact stands

/-- The directory that was made stands where it was made. -/
theorem node_addDirectory (missing : workspace.node place = .missing) :
    node { workspace with directories := place :: workspace.directories } place =
      .directory := by
  have noFile := lookup_eq_none_of_missing missing
  rw [node_eq_directory_iff]
  exact ⟨noFile, by simp [isEntered, Place.isWithin_self]⟩

/-! ## Following a path -/

theorem eq_take_of_reach {step : PathStep} (reached : reach place step = .ok other) :
    other = place.take step := by
  unfold reach at reached
  split at reached
  · split at reached
    · exact nomatch reached
    · exact (Except.ok.inj reached).symm
  · exact (Except.ok.inj reached).symm

theorem enter_eq_ok_iff {step : PathStep} :
    workspace.enter place step = .ok other ↔
      reach place step = .ok other ∧ workspace.node other = .directory := by
  unfold enter
  rw [bind_eq_ok]
  constructor
  · rintro ⟨next, reached, entered⟩
    split at entered
    · exact nomatch entered
    case h_2 stands =>
      cases entered
      exact ⟨reached, stands⟩
    · exact nomatch entered
  · rintro ⟨reached, stands⟩
    exact ⟨other, reached, by rw [stands]⟩

/-- Steps that can be taken lead where they lead whatever stands on the way. -/
theorem eq_foldl_take_of_enter {steps : List PathStep}
    (entered : steps.foldlM workspace.enter place = .ok other) :
    other = steps.foldl Place.take place := by
  induction steps generalizing place with
  | nil => exact (Except.ok.inj entered).symm
  | cons step rest inductionHypothesis =>
    rw [List.foldlM_cons, bind_eq_ok] at entered
    obtain ⟨next, first, others⟩ := entered
    rw [List.foldl_cons, ← eq_take_of_reach (enter_eq_ok_iff.1 first).1]
    exact inductionHypothesis others

/-- Steps through directories can still be taken as long as the directories are kept. -/
theorem Keeps.enter {steps : List PathStep} (keeps : Keeps changed before after)
    (entered : steps.foldlM before.enter place = .ok other) :
    steps.foldlM after.enter place = .ok other := by
  induction steps generalizing place with
  | nil => exact entered
  | cons step rest inductionHypothesis =>
    rw [List.foldlM_cons, bind_eq_ok] at entered ⊢
    obtain ⟨next, first, others⟩ := entered
    obtain ⟨reached, stands⟩ := enter_eq_ok_iff.1 first
    exact ⟨next, enter_eq_ok_iff.2 ⟨reached, keeps.directory next stands⟩,
      inductionHypothesis others⟩

/-- The last step of a path is taken where the others lead through directories. -/
theorem approach_eq_ok_iff {steps : FilePath} :
    workspace.approach path = .ok (steps, place) ↔
      path.isEmpty = false ∧ path.utf8ByteSize ≤ maxPathSize ∧ steps = FilePath.ofText path ∧
        steps.lead.foldlM workspace.enter ⟨steps.anchor, []⟩ = .ok place := by
  unfold approach
  split
  case isTrue blank => simp [blank]
  case isFalse present =>
    split
    case isTrue long =>
      have tooLong : ¬ path.utf8ByteSize ≤ maxPathSize := Nat.not_le.2 long
      simp [tooLong]
    case isFalse short =>
      rw [bind_eq_ok]
      have fits : path.utf8ByteSize ≤ maxPathSize := Nat.not_lt.1 short
      simp only [Bool.not_eq_true] at present
      constructor
      · rintro ⟨directory, entered, ⟨⟩⟩
        exact ⟨present, fits, rfl, entered⟩
      · rintro ⟨_, _, rfl, entered⟩
        exact ⟨place, entered, rfl⟩

theorem Keeps.approach {steps : FilePath} (keeps : Keeps changed before after)
    (approached : before.approach path = .ok (steps, place)) :
    after.approach path = .ok (steps, place) := by
  rw [approach_eq_ok_iff] at approached ⊢
  obtain ⟨present, fits, rfl, entered⟩ := approached
  exact ⟨present, fits, rfl, keeps.enter entered⟩

/-- A path can be followed up to its last step, which leads to its place. -/
def Follows (workspace : Workspace) (path : String) : Prop :=
  ∃ directory, workspace.approach path = .ok (FilePath.ofText path, directory) ∧
    reach directory (FilePath.ofText path).last = .ok (FilePath.follow path)

/-- Wherever the last step of a path leads, it is the place of the path. -/
theorem follows_of_approach {steps : FilePath}
    (approached : workspace.approach path = .ok (steps, place))
    (reached : reach place steps.last = .ok other) :
    steps = FilePath.ofText path ∧ other = FilePath.follow path ∧ workspace.Follows path := by
  obtain ⟨_, _, rfl, entered⟩ := approach_eq_ok_iff.1 approached
  have here : other = FilePath.follow path := by
    rw [FilePath.follow_eq, ← eq_foldl_take_of_enter entered, eq_take_of_reach reached]
  exact ⟨rfl, here, place, approached, here ▸ reached⟩

theorem Keeps.follows (keeps : Keeps changed before after) (follows : before.Follows path) :
    after.Follows path := by
  obtain ⟨directory, approached, reached⟩ := follows
  exact ⟨directory, keeps.approach approached, reached⟩

/-- What is found at the end of a path stands at its place. -/
theorem find_eq_ok_iff {node : FileNode} :
    workspace.find path = .ok node ↔
      workspace.Follows path ∧ workspace.node (FilePath.follow path) = node ∧
        (∀ text, node = .file text → (FilePath.ofText path).endsInSlash = false) := by
  unfold find
  constructor
  · intro found
    obtain ⟨⟨steps, directory⟩, approached, found⟩ := bind_eq_ok.1 found
    obtain ⟨place, reached, found⟩ := bind_eq_ok.1 found
    obtain ⟨rfl, rfl, follows⟩ := follows_of_approach approached reached
    refine ⟨follows, ?_⟩
    split at found
    case h_1 text stands =>
      split at found
      case isTrue => exact nomatch found
      case isFalse plain =>
        cases found
        exact ⟨stands, fun _ _ => by simpa using plain⟩
    case h_2 other =>
      cases found
      exact ⟨rfl, fun text stands => absurd stands (other text)⟩
  · rintro ⟨⟨directory, approached, reached⟩, rfl, plain⟩
    refine bind_eq_ok.2 ⟨_, approached, bind_eq_ok.2 ⟨_, reached, ?_⟩⟩
    split
    case h_1 text stands =>
      rw [plain text stands, stands]
      rfl
    case h_2 => rfl

theorem isDirectory_iff :
    workspace.isDirectory path = true ↔
      workspace.Follows path ∧ workspace.node (FilePath.follow path) = .directory := by
  have found : workspace.isDirectory path = true ↔ workspace.find path = .ok .directory := by
    unfold isDirectory
    split
    case h_1 found => simp [found]
    case h_2 other => exact iff_of_false nofun other
  rw [found, find_eq_ok_iff]
  simp

theorem Keeps.isDirectory (keeps : Keeps changed before after)
    (stands : before.isDirectory path = true) : after.isDirectory path = true := by
  rw [isDirectory_iff] at stands ⊢
  exact ⟨keeps.follows stands.1, keeps.directory _ stands.2⟩

/-! ## Writing a file -/

/-- A path leads to a place where a file stands or can be made. -/
structure Admits (workspace : Workspace) (path : String) : Prop where
  follows : workspace.Follows path
  /-- The path ends in a name. -/
  named : ∃ name, (FilePath.ofText path).last = .down name
  plain : (FilePath.ofText path).endsInSlash = false
  free : workspace.node (FilePath.follow path) ≠ .directory

/-- A path admits a file as long as its file stands. -/
theorem Admits.of_keeps (admits : before.Admits path) (keeps : Keeps changed before after)
    (stands : after.node (FilePath.follow path) = .file text) : after.Admits path :=
  ⟨keeps.follows admits.follows, admits.named, admits.plain, by simp [stands]⟩

/-- A file can be written where its path admits one, and is put at its place. -/
theorem writeText_eq_ok_iff :
    workspace.writeText path text = .ok after ↔
      workspace.Admits path ∧
        { workspace with files := putFile (FilePath.follow path) text workspace.files } =
          after := by
  unfold writeText
  constructor
  · intro wrote
    obtain ⟨⟨steps, directory⟩, approached, wrote⟩ := bind_eq_ok.1 wrote
    dsimp only at wrote
    cases last : steps.last with
    | stay | up =>
      rw [last] at wrote
      exact nomatch wrote
    | down name =>
      rw [last] at wrote
      dsimp only at wrote
      split at wrote
      case isTrue => exact nomatch wrote
      case isFalse plain =>
        obtain ⟨place, reached, wrote⟩ := bind_eq_ok.1 wrote
        obtain ⟨rfl, rfl, follows⟩ := follows_of_approach approached (last ▸ reached)
        split at wrote
        case h_1 => exact nomatch wrote
        case h_2 free =>
          exact ⟨⟨follows, ⟨name, last⟩, by simpa using plain, free⟩, Except.ok.inj wrote⟩
  · rintro ⟨⟨⟨directory, approached, reached⟩, ⟨name, last⟩, plain, free⟩, rfl⟩
    refine bind_eq_ok.2 ⟨_, approached, ?_⟩
    dsimp only
    rw [last] at reached ⊢
    dsimp only
    rw [plain, if_neg Bool.false_ne_true]
    refine bind_eq_ok.2 ⟨_, reached, ?_⟩
    split
    case h_1 stands => exact absurd stands free
    case h_2 => rfl

/-! ## Making directories -/

/-- A directory is made at the place of its path, where nothing stands. -/
theorem eq_addDirectory_of_makeDirectory (made : workspace.makeDirectory path = .ok after) :
    workspace.Follows path ∧ workspace.node (FilePath.follow path) = .missing ∧
      { workspace with directories := FilePath.follow path :: workspace.directories } = after := by
  unfold makeDirectory at made
  obtain ⟨⟨steps, directory⟩, approached, made⟩ := bind_eq_ok.1 made
  dsimp only at made
  cases last : steps.last with
  | stay | up =>
    rw [last] at made
    exact nomatch made
  | down name =>
    rw [last] at made
    obtain ⟨place, reached, made⟩ := bind_eq_ok.1 made
    obtain ⟨rfl, rfl, follows⟩ := follows_of_approach approached (last ▸ reached)
    split at made
    case h_1 missing => exact ⟨follows, missing, Except.ok.inj made⟩
    case h_2 => exact nomatch made

/-- Making sure of a directory: it is made, or it is there already, or that fails. -/
theorem ensureDirectory_eq (workspace : Workspace) (path : String) :
    access.ensureDirectory path workspace =
      match workspace.makeDirectory path with
      | .ok made => (.ok (), made)
      | .error .alreadyThere =>
        (if workspace.isDirectory path then .ok () else .error .alreadyThere, workspace)
      | .error error => (.error error, workspace) := by
  rw [FileAccess.ensureDirectory, bind_apply]
  simp only [access, change]
  cases workspace.makeDirectory path with
  | ok made => rfl
  | error error =>
    cases error with
    | alreadyThere =>
      dsimp only
      rw [bind_apply]
      dsimp only
      cases workspace.isDirectory path <;> rfl
    | notFound | denied | notDirectory | isDirectory | nameTooLong | other words => rfl

/-- Making sure of some directories: those further out are made only if the first one lacks them. -/
theorem ensureDirectories_cons (workspace : Workspace) (path : String) (outer : List String) :
    access.ensureDirectories (path :: outer) workspace =
      match access.ensureDirectory path workspace with
      | (.error .notFound, next) =>
        match access.ensureDirectories outer next with
        | (.error error, made) => (.error error, made)
        | (.ok (), made) => access.ensureDirectory path made
      | (result, next) => (result, next) := by
  rw [FileAccess.ensureDirectories, bind_apply]
  rcases access.ensureDirectory path workspace with ⟨error | ⟨⟩, next⟩
  · cases error with
    | notFound =>
      dsimp only
      rw [bind_apply]
      rcases access.ensureDirectories outer next with ⟨error | ⟨⟩, made⟩ <;> rfl
    | denied | alreadyThere | notDirectory | isDirectory | nameTooLong | other words => rfl
  · rfl

/-- Making sure of a directory takes nothing away. -/
theorem keeps_of_ensureDirectory {result : Except FileError Unit}
    (ensured : access.ensureDirectory path before = (result, after)) :
    Keeps changed before after := by
  rw [ensureDirectory_eq] at ensured
  split at ensured
  case h_1 made succeeded =>
    obtain ⟨_, _, rfl⟩ := eq_addDirectory_of_makeDirectory succeeded
    cases ensured
    exact keeps_addDirectory changed _ before
  case h_2 =>
    cases ensured
    exact .refl changed before
  case h_3 =>
    cases ensured
    exact .refl changed before

/-- A directory that was made sure of is there. -/
theorem isDirectory_of_ensureDirectory
    (ensured : access.ensureDirectory path before = (.ok (), after)) :
    after.isDirectory path = true := by
  rw [ensureDirectory_eq] at ensured
  split at ensured
  case h_1 made succeeded =>
    obtain ⟨follows, missing, rfl⟩ := eq_addDirectory_of_makeDirectory succeeded
    cases ensured
    have keeps := keeps_addDirectory (FilePath.follow path) (FilePath.follow path) before
    exact isDirectory_iff.2 ⟨keeps.follows follows, node_addDirectory missing⟩
  case h_2 =>
    split at ensured
    case isTrue stands =>
      cases ensured
      exact stands
    case isFalse => exact nomatch ensured
  case h_3 => exact nomatch ensured

/-- Making sure of directories takes nothing away. -/
theorem keeps_of_ensureDirectories {paths : List String} {result : Except FileError Unit}
    (ensured : access.ensureDirectories paths before = (result, after)) :
    Keeps changed before after := by
  induction paths generalizing before result after with
  | nil =>
    cases ensured
    exact .refl changed before
  | cons path outer inductionHypothesis =>
    rw [ensureDirectories_cons] at ensured
    split at ensured
    case h_1 next lacking =>
      have first : Keeps changed before next := keeps_of_ensureDirectory lacking
      split at ensured
      case h_1 error made failed =>
        cases ensured
        exact first.trans (inductionHypothesis failed)
      case h_2 made others =>
        exact (first.trans (inductionHypothesis others)).trans (keeps_of_ensureDirectory ensured)
    case h_2 result next _ first => exact keeps_of_ensureDirectory (first.trans ensured)

/-- The first of some directories that were made sure of is there. -/
theorem isDirectory_of_ensureDirectories {outer : List String}
    (ensured : access.ensureDirectories (path :: outer) before = (.ok (), after)) :
    after.isDirectory path = true := by
  rw [ensureDirectories_cons] at ensured
  split at ensured
  case h_1 next lacking =>
    split at ensured
    case h_1 => exact nomatch ensured
    case h_2 made others => exact isDirectory_of_ensureDirectory ensured
  case h_2 result next _ first => exact isDirectory_of_ensureDirectory (first.trans ensured)

/-- Write a file and the directories in which it lies. -/
def write (workspace : Workspace) (path text : String) : Except CauseChain Unit × Workspace :=
  access.writeWithDirectories path text workspace

/-- Whether a file can be written is no matter of its text. -/
def CanWrite (workspace : Workspace) (path : String) : Prop :=
  ∃ text after, workspace.write path text = (.ok (), after)

theorem write_eq (workspace : Workspace) (path text : String) :
    workspace.write path text =
      match access.ensureDirectories (FilePath.outerDirectories path) workspace with
      | (.error error, next) =>
        (.error ⟨"create dir " ++ (FilePath.outerDirectories path).headD "", [error.message]⟩,
          next)
      | (.ok (), next) =>
        match next.writeText path text with
        | .ok after => (.ok (), after)
        | .error error => (.error ⟨"write " ++ path, [error.message]⟩, next) := by
  rw [write, FileAccess.writeWithDirectories, bind_apply]
  rcases access.ensureDirectories (FilePath.outerDirectories path) workspace with
    ⟨error | ⟨⟩, next⟩
  · rfl
  · dsimp only
    rw [bind_apply]
    simp only [access, change]
    cases next.writeText path text <;> rfl

/-- A file is put at its place once its directories are there and its path admits one. -/
theorem write_eq_ok_iff :
    before.write path text = (.ok (), after) ↔
      ∃ middle, access.ensureDirectories (FilePath.outerDirectories path) before =
          (.ok (), middle) ∧
        middle.Admits path ∧
        { middle with files := putFile (FilePath.follow path) text middle.files } = after := by
  rw [write_eq]
  constructor
  · intro wrote
    split at wrote
    case h_1 => exact nomatch wrote
    case h_2 middle ensured =>
      split at wrote
      case h_1 written put =>
        cases wrote
        exact ⟨middle, ensured, writeText_eq_ok_iff.1 put⟩
      case h_2 => exact nomatch wrote
  · rintro ⟨middle, ensured, put⟩
    rw [ensured]
    dsimp only
    rw [writeText_eq_ok_iff.2 put]

/-- Any text can be written where one can. -/
theorem CanWrite.write (can : before.CanWrite path) (text : String) :
    ∃ after, before.write path text = (.ok (), after) := by
  obtain ⟨_, _, wrote⟩ := can
  obtain ⟨middle, ensured, admits, _⟩ := write_eq_ok_iff.1 wrote
  exact ⟨_, write_eq_ok_iff.2 ⟨middle, ensured, admits, rfl⟩⟩

/-- Writing a file takes nothing away but what it held. -/
theorem keeps_of_write {result : Except CauseChain Unit}
    (wrote : before.write path text = (result, after)) :
    Keeps (FilePath.follow path) before after := by
  rw [write_eq] at wrote
  split at wrote
  case h_1 error middle failed =>
    cases wrote
    exact keeps_of_ensureDirectories failed
  case h_2 middle ensured =>
    have made : Keeps (FilePath.follow path) before middle := keeps_of_ensureDirectories ensured
    split at wrote
    case h_1 written put =>
      obtain ⟨admits, rfl⟩ := writeText_eq_ok_iff.1 put
      cases wrote
      exact made.trans (keeps_putFile admits.free text)
    case h_2 =>
      cases wrote
      exact made

/-- A file holds a text that can be read, and another one can be written in its place. -/
structure Holds (workspace : Workspace) (path text : String) : Prop where
  admits : workspace.Admits path
  /-- The directory in which the file lies is there, as the path spells it. -/
  outer : ∀ directory ∈ (FilePath.outerDirectories path).head?,
    workspace.isDirectory directory = true
  stands : workspace.node (FilePath.follow path) = .file text

/-- A file holds what it held as long as no other one is written in its place. -/
theorem Holds.of_keeps (holds : before.Holds path text) (keeps : Keeps changed before after)
    (apart : FilePath.follow path ≠ changed) : after.Holds path text := by
  have stands := keeps.file _ apart _ holds.stands
  exact ⟨holds.admits.of_keeps keeps stands,
    fun directory within => keeps.isDirectory (holds.outer directory within), stands⟩

/-- Writing another file, or the failure to do so, leaves a file as it is. -/
theorem Holds.of_write {otherPath otherText : String} {result : Except CauseChain Unit}
    (holds : before.Holds path text) (wrote : before.write otherPath otherText = (result, after))
    (apart : FilePath.follow otherPath ≠ FilePath.follow path) : after.Holds path text :=
  holds.of_keeps (keeps_of_write wrote) apart.symm

/-- A file holds what was written. -/
theorem holds_of_write (wrote : before.write path text = (.ok (), after)) :
    after.Holds path text := by
  obtain ⟨middle, ensured, admits, rfl⟩ := write_eq_ok_iff.1 wrote
  have keeps := keeps_putFile admits.free text
  have stands := node_putFile (FilePath.follow path) text middle
  refine ⟨admits.of_keeps keeps stands, fun directory within => keeps.isDirectory ?_, stands⟩
  cases spelled : FilePath.outerDirectories path with
  | nil => exact nomatch spelled ▸ within
  | cons first rest =>
    rw [spelled] at within ensured
    cases within
    exact isDirectory_of_ensureDirectories ensured

/-- What a file holds can be read. -/
theorem Holds.readText (holds : workspace.Holds path text) :
    workspace.readText path = .ok text := by
  have found : workspace.find path = .ok (.file text) :=
    find_eq_ok_iff.2 ⟨holds.admits.follows, holds.stands, fun _ _ => holds.admits.plain⟩
  rw [Workspace.readText, found]
  rfl

end Workspace

end ConfigAudit
