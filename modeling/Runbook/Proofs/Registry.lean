import Mathlib.Data.Set.Card
import Runbook.Proofs.Dictionary
import Runbook.Proofs.Files
import Runbook.Proofs.Text.Utf8
import Runbook.Registry

/-!
# The law of registries

Under each name stands the workflow of the last file that holds one of this name
(`Registry.get?_ofDirectory_iff`). What a registry holds is settled by what each entry of its directory
holds, so neither the order of the entries matters nor entries that hold no workflow
(`Registry.directoryLaw`).
-/

namespace Runbook.Registry

open FileTree

/-! ## Files -/

/-- The workflow in a file, if it holds one. -/
def held? (file : NamedFile) : Option Workflow := (loadWorkflow (.ok file.2)).toOption

theorem held?_eq_some_iff {file : NamedFile} {workflow : Workflow} :
    held? file = some workflow ↔ Document.parse file.2 = .ok workflow := by
  rw [held?, loadWorkflow]
  cases Document.parse file.2 <;> simp [Except.mapError, Except.toOption]

/-- The workflows that files in order of their names hold, by their names. -/
def collect (files : List NamedFile) : Registry :=
  Dictionary.ofList ((files.filterMap held?).map fun workflow => (workflow.name, workflow))

theorem ofFiles_eq_collect (files : List NamedFile) :
    ofFiles files = collect (sortFiles files) := by
  rw [ofFiles, workflowsOf, collect, Dictionary.ofList, List.foldl_map]
  rfl

theorem collect_concat_of_none {file : NamedFile} (files : List NamedFile)
    (absent : held? file = none) : collect (files ++ [file]) = collect files := by
  rw [collect, List.filterMap_append, List.filterMap_cons_none absent, List.filterMap_nil,
    List.append_nil]
  rfl

theorem collect_concat_of_some {file : NamedFile} {workflow : Workflow} (files : List NamedFile)
    (held : held? file = some workflow) :
    collect (files ++ [file]) = (collect files).add workflow := by
  rw [collect, List.filterMap_append, List.filterMap_cons_some held, List.filterMap_nil,
    List.map_append, List.map_singleton, Dictionary.ofList_concat]
  rfl

/-- A workflow of this name stands in a file, and none in a file behind it. -/
def Latest (files : List NamedFile) (name : String) (workflow : Workflow) : Prop :=
  ∃ file ∈ files, held? file = some workflow ∧ workflow.name = name ∧
    ∀ other ∈ files, ∀ found, held? other = some found → found.name = name → other.1 ≤ file.1

/-- A file without a workflow of this name does not matter. -/
theorem latest_concat_of_other {files : List NamedFile} {last : NamedFile} {name : String}
    (other : ∀ found, held? last = some found → found.name ≠ name) {workflow : Workflow} :
    Latest (files ++ [last]) name workflow ↔ Latest files name workflow := by
  constructor
  · rintro ⟨file, member, held, named, greatest⟩
    rcases List.mem_append.mp member with earlier | new
    · exact ⟨file, earlier, held, named, fun file member =>
        greatest file (List.mem_append_left _ member)⟩
    · cases List.mem_singleton.mp new
      exact (other workflow held named).elim
  · rintro ⟨file, member, held, named, greatest⟩
    refine ⟨file, List.mem_append_left _ member, held, named, ?_⟩
    intro file member found holds same
    rcases List.mem_append.mp member with earlier | new
    · exact greatest file earlier found holds same
    · cases List.mem_singleton.mp new
      exact (other found holds same).elim

/-- Of files in order, the last one that holds a workflow of a name counts. -/
theorem get?_collect_iff {files : List NamedFile}
    (sorted : files.Pairwise fun left right => left.1 ≤ right.1)
    (single : ∀ left ∈ files, ∀ right ∈ files, left.1 = right.1 → left = right) {name : String}
    {workflow : Workflow} :
    (collect files).get? name = some workflow ↔ Latest files name workflow := by
  induction files using List.reverseRecOn with
  | nil =>
      refine iff_of_false (fun found => nomatch found) ?_
      rintro ⟨file, member, -⟩
      cases member
  | append_singleton files last ih =>
      obtain ⟨ordered, -, behind⟩ := List.pairwise_append.mp sorted
      have earlier : (collect files).get? name = some workflow ↔ Latest files name workflow :=
        ih ordered fun left first right second =>
          single left (List.mem_append_left _ first) right (List.mem_append_left _ second)
      have listed : last ∈ files ++ [last] := List.mem_append_right _ List.mem_cons_self
      cases held : held? last with
      | none =>
          have other : ∀ found, held? last = some found → found.name ≠ name := fun found holds =>
            nomatch held.symm.trans holds
          rw [collect_concat_of_none files held, latest_concat_of_other other, earlier]
      | some found =>
          rw [collect_concat_of_some files held, add, Dictionary.get?_insert]
          by_cases named : name = found.name
          · rw [if_pos named]
            constructor
            · intro same
              cases same
              refine ⟨last, listed, held, named.symm, fun file member _ _ _ => ?_⟩
              rcases List.mem_append.mp member with earlier | new
              · exact behind file earlier last List.mem_cons_self
              · cases List.mem_singleton.mp new
                exact le_refl _
            · rintro ⟨file, member, holds, -, greatest⟩
              -- The last file is not behind the greatest one, so it is that file.
              have above : last.1 ≤ file.1 := greatest last listed found held named.symm
              have same : file = last := by
                rcases List.mem_append.mp member with earlier | new
                · exact single file member last listed
                    (le_antisymm (behind file earlier last List.mem_cons_self) above)
                · exact List.mem_singleton.mp new
              rw [← held, ← same, holds]
          · have other : ∀ found, held? last = some found → found.name ≠ name := by
              intro workflow holds same
              cases held.symm.trans holds
              exact named same.symm
            rw [if_neg named, latest_concat_of_other other, earlier]

theorem mem_keys_collect {files : List NamedFile} {name : String} :
    name ∈ (collect files).keys ↔
      ∃ file ∈ files, ∃ workflow, held? file = some workflow ∧ workflow.name = name := by
  rw [collect, Dictionary.mem_keys_ofList]
  constructor
  · rintro ⟨workflow, member⟩
    obtain ⟨found, listed, same⟩ := List.mem_map.mp member
    cases same
    obtain ⟨file, member, held⟩ := List.mem_filterMap.mp listed
    exact ⟨file, member, workflow, held, rfl⟩
  · rintro ⟨file, member, workflow, held, rfl⟩
    exact ⟨workflow, List.mem_map.mpr ⟨workflow, List.mem_filterMap.mpr ⟨file, member, held⟩, rfl⟩⟩

/-- Files are sorted by their names. -/
theorem pairwise_sortFiles (files : List NamedFile) :
    (sortFiles files).Pairwise fun left right => left.1 ≤ right.1 := by
  let before (left right : NamedFile) : Bool := left.1 ≤ right.1
  have trans : ∀ first second third, before first second → before second third →
      before first third := fun _ _ _ first second =>
    decide_eq_true (le_trans (of_decide_eq_true first) (of_decide_eq_true second))
  have total : ∀ left right, (before left right || before right left) = true :=
    fun left right => by simpa [before] using le_total left.1 right.1
  have sorted := List.pairwise_mergeSort trans total files
  exact sorted.imp of_decide_eq_true

/-! ## Directories -/

/-- A name in the listing of a directory. -/
def Listed (tree : FileTree) (directory : FilePath) (path name : String) : Prop :=
  ∃ names, tree.list directory path = some names ∧ name ∈ names

/-- An entry of a directory is a regular file, or links to one, and a workflow is written in it. -/
def Holds (tree : FileTree) (directory : FilePath) (path name : String) (workflow : Workflow) :
    Prop :=
  Listed tree directory path name ∧
    ∃ content mode, tree.find? directory (path ++ "/" ++ name) = some (.file content mode) ∧
      Document.parse content = .ok workflow

section Directory

variable {tree other : FileTree} {directory : FilePath} {path : String}

theorem mem_filesIn_iff {name : String} {content : List UInt8} :
    (name, content) ∈ filesIn tree directory path ↔ Listed tree directory path name ∧
      ∃ mode, tree.find? directory (path ++ "/" ++ name) = some (.file content mode) := by
  rw [filesIn, List.mem_filterMap, Listed]
  constructor
  · rintro ⟨found, member, file⟩
    cases listed : tree.list directory path with
    | none =>
        rw [listed] at member
        cases member
    | some names =>
        rw [listed] at member
        split at file
        · rename_i mode stands
          cases file
          exact ⟨⟨names, rfl, member⟩, mode, stands⟩
        · cases file
  · rintro ⟨⟨names, listed, member⟩, mode, stands⟩
    refine ⟨name, ?_, ?_⟩
    · rw [listed]
      exact member
    · rw [stands]

/-- What an entry of the directory holds is what one of its files holds. -/
theorem holds_iff {name : String} {workflow : Workflow} :
    Holds tree directory path name workflow ↔
      ∃ file ∈ sortFiles (filesIn tree directory path),
        file.1 = name ∧ held? file = some workflow := by
  constructor
  · rintro ⟨listed, content, mode, stands, parsed⟩
    exact ⟨(name, content), List.mem_mergeSort.mpr (mem_filesIn_iff.mpr ⟨listed, mode, stands⟩),
      rfl, held?_eq_some_iff.mpr parsed⟩
  · rintro ⟨⟨name, content⟩, member, rfl, held⟩
    obtain ⟨listed, mode, stands⟩ := mem_filesIn_iff.mp (List.mem_mergeSort.mp member)
    exact ⟨listed, content, mode, stands, held?_eq_some_iff.mp held⟩

/-- There is one file of each name. -/
theorem eq_of_mem_sortFiles (left : NamedFile)
    (first : left ∈ sortFiles (filesIn tree directory path)) (right : NamedFile)
    (second : right ∈ sortFiles (filesIn tree directory path)) (same : left.1 = right.1) :
    left = right := by
  obtain ⟨name, content⟩ := left
  obtain ⟨other, found⟩ := right
  cases same
  obtain ⟨-, _, stands⟩ := mem_filesIn_iff.mp (List.mem_mergeSort.mp first)
  obtain ⟨-, _, again⟩ := mem_filesIn_iff.mp (List.mem_mergeSort.mp second)
  cases stands.symm.trans again
  rfl

/-- The last entry in byte order that holds a workflow of a name counts. -/
theorem get?_ofDirectory_iff {name : String} {workflow : Workflow} :
    (ofDirectory tree directory path).get? name = some workflow ↔
      ∃ file, Holds tree directory path file workflow ∧ workflow.name = name ∧
        ∀ other found, Holds tree directory path other found → found.name = name →
          other ≤ file := by
  rw [ofDirectory, ofFiles_eq_collect,
    get?_collect_iff (pairwise_sortFiles _) eq_of_mem_sortFiles]
  constructor
  · rintro ⟨file, member, held, named, greatest⟩
    refine ⟨file.1, holds_iff.mpr ⟨file, member, rfl, held⟩, named,
      fun other found holds same => ?_⟩
    obtain ⟨other, member, rfl, held⟩ := holds_iff.mp holds
    exact greatest other member found held same
  · rintro ⟨name, holds, named, greatest⟩
    obtain ⟨file, member, rfl, held⟩ := holds_iff.mp holds
    exact ⟨file, member, held, named, fun other member found held same =>
      greatest other.1 found (holds_iff.mpr ⟨other, member, rfl, held⟩) same⟩

theorem mem_keys_ofDirectory_iff {name : String} :
    name ∈ (ofDirectory tree directory path).keys ↔
      ∃ file workflow, Holds tree directory path file workflow ∧ workflow.name = name := by
  rw [ofDirectory, ofFiles_eq_collect, mem_keys_collect]
  constructor
  · rintro ⟨file, member, workflow, held, named⟩
    exact ⟨file.1, workflow, holds_iff.mpr ⟨file, member, rfl, held⟩, named⟩
  · rintro ⟨name, workflow, holds, named⟩
    obtain ⟨file, member, -, held⟩ := holds_iff.mp holds
    exact ⟨file, member, workflow, held, named⟩

theorem sorted_ofDirectory (tree : FileTree) (directory : FilePath) (path : String) :
    Dictionary.Sorted (ofDirectory tree directory path) := by
  rw [ofDirectory, ofFiles_eq_collect]
  exact Dictionary.sorted_ofList _

theorem name_eq_of_mem_ofDirectory {entry : String × Workflow}
    (member : entry ∈ ofDirectory tree directory path) : entry.2.name = entry.1 := by
  rw [ofDirectory, ofFiles_eq_collect] at member
  obtain ⟨workflow, -, rfl⟩ := List.mem_map.mp (Dictionary.mem_of_mem_ofList member)
  rfl

/-- A registry has as many entries as names are held. -/
theorem length_ofDirectory (tree : FileTree) (directory : FilePath) (path : String) :
    ((ofDirectory tree directory path).length : ℕ∞) =
      {name | ∃ file workflow, Holds tree directory path file workflow ∧
        workflow.name = name}.encard := by
  have keys : {name | ∃ file workflow, Holds tree directory path file workflow ∧
      workflow.name = name} = ((ofDirectory tree directory path).keys.toFinset : Set String) := by
    ext name
    rw [Finset.mem_coe, List.mem_toFinset, mem_keys_ofDirectory_iff]
    rfl
  have distinct : (ofDirectory tree directory path).keys.Nodup :=
    (Dictionary.sorted_iff_pairwise_keys.mp (sorted_ofDirectory tree directory path)).imp ne_of_lt
  rw [keys, Set.encard_coe_eq_coe_finsetCard, List.toFinset_card_of_nodup distinct,
    Dictionary.keys, List.length_map]

/-- What the entries of a directory hold settles its registry. -/
theorem ofDirectory_congr (same : ∀ name workflow,
    Holds tree directory path name workflow ↔ Holds other directory path name workflow) :
    ofDirectory tree directory path = ofDirectory other directory path := by
  refine Dictionary.eq_of_get?_eq (sorted_ofDirectory ..) (sorted_ofDirectory ..) fun name => ?_
  refine Option.ext fun workflow => ?_
  simp only [get?_ofDirectory_iff, same]

/-- A file that stands in a directory holds what is written in it. -/
theorem holds_of_file {place : FilePath} {name : String} {content : List UInt8} {mode : Nat}
    {workflow : Workflow} (found : tree.find directory path = .ok (place, .directory))
    (named : FileName name) (below : IsPath (path ++ "/" ++ name))
    (stands : tree.entry? (place ++ [name]) = some (.file content mode))
    (parsed : Document.parse content = .ok workflow) :
    Holds tree directory path name workflow := by
  obtain ⟨readable, left, leads, standing⟩ := find_eq_ok_iff.mp found
  have entered : Step tree ⟨left, place, [name]⟩ ⟨left, place ++ [name], []⟩ :=
    .enter standing named.proper stands fun _ same => nomatch same
  have walked :
      tree.walk left place (splitPath name) = .ok (place ++ [name], .file content mode) := by
    rw [named.splitPath_eq]
    exact walk_eq_ok_iff.mpr ⟨left, .single entered, stands⟩
  refine ⟨mem_list_iff.mpr ⟨place, found, ?_⟩, content, mode,
    find?_eq_some_iff.mpr ⟨_, (find_below_iff readable leads).mpr ⟨below, walked⟩⟩, parsed⟩
  rw [stands]
  rfl

end Directory

/-! ## Changes -/

/-- No workflow is written in an entry of a directory, and if it is a directory or links to one, no
other entry leads through it. -/
structure Idle (tree : FileTree) (place : FilePath) (name : String) : Prop where
  unparsable : ∀ content mode workflow, tree.find? place name = some (.file content mode) →
    Document.parse content ≠ .ok workflow
  untrodden : tree.find? place name = some .directory →
    ∀ other, other ≠ name → (tree.entry? (place ++ [other])).isSome →
      ∀ links rest, Leads tree ⟨mostLinks, place, splitPath other⟩ ⟨links, place, name :: rest⟩ →
        ∀ further ∈ rest, further = "" ∨ further = "."

section Changes

variable {tree other : FileTree} {directory place : FilePath} {path name file : String}
  {workflow : Workflow}

theorem Holds.of_entry?_eq (same : ∀ path, tree.entry? path = other.entry? path)
    (holds : Holds tree directory path file workflow) :
    Holds other directory path file workflow := by
  obtain ⟨listed, content, mode, stands, parsed⟩ := holds
  obtain ⟨place, found, entry⟩ := mem_list_iff.mp listed
  obtain ⟨final, stands⟩ := find?_eq_some_iff.mp stands
  refine ⟨mem_list_iff.mpr ⟨place, find_of_entry?_eq same found, ?_⟩, content, mode,
    find?_eq_some_iff.mpr ⟨final, find_of_entry?_eq same stands⟩, parsed⟩
  rw [← same]
  exact entry

/-- The order in which a directory lists its entries does not matter. -/
theorem ofDirectory_of_perm (reordered : other.Perm tree) (distinct : (tree.map Prod.fst).Nodup)
    (directory : FilePath) (path : String) :
    ofDirectory other directory path = ofDirectory tree directory path := by
  have same := entry?_of_perm reordered distinct
  exact ofDirectory_congr fun name workflow =>
    ⟨Holds.of_entry?_eq fun path => (same path).symm, Holds.of_entry?_eq same⟩

/-- A workflow that is found by way of an idle entry stands below it. -/
theorem Idle.find?_eq_directory (idle : Idle tree place name) (named : FileName name)
    {links left : Nat} (few : links ≤ mostLinks) {behind : List String} {final : FilePath}
    (leads : Leads tree ⟨links, place, name :: behind⟩ ⟨left, final, []⟩)
    {content : List UInt8} {mode : Nat} (stands : tree.entry? final = some (.file content mode))
    (parsed : Document.parse content = .ok workflow) :
    tree.find? place name = some .directory ∧
      ¬ ∀ further ∈ behind, further = "" ∨ further = "." := by
  have walk : Leads tree ⟨links, place, [name] ++ behind⟩ ⟨left, final, []⟩ := leads
  obtain ⟨middle, turn, first, second⟩ := Leads.exists_between walk
  have below : ¬ ∀ further ∈ behind, further = "" ∨ further = "." := by
    intro here
    cases second.place_eq_of_here here
    exact idle.unparsable content mode workflow (find?_of_leads named few first stands) parsed
  refine ⟨?_, below⟩
  cases behind with
  | nil => exact (below fun _ member => nomatch member).elim
  | cons next behind => exact find?_of_leads named few first second.directory_of_cons

/-- Entries that hold workflows hold them in each tree that differs in an idle entry only. -/
theorem Holds.of_idle (found : tree.find directory path = .ok (place, .directory))
    (named : FileName name) (same : SameOutside (place ++ [name]) tree other)
    (avoids : Avoids tree directory path place name) (idle : Idle tree place name)
    (holds : Holds tree directory path file workflow) :
    Holds other directory path file workflow := by
  obtain ⟨listed, content, mode, stands, parsed⟩ := holds
  obtain ⟨_, again, entry⟩ := mem_list_iff.mp listed
  cases found.symm.trans again
  obtain ⟨readable, left, leads, -⟩ := find_eq_ok_iff.mp found
  obtain ⟨final, stands⟩ := find?_eq_some_iff.mp stands
  obtain ⟨below, walked⟩ := (find_below_iff readable leads).mp stands
  obtain ⟨rest, walk, content_stands⟩ := walk_eq_ok_iff.mp walked
  have foreign : file ≠ name := by
    rintro rfl
    rw [named.splitPath_eq] at walk
    obtain ⟨-, further⟩ := idle.find?_eq_directory named leads.links_le walk content_stands parsed
    exact further fun _ member => nomatch member
  rcases leads_or_asks same not_concat_prefix_self walk with
    ⟨walk', outside⟩ | ⟨links, behind, walk, -, onward⟩
  · -- The walk does not ask for the entry that differs.
    have foreign_spot : ¬ place ++ [name] <+: place ++ [file] := fun spot =>
      foreign (eq_of_concat_prefix_concat not_concat_prefix_self spot).2
    have found' := avoids.find_directory same found
    have stands' := (find_below_iff readable (avoids.leads same leads)).mpr
      ⟨below, walk_eq_ok_iff.mpr ⟨rest, walk', (same final outside).symm.trans content_stands⟩⟩
    refine ⟨mem_list_iff.mpr ⟨place, found', ?_⟩, content, mode,
      find?_eq_some_iff.mpr ⟨final, stands'⟩, parsed⟩
    rw [← same _ foreign_spot]
    exact entry
  · -- The walk asks for it and goes on below it, which no other entry does.
    have few : links ≤ mostLinks := Nat.le_trans walk.links_le leads.links_le
    obtain ⟨directory, further⟩ := idle.find?_eq_directory named few onward content_stands parsed
    have whole : left + (mostLinks - left) = mostLinks := Nat.add_sub_cancel' leads.links_le
    have walk := walk.add (mostLinks - left)
    dsimp only at walk
    rw [whole] at walk
    exact (further (idle.untrodden directory file foreign entry _ _ walk)).elim

/-- An idle entry does not matter, and neither does what is put in its place. -/
theorem ofDirectory_of_idle (found : tree.find directory path = .ok (place, .directory))
    (named : FileName name) (same : SameOutside (place ++ [name]) tree other)
    (avoids : Avoids tree directory path place name) (idle : Idle tree place name)
    (idle' : Idle other place name) :
    ofDirectory other directory path = ofDirectory tree directory path := by
  have avoids' := avoids.of_same same
  have found' := avoids.find_directory same found
  exact ofDirectory_congr fun file workflow =>
    ⟨Holds.of_idle found' named same.symm avoids' idle', Holds.of_idle found named same avoids idle⟩

end Changes

/-- What the registry of a directory is, and what does not change it. -/
structure DirectoryLaw (tree : FileTree) (directory : FilePath) (path : String) : Prop where
  /-- Of the entries that hold a workflow of a name, the last one in byte order counts. -/
  get?_eq_some_iff : ∀ name workflow,
    (ofDirectory tree directory path).get? name = some workflow ↔
      ∃ file, Holds tree directory path file workflow ∧ workflow.name = name ∧
        ∀ other found, Holds tree directory path other found → found.name = name →
          Text.Utf8.encode other ≤ Text.Utf8.encode file
  /-- Entries that are regular files hold what is written in them. -/
  holds_of_file : ∀ place name content mode workflow,
    tree.find directory path = .ok (place, .directory) → FileName name →
    IsPath (path ++ "/" ++ name) → tree.entry? (place ++ [name]) = some (.file content mode) →
    Document.parse content = .ok workflow → Holds tree directory path name workflow
  get?_eq_none_iff : ∀ name, (ofDirectory tree directory path).get? name = none ↔
    ∀ file workflow, Holds tree directory path file workflow → workflow.name ≠ name
  name_eq : ∀ entry ∈ ofDirectory tree directory path, entry.2.name = entry.1
  names_increase : (ofDirectory tree directory path).keys.Pairwise (· < ·)
  length_eq : ((ofDirectory tree directory path).length : ℕ∞) =
    {name | ∃ file workflow, Holds tree directory path file workflow ∧
      workflow.name = name}.encard
  unreadable : tree.list directory path = none → ofDirectory tree directory path = []
  /-- The order in which the directory lists its entries does not matter. -/
  reordered : ∀ other : FileTree, other.Perm tree → (tree.map Prod.fst).Nodup →
    ofDirectory other directory path = ofDirectory tree directory path
  /-- An entry without a workflow may be added, removed or changed, together with all that stands
  below it. -/
  changed : ∀ (other : FileTree) (place : FilePath) (name : String),
    tree.find directory path = .ok (place, .directory) → FileName name →
    SameOutside (place ++ [name]) tree other → Avoids tree directory path place name →
    Idle tree place name → Idle other place name →
      ofDirectory other directory path = ofDirectory tree directory path

/-- **The registry of a directory is settled by what its entries hold.** -/
theorem directoryLaw (tree : FileTree) (directory : FilePath) (path : String) :
    DirectoryLaw tree directory path where
  get?_eq_some_iff name workflow := by
    simp only [Text.Utf8.encode_le_encode_iff]
    exact get?_ofDirectory_iff
  holds_of_file _ _ _ _ _ := holds_of_file
  get?_eq_none_iff name := by
    rw [← Option.not_isSome_iff_eq_none, ← Dictionary.mem_keys_iff, mem_keys_ofDirectory_iff]
    constructor
    · intro absent file workflow holds named
      exact absent ⟨file, workflow, holds, named⟩
    · rintro absent ⟨file, workflow, holds, named⟩
      exact absent file workflow holds named
  name_eq _ := name_eq_of_mem_ofDirectory
  names_increase := Dictionary.sorted_iff_pairwise_keys.mp (sorted_ofDirectory tree directory path)
  length_eq := length_ofDirectory tree directory path
  unreadable absent := by
    rw [ofDirectory, filesIn, absent, Option.getD_none, List.filterMap_nil, ofFiles, workflowsOf,
      sortFiles, List.mergeSort_nil]
    rfl
  reordered other reordered distinct := ofDirectory_of_perm reordered distinct directory path
  changed other place name found named same avoids idle idle' :=
    ofDirectory_of_idle found named same avoids idle idle'

end Runbook.Registry
