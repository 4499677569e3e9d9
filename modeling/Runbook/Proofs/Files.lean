import Mathlib.Logic.Relation
import Runbook.Files

/-!
# Walks through trees of files

A walk takes the names of a path one by one (`FileTree.Step`). What is found at a path is where its
walk ends (`FileTree.walk_eq_ok_iff`), and more links that may be followed do not change it
(`FileTree.walk_of_le`). Trees that differ only at a spot and below it have the same walks up to
the point where a walk asks for that spot (`FileTree.leads_or_asks`).
-/

namespace Runbook.FileTree

/-- A walk under way: how many links may still be followed, the place that was reached, and the
names that are left. -/
structure Walk where
  links : Nat
  place : FilePath
  names : List String

/-- A name of an entry, and not one that stands for a directory by its place. -/
structure Proper (name : String) : Prop where
  given : name ≠ ""
  ne_here : name ≠ "."
  ne_above : name ≠ ".."
  short : ¬ longestName < name.utf8ByteSize

/-- One step of a walk takes the first name. -/
inductive Step (tree : FileTree) : Walk → Walk → Prop
  | stay {links : Nat} {place : FilePath} {name : String} {names : List String}
      (standing : tree.entry? place = some .directory) (here : name = "" ∨ name = ".") :
      Step tree ⟨links, place, name :: names⟩ ⟨links, place, names⟩
  | up {links : Nat} {place : FilePath} {names : List String}
      (standing : tree.entry? place = some .directory) :
      Step tree ⟨links, place, ".." :: names⟩ ⟨links, place.dropLast, names⟩
  | enter {links : Nat} {place : FilePath} {name : String} {names : List String}
      {entry : FileEntry} (standing : tree.entry? place = some .directory) (proper : Proper name)
      (found : tree.entry? (place ++ [name]) = some entry)
      (plain : ∀ target, entry ≠ .link target) :
      Step tree ⟨links, place, name :: names⟩ ⟨links, place ++ [name], names⟩
  | follow {links : Nat} {place : FilePath} {name target : String} {names : List String}
      (standing : tree.entry? place = some .directory) (proper : Proper name)
      (found : tree.entry? (place ++ [name]) = some (.link target)) :
      Step tree ⟨links + 1, place, name :: names⟩
        ⟨links, if isAbsolute target then [] else place, splitPath target ++ names⟩

/-- A walk comes from one point to another. -/
def Leads (tree : FileTree) : Walk → Walk → Prop := Relation.ReflTransGen (Step tree)

variable {tree : FileTree} {start finish : Walk}

theorem walk_of_step (step : Step tree start finish) :
    tree.walk start.links start.place start.names =
      tree.walk finish.links finish.place finish.names := by
  cases step with
  | stay standing here =>
      rw [walk.eq_def]
      simp [standing, here]
  | up standing =>
      rw [walk.eq_def]
      simp [standing]
  | @enter links place name names entry standing proper found plain =>
      rw [walk.eq_def]
      simp only [standing, proper.given, proper.ne_here, proper.ne_above, proper.short, found,
        ne_eq, not_true_eq_false, or_self, ↓reduceIte]
      cases entry with
      | link target => exact (plain target rfl).elim
      | _ => rfl
  | follow standing proper found =>
      rw [walk.eq_def]
      simp [standing, proper.given, proper.ne_here, proper.ne_above, proper.short, found]

/-- A walk gives the same from all its points on. -/
theorem walk_of_leads (leads : Leads tree start finish) :
    tree.walk start.links start.place start.names =
      tree.walk finish.links finish.place finish.names := by
  induction leads with
  | refl => rfl
  | tail _ step ih => exact ih.trans (walk_of_step step)

theorem exists_leads_of_walk {links : Nat} {place final : FilePath} {names : List String}
    {entry : FileEntry} (done : tree.walk links place names = .ok (final, entry)) :
    ∃ left, Leads tree ⟨links, place, names⟩ ⟨left, final, []⟩ ∧
      tree.entry? final = some entry := by
  fun_induction walk tree links place names with
  | case1 links place found standing =>
      cases done
      exact ⟨links, .refl, standing⟩
  | case2 => cases done
  | case3 => cases done
  | case4 links place name names standing here ih =>
      obtain ⟨left, leads, found⟩ := ih done
      exact ⟨left, .head (.stay (Decidable.not_not.mp standing) here) leads, found⟩
  | case5 links place names standing here ih =>
      obtain ⟨left, leads, found⟩ := ih done
      exact ⟨left, .head (.up (Decidable.not_not.mp standing)) leads, found⟩
  | case6 => cases done
  | case7 => cases done
  | case8 => cases done
  | case9 place name names standing given ne_above short target links found ih =>
      obtain ⟨ne_empty, ne_here⟩ := not_or.mp given
      obtain ⟨left, leads, stands⟩ := ih done
      exact ⟨left, .head (.follow (Decidable.not_not.mp standing)
        ⟨ne_empty, ne_here, ne_above, short⟩ found) leads, stands⟩
  | case10 place name names standing given ne_above short entry links far followed found ih =>
      obtain ⟨ne_empty, ne_here⟩ := not_or.mp given
      obtain ⟨left, leads, stands⟩ := ih done
      have plain : ∀ target, entry ≠ .link target := by
        intro target link
        cases links with
        | zero => exact far target rfl link
        | succ links => exact followed target links rfl link
      exact ⟨left, .head (.enter (Decidable.not_not.mp standing)
        ⟨ne_empty, ne_here, ne_above, short⟩ found plain) leads, stands⟩

/-- What is found by a walk stands where its names are used up. -/
theorem walk_eq_ok_iff {links : Nat} {place final : FilePath} {names : List String}
    {entry : FileEntry} :
    tree.walk links place names = .ok (final, entry) ↔
      ∃ left, Leads tree ⟨links, place, names⟩ ⟨left, final, []⟩ ∧
        tree.entry? final = some entry := by
  constructor
  · exact exists_leads_of_walk
  · rintro ⟨left, leads, found⟩
    rw [walk_of_leads leads, walk, found]

/-- A walk from which nothing is left to do goes nowhere. -/
theorem Leads.eq_of_nil {links : Nat} {place : FilePath}
    (leads : Leads tree ⟨links, place, []⟩ finish) : finish = ⟨links, place, []⟩ := by
  cases Relation.ReflTransGen.cases_head leads with
  | inl same => exact same.symm
  | inr further =>
      obtain ⟨_, step, -⟩ := further
      cases step

/-- Links are only used up. -/
theorem Leads.links_le (leads : Leads tree start finish) : finish.links ≤ start.links := by
  induction leads with
  | refl => exact Nat.le_refl _
  | tail _ step ih =>
      refine Nat.le_trans ?_ ih
      cases step <;> simp

/-- More links that may be followed do not change a walk. -/
theorem Leads.add (leads : Leads tree start finish) (more : Nat) :
    Leads tree ⟨start.links + more, start.place, start.names⟩
      ⟨finish.links + more, finish.place, finish.names⟩ := by
  induction leads with
  | refl => exact .refl
  | tail _ step ih =>
      refine ih.tail ?_
      cases step with
      | stay standing here => exact .stay standing here
      | up standing => exact .up standing
      | enter standing proper found plain => exact .enter standing proper found plain
      | follow standing proper found =>
          rw [Nat.add_right_comm]
          exact .follow standing proper found

/-- What a walk finds is found with more links that may be followed, too. -/
theorem walk_of_le {fewer links : Nat} (enough : fewer ≤ links) {place : FilePath}
    {names : List String} {result : FilePath × FileEntry}
    (done : tree.walk fewer place names = .ok result) :
    tree.walk links place names = .ok result := by
  obtain ⟨left, leads, found⟩ := walk_eq_ok_iff.mp done
  obtain ⟨more, rfl⟩ := Nat.exists_eq_add_of_le enough
  exact walk_eq_ok_iff.mpr ⟨left + more, leads.add more, found⟩

/-! ## Walks in parts -/

/-- Names that come later do not change the walk along the names in front of them. -/
theorem Leads.append (leads : Leads tree start finish) (names : List String) :
    Leads tree ⟨start.links, start.place, start.names ++ names⟩
      ⟨finish.links, finish.place, finish.names ++ names⟩ := by
  induction leads with
  | refl => exact .refl
  | tail _ step ih =>
      refine ih.tail ?_
      cases step with
      | stay standing here => exact .stay standing here
      | up standing => exact .up standing
      | enter standing proper found plain => exact .enter standing proper found plain
      | follow standing proper found =>
          rw [List.append_assoc]
          exact .follow standing proper found

/-- A walk along two lists of names comes to an end of the first one. -/
theorem Leads.exists_between {links left : Nat} {place final : FilePath}
    {front names : List String}
    (leads : Leads tree ⟨links, place, front ++ names⟩ ⟨left, final, []⟩) :
    ∃ middle turn, Leads tree ⟨links, place, front⟩ ⟨middle, turn, []⟩ ∧
      Leads tree ⟨middle, turn, names⟩ ⟨left, final, []⟩ := by
  generalize starts : Walk.mk links place (front ++ names) = start at leads
  induction leads using Relation.ReflTransGen.head_induction_on generalizing links place front with
  | refl =>
      obtain ⟨rfl, rfl, empty⟩ := Walk.mk.inj starts
      obtain ⟨rfl, rfl⟩ := List.append_eq_nil_iff.mp empty
      exact ⟨links, place, .refl, .refl⟩
  | head step leads ih =>
      subst starts
      cases front with
      | nil => exact ⟨links, place, .refl, .head step leads⟩
      | cons name front =>
          cases step with
          | stay standing here =>
              obtain ⟨middle, turn, first, second⟩ := ih rfl
              exact ⟨middle, turn, .head (.stay standing here) first, second⟩
          | up standing =>
              obtain ⟨middle, turn, first, second⟩ := ih rfl
              exact ⟨middle, turn, .head (.up standing) first, second⟩
          | enter standing proper found plain =>
              obtain ⟨middle, turn, first, second⟩ := ih rfl
              exact ⟨middle, turn, .head (.enter standing proper found plain) first, second⟩
          | @follow _ _ _ target _ standing proper found =>
              obtain ⟨middle, turn, first, second⟩ :=
                @ih _ _ (splitPath target ++ front)
                  (congrArg (Walk.mk _ _) (List.append_assoc ..))
              exact ⟨middle, turn, .head (.follow standing proper found) first, second⟩

/-- A walk that goes on does so from a directory. -/
theorem Leads.directory_of_cons {links left : Nat} {place final : FilePath} {name : String}
    {names : List String} (leads : Leads tree ⟨links, place, name :: names⟩ ⟨left, final, []⟩) :
    tree.entry? place = some .directory := by
  cases Relation.ReflTransGen.cases_head leads with
  | inl same => cases same
  | inr further =>
      obtain ⟨_, step, -⟩ := further
      cases step with
      | stay standing | up standing | enter standing | follow standing => exact standing

/-- Names that stand for the directory itself lead nowhere else. -/
theorem Leads.place_eq_of_here {links left : Nat} {place final : FilePath} {names : List String}
    (here : ∀ name ∈ names, name = "" ∨ name = ".")
    (leads : Leads tree ⟨links, place, names⟩ ⟨left, final, []⟩) : final = place := by
  induction names generalizing links place with
  | nil =>
      cases leads.eq_of_nil
      rfl
  | cons name names ih =>
      obtain ⟨first, rest⟩ := List.forall_mem_cons.mp here
      cases Relation.ReflTransGen.cases_head leads with
      | inl same => cases same
      | inr further =>
          obtain ⟨_, step, leads⟩ := further
          cases step with
          | stay standing dot => exact ih rest leads
          | up standing => exact absurd first (by decide)
          | enter standing proper found plain =>
              exact (first.elim proper.given proper.ne_here).elim
          | follow standing proper found =>
              exact (first.elim proper.given proper.ne_here).elim

/-! ## Trees that differ at a spot -/

/-- The trees have the same entries, except at the spot and below it. -/
def SameOutside (spot : FilePath) (tree other : FileTree) : Prop :=
  ∀ path, ¬ spot <+: path → tree.entry? path = other.entry? path

theorem SameOutside.symm {spot : FilePath} {tree other : FileTree}
    (same : SameOutside spot tree other) : SameOutside spot other tree :=
  fun path outside => (same path outside).symm

section SameOutside

variable {other : FileTree} {place : FilePath} {name : String}

theorem not_concat_prefix_self : ¬ place ++ [name] <+: place := by
  intro below
  have shorter := below.length_le
  rw [List.length_append, List.length_singleton] at shorter
  exact Nat.not_succ_le_self _ shorter

/-- Only the spot itself is reached from outside by one name. -/
theorem eq_of_concat_prefix_concat {turn : FilePath} {next : String}
    (outside : ¬ place ++ [name] <+: turn) (spot : place ++ [name] <+: turn ++ [next]) :
    turn = place ∧ next = name := by
  rcases List.prefix_concat_iff.mp spot with equal | below
  · obtain ⟨rfl, last⟩ := List.append_inj' equal rfl
    exact ⟨rfl, (List.singleton_inj.mp last).symm⟩
  · exact (outside below).elim

/-- A walk that starts outside the spot takes a step that is the same in the other tree, unless it
asks for the spot. -/
theorem step_or_asks (same : SameOutside (place ++ [name]) tree other)
    (outside : ¬ place ++ [name] <+: start.place) (step : Step tree start finish) :
    Step other start finish ∧ ¬ place ++ [name] <+: finish.place ∨
      ∃ links rest, start = ⟨links, place, name :: rest⟩ := by
  cases step with
  | stay standing here => exact .inl ⟨.stay ((same _ outside).symm.trans standing) here, outside⟩
  | up standing =>
      exact .inl ⟨.up ((same _ outside).symm.trans standing), fun below =>
        outside (below.trans (List.dropLast_prefix _))⟩
  | @enter links turn next names entry standing proper found plain =>
      by_cases spot : place ++ [name] <+: turn ++ [next]
      · obtain ⟨rfl, rfl⟩ := eq_of_concat_prefix_concat outside spot
        exact .inr ⟨links, names, rfl⟩
      · exact .inl ⟨.enter ((same _ outside).symm.trans standing) proper
          ((same _ spot).symm.trans found) plain, spot⟩
  | @follow links turn next target names standing proper found =>
      by_cases spot : place ++ [name] <+: turn ++ [next]
      · obtain ⟨rfl, rfl⟩ := eq_of_concat_prefix_concat outside spot
        exact .inr ⟨links + 1, names, rfl⟩
      · refine .inl ⟨.follow ((same _ outside).symm.trans standing) proper
          ((same _ spot).symm.trans found), ?_⟩
        dsimp only
        split
        · simp
        · exact outside

/-- A walk that starts outside the spot is the same in the other tree, unless it asks for the
spot. -/
theorem leads_or_asks (same : SameOutside (place ++ [name]) tree other)
    (outside : ¬ place ++ [name] <+: start.place) (leads : Leads tree start finish) :
    Leads other start finish ∧ ¬ place ++ [name] <+: finish.place ∨
      ∃ links rest, Leads tree start ⟨links, place, name :: rest⟩ ∧
        Leads other start ⟨links, place, name :: rest⟩ ∧
          Leads tree ⟨links, place, name :: rest⟩ finish := by
  induction leads using Relation.ReflTransGen.head_induction_on with
  | refl => exact .inl ⟨.refl, outside⟩
  | head step leads ih =>
      rcases step_or_asks same outside step with ⟨step', outside'⟩ | ⟨links, rest, rfl⟩
      · rcases ih outside' with ⟨further, away⟩ | ⟨links, rest, first, second, onward⟩
        · exact .inl ⟨.head step' further, away⟩
        · exact .inr ⟨links, rest, .head step first, .head step' second, onward⟩
      · exact .inr ⟨links, rest, .refl, .refl, .head step leads⟩

end SameOutside

/-! ## Paths -/

/-- The walk along a path in text form. -/
def along (directory : FilePath) (text : String) : Walk :=
  ⟨mostLinks, if isAbsolute text then [] else directory, splitPath text⟩

/-- A text that can be a path. -/
structure IsPath (text : String) : Prop where
  no_nul : text.toList.contains '\x00' = false
  given : text ≠ ""
  short : ¬ longestPath < text.utf8ByteSize

/-- What is found at a path stands where its walk ends. -/
theorem find_eq_ok_iff {directory final : FilePath} {text : String} {entry : FileEntry} :
    tree.find directory text = .ok (final, entry) ↔
      IsPath text ∧ ∃ left, Leads tree (along directory text) ⟨left, final, []⟩ ∧
        tree.entry? final = some entry := by
  rw [find]
  by_cases nul : text.toList.contains '\x00' = true
  · rw [if_pos nul]
    refine iff_of_false (fun done => nomatch done) fun ⟨path, _⟩ => ?_
    exact Bool.false_ne_true (path.no_nul.symm.trans nul)
  · rw [if_neg nul]
    by_cases empty : text = ""
    · rw [if_pos empty]
      exact iff_of_false (fun done => nomatch done) fun ⟨path, _⟩ => path.given empty
    · rw [if_neg empty]
      by_cases long : longestPath < text.utf8ByteSize
      · rw [if_pos long]
        exact iff_of_false (fun done => nomatch done) fun ⟨path, _⟩ => path.short long
      · rw [if_neg long, walk_eq_ok_iff]
        exact (and_iff_right ⟨Bool.eq_false_iff.mpr nul, empty, long⟩).symm

theorem find?_eq_some_iff {directory : FilePath} {text : String} {entry : FileEntry} :
    tree.find? directory text = some entry ↔
      ∃ final, tree.find directory text = .ok (final, entry) := by
  rw [find?]
  cases found : tree.find directory text with
  | error cause => simp [Except.toOption]
  | ok result =>
      obtain ⟨final, other⟩ := result
      simp [Except.toOption]

/-- A path behind another one. -/
theorem splitPath_append (path name : String) :
    splitPath (path ++ "/" ++ name) = splitPath path ++ splitPath name := by
  rw [splitPath, splitPath, splitPath, ← List.map_append]
  congr 1
  simp only [String.toList_append, List.append_assoc]
  exact List.splitOnP_append_cons _ _ (beq_self_eq_true '/')

theorem isAbsolute_append {path : String} (given : path ≠ "") (tail : String) :
    isAbsolute (path ++ tail) = isAbsolute path := by
  obtain ⟨first, rest, split⟩ :=
    List.exists_cons_of_ne_nil fun empty => given (String.toList_eq_nil_iff.mp empty)
  rw [isAbsolute, isAbsolute, Bool.eq_iff_iff, String.startsWith_string_iff,
    String.startsWith_string_iff, String.toList_append, split]
  simp

section Below

variable {directory place : FilePath} {path name : String} {left : Nat}

/-- What is found below a directory is found from the point that the path to it leads to. -/
theorem find_below_iff (readable : IsPath path)
    (leads : Leads tree (along directory path) ⟨left, place, []⟩)
    {result : FilePath × FileEntry} :
    tree.find directory (path ++ "/" ++ name) = .ok result ↔
      IsPath (path ++ "/" ++ name) ∧ tree.walk left place (splitPath name) = .ok result := by
  have onward :
      Leads tree (along directory (path ++ "/" ++ name)) ⟨left, place, splitPath name⟩ := by
    have further := leads.append (splitPath name)
    rw [along, String.append_assoc, isAbsolute_append readable.given, ← String.append_assoc,
      splitPath_append]
    exact further
  rw [find_eq_ok_iff, ← walk_eq_ok_iff]
  exact and_congr_right fun _ => by rw [walk_of_leads onward]

/-- A directory lists the names of the entries that stand in it. -/
theorem mem_list_iff :
    (∃ names, tree.list directory path = some names ∧ name ∈ names) ↔
      ∃ place, tree.find directory path = .ok (place, .directory) ∧
        (tree.entry? (place ++ [name])).isSome := by
  have standing : ∀ place, (tree.entry? (place ++ [name])).isSome ↔
      ∃ entry ∈ tree, place ++ [name] = entry.1 := by
    intro place
    simp [FileTree.entry?, List.lookup_isSome_iff]
  simp only [standing]
  constructor
  · rintro ⟨names, listed, member⟩
    rw [list] at listed
    split at listed
    · rename_i place found
      cases listed
      obtain ⟨⟨path, entry⟩, member, named⟩ := List.mem_filterMap.mp member
      refine ⟨place, found, (path, entry), member, ?_⟩
      dsimp only at named ⊢
      by_cases inside : path.dropLast = place
      · rw [if_pos inside] at named
        obtain ⟨before, rfl⟩ := List.getLast?_eq_some_iff.mp named
        rw [← inside, List.dropLast_concat]
      · rw [if_neg inside] at named
        cases named
    · cases listed
  · rintro ⟨place, found, ⟨_, entry⟩, member, rfl⟩
    refine ⟨_, by rw [list, found], List.mem_filterMap.mpr ⟨(place ++ [name], entry), member, ?_⟩⟩
    dsimp only
    rw [List.dropLast_concat, if_pos rfl, List.getLast?_concat]

/-- A name that an entry of a directory can have. -/
structure FileName (name : String) : Prop where
  proper : Proper name
  single : '/' ∉ name.toList
  no_nul : name.toList.contains '\x00' = false

theorem FileName.splitPath_eq (named : FileName name) : splitPath name = [name] := by
  rw [splitPath, List.splitOn_eq_singleton named.single, List.map_singleton, String.ofList_toList]

/-- An entry of a directory is found under its name with all the links that may be followed. -/
theorem find?_of_leads (named : FileName name) (few : left ≤ mostLinks) {rest : Nat}
    {final : FilePath} {entry : FileEntry}
    (leads : Leads tree ⟨left, place, [name]⟩ ⟨rest, final, []⟩)
    (stands : tree.entry? final = some entry) : tree.find? place name = some entry := by
  have relative : isAbsolute name = false := by
    rw [isAbsolute, Bool.eq_false_iff, Ne, String.startsWith_string_iff]
    intro absolute
    exact named.single (absolute.subset List.mem_cons_self)
  have readable : IsPath name := by
    refine ⟨named.no_nul, named.proper.given, fun long => named.proper.short ?_⟩
    exact Nat.lt_trans (by decide) long
  have found : tree.walk mostLinks place [name] = .ok (final, entry) :=
    walk_of_le few (walk_eq_ok_iff.mpr ⟨rest, leads, stands⟩)
  refine find?_eq_some_iff.mpr ⟨final, find_eq_ok_iff.mpr ⟨readable, ?_⟩⟩
  rw [along, named.splitPath_eq, relative]
  exact walk_eq_ok_iff.mp found

end Below

/-! ## Changes -/

/-- The way along a path does not ask for the entry at a spot, and does not begin there or below. -/
structure Avoids (tree : FileTree) (directory : FilePath) (path : String) (place : FilePath)
    (name : String) : Prop where
  outside : ¬ place ++ [name] <+: (along directory path).place
  not_asked : ∀ links rest, ¬ Leads tree (along directory path) ⟨links, place, name :: rest⟩

section Changes

variable {other : FileTree} {directory place : FilePath} {path name : String}

theorem Avoids.of_same (avoids : Avoids tree directory path place name)
    (same : SameOutside (place ++ [name]) tree other) :
    Avoids other directory path place name := by
  refine ⟨avoids.outside, fun links rest leads => ?_⟩
  rcases leads_or_asks same.symm avoids.outside leads with ⟨leads, -⟩ | ⟨links, rest, -, leads, -⟩
  · exact avoids.not_asked _ _ leads
  · exact avoids.not_asked _ _ leads

/-- A path that avoids a spot leads to the same point in both trees. -/
theorem Avoids.leads (avoids : Avoids tree directory path place name)
    (same : SameOutside (place ++ [name]) tree other) {left : Nat} {final : FilePath}
    (leads : Leads tree (along directory path) ⟨left, final, []⟩) :
    Leads other (along directory path) ⟨left, final, []⟩ := by
  rcases leads_or_asks same avoids.outside leads with ⟨leads, -⟩ | ⟨links, rest, leads, -⟩
  · exact leads
  · exact (avoids.not_asked _ _ leads).elim

/-- A directory whose path avoids a spot in it stands in both trees. -/
theorem Avoids.find_directory (avoids : Avoids tree directory path place name)
    (same : SameOutside (place ++ [name]) tree other)
    (found : tree.find directory path = .ok (place, .directory)) :
    other.find directory path = .ok (place, .directory) := by
  obtain ⟨readable, left, leads, stands⟩ := find_eq_ok_iff.mp found
  exact find_eq_ok_iff.mpr ⟨readable, left, avoids.leads same leads,
    (same place not_concat_prefix_self).symm.trans stands⟩

/-- Trees with the same entries have the same walks. -/
theorem leads_of_entry?_eq (same : ∀ path, tree.entry? path = other.entry? path)
    (leads : Leads tree start finish) : Leads other start finish := by
  refine Relation.ReflTransGen.mono (fun before after step => ?_) _ _ leads
  cases step with
  | stay standing here => exact .stay ((same _).symm.trans standing) here
  | up standing => exact .up ((same _).symm.trans standing)
  | enter standing proper found plain =>
      exact .enter ((same _).symm.trans standing) proper ((same _).symm.trans found) plain
  | follow standing proper found =>
      exact .follow ((same _).symm.trans standing) proper ((same _).symm.trans found)

theorem find_of_entry?_eq (same : ∀ path, tree.entry? path = other.entry? path)
    {result : FilePath × FileEntry} (found : tree.find directory path = .ok result) :
    other.find directory path = .ok result := by
  obtain ⟨readable, left, leads, stands⟩ := find_eq_ok_iff.mp found
  exact find_eq_ok_iff.mpr
    ⟨readable, left, leads_of_entry?_eq same leads, (same _).symm.trans stands⟩

/-- Where all paths are distinct, each entry stands at its path. -/
theorem lookup_eq_some_iff (distinct : (tree.map Prod.fst).Nodup) {path : FilePath}
    {entry : FileEntry} : tree.lookup path = some entry ↔ (path, entry) ∈ tree := by
  induction tree with
  | nil => simp
  | cons first tree ih =>
      obtain ⟨place, found⟩ := first
      obtain ⟨absent, distinct⟩ := List.nodup_cons.mp distinct
      rw [List.lookup_cons]
      by_cases same : path = place
      · subst same
        have elsewhere : (path, entry) ∉ tree := fun member =>
          absent (List.mem_map.mpr ⟨(path, entry), member, rfl⟩)
        simp [elsewhere, eq_comm]
      · rw [beq_eq_false_iff_ne.mpr same]
        simp [ih distinct, same]

/-- The order of the entries of a tree does not matter. -/
theorem entry?_of_perm (reordered : other.Perm tree) (distinct : (tree.map Prod.fst).Nodup)
    (path : FilePath) : tree.entry? path = other.entry? path := by
  have distinct' : (other.map Prod.fst).Nodup := (reordered.map Prod.fst).nodup_iff.mpr distinct
  unfold entry?
  congr 1
  refine Option.ext fun entry => ?_
  rw [lookup_eq_some_iff distinct, lookup_eq_some_iff distinct', reordered.mem_iff]

end Changes

end Runbook.FileTree
