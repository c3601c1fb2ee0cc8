/-
# What a write leaves

A file that is written holds what was written, at the path that it was written
to (`read_of_put`), and every other file and folder stays as it is
(`put_changes_one_file`).  A device that is written leaves all of them as they are.

`putIn` could do more than that: it makes the folders that are missing and turns
a file on its way into a folder.  A write never comes to that, because the path
has been walked before: the place is a folder that is there, and the name in it
is not a folder (`target_eq_file`).  Under these two conditions a `put` is seen
under its own names only (`nodeIn?_putIn_of_ne`).

| names | before | after |
| --- | --- | --- |
| those of the target | a file or nothing | the text |
| below those of the target | nothing | nothing |
| on the way to the target | a folder | a folder |
| others | some node | the same |

A path led somewhere before the write: it leads to the same place after it
(`walk_of_put`), so that the path can be walked again to read what was written.
-/

import BracketTemplate.FileTree.Access
import Mathlib

namespace BracketTemplate

/-- What a node is by itself: a folder without what is in it. -/
def FileNode.face : FileNode → FileNode
  | .folder _ => .folder []
  | .file text => .file text
  | .binary => .binary
  | .device content sink => .device content sink

theorem FileNode.exists_eq_folder_of_face {node : FileNode} {entries : Entries FileNode}
    (h : node.face = .folder entries) : ∃ inner, node = .folder inner := by
  cases node with
  | folder inner => exact ⟨inner, rfl⟩
  | file text => cases h
  | binary => cases h
  | device content sink => cases h

namespace FileTree

/-! ## Names that lead somewhere -/

section Names

variable {entries inner : Entries FileNode} {name : String}

theorem nodeIn?_cons_of_folder (h : Entries.find? name entries = some (.folder inner))
    (names : List String) : nodeIn? entries (name :: names) = nodeIn? inner names := by
  cases names with
  | nil => exact h
  | cons next names => simp only [nodeIn?, h]

/-- Nothing is below what is not a folder. -/
theorem nodeIn?_cons_cons_of_not_folder
    (h : ∀ inner, Entries.find? name entries ≠ some (.folder inner)) (next : String)
    (names : List String) : nodeIn? entries (name :: next :: names) = none := by
  rw [nodeIn?]
  · split
    · rename_i inner hfind
      exact absurd hfind (h inner)
    · rfl
  · simp

/-- Where names lead depends only on what is under the first of them. -/
theorem nodeIn?_cons_congr {others : Entries FileNode}
    (h : Entries.find? name entries = Entries.find? name others) (names : List String) :
    nodeIn? entries (name :: names) = nodeIn? others (name :: names) := by
  cases names with
  | nil => exact h
  | cons next names => simp only [nodeIn?, h]

/-- The first of some names that lead to a folder is that of a folder. -/
theorem exists_folder_of_nodeIn?_cons {names : List String}
    (h : nodeIn? entries (name :: names) = some (.folder inner)) :
    ∃ first, Entries.find? name entries = some (.folder first) := by
  cases names with
  | nil => exact ⟨inner, h⟩
  | cons next names =>
    by_contra hno
    rw [nodeIn?_cons_cons_of_not_folder (not_exists.1 hno)] at h
    cases h

/-- Names behind those of a folder lead where they lead from that folder. -/
theorem nodeIn?_append_of_folder {names : List String} (more : List String)
    (h : nodeIn? entries names = some (.folder inner)) :
    nodeIn? entries (names ++ more) = nodeIn? inner more := by
  induction names generalizing entries with
  | nil =>
    obtain rfl : entries = inner := by simpa [nodeIn?] using h
    rfl
  | cons name names ih =>
    obtain ⟨first, hfirst⟩ := exists_folder_of_nodeIn?_cons h
    rw [nodeIn?_cons_of_folder hfirst] at h
    rw [List.cons_append, nodeIn?_cons_of_folder hfirst, ih h]

theorem node?_append_singleton {tree : FileTree} {names : List String}
    (h : tree.node? names = some (.folder inner)) (name : String) :
    tree.node? (names ++ [name]) = Entries.find? name inner :=
  nodeIn?_append_of_folder [name] h

end Names

/-! ## Putting a node in a tree -/

section Putting

variable {entries inner : Entries FileNode} {node : FileNode}

theorem putIn_cons_append_singleton (entries : Entries FileNode) (first : String)
    (place : List String) (last : String) :
    putIn node entries (first :: (place ++ [last])) =
      Entries.insert first
        (.folder (putIn node (((Entries.find? first entries).map FileNode.entries).getD [])
          (place ++ [last]))) entries := by
  cases place with
  | nil => rfl
  | cons next place => rfl

/-- What was put is found. -/
theorem nodeIn?_putIn_self (entries : Entries FileNode) (place : List String) (last : String) :
    nodeIn? (putIn node entries (place ++ [last])) (place ++ [last]) = some node := by
  induction place generalizing entries with
  | nil => exact Entries.find?_insert_self last node entries
  | cons first place ih =>
    rw [List.cons_append, putIn_cons_append_singleton,
      nodeIn?_cons_of_folder (Entries.find?_insert_self ..), ih]

/-- **A file put in a folder that is there is seen under its own names only.**
Every other node is by itself what it was. -/
theorem nodeIn?_putIn_of_ne {place names : List String} {last : String}
    (hnode : ∀ below, node ≠ .folder below)
    (hplace : nodeIn? entries place = some (.folder inner))
    (hold : ∀ below, nodeIn? entries (place ++ [last]) ≠ some (.folder below))
    (hne : names ≠ place ++ [last]) :
    (nodeIn? (putIn node entries (place ++ [last])) names).map FileNode.face =
      (nodeIn? entries names).map FileNode.face := by
  induction place generalizing entries names with
  | nil =>
    change (nodeIn? (Entries.insert last node entries) names).map _ = _
    match names with
    | [] => rfl
    | [name] =>
      have hname : last ≠ name := fun h => hne (by rw [h, List.nil_append])
      exact congrArg _ (Entries.find?_insert_of_ne hname node entries)
    | name :: next :: rest =>
      by_cases hname : last = name
      · -- Nothing is below a file, and nothing was below what it replaces.
        subst hname
        rw [nodeIn?_cons_cons_of_not_folder hold, nodeIn?_cons_cons_of_not_folder]
        intro below hbelow
        rw [Entries.find?_insert_self] at hbelow
        exact hnode below (Option.some.inj hbelow)
      · rw [nodeIn?_cons_congr (Entries.find?_insert_of_ne hname node entries)]
  | cons first place ih =>
    obtain ⟨folder, hfolder⟩ := exists_folder_of_nodeIn?_cons hplace
    rw [nodeIn?_cons_of_folder hfolder] at hplace
    simp only [List.cons_append, nodeIn?_cons_of_folder hfolder] at hold
    rw [List.cons_append, putIn_cons_append_singleton, hfolder]
    cases names with
    | nil => rfl
    | cons name rest =>
      by_cases hname : first = name
      · subst hname
        rw [nodeIn?_cons_of_folder hfolder, nodeIn?_cons_of_folder (Entries.find?_insert_self ..)]
        exact ih hplace hold fun h => hne (by rw [h, List.cons_append])
      · rw [nodeIn?_cons_congr (Entries.find?_insert_of_ne hname _ entries)]

end Putting

/-! ## The file that a write is for -/

/-- Whether two trees have the same files and folders under all names but some. -/
def SameBut (names : List String) (before after : FileTree) : Prop :=
  ∀ others, others ≠ names →
    (after.node? others).map FileNode.face = (before.node? others).map FileNode.face

/-- What has been found of a path that a file can be written to: the folder it is
in, which is there, and its name there, which is not that of a folder. -/
structure FileAt (tree : FileTree) (path : String) where
  route : Route
  place : List String
  last : String
  inner : Entries FileNode
  route_eq : Route.ofText path = .ok route
  walk_eq : tree.walk (tree.origin route) route.steps.dropLast = .ok place
  last_eq : route.steps.getLast? = some (.name last)
  slash_eq : route.slashAtEnd = false
  size_le : last.utf8ByteSize ≤ maxNameSize
  place_eq : tree.node? place = some (.folder inner)
  not_folder : ∀ below, tree.node? (place ++ [last]) ≠ some (.folder below)

/-- The names under which the file is. -/
def FileAt.names {tree : FileTree} {path : String} (t : FileAt tree path) : List String :=
  t.place ++ [t.last]

theorem walkStep_here {tree : FileTree} {names there : List String}
    (h : tree.walkStep names .here = .ok there) :
    ∃ inner, tree.node? names = some (.folder inner) := by
  simp only [walkStep] at h
  split at h <;> first | contradiction | exact ⟨_, ‹_›⟩

/-- The path of a file that can be written leads to a folder that is there, and
on to a name that is not that of a folder. -/
theorem target_eq_file {tree : FileTree} {path : String} {names : List String}
    (h : tree.target path = .ok (.file names)) : ∃ t : FileAt tree path, t.names = names := by
  simp only [target, bind, Except.bind] at h
  split at h
  · cases h
  rename_i r hr
  split at h
  · cases h
  rename_i place hplace
  split at h
  · cases h
  · rename_i last hlast
    split at h
    · cases h
    rename_i here hhere
    split at h
    · cases h
    rename_i hslash
    split at h
    · cases h
    rename_i hsize
    obtain ⟨inner, hinner⟩ := walkStep_here hhere
    split at h
    · cases h
    · cases h
    rename_i hold _
    obtain rfl : place ++ [last] = names := by cases h; rfl
    exact ⟨⟨r, place, last, inner, hr, hplace, hlast, by simpa using hslash, by omega, hinner,
      fun below hbelow => hold below hbelow⟩, rfl⟩
  · split at h <;> cases h

theorem write_of_target {tree : FileTree} {path : String} {target : Target}
    (h : tree.target path = .ok target) (text : String) :
    tree.write path text = .ok (tree.writeTo text target) := by
  simp only [write, h, bind, Except.bind, pure, Except.pure]

/-! ## After a write -/

section Written

variable {tree : FileTree} {path : String}

/-- **Writing a file changes no other one.**  Under the names that the path leads to is
the text, and under all others is what was there. -/
theorem put_changes_one_file (t : FileAt tree path) (text : String) :
    (tree.put t.names (.file text)).node? t.names = some (.file text) ∧
      SameBut t.names tree (tree.put t.names (.file text)) :=
  ⟨nodeIn?_putIn_self .., fun _ hne =>
    nodeIn?_putIn_of_ne (fun _ => FileNode.noConfusion) t.place_eq t.not_folder hne⟩

/-- Folders stay folders. -/
theorem exists_folder_of_put (t : FileAt tree path) (text : String) {names : List String}
    {entries : Entries FileNode} (hfolder : tree.node? names = some (.folder entries)) :
    ∃ inner, (tree.put t.names (.file text)).node? names = some (.folder inner) := by
  have hne : names ≠ t.names := by
    rintro rfl
    exact t.not_folder entries hfolder
  have hface := (put_changes_one_file t text).2 names hne
  rw [hfolder] at hface
  obtain ⟨node, hnode, hnode'⟩ := Option.map_eq_some_iff.1 hface
  obtain ⟨inner, rfl⟩ := FileNode.exists_eq_folder_of_face hnode'
  exact ⟨inner, hnode⟩

/-- What was there is there, perhaps with another content. -/
theorem isSome_of_put (t : FileAt tree path) (text : String) {names : List String}
    (hsome : (tree.node? names).isSome) :
    ((tree.put t.names (.file text)).node? names).isSome := by
  obtain ⟨hnode, hsame⟩ := put_changes_one_file t text
  by_cases hne : names = t.names
  · rw [hne, hnode]
    rfl
  · rw [← Option.isSome_map (f := FileNode.face), hsame names hne, Option.isSome_map]
    exact hsome

theorem walkStep_of_put (t : FileAt tree path) (text : String) {here there : List String}
    {s : Step} (hstep : tree.walkStep here s = .ok there) :
    (tree.put t.names (.file text)).walkStep here s = .ok there := by
  simp only [walkStep] at hstep ⊢
  split at hstep
  · cases hstep
  · cases hstep
  · cases hstep
  · cases hstep
  rename_i entries hentries
  obtain ⟨inner, hinner⟩ := exists_folder_of_put t text hentries
  simp only [hinner]
  cases s with
  | here => exact hstep
  | up => exact hstep
  | name s =>
    simp only at hstep ⊢
    split at hstep
    · cases hstep
    rename_i hsize
    rw [if_neg hsize]
    split at hstep
    · rename_i node hnode
      have hsome : ((tree.put t.names (.file text)).node? (here ++ [s])).isSome := by
        apply isSome_of_put t text
        rw [node?_append_singleton hentries, hnode]
        rfl
      rw [node?_append_singleton hinner] at hsome
      obtain ⟨node', hnode'⟩ := Option.isSome_iff_exists.1 hsome
      simpa only [hnode'] using hstep
    · cases hstep

/-- A path that led somewhere leads there still. -/
theorem walk_of_put (t : FileAt tree path) (text : String) {steps : List Step}
    {here there : List String} (hwalk : tree.walk here steps = .ok there) :
    (tree.put t.names (.file text)).walk here steps = .ok there := by
  induction steps generalizing here with
  | nil => exact hwalk
  | cons s steps ih =>
    simp only [walk, List.foldlM_cons, bind, Except.bind] at hwalk ⊢
    split at hwalk
    · cases hwalk
    rename_i next hnext
    rw [walkStep_of_put t text hnext]
    exact ih hwalk

/-- **What was written can be read**, at the path it was written to. -/
theorem read_of_put (t : FileAt tree path) (text : String) :
    (tree.put t.names (.file text)).read path = .ok text := by
  have hnode := (put_changes_one_file t text).1
  obtain ⟨inner, hinner⟩ := exists_folder_of_put t text t.place_eq
  have hfind : (tree.put t.names (.file text)).node? (t.place ++ [t.last]) =
      some (.file text) := hnode
  rw [node?_append_singleton hinner] at hfind
  have hstep : (tree.put t.names (.file text)).walkStep t.place (.name t.last) = .ok t.names := by
    simp only [walkStep, hinner, if_neg (Nat.not_lt.2 t.size_le), hfind]
    rfl
  have hsteps : t.route.steps = t.route.steps.dropLast ++ [.name t.last] := by
    obtain ⟨front, hfront⟩ := List.getLast?_eq_some_iff.1 t.last_eq
    rw [hfront, List.dropLast_concat]
  have hwalk : (tree.put t.names (.file text)).walk (tree.origin t.route) t.route.steps =
      .ok t.names := by
    rw [hsteps, walk, List.foldlM_append, ← walk, walk_of_put t text t.walk_eq]
    simp [hstep, bind, Except.bind, pure, Except.pure]
  have horigin : (tree.put t.names (.file text)).origin t.route = tree.origin t.route := rfl
  simp [read, t.route_eq, t.slash_eq, horigin, hwalk, hnode, bind, Except.bind, pure, Except.pure]

/-- **A write is seen in one file only.**  If a path leads to a file that can be written,
then the write succeeds, the text is read at the path, and under all names but those of
the file is what was there. -/
theorem write_changes_one_file {names : List String} (text : String)
    (h : tree.target path = .ok (.file names)) :
    ∃ written, tree.write path text = .ok written ∧ written.read path = .ok text ∧
      written.node? names = some (.file text) ∧ SameBut names tree written := by
  obtain ⟨t, rfl⟩ := target_eq_file h
  exact ⟨_, write_of_target h text, read_of_put t text, put_changes_one_file t text⟩

end Written

/-- A file in a folder is replaced, the one beside it is not. -/
example : (FileTree.write ⟨[("a", .folder [("b", .file "1"), ("c", .file "2")])], ["a"]⟩ "./c"
    "3").toOption.map listing = some [("b", "1"), ("c", "3")] := by cbv

end FileTree

end BracketTemplate
