import ScriptReview.Proofs.Entries
import ScriptReview.Workspace.FileTree

/-!
What stands at the places of a tree of files.

A tree is observed place by place: at each there is nothing, a file with its contents, or a
directory (`FileTree.nodeAt?`). A file that is put into a directory, where no directory of its name
is in the way, is seen at its own place, and nothing changes at any other
(`FileTree.nodeAt?_insert_file`).
-/

namespace ScriptReview

/-- What stands at a place, without what is below it. -/
inductive Node where
  | file (contents : ByteArray)
  | directory

namespace FileTree

def node : FileTree → Node
  | file contents => .file contents
  | directory _ => .directory

/-- What stands at the end of a list of names, if anything does. -/
def nodeAt? (tree : FileTree) (place : List String) : Option Node :=
  (tree.at? place).map node

variable {entries : List (String × FileTree)} {tree : FileTree} {name : String}

/-! ## Entries of a directory -/

theorem lookup_map_replace (entries : List (String × FileTree)) (name other : String)
    (tree : FileTree) :
    (entries.map fun entry => if entry.1 == name then (name, tree) else entry).lookup other =
      if other = name then (entries.lookup name).map fun _ => tree else entries.lookup other := by
  induction entries with
  | nil => simp
  | cons first entries ih =>
    rw [List.map_cons, lookup_cons_eq_ite, ih, lookup_cons_eq_ite first, lookup_cons_eq_ite first]
    by_cases hfirst : first.1 = name
    · by_cases hother : other = name
      · simp [hfirst, hother]
      · simp [hfirst, hother]
    · by_cases hother : other = name
      · simp [hother, hfirst, Ne.symm hfirst]
      · simp [hother, hfirst]

theorem lookup_setEntry (entries : List (String × FileTree)) (name other : String)
    (tree : FileTree) :
    (setEntry entries name tree).lookup other =
      if other = name then some tree else entries.lookup other := by
  unfold setEntry
  cases hname : entries.lookup name with
  | some old => rw [if_pos Option.isSome_some, lookup_map_replace, hname, Option.map_some]
  | none =>
    rw [if_neg (by simp), List.lookup_append, lookup_cons_eq_ite, List.lookup_nil]
    by_cases hother : other = name
    · rw [if_pos hother, if_pos hother, hother, hname, Option.none_or]
    · rw [if_neg hother, if_neg hother, Option.or_none]

/-! ## Places -/

theorem at?_append (tree : FileTree) (place rest : List String) :
    tree.at? (place ++ rest) = (tree.at? place).bind fun inner => inner.at? rest := by
  induction place generalizing tree with
  | nil => rfl
  | cons name place ih =>
    rw [List.cons_append, at?, at?, Option.bind_assoc]
    exact congrArg _ (funext fun inner => ih inner)

theorem nodeAt?_eq_directory_iff {place : List String} :
    tree.nodeAt? place = some .directory ↔
      ∃ entries, tree.at? place = some (directory entries) := by
  rw [nodeAt?]
  rcases tree.at? place with _ | ⟨contents | entries⟩ <;> simp [node]

theorem nodeAt?_nil (tree : FileTree) : tree.nodeAt? [] = some tree.node :=
  rfl

theorem nodeAt?_file_cons (contents : ByteArray) (name : String) (place : List String) :
    (file contents).nodeAt? (name :: place) = none :=
  rfl

theorem nodeAt?_directory_cons (entries : List (String × FileTree)) (name : String)
    (place : List String) :
    (directory entries).nodeAt? (name :: place) =
      (entries.lookup name).bind fun inner => inner.nodeAt? place := by
  rw [nodeAt?, at?, child?]
  cases entries.lookup name <;> rfl

/-- Nothing stands below a place but where a directory is. -/
theorem nodeAt?_cons_eq_none (h : tree.node ≠ .directory) (name : String) (place : List String) :
    tree.nodeAt? (name :: place) = none := by
  cases tree with
  | file contents => exact nodeAt?_file_cons contents name place
  | directory entries => exact absurd rfl h

theorem exists_of_nodeAt?_cons {place : List String} {found : Node}
    (h : tree.nodeAt? (name :: place) = some found) :
    ∃ entries inner, tree = directory entries ∧ entries.lookup name = some inner ∧
      inner.nodeAt? place = some found := by
  cases tree with
  | file contents => cases (nodeAt?_file_cons contents name place).symm.trans h
  | directory entries =>
    rw [nodeAt?_directory_cons] at h
    obtain ⟨inner, hlookup, hinner⟩ := Option.bind_eq_some_iff.mp h
    exact ⟨entries, inner, rfl, hlookup, hinner⟩

theorem nodeAt?_directory_setEntry (entries : List (String × FileTree)) (name other : String)
    (tree : FileTree) (place : List String) :
    (directory (setEntry entries name tree)).nodeAt? (other :: place) =
      if other = name then tree.nodeAt? place
      else (directory entries).nodeAt? (other :: place) := by
  rw [nodeAt?_directory_cons, lookup_setEntry, nodeAt?_directory_cons]
  by_cases hother : other = name
  · rw [if_pos hother, if_pos hother, Option.bind_some]
  · rw [if_neg hother, if_neg hother]

/-- A file put under a name that is no directory is seen there and changes no other place. -/
theorem nodeAt?_setEntry_file {contents : ByteArray}
    (hleaf : (directory entries).nodeAt? [name] ≠ some .directory) (place : List String) :
    (directory (setEntry entries name (file contents))).nodeAt? place =
      if place = [name] then some (.file contents) else (directory entries).nodeAt? place := by
  cases place with
  | nil => rfl
  | cons other place =>
    rw [nodeAt?_directory_setEntry]
    by_cases hother : other = name
    · subst hother
      cases place with
      | nil => rw [if_pos rfl, if_pos rfl]; rfl
      | cons below place =>
        -- Nothing was below the name, and nothing is below the new file.
        rw [if_pos rfl, if_neg (by simp), nodeAt?_file_cons, nodeAt?_directory_cons]
        cases hlookup : entries.lookup other with
        | none => rfl
        | some inner =>
          refine (nodeAt?_cons_eq_none (fun hinner => hleaf ?_) below place).symm
          rw [nodeAt?_directory_cons, hlookup, Option.bind_some, nodeAt?_nil, hinner]
    · rw [if_neg hother, if_neg fun h => hother (List.cons.inj h).1]

/-- A file put into a directory is seen at its place and changes no other one. -/
theorem nodeAt?_insert_file {contents : ByteArray} {parent : List String} {tree : FileTree}
    (hparent : tree.nodeAt? parent = some .directory)
    (hleaf : tree.nodeAt? (parent ++ [name]) ≠ some .directory) (place : List String) :
    (insert (file contents) (parent ++ [name]) tree).nodeAt? place =
      if place = parent ++ [name] then some (.file contents) else tree.nodeAt? place := by
  induction parent generalizing tree place with
  | nil =>
    cases tree with
    | file old => cases hparent
    | directory entries =>
      rw [List.nil_append] at hleaf ⊢
      exact nodeAt?_setEntry_file hleaf place
  | cons first parent ih =>
    -- The first directory on the way is there, so that the new one is put into it.
    obtain ⟨entries, inner, rfl, hlookup, hinner⟩ := exists_of_nodeAt?_cons hparent
    have hbelow (rest : List String) :
        (directory entries).nodeAt? (first :: rest) = inner.nodeAt? rest := by
      rw [nodeAt?_directory_cons, hlookup, Option.bind_some]
    rw [List.cons_append, hbelow] at hleaf
    rw [List.cons_append, insert, hlookup, Option.getD_some]
    cases place with
    | nil => rfl
    | cons other place =>
      rw [nodeAt?_directory_setEntry]
      by_cases hother : other = first
      · subst hother
        rw [if_pos rfl, ih hinner hleaf, hbelow]
        simp only [List.cons.injEq, true_and]
      · rw [if_neg hother, if_neg fun h => hother (List.cons.inj h).1]

end FileTree
end ScriptReview
