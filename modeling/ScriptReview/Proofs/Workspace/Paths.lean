import ScriptReview.Proofs.Workspace.Runs

/-!
Which entries a path depends on.

To follow a path means to look up one entry after the other (`Workspace.lookedUp`), and what the
path leads to depends on nothing else. So two workspaces that differ at one place only are the same
to a path that does not look there (`Workspace.SameButConfig.read_eq`). To a path that does look
there they are not, once a file has come to a place where nothing was
(`Workspace.SameButConfig.read_eq_iff`).
-/

namespace ScriptReview
namespace FileTree

/-- The places at which an entry is looked up while the parts are followed from a place, as far as
they can be followed. Dots and empty parts are listed like names, although they name no entry. -/
def lookedUp (root : FileTree) (place : List String) : List String → List (List String)
  | [] => []
  | part :: parts =>
    (place ++ [part]) ::
      match root.followPart place part with
      | .ok next => root.lookedUp next parts
      | .error _ => []

section Follow

variable {root before after : FileTree} {place avoided next : List String} {part : String}
  {parts : List String}

theorem nodeAt?_concat {entries : List (String × FileTree)}
    (h : root.at? place = some (directory entries)) (name : String) :
    (root.nodeAt? (place ++ [name])).isSome = (entries.lookup name).isSome := by
  rw [nodeAt?, at?_append, h, Option.bind_some, at?, child?]
  cases entries.lookup name <;> rfl

/-- A step looks at two places only: the one where it begins and the entry that it names. -/
theorem followPart_eq (root : FileTree) (place : List String) (part : String) :
    root.followPart place part =
      match root.nodeAt? place with
      | none => .error .notFound
      | some (.file _) => .error .notADirectory
      | some .directory =>
        if part == "" || part == "." then .ok place
        else if part == ".." then .ok place.dropLast
        else if longestName < part.utf8ByteSize then .error .nameTooLong
        else if (root.nodeAt? (place ++ [part])).isSome then .ok (place ++ [part])
        else .error .notFound := by
  rw [followPart]
  cases hplace : root.at? place with
  | none =>
    rw [nodeAt?, hplace]
    rfl
  | some found =>
    cases found with
    | file contents =>
      rw [nodeAt?, hplace]
      rfl
    | directory entries =>
      rw [nodeAt?_concat hplace, nodeAt?, hplace]
      rfl

/-- A step down, from a directory to an entry with a name. -/
theorem followPart_name (h : root.nodeAt? place = some .directory) {name : String}
    (hname : name ∉ ["", ".", ".."]) (hlength : name.utf8ByteSize ≤ longestName) :
    root.followPart place name =
      if (root.nodeAt? (place ++ [name])).isSome then .ok (place ++ [name])
      else .error .notFound := by
  simp only [List.mem_cons, List.not_mem_nil, or_false, not_or] at hname
  rw [followPart_eq, h]
  simp [hname, Nat.not_lt.mpr hlength]

/-- A path ends at a file or goes nowhere from there. -/
theorem foldlM_followPart_of_file {contents : ByteArray}
    (h : root.nodeAt? place = some (.file contents)) (parts : List String) :
    parts.foldlM root.followPart place = .ok place ∨
      parts.foldlM root.followPart place = .error .notADirectory := by
  cases parts with
  | nil => exact .inl rfl
  | cons part parts =>
    have hstep : root.followPart place part = .error .notADirectory := by
      rw [followPart_eq, h]
    right
    rw [List.foldlM_cons, hstep]
    rfl

/-- A step stays, goes up, or goes down to the entry that it names. -/
theorem of_followPart (h : root.followPart place part = .ok next) :
    next <+: place ∨ next = place ++ [part] := by
  rw [followPart_eq] at h
  split at h
  · cases h
  · cases h
  · split at h
    · cases h
      exact .inl (List.prefix_refl place)
    · split at h
      · cases h
        exact .inl (List.dropLast_prefix place)
      · split at h
        · cases h
        · split at h
          · cases h
            exact .inr rfl
          · cases h

theorem ne_of_not_below (h : ¬avoided <+: place) : avoided ≠ place :=
  fun heq => h (heq ▸ List.prefix_refl place)

/-- Only a step to a place leads to it or below it. -/
theorem not_prefix_of_followPart (h : root.followPart place part = .ok next)
    (hplace : ¬avoided <+: place) (hpart : avoided ≠ place ++ [part]) : ¬avoided <+: next := by
  intro hnext
  rcases of_followPart h with hup | hdown
  · exact hplace (hnext.trans hup)
  · rw [hdown, List.prefix_concat_iff] at hnext
    rcases hnext with heq | hprefix
    · exact hpart heq
    · exact hplace hprefix

section Differ

variable (hsame : ∀ other, other ≠ avoided → after.nodeAt? other = before.nodeAt? other)
include hsame

theorem followPart_congr (hplace : avoided ≠ place) (hpart : avoided ≠ place ++ [part]) :
    after.followPart place part = before.followPart place part := by
  rw [followPart_eq, followPart_eq, hsame place hplace.symm, hsame _ hpart.symm]

/-- The induction carries along that the place is not below the one that differs. -/
theorem foldlM_followPart_congr (hplace : ¬avoided <+: place)
    (hparts : avoided ∉ before.lookedUp place parts) :
    parts.foldlM after.followPart place = parts.foldlM before.followPart place ∧
      ∀ reached, parts.foldlM before.followPart place = .ok reached → avoided ≠ reached := by
  induction parts generalizing place with
  | nil =>
    refine ⟨rfl, fun reached hreached => ?_⟩
    cases hreached
    exact ne_of_not_below hplace
  | cons part parts ih =>
    rw [lookedUp, List.mem_cons, not_or] at hparts
    obtain ⟨hpart, hrest⟩ := hparts
    rw [List.foldlM_cons, List.foldlM_cons,
      followPart_congr hsame (ne_of_not_below hplace) hpart]
    cases hstep : before.followPart place part with
    | error cause => exact ⟨rfl, fun reached hreached => by cases hreached⟩
    | ok next =>
      rw [hstep] at hrest
      exact ih (not_prefix_of_followPart hstep hplace hpart) hrest

/-- Where nothing was and now a file is, a path that looks there found nothing. Now it ends there, or
it goes on as if the file were a directory. -/
theorem foldlM_followPart_of_mem {parent : List String} {name : String} {contents : ByteArray}
    (hname : name ∉ ["", ".", ".."]) (hlength : name.utf8ByteSize ≤ longestName)
    (havoided : avoided = parent ++ [name]) (hparent : before.nodeAt? parent = some .directory)
    (hbefore : before.nodeAt? avoided = none)
    (hafter : after.nodeAt? avoided = some (.file contents))
    (hplace : ¬avoided <+: place) (hparts : avoided ∈ before.lookedUp place parts) :
    parts.foldlM before.followPart place = .error .notFound ∧
      (parts.foldlM after.followPart place = .ok avoided ∨
        parts.foldlM after.followPart place = .error .notADirectory) := by
  induction parts generalizing place with
  | nil => cases hparts
  | cons part parts ih =>
    have hne := ne_of_not_below hplace
    rw [List.foldlM_cons, List.foldlM_cons]
    by_cases hpart : avoided = place ++ [part]
    · -- This is the step that looks up the entry.
      have hsplit : parent = place ∧ name = part := by
        have hconcat : parent ++ [name] = place ++ [part] := havoided.symm.trans hpart
        simpa using hconcat
      obtain ⟨rfl, rfl⟩ := hsplit
      have hdirectory : after.nodeAt? parent = some .directory :=
        (hsame parent hne.symm).trans hparent
      rw [followPart_name hparent hname hlength, followPart_name hdirectory hname hlength, ← hpart,
        hbefore, hafter]
      exact ⟨rfl, foldlM_followPart_of_file hafter parts⟩
    · rw [lookedUp, List.mem_cons, or_iff_right hpart] at hparts
      rw [followPart_congr hsame hne hpart]
      cases hstep : before.followPart place part with
      | error cause =>
        rw [hstep] at hparts
        cases hparts
      | ok next =>
        rw [hstep] at hparts
        exact ih (not_prefix_of_followPart hstep hplace hpart) hparts

end Differ

end Follow
end FileTree

/-! ## Whole paths -/

/-- The parts of a path that are followed one by one. A slash at the front only says where to
begin. -/
def pathSteps (path : String) : List String :=
  match pathParts path with
  | "" :: parts => parts
  | parts => parts

namespace Workspace

/-- Where a path begins: at the root if there is a slash at its front, and otherwise in the working
directory. -/
def start (workspace : Workspace) (path : String) : List String :=
  if (pathParts path).head? = some "" then [] else workspace.home

/-- The places at which an entry is looked up to follow a path. A path that is too long is not
followed at all. -/
def lookedUp (workspace : Workspace) (path : String) : List (List String) :=
  if longestPath < path.utf8ByteSize then []
  else workspace.root.lookedUp (workspace.start path) (pathSteps path)

/-- What there is to read at a place. -/
def contentsAt (workspace : Workspace) (place : List String) : Except AccessError ByteArray :=
  match workspace.nodeAt? place with
  | none => .error .notFound
  | some (.file contents) => .ok contents
  | some .directory => .error .isADirectory

theorem follow_eq (workspace : Workspace) (path : String) :
    workspace.follow path =
      if longestPath < path.utf8ByteSize then .error .nameTooLong
      else if pathParts path = [""] then .error .notFound
      else (pathSteps path).foldlM workspace.root.followPart (workspace.start path) := by
  rw [follow, pathSteps, start]
  by_cases hlong : longestPath < path.utf8ByteSize
  · rw [if_pos hlong, if_pos hlong]
  · rw [if_neg hlong, if_neg hlong]
    cases pathParts path with
    | nil => rfl
    | cons first parts =>
      by_cases hfirst : first = ""
      · subst hfirst
        cases parts <;> rfl
      · simp [hfirst]

theorem read_eq_bind (workspace : Workspace) (path : String) :
    workspace.read path = workspace.follow path >>= workspace.contentsAt := by
  rw [read, find]
  cases workspace.follow path with
  | error cause => rfl
  | ok place =>
    simp only [bind, Except.bind, contentsAt, nodeAt?, FileTree.nodeAt?]
    rcases workspace.root.at? place with _ | ⟨contents | entries⟩ <;> rfl

theorem not_configPlace_prefix_start (workspace : Workspace) (path : String) :
    ¬workspace.configPlace <+: workspace.start path := by
  intro hprefix
  have hlength := hprefix.length_le
  rw [configPlace, List.length_append, List.length_singleton, start] at hlength
  split at hlength
  · rw [List.length_nil] at hlength
    omega
  · omega

namespace SameButConfig

variable {before after : Workspace} {node : Option Node} {path : String}

theorem nodeAt?_eq (h : SameButConfig before after node) (place : List String)
    (hplace : place ≠ before.configPlace) : after.nodeAt? place = before.nodeAt? place := by
  rw [h.nodeAt?, if_neg hplace]

theorem start_eq (h : SameButConfig before after node) (path : String) :
    after.start path = before.start path := by
  rw [start, start, h.home]

/-- A path that does not look up the configuration file of the working directory reads the same,
whatever has become of that file. -/
theorem read_eq (h : SameButConfig before after node)
    (hpath : before.configPlace ∉ before.lookedUp path) : after.read path = before.read path := by
  rw [read_eq_bind, read_eq_bind, follow_eq, follow_eq, h.start_eq]
  by_cases hlong : longestPath < path.utf8ByteSize
  · rw [if_pos hlong, if_pos hlong]
    rfl
  · rw [if_neg hlong, if_neg hlong]
    by_cases hempty : pathParts path = [""]
    · rw [if_pos hempty, if_pos hempty]
      rfl
    · rw [lookedUp, if_neg hlong] at hpath
      obtain ⟨hfollow, hreached⟩ := FileTree.foldlM_followPart_congr h.nodeAt?_eq
        (before.not_configPlace_prefix_start path) hpath
      rw [if_neg hempty, if_neg hempty, hfollow]
      cases hend : (pathSteps path).foldlM before.root.followPart (before.start path) with
      | error cause => rfl
      | ok place =>
        show after.contentsAt place = before.contentsAt place
        rw [contentsAt, contentsAt, h.nodeAt?_eq place (hreached place hend).symm]

/-- A file that has come to the place of the configuration file shows to the paths that look there,
and to no other one. -/
theorem read_eq_iff {contents : ByteArray}
    (h : SameButConfig before after (some (.file contents)))
    (hhome : before.nodeAt? before.home = some .directory)
    (hnone : before.nodeAt? before.configPlace = none) (path : String) :
    after.read path = before.read path ↔ before.configPlace ∉ before.lookedUp path := by
  refine ⟨fun hread hmem => ?_, h.read_eq⟩
  have hafter : after.nodeAt? before.configPlace = some (.file contents) := by
    rw [h.nodeAt?, if_pos rfl]
  unfold lookedUp at hmem
  split at hmem
  · cases hmem
  · rename_i hshort
    have hplace : before.configPlace = before.home ++ [Config.fileName] := rfl
    obtain ⟨hbefore, hfollow⟩ := FileTree.foldlM_followPart_of_mem h.nodeAt?_eq (by decide)
      (by decide) hplace hhome hnone hafter (before.not_configPlace_prefix_start path) hmem
    have hempty : pathParts path ≠ [""] := by
      intro hparts
      rw [pathSteps, hparts] at hmem
      cases hmem
    rw [read_eq_bind, read_eq_bind, follow_eq, follow_eq, if_neg hshort, if_neg hshort,
      if_neg hempty, if_neg hempty, h.start_eq, hbefore] at hread
    rcases hfollow with hreached | hbelow
    · rw [hreached] at hread
      have hcontents : after.contentsAt before.configPlace = .ok contents := by
        rw [contentsAt, hafter]
      cases hcontents.symm.trans hread
    · rw [hbelow] at hread
      cases hread

end SameButConfig
end Workspace
end ScriptReview
