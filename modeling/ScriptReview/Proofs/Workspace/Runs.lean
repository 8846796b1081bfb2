import ScriptReview.CommandLine.Run
import ScriptReview.Proofs.Workspace.FileTree

/-!
What runs of the program do to the files of a workspace.

A run changes at most one place, that of the configuration file in the working directory. What it
leaves there depends only on what stood there before and on whether a new configuration file is
asked for (`Request.leaves`). So the place of the configuration file goes its own way through a
sequence of runs, and all other places keep what they hold (`Workspace.sameButConfig_runAll`).
Where that way leads is said in `Workspace.runAll_keeps_files`.
-/

namespace ScriptReview

def Node.kind : Node → CommandLine.EntryKind
  | file _ => .file
  | directory => .directory

namespace CommandLine

/-- What a request for a new configuration file makes of what stands at its place. -/
def afterInit (force : Bool) : Option Node → Option Node
  | none => some (.file Config.template.toUTF8)
  | some (.file contents) => some (.file (if force then Config.template.toUTF8 else contents))
  | some .directory => some .directory

namespace Request

/-- Is a new configuration file asked for, and if so, may it replace another one? -/
def initForce? (request : Request) : Option Bool :=
  match CommandLine.parse request.arguments with
  | .ok invocation =>
    match invocation.command with
    | .init force => some force
    | _ => none
  | .error _ => none

theorem exists_of_initForce? {request : Request} {force : Bool}
    (h : request.initForce? = some force) :
    ∃ invocation, CommandLine.parse request.arguments = .ok invocation ∧
      invocation.command = .init force := by
  unfold initForce? at h
  split at h
  · rename_i invocation hparse
    split at h
    · rename_i hcommand
      cases h
      exact ⟨invocation, hparse, hcommand⟩
    · cases h
  · cases h

/-- What a run leaves at the place of the configuration file. -/
def leaves (before : Option Node) (request : Request) : Option Node :=
  match request.initForce? with
  | some force => afterInit force before
  | none => before

theorem leaves_of_some {request : Request} {force : Bool} (h : request.initForce? = some force)
    (before : Option Node) : leaves before request = afterInit force before := by
  rw [leaves, h]

theorem leaves_of_none {request : Request} (h : request.initForce? = none)
    (before : Option Node) : leaves before request = before := by
  rw [leaves, h]

theorem leaves_directory (request : Request) :
    leaves (some .directory) request = some .directory := by
  cases hforce : request.initForce? with
  | none => exact leaves_of_none hforce _
  | some force => exact leaves_of_some hforce _

/-! ### Several requests -/

theorem foldl_leaves_directory (requests : List Request) :
    requests.foldl leaves (some .directory) = some .directory := by
  induction requests with
  | nil => rfl
  | cons request requests ih => rw [List.foldl_cons, leaves_directory, ih]

/-- A file keeps its contents until it may be replaced. -/
theorem foldl_leaves_file (requests : List Request) (contents : ByteArray) :
    requests.foldl leaves (some (.file contents)) =
      some (.file (if ∃ request ∈ requests, request.initForce? = some true then
        Config.template.toUTF8 else contents)) := by
  induction requests generalizing contents with
  | nil => simp
  | cons request requests ih =>
    rw [List.foldl_cons]
    rcases hforce : request.initForce? with _ | _ | _
    · rw [leaves_of_none hforce, ih]
      simp [hforce]
    · rw [leaves_of_some hforce, afterInit, ih]
      simp [hforce]
    · rw [leaves_of_some hforce, afterInit, ih]
      simp [hforce]

/-- Nothing is there until a file is asked for. -/
theorem foldl_leaves_none (requests : List Request) :
    requests.foldl leaves none =
      if ∃ request ∈ requests, request.initForce?.isSome then
        some (.file Config.template.toUTF8)
      else none := by
  induction requests with
  | nil => simp
  | cons request requests ih =>
    rw [List.foldl_cons]
    cases hforce : request.initForce? with
    | none =>
      rw [leaves_of_none hforce, ih]
      simp [hforce]
    | some force =>
      -- From here on there is a file, and replacing it with the template changes nothing.
      rw [leaves_of_some hforce, afterInit, foldl_leaves_file, ite_self]
      simp [hforce]

theorem foldl_leaves_eq_directory_iff (requests : List Request) (before : Option Node) :
    requests.foldl leaves before = some .directory ↔ before = some .directory := by
  rcases before with _ | ⟨contents | _⟩
  · rw [foldl_leaves_none]
    split <;> simp
  · rw [foldl_leaves_file]
    simp
  · rw [foldl_leaves_directory]

end Request
end CommandLine

namespace Workspace

open CommandLine

variable {workspace : Workspace}

def nodeAt? (workspace : Workspace) (place : List String) : Option Node :=
  workspace.root.nodeAt? place

/-- The place of the configuration file in the working directory. -/
def configPlace (workspace : Workspace) : List String :=
  workspace.home ++ [Config.fileName]

theorem home_ne_configPlace (workspace : Workspace) : workspace.home ≠ workspace.configPlace :=
  fun h => List.cons_ne_nil _ _ (List.append_right_eq_self.mp h.symm)

/-- One workspace has all that the other one has, but this at the place of the configuration
file. -/
structure SameButConfig (before after : Workspace) (node : Option Node) : Prop where
  home : after.home = before.home
  nodeAt? : ∀ place, after.nodeAt? place =
    if place = before.configPlace then node else before.nodeAt? place

namespace SameButConfig

variable {before after later : Workspace} {node next : Option Node}

theorem unchanged (h : before.nodeAt? before.configPlace = node) :
    SameButConfig before before node := by
  refine ⟨rfl, fun place => ?_⟩
  by_cases hplace : place = before.configPlace
  · rw [if_pos hplace, hplace, h]
  · rw [if_neg hplace]

theorem configPlace_eq (h : SameButConfig before after node) :
    after.configPlace = before.configPlace := by
  rw [configPlace, h.home, configPlace]

theorem nodeAt?_configPlace (h : SameButConfig before after node) :
    after.nodeAt? after.configPlace = node := by
  rw [h.configPlace_eq, h.nodeAt?, if_pos rfl]

theorem nodeAt?_home (h : SameButConfig before after node) :
    after.nodeAt? after.home = before.nodeAt? before.home := by
  rw [h.home, h.nodeAt?, if_neg before.home_ne_configPlace]

theorem trans (h : SameButConfig before after node) (hlater : SameButConfig after later next) :
    SameButConfig before later next := by
  refine ⟨hlater.home.trans h.home, fun place => ?_⟩
  rw [hlater.nodeAt?, h.configPlace_eq, h.nodeAt?]
  by_cases hplace : place = before.configPlace
  · rw [if_pos hplace, if_pos hplace]
  · rw [if_neg hplace, if_neg hplace, if_neg hplace]

end SameButConfig

/-! ## One run -/

/-- A run that is asked for a new configuration file. -/
theorem run_of_init {request : Request} {force : Bool} (h : request.initForce? = some force) :
    workspace.run request =
      (if (writeTemplate workspace.access force).writesConfig then
        workspace.write Config.fileName Config.template.toUTF8
      else workspace,
        .ok (writeTemplate workspace.access force).outcome) := by
  obtain ⟨invocation, hparse, hcommand⟩ := Request.exists_of_initForce? h
  simp only [run, hparse, perform, hcommand]

/-- Whatever else a run is asked for, and if it cannot be understood, it leaves the files alone. -/
theorem run_fst_of_not_init {request : Request} (h : request.initForce? = none) :
    (workspace.run request).1 = workspace := by
  unfold run
  cases hparse : CommandLine.parse request.arguments with
  | error error => rfl
  | ok invocation =>
    cases hcommand : invocation.command with
    | init force => simp [Request.initForce?, hparse, hcommand] at h
    | _ => simp [perform, hcommand]

theorem runAll_cons (workspace : Workspace) (request : Request) (requests : List Request) :
    workspace.runAll (request :: requests) = (workspace.run request).1.runAll requests :=
  rfl

section Home

variable (hhome : workspace.nodeAt? workspace.home = some .directory)

include hhome

theorem find_fileName :
    workspace.find Config.fileName =
      match workspace.root.at? workspace.configPlace with
      | some tree => .ok tree
      | none => .error .notFound := by
  obtain ⟨entries, hentries⟩ := FileTree.nodeAt?_eq_directory_iff.mp hhome
  have hplace : workspace.root.at? workspace.configPlace = entries.lookup Config.fileName := by
    rw [configPlace, FileTree.at?_append, hentries, Option.bind_some, FileTree.at?,
      FileTree.child?]
    cases entries.lookup Config.fileName <;> rfl
  have hfollow : workspace.follow Config.fileName =
      if (entries.lookup Config.fileName).isSome then .ok workspace.configPlace
      else .error .notFound := by
    have hparts : pathParts Config.fileName = [Config.fileName] := by decide
    rw [follow, if_neg (by decide), hparts]
    show (workspace.root.followPart workspace.home Config.fileName >>= pure) = _
    rw [bind_pure, FileTree.followPart, hentries]
    rfl
  rw [find, hfollow, hplace]
  cases hlookup : entries.lookup Config.fileName with
  | none => rfl
  | some tree =>
    show (match workspace.root.at? workspace.configPlace with
      | some found => Except.ok found
      | none => .error AccessError.notFound) = .ok tree
    rw [hplace, hlookup]

theorem kind?_fileName :
    workspace.access.kind? Config.fileName =
      (workspace.nodeAt? workspace.configPlace).map Node.kind := by
  simp only [access, find_fileName hhome, nodeAt?, FileTree.nodeAt?]
  rcases workspace.root.at? workspace.configPlace with _ | ⟨contents | entries⟩ <;> rfl

theorem sameButConfig_write (hleaf : workspace.nodeAt? workspace.configPlace ≠ some .directory)
    (contents : ByteArray) :
    SameButConfig workspace (workspace.write Config.fileName contents)
      (some (.file contents)) :=
  ⟨rfl, FileTree.nodeAt?_insert_file hhome hleaf⟩

/-- Whether the file is written depends on what is in its place. -/
theorem writesConfig_writeTemplate (force : Bool) :
    (writeTemplate workspace.access force).writesConfig =
      match workspace.nodeAt? workspace.configPlace with
      | none => true
      | some (.file _) => force
      | some .directory => false := by
  rw [writeTemplate, kind?_fileName hhome]
  rcases workspace.nodeAt? workspace.configPlace with _ | ⟨contents | _⟩
  · rfl
  · cases force <;> rfl
  · rfl

theorem exitCode_writeTemplate (force : Bool) :
    (workspace.nodeAt? workspace.configPlace = some .directory →
      (writeTemplate workspace.access force).outcome.exitCode = 2) ∧
    (workspace.nodeAt? workspace.configPlace ≠ some .directory →
      (writeTemplate workspace.access force).outcome.exitCode = 0) := by
  rw [writeTemplate, kind?_fileName hhome]
  rcases workspace.nodeAt? workspace.configPlace with _ | ⟨contents | _⟩
  · exact ⟨nofun, fun _ => rfl⟩
  · exact ⟨nofun, fun _ => by cases force <;> rfl⟩
  · exact ⟨fun _ => rfl, fun h => absurd rfl h⟩

/-- What one run does to the files. -/
theorem sameButConfig_run (request : Request) :
    SameButConfig workspace (workspace.run request).1
      (Request.leaves (workspace.nodeAt? workspace.configPlace) request) := by
  cases hforce : request.initForce? with
  | none =>
    rw [run_fst_of_not_init hforce, Request.leaves_of_none hforce]
    exact .unchanged rfl
  | some force =>
    rw [run_of_init hforce, writesConfig_writeTemplate hhome, Request.leaves_of_some hforce]
    rcases hnode : workspace.nodeAt? workspace.configPlace with _ | ⟨contents | _⟩
    · exact sameButConfig_write hhome (by simp [hnode]) _
    · cases force with
      | false => exact .unchanged hnode
      | true => exact sameButConfig_write hhome (by simp [hnode]) _
    · exact .unchanged hnode

/-- Where a directory is in the place of the file, a run leaves everything as it is. -/
theorem run_fst_of_directory (hnode : workspace.nodeAt? workspace.configPlace = some .directory)
    (request : Request) : (workspace.run request).1 = workspace := by
  cases hforce : request.initForce? with
  | none => exact run_fst_of_not_init hforce
  | some force =>
    rw [run_of_init hforce, writesConfig_writeTemplate hhome, hnode]
    rfl

/-! ## Several runs -/

theorem sameButConfig_runAll (requests : List Request) :
    SameButConfig workspace (workspace.runAll requests)
      (requests.foldl Request.leaves (workspace.nodeAt? workspace.configPlace)) := by
  induction requests generalizing workspace with
  | nil => exact .unchanged rfl
  | cons request requests ih =>
    have hrun := sameButConfig_run hhome request
    have hrest := ih (hrun.nodeAt?_home.trans hhome)
    rw [hrun.nodeAt?_configPlace] at hrest
    exact hrun.trans hrest

theorem runAll_of_directory
    (hnode : workspace.nodeAt? workspace.configPlace = some .directory)
    (requests : List Request) : workspace.runAll requests = workspace := by
  induction requests with
  | nil => rfl
  | cons request requests ih => rw [runAll_cons, run_fst_of_directory hhome hnode, ih]

end Home

/-- Runs of the program keep all files but the configuration file of the working directory, whatever
they are asked for. If that is a file, it keeps its contents until it may be replaced, and is the
template from then on. If nothing is there, nothing is until a new file is asked for, and then it is
the template. If it is a directory, nothing changes at all, and to ask for a new file is an error;
otherwise that always succeeds. -/
theorem runAll_keeps_files (workspace : Workspace)
    (hhome : workspace.nodeAt? workspace.home = some .directory) (requests : List Request) :
    (workspace.runAll requests).home = workspace.home ∧
      (∀ place, place ≠ workspace.configPlace →
        (workspace.runAll requests).nodeAt? place = workspace.nodeAt? place) ∧
      (∀ contents, workspace.nodeAt? workspace.configPlace = some (.file contents) →
        (workspace.runAll requests).nodeAt? workspace.configPlace =
          some (.file (if ∃ request ∈ requests, request.initForce? = some true then
            Config.template.toUTF8 else contents))) ∧
      (workspace.nodeAt? workspace.configPlace = none →
        (workspace.runAll requests).nodeAt? workspace.configPlace =
          if ∃ request ∈ requests, request.initForce?.isSome then
            some (.file Config.template.toUTF8)
          else none) ∧
      (workspace.nodeAt? workspace.configPlace = some .directory →
        workspace.runAll requests = workspace) ∧
      ∀ request force, request.initForce? = some force →
        ∃ outcome, ((workspace.runAll requests).run request).2 = .ok outcome ∧
          (workspace.nodeAt? workspace.configPlace = some .directory → outcome.exitCode = 2) ∧
          (workspace.nodeAt? workspace.configPlace ≠ some .directory →
            outcome.exitCode = 0) := by
  have hsame := sameButConfig_runAll hhome requests
  have hconfig := hsame.nodeAt?_configPlace
  rw [hsame.configPlace_eq] at hconfig
  refine ⟨hsame.home, fun place hne => ?_, fun contents hnode => ?_, fun hnode => ?_,
    fun hnode => runAll_of_directory hhome hnode requests, fun request force hforce => ?_⟩
  · rw [hsame.nodeAt?, if_neg hne]
  · rw [hconfig, hnode, Request.foldl_leaves_file]
  · rw [hconfig, hnode, Request.foldl_leaves_none]
  · obtain ⟨hfails, hsucceeds⟩ := exitCode_writeTemplate (hsame.nodeAt?_home.trans hhome) force
    have hdirectory := Request.foldl_leaves_eq_directory_iff requests
      (workspace.nodeAt? workspace.configPlace)
    rw [hsame.configPlace_eq, hconfig] at hfails hsucceeds
    exact ⟨_, by rw [run_of_init hforce], fun h => hfails (hdirectory.mpr h),
      fun h => hsucceeds (mt hdirectory.mp h)⟩

/-- A file that says something else is kept by `init` and a list, and replaced by `init --force`. -/
theorem runAll_keeps_files_forced :
    let workspace : Workspace :=
      ⟨.directory [("app.js", .file .empty), ("jsreview.toml", .file .empty)], []⟩
    let request (arguments : List String) : Request := ⟨arguments, .empty, ⟨none, none⟩⟩
    (workspace.runAll [request ["init"], request ["list"]]).nodeAt? ["jsreview.toml"] =
        some (.file .empty) ∧
      (workspace.runAll [request ["init"], request ["init", "--force"]]).nodeAt?
          ["jsreview.toml"] = some (.file Config.template.toUTF8) ∧
      (workspace.runAll [request ["init"], request ["init", "--force"]]).nodeAt? ["app.js"] =
        some (.file .empty) := by
  intro workspace request
  obtain ⟨-, -, hkept, -⟩ := runAll_keeps_files workspace rfl [request ["init"], request ["list"]]
  obtain ⟨-, hother, hforced, -⟩ :=
    runAll_keeps_files workspace rfl [request ["init"], request ["init", "--force"]]
  refine ⟨(hkept .empty rfl).trans ?_, (hforced .empty rfl).trans ?_, hother ["app.js"] (by decide)⟩
  · rw [if_neg (by decide)]
  · rw [if_pos (by decide)]

end Workspace
end ScriptReview
