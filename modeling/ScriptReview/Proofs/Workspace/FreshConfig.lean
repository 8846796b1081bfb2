import ScriptReview.Proofs.CommandLine.Configuration
import ScriptReview.Proofs.Config.Template
import ScriptReview.Proofs.Workspace.Paths

/-!
Runs before and after a configuration file is created.

A fresh configuration file says what holds where there is none, and so a command that takes its
configuration from the working directory works with the same settings before and after it is created
(`loadConfig_none_eq_default`). Of the other files that a command reads, none has changed, unless it
is looked for through the place of the new one. Hence all that such a command shows is the same
(`run_after_init`), and it stays the same through any number of runs (`run_after_runAll`).
-/

namespace ScriptReview

theorem decodeText_toUTF8 (text : String) : decodeText text.toUTF8 = .ok text := by
  have hread : String.fromUTF8? text.toUTF8 = some text := dif_pos text.isValidUTF8
  rw [decodeText, hread]

namespace CommandLine

/-- A review or a list without a configuration of its own. To find the file to be reviewed, if there
is one, nothing has to be known about the configuration file of the working directory. -/
inductive Invocation.UsesDefault (workspace : Workspace) : Invocation → Prop
  | analyze {arguments : AnalyzeArguments} {color : Option ColorChoice}
      (hfile : ∀ path ∈ arguments.file, workspace.configPlace ∉ workspace.lookedUp path) :
      UsesDefault workspace ⟨.analyze arguments, color, none⟩
  | list {format : Option OutputFormat} {color : Option ColorChoice} :
      UsesDefault workspace ⟨.list format, color, none⟩

/-- The command line asks for such a command, if it can be understood at all. -/
def Request.UsesDefault (workspace : Workspace) (request : Request) : Prop :=
  ∀ invocation, CommandLine.parse request.arguments = .ok invocation →
    invocation.UsesDefault workspace

/-! ## What a command depends on -/

section Congr

variable {access other : Access} {configPath : Option String}

theorem read_source_congr {arguments : AnalyzeArguments}
    (hfile : ∀ path ∈ arguments.file, other.read path = access.read path) (input : ByteArray) :
    arguments.source.read other input = arguments.source.read access input := by
  unfold AnalyzeArguments.source
  split
  · rfl
  · split
    · rfl
    · rename_i path hpath
      split
      · rfl
      · rw [Source.read, Source.read, hfile path hpath]

theorem analyze_congr {arguments : AnalyzeArguments}
    (hconfig : loadConfig other configPath = loadConfig access configPath)
    (hfile : ∀ path ∈ arguments.file, other.read path = access.read path) (input : ByteArray)
    (environment : Environment) (color : Option ColorChoice) :
    analyze other input environment arguments color configPath =
      analyze access input environment arguments color configPath := by
  rw [analyze, analyze, hconfig, read_source_congr hfile]

theorem listRules_congr (hconfig : loadConfig other configPath = loadConfig access configPath)
    (format : Option OutputFormat) :
    listRules other format configPath = listRules access format configPath := by
  rw [listRules, listRules, hconfig]

end Congr
end CommandLine

namespace Workspace

open CommandLine

variable {workspace before after : Workspace} {node : Option Node}

/-! ## The configuration in the working directory -/

theorem read_fileName (hhome : workspace.nodeAt? workspace.home = some .directory) :
    workspace.read Config.fileName = workspace.contentsAt workspace.configPlace := by
  rw [read, find_fileName hhome, contentsAt, nodeAt?, FileTree.nodeAt?]
  rcases workspace.root.at? workspace.configPlace with _ | ⟨contents | entries⟩ <;> rfl

theorem loadConfig_of_file_none (hhome : workspace.nodeAt? workspace.home = some .directory)
    {text : String} (hnode : workspace.nodeAt? workspace.configPlace = some (.file text.toUTF8)) :
    loadConfig workspace.access none = (Config.parse text).mapError .config := by
  have hfile : configFile? workspace.access none = some Config.fileName := by
    rw [configFile?, kind?_fileName hhome, hnode]
    rfl
  have hread : workspace.access.read Config.fileName = .ok text.toUTF8 := by
    show workspace.read Config.fileName = .ok text.toUTF8
    rw [read_fileName hhome, contentsAt, hnode]
  have htext : workspace.access.text? Config.fileName = some text := by
    rw [Access.text?, hread]
    simp only [Except.bind, decodeText_toUTF8, Except.toOption]
  rw [loadConfig_of_file hfile, readConfig_of_text htext]

/-- There is no configuration file, or it is as it has been created. -/
def IsFresh (node : Option Node) : Prop :=
  node = none ∨ node = some (.file Config.template.toUTF8)

theorem loadConfig_none_eq_default (hhome : workspace.nodeAt? workspace.home = some .directory)
    (hfresh : IsFresh (workspace.nodeAt? workspace.configPlace)) :
    loadConfig workspace.access none = .ok Config.default := by
  rcases hfresh with hnone | htemplate
  · apply loadConfig_of_absent
    rw [configFile?, kind?_fileName hhome, hnone]
    rfl
  · rw [loadConfig_of_file_none hhome htemplate, Config.parse_template]
    rfl

/-! ## Runs -/

/-- A command does the same in two workspaces that have a fresh configuration file or none. -/
theorem perform_eq (h : SameButConfig before after node)
    (hhome : before.nodeAt? before.home = some .directory)
    (hbefore : IsFresh (before.nodeAt? before.configPlace)) (hafter : IsFresh node)
    {invocation : Invocation} (hinvocation : invocation.UsesDefault before) (input : ByteArray)
    (environment : Environment) :
    perform after.access input environment invocation =
      perform before.access input environment invocation := by
  have hconfig : loadConfig after.access none = loadConfig before.access none := by
    rw [loadConfig_none_eq_default hhome hbefore,
      loadConfig_none_eq_default (h.nodeAt?_home.trans hhome) (h.nodeAt?_configPlace ▸ hafter)]
  rw [perform, perform]
  cases hinvocation with
  | @analyze arguments color hfile =>
    have hread : ∀ path ∈ arguments.file, after.access.read path = before.access.read path :=
      fun path hpath => h.read_eq (hfile path hpath)
    dsimp only
    rw [analyze_congr hconfig hread]
  | list =>
    dsimp only
    rw [listRules_congr hconfig]

theorem run_snd_eq (h : SameButConfig before after node)
    (hhome : before.nodeAt? before.home = some .directory)
    (hbefore : IsFresh (before.nodeAt? before.configPlace)) (hafter : IsFresh node)
    {request : Request} (hrequest : request.UsesDefault before) :
    (after.run request).2 = (before.run request).2 := by
  unfold run
  cases hparse : CommandLine.parse request.arguments with
  | error error => rfl
  | ok invocation =>
    have hperform := perform_eq h hhome hbefore hafter (hrequest invocation hparse)
    dsimp only
    rw [hperform]

theorem isFresh_foldl_leaves (requests : List Request) :
    IsFresh (requests.foldl Request.leaves none) := by
  rw [Request.foldl_leaves_none]
  split
  · exact .inr rfl
  · exact .inl rfl

/-- Where no configuration file was, a command that would have used it does not notice what the
program has been run for in the meantime. -/
theorem run_after_runAll (hhome : workspace.nodeAt? workspace.home = some .directory)
    (hnone : workspace.nodeAt? workspace.configPlace = none) (requests : List Request)
    {request : Request} (hrequest : request.UsesDefault workspace) :
    ((workspace.runAll requests).run request).2 = (workspace.run request).2 := by
  have hruns := sameButConfig_runAll hhome requests
  rw [hnone] at hruns
  exact run_snd_eq hruns hhome (.inl hnone) (isFresh_foldl_leaves requests) hrequest

/-- If there is no configuration file in the working directory, asking for one creates it, and
reviews and lists that would use it have the same outcome before and after. -/
theorem run_after_init (workspace : Workspace)
    (hhome : workspace.nodeAt? workspace.home = some .directory)
    (hnone : workspace.nodeAt? workspace.configPlace = none) {init : Request} {force : Bool}
    (hinit : init.initForce? = some force) {request : Request}
    (hrequest : request.UsesDefault workspace) :
    (workspace.run init).1.nodeAt? workspace.configPlace =
        some (.file Config.template.toUTF8) ∧
      ((workspace.run init).1.run request).2 = (workspace.run request).2 := by
  have hrun := sameButConfig_run hhome init
  rw [hnone, Request.leaves_of_some hinit, afterInit] at hrun
  constructor
  · rw [hrun.nodeAt?, if_pos rfl]
  · exact run_after_runAll hhome hnone [init] hrequest

/-- A file of the same name in another directory is reviewed, by a path that goes up and down again.
The line in it is flagged before and after. -/
theorem run_after_init_namesake :
    let workspace : Workspace :=
      ⟨.directory [("work", .directory [("lib", .directory
        [("jsreview.toml", .file "var total = 0;\n".toUTF8)])])], ["work"]⟩
    let init : Request := ⟨["init"], .empty, ⟨none, none⟩⟩
    let review : Request := ⟨["analyze", "lib/../lib/jsreview.toml"], .empty, ⟨none, none⟩⟩
    workspace.nodeAt? workspace.home = some .directory ∧
      workspace.nodeAt? workspace.configPlace = none ∧
      init.initForce? = some false ∧
      review.UsesDefault workspace ∧
      (workspace.run init).1.nodeAt? ["work", "jsreview.toml"] =
        some (.file Config.template.toUTF8) ∧
      ((workspace.run init).1.run review).2 = (workspace.run review).2 ∧
      (workspace.run review).2.toOption.map (·.exitCode) = some 1 := by
  intro workspace init review
  have hhome : workspace.nodeAt? workspace.home = some .directory := rfl
  have hnone : workspace.nodeAt? workspace.configPlace = none := rfl
  have hinit : init.initForce? = some false := by decide
  have hreview : review.UsesDefault workspace := by
    intro invocation hinvocation
    have hparse : CommandLine.parse review.arguments = .ok
        ⟨.analyze ⟨some "lib/../lib/jsreview.toml", false, none, none, none, none⟩, none, none⟩ := by
      decide
    obtain rfl := Except.ok.inj (hparse.symm.trans hinvocation)
    exact .analyze (by decide)
  obtain ⟨hcreated, hsame⟩ := run_after_init workspace hhome hnone hinit hreview
  exact ⟨hhome, hnone, hinit, hreview, hcreated, hsame, by decide +kernel⟩

end Workspace
end ScriptReview
