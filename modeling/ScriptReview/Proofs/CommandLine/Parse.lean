import ScriptReview.Proofs.CommandLine.Reading
import ScriptReview.Proofs.Schema

/-!
A command line is understood as the invocation that it spells.

The options before the name of a command and what stands behind it are read apart
(`exists_parse_eq_invocation`, `Tail.Fits.exists_readCommand`), and their settings put together are
those of the invocation (`Spelling.parse_arguments`). A file and the sample never go together
(`Spelling.parse_argumentsWithSample`, `not_combinesSources_of_parse`).
-/

namespace ScriptReview
namespace CommandLine

/-! ## Several pieces -/

theorem Setting.isNewTo_of_nodup {given more : List Setting} {setting : Setting}
    (h : ((given ++ setting :: more).map Setting.parameter).Nodup) : setting.IsNewTo given := by
  rw [List.map_append, List.map_cons, List.nodup_append] at h
  exact fun other hother =>
    h.2.2 _ (List.mem_map_of_mem hother) _ List.mem_cons_self

theorem readsTo_all {α : Type} {read : Progress → List String → Except UsageError α}
    {Fits : Setting → Prop}
    (hstep : ∀ {progress : Progress} {given : List Setting} {setting : Setting}
      {arguments : List String}, progress.Has given → setting.Spelled arguments →
        setting.IsNewTo given → Fits setting →
          ReadsTo read progress arguments (given ++ [setting]))
    {pieces : List Piece} (hfits : ∀ piece ∈ pieces, Fits piece.setting) {progress : Progress}
    {given : List Setting} (h : progress.Has given)
    (hdistinct : ((given ++ pieces.map Piece.setting).map Setting.parameter).Nodup) :
    ReadsTo read progress (Piece.all pieces) (given ++ pieces.map Piece.setting) := by
  -- What has been read is different for each piece, but no parameter comes again.
  induction pieces generalizing progress given with
  | nil => exact ⟨progress, by simpa using h, fun rest => rfl⟩
  | cons piece pieces ih =>
    rw [List.map_cons] at hdistinct ⊢
    obtain ⟨next, hnext, hread⟩ := hstep h piece.spelled (Setting.isNewTo_of_nodup hdistinct)
      (hfits piece List.mem_cons_self)
    rw [List.append_cons] at hdistinct ⊢
    obtain ⟨last, hlast, hreads⟩ := ih (fun other hother =>
      hfits other (List.mem_cons_of_mem piece hother)) hnext hdistinct
    refine ⟨last, hlast, fun rest => ?_⟩
    rw [Piece.all, List.flatMap_cons, List.append_assoc, hread]
    exact hreads rest

theorem exists_parse_eq_invocation (command : Command) {before : List Piece}
    (hglobal : ∀ piece ∈ before, piece.setting.isGlobal = true)
    (hdistinct : ((before.map Piece.setting).map Setting.parameter).Nodup) :
    ∃ outer : Settings, outer.Settles (before.map Piece.setting) ∧
      ∃ progress : Progress, progress.settle = .ok outer ∧
        ∀ rest, parse (Piece.all before ++ command.name :: rest) =
          CommandLine.invocation progress command.scope rest := by
  obtain ⟨progress, hprogress, hread⟩ :=
    readsTo_all Progress.Has.readsTo_readFrom hglobal Progress.has_start hdistinct
  obtain ⟨outer, hsettle, hsettles⟩ := hprogress.exists_settle
  refine ⟨outer, hsettles, progress, hsettle, fun rest => ?_⟩
  rw [parse, hread, readFrom, hprogress.awaitsValue_eq_false, command.name_ne_help,
    command.ofCommandName?_name]
  rfl

/-- What stands behind the name of a command can be spelled there. -/
structure Tail.Fits (tail : Tail) (scope : Scope) : Prop where
  allows : ∀ piece ∈ tail.pieces, scope.Allows piece.setting
  positional : ∀ path ∈ tail.last, path ≠ "" ∧ scope.positional? = some .file
  nodup : (tail.settings.map Setting.parameter).Nodup

theorem Tail.Fits.exists_addAll {tail : Tail} {scope : Scope} (h : tail.Fits scope) :
    ∃ progress : Progress, Progress.start.addAll scope tail.arguments = .ok progress ∧
      progress.Has tail.settings := by
  have hdistinct := h.nodup
  rw [Tail.settings] at hdistinct ⊢
  have hpieces : (([] ++ tail.pieces.map Piece.setting).map Setting.parameter).Nodup := by
    rw [List.map_append] at hdistinct
    exact (List.nodup_append.mp hdistinct).1
  obtain ⟨progress, hprogress, hread⟩ :=
    readsTo_all Progress.Has.readsTo_addAll h.allows Progress.has_start hpieces
  have hrest (rest : List String) : Progress.start.addAll scope (Piece.all tail.pieces ++ rest) =
      progress.addAll scope rest := hread rest
  rw [Tail.arguments, hrest]
  cases hlast : tail.last with
  | none => exact ⟨progress, rfl, by simpa using hprogress⟩
  | some path =>
    obtain ⟨hne, hfile⟩ := h.positional path hlast
    rw [hlast] at hdistinct
    obtain ⟨next, hadd, hnext⟩ := hprogress.exists_addPositional hne
      (Setting.isNewTo_of_nodup hdistinct) hfile
    refine ⟨next, ?_, hnext⟩
    show (progress.addPositional scope path >>= Except.ok) = _
    rw [hadd]
    rfl

/-- The arguments of a command are understood, up to the question whether they go together. -/
theorem Tail.Fits.exists_readCommand {tail : Tail} {scope : Scope} (h : tail.Fits scope) :
    ∃ inner : Settings, inner.Settles tail.settings ∧
      readCommand scope tail.arguments =
        if inner.file.isSome && inner.sample then .error .conflict else .ok inner := by
  obtain ⟨progress, hadd, hprogress⟩ := h.exists_addAll
  obtain ⟨inner, hsettle, hsettles⟩ := hprogress.exists_settle
  refine ⟨inner, hsettles, ?_⟩
  rw [readCommand, hadd]
  show (progress.settle >>= fun settings =>
    if settings.file.isSome && settings.sample then throw .conflict else pure settings) = _
  rw [hsettle]
  rfl

/-! ## Settings before and after the command -/

namespace Settings

/-- The settings of a command, with those before it where the command has none of its own. -/
def withOuter (inner outer : Settings) : Settings :=
  { inner with color := inner.color <|> outer.color, config := inner.config <|> outer.config }

theorem holds_withOuter_iff {inner outer : Settings}
    (hglobal : ∀ setting, outer.Holds setting → setting.isGlobal = true)
    (hapart : ∀ first second, inner.Holds first → outer.Holds second →
      first.parameter ≠ second.parameter) (setting : Setting) :
    (inner.withOuter outer).Holds setting ↔ inner.Holds setting ∨ outer.Holds setting := by
  cases setting with
  | color choice =>
    show (inner.color <|> outer.color) = some choice ↔
      inner.color = some choice ∨ outer.color = some choice
    cases hcolor : inner.color with
    | none => simp
    | some own =>
      refine (or_iff_left fun h => ?_).symm
      exact hapart (.color own) (.color choice) hcolor h rfl
  | config path =>
    show (inner.config <|> outer.config) = some path ↔
      inner.config = some path ∨ outer.config = some path
    cases hconfig : inner.config with
    | none => simp
    | some own =>
      refine (or_iff_left fun h => ?_).symm
      exact hapart (.config own) (.config path) hconfig h rfl
  | _ => exact (or_iff_left fun h => by cases hglobal _ h).symm

theorem command?_withOuter (scope : Scope) (inner outer : Settings) :
    scope.command? (inner.withOuter outer) = scope.command? inner := by
  cases scope <;> rfl

end Settings

theorem invocation_eq_ok {progress : Progress} {scope : Scope} {arguments : List String}
    {inner outer : Settings} {command : Command} (hread : readCommand scope arguments = .ok inner)
    (hsettle : progress.settle = .ok outer) (hcommand : scope.command? inner = some command) :
    CommandLine.invocation progress scope arguments =
      .ok ⟨command, (inner.withOuter outer).color, (inner.withOuter outer).config⟩ := by
  refine bind_eq_ok_iff.mpr ⟨inner, hread, bind_eq_ok_iff.mpr ⟨outer, hsettle, ?_⟩⟩
  rw [hcommand]
  rfl

namespace Invocation

variable {invocation : Invocation}

theorem command?_settings (invocation : Invocation) :
    invocation.command.scope.command? invocation.settings = some invocation.command := by
  obtain ⟨command, color, config⟩ := invocation
  cases command <;> rfl

theorem combinesSources_iff :
    invocation.CombinesSources ↔
      (invocation.settings.file.isSome && invocation.settings.sample) = true := by
  rw [CombinesSources, Bool.and_eq_true]
  cases hcommand : invocation.command <;>
    simp [settings, Command.settings, hcommand, Settings.empty]

theorem allows_of_holds {setting : Setting} (h : invocation.settings.Holds setting) :
    invocation.command.scope.Allows setting := by
  cases setting with
  | color choice | config path => exact invocation.command.scope.allows_of_isGlobal rfl
  | _ => exact Command.allows_of_holds h

end Invocation

namespace Spelling

variable {invocation : Invocation}

theorem mem_iff_holds (spelling : Spelling invocation) (setting : Setting) :
    setting ∈ spelling.before.map Piece.setting ∨ setting ∈ spelling.after.settings ↔
      invocation.settings.Holds setting := by
  rw [← Settings.mem_given_iff, ← spelling.perm.mem_iff, List.mem_append]

theorem nodup (spelling : Spelling invocation) :
    ((spelling.before.map Piece.setting).map Setting.parameter).Nodup ∧
      (spelling.after.settings.map Setting.parameter).Nodup ∧
      ∀ first ∈ spelling.before.map Piece.setting, ∀ second ∈ spelling.after.settings,
        first.parameter ≠ second.parameter := by
  have hnodup := invocation.settings.nodup_map_parameter_given
  rw [← (spelling.perm.map Setting.parameter).nodup_iff, List.map_append, List.nodup_append]
    at hnodup
  exact ⟨hnodup.1, hnodup.2.1, fun first hfirst second hsecond =>
    hnodup.2.2 _ (List.mem_map_of_mem hfirst) _ (List.mem_map_of_mem hsecond)⟩

theorem isGlobal_of_mem (spelling : Spelling invocation) {setting : Setting}
    (h : setting ∈ spelling.before.map Piece.setting) : setting.isGlobal = true := by
  obtain ⟨piece, hpiece, rfl⟩ := List.mem_map.mp h
  exact spelling.isGlobal piece hpiece

/-- What only the command has to do with is spelled behind its name. -/
theorem mem_after_of_holds (spelling : Spelling invocation) {setting : Setting}
    (h : invocation.settings.Holds setting) (hglobal : setting.isGlobal = false) :
    setting ∈ spelling.after.settings := by
  refine ((spelling.mem_iff_holds setting).mpr h).resolve_left fun hbefore => ?_
  rw [spelling.isGlobal_of_mem hbefore] at hglobal
  cases hglobal

theorem fits_after (spelling : Spelling invocation) :
    spelling.after.Fits invocation.command.scope := by
  have hallows {setting : Setting} (h : setting ∈ spelling.after.settings) :=
    Invocation.allows_of_holds ((spelling.mem_iff_holds setting).mp (Or.inr h))
  refine ⟨fun piece hpiece => hallows (List.mem_append_left _ (List.mem_map_of_mem hpiece)),
    fun path hpath => ⟨spelling.ne_empty path hpath, ?_⟩, spelling.nodup.2.1⟩
  have hlast : Setting.file path ∈ spelling.after.settings := by
    rw [Tail.settings, Option.mem_def.mp hpath]
    exact List.mem_append_right _ List.mem_cons_self
  exact (hallows hlast).positional rfl

theorem parse_arguments (spelling : Spelling invocation) (h : ¬invocation.CombinesSources) :
    parse spelling.arguments = .ok invocation := by
  obtain ⟨hbefore, -, hapart⟩ := spelling.nodup
  obtain ⟨outer, houter, progress, hsettle, hparse⟩ :=
    exists_parse_eq_invocation invocation.command spelling.isGlobal hbefore
  obtain ⟨inner, hinner, hread⟩ := spelling.fits_after.exists_readCommand
  have hsettings : inner.withOuter outer = invocation.settings := by
    refine Settings.ext_holds fun setting => ?_
    rw [Settings.holds_withOuter_iff, hinner setting, houter setting, or_comm,
      spelling.mem_iff_holds setting]
    · exact fun setting hsetting => spelling.isGlobal_of_mem ((houter setting).mp hsetting)
    · exact fun first second hfirst hsecond =>
        (hapart second ((houter second).mp hsecond) first ((hinner first).mp hfirst)).symm
  have hcommand : invocation.command.scope.command? inner = some invocation.command := by
    rw [← Settings.command?_withOuter _ inner outer, hsettings, invocation.command?_settings]
  have hsources : ¬(inner.file.isSome && inner.sample) = true := fun hboth =>
    h (Invocation.combinesSources_iff.mpr (hsettings ▸ hboth))
  rw [if_neg hsources] at hread
  rw [arguments, hparse, invocation_eq_ok hread hsettle hcommand, hsettings]
  rfl

/-! ### The flag for the sample, where there is a file -/

theorem fits_insert_sampleFlag (spelling : Spelling invocation) {arguments : AnalyzeArguments}
    (hcommand : invocation.command = .analyze arguments)
    (hsample : ¬invocation.settings.Holds .sample) (count : Nat) :
    (spelling.after.insert .sampleFlag count).Fits invocation.command.scope := by
  refine ⟨fun piece hpiece => ?_, spelling.fits_after.positional, ?_⟩
  · rw [Tail.insert, List.mem_append, List.mem_cons] at hpiece
    rcases hpiece with hpiece | rfl | hpiece
    · exact spelling.fits_after.allows piece (List.mem_of_mem_take hpiece)
    · rw [hcommand]
      exact ⟨fun _ h => by cases h; rfl, fun _ h => (by cases h), fun h => (by cases h)⟩
    · exact spelling.fits_after.allows piece (List.mem_of_mem_drop hpiece)
  · rw [((spelling.after.perm_settings_insert .sampleFlag count).map Setting.parameter).nodup_iff,
      List.map_cons, List.nodup_cons]
    refine ⟨fun hmem => ?_, spelling.nodup.2.1⟩
    -- Only the flag itself is about the sample, and it is not set.
    obtain ⟨setting, hsetting, hparameter⟩ := List.mem_map.mp hmem
    have hholds := (spelling.mem_iff_holds setting).mp (Or.inr hsetting)
    cases setting with
    | sample => exact hsample hholds
    | _ => cases hparameter

/-- The flag for the sample excludes a file, wherever it stands. -/
theorem parse_argumentsWithSample (spelling : Spelling invocation) {arguments : AnalyzeArguments}
    (hcommand : invocation.command = .analyze arguments) (hfile : arguments.file.isSome = true)
    (hsample : arguments.sample = false) (count : Nat) :
    parse (spelling.argumentsWithSample count) = .error .conflict := by
  obtain ⟨path, hpath⟩ := Option.isSome_iff_exists.mp hfile
  have hholds : invocation.settings.Holds (.file path) ∧ ¬invocation.settings.Holds .sample := by
    rw [Invocation.settings, hcommand]
    exact ⟨hpath, fun h => Bool.false_ne_true (hsample.symm.trans h)⟩
  obtain ⟨outer, -, progress, -, hparse⟩ :=
    exists_parse_eq_invocation invocation.command spelling.isGlobal spelling.nodup.1
  obtain ⟨inner, hinner, hread⟩ :=
    (spelling.fits_insert_sampleFlag hcommand hholds.2 count).exists_readCommand
  have hmem (setting : Setting) :
      inner.Holds setting ↔ setting ∈ .sample :: spelling.after.settings :=
    (hinner setting).trans (spelling.after.perm_settings_insert .sampleFlag count).mem_iff
  have hboth : (inner.file.isSome && inner.sample) = true := by
    have hfile : inner.file = some path := (hmem (.file path)).mpr
      (List.mem_cons_of_mem _ (spelling.mem_after_of_holds hholds.1 rfl))
    have hsample : inner.sample = true := (hmem .sample).mpr List.mem_cons_self
    rw [hfile, hsample]
    rfl
  rw [if_pos hboth] at hread
  rw [argumentsWithSample, hparse, CommandLine.invocation, hread]
  rfl

end Spelling

/-- Whatever can be asked for, some command line asks for it. -/
theorem exists_parse_eq_ok {invocation : Invocation}
    (htext : ∀ setting, invocation.settings.Holds setting → ∃ text, setting.HasText text)
    (h : ¬invocation.CombinesSources) : ∃ arguments, parse arguments = .ok invocation := by
  obtain ⟨spelling⟩ := exists_spelling htext
  exact ⟨spelling.arguments, spelling.parse_arguments h⟩

/-! ## What is never understood -/

/-- The settings of a command do not combine a file with the sample. -/
theorem not_combines_of_readCommand {scope : Scope} {arguments : List String} {inner : Settings}
    (h : readCommand scope arguments = .ok inner) :
    ¬(inner.file.isSome && inner.sample) = true := by
  unfold readCommand at h
  obtain ⟨progress, -, h⟩ := bind_eq_ok_iff.mp h
  obtain ⟨settings, -, h⟩ := bind_eq_ok_iff.mp h
  intro hboth
  split at h
  · cases h
  · cases h
    contradiction

theorem not_combinesSources_of_invocation {progress : Progress} {scope : Scope}
    {arguments : List String} {result : Invocation}
    (h : CommandLine.invocation progress scope arguments = .ok result) :
    ¬result.CombinesSources := by
  unfold CommandLine.invocation at h
  obtain ⟨inner, hinner, h⟩ := bind_eq_ok_iff.mp h
  obtain ⟨outer, -, h⟩ := bind_eq_ok_iff.mp h
  rintro ⟨reviewed, hcommand, hfile, hsample⟩
  refine not_combines_of_readCommand hinner ?_
  cases scope with
  | analyze =>
    cases h
    cases hcommand
    rw [Bool.and_eq_true]
    exact ⟨hfile, hsample⟩
  | _ => cases h <;> cases hcommand

theorem withoutCommand_ne_ok (progress : Progress) (result : Invocation) :
    withoutCommand progress ≠ .ok result := by
  intro h
  obtain ⟨settings, -, h⟩ := bind_eq_ok_iff.mp h
  split at h <;> cases h

theorem afterSeparator_ne_ok (progress : Progress) (arguments : List String)
    (result : Invocation) : afterSeparator progress arguments ≠ .ok result := by
  cases arguments with
  | nil => exact withoutCommand_ne_ok progress result
  | cons text rest =>
    rw [afterSeparator]
    split <;> exact nofun

theorem exists_invocation_of_readFrom {progress : Progress} {arguments : List String}
    {result : Invocation} (h : readFrom progress arguments = .ok result) :
    ∃ outer scope rest, CommandLine.invocation outer scope rest = .ok result := by
  -- Along the options before the command only what has been read changes.
  induction arguments generalizing progress with
  | nil => exact absurd h (withoutCommand_ne_ok progress result)
  | cons argument rest ih =>
    rw [readFrom] at h
    split at h
    · split at h
      · exact absurd h (afterSeparator_ne_ok progress rest result)
      · obtain ⟨next, -, hnext⟩ := bind_eq_ok_iff.mp h
        exact ih hnext
    · split at h
      · cases h
      · split at h
        · exact ⟨progress, _, rest, h⟩
        · split at h
          · exact absurd h (afterSeparator_ne_ok progress rest result)
          · cases h
          · obtain ⟨next, -, hnext⟩ := bind_eq_ok_iff.mp h
            exact ih hnext

/-- No command line at all is understood as a request to review a file and the sample. -/
theorem not_combinesSources_of_parse {arguments : List String} {result : Invocation}
    (h : parse arguments = .ok result) : ¬result.CombinesSources := by
  obtain ⟨outer, scope, rest, hinvocation⟩ := exists_invocation_of_readFrom h
  exact not_combinesSources_of_invocation hinvocation

/-- Every command line that spells an invocation is understood as just that, unless a file is to be
reviewed and the sample too. To add the flag for the sample where there is a file is a conflict,
wherever it is put, and no command line at all is understood as a request for both. -/
theorem parse_spelling :
    (∀ (invocation : Invocation) (spelling : Spelling invocation), ¬invocation.CombinesSources →
      parse spelling.arguments = .ok invocation) ∧
    (∀ (invocation : Invocation) (spelling : Spelling invocation) (arguments : AnalyzeArguments)
      (count : Nat), invocation.command = .analyze arguments → arguments.file.isSome = true →
        arguments.sample = false →
          parse (spelling.argumentsWithSample count) = .error .conflict) ∧
    ∀ (arguments : List String) (invocation : Invocation),
      parse arguments = .ok invocation → ¬invocation.CombinesSources :=
  ⟨fun _ spelling h => spelling.parse_arguments h,
    fun _ spelling _ count hcommand hfile hsample =>
      spelling.parse_argumentsWithSample hcommand hfile hsample count,
    fun _ _ h => not_combinesSources_of_parse h⟩

/-- A color before the command, a format by its letter, a delay with a zero in front, and a file
that looks like an option. -/
theorem parse_spelling_last :
    parse ["--color", "never", "analyze", "-fjsonl", "--delay-ms=05", "--", "-app.js"] =
        .ok ⟨.analyze ⟨some "-app.js", false, some .jsonl, none, some 5, none⟩, some .never,
          none⟩ ∧
      parse ["--color", "never", "analyze", "-fjsonl", "--sample", "--delay-ms=05", "--",
        "-app.js"] = .error .conflict := by
  let reviewed : AnalyzeArguments := ⟨some "-app.js", false, some .jsonl, none, some 5, none⟩
  let spelling : Spelling ⟨.analyze reviewed, some .never, none⟩ :=
    { before := [⟨_, _, .name (.separate rfl (.color .never) (Or.inl (by decide)))⟩]
      after := ⟨[⟨_, _, .letter (.attached rfl (.format .jsonl))⟩,
        ⟨.delay 5, ["--" ++ "delay-ms" ++ "=" ++ "05"],
          .name (.joined rfl
            (.delay ⟨by decide, List.all_eq_true.mp (by decide), by decide, by decide⟩))⟩],
        some "-app.js"⟩
      isGlobal := by simp [Setting.isGlobal]
      ne_empty := by simp
      perm := by decide }
  have hsources : ¬Invocation.CombinesSources ⟨.analyze reviewed, some .never, none⟩ := by
    rintro ⟨_, hcommand, -, hsample⟩
    cases hcommand
    cases hsample
  exact ⟨parse_spelling.1 _ spelling hsources, parse_spelling.2.1 _ spelling reviewed 1 rfl rfl rfl⟩

end CommandLine
end ScriptReview
