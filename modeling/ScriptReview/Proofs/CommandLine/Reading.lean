import ScriptReview.Proofs.CommandLine.Spelling

/-!
Reading settings one after the other.

What has been read of a command line amounts to the settings that have been spelled so far
(`Progress.Has`). The next setting is added to them, whichever way it is spelled and whatever comes
behind it, after the name of the command (`Progress.Has.readsTo_addAll`) and, if it may stand there,
before it (`Progress.Has.readsTo_readFrom`).
-/

namespace ScriptReview
namespace CommandLine

/-! ## What has been read -/

namespace Progress

/-- What has been read amounts to the given settings. The last of them may still be pending. -/
inductive Has : Progress → List Setting → Prop
  | settled {settings : Settings} {given : List Setting} (h : settings.Settles given) :
      Has ⟨settings, none⟩ given
  | pending {settings : Settings} {given : List Setting} {setting : Setting} {text : String}
      (h : settings.Settles given) (htext : setting.HasText (some text))
      (hnew : setting.IsNewTo given) :
      Has ⟨settings, some (setting.parameter, some text)⟩ (given ++ [setting])

theorem has_start : start.Has [] :=
  .settled Settings.settles_empty

variable {progress : Progress} {given : List Setting} {setting : Setting}

namespace Has

theorem exists_settle (h : progress.Has given) :
    ∃ settings, progress.settle = .ok settings ∧ settings.Settles given := by
  cases h with
  | settled h => exact ⟨_, rfl, h⟩
  | pending h htext hnew =>
    exact ⟨_, Settings.put_of_hasText htext (h.lacks hnew), h.assign hnew⟩

theorem awaitsValue_eq_false (h : progress.Has given) : progress.awaitsValue = false := by
  cases h <;> rfl

theorem hasPositional_eq_false (h : progress.Has given)
    (hnew : ∀ other ∈ given, other.parameter ≠ .file) : progress.hasPositional = false := by
  have hfile {settings : Settings} (h : settings.Lacks .file) : settings.file = none :=
    Option.eq_none_iff_forall_ne_some.mpr fun path hpath => h (.file path) hpath rfl
  cases h with
  | settled h => simp [Progress.hasPositional, hfile (h.lacks hnew)]
  | @pending settings given setting text h htext =>
    have hsetting : setting.parameter ≠ .file := hnew setting (by simp)
    have hgiven : ∀ other ∈ given, other.parameter ≠ .file := fun other hother =>
      hnew other (List.mem_append_left _ hother)
    simp [Progress.hasPositional, hfile (h.lacks hgiven), hsetting]

/-- A flag, or an option with its value attached. -/
theorem exists_add {text : Option String} (h : progress.Has given) (htext : setting.HasText text)
    (hnew : setting.IsNewTo given) :
    ∃ next, progress.add setting.parameter text = .ok next ∧ next.Has (given ++ [setting]) := by
  obtain ⟨settings, hsettle, hsettles⟩ := h.exists_settle
  refine ⟨⟨settings.assign setting, none⟩, ?_, .settled (hsettles.assign hnew)⟩
  have hvalue : (setting.parameter.takesValue && text.isNone) = false := by
    rw [htext.takesValue_eq_isSome]
    cases text <;> rfl
  have hput := Settings.put_of_hasText htext (hsettles.lacks hnew)
  rw [add, hsettle]
  show (if (setting.parameter.takesValue && text.isNone) = true then _
    else settings.put setting.parameter text >>= fun next => .ok (Progress.mk next none)) = _
  rw [hvalue, hput]
  rfl

theorem exists_add_none {text : String} (h : progress.Has given)
    (htext : setting.HasText (some text)) (hnew : setting.IsNewTo given) :
    ∃ waiting, progress.add setting.parameter none = .ok waiting ∧
      waiting.awaitsValue = true ∧ (waiting.supply text).Has (given ++ [setting]) := by
  obtain ⟨settings, hsettle, hsettles⟩ := h.exists_settle
  refine ⟨⟨settings, some (setting.parameter, none)⟩, ?_, rfl, .pending hsettles htext hnew⟩
  rw [add, hsettle]
  simp only [htext.takesValue_eq_isSome]
  rfl

theorem exists_addPositional {scope : Scope} {path : String} (h : progress.Has given)
    (hne : path ≠ "") (hnew : (Setting.file path).IsNewTo given)
    (hscope : scope.positional? = some .file) :
    ∃ next, progress.addPositional scope path = .ok next ∧ next.Has (given ++ [.file path]) := by
  obtain ⟨settings, hsettle, hsettles⟩ := h.exists_settle
  refine ⟨⟨settings, some (.file, some path)⟩, ?_, .pending hsettles (.file hne) hnew⟩
  rw [addPositional, hscope]
  simp only [h.hasPositional_eq_false hnew, hsettle]
  rfl

end Has
end Progress

/-- Behind the arguments, reading goes on with what amounts to the settings. -/
def ReadsTo {α : Type} (read : Progress → List String → Except UsageError α) (progress : Progress)
    (arguments : List String) (given : List Setting) : Prop :=
  ∃ next : Progress, next.Has given ∧ ∀ rest, read progress (arguments ++ rest) = read next rest

/-! ## Options by their names -/

/-- A way to read arguments that takes options by their names, and what follows an option that
awaits its value as that value. -/
structure ReadsOptions {α : Type} (read : Progress → List String → Except UsageError α)
    (scope : Scope) : Prop where
  long : ∀ {progress : Progress} {argument name : String} {value : Option String}
    {rest : List String}, progress.awaitsValue = false →
      Token.ofString argument = .long name value →
        read progress (argument :: rest) =
          progress.addLong scope name value >>= fun next => read next rest
  value : ∀ {progress : Progress} {text : String} {rest : List String},
    progress.awaitsValue = true → IsWord text →
      read progress (text :: rest) = read (progress.supply text) rest

theorem readsOptions_addAll (scope : Scope) :
    ReadsOptions (Progress.addAll · scope ·) scope where
  long hawaits htoken := by
    rw [Progress.addAll, htoken]
    rfl
  value hawaits hword := by
    rw [Progress.addAll, Token.ofString_word hword]
    simp only [Progress.addToken, hawaits]
    rfl

/-- Neither the name of a command nor the word for help is an option. -/
theorem ofCommandName?_of_long {argument name : String} {value : Option String}
    (h : Token.ofString argument = .long name value) :
    (argument == "help") = false ∧ Scope.ofCommandName? argument = none := by
  constructor
  · refine beq_false_of_ne ?_
    rintro rfl
    cases h
  · unfold Scope.ofCommandName?
    split
    case h_5 => rfl
    all_goals cases h

theorem readsOptions_readFrom : ReadsOptions readFrom .global where
  long hawaits htoken := by
    obtain ⟨hhelp, hname⟩ := ofCommandName?_of_long htoken
    rw [readFrom, hawaits, hhelp, hname, htoken]
    rfl
  value hawaits hword := by
    rw [readFrom, hawaits, Token.ofString_word hword]
    simp only [Progress.addToken, hawaits]
    rfl

section ReadsOptions

variable {α : Type} {read : Progress → List String → Except UsageError α} {scope : Scope}
  {progress : Progress} {given : List Setting} {setting : Setting} {name : String}

/-- A flag by its name, or an option with its value behind an equals sign. -/
theorem ReadsOptions.readsTo_attached {argument : String} {text : Option String}
    (hread : ReadsOptions read scope) (h : progress.Has given) (hnew : setting.IsNewTo given)
    (hscope : scope.long? name = some setting.parameter) (htext : setting.HasText text)
    (htoken : Token.ofString argument = .long name text) :
    ReadsTo read progress [argument] (given ++ [setting]) := by
  obtain ⟨next, hadd, hnext⟩ := h.exists_add htext hnew
  refine ⟨next, hnext, fun rest => ?_⟩
  have hvalue : (!setting.parameter.takesValue && text.isSome) = false := by
    rw [htext.takesValue_eq_isSome]
    cases text <;> rfl
  rw [List.singleton_append, hread.long h.awaitsValue_eq_false htoken, Progress.addLong, hscope]
  simp only [hvalue, hadd]
  rfl

/-- An option by its name, with its value as the next argument. -/
theorem ReadsOptions.readsTo_separate {argument text : String}
    (hread : ReadsOptions read scope) (h : progress.Has given) (hnew : setting.IsNewTo given)
    (hscope : scope.long? name = some setting.parameter) (htext : setting.HasText (some text))
    (htoken : Token.ofString argument = .long name none) (hword : IsWord text) :
    ReadsTo read progress [argument, text] (given ++ [setting]) := by
  obtain ⟨waiting, hadd, hwaits, hnext⟩ := h.exists_add_none htext hnew
  refine ⟨waiting.supply text, hnext, fun rest => ?_⟩
  show read progress (argument :: text :: rest) = _
  rw [hread.long h.awaitsValue_eq_false htoken, Progress.addLong, hscope]
  simp only [Option.isSome_none, Bool.and_false, hadd]
  exact hread.value hwaits hword

theorem ReadsOptions.readsTo {arguments : List String} (hread : ReadsOptions read scope)
    (h : progress.Has given) (hspelled : setting.SpelledByName arguments)
    (hnew : setting.IsNewTo given) (hallows : scope.Allows setting) :
    ReadsTo read progress arguments (given ++ [setting]) := by
  cases hspelled with
  | flag hname htext =>
    obtain ⟨hne, hequals⟩ := Setting.name?_ne_empty hname
    exact hread.readsTo_attached h hnew (hallows.long _ hname) htext
      (Token.ofString_long hne hequals)
  | separate hname htext hword =>
    obtain ⟨hne, hequals⟩ := Setting.name?_ne_empty hname
    exact hread.readsTo_separate h hnew (hallows.long _ hname) htext
      (Token.ofString_long hne hequals) hword
  | joined hname htext =>
    obtain ⟨-, hequals⟩ := Setting.name?_ne_empty hname
    exact hread.readsTo_attached h hnew (hallows.long _ hname) htext
      (Token.ofString_joined hequals)

end ReadsOptions

/-! ## All settings -/

namespace Progress.Has

variable {progress : Progress} {given : List Setting} {setting : Setting} {scope : Scope}
  {letter : Char} {argument text : String} {attached : List Char} {arguments : List String}

theorem addAll_letter (htext : setting.HasText (some text))
    (hscope : scope.short? letter = some setting.parameter)
    (htoken : Token.ofString argument = .letters (letter :: attached)) (rest : List String) :
    progress.addAll scope (argument :: rest) =
      progress.add setting.parameter (attachedValue attached) >>= fun next =>
        next.addAll scope rest := by
  rw [addAll, htoken]
  show (progress.addLetters scope (letter :: attached) >>= fun next => next.addAll scope rest) = _
  rw [addLetters, hscope]
  simp only [htext.takesValue_eq_isSome]
  rfl

/-- An option by its letter, with its value attached. -/
theorem readsTo_letter_attached (h : progress.Has given) (hnew : setting.IsNewTo given)
    (hscope : scope.short? letter = some setting.parameter) (htext : setting.HasText (some text))
    (htoken : Token.ofString argument = .letters (letter :: attached))
    (hattached : attachedValue attached = some text) :
    ReadsTo (addAll · scope ·) progress [argument] (given ++ [setting]) := by
  obtain ⟨next, hadd, hnext⟩ := h.exists_add htext hnew
  refine ⟨next, hnext, fun rest => ?_⟩
  show progress.addAll scope (argument :: rest) = _
  rw [addAll_letter htext hscope htoken, hattached, hadd]
  rfl

/-- An option by its letter, with its value as the next argument. -/
theorem readsTo_letter_separate (h : progress.Has given) (hnew : setting.IsNewTo given)
    (hscope : scope.short? letter = some setting.parameter) (htext : setting.HasText (some text))
    (htoken : Token.ofString argument = .letters [letter]) (hword : IsWord text) :
    ReadsTo (addAll · scope ·) progress [argument, text] (given ++ [setting]) := by
  obtain ⟨waiting, hadd, hwaits, hnext⟩ := h.exists_add_none htext hnew
  refine ⟨waiting.supply text, hnext, fun rest => ?_⟩
  show progress.addAll scope (argument :: text :: rest) = _
  rw [addAll_letter htext hscope htoken, attachedValue, hadd]
  exact (readsOptions_addAll scope).value hwaits hword

theorem readsTo_letter (h : progress.Has given) (hspelled : setting.SpelledByLetter arguments)
    (hnew : setting.IsNewTo given) (hallows : scope.Allows setting) :
    ReadsTo (addAll · scope ·) progress arguments (given ++ [setting]) := by
  cases hspelled with
  | separate hletter htext hword =>
    exact h.readsTo_letter_separate hnew (hallows.short _ hletter) htext
      (Token.ofString_letter (Setting.letter?_ne_hyphen hletter)) hword
  | attached hletter htext =>
    exact h.readsTo_letter_attached hnew (hallows.short _ hletter) htext
      (Token.ofString_letter_attached (Setting.letter?_ne_hyphen hletter))
      (htext.attachedValue_toList hletter)
  | joined hletter htext =>
    exact h.readsTo_letter_attached hnew (hallows.short _ hletter) htext
      (Token.ofString_letter_joined (Setting.letter?_ne_hyphen hletter))
      (congrArg some String.ofList_toList)

theorem readsTo_word (h : progress.Has given) (hne : text ≠ "") (hword : IsWord text)
    (hnew : (Setting.file text).IsNewTo given) (hscope : scope.positional? = some .file) :
    ReadsTo (addAll · scope ·) progress [text] (given ++ [.file text]) := by
  obtain ⟨next, hadd, hnext⟩ := h.exists_addPositional hne hnew hscope
  refine ⟨next, hnext, fun rest => ?_⟩
  show progress.addAll scope (text :: rest) = _
  rw [addAll, Token.ofString_word hword]
  simp only [addToken, h.awaitsValue_eq_false, hadd]
  rfl

theorem readsTo_addAll (h : progress.Has given) (hspelled : setting.Spelled arguments)
    (hnew : setting.IsNewTo given) (hallows : scope.Allows setting) :
    ReadsTo (addAll · scope ·) progress arguments (given ++ [setting]) := by
  cases hspelled with
  | name hspelled => exact (readsOptions_addAll scope).readsTo h hspelled hnew hallows
  | letter hspelled => exact h.readsTo_letter hspelled hnew hallows
  | word hne hword => exact h.readsTo_word hne hword hnew (hallows.positional rfl)

/-- A setting before the name of the command. None of those has a letter. -/
theorem readsTo_readFrom (h : progress.Has given) (hspelled : setting.Spelled arguments)
    (hnew : setting.IsNewTo given) (hglobal : setting.isGlobal = true) :
    ReadsTo readFrom progress arguments (given ++ [setting]) := by
  cases hspelled with
  | name hspelled =>
    exact readsOptions_readFrom.readsTo h hspelled hnew (Scope.global.allows_of_isGlobal hglobal)
  | letter hspelled =>
    have hletter : setting.letter? = none := by
      cases setting with
      | format => cases hglobal
      | _ => rfl
    cases hspelled with
    | separate h | attached h | joined h => cases hletter.symm.trans h
  | word => cases hglobal

end Progress.Has
end CommandLine
end ScriptReview
