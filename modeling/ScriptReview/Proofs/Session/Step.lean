import ScriptReview.Session

/-!
What one action does to a session.

`act_fst` says what an action can change: the code, the view and the theme as the action alone
decides, and besides these only whether an analysis is under way and the report. `Produces` singles
out the actions that end with a report; all others answer without one.
-/

namespace ScriptReview
namespace Session

namespace Action

/-- The code that the action puts in the place of the old. -/
def newCode? : Action → Option String
  | .setCode code => some code
  | .loadSample => some sampleProgram
  | .clear => some ""
  | _ => none

/-- The view that the action turns to. -/
def newView? : Action → Option View
  | .setView view => some view
  | _ => none

def togglesTheme : Action → Bool
  | .toggleTheme => true
  | _ => false

/-- Does the action concern nothing but the looks of the session? -/
def isDisplay : Action → Bool
  | .setView _ => true
  | .toggleTheme => true
  | _ => false

end Action

theorem isCodeBlank_eq_false_iff {session : Session} :
    session.isCodeBlank = false ↔ Text.trim session.code.toList ≠ [] :=
  List.isEmpty_eq_false_iff

/-! ## The steps of an analysis -/

theorem begin_of_blank {session : Session} (h : session.isCodeBlank = true) :
    session.begin = (session, false) := by
  rw [Session.begin, if_pos h]

theorem begin_of_not_blank {session : Session} (h : session.isCodeBlank = false) :
    session.begin = ({ session with analyzing := true }, true) := by
  rw [Session.begin, if_neg (Bool.eq_false_iff.mp h)]

theorem finish_of_idle {session : Session} (h : session.analyzing = false) :
    session.finish = (session, none) := by
  rw [finish, if_neg (Bool.eq_false_iff.mp h)]

theorem analyze_of_blank {session : Session} (h : session.isCodeBlank = true) :
    session.analyze = (session, none) := by
  rw [analyze, begin_of_blank h]

/-- The session once its code is scanned. -/
def scanned (session : Session) : Session :=
  { session with
    analyzing := false
    report := some (session.registry.scan session.code) }

theorem finish_of_analyzing {session : Session} (h : session.analyzing = true) :
    session.finish = (session.scanned, some (session.registry.scan session.code)) := by
  rw [finish, if_pos h]
  rfl

/-- What was under way before does not matter: the analysis that is begun takes its place. -/
theorem analyze_of_not_blank {session : Session} (h : session.isCodeBlank = false) :
    session.analyze = (session.scanned, some (session.registry.scan session.code)) := by
  rw [analyze, begin_of_not_blank h]
  exact finish_of_analyzing rfl

/-! ## Reports -/

/-- The action, taken now, ends with a report. -/
def Produces (session : Session) : Action → Prop
  | .finish => session.analyzing = true
  | .analyze => session.isCodeBlank = false
  | _ => False

theorem act_of_produces {session : Session} {action : Action} (h : session.Produces action) :
    session.act action =
      (session.scanned, .report (some (session.registry.scan session.code))) := by
  cases action with
  | finish => rw [act, finish_of_analyzing h]
  | analyze => rw [act, analyze_of_not_blank h]
  | setCode _ | loadSample | clear | setView _ | toggleTheme | begin | copyExample _ => cases h

/-- Only the actions that end with a report answer with one, and what they answer is the scan of
the code that the session holds. -/
theorem reply_eq_report_iff {session : Session} {action : Action} {report : Report} :
    (session.act action).2 = .report (some report) ↔
      session.Produces action ∧ report = session.registry.scan session.code := by
  constructor
  · intro h
    have hproduces : session.Produces action := by
      cases action with
      | finish =>
        cases hanalyzing : session.analyzing with
        | true => exact hanalyzing
        | false => rw [act, finish_of_idle hanalyzing] at h; cases h
      | analyze =>
        cases hblank : session.isCodeBlank with
        | true => rw [act, analyze_of_blank hblank] at h; cases h
        | false => exact hblank
      | setCode _ | loadSample | clear | setView _ | toggleTheme | begin | copyExample _ => cases h
    rw [act_of_produces hproduces] at h
    cases h
    exact ⟨hproduces, rfl⟩
  · rintro ⟨hproduces, rfl⟩
    rw [act_of_produces hproduces]

theorem copyExample_eq {session : Session} {report : Report} (h : session.report = some report)
    (index : Nat) :
    session.copyExample index = report.suggestions[index]?.map (·.exampleCode) := by
  rw [copyExample, h]
  rfl

/-! ## The parts of the state -/

/-- All that an action can change. -/
theorem act_fst (session : Session) (action : Action) :
    ∃ analyzing report, (session.act action).1 =
      { session with
        code := action.newCode?.getD session.code
        view := action.newView?.getD session.view
        theme := if action.togglesTheme then session.theme.toggled else session.theme
        analyzing
        report } := by
  cases action with
  | begin =>
    cases hblank : session.isCodeBlank with
    | true => exact ⟨_, _, congrArg Prod.fst (begin_of_blank hblank)⟩
    | false => exact ⟨_, _, congrArg Prod.fst (begin_of_not_blank hblank)⟩
  | finish =>
    cases hanalyzing : session.analyzing with
    | true => exact ⟨_, _, congrArg Prod.fst (finish_of_analyzing hanalyzing)⟩
    | false => exact ⟨_, _, congrArg Prod.fst (finish_of_idle hanalyzing)⟩
  | analyze =>
    cases hblank : session.isCodeBlank with
    | true => exact ⟨_, _, congrArg Prod.fst (analyze_of_blank hblank)⟩
    | false => exact ⟨_, _, congrArg Prod.fst (analyze_of_not_blank hblank)⟩
  | setCode _ | loadSample | clear | setView _ | toggleTheme | copyExample _ => exact ⟨_, _, rfl⟩

theorem registry_act (session : Session) (action : Action) :
    (session.act action).1.registry = session.registry := by
  obtain ⟨analyzing, report, h⟩ := session.act_fst action
  rw [h]

theorem code_act (session : Session) (action : Action) :
    (session.act action).1.code = action.newCode?.getD session.code := by
  obtain ⟨analyzing, report, h⟩ := session.act_fst action
  rw [h]

theorem view_act (session : Session) (action : Action) :
    (session.act action).1.view = action.newView?.getD session.view := by
  obtain ⟨analyzing, report, h⟩ := session.act_fst action
  rw [h]

theorem theme_act (session : Session) (action : Action) :
    (session.act action).1.theme =
      if action.togglesTheme then session.theme.toggled else session.theme := by
  obtain ⟨analyzing, report, h⟩ := session.act_fst action
  rw [h]

/-- The report changes when a new one is produced and when the session is cleared. -/
theorem report_act_of_not_produces {session : Session} {action : Action}
    (h : ¬session.Produces action) (hclear : action ≠ .clear) :
    (session.act action).1.report = session.report := by
  cases action with
  | begin =>
    cases hblank : session.isCodeBlank with
    | true => rw [act, begin_of_blank hblank]
    | false => rw [act, begin_of_not_blank hblank]
  | finish => rw [act, finish_of_idle (Bool.eq_false_iff.mpr h)]
  | analyze => rw [act, analyze_of_blank (Bool.of_not_eq_false h)]
  | clear => exact absurd rfl hclear
  | setCode _ | loadSample | setView _ | toggleTheme | copyExample _ => rfl

/-- The action, taken now, calls for the end of the analysis under way. -/
def CallsFinish (session : Session) : Action → Prop
  | .finish => True
  | .analyze => session.isCodeBlank = false
  | _ => False

theorem analyzing_act_iff (session : Session) (action : Action) :
    (session.act action).1.analyzing = true ↔
      (action = .begin ∧ session.isCodeBlank = false) ∨
        (session.analyzing = true ∧ ¬session.CallsFinish action) := by
  cases action with
  | begin =>
    cases hblank : session.isCodeBlank with
    | true => simp [act, begin_of_blank hblank, CallsFinish]
    | false => simp [act, begin_of_not_blank hblank]
  | finish =>
    cases hanalyzing : session.analyzing with
    | true => simp [act, finish_of_analyzing hanalyzing, scanned, CallsFinish]
    | false => simp [act, finish_of_idle hanalyzing, hanalyzing]
  | analyze =>
    cases hblank : session.isCodeBlank with
    | true => simp [act, analyze_of_blank hblank, CallsFinish, hblank]
    | false => simp [act, analyze_of_not_blank hblank, scanned, CallsFinish, hblank]
  | setCode _ | loadSample | clear | setView _ | toggleTheme | copyExample _ =>
    simp [act, CallsFinish, setCode, loadSample, clear, setView, toggleTheme]

/-! ## The looks of a session -/

/-- The session with other looks. -/
def shown (session : Session) (view : View) (theme : Theme) : Session :=
  { session with view, theme }

theorem act_fst_of_display {session : Session} {action : Action} (h : action.isDisplay = true)
    (view : View) (theme : Theme) :
    (session.act action).1.shown view theme = session.shown view theme := by
  cases action with
  | setView _ | toggleTheme => rfl
  | setCode _ | loadSample | clear | begin | finish | analyze | copyExample _ => cases h

theorem begin_shown (session : Session) (view : View) (theme : Theme) :
    (session.shown view theme).begin = (session.begin.1.shown view theme, session.begin.2) := by
  have hshown : (session.shown view theme).isCodeBlank = session.isCodeBlank := rfl
  cases hblank : session.isCodeBlank with
  | true => rw [begin_of_blank hblank, begin_of_blank (hshown.trans hblank)]
  | false =>
    rw [begin_of_not_blank hblank, begin_of_not_blank (hshown.trans hblank)]
    rfl

theorem finish_shown (session : Session) (view : View) (theme : Theme) :
    (session.shown view theme).finish = (session.finish.1.shown view theme, session.finish.2) := by
  have hshown : (session.shown view theme).analyzing = session.analyzing := rfl
  cases hanalyzing : session.analyzing with
  | true =>
    rw [finish_of_analyzing hanalyzing, finish_of_analyzing (hshown.trans hanalyzing)]
    rfl
  | false => rw [finish_of_idle hanalyzing, finish_of_idle (hshown.trans hanalyzing)]

theorem analyze_shown (session : Session) (view : View) (theme : Theme) :
    (session.shown view theme).analyze =
      (session.analyze.1.shown view theme, session.analyze.2) := by
  have hshown : (session.shown view theme).isCodeBlank = session.isCodeBlank := rfl
  cases hblank : session.isCodeBlank with
  | true => rw [analyze_of_blank hblank, analyze_of_blank (hshown.trans hblank)]
  | false =>
    rw [analyze_of_not_blank hblank, analyze_of_not_blank (hshown.trans hblank)]
    rfl

/-- The looks pass through all other actions and do not show in what they do or answer. -/
theorem act_shown {session : Session} {action : Action} (h : action.isDisplay = false)
    (view : View) (theme : Theme) :
    (session.shown view theme).act action =
      ((session.act action).1.shown view theme, (session.act action).2) := by
  cases action with
  | begin => rw [act, act, begin_shown]
  | finish => rw [act, act, finish_shown]
  | analyze => rw [act, act, analyze_shown]
  | setCode _ | loadSample | clear | copyExample _ => rfl
  | setView _ | toggleTheme => cases h

theorem reply_shown (session : Session) (action : Action) (view : View) (theme : Theme) :
    ((session.shown view theme).act action).2 = (session.act action).2 := by
  cases h : action.isDisplay with
  | false => rw [act_shown h]
  | true =>
    cases action with
    | setView _ | toggleTheme => rfl
    | setCode _ | loadSample | clear | begin | finish | analyze | copyExample _ => cases h

end Session
end ScriptReview
