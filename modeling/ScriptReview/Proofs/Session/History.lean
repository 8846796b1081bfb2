import Mathlib.Data.List.Basic
import Mathlib.Data.List.Induction
import ScriptReview.Proofs.Session.Step

/-!
Sessions and their histories.

A history is the list of the actions that a new session has been through. What the session holds and
what it will answer next is read off the history alone (`actAll_follows`): which code was given
last, whether an analysis was begun that has not been completed, and which code was held when the
last one was completed. The notions are said by looking back over the history and not by running a session.
-/

namespace ScriptReview
namespace Session

/-! ## Looking back -/

/-- The first property held of some action of the history, given what came before it, and the second
of no action since. -/
def HasSince (start stop : List Action → Action → Prop) (history : List Action) : Prop :=
  ∃ before action after, history = before ++ action :: after ∧ start before action ∧
    ∀ earlier next later, after = earlier ++ next :: later →
      ¬stop (before ++ action :: earlier) next

theorem not_hasSince_nil {start stop : List Action → Action → Prop} :
    ¬HasSince start stop [] := by
  rintro ⟨before, action, after, h, -⟩
  exact List.append_ne_nil_of_right_ne_nil before (List.cons_ne_nil action after) h.symm

/-- Where a list with one more element can be split: at that element, or where the list can. -/
theorem concat_eq_append_cons {α : Type} {list before after : List α} {last middle : α}
    (h : list ++ [last] = before ++ middle :: after) :
    (list = before ∧ last = middle ∧ after = []) ∨
      ∃ rest, after = rest ++ [last] ∧ list = before ++ middle :: rest := by
  rcases List.eq_nil_or_concat' after with rfl | ⟨rest, other, rfl⟩
  · obtain ⟨hlist, hlast⟩ := List.append_inj' h rfl
    exact Or.inl ⟨hlist, List.head_eq_of_cons_eq hlast, rfl⟩
  · rw [← List.cons_append, ← List.append_assoc] at h
    obtain ⟨hlist, hlast⟩ := List.append_inj' h rfl
    exact Or.inr ⟨rest, by rw [hlast], hlist⟩

/-- What one more action does to a look back. -/
theorem hasSince_concat {start stop : List Action → Action → Prop} {history : List Action}
    {action : Action} :
    HasSince start stop (history ++ [action]) ↔
      start history action ∨ (HasSince start stop history ∧ ¬stop history action) := by
  constructor
  · -- The new action is the one looked for, or it is the last of those since.
    rintro ⟨before, first, after, h, hstart, hstop⟩
    rcases concat_eq_append_cons h with ⟨rfl, rfl, rfl⟩ | ⟨rest, rfl, rfl⟩
    · exact Or.inl hstart
    · refine Or.inr ⟨⟨before, first, rest, rfl, hstart, fun earlier next later he => ?_⟩,
        hstop rest action [] rfl⟩
      refine hstop earlier next (later ++ [action]) ?_
      rw [he, List.append_assoc, List.cons_append]
  · rintro (hstart | ⟨⟨before, first, after, rfl, hstart, hstop⟩, hnot⟩)
    · refine ⟨history, action, [], rfl, hstart, fun earlier next later he => ?_⟩
      have hne := List.append_ne_nil_of_right_ne_nil earlier (List.cons_ne_nil next later)
      exact absurd he.symm hne
    · refine ⟨before, first, after ++ [action], ?_, hstart, fun earlier next later he => ?_⟩
      · rw [List.append_assoc, List.cons_append]
      · rcases concat_eq_append_cons he with ⟨rfl, rfl, -⟩ | ⟨rest, -, rfl⟩
        · exact hnot
        · exact hstop earlier next rest rfl

/-- What the last action that gives something gives. -/
def lastGiven? {α : Type} (given? : Action → Option α) (history : List Action) : Option α :=
  (history.filterMap given?).getLast?

theorem lastGiven?_append {α : Type} (given? : Action → Option α) (history later : List Action) :
    lastGiven? given? (history ++ later) =
      (lastGiven? given? later).or (lastGiven? given? history) := by
  rw [lastGiven?, List.filterMap_append, List.getLast?_append]
  rfl

theorem lastGiven?_concat {α : Type} (given? : Action → Option α) (history : List Action)
    (action : Action) :
    lastGiven? given? (history ++ [action]) = (given? action).or (lastGiven? given? history) := by
  rw [lastGiven?_append]
  cases hgiven : given? action <;> simp [lastGiven?, hgiven]

/-- The code that was given last, which is none at the start. -/
def codeAfter (history : List Action) : String :=
  (lastGiven? Action.newCode? history).getD ""

def viewAfter (history : List Action) : View :=
  (lastGiven? Action.newView? history).getD .issues

/-- The theme is light again after every second change. -/
def themeAfter (history : List Action) : Theme :=
  if history.countP Action.togglesTheme % 2 = 0 then .light else .dark

/-- Is there code that is not blank? -/
def HoldsCode (history : List Action) : Prop :=
  Text.trim (codeAfter history).toList ≠ []

/-- The history without the actions that concern only the looks. -/
def withoutDisplay (history : List Action) : List Action :=
  history.filter fun action => !action.isDisplay

/-! ## Analyses -/

/-- An analysis is begun, by itself or as the first half of an `analyze`. Blank code stops it. -/
def Begins (history : List Action) : Action → Prop
  | .begin => HoldsCode history
  | .analyze => HoldsCode history
  | _ => False

/-- The end of an analysis is called for, by itself or as the second half of an `analyze`. -/
def CallsEnd (history : List Action) : Action → Prop
  | .finish => True
  | .analyze => HoldsCode history
  | _ => False

/-- An analysis was begun, and its end was not called for by the same action nor since. -/
def Open (history : List Action) : Prop :=
  HasSince (fun before action => Begins before action ∧ ¬CallsEnd before action) CallsEnd history

/-- An analysis is completed. A `finish` completes the one that is open; an `analyze` that begins
one completes it. -/
def Completes (history : List Action) : Action → Prop
  | .finish => Open history
  | .analyze => HoldsCode history
  | _ => False

/-- An analysis was begun, and none was completed by the same action nor since. -/
def Pending (history : List Action) : Prop :=
  HasSince (fun before action => Begins before action ∧ ¬Completes before action) Completes history

/-- The code that was held when the last analysis was completed, with no clearing since. -/
def LastScanned (code : String) (history : List Action) : Prop :=
  HasSince (fun before action => Completes before action ∧ codeAfter before = code)
    (fun before action => action = .clear ∨ Completes before action) history

theorem begins_and_not_callsEnd_iff {history : List Action} {action : Action} :
    Begins history action ∧ ¬CallsEnd history action ↔ action = .begin ∧ HoldsCode history := by
  cases action <;> simp [Begins, CallsEnd]

theorem begins_and_not_completes_iff {history : List Action} {action : Action} :
    Begins history action ∧ ¬Completes history action ↔ action = .begin ∧ HoldsCode history := by
  cases action <;> simp [Begins, Completes]

theorem not_pending_nil : ¬Pending [] := not_hasSince_nil

theorem pending_concat {history : List Action} {action : Action} :
    Pending (history ++ [action]) ↔
      (action = .begin ∧ HoldsCode history) ∨ (Pending history ∧ ¬Completes history action) := by
  rw [Pending, hasSince_concat, begins_and_not_completes_iff]
  rfl

/-- While an analysis is open, each call for its end completes it. So it makes no difference whether
an analysis has not been completed or its end has not been called for. -/
theorem open_iff_pending {history : List Action} : Open history ↔ Pending history := by
  induction history using List.reverseRecOn with
  | nil => exact iff_of_false not_hasSince_nil not_hasSince_nil
  | append_singleton history action ih =>
    rw [Open, hasSince_concat, begins_and_not_callsEnd_iff, pending_concat, ← ih]
    refine or_congr_right (and_congr_right fun hopen => not_congr ?_)
    cases action with
    | finish => exact iff_of_true trivial hopen
    | analyze => exact Iff.rfl
    | setCode _ | loadSample | clear | setView _ | toggleTheme | begin | copyExample _ =>
      exact Iff.rfl

theorem completes_iff {history : List Action} {action : Action} :
    Completes history action ↔
      (action = .finish ∧ Pending history) ∨ (action = .analyze ∧ HoldsCode history) := by
  rw [← open_iff_pending]
  cases action <;> simp [Completes]

/-! ## Runs -/

section Runs

variable (registry : Registry) (latency : Nat) (history : List Action)

theorem actAll_concat (session : Session) (action : Action) :
    session.actAll (history ++ [action]) = ((session.actAll history).act action).1 := by
  rw [actAll, List.foldl_append]
  rfl

theorem registry_actAll : ((new registry latency).actAll history).registry = registry := by
  induction history using List.reverseRecOn with
  | nil => rfl
  | append_singleton history action ih => rw [actAll_concat, registry_act, ih]

theorem code_actAll : ((new registry latency).actAll history).code = codeAfter history := by
  induction history using List.reverseRecOn with
  | nil => rfl
  | append_singleton history action ih =>
    rw [actAll_concat, code_act, ih, codeAfter, codeAfter, lastGiven?_concat]
    cases action.newCode? <;> rfl

theorem view_actAll : ((new registry latency).actAll history).view = viewAfter history := by
  induction history using List.reverseRecOn with
  | nil => rfl
  | append_singleton history action ih =>
    rw [actAll_concat, view_act, ih, viewAfter, viewAfter, lastGiven?_concat]
    cases action.newView? <;> rfl

theorem theme_actAll : ((new registry latency).actAll history).theme = themeAfter history := by
  induction history using List.reverseRecOn with
  | nil => rfl
  | append_singleton history action ih =>
    rw [actAll_concat, theme_act, ih, themeAfter, themeAfter, List.countP_append]
    cases htoggles : action.togglesTheme with
    | false => simp [htoggles]
    | true =>
      rcases Nat.mod_two_eq_zero_or_one (history.countP Action.togglesTheme) with hparity | hparity
      · simp [htoggles, Nat.add_mod, hparity, Theme.toggled]
      · simp [htoggles, Nat.add_mod, hparity, Theme.toggled]

theorem scan_actAll :
    ((new registry latency).actAll history).registry.scan
        ((new registry latency).actAll history).code =
      registry.scan (codeAfter history) := by
  rw [registry_actAll, code_actAll]

theorem isCodeBlank_actAll :
    ((new registry latency).actAll history).isCodeBlank = false ↔ HoldsCode history := by
  rw [isCodeBlank_eq_false_iff, code_actAll, HoldsCode]

theorem analyzing_actAll :
    ((new registry latency).actAll history).analyzing = true ↔ Pending history := by
  induction history using List.reverseRecOn with
  | nil => exact iff_of_false Bool.false_ne_true not_pending_nil
  | append_singleton history action ih =>
    have hcode := isCodeBlank_actAll registry latency history
    rw [actAll_concat, analyzing_act_iff, pending_concat, ih, hcode]
    -- While an analysis is pending, each action that calls for its end completes it.
    refine or_congr_right (and_congr_right fun hpending => not_congr ?_)
    cases action with
    | finish => exact iff_of_true trivial (completes_iff.mpr (Or.inl ⟨rfl, hpending⟩))
    | analyze => exact hcode
    | setCode _ | loadSample | clear | setView _ | toggleTheme | begin | copyExample _ =>
      exact Iff.rfl

theorem produces_actAll (action : Action) :
    ((new registry latency).actAll history).Produces action ↔ Completes history action := by
  cases action with
  | finish => exact (analyzing_actAll registry latency history).trans open_iff_pending.symm
  | analyze => exact isCodeBlank_actAll registry latency history
  | setCode _ | loadSample | clear | setView _ | toggleTheme | begin | copyExample _ =>
    exact Iff.rfl

theorem report_actAll (report : Report) :
    ((new registry latency).actAll history).report = some report ↔
      ∃ code, LastScanned code history ∧ report = registry.scan code := by
  induction history using List.reverseRecOn with
  | nil =>
    refine iff_of_false (Option.some_ne_none report).symm ?_
    rintro ⟨code, hscanned, -⟩
    exact not_hasSince_nil hscanned
  | append_singleton history action ih =>
    rw [actAll_concat]
    by_cases hcompletes : Completes history action
    · -- The report is new, and no earlier completion is the last one any more.
      have hproduces := (produces_actAll registry latency history action).mpr hcompletes
      have hreport : (((new registry latency).actAll history).act action).1.report =
          some (registry.scan (codeAfter history)) := by
        rw [act_of_produces hproduces, ← scan_actAll registry latency history]
        rfl
      rw [hreport, Option.some.injEq]
      constructor
      · rintro rfl
        exact ⟨codeAfter history, hasSince_concat.mpr (Or.inl ⟨hcompletes, rfl⟩), rfl⟩
      · rintro ⟨code, hscanned, rfl⟩
        rcases hasSince_concat.mp hscanned with ⟨-, rfl⟩ | ⟨-, hnot⟩
        · rfl
        · exact absurd (Or.inr hcompletes) hnot
    · have hnot := mt (produces_actAll registry latency history action).mp hcompletes
      by_cases hclear : action = .clear
      · subst hclear
        refine iff_of_false (Option.some_ne_none report).symm ?_
        rintro ⟨code, hscanned, -⟩
        rcases hasSince_concat.mp hscanned with ⟨hnow, -⟩ | ⟨-, hstop⟩
        · exact hcompletes hnow
        · exact hstop (Or.inl rfl)
      · rw [report_act_of_not_produces hnot hclear, ih]
        refine exists_congr fun code => and_congr_left fun _ => ?_
        rw [LastScanned, LastScanned, hasSince_concat]
        simp [hcompletes, hclear]

/-- Actions that concern only the looks can be left out of a history without anything else becoming
different. -/
theorem actAll_withoutDisplay (session : Session) (view : View) (theme : Theme) :
    (session.shown view theme).actAll (withoutDisplay history) =
      (session.actAll history).shown view theme := by
  induction history generalizing session with
  | nil => rfl
  | cons action history ih =>
    have hcons : session.actAll (action :: history) = (session.act action).1.actAll history := rfl
    rw [hcons, ← ih, withoutDisplay, List.filter_cons]
    cases hdisplay : action.isDisplay with
    | true =>
      rw [act_fst_of_display hdisplay]
      rfl
    | false =>
      have hact : ((session.shown view theme).act action).1 =
          (session.act action).1.shown view theme :=
        congrArg Prod.fst (act_shown hdisplay view theme)
      rw [← hact]
      rfl

end Runs

/-! ## What a session holds and answers -/

/-- The session is the one that the history makes of a new session. Its parts and its next answers
are given by looking back. -/
structure Follows (registry : Registry) (latency : Nat) (history : List Action)
    (session : Session) : Prop where
  code : session.code = codeAfter history
  analyzing : session.analyzing = true ↔ Pending history
  /-- A `finish` completes an analysis if one is pending, by scanning the code as it is now. -/
  finish_pending : Pending history →
    session.finish.2 = some (registry.scan (codeAfter history))
  finish_idle : ¬Pending history → session.finish = (session, none)
  /-- The report is the scan of the code that was held at the last completion since the last
  clearing, if there was one. -/
  report : ∀ report, session.report = some report ↔
    ∃ code, LastScanned code history ∧ report = registry.scan code
  begin_code : HoldsCode history → session.begin.2 = true
  begin_blank : ¬HoldsCode history → session.begin = (session, false)
  analyze_code : HoldsCode history →
    session.analyze.2 = some (registry.scan (codeAfter history))
  analyze_blank : ¬HoldsCode history → session.analyze = (session, none)
  copyExample : ∀ index text, session.copyExample index = some text ↔
    ∃ report suggestion, session.report = some report ∧
      report.suggestions[index]? = some suggestion ∧ suggestion.exampleCode = text
  view : session.view = viewAfter history
  theme : session.theme = themeAfter history
  /-- Without the actions that concern the looks, everything else is the same. -/
  apart : (new registry latency).actAll (withoutDisplay history) =
    { session with view := .issues, theme := .light }
  replies_apart : ∀ action, (session.act action).2 =
    (((new registry latency).actAll (withoutDisplay history)).act action).2

theorem actAll_follows (registry : Registry) (latency : Nat) (history : List Action) :
    Follows registry latency history ((new registry latency).actAll history) := by
  have hcode := code_actAll registry latency history
  have hscan := scan_actAll registry latency history
  have hpending := analyzing_actAll registry latency history
  have hholds := isCodeBlank_actAll registry latency history
  have hapart := actAll_withoutDisplay history (new registry latency) .issues .light
  generalize hsession : (new registry latency).actAll history = session at *
  exact
    { code := hcode
      analyzing := hpending
      finish_pending := fun h => by rw [finish_of_analyzing (hpending.mpr h), hscan]
      finish_idle := fun h => finish_of_idle (Bool.eq_false_iff.mpr (mt hpending.mp h))
      report := fun report => hsession ▸ report_actAll registry latency history report
      begin_code := fun h => by rw [begin_of_not_blank (hholds.mpr h)]
      begin_blank := fun h => begin_of_blank (Bool.of_not_eq_false (mt hholds.mp h))
      analyze_code := fun h => by rw [analyze_of_not_blank (hholds.mpr h), hscan]
      analyze_blank := fun h => analyze_of_blank (Bool.of_not_eq_false (mt hholds.mp h))
      copyExample := fun index text => by
        simp [Session.copyExample, Report.exampleCode?, Option.bind_eq_some_iff]
      view := hsession ▸ view_actAll registry latency history
      theme := hsession ▸ theme_actAll registry latency history
      apart := hapart
      replies_apart := fun action => by
        rw [← session.reply_shown action .issues .light, ← hapart]
        rfl }

end Session
end ScriptReview
