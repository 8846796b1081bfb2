import ScriptReview.Proofs.Session.History

/-!
Analyses and blank code.

Blank code is looked for when an analysis is begun and not when it is completed. An `analyze` does
both at once, so that it never reports on blank code. Between a `begin` and its `finish`, however,
the code can be replaced by blank code or cleared, and the report is then one on blank code
(`report_on_cleared_code`); this is the only way to come by such a report (`report_of_begun`).
-/

namespace ScriptReview
namespace Session

/-- An analysis was begun that is not completed, and the code given last since then is blank. -/
def BlankedSinceBegin (history : List Action) : Prop :=
  ∃ before since code, history = before ++ .begin :: since ∧ HoldsCode before ∧
    (∀ earlier next later, since = earlier ++ next :: later →
      ¬Completes (before ++ .begin :: earlier) next) ∧
    lastGiven? Action.newCode? since = some code ∧ Text.trim code.toList = []

/-- The code after a `begin` is the code given since, or the code that was there already. -/
theorem codeAfter_append_begin (before since : List Action) :
    codeAfter (before ++ .begin :: since) =
      (lastGiven? Action.newCode? since).getD (codeAfter before) := by
  have hsince : lastGiven? Action.newCode? (.begin :: since) =
      lastGiven? Action.newCode? since := rfl
  rw [codeAfter, lastGiven?_append, hsince, codeAfter]
  cases lastGiven? Action.newCode? since <;> rfl

theorem BlankedSinceBegin.not_holdsCode {history : List Action} (h : BlankedSinceBegin history) :
    ¬HoldsCode history := by
  obtain ⟨before, since, code, rfl, -, -, hgiven, hblank⟩ := h
  rw [HoldsCode, codeAfter_append_begin, hgiven]
  exact not_not_intro hblank

/-- A pending analysis was begun on code, so that blank code must have come after. -/
theorem Pending.blankedSinceBegin {history : List Action} (h : Pending history)
    (hblank : ¬HoldsCode history) : BlankedSinceBegin history := by
  obtain ⟨before, action, since, rfl, hbegins, hsince⟩ := h
  obtain ⟨rfl, hcode⟩ := begins_and_not_completes_iff.mp hbegins
  rw [HoldsCode, codeAfter_append_begin] at hblank
  cases hgiven : lastGiven? Action.newCode? since with
  | none =>
    rw [hgiven] at hblank
    exact absurd hcode hblank
  | some code =>
    rw [hgiven] at hblank
    exact ⟨before, since, code, rfl, hcode, hsince, hgiven, not_not.mp hblank⟩

/-! ## After a clearing -/

/-- No action gives code that is not blank. -/
def GivesOnlyBlank (actions : List Action) : Prop :=
  ∀ action ∈ actions, ∀ code, action.newCode? = some code → Text.trim code.toList = []

/-- What is known after a clearing as long as no code is given but blank code: nothing can be begun,
and what was pending at the clearing ends with the first `finish`. -/
structure Emptied (earlier later : List Action) : Prop where
  blank : ¬HoldsCode (earlier ++ .clear :: later)
  pending : Pending (earlier ++ .clear :: later) ↔ Pending earlier ∧ .finish ∉ later
  scanned : ∀ code, LastScanned code (earlier ++ .clear :: later) →
    Pending earlier ∧ .finish ∈ later

theorem emptied_nil (earlier : List Action) : Emptied earlier [] where
  blank := by
    rw [HoldsCode, codeAfter, lastGiven?_concat]
    exact not_not_intro rfl
  pending := by
    rw [pending_concat]
    simp [completes_iff]
  scanned := fun code hscanned => by
    rcases hasSince_concat.mp hscanned with ⟨hcompletes, -⟩ | ⟨-, hstop⟩
    · cases hcompletes
    · exact absurd (Or.inl rfl) hstop

theorem Emptied.completes_iff {earlier later : List Action} (h : Emptied earlier later)
    {action : Action} :
    Completes (earlier ++ .clear :: later) action ↔
      action = .finish ∧ Pending earlier ∧ .finish ∉ later := by
  rw [Session.completes_iff, h.pending]
  refine or_iff_left ?_
  rintro ⟨-, hcode⟩
  exact h.blank hcode

theorem Emptied.concat {earlier later : List Action} (h : Emptied earlier later) {action : Action}
    (hblank : ∀ code, action.newCode? = some code → Text.trim code.toList = []) :
    Emptied earlier (later ++ [action]) := by
  have hconcat : earlier ++ .clear :: (later ++ [action]) =
      (earlier ++ .clear :: later) ++ [action] := by
    rw [List.append_assoc, List.cons_append]
  refine ⟨?_, ?_, fun code hscanned => ?_⟩
  · rw [hconcat, HoldsCode, codeAfter, lastGiven?_concat]
    cases hgiven : action.newCode? with
    | none => exact h.blank
    | some code => exact not_not_intro (hblank code hgiven)
  · -- What was pending stays pending until a `finish`, since an `analyze` finds blank code.
    have hmem : Action.finish ∈ later ++ [action] ↔ .finish ∈ later ∨ action = .finish := by
      rw [List.mem_append, List.mem_singleton]
      exact or_congr_right eq_comm
    rw [hconcat, pending_concat, h.completes_iff, h.pending, hmem]
    have hbegin : ¬(action = .begin ∧ HoldsCode (earlier ++ .clear :: later)) :=
      fun hbegins => h.blank hbegins.2
    tauto
  · rw [hconcat] at hscanned
    rw [List.mem_append, List.mem_singleton]
    rcases hasSince_concat.mp hscanned with ⟨hcompletes, -⟩ | ⟨hbefore, -⟩
    · obtain ⟨hfinish, hpending, -⟩ := h.completes_iff.mp hcompletes
      exact ⟨hpending, Or.inr hfinish.symm⟩
    · obtain ⟨hpending, hmem⟩ := h.scanned code hbefore
      exact ⟨hpending, Or.inl hmem⟩

theorem emptied_of_givesOnlyBlank (earlier : List Action) {later : List Action}
    (h : GivesOnlyBlank later) : Emptied earlier later := by
  induction later using List.reverseRecOn with
  | nil => exact emptied_nil earlier
  | append_singleton later action ih =>
    exact (ih fun a ha => h a (List.mem_append_left [action] ha)).concat
      (h action (List.mem_append_right later List.mem_cons_self))

/-! ## Reports -/

section Runs

variable {registry : Registry} {latency : Nat} {history : List Action}

theorem exists_reply_iff {action : Action} :
    (∃ report, (((new registry latency).actAll history).act action).2 = .report (some report)) ↔
      Completes history action := by
  rw [← produces_actAll registry latency]
  constructor
  · rintro ⟨report, hreply⟩
    exact (reply_eq_report_iff.mp hreply).1
  · intro hproduces
    exact ⟨_, reply_eq_report_iff.mpr ⟨hproduces, rfl⟩⟩

/-- What is answered is also stored, and is the scan of the code as it is at that moment. -/
theorem report_of_reply {action : Action} {report : Report}
    (h : (((new registry latency).actAll history).act action).2 = .report (some report)) :
    (((new registry latency).actAll history).act action).1.report = some report ∧
      report = registry.scan (codeAfter history) := by
  obtain ⟨hproduces, hreport⟩ := reply_eq_report_iff.mp h
  constructor
  · rw [act_of_produces hproduces, hreport]
    rfl
  · rw [hreport, scan_actAll]

end Runs

/-- A report comes of an analysis that was begun on code that was not blank. It is the scan of the
code held when the analysis is completed, which is blank only if the analysis is completed by a
`finish` and the code was blanked since the `begin`. After a clearing there is no report until code
that is not blank has been given, except by the first `finish` if an analysis was pending. -/
theorem report_of_begun (registry : Registry) (latency : Nat) (history : List Action) :
    (∀ action report,
      (((new registry latency).actAll history).act action).2 = .report (some report) →
        (((new registry latency).actAll history).act action).1.report = some report ∧
          report = registry.scan (codeAfter history) ∧
          ((action = .finish ∧ Pending history) ∨ (action = .analyze ∧ HoldsCode history)) ∧
          (¬HoldsCode history ↔ action = .finish ∧ BlankedSinceBegin history)) ∧
      ∀ earlier later, history = earlier ++ .clear :: later → GivesOnlyBlank later →
        (((new registry latency).actAll history).report ≠ none →
          Pending earlier ∧ .finish ∈ later) ∧
        ∀ action,
          (∃ report,
            (((new registry latency).actAll history).act action).2 = .report (some report)) ↔
            action = .finish ∧ Pending earlier ∧ .finish ∉ later := by
  constructor
  · intro action report hreply
    obtain ⟨hstored, hreport⟩ := report_of_reply hreply
    have hcompletes := completes_iff.mp (exists_reply_iff.mp ⟨report, hreply⟩)
    refine ⟨hstored, hreport, hcompletes, ?_⟩
    rcases hcompletes with ⟨rfl, hpending⟩ | ⟨rfl, hcode⟩
    · exact ⟨fun h => ⟨rfl, hpending.blankedSinceBegin h⟩, fun h => h.2.not_holdsCode⟩
    · refine iff_of_false (not_not_intro hcode) ?_
      rintro ⟨h, -⟩
      cases h
  · rintro earlier later rfl hblank
    have hemptied := emptied_of_givesOnlyBlank earlier hblank
    refine ⟨fun hsome => ?_, fun action => exists_reply_iff.trans hemptied.completes_iff⟩
    obtain ⟨report, hreport⟩ := Option.ne_none_iff_exists'.mp hsome
    obtain ⟨code, hscanned, -⟩ := (report_actAll registry latency _ report).mp hreport
    exact hemptied.scanned code hscanned

theorem report_of_begun_cleared :
    (((new .builtin 0).actAll [.setCode "var x = 1;", .begin, .clear]).act .finish).2 =
        .report (some (Registry.builtin.scan "")) ∧
      BlankedSinceBegin [.setCode "var x = 1;", .begin, .clear] ∧
      GivesOnlyBlank [.setCode " ", .analyze] ∧
      ¬∃ report, (((new .builtin 0).actAll [.clear, .setCode " ", .analyze]).act .finish).2 =
        .report (some report) := by
  have hreply : (((new .builtin 0).actAll [.setCode "var x = 1;", .begin, .clear]).act .finish).2 =
      .report (some (Registry.builtin.scan "")) := rfl
  have hcode : ¬HoldsCode [.setCode "var x = 1;", .begin, .clear] := not_not_intro rfl
  obtain ⟨-, -, -, hblank⟩ := (report_of_begun .builtin 0 _).1 .finish _ hreply
  have hgiven : GivesOnlyBlank [.setCode " ", .analyze] := by
    simp only [GivesOnlyBlank, List.forall_mem_cons, Action.newCode?, Option.some.injEq]
    refine ⟨?_, by simp⟩
    rintro code rfl
    decide
  refine ⟨hreply, (hblank.mp hcode).2, hgiven, fun hreport => ?_⟩
  have hfinish := (((report_of_begun .builtin 0 _).2 [] _ rfl hgiven).2 .finish).mp hreport
  exact not_pending_nil hfinish.2.1

/-- A session that is cleared between the two steps of an analysis reports on the empty code. -/
theorem report_on_cleared_code :
    ((new .builtin 0).actAll [.setCode "var x = 1;", .begin, .clear]).code = "" ∧
      ((new .builtin 0).actAll [.setCode "var x = 1;", .begin, .clear]).isCodeBlank = true ∧
      (((new .builtin 0).actAll [.setCode "var x = 1;", .begin, .clear]).act .finish).2 =
        .report (some (Registry.builtin.scan "")) ∧
      (((new .builtin 0).actAll [.setCode "var x = 1;", .begin, .clear]).act .finish).1.report =
        some (Registry.builtin.scan "") :=
  ⟨rfl, rfl, rfl, rfl⟩

end Session
end ScriptReview
