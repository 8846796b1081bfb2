import ScriptReview.Proofs.Report.Json

/-!
Reports that can be decoded.

Which JSON values are a report at all, said of the shape of a value without any report in view
(`Report.Fits`), and the whole of decoding (`Report.ofJson_exact`). Each field of a record is asked
for something by itself, and so a record can be read as soon as something can be read from each
field.
-/

namespace ScriptReview

open Json

/-! ## Shapes -/

namespace Json

def IsText (value : Json) : Prop :=
  ∃ text, value = .string text

/-- An integer without fraction or exponent, from zero up to the largest count. -/
def IsCount (value : Json) : Prop :=
  ∃ n ≤ Count.maximum, value = .ofNat n

def IsRuleName (value : Json) : Prop :=
  ∃ name, value = .string name ∧ isRuleId name = true

/-- One of the names, alone or as the one key of an object. -/
def IsNameAmong (names : List String) (value : Json) : Prop :=
  ∃ name ∈ names, value.Names name

def IsListOf (IsItem : Json → Prop) (value : Json) : Prop :=
  ∃ items, value = .array items ∧ ∀ item ∈ items, IsItem item

end Json

def Issue.Fits : Json → Prop :=
  IsRecord
    [("rule_id", IsRuleName), ("type", IsNameAmong ["error", "warning", "info"]),
      ("line", IsCount), ("message", IsText), ("code", IsText),
      ("severity", IsNameAmong ["high", "medium", "low"])]

def Suggestion.Fits : Json → Prop :=
  IsRecord
    [("category", IsText), ("title", IsText), ("description", IsText), ("example", IsText)]

def Metrics.Fits : Json → Prop :=
  IsRecord
    [("lines", IsCount), ("functions", IsCount), ("complexity", IsCount),
      ("maintainability", IsCount)]

def Report.Fits : Json → Prop :=
  IsRecord
    [("issues", IsListOf Issue.Fits), ("suggestions", IsListOf Suggestion.Fits),
      ("metrics", Metrics.Fits)]

/-! ## What can be read -/

section Shapes

variable {value : Json}

theorem isRuleName_iff : IsRuleName value ↔ ∃ id : RuleId, value = .string id.name :=
  ⟨fun ⟨name, hvalue, hname⟩ => ⟨⟨name, hname⟩, hvalue⟩,
    fun ⟨id, hvalue⟩ => ⟨id.name, hvalue, id.isRuleId_name⟩⟩

theorem isCount_iff : IsCount value ↔ ∃ count : Count, value = .ofNat count.toNat :=
  ⟨fun ⟨n, hn, hvalue⟩ => ⟨⟨n, hn⟩, hvalue⟩,
    fun ⟨count, hvalue⟩ => ⟨count.toNat, count.toNat_le, hvalue⟩⟩

theorem isKindName_iff : IsNameAmong ["error", "warning", "info"] value ↔
    ∃ kind : IssueKind, value.Names kind.name := by
  refine ⟨fun ⟨name, hname, hvalue⟩ => ?_, fun ⟨kind, hkind⟩ => ⟨kind.name, ?_, hkind⟩⟩
  · obtain ⟨kind, -, rfl⟩ := List.mem_map.mp (show name ∈ IssueKind.all.map (·.name) from hname)
    exact ⟨kind, hvalue⟩
  · cases kind <;> simp [IssueKind.name]

theorem isSeverityName_iff : IsNameAmong ["high", "medium", "low"] value ↔
    ∃ severity : Severity, value.Names severity.name := by
  refine ⟨fun ⟨name, hname, hvalue⟩ => ?_, fun ⟨severity, h⟩ => ⟨severity.name, ?_, h⟩⟩
  · obtain ⟨severity, -, rfl⟩ := List.mem_map.mp (show name ∈ Severity.all.map (·.name) from hname)
    exact ⟨severity, hvalue⟩
  · cases severity <;> simp [Severity.name]

theorem isListOf_iff {α : Type} {IsItem : Json → Prop} {Writes : α → Json → Prop}
    (hitem : ∀ item, IsItem item ↔ ∃ a, Writes a item) :
    IsListOf IsItem value ↔ ∃ found, WritesList Writes found value := by
  constructor
  · rintro ⟨items, rfl, hitems⟩
    have hfound : ∃ found, List.Forall₂ (fun item a => Writes a item) items found := by
      induction items with
      | nil => exact ⟨[], .nil⟩
      | cons item items ih =>
        obtain ⟨a, ha⟩ := (hitem item).mp (hitems item List.mem_cons_self)
        obtain ⟨found, hlater⟩ := ih fun item h => hitems item (List.mem_cons_of_mem _ h)
        exact ⟨a :: found, .cons ha hlater⟩
    obtain ⟨found, hfound⟩ := hfound
    exact ⟨found, items, rfl, hfound⟩
  · rintro ⟨found, items, rfl, hfound⟩
    refine ⟨items, rfl, ?_⟩
    induction hfound with
    | nil => exact nofun
    | cons ha _ ih => exact List.forall_mem_cons.mpr ⟨(hitem _).mpr ⟨_, ha⟩, ih⟩

theorem Issue.fits_iff : Issue.Fits value ↔ ∃ issue : Issue, issue.WrittenAs value := by
  simp only [Fits, WrittenAs, isRecord_iff, List.zipIdx_cons, List.forall_mem_cons, isRuleName_iff,
    isCount_iff, IsText, isKindName_iff, isSeverityName_iff]
  constructor
  · rintro ⟨hholds, ⟨_, hruleId, ruleId, rfl⟩, ⟨_, hkind, kind, hkindName⟩, ⟨_, hline, line, rfl⟩,
      ⟨_, hmessage, message, rfl⟩, ⟨_, hcode, code, rfl⟩,
      ⟨_, hseverity, severity, hseverityName⟩, -⟩
    exact ⟨⟨ruleId, kind, line, message, code, severity⟩, hholds, ⟨_, hruleId, rfl⟩,
      ⟨_, hkind, hkindName⟩, ⟨_, hline, rfl⟩, ⟨_, hmessage, rfl⟩, ⟨_, hcode, rfl⟩,
      ⟨_, hseverity, hseverityName⟩, List.forall_mem_nil _⟩
  · rintro ⟨issue, hholds, ⟨_, hruleId, rfl⟩, ⟨_, hkind, hkindName⟩, ⟨_, hline, rfl⟩,
      ⟨_, hmessage, rfl⟩, ⟨_, hcode, rfl⟩, ⟨_, hseverity, hseverityName⟩, -⟩
    exact ⟨hholds, ⟨_, hruleId, _, rfl⟩, ⟨_, hkind, _, hkindName⟩, ⟨_, hline, _, rfl⟩,
      ⟨_, hmessage, _, rfl⟩, ⟨_, hcode, _, rfl⟩, ⟨_, hseverity, _, hseverityName⟩,
      List.forall_mem_nil _⟩

theorem Suggestion.fits_iff :
    Suggestion.Fits value ↔ ∃ suggestion : Suggestion, suggestion.WrittenAs value := by
  simp only [Fits, WrittenAs, isRecord_iff, List.zipIdx_cons, List.forall_mem_cons, IsText]
  constructor
  · rintro ⟨hholds, ⟨_, hcategory, category, rfl⟩, ⟨_, htitle, title, rfl⟩,
      ⟨_, hdescription, description, rfl⟩, ⟨_, hexample, exampleCode, rfl⟩, -⟩
    exact ⟨⟨category, title, description, exampleCode⟩, hholds, ⟨_, hcategory, rfl⟩,
      ⟨_, htitle, rfl⟩, ⟨_, hdescription, rfl⟩, ⟨_, hexample, rfl⟩, List.forall_mem_nil _⟩
  · rintro ⟨suggestion, hholds, ⟨_, hcategory, rfl⟩, ⟨_, htitle, rfl⟩, ⟨_, hdescription, rfl⟩,
      ⟨_, hexample, rfl⟩, -⟩
    exact ⟨hholds, ⟨_, hcategory, _, rfl⟩, ⟨_, htitle, _, rfl⟩, ⟨_, hdescription, _, rfl⟩,
      ⟨_, hexample, _, rfl⟩, List.forall_mem_nil _⟩

theorem Metrics.fits_iff : Metrics.Fits value ↔ ∃ metrics : Metrics, metrics.WrittenAs value := by
  simp only [Fits, WrittenAs, isRecord_iff, List.zipIdx_cons, List.forall_mem_cons, isCount_iff]
  constructor
  · rintro ⟨hholds, ⟨_, hlines, lines, rfl⟩, ⟨_, hfunctions, functions, rfl⟩,
      ⟨_, hcomplexity, complexity, rfl⟩, ⟨_, hmaintainability, maintainability, rfl⟩, -⟩
    exact ⟨⟨lines, functions, complexity, maintainability⟩, hholds, ⟨_, hlines, rfl⟩,
      ⟨_, hfunctions, rfl⟩, ⟨_, hcomplexity, rfl⟩, ⟨_, hmaintainability, rfl⟩,
      List.forall_mem_nil _⟩
  · rintro ⟨metrics, hholds, ⟨_, hlines, rfl⟩, ⟨_, hfunctions, rfl⟩, ⟨_, hcomplexity, rfl⟩,
      ⟨_, hmaintainability, rfl⟩, -⟩
    exact ⟨hholds, ⟨_, hlines, _, rfl⟩, ⟨_, hfunctions, _, rfl⟩, ⟨_, hcomplexity, _, rfl⟩,
      ⟨_, hmaintainability, _, rfl⟩, List.forall_mem_nil _⟩

theorem Report.fits_iff : Report.Fits value ↔ ∃ report : Report, report.WrittenAs value := by
  simp only [Fits, WrittenAs, isRecord_iff, List.zipIdx_cons, List.forall_mem_cons,
    isListOf_iff fun _ => Issue.fits_iff, isListOf_iff fun _ => Suggestion.fits_iff,
    Metrics.fits_iff]
  constructor
  · rintro ⟨hholds, ⟨_, hissues, issues, hwritten⟩, ⟨_, hsuggestions, suggestions, hwritten'⟩,
      ⟨_, hmetrics, metrics, hwritten''⟩, -⟩
    exact ⟨⟨issues, suggestions, metrics⟩, hholds, ⟨_, hissues, hwritten⟩,
      ⟨_, hsuggestions, hwritten'⟩, ⟨_, hmetrics, hwritten''⟩, List.forall_mem_nil _⟩
  · rintro ⟨report, hholds, ⟨_, hissues, hwritten⟩, ⟨_, hsuggestions, hwritten'⟩,
      ⟨_, hmetrics, hwritten''⟩, -⟩
    exact ⟨hholds, ⟨_, hissues, _, hwritten⟩, ⟨_, hsuggestions, _, hwritten'⟩,
      ⟨_, hmetrics, _, hwritten''⟩, List.forall_mem_nil _⟩

end Shapes

/-! ## Decoding -/

namespace Report

theorem writesList_map {α : Type} {Writes : α → Json → Prop} {write : α → Json}
    (h : ∀ a, Writes a (write a)) (found : List α) :
    WritesList Writes found (.array (found.map write)) := by
  refine ⟨_, rfl, ?_⟩
  rw [List.forall₂_map_left_iff]
  exact List.forall₂_same.mpr fun a _ => h a

theorem writtenAs_toJson (report : Report) : report.WrittenAs report.toJson := by
  have hissue : ∀ issue : Issue, issue.WrittenAs issue.toJson := fun issue =>
    Issue.writtenAs_of_subset (by simp [Issue.fields]) (List.Subset.refl _)
  have hsuggestion : ∀ suggestion : Suggestion, suggestion.WrittenAs suggestion.toJson :=
    fun suggestion =>
      Suggestion.writtenAs_of_subset (by simp [Suggestion.fields]) (List.Subset.refl _)
  have hmetrics : report.metrics.WrittenAs report.metrics.toJson :=
    Metrics.writtenAs_of_subset (by simp [Metrics.fields]) (List.Subset.refl _)
  refine isRecord_of_subset (by simp) ?_ (List.Subset.refl _)
  simp [writesList_map hissue, writesList_map hsuggestion, hmetrics]

/-- What is written is read back. A value is read just if it has the shape of a report, and what is
read is the one report that it writes; the identifiers of rules in it are well formed. -/
theorem ofJson_exact :
    (∀ report : Report, ofJson report.toJson = .ok report) ∧
    ∀ value : Json,
      ((∃ report, ofJson value = .ok report) ↔ Fits value) ∧
      ∀ report : Report, ofJson value = .ok report ↔
        report.WrittenAs value ∧ ∀ issue ∈ report.issues, isRuleId issue.ruleId.name = true := by
  refine ⟨fun report => ofJson_eq_ok_iff.mpr report.writtenAs_toJson, fun value => ⟨?_, ?_⟩⟩
  · simp only [ofJson_eq_ok_iff]
    exact fits_iff.symm
  · intro report
    rw [ofJson_eq_ok_iff]
    exact (and_iff_left fun issue _ => issue.ruleId.isRuleId_name).symm

end Report
end ScriptReview
