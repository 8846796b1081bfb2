import ScriptReview.Config.Template
import ScriptReview.Proofs.Config.RoundTrip
import ScriptReview.Proofs.Toml.Remarks

/-!
Configuration files with comments.

A file that has comments and empty lines among the lines of a layout says what the layout says
(`Layout.parse_of_remarks`). The template is such a file: without its comments it is the layout of
the configuration that holds where there is no file, with nothing left out. So a fresh template
changes no setting (`parse_template`).
-/

namespace ScriptReview
namespace Config

/-- Comments and empty lines do not matter, wherever they stand. -/
theorem Layout.parse_of_remarks (layout : Layout) {rows : List (List Char)}
    (hrows : (rows.filter fun row => !Toml.isRemark row) =
      (layout.parts.map Part.chars).flatten) {text : String}
    (htext : text.toList = Text.unlines rows) : parse text = .ok layout.config := by
  have hsays := Toml.says_of_writesSection layout.writesSections
  have hwritten := layout.toList_text
  rw [← hrows] at hsays hwritten
  have hsame : Toml.parse? text = Toml.parse? layout.text :=
    Toml.parse?_unlines hsays htext hwritten
  calc parse text = parse layout.text := by rw [parse, parse, hsame]
    _ = .ok layout.config := layout.parse_text_eq_ok

/-! ## The template -/

theorem latency_default : default.latency ≤ 9223372036854775807 := by decide

theorem toList_template : template.toList = Text.unlines (templateLines.map String.toList) := by
  rw [template, String.toList_join, Text.unlines, List.flatMap_map, List.flatMap_map]
  simp only [String.toList_append]
  rfl

/-- All that the template says is the configuration without a file. -/
theorem filter_templateLines :
    ((templateLines.map String.toList).filter fun row => !Toml.isRemark row) =
      ((Layout.ofConfig default latency_default).parts.map Part.chars).flatten := by
  decide +kernel

theorem parse_template : parse template = .ok default := by
  rw [Layout.parse_of_remarks _ filter_templateLines toList_template, Layout.config_ofConfig]

end Config
end ScriptReview
