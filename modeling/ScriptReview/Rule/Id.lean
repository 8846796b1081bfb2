import ScriptReview.Text.Alphanumeric

/-!
Identifiers of rules.
-/

namespace ScriptReview

/-- The characters of a rule identifier: letters and digits of any script, hyphen, underscore. -/
def isRuleIdChar (c : Char) : Bool :=
  Text.isAlphanumeric c || c == '-' || c == '_'

/-- A rule identifier is not empty and holds nothing but its characters. -/
def isRuleId (name : String) : Bool :=
  !name.toList.isEmpty && name.toList.all isRuleIdChar

/-- A name that has the form of a rule identifier. Whether such a rule exists is another matter. -/
structure RuleId where
  name : String
  isRuleId_name : isRuleId name = true
  deriving DecidableEq

namespace RuleId

@[ext]
theorem ext {a b : RuleId} (h : a.name = b.name) : a = b := by
  cases a; cases b; simp_all

def ofString? (name : String) : Option RuleId :=
  if h : isRuleId name = true then some ⟨name, h⟩ else none

theorem ofString?_name (id : RuleId) : ofString? id.name = some id := by
  simp [ofString?, id.isRuleId_name]

theorem name_of_ofString? {name : String} {id : RuleId} (h : ofString? name = some id) :
    id.name = name := by
  unfold ofString? at h
  split at h
  · cases h; rfl
  · cases h

end RuleId
end ScriptReview
