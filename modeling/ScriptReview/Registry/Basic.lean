import ScriptReview.Registry.Toggles
import ScriptReview.Rule.Builtin
import ScriptReview.Text.Quoted

/-!
Registries: the rules and templates that a scan uses.

Order matters. Issues on one line come in the order of their rules, and suggestions in the order of
their templates. Nothing keeps an identifier from being used twice, by a rule and a template or by
two rules; disabling it removes them all.
-/

namespace ScriptReview

structure Registry where
  lineRules : List LineRule
  templates : List Template

/-- No rule and no template has the identifier. -/
structure UnknownRule where
  name : String
  deriving DecidableEq

namespace UnknownRule

def message (error : UnknownRule) : String :=
  "Rule not found: " ++ error.name

end UnknownRule

namespace Registry

def empty : Registry := ⟨[], []⟩

/-- The rules and templates that come with the program. -/
def builtin : Registry := ⟨Builtin.lineRules, Builtin.templates⟩

def addLineRule (registry : Registry) (rule : LineRule) : Registry :=
  { registry with lineRules := registry.lineRules ++ [rule] }

def addTemplate (registry : Registry) (template : Template) : Registry :=
  { registry with templates := registry.templates ++ [template] }

/-- Does a rule or a template have the identifier? -/
def contains (registry : Registry) (id : RuleId) : Bool :=
  registry.lineRules.any (·.id == id) || registry.templates.any (·.name == id.name)

/-- How many rules and templates there are. -/
def size (registry : Registry) : Nat :=
  registry.lineRules.length + registry.templates.length

def isEmpty (registry : Registry) : Bool :=
  registry.size == 0

/-- The registry without the rules and templates that have the identifier. -/
def erase (registry : Registry) (id : RuleId) : Registry where
  lineRules := registry.lineRules.filter (·.id != id)
  templates := registry.templates.filter (·.name != id.name)

/-- Remove what has the identifier. There has to be something to remove. -/
def disable (registry : Registry) (id : RuleId) : Except UnknownRule Registry :=
  if (registry.erase id).size = registry.size then
    .error ⟨id.name⟩
  else
    .ok (registry.erase id)

/-- Apply one switch. A rule has to be there even to be left on. -/
def applyToggle (registry : Registry) (toggle : RuleId × Bool) : Except UnknownRule Registry :=
  if registry.contains toggle.1 then
    if toggle.2 then .ok registry else registry.disable toggle.1
  else
    .error ⟨toggle.1.name⟩

/-- The built-in registry with the switches applied in their order. -/
def ofToggles (toggles : Toggles) : Except UnknownRule Registry :=
  toggles.entries.foldlM applyToggle builtin

/-! ## Editing -/

/-- A change to a registry. -/
inductive Edit where
  | addLineRule (rule : LineRule)
  | addTemplate (template : Template)
  | disable (id : RuleId)

/-- Make a change. A change that fails leaves the registry as it is. -/
def edit (registry : Registry) : Edit → Registry × Except UnknownRule Unit
  | .addLineRule rule => (registry.addLineRule rule, .ok ())
  | .addTemplate template => (registry.addTemplate template, .ok ())
  | .disable id =>
    match registry.disable id with
    | .ok smaller => (smaller, .ok ())
    | .error unknown => (registry, .error unknown)

def editAll (registry : Registry) (edits : List Edit) : Registry :=
  edits.foldl (fun current change => (current.edit change).1) registry

/-! ## Description -/

/-- Quoted names in square brackets. -/
def quotedNames (names : List String) : String :=
  "[" ++ ", ".intercalate (names.map Text.quote) ++ "]"

/-- One line that names every rule and every template. -/
def describe (registry : Registry) : String :=
  "RuleRegistry \x7b line_rules: " ++ quotedNames (registry.lineRules.map (·.id.name)) ++
    ", templates: " ++ quotedNames (registry.templates.map (·.name)) ++ " \x7d"

end Registry
end ScriptReview
