import ScriptReview.Registry.Scan

/-!
Review sessions: what a front end keeps between the actions of its user.

Analysis takes two steps, so that a front end can show that one is under way. Whether the code is
blank is looked at in the first step, and the code is scanned in the second as it stands then.
-/

namespace ScriptReview

inductive Theme where
  | light
  | dark
  deriving DecidableEq

namespace Theme

def toggled : Theme → Theme
  | light => dark
  | dark => light

def name : Theme → String
  | light => "light"
  | dark => "dark"

end Theme

structure Session where
  registry : Registry
  code : String
  /-- The result of the last analysis, until the session is cleared. -/
  report : Option Report
  view : View
  theme : Theme
  /-- Has an analysis been begun and not been finished? -/
  analyzing : Bool
  /-- Milliseconds to wait before a scan. -/
  latency : Nat

namespace Session

/-- The program that a session can load to show what a review looks like. -/
def sampleProgram : String :=
  "\n".intercalate
    ["function calculateTotal(items) \x7b",
      "  var total = 0;",
      "  for (var i = 0; i < items.length; i++) \x7b",
      "    if (items[i].price) \x7b",
      "      total = total + items[i].price;",
      "    \x7d",
      "  \x7d",
      "  return total;",
      "\x7d",
      "",
      "const user = \x7b",
      "  name: \"Renuka\",",
      "  age: 25,",
      "  email: \"john@email.com\"",
      "\x7d;",
      "",
      "function validateUser(user) \x7b",
      "  if (user.name == \"\" || user.age < 18) \x7b",
      "    return false;",
      "  \x7d",
      "  return true;",
      "\x7d"]

/-- A session without code. It shows issues first. -/
def new (registry : Registry) (latency : Nat) : Session where
  registry := registry
  code := ""
  report := none
  view := .issues
  theme := .light
  analyzing := false
  latency := latency

def setCode (session : Session) (code : String) : Session :=
  { session with code }

def loadSample (session : Session) : Session :=
  session.setCode sampleProgram

/-- Drop the code and the report. An analysis that has been begun stays begun. -/
def clear (session : Session) : Session :=
  { session with code := "", report := none }

def setView (session : Session) (view : View) : Session :=
  { session with view }

def toggleTheme (session : Session) : Session :=
  { session with theme := session.theme.toggled }

def isCodeBlank (session : Session) : Bool :=
  Text.isAllBlank session.code.toList

/-- Begin an analysis, unless the code is blank. The answer says whether one has been begun. -/
def begin (session : Session) : Session × Bool :=
  if session.isCodeBlank then (session, false)
  else ({ session with analyzing := true }, true)

/-- Finish the analysis that has been begun, if one has. -/
def finish (session : Session) : Session × Option Report :=
  if session.analyzing then
    let report := session.registry.scan session.code
    ({ session with analyzing := false, report := some report }, some report)
  else (session, none)

/-- Begin an analysis and finish it. -/
def analyze (session : Session) : Session × Option Report :=
  match session.begin with
  | (session, true) => session.finish
  | (session, false) => (session, none)

/-- The example of the suggestion at a position of the current report, counted from zero. -/
def copyExample (session : Session) (index : Nat) : Option String :=
  session.report.bind fun report => report.exampleCode? index

/-! ## Histories -/

/-- What a user can do. -/
inductive Action where
  | setCode (code : String)
  | loadSample
  | clear
  | setView (view : View)
  | toggleTheme
  | begin
  | finish
  | analyze
  | copyExample (index : Nat)

/-- What an action answers. -/
inductive Reply where
  | done
  | begun (answer : Bool)
  | report (answer : Option Report)
  | exampleCode (answer : Option String)

def act (session : Session) : Action → Session × Reply
  | .setCode code => (session.setCode code, .done)
  | .loadSample => (session.loadSample, .done)
  | .clear => (session.clear, .done)
  | .setView view => (session.setView view, .done)
  | .toggleTheme => (session.toggleTheme, .done)
  | .begin => (session.begin.1, .begun session.begin.2)
  | .finish => (session.finish.1, .report session.finish.2)
  | .analyze => (session.analyze.1, .report session.analyze.2)
  | .copyExample index => (session, .exampleCode (session.copyExample index))

/-- The session after a list of actions. -/
def actAll (session : Session) (actions : List Action) : Session :=
  actions.foldl (fun current action => (current.act action).1) session

end Session
end ScriptReview
