/-
# UriRouting.Template.Cached — templates that keep their matcher

The pattern of a template is read once for all matching: the first call that needs the
matcher makes it, logging the defects of the pattern, and later calls use it again until
the pattern or the mode changes. Names and formatting read the pattern each time. `Good`
says that a matcher, if one is kept, is the one that the template stands for; every
operation keeps it, and answers as the template alone does (`matchedSize?_answer`,
`parse?_answer`, `groups_answer`).
-/
import UriRouting.Event
import UriRouting.Template.Basic

namespace UriRouting

set_option autoImplicit false

structure CachedTemplate where
  template : Template
  matcher : Option Matcher := none
  deriving DecidableEq

namespace CachedTemplate

/-- A kept matcher is that of the template. -/
def Good (c : CachedTemplate) : Prop := ∀ m, c.matcher = some m → m = c.template.matcher

/-- The same template, with nothing kept. -/
def fresh (c : CachedTemplate) : CachedTemplate := { c with matcher := none }

/-- The matcher, which is kept from now on. -/
def prepare (c : CachedTemplate) : Logged (Matcher × CachedTemplate) :=
  match c.matcher with
  | some m => pure (m, c)
  | none => do
    Logged.log (Pattern.events c.template.pattern)
    pure (c.template.matcher, { c with matcher := some c.template.matcher })

/-- A search that was given up is the one verdict that is logged. -/
def giveUpEvents (t : Template) (value : Text) : Verdict → List Event
  | .gaveUp => [.searchGivenUp t.pattern value]
  | _ => []

/-- The verdict on a value. -/
def judge (c : CachedTemplate) (value : Text) : Logged (Verdict × CachedTemplate) := do
  let (m, c) ← c.prepare
  Logged.log (giveUpEvents c.template value (m.run value))
  pure (m.run value, c)

/-- How much of a value is matched. -/
def matchedSize? (c : CachedTemplate) (value : Text) :
    Logged (Option Nat × CachedTemplate) := do
  let (verdict, c) ← c.judge value
  pure (Template.sizeOf? value verdict, c)

/-- What a verdict says of each variable, as events. -/
def captureEvents (t : Template) : Verdict → List Event
  | .matched captures _ =>
    (t.readCaptures captures).map fun (name, value) => .variableMatched name value
  | _ => []

def parse? (c : CachedTemplate) (value : Text) : Logged (Option Parsed × CachedTemplate) := do
  let (verdict, c) ← c.judge value
  Logged.log (captureEvents c.template verdict)
  pure (c.template.parsed? value verdict, c)

def groups (c : CachedTemplate) : Logged (List Text × CachedTemplate) := do
  let (m, c) ← c.prepare
  pure (m.groups, c)

def variableNames (c : CachedTemplate) : Logged (List Text) := do
  Logged.log (Pattern.events c.template.pattern)
  pure c.template.variableNames

def format (c : CachedTemplate) (resolve : Text → Option Text) : Logged Text := do
  Logged.log (Pattern.events c.template.pattern)
  pure (c.template.format resolve)

def setPattern (c : CachedTemplate) (pattern : Text) : CachedTemplate :=
  { template := { c.template with pattern } }

def setMode (c : CachedTemplate) (mode : Mode) : CachedTemplate :=
  { template := { c.template with mode } }

def setEncoding (c : CachedTemplate) (encoding : Bool) : CachedTemplate :=
  { c with template := { c.template with encoding } }

theorem good_fresh (c : CachedTemplate) : c.fresh.Good := fun _ h => nomatch h

theorem good_setPattern (c : CachedTemplate) (pattern : Text) : (c.setPattern pattern).Good :=
  fun _ h => nomatch h

theorem good_setMode (c : CachedTemplate) (mode : Mode) : (c.setMode mode).Good :=
  fun _ h => nomatch h

/-- The encoding has no part in matching. -/
theorem good_setEncoding {c : CachedTemplate} (good : c.Good) (encoding : Bool) :
    (c.setEncoding encoding).Good := fun m h => good m h

theorem prepare_answer {c : CachedTemplate} (good : c.Good) :
    c.prepare.answer.1 = c.template.matcher := by
  unfold prepare
  cases h : c.matcher with
  | none => rfl
  | some m => exact good m h

theorem prepare_template (c : CachedTemplate) :
    c.prepare.answer.2.template = c.template := by
  unfold prepare
  cases c.matcher <;> rfl

theorem good_prepare {c : CachedTemplate} (good : c.Good) : c.prepare.answer.2.Good := by
  unfold prepare
  cases h : c.matcher with
  | none => intro m e; exact (Option.some.inj e).symm
  | some m => exact good

theorem judge_answer {c : CachedTemplate} (good : c.Good) (value : Text) :
    (c.judge value).answer = (c.template.verdict value, c.prepare.answer.2) := by
  show ((c.prepare.answer.1.run value), c.prepare.answer.2) = _
  rw [prepare_answer good]
  rfl

theorem matchedSize?_answer {c : CachedTemplate} (good : c.Good) (value : Text) :
    (c.matchedSize? value).answer = (c.template.matchedSize? value, c.prepare.answer.2) := by
  show (Template.sizeOf? value (c.judge value).answer.1, (c.judge value).answer.2) = _
  rw [judge_answer good]
  rfl

theorem parse?_answer {c : CachedTemplate} (good : c.Good) (value : Text) :
    (c.parse? value).answer = (c.template.parse? value, c.prepare.answer.2) := by
  show ((c.judge value).answer.2.template.parsed? value (c.judge value).answer.1,
    (c.judge value).answer.2) = _
  rw [judge_answer good]
  simp only [prepare_template]
  rfl

theorem groups_answer {c : CachedTemplate} (good : c.Good) :
    c.groups.answer = (c.template.groups, c.prepare.answer.2) := by
  show (c.prepare.answer.1.groups, c.prepare.answer.2) = _
  rw [prepare_answer good]
  rfl

end CachedTemplate
end UriRouting
