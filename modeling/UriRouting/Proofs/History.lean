/-
# UriRouting.Proofs.History — a template in use

A template that has kept its matcher answers as one that was built a moment ago.  To say so
of every way of using it, what can be asked of a template and done to it is an `Operation`, a
use is a list of them, and two things are read off that list without any cache: what the
template has become by it (`current`), and whether it holds a use of the matcher since the
last operation that drops what is kept (`compiled`).

One step is described completely by `perform_standing`: the answer, the change of the
template, whether a matcher is kept afterwards, and the events, the defects of the pattern
first if the pattern is read.  By induction the state after any history is the current
template with its own matcher or with none (`after_eq`), and with the step behind it this is
all that `perform_after` says: no answer is stale, and the pattern is read for the matcher
once only until the next reset.
-/
import Mathlib.Data.List.DropRight
import Mathlib.Data.List.Induction
import UriRouting.Template.Cached

namespace UriRouting

set_option autoImplicit false

/-- The event is about what is wrong with a pattern. -/
def Event.isDefect : Event → Bool
  | .defect _ _ => true
  | _ => false

namespace CachedTemplate

/-! ## Operations -/

inductive Operation where
  | matchedSize (value : Text)
  | parse (value : Text)
  | groups
  | variableNames
  | format (resolve : Text → Option Text)
  | describe (name : Text)
  | setPattern (pattern : Text)
  | setMode (mode : Mode)
  | setEncoding (encoding : Bool)
  /-- The template is copied, and what follows is done to the copy. -/
  | clone
  /-- The template is copied, and what follows is done to the original. -/
  | cloneAside

inductive Answer where
  | size (size : Option Nat)
  | parsed (parsed : Option Parsed)
  | names (names : List Text)
  | text (text : Text)
  | descriptor (descriptor : Variable)
  | done
  deriving DecidableEq

def perform (c : CachedTemplate) : Operation → Logged (Answer × CachedTemplate)
  | .matchedSize value => do
    let (size, c) ← c.matchedSize? value
    pure (.size size, c)
  | .parse value => do
    let (parsed, c) ← c.parse? value
    pure (.parsed parsed, c)
  | .groups => do
    let (names, c) ← c.groups
    pure (.names names, c)
  | .variableNames => do
    let names ← c.variableNames
    pure (.names names, c)
  | .format resolve => do
    let text ← c.format resolve
    pure (.text text, c)
  | .describe name => pure (.descriptor (c.template.describe name), c)
  | .setPattern pattern => pure (.done, c.setPattern pattern)
  | .setMode mode => pure (.done, c.setMode mode)
  | .setEncoding encoding => pure (.done, c.setEncoding encoding)
  | .clone => pure (.done, c.fresh)
  | .cloneAside => pure (.done, c)

/-- A template that was just built. -/
def built (t : Template) : CachedTemplate := { template := t }

/-- A template after a history, the earliest operation first. -/
def after (t : Template) (history : List Operation) : CachedTemplate :=
  history.foldl (fun c op => (c.perform op).answer.2) (built t)

namespace Operation

/-- The operation needs the matcher. -/
def usesMatcher : Operation → Bool
  | matchedSize _ | parse _ | groups => true
  | _ => false

/-- The operation reads the pattern itself, whatever is kept. -/
def readsPattern : Operation → Bool
  | variableNames | format _ => true
  | _ => false

/-- Nothing is kept behind the operation. -/
def resets : Operation → Bool
  | setPattern _ | setMode _ | clone => true
  | _ => false

/-- What the operation makes of a template. -/
def change : Operation → Template → Template
  | setPattern pattern, t => { t with pattern }
  | setMode mode, t => { t with mode }
  | setEncoding encoding, t => { t with encoding }
  | _, t => t

/-- What a template answers that keeps nothing. -/
def answer (t : Template) : Operation → Answer
  | matchedSize value => .size (t.matchedSize? value)
  | parse value => .parsed (t.parse? value)
  | groups => .names t.groups
  | variableNames => .names t.variableNames
  | format resolve => .text (t.format resolve)
  | describe name => .descriptor (t.describe name)
  | _ => .done

/-- What is logged of the outcome of the operation. -/
def outcomeEvents (t : Template) : Operation → List Event
  | matchedSize value => giveUpEvents t value (t.verdict value)
  | parse value => giveUpEvents t value (t.verdict value) ++ captureEvents t (t.verdict value)
  | _ => []

end Operation

/-! ## What a history comes to -/

/-- What the operations have made of a template. -/
def current (t : Template) (history : List Operation) : Template :=
  history.foldl (fun t op => op.change t) t

/-- The operations behind the last one that resets, or all if there is none. -/
def sinceReset (history : List Operation) : List Operation :=
  history.rtakeWhile fun op => !op.resets

/-- The matcher was used since the last reset. -/
def compiled (history : List Operation) : Bool :=
  (sinceReset history).any Operation.usesMatcher

@[simp] theorem current_snoc (t : Template) (history : List Operation) (op : Operation) :
    current t (history ++ [op]) = op.change (current t history) := by
  simp [current]

theorem after_snoc (t : Template) (history : List Operation) (op : Operation) :
    after t (history ++ [op]) = ((after t history).perform op).answer.2 := by
  simp [after]

theorem compiled_snoc (history : List Operation) (op : Operation) :
    compiled (history ++ [op]) = (!op.resets && (op.usesMatcher || compiled history)) := by
  unfold compiled sinceReset
  rw [List.rtakeWhile_concat]
  cases op.resets with
  | true => rfl
  | false => simp [Bool.or_comm]

/-! ## One step -/

/-- A template with its matcher kept, or with nothing kept. -/
def standing (t : Template) (kept : Bool) : CachedTemplate :=
  ⟨t, if kept then some t.matcher else none⟩

/-- The pattern is read, be it for itself or because the matcher is needed and not kept. -/
def Operation.scans (op : Operation) (kept : Bool) : Bool :=
  op.readsPattern || (op.usesMatcher && !kept)

/-- What a step answers, and what becomes of the template and of what is kept. -/
theorem answer_perform_standing (t : Template) (kept : Bool) (op : Operation) :
    ((standing t kept).perform op).answer =
      (op.answer t, standing (op.change t) (!op.resets && (op.usesMatcher || kept))) := by
  cases op <;> cases kept <;> rfl

theorem answer_judge_standing (t : Template) (kept : Bool) (value : Text) :
    ((standing t kept).judge value).answer = (t.verdict value, standing t true) := by
  cases kept <;> rfl

theorem events_prepare_standing (t : Template) (kept : Bool) :
    (standing t kept).prepare.events = if kept then [] else Pattern.events t.pattern := by
  cases kept with
  | true => rfl
  | false => exact List.append_nil _

theorem events_judge_standing (t : Template) (kept : Bool) (value : Text) :
    ((standing t kept).judge value).events =
      (if kept then [] else Pattern.events t.pattern) ++
        giveUpEvents t value (t.verdict value) := by
  have matcher : (standing t kept).prepare.answer = (t.matcher, standing t true) := by
    cases kept <;> rfl
  simp only [judge, Logged.events_bind, Logged.events_log, Logged.events_pure,
    events_prepare_standing, matcher, List.append_nil]
  rfl

/-- What a step logs. -/
theorem events_perform_standing (t : Template) (kept : Bool) (op : Operation) :
    ((standing t kept).perform op).events =
      (if op.scans kept then Pattern.events t.pattern else []) ++ op.outcomeEvents t := by
  cases op with
  | matchedSize value =>
      simp only [perform, CachedTemplate.matchedSize?, Logged.events_bind, Logged.events_pure,
        List.append_nil, events_judge_standing]
      cases kept <;> rfl
  | parse value =>
      simp only [perform, CachedTemplate.parse?, Logged.events_bind, Logged.events_log,
        Logged.events_pure, List.append_nil, events_judge_standing, answer_judge_standing,
        List.append_assoc]
      cases kept <;> rfl
  | groups =>
      simp only [perform, CachedTemplate.groups, Logged.events_bind, Logged.events_pure,
        List.append_nil, events_prepare_standing]
      cases kept with
      | true => rfl
      | false => exact (List.append_nil _).symm
  | variableNames =>
      simp only [perform, CachedTemplate.variableNames, Logged.events_bind, Logged.events_log,
        Logged.events_pure, List.append_nil]
      exact (List.append_nil _).symm
  | format resolve =>
      simp only [perform, CachedTemplate.format, Logged.events_bind, Logged.events_log,
        Logged.events_pure, List.append_nil]
      exact (List.append_nil _).symm
  | describe name | setPattern pattern | setMode mode | setEncoding encoding => rfl
  | clone | cloneAside => rfl

/-! ## A whole history -/

/-- After any history there is the current template, with its own matcher or with none. -/
theorem after_eq (t : Template) (history : List Operation) :
    after t history = standing (current t history) (compiled history) := by
  induction history using List.reverseRecOn with
  | nil => rfl
  | append_singleton history op ih =>
      rw [after_snoc, ih, answer_perform_standing, current_snoc, compiled_snoc]

theorem isDefect_of_mem_events {pattern : Text} {e : Event}
    (member : e ∈ Pattern.events pattern) : e.isDefect = true := by
  obtain ⟨defect, -, rfl⟩ := List.mem_map.1 member
  rfl

theorem isDefect_of_mem_giveUpEvents {t : Template} {value : Text} {verdict : Verdict} {e : Event}
    (member : e ∈ giveUpEvents t value verdict) : e.isDefect = false := by
  cases verdict with
  | gaveUp =>
      rw [List.mem_singleton.1 member]
      rfl
  | matched captures rest => cases member
  | missed => cases member

theorem isDefect_of_mem_captureEvents {t : Template} {verdict : Verdict} {e : Event}
    (member : e ∈ captureEvents t verdict) : e.isDefect = false := by
  cases verdict with
  | matched captures rest =>
      obtain ⟨capture, -, rfl⟩ := List.mem_map.1 member
      rfl
  | missed => cases member
  | gaveUp => cases member

theorem isDefect_of_mem_outcomeEvents {t : Template} {op : Operation} {e : Event}
    (member : e ∈ op.outcomeEvents t) : e.isDefect = false := by
  cases op with
  | matchedSize value => exact isDefect_of_mem_giveUpEvents member
  | parse value =>
      rcases List.mem_append.1 member with member | member
      · exact isDefect_of_mem_giveUpEvents member
      · exact isDefect_of_mem_captureEvents member
  | _ => cases member

/-- Apart from the defects of the pattern a step logs what comes of it. -/
theorem filter_events_perform_standing (t : Template) (kept : Bool) (op : Operation) :
    (((standing t kept).perform op).events.filter fun e => !e.isDefect) = op.outcomeEvents t := by
  have defects : ((if op.scans kept then Pattern.events t.pattern else []).filter
      fun e => !e.isDefect) = [] := by
    apply List.filter_eq_nil_iff.2
    intro e member
    split at member
    · simp [isDefect_of_mem_events member]
    · cases member
  have others : ((op.outcomeEvents t).filter fun e => !e.isDefect) = op.outcomeEvents t := by
    apply List.filter_eq_self.2
    intro e member
    simp [isDefect_of_mem_outcomeEvents member]
  rw [events_perform_standing, List.filter_append, defects, others, List.nil_append]

/-- **What is kept is never stale, and the pattern is read for it once until the next reset.**
After any history an operation answers as a template that was built from what the template
has become.  The defects of the pattern are logged by the operations that read it themselves
and by the first behind a reset that needs the matcher; besides, the events are those of the
template just built.  Formatting and listing names leave what is kept as it is. -/
theorem perform_after (t : Template) (history : List Operation) (op : Operation) :
    ((after t history).perform op).answer.1 =
        ((built (current t history)).perform op).answer.1 ∧
      ((after t history).perform op).events =
        (if op.readsPattern || (op.usesMatcher && !compiled history) then
          Pattern.events (current t history).pattern else []) ++
        (((built (current t history)).perform op).events.filter fun e => !e.isDefect) ∧
      (after t history).matcher =
        (if compiled history then some (current t history).matcher else none) ∧
      ((after t history).perform .variableNames).answer.2 = after t history ∧
      ∀ resolve, ((after t history).perform (.format resolve)).answer.2 = after t history := by
  have fresh : built (current t history) = standing (current t history) false := rfl
  rw [after_eq, fresh]
  refine ⟨?_, ?_, rfl, ?_, ?_⟩
  · rw [answer_perform_standing, answer_perform_standing]
  · rw [events_perform_standing, filter_events_perform_standing]
    rfl
  · rw [answer_perform_standing]
    simp [Operation.change, Operation.resets, Operation.usesMatcher]
  · intro resolve
    rw [answer_perform_standing]
    simp [Operation.change, Operation.resets, Operation.usesMatcher]

/-- What each operation of a history logs, in a template that keeps its matcher: the defect is
logged when the matcher is made, again when it is made for the other mode, and by `format`. -/
example : let logs (history : List Operation) (op : Operation) :=
      (((after { pattern := "/\x7b".toList } history).perform op).events).length
    logs [] .groups = 1 ∧ logs [.groups] (.matchedSize "/\x7b".toList) = 0 ∧
      logs [.groups, .setMode .startsWith] (.parse "/\x7b".toList) = 1 ∧
      logs [.groups, .setEncoding true] (.format fun _ => none) = 1 ∧
      logs [.groups, .format fun _ => none] .groups = 0 := by
  decide +kernel

end CachedTemplate
end UriRouting
