/-
# UriRouting.Pattern.Part — where the braces of a pattern open and close

A pattern is cut into parts: runs of text outside of braces, the bodies between a `{` and
the next `}`, and at most one body, at the end, that is never closed. Nothing is lost and
nothing moves (`render_parts`): what a body means is decided part by part, later.
-/
import UriRouting.Text.Basic

namespace UriRouting

set_option autoImplicit false

namespace Pattern

inductive Part where
  /-- A run of characters outside of braces. -/
  | plain (text : Text)
  /-- What stands between braces. -/
  | braced (body : Text)
  /-- What follows a brace that is never closed. -/
  | unclosed (body : Text)
  deriving Repr, DecidableEq

def Part.render : Part → Text
  | .plain text => text
  | .braced body => '{' :: body ++ ['}']
  | .unclosed body => '{' :: body

/-- A character before a list of parts: it joins a run that stands first. -/
def consPlain (c : Char) : List Part → List Part
  | .plain text :: parts => .plain (c :: text) :: parts
  | parts => .plain [c] :: parts

/-- The parts from an opening brace on, by the body behind it and, if it is closed, the
parts behind that. -/
def opened : Text × Option (List Part) → List Part
  | (body, some parts) => .braced body :: parts
  | (body, none) => [.unclosed body]

mutual

/-- The parts of a pattern, read outside of braces. -/
def parts : Text → List Part
  | [] => []
  | c :: t => if c = '{' then opened (inside t) else consPlain c (parts t)

/-- Inside of braces: the body up to the closing brace, and the parts after it. -/
def inside : Text → Text × Option (List Part)
  | [] => ([], none)
  | c :: t =>
    if c = '}' then ([], some (parts t))
    else
      let (body, later) := inside t
      (c :: body, later)

end

def render (parts : List Part) : Text := parts.flatMap Part.render

theorem render_consPlain (c : Char) (ps : List Part) :
    render (consPlain c ps) = c :: render ps := by
  unfold consPlain
  split <;> simp [render, Part.render]

/-- A pattern is its parts, put together again. -/
theorem render_parts_and_inside (t : Text) :
    render (parts t) = t ∧ render (opened (inside t)) = '{' :: t := by
  induction t with
  | nil => simp [parts, inside, opened, render, Part.render]
  | cons c t ih =>
    obtain ⟨out, ins⟩ := ih
    constructor
    · unfold parts
      split
      case isTrue h => rw [h, ins]
      case isFalse h => rw [render_consPlain, out]
    · unfold inside
      split
      case isTrue h => simpa [opened, render, Part.render, h] using out
      case isFalse h =>
        cases e : inside t with
        | mk body later =>
          rw [e] at ins
          cases later with
          | none => simpa [opened, render, Part.render] using ins
          | some ps => simpa [opened, render, Part.render] using ins

theorem render_parts (t : Text) : render (parts t) = t := (render_parts_and_inside t).1

example : parts "/a\x7bb\x7d".toList = [.plain "/a".toList, .braced "b".toList] := by decide

end Pattern
end UriRouting
