import LeastPrivilege.Console.Table
import LeastPrivilege.Settings

/-!
The console: a text with markup as the lines that a terminal shows of it.
-/

namespace LeastPrivilege.Console

/-- The width of a terminal that does not say its own. -/
def defaultWidth : Nat := 80

/-- The width of the terminal, as the environment gives it. -/
def widthIn (env : Environment) : Nat :=
  match env.value? "COLUMNS" with
  | some text =>
    let width := Text.digitsValue text
    if text.all Text.isDigit && 0 < width then width else defaultWidth
  | none => defaultWidth

/-- The lines that show a text with markup. -/
def render (width : Nat) (markup : Text) : Except Fault (List Text) := do
  let lines := (← marked markup).wrap .fold width
  checkStyles lines
  return lines.map fun m => (fitSegments width false m.segments).flatten

end LeastPrivilege.Console
