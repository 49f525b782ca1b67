import Screenplay.CommandLine.Report
import Screenplay.Proofs.Document.Description
import Screenplay.Proofs.Layering.History
import Screenplay.Proofs.Layering.Loading

/-!
# Outcomes of command lines

How the program ends for a command line that it understands.  If nothing is loaded, the
command does not matter: every one of them ends with the same failure.  Otherwise it depends
on what the configuration defines whether a command can be answered, and a command that
cannot prints no part of an answer.

What is listed of the workflows is told by a list of their names and numbers of tasks.
-/

namespace Screenplay

/-! ## Loaded configurations -/

theorem LayerFile.Gives.layered {file : LayerFile} {mayBeBlank : Bool} {config : Config}
    (gives : file.Gives mayBeBlank (.ok (some config))) : config.Layered := by
  cases gives with
  | layer state visible read =>
      rw [Config.ofText] at read
      split at read
      · cases read
      · exact .read read

namespace Layers

theorem Gives.layered {file : Option LayerFile} {mayBeBlank : Bool} {config : Config}
    (gives : Gives mayBeBlank file (.ok (some config))) : config.Layered := by
  cases gives with
  | file gives => exact gives.layered

end Layers

theorem Section.ofName_eq_ok_iff {name : String} {part : Section} :
    Section.ofName name = .ok part ↔ Text.trim name = part.name := by
  rw [← find?_name_eq_some_iff (Section.ofName?_name part), ← Section.ofName?, Section.ofName]
  split <;> simp_all

namespace CommandLine

/-- Two invocations are about the same files. -/
def Invocation.SameFiles (first second : Invocation) : Prop :=
  first.config = second.config ∧ first.gas = second.gas ∧ first.runtime = second.runtime

namespace Invocation

variable {invocation other : Invocation} {read : String → FileState} {config : Config}

theorem SameFiles.load_eq (same : other.SameFiles invocation) :
    other.load read = invocation.load read := by
  obtain ⟨base, gas, runtime⟩ := same
  simp only [load, layers, base, gas, runtime]

end Invocation

end CommandLine

end Screenplay
