import Targeting.Proofs.Fields
import Targeting.Proofs.SelectorShape
import Targeting.Proofs.Stages

/-!
# Selectors as they are written

A symbol with its arguments in brackets is read as just that, whatever the
arguments are, and a single argument as what its value is accepted as.
-/
namespace Targeting

open Argument

/-! ### A single argument -/

namespace Query

open Text

/-- The argument that gives a value to a key. -/
def argument (spelling : String) (value : List Char) : List Char := spelling.toList ++ '=' :: value

theorem spelled_of_ofText? {spelling : String} {key : Key} (known : Key.ofText? spelling = some key) :
    '=' ∉ spelling.toList ∧ delimiters spelling.toList = [] ∧
      trim spelling.toList = spelling.toList ∧ spelling.toList ≠ [] := by
  obtain ⟨entry, found, rfl⟩ := Option.map_eq_some_iff.mp known
  have same : entry.2 = spelling := by simpa using List.find?_some found
  have listed : ∀ entry ∈ Key.spellings, '=' ∉ entry.2.toList ∧ delimiters entry.2.toList = [] ∧
      trim entry.2.toList = entry.2.toList ∧ entry.2.toList ≠ [] := by decide +kernel
  exact same ▸ listed entry (List.mem_of_find?_eq_some found)

theorem delimiters_argument {spelling : String} {key : Key}
    (known : Key.ofText? spelling = some key) (value : List Char) :
    delimiters (argument spelling value) = delimiters value :=
  delimiters_assignment (spelled_of_ofText? known).2.1 value

/-- An argument that is a single token gives the constraint that its value is accepted as, if it
is. -/
theorem constraints_argument_of_holds {spelling : String} {key : Key}
    (known : Key.ofText? spelling = some key) {value : List Char}
    (single : Holds {} (argument spelling value)) :
    constraints (argument spelling value) = (Constraint.ofValue? key (trim value)).toList := by
  obtain ⟨unequal, -, trimmed, filled⟩ := spelled_of_ofText? known
  have parts : splitAssignment (trim (argument spelling value)) = (spelling.toList, trim value) := by
    rw [argument, splitAssignment_trim unequal, trimmed]
  have taken : Constraint.ofToken? (trim (argument spelling value)) =
      Constraint.ofValue? key (trim value) := by
    rw [Constraint.ofToken?, parts]
    simp only [List.isEmpty_iff, filled, if_false, Constraint.ofArgument, String.ofList_toList, known]
    exact Constraint.toOption_read key spelling (trim value)
  rw [constraints, split_of_holds single (trim_assignment_ne_nil _ _)]
  cases accepted : Constraint.ofValue? key (trim value) <;> simp [taken, accepted]

theorem holds_argument {spelling : String} {key : Key} (known : Key.ofText? spelling = some key)
    {value : List Char} (whole : IsWhole value) : Holds {} (argument spelling value) :=
  ((isWhole_congr (delimiters_argument known value)).mpr whole).1

theorem constraints_argument {spelling : String} {key : Key}
    (known : Key.ofText? spelling = some key) {value : List Char} (whole : IsWhole value) :
    constraints (argument spelling value) = (Constraint.ofValue? key (trim value)).toList :=
  constraints_argument_of_holds known (holds_argument known whole)

theorem value_read_of_holds {spelling : String} {key : Key}
    (known : Key.ofText? spelling = some key) {value : List Char}
    (single : Holds {} (argument spelling value)) (selector : String) :
    (Query.read (argument spelling value) selector).value =
      (Constraint.ofValue? key (trim value)).elim {} (Query.add {}) := by
  rw [value_read, constraints_argument_of_holds known single]
  cases Constraint.ofValue? key (trim value) <;> rfl

end Query

namespace Selector

/-- The text of a symbol with an argument list. -/
def written (symbol : Symbol) (arguments : List Char) : String :=
  String.ofList ('@' :: symbol.letter :: '[' :: (arguments ++ [']']))

theorem read_written (symbol : Symbol) (arguments : List Char) :
    (read (some (written symbol arguments))).value.symbol = symbol ∧
      (read (some (written symbol arguments))).value.query =
        (Query.constraints arguments).foldl Query.add {} := by
  have trimmed : Text.trim ((some (written symbol arguments)).getD "").toList =
      '@' :: symbol.letter :: '[' :: (arguments ++ [']']) := by
    rw [Option.getD_some, written, String.toList_ofList]
    exact Text.trim_between (by decide) (by decide) (symbol.letter :: '[' :: arguments)
  have found : shape? (Text.trim ((some (written symbol arguments)).getD "").toList) =
      some { symbol, arguments := some arguments } :=
    shape?_eq_some_iff.mpr (trimmed ▸ .plain (.listed symbol arguments))
  rw [read_of_listed found]
  exact ⟨rfl, Query.value_read _ _⟩

end Selector

namespace Chooser

/-- The chooser of a symbol with an argument list. -/
def written (symbol : Symbol) (arguments : List Char) (settings : Settings) : Chooser :=
  Chooser.ofText (some (Selector.written symbol arguments)) settings

variable (symbol : Symbol) (arguments : List Char) (settings : Settings)

theorem selector_written : (written symbol arguments settings).selector =
    (Selector.read (some (Selector.written symbol arguments))).value := by
  rw [written, ofText]

@[simp] theorem symbol_written : (written symbol arguments settings).selector.symbol = symbol := by
  rw [selector_written]
  exact (Selector.read_written symbol arguments).1

@[simp] theorem selectorQuery_written : (written symbol arguments settings).selector.query =
    (Query.constraints arguments).foldl Query.add {} := by
  rw [selector_written]
  exact (Selector.read_written symbol arguments).2

/-- What a text asks for is decided by the values that its arguments give to each key. -/
theorem selectorQuery_eq_ofValues : (written symbol arguments settings).selector.query =
    Query.ofValues (Query.given arguments) := by
  rw [selectorQuery_written, ← Query.value_read arguments "", Query.value_read_eq_ofValues]

@[simp] theorem settings_written : (written symbol arguments settings).settings = settings := by
  rw [written, ofText]

theorem query_written : (written symbol arguments settings).query =
    ((Query.constraints arguments).foldl Query.add {}).forSymbol symbol settings := by
  rw [query, selectorQuery_written, symbol_written, settings_written]

end Chooser

end Targeting
