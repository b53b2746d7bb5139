import Syllogistic.Model
import Syllogistic.Premise

/-!
# Adding premises to a model

Every addition is checked before the model changes: it must still gather, what is
added must be well formed, and it may not bring in a fourth name.  A block of
premises is added line by line, so a faulty line leaves those before it in place.
-/

namespace Syllogistic
namespace Model

open Text

/-- Why the names cannot be added, if they would be too many. -/
def crowding? (model : Model) (names : List String) : Option SizeFault :=
  let combined := model.names.insertAll names
  if Diagram.most < combined.size then some (.tooMany combined.toList) else none

/-- Declares the name that a text gives; the answer is whether it is new. -/
def declare (model : Model) (text : String) : Outcome Bool :=
  let name := Name.canonical text
  match model.stage with
  | .built _ => model.refuse (.stage .alreadyBuilt)
  | .gathering _ =>
      if name = "" then model.refuse (.grammar .nothingToRead)
      else
        match model.crowding? [name] with
        | some fault => model.refuse (.size fault)
        | none =>
            if name ∈ model.names then ⟨.ok false, model, []⟩
            else ⟨.ok true, { model with names := model.names.insert name }, [.declared text]⟩

/-- Adds a statement and its names; the answer is whether its proposition is new. -/
def add (model : Model) (statement : Statement) : Outcome Bool :=
  let names := statement.proposition.names
  match model.stage with
  | .built _ => model.refuse (.stage .alreadyBuilt)
  | .gathering _ =>
      match statement.check with
      | .error fault => model.refuse (.grammar fault)
      | .ok () =>
          match model.crowding? names with
          | some fault => model.refuse (.size fault)
          | none =>
              let grown := { model with names := model.names.insertAll names }
              if model.hasProposition statement.proposition then ⟨.ok false, grown, []⟩
              else
                ⟨.ok true, { grown with statements := model.statements ++ [statement] },
                  [.added statement.proposition]⟩

/-- An outcome whose answer does not matter. -/
private def forget (outcome : Outcome Bool) : Outcome Unit :=
  { outcome with result := outcome.result.map fun _ => () }

/-- Adds what a line says; a blank line adds nothing. -/
def addLine (model : Model) (line : String) : Outcome Unit :=
  match Premise.read line with
  | .error fault => model.refuse (.grammar fault)
  | .ok none => ⟨.ok (), model, []⟩
  | .ok (some (.name name)) => forget (model.declare name)
  | .ok (some (.statement statement)) => forget (model.add statement)

/-- Adds numbered lines up to the first that is refused, and counts those not blank. -/
def addLines (model : Model) : List (Nat × String) → Outcome Nat
  | [] => ⟨.ok 0, model, []⟩
  | (number, line) :: rest =>
      if isAllBlank line.toList then model.addLines rest
      else
        let first := model.addLine line
        match first.result with
        | .error error =>
            ⟨.error error, first.model, first.events ++ [.refused number line error]⟩
        | .ok () =>
            let others := first.model.addLines rest
            ⟨others.result.map (· + 1), others.model, first.events ++ others.events⟩

/-- Adds a block of premises, and counts the lines that are not blank. -/
def read (model : Model) (block : String) : Outcome Nat :=
  let outcome := model.addLines (Premise.lines model.config.separators block)
  match outcome.result with
  | .error _ => outcome
  | .ok count =>
      { outcome with
        events := outcome.events ++
          [.read count outcome.model.names.size outcome.model.statements.length] }

end Model
end Syllogistic
