import Syllogistic.Proofs.Model.Evaluation

/-!
# What a model shows

Whatever operations a model has been through, succeeded or not, its names, statements
and stage fit together, and in a built model so do its diagram and what stands on it.
Hence a build never finds too many names or a statement that it cannot record, and an
evaluation on a built model is refused for two reasons only.
-/

namespace Syllogistic
namespace Model

/-- The parts of a model fit together. -/
structure WellFormed (model : Model) : Prop where
  few : model.names.size ≤ 3
  distinct : model.statements.Pairwise fun earlier later =>
    earlier.proposition ≠ later.proposition
  checked : ∀ statement ∈ model.statements, statement.check = .ok ()
  named : ∀ statement ∈ model.statements, ∀ name ∈ statement.proposition.names,
    name ∈ model.names
  built_iff_drawn : model.isBuilt = true ↔ ∃ diagram, model.diagram? = some diagram
  drawn : ∀ diagram, model.diagram? = some diagram →
    diagram.names = model.names ∧ (model.names.size = 2 ∨ model.names.size = 3)
  forcedEmpty : ∀ diagram, model.diagram? = some diagram →
    ∀ region premises, model.forcedEmpty.get? region = some premises →
      region ∈ diagram.regions ∧ premises ≠ [] ∧
        ∀ premise ∈ premises, premise ∈ model.statements ∧
          premise.quantifier = some .universal
  witnessGroups : ∀ diagram, model.diagram? = some diagram →
    ∀ group premises, model.witnessGroups.get? group = some premises →
      (group ≠ [] ∧ group.Pairwise (· < ·) ∧ ∀ region ∈ group, region ∈ diagram.regions) ∧
        premises ≠ [] ∧
          ∀ premise ∈ premises, premise ∈ model.statements ∧
            premise.quantifier = some .particular
  unrecorded : model.isBuilt = false →
    model.forcedEmpty = .empty ∧ model.witnessGroups = .empty

variable {model : Model}

theorem diagram?_eq_some_iff {diagram : Diagram} :
    model.diagram? = some diagram ↔
      ∃ chart, model.stage = .built chart ∧ chart.diagram = diagram := by
  simp only [diagram?, Option.map_eq_some_iff, chart?_eq_some_iff]

theorem isBuilt_iff_exists_diagram :
    model.isBuilt = true ↔ ∃ diagram, model.diagram? = some diagram := by
  unfold isBuilt diagram?
  cases model.chart? <;> simp

/-- What every operation preserves makes the parts of a model fit together. -/
theorem Coherent.fits (coherent : model.Coherent) : model.WellFormed where
  few := coherent.few
  distinct := coherent.distinct
  checked statement member := Statement.check_eq_ok_iff.2 (coherent.wellFormed statement member)
  named := coherent.named
  built_iff_drawn := isBuilt_iff_exists_diagram
  drawn diagram shown := by
    obtain ⟨chart, stage, rfl⟩ := diagram?_eq_some_iff.1 shown
    have names := (coherent.charted chart stage).1
    exact ⟨names, names ▸ chart.diagram.size_names⟩
  forcedEmpty diagram shown region premises found := by
    obtain ⟨chart, stage, rfl⟩ := diagram?_eq_some_iff.1 shown
    rw [forcedEmpty_of_built stage] at found
    exact (coherent.records stage).forcedEmpty_holds found
  witnessGroups diagram shown group premises found := by
    obtain ⟨chart, stage, rfl⟩ := diagram?_eq_some_iff.1 shown
    rw [witnessGroups_of_built stage] at found
    exact (coherent.records stage).witnessGroups_holds found
  unrecorded := records_eq_empty_of_not_built

end Model
end Syllogistic
