import Syllogistic.Proofs.Chart.Agreement
import Syllogistic.Proofs.Model.Recording

/-!
# Models that agree

Two gathering models agree when they have the same names and configuration and their
statements make charts that agree, whatever the statements are.  They are then built or
refused together, and what they answer to a conclusion is the same.  The premises listed
under a region, and the conflict that is reported, may differ.
-/

namespace Syllogistic
namespace Model

/-- Two gathering models have the same configuration and names, and charts that agree. -/
structure Agrees (left right : Model) : Prop where
  leftGathers : ∃ refused, left.stage = .gathering refused
  rightGathers : ∃ refused, right.stage = .gathering refused
  config : left.config = right.config
  names : left.names = right.names
  charts : ∀ diagram, (Chart.ofStatements diagram left.statements).Agrees
    (Chart.ofStatements diagram right.statements)

namespace Agrees

variable {left right : Model}

/-- Models that agree are built together, and their charts agree. -/
theorem exists_agrees_of_build
    (agrees : left.Agrees right)
    (leftCoherent : left.Coherent)
    (rightCoherent : right.Coherent) :
    (left.build.result = .ok () ↔ right.build.result = .ok ()) ∧
      (left.build.result = .ok () → ∃ leftChart rightChart,
        left.build.model = { left with stage := .built leftChart } ∧
          right.build.model = { right with stage := .built rightChart } ∧
            leftChart.Agrees rightChart ∧
              (leftChart.conflicts = [] ↔ rightChart.conflicts = [])) := by
  cases drawn : Diagram.ofAscending left.names with
  | error fault =>
      obtain ⟨_, leftStage⟩ := agrees.leftGathers
      obtain ⟨_, rightStage⟩ := agrees.rightGathers
      have leftFails : left.build.result = .error (.size fault) := by
        simp only [build, leftStage, drawn]
      have rightFails : right.build.result = .error (.size fault) := by
        simp only [build, rightStage, ← agrees.names, drawn]
      rw [leftFails, rightFails]
      refine ⟨Iff.rfl, fun succeeds => ?_⟩
      contradiction
  | ok diagram =>
      have circles := Diagram.names_of_ofAscending drawn
      have charts := agrees.charts diagram
      have conflicts := charts.conflicts_eq_nil_iff
        (leftCoherent.records_ofStatements circles)
        (rightCoherent.records_ofStatements (circles.trans agrees.names))
      obtain ⟨together, built⟩ := build_together agrees.leftGathers agrees.rightGathers drawn
        (agrees.names ▸ drawn) agrees.config conflicts
      refine ⟨together, fun succeeds => ?_⟩
      obtain ⟨leftAfter, rightAfter⟩ := built succeeds
      exact ⟨_, _, leftAfter, rightAfter, charts, conflicts⟩

/-- After a build, successful or not, models that agree show the same and answer alike. -/
theorem answers_of_build
    (agrees : left.Agrees right)
    (leftCoherent : left.Coherent)
    (rightCoherent : right.Coherent) :
    left.build.model.forcedEmpty.keys = right.build.model.forcedEmpty.keys ∧
      left.build.model.witnessGroups.keys = right.build.model.witnessGroups.keys ∧
        ∀ statement, (left.build.model.evaluate statement).toOption =
          (right.build.model.evaluate statement).toOption := by
  obtain ⟨together, built⟩ := agrees.exists_agrees_of_build leftCoherent rightCoherent
  by_cases succeeds : left.build.result = .ok ()
  · obtain ⟨leftChart, rightChart, leftAfter, rightAfter, charts, conflicts⟩ := built succeeds
    have leftStage : left.build.model.stage = .built leftChart := congrArg Model.stage leftAfter
    have rightStage : right.build.model.stage = .built rightChart :=
      congrArg Model.stage rightAfter
    have configs : left.build.model.config = right.build.model.config := by
      rw [leftAfter, rightAfter]
      exact agrees.config
    refine ⟨?_, ?_, fun statement => ?_⟩
    · rw [forcedEmpty_of_built leftStage, forcedEmpty_of_built rightStage,
        charts.forcedEmpty_keys]
    · rw [witnessGroups_of_built leftStage, witnessGroups_of_built rightStage, charts.keys]
    · rw [toOption_evaluate leftStage, toOption_evaluate rightStage, configs, charts.evaluate]
      simp only [ne_eq, conflicts]
  · have leftUnbuilt : left.build.model.isBuilt = false := by
      rw [← Bool.not_eq_true, ← build_eq_ok_iff_isBuilt (isBuilt_of_gathering agrees.leftGathers)]
      exact succeeds
    have rightUnbuilt : right.build.model.isBuilt = false := by
      rw [← Bool.not_eq_true,
        ← build_eq_ok_iff_isBuilt (isBuilt_of_gathering agrees.rightGathers), ← together]
      exact succeeds
    obtain ⟨leftForced, leftGroups⟩ := records_eq_empty_of_not_built leftUnbuilt
    obtain ⟨rightForced, rightGroups⟩ := records_eq_empty_of_not_built rightUnbuilt
    rw [leftForced, rightForced, leftGroups, rightGroups]
    refine ⟨rfl, rfl, fun statement => ?_⟩
    rw [evaluate_of_not_built leftUnbuilt, evaluate_of_not_built rightUnbuilt]

end Agrees
end Model
end Syllogistic
