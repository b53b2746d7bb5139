import Syllogistic.Proofs.Chart.Conclusion
import Syllogistic.Proofs.Model.Representation

/-!
# Definite areas

A built model calls an area definite when one of its witness groups leaves regions inside
the area only.  No model is looked for in which the area is vacant; there is one all the
same whenever no single group decides the matter.
-/

namespace Syllogistic
namespace Model

/--
The regions of the diagram that may be inhabited together when `subject` is spoken of:
none that is forced empty, some region of every witness group, and where a universal
subject is imported some region in its circle.
-/
structure Allows (model : Model) (diagram : Diagram) (subject : Term)
    (inhabited : Region → Prop) : Prop where
  drawn : ∀ region, inhabited region → region ∈ diagram.regions
  free : ∀ region, inhabited region → model.isForcedEmpty region = false
  witnessed : ∀ group ∈ model.witnessGroups.keys, ∃ region ∈ group, inhabited region
  imported : model.config.existentialImport = true → subject.quantifier = some .universal →
    ∃ region ∈ diagram.circle subject.name, inhabited region

variable {model : Model} {chart : Chart} {subject : Term}

theorem isDefinite_of_built (built : model.stage = .built chart) :
    model.isDefinite = chart.isDefinite model.config.existentialImport := by
  funext area subject
  unfold isDefinite
  rw [chart?_eq_some_iff.2 built]

/-- An imported circle counts as one more witness group. -/
theorem allows_iff
    {inhabited : Region → Prop}
    (built : model.stage = .built chart) :
    model.Allows chart.diagram subject inhabited ↔
      chart.Allows (chart.groupsFor model.config.existentialImport subject) inhabited := by
  constructor
  · rintro ⟨drawn, free, witnessed, imported⟩
    rw [isForcedEmpty_of_built built] at free
    rw [witnessGroups_of_built built] at witnessed
    refine ⟨drawn, free, fun group member => ?_⟩
    rcases Chart.mem_groupsFor_iff.1 member with old | ⟨imports, universal, rfl⟩
    · exact witnessed group old
    · exact imported imports universal
  · rintro ⟨drawn, free, meets⟩
    constructor
    · exact drawn
    · rwa [isForcedEmpty_of_built built]
    · rw [witnessGroups_of_built built]
      exact fun group member => meets group (Chart.mem_groupsFor_iff.2 (.inl member))
    · exact fun imports universal =>
        meets _ (Chart.mem_groupsFor_iff.2 (.inr ⟨imports, universal, rfl⟩))

/--
On a model without conflicts an area, whatever regions it is made of, is definite exactly
when every pattern of inhabited regions that the model allows has a region in it.  Left out
is only a universal subject that the premises empty, where it is imported all the same.
-/
theorem isDefinite_exact
    {diagram : Diagram}
    (reachable : model.Reachable)
    (drawn : model.diagram? = some diagram)
    (peaceful : model.conflicts = [])
    (importable : model.config.existentialImport = true →
      subject.quantifier = some .universal →
        ∃ region ∈ diagram.circle subject.name, model.isForcedEmpty region = false)
    (area : List Region) :
    model.isDefinite area subject = true ↔
      ∀ inhabited, model.Allows diagram subject inhabited → ∃ region ∈ area, inhabited region := by
  obtain ⟨chart, stage, rfl⟩ := diagram?_eq_some_iff.1 drawn
  have records := reachable.coherent.records stage
  rw [conflicts_of_built stage] at peaceful
  rw [isForcedEmpty_of_built stage] at importable
  have groups := records.draws_groupsFor model.config.existentialImport subject
  have isOpen := (records.open_groupsFor_iff peaceful).2 importable
  rw [isDefinite_of_built stage, Chart.isDefinite_iff_forall_allows groups isOpen]
  simp only [allows_iff stage]

/--
Where some A are in B and no B are in C, something is in the circle of A; the circle of C
may be vacant, also when the B that are spoken of exist.
-/
theorem isDefinite_exact_of_two_premises :
    let witness := Statement.ofProposition (.categorical .particular "A" false "B")
    let exclusion := Statement.ofProposition (.categorical .universal "B" true "C")
    let model := (Model.empty Config.default).run [.add witness, .add exclusion, .build]
    let subject : Term := ⟨"B", false, some .universal⟩
    model.conflicts = [] ∧
      ∃ diagram, model.diagram? = some diagram ∧
        (∃ region ∈ diagram.circle "B", model.isForcedEmpty region = false) ∧
        model.isDefinite (diagram.circle "A") subject = true ∧
        (∀ inhabited, model.Allows diagram subject inhabited →
          ∃ region ∈ diagram.circle "A", inhabited region) ∧
        model.isDefinite (diagram.circle "C") subject = false ∧
        ∃ inhabited, model.Allows diagram subject inhabited ∧
          ∀ region ∈ diagram.circle "C", ¬ inhabited region := by
  intro witness exclusion model subject
  have peaceful : model.conflicts = [] := by decide
  have built : model.isBuilt = true := by decide
  obtain ⟨diagram, drawn⟩ := isBuilt_iff_exists_diagram.1 built
  have tested : model.diagram?.all (fun diagram =>
      (diagram.circle "B").any (!model.isForcedEmpty ·) &&
        model.isDefinite (diagram.circle "A") subject &&
          !model.isDefinite (diagram.circle "C") subject) = true := by
    decide
  rw [drawn] at tested
  simp only [Option.all_some, Bool.and_eq_true, List.any_eq_true, Bool.not_eq_true'] at tested
  obtain ⟨⟨circle, definite⟩, indefinite⟩ := tested
  have decides := @isDefinite_exact model subject diagram ⟨_, _, rfl⟩ drawn peaceful
    fun _ _ => circle
  refine ⟨peaceful, diagram, drawn, circle, definite, (decides _).1 definite, indefinite, ?_⟩
  rw [← Bool.not_eq_true, decides] at indefinite
  simpa only [Classical.not_forall, not_exists, not_and, exists_prop] using indefinite

end Model
end Syllogistic
