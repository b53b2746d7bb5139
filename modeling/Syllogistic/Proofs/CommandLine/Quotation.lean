import Syllogistic.CommandLine.Report
import Syllogistic.Proofs.Model.ConflictReports
import Syllogistic.Proofs.Model.Transcript

/-!
# Premises that are quoted

Snapshots, conflicts and the summary of the command line quote premises by their texts.
All that they quote comes from the statements of the model, also where a conflict was found
by an earlier build that was refused.  Where these statements were read, each quotation is
read as the statement that it stands for.
-/

namespace Syllogistic

/-- The texts that a conflict quotes. -/
def Conflict.quoted (conflict : Conflict) : List String :=
  conflict.witness :: conflict.exclusions

/-- The texts of premises in a snapshot. -/
def Snapshot.quoted (snapshot : Snapshot) : List String :=
  snapshot.forcedEmpty.entries.flatMap Prod.snd ++
    snapshot.witnesses.flatMap WitnessRecord.statements

/-- The comment quotes the statement as one that empties a region or asserts a witness. -/
inductive Statement.QuotedIn (statement : Statement) (diagram : Diagram) : String → Prop
  | empty (region : Region) :
      QuotedIn statement diagram
        ("Empty: " ++ diagram.identifier region ++ " by [" ++ statement.text ++ "]")
  | witness (group : List Region) :
      QuotedIn statement diagram
        ("Witness: (" ++ ", ".intercalate (group.map diagram.identifier) ++ ") by [" ++
          statement.text ++ "]")

/--
The summary of the chart tells its names and its regions, then come comments that each
quote a statement of a kind, and in the end its conflicts.
-/
def Chart.SummaryQuotes (chart : Chart) (kind : Statement → Prop) : Prop :=
  ∃ (names regions : String) (quoting : List String),
    CommandLine.summaryLines chart =
      ([names, regions] ++ quoting ++ chart.conflicts.map fun conflict : Conflict =>
        CommandLine.Color.darkOrange.paint conflict.message).map
          (fun comment => .output ("c " ++ comment)) ∧
    ∀ comment ∈ quoting, ∃ statement, kind statement ∧
      statement.QuotedIn chart.diagram comment

/-! ## What is quoted from a chart -/

namespace Chart
namespace Records

variable {chart : Chart} {premises : List Statement} {statement : Statement} {text : String}

theorem mem_of_mem_forcedEmpty
    {entry : Region × List Statement}
    (records : chart.Records premises)
    (listed : entry ∈ chart.forcedEmpty.entries)
    (member : statement ∈ entry.2) :
    statement ∈ premises :=
  ((records.forcedEmpty_holds (Table.mem_entries_iff.1 listed)).2.2 statement member).1

theorem mem_of_mem_witnessGroups
    {entry : List Region × List Statement}
    (records : chart.Records premises)
    (listed : entry ∈ chart.witnessGroups.entries)
    (member : statement ∈ entry.2) :
    statement ∈ premises :=
  ((records.witnessGroups_holds (Table.mem_entries_iff.1 listed)).2.2 statement member).1

/-- A conflict quotes premises only. -/
theorem exists_of_mem_quoted
    {conflict : Conflict}
    (records : chart.Records premises)
    (found : conflict ∈ chart.conflicts)
    (quoted : text ∈ conflict.quoted) :
    ∃ premise ∈ premises, premise.text = text := by
  obtain ⟨witness, reports⟩ := records.exists_reports_of_mem found
  rcases List.mem_cons.1 quoted with rfl | listed
  · exact ⟨witness, reports.stated, reports.witness_eq.symm⟩
  · obtain ⟨premise, stated, _, same⟩ := (reports.mem_exclusions_iff text).1 listed
    exact ⟨premise, stated, same⟩

/-- So does a snapshot. -/
theorem exists_of_mem_quoted_ofChart
    (records : chart.Records premises)
    (quoted : text ∈ (Snapshot.ofChart chart).quoted) :
    ∃ premise ∈ premises, premise.text = text := by
  rcases List.mem_append.1 quoted with emptying | witnessing
  · obtain ⟨⟨identifier, texts⟩, held, member⟩ := List.mem_flatMap.1 emptying
    have filed := Table.mem_of_get?_ofList (Table.mem_entries_iff.1 held)
    obtain ⟨entry, listed, same⟩ := List.mem_map.1 filed
    cases same
    obtain ⟨premise, among, same⟩ := List.mem_map.1 member
    exact ⟨premise, records.mem_of_mem_forcedEmpty listed among, same⟩
  · obtain ⟨record, held, member⟩ := List.mem_flatMap.1 witnessing
    obtain ⟨entry, listed, rfl⟩ := List.mem_map.1 held
    obtain ⟨premise, among, same⟩ := List.mem_map.1 member
    exact ⟨premise, records.mem_of_mem_witnessGroups listed among, same⟩

/-- And so does a summary. -/
theorem summaryQuotes (records : chart.Records premises) : chart.SummaryQuotes (· ∈ premises) := by
  unfold SummaryQuotes CommandLine.summaryLines
  dsimp only
  rw [List.append_assoc [_, _]]
  refine ⟨_, _, _, rfl, fun comment told => ?_⟩
  rcases List.mem_append.1 told with emptying | witnessing
  · obtain ⟨⟨region, held⟩, listed, among⟩ := List.mem_flatMap.1 emptying
    obtain ⟨premise, stated, rfl⟩ := List.mem_map.1 among
    exact ⟨premise, records.mem_of_mem_forcedEmpty listed stated, .empty region⟩
  · obtain ⟨⟨group, held⟩, listed, among⟩ := List.mem_flatMap.1 witnessing
    obtain ⟨premise, stated, rfl⟩ := List.mem_map.1 among
    exact ⟨premise, records.mem_of_mem_witnessGroups listed stated, .witness group⟩

end Records
end Chart

/-! ## What is quoted from a model -/

namespace Model

variable {model : Model} {conflict : Conflict} {config : Config} {operations : List Operation}

/-- The conflict is listed by the model, or it refuses a build or a conclusion. -/
inductive Raises (model : Model) (conflict : Conflict) : Prop
  | lists (listed : conflict ∈ model.conflicts)
  | refusesBuild (refused : model.build.result = .error (.conflict conflict))
  | refusesConclusion (conclusion : String)
      (refused : model.evaluateText conclusion = .error (.conflict conflict))

/-- The text is that of a statement of the model, and it is read as this statement. -/
def ReadsBack (model : Model) (text : String) : Prop :=
  ∃ statement ∈ model.statements, statement.text = text ∧
    Statement.read text = .ok statement

/-- The conflicts of a model quote its statements only. -/
def QuotesItself (model : Model) : Prop :=
  ∀ conflict ∈ model.conflicts, ∀ text ∈ conflict.quoted,
    ∃ statement ∈ model.statements, statement.text = text

/-- While a model grows its conflicts go on quoting its statements. -/
theorem QuotesItself.of_prefix
    {after : Model}
    (quotes : model.QuotesItself)
    (stage : after.stage = model.stage)
    (grows : model.statements <+: after.statements) :
    after.QuotesItself := by
  have conflicts : after.conflicts = model.conflicts := by
    unfold conflicts
    rw [stage]
  intro conflict listed text quoted
  rw [conflicts] at listed
  obtain ⟨statement, stated, same⟩ := quotes conflict listed text quoted
  exact ⟨statement, grows.subset stated, same⟩

/-- The conflicts that a build finds quote the statements that were built. -/
theorem QuotesItself.build
    (quotes : model.QuotesItself)
    (coherent : model.Coherent) :
    model.build.model.QuotesItself := by
  have builds := model.builds
  generalize model.build.result = result at builds
  generalize model.build.model = after at builds ⊢
  have charted {diagram : Diagram} (drawn : Diagram.ofAscending model.names = .ok diagram) :=
    coherent.records_ofStatements (Diagram.names_of_ofAscending drawn)
  cases builds with
  | again => exact quotes
  | unsized => exact fun conflict listed => absurd listed List.not_mem_nil
  | conflicting _ diagram first others _ drawn _ found =>
      intro conflict listed text quoted
      change conflict ∈ first :: others at listed
      rw [← found] at listed
      exact (charted drawn).exists_of_mem_quoted listed quoted
  | charted _ diagram _ drawn _ =>
      intro conflict listed text quoted
      exact (charted drawn).exists_of_mem_quoted listed quoted

/-- Whatever is done to a model, its conflicts quote statements that it has. -/
theorem quotesItself_run (config : Config) (operations : List Operation) :
    ((empty config).run operations).QuotesItself := by
  suffices both : ((empty config).run operations).Coherent ∧
      ((empty config).run operations).QuotesItself from both.2
  apply @run_preserves fun reached => reached.Coherent ∧ reached.QuotesItself
  · rintro reached text ⟨coherent, quotes⟩
    refine ⟨coherent.declare text, quotes.of_prefix (reached.declare_keeps text).2 ?_⟩
    simpa only [reached.statements_declare] using List.prefix_refl reached.statements
  · rintro reached statement ⟨coherent, quotes⟩
    refine ⟨coherent.add statement, quotes.of_prefix (reached.add_keeps statement).2 ?_⟩
    rcases reached.statements_add_cases statement with same | grown
    · simpa only [same] using List.prefix_refl reached.statements
    · simpa only [grown] using List.prefix_append reached.statements [statement]
  · exact fun reached ⟨coherent, quotes⟩ => ⟨coherent.build, quotes.build coherent⟩
  · exact ⟨.empty config, fun conflict listed => absurd listed List.not_mem_nil⟩

/-- A conflict that refuses a build is among those that the model lists afterwards. -/
theorem mem_conflicts_of_build (refused : model.build.result = .error (.conflict conflict)) :
    conflict ∈ model.build.model.conflicts := by
  have builds := model.builds
  generalize model.build.result = result at builds refused
  generalize model.build.model = after at builds ⊢
  cases builds <;> cases refused
  exact List.mem_cons_self

/-- A conflict that refuses a conclusion is among those of the model. -/
theorem mem_conflicts_of_evaluateText
    {conclusion : String}
    (refused : model.evaluateText conclusion = .error (.conflict conflict)) :
    conflict ∈ model.conflicts := by
  unfold evaluateText at refused
  split at refused
  · cases refused
  · rename_i statement _
    have evaluates := model.evaluates statement
    rw [refused] at evaluates
    cases evaluates with
    | blocked _ _ _ blocks =>
        unfold blocking? at blocks
        split at blocks
        · exact List.mem_of_mem_head? blocks
        · cases blocks

/-- A conflict that a reached model raises quotes statements of the model. -/
theorem Raises.exists_of_mem_quoted
    {text : String}
    (raises : ((empty config).run operations).Raises conflict)
    (quoted : text ∈ conflict.quoted) :
    ∃ statement ∈ ((empty config).run operations).statements, statement.text = text := by
  cases raises with
  | lists listed => exact quotesItself_run config operations conflict listed text quoted
  | refusesConclusion _ refused =>
      exact quotesItself_run config operations conflict (mem_conflicts_of_evaluateText refused)
        text quoted
  | refusesBuild refused =>
      have quotes := (quotesItself_run config operations).build (coherent_run config operations)
      have listed := mem_conflicts_of_build refused
      rw [← ((empty config).run operations).build_keeps.2.2]
      exact quotes conflict listed text quoted

/-- If all statements that are added were read, so were all statements of the model. -/
theorem read_text_of_mem_run
    (readable : ∀ statement, .add statement ∈ operations →
      ∃ clause, Statement.read clause = .ok statement) :
    ∀ statement ∈ ((empty config).run operations).statements,
      Statement.read statement.text = .ok statement := by
  apply @run_preserves_of_permitted
    (fun reached => ∀ statement ∈ reached.statements, Statement.read statement.text = .ok statement)
    (fun statement => Statement.read statement.text = .ok statement)
  · intro reached text back
    rwa [reached.statements_declare]
  · intro reached added said back statement member
    rcases mem_statements_add member with old | rfl
    · exact back statement old
    · exact said
  · exact fun line statement said => Statement.read_text (Premise.read_eq_statement_iff.1 said)
  · intro statement added
    obtain ⟨clause, said⟩ := readable statement added
    exact Statement.read_text said
  · intro _ reached back
    rwa [reached.build_keeps.2.2]
  · exact fun statement member => absurd member List.not_mem_nil

/--
The text of a statement that was read is read as the statement, with the same text.  So
after operations that add no other statements, every text of a premise in a snapshot of the
model, in a conflict that the model raises and in the summary of its chart is read as the
statement of the model that it quotes.
-/
theorem quoted_premises_read_back :
    (∀ clause statement, Statement.read clause = .ok statement →
      Statement.read statement.text = .ok statement) ∧
    ∀ (config : Config) (operations : List Operation),
      (∀ statement, .add statement ∈ operations →
        ∃ clause, Statement.read clause = .ok statement) →
      let model := (empty config).run operations
      (∀ text ∈ (Snapshot.ofModel model).quoted, model.ReadsBack text) ∧
        (∀ conflict, model.Raises conflict → ∀ text ∈ conflict.quoted, model.ReadsBack text) ∧
        ∀ chart, model.chart? = some chart → chart.SummaryQuotes fun statement =>
          statement ∈ model.statements ∧ Statement.read statement.text = .ok statement := by
  refine ⟨fun clause statement => Statement.read_text, fun config operations readable => ?_⟩
  intro model
  have back : ∀ statement ∈ model.statements, Statement.read statement.text = .ok statement :=
    read_text_of_mem_run readable
  have readsBack : ∀ text, (∃ statement ∈ model.statements, statement.text = text) →
      model.ReadsBack text := by
    rintro _ ⟨statement, stated, rfl⟩
    exact ⟨statement, stated, rfl, back statement stated⟩
  have recorded : ∀ chart, model.chart? = some chart → chart.Records model.statements :=
    fun chart charted => (coherent_run config operations).records (chart?_eq_some_iff.1 charted)
  refine ⟨fun text quoted => readsBack text ?_, fun conflict raises text quoted =>
    readsBack text (raises.exists_of_mem_quoted quoted), fun chart charted => ?_⟩
  · unfold Snapshot.ofModel at quoted
    split at quoted
    · rename_i chart charted
      exact (recorded chart charted).exists_of_mem_quoted_ofChart quoted
    · exact absurd quoted List.not_mem_nil
  · obtain ⟨names, regions, quoting, lines, quotes⟩ := (recorded chart charted).summaryQuotes
    refine ⟨names, regions, quoting, lines, fun comment told => ?_⟩
    obtain ⟨statement, stated, quoted⟩ := quotes comment told
    exact ⟨statement, ⟨stated, back statement stated⟩, quoted⟩

/-- The conflict of a refused build quotes what was read with separators inside quotes. -/
theorem quoted_premises_read_back_of_refused_build :
    let statement : Statement :=
      ⟨.categorical .particular "C" false "B", some "SOME c's are \"b\""⟩
    let operations : List Operation :=
      [.read "all \"x;y\"  are b's; Some \"X;Y\" are not b ", .build, .add statement]
    let model := (empty Config.default).run operations
    (∀ other, .add other ∈ operations → ∃ clause, Statement.read clause = .ok other) ∧
      model.conflicts = [⟨"Some \"X;Y\" are not b", ["all \"x;y\"  are b's"]⟩] ∧
        model.ReadsBack "Some \"X;Y\" are not b" ∧ model.ReadsBack "all \"x;y\"  are b's" := by
  intro statement operations model
  have said : (Statement.read "\tSOME c's are \"b\"").toOption = some statement := by
    decide +kernel
  have readable : ∀ other, .add other ∈ operations →
      ∃ clause, Statement.read clause = .ok other := by
    intro other added
    simp only [operations, List.mem_cons, Operation.add.injEq, List.not_mem_nil, reduceCtorEq,
      false_or, or_false] at added
    rw [added]
    refine ⟨"\tSOME c's are \"b\"", ?_⟩
    cases result : Statement.read "\tSOME c's are \"b\"" with
    | error fault =>
        rw [result] at said
        cases said
    | ok other =>
        rw [result] at said
        cases said
        rfl
  have conflicts : model.conflicts =
      [⟨"Some \"X;Y\" are not b", ["all \"x;y\"  are b's"]⟩] := by
    decide +kernel
  have raises : model.Raises ⟨"Some \"X;Y\" are not b", ["all \"x;y\"  are b's"]⟩ := by
    apply Raises.lists
    rw [conflicts]
    exact List.mem_cons_self
  obtain ⟨_, reached⟩ := quoted_premises_read_back
  obtain ⟨_, back, _⟩ := reached Config.default operations readable
  exact ⟨readable, conflicts, back _ raises _ List.mem_cons_self,
    back _ raises _ (List.mem_cons_of_mem _ List.mem_cons_self)⟩

end Model
end Syllogistic
