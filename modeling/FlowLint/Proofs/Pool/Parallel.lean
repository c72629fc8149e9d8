import FlowLint.Proofs.Check.Run
import FlowLint.Proofs.File.Batch
import FlowLint.Proofs.Pool.Schedule

/-!
# Checking with workers

The nodes of a graph are checked by a pool, and so are the files of a batch, when there are several
of them and more than one worker. The diagnostics of the nodes are put together in the order of the
nodes. A node or a file after one that fails is checked by a pool and not by a walk, and this makes
no difference (`parallel_eq_sequential`): not to what is given, nor to the fault that is raised.
-/

namespace FlowLint

/-- What checking a graph with some workers can give. The diagnostics that were found are put
together node by node. -/
def Check.Gives (g : Graph) (settings : Settings) (workers : Int)
    (outcome : Except CheckFault (List Diagnostic)) : Prop :=
  ∃ perNode, Pool.Maps (node (.of g settings)) g.nodes workers perNode
    ∧ perNode.map (fun blocks => (g.nodes.zip blocks).flatMap (·.2)) = outcome

/-- What checking files with some workers can give. -/
def Workflow.Gives (system : FileSystem) (settings : Settings) (paths : List String) (workers : Int)
    (outcome : Except Interruption (List FileResult)) : Prop :=
  Pool.Maps (checkFile system settings) paths workers outcome

/-- The blocks of all nodes, put together node by node, are what a run gives. -/
theorem Check.map_walk_eq_graph (g : Graph) (settings : Settings) :
    (Outcome.walk (node (.of g settings)) g.nodes).map
      (fun blocks => (g.nodes.zip blocks).flatMap (·.2)) = graph g settings := by
  rw [graph, nodes_eq_walk]
  cases hwalk : Outcome.walk (node (.of g settings)) g.nodes with
  | error fault => rfl
  | ok blocks =>
    have hlength : g.nodes.length = blocks.length :=
      (Outcome.walk_eq_ok_iff.1 hwalk).length_eq
    have hblocks : (g.nodes.zip blocks).flatMap (·.2) = blocks.flatten := by
      rw [List.flatMap_def, List.map_snd_zip (Nat.le_of_eq hlength.symm)]
    exact congrArg Except.ok hblocks

theorem Check.gives_iff {g : Graph} {settings : Settings} {workers : Int}
    {outcome : Except CheckFault (List Diagnostic)} :
    Gives g settings workers outcome ↔ graph g settings = outcome := by
  unfold Gives
  simp only [Pool.maps_iff]
  rw [exists_eq_left', map_walk_eq_graph]

theorem Workflow.gives_iff {system : FileSystem} {settings : Settings} {paths : List String}
    {workers : Int} {outcome : Except Interruption (List FileResult)} :
    Gives system settings paths workers outcome ↔ checkFiles system settings paths = outcome := by
  rw [checkFiles_eq_walk]
  exact Pool.maps_iff

/-- **Checking with workers is checking one by one**, whatever the schedule. The nodes of a graph
give the same diagnostics in the same order, or the fault of the first node that has one, and the
files of a batch give the same results, or the fault of the first path that has one. -/
theorem parallel_eq_sequential (workers : Int) :
    (∀ g settings outcome, Check.Gives g settings workers outcome
        ↔ Check.graph g settings = outcome)
    ∧ (∀ g settings fault, Check.Gives g settings workers (.error fault)
        ↔ ∃ before n after, g.nodes = before ++ n :: after
          ∧ (∀ other ∈ before, ∃ found, Check.node (.of g settings) other = .ok found)
          ∧ Check.node (.of g settings) n = .error fault)
    ∧ (∀ system settings paths outcome, Workflow.Gives system settings paths workers outcome
        ↔ Workflow.checkFiles system settings paths = outcome)
    ∧ ∀ system settings paths cause, Workflow.Gives system settings paths workers (.error cause)
        ↔ ∃ before path after, paths = before ++ path :: after
          ∧ (∀ other ∈ before, ∃ result, Workflow.checkFile system settings other = .ok result)
          ∧ Workflow.checkFile system settings path = .error cause := by
  refine ⟨fun _ _ _ => Check.gives_iff, fun g settings fault => ?_,
    fun _ _ _ _ => Workflow.gives_iff, fun system settings paths cause => ?_⟩
  · rw [Check.gives_iff, Check.graph_eq_error_iff]
  · rw [Workflow.gives_iff, Workflow.checkFiles_eq_walk, Outcome.walk_eq_error_iff]

end FlowLint
