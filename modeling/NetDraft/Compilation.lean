/-
Writing the script of a topology, if wanted only of one without problems.
-/
import NetDraft.Script
import NetDraft.Validation

namespace NetDraft

/-- The result of compiling a topology. -/
inductive Compilation where
  | script (s : Script)
  | invalid (problems : List String)
deriving DecidableEq

/-- The script of a topology, or its problems if it is to be validated and has any. -/
def Topology.compile (t : Topology) (inv : Inventory) (validate : Bool) (rules : Rules) :
    Compilation :=
  let problems := if validate then t.validate inv rules else []
  if problems.isEmpty then .script (.ofTopology t) else .invalid problems

end NetDraft
