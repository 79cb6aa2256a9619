/-
# Execution plans

`session/types.rs` (`PlanStatus`, `PlanItem`) and `tools/plan.rs`
(`UpdatePlanArgs::validate`).  A plan item owns its step text and its status;
`PlanItem.validate` is the check that both the model-visible `update_plan` tool
and the session store make on every item.
-/

import Moh.Library.Unicode

namespace Moh

/-- One of the five canonical states for an ordered execution-plan step. -/
inductive PlanStatus where
  | pending
  | inProgress
  | completed
  | blocked
  | cancelled
deriving DecidableEq, Repr

/-- `MAX_PLAN_STEP_SCALARS`. -/
def maxPlanStepScalars : ℕ := 256

/-- `MAX_PLAN_ITEMS`. -/
def maxPlanItems : ℕ := 32

/-- One ordered execution-plan step.  Deserialization builds items without
validating them, so the invariant is a predicate (`PlanItem.validate`) and not a
field. -/
structure PlanItem where
  step : String
  status : PlanStatus
deriving DecidableEq, Repr

/-- `PlanItem::validate`: 1 to 256 trimmed Unicode scalars without controls. -/
def PlanItem.validate (item : PlanItem) : Bool :=
  let scalarCount := item.step.toList.length
  !(scalarCount == 0 || maxPlanStepScalars < scalarCount ||
    Unicode.trim item.step.toList != item.step.toList ||
    item.step.toList.any Unicode.isControl)

/-- The number of items whose status is `in_progress`. -/
def inProgressCount (plan : List PlanItem) : ℕ :=
  (plan.filter fun item => item.status == .inProgress).length

/-- `PlanToolError`: the model-visible failures of the update-plan tool. -/
inductive PlanToolError where
  | invalidArgument (message : String)
  | runtime
deriving DecidableEq, Repr

/-- `UpdatePlanArgs`: the arguments of the `update_plan` tool. -/
structure UpdatePlanArgs where
  explanation : Option String
  plan : List PlanItem
deriving DecidableEq, Repr

/-- `UpdatePlanArgs::validate`. -/
def UpdatePlanArgs.validate (args : UpdatePlanArgs) : Except PlanToolError Unit :=
  if maxPlanItems < args.plan.length then
    .error (.invalidArgument "plan must contain at most 32 items")
  else if args.plan.any fun item => !item.validate then
    .error (.invalidArgument
      "plan steps must contain 1-256 trimmed Unicode scalars without controls")
  else if 1 < inProgressCount args.plan then
    .error (.invalidArgument "plan may contain at most one in_progress item")
  else .ok ()

/-- `PlanUpdateOutcome`: the authoritative answer to one plan replacement. -/
structure PlanUpdateOutcome where
  plan : List PlanItem
  explanation : Option String
  durable : Bool
deriving DecidableEq, Repr

end Moh
