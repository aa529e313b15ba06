import ComputeGrid.Deployment.Basic
import ComputeGrid.Workload.Validity

/-!
# Valid deployments

`Deployment.validate` goes through the workloads in order, once for each on its own (name, payload, no name twice, no
version above the deployment's) and once for what they refer to.
-/

namespace ComputeGrid.Deployment

/-- Checks each workload on its own; `seen` holds the names before it. -/
def validateEach (version : UInt32) (seen : List String) : List Workload → Except ValidationError Unit
  | [] => .ok ()
  | w :: rest => do
    w.validate
    if seen.contains w.name then throw (.duplicateName w.name)
    if version < w.version then throw (.versionRegression version w.name w.version)
    validateEach version (w.name :: seen) rest

/-- Whether a name is that of a workload of one of the kinds. -/
def names (d : Deployment) (name : String) (kinds : List WorkloadKind) : Bool :=
  (d.workload? name).any fun w => kinds.contains w.kind

/-- The first reference of a workload that leads nowhere. A machine may name a network of another deployment, but not a
workload of this one that is no network. -/
def danglingReference? (d : Deployment) (w : Workload) : Option (ReferenceKind × String) :=
  match w.payload with
  | .machine m =>
    ((m.network.publicIp.filter fun ip => !d.names ip [.publicIp]).map (.publicIp, ·)) <|>
    ((m.mounts.find? fun mount => !d.names mount.name [.disk, .qsfs]).map (.mount, ·.name)) <|>
    ((m.network.interfaces.find? fun i => (d.workload? i.network).any (·.kind != .network)).map (.network, ·.network))
  | .logs l => if d.names l.machine [.machine] then none else some (.machine, l.machine)
  | _ => none

/-- Checks the references of workloads. -/
def validateReferences (d : Deployment) : List Workload → Except ValidationError Unit
  | [] => .ok ()
  | w :: rest =>
    match d.danglingReference? w with
    | some (kind, target) => .error (.danglingReference w.name kind target)
    | none => validateReferences d rest

/-- Refuses a deployment without workloads, or with one that is not valid. -/
def validate (d : Deployment) : Except ValidationError Unit := do
  if d.workloads.isEmpty then throw .empty
  validateEach d.version [] d.workloads
  validateReferences d d.workloads

end ComputeGrid.Deployment
