import ComputeGrid.Proofs.Deployment.Validity
import ComputeGrid.Proofs.Workload.Validity

/-!
# Which deployments are accepted

A deployment is accepted if and only if it is `Deployment.Proper`: it has workloads, of different names, none of them is ahead
of it, each keeps the rules of its kind, and what they refer to is there (`Payload.Backed`).  Each workload passes beside those
before it (`Deployment.validateEach_eq_ok_iff`), and once names are different the first workload of a name is the only one
(`Deployment.workload?_eq_some_iff`), so that references do not depend on the order either.  Hence the order of workloads makes
no difference (`Deployment.validate_accepts_iff`).
-/

namespace ComputeGrid

/-! ### References -/

/-- Among some workloads there is one of a name and a kind. -/
def Provides (ws : List Workload) (name : String) (kind : WorkloadKind) : Prop := ∃ w ∈ ws, w.name = name ∧ w.kind = kind

/-- What a machine refers to is there: its address, a disk or a file system for each mount, and no workload but a network of
the name of a network. -/
structure Machine.Backed (m : Machine) (ws : List Workload) : Prop where
  publicIp : ∀ name, m.network.publicIp = some name → Provides ws name .publicIp
  mounts : ∀ mount ∈ m.mounts, Provides ws mount.name .disk ∨ Provides ws mount.name .qsfs
  interfaces : ∀ i ∈ m.network.interfaces, ∀ w ∈ ws, w.name = i.network → w.kind = .network

/-- What a payload refers to is there. -/
def Payload.Backed (p : Payload) (ws : List Workload) : Prop :=
  match p with
  | .machine m => m.Backed ws
  | .logs l => Provides ws l.machine .machine
  | _ => True

theorem Provides.of_perm {ws ws' : List Workload} {name : String} {kind : WorkloadKind} (h : ws.Perm ws')
    (hprovides : Provides ws name kind) : Provides ws' name kind := by
  obtain ⟨w, hw, hname, hkind⟩ := hprovides
  exact ⟨w, h.mem_iff.1 hw, hname, hkind⟩

theorem Payload.Backed.of_perm {p : Payload} {ws ws' : List Workload} (h : ws.Perm ws') (hbacked : p.Backed ws) :
    p.Backed ws' := by
  cases p with
  | machine m =>
    exact {
      publicIp := fun name hname => (hbacked.publicIp name hname).of_perm h
      mounts := fun mount hmount => (hbacked.mounts mount hmount).imp (Provides.of_perm h) (Provides.of_perm h)
      interfaces := fun i hi w hw => hbacked.interfaces i hi w (h.mem_iff.2 hw) }
  | logs l => exact Provides.of_perm h hbacked
  | _ => trivial

namespace Deployment

variable {d : Deployment} {w : Workload} {ws : List Workload} {name : String}

/-- There are workloads, of different names; each has a name and keeps the rules of its kind, is not ahead of the deployment,
and what it refers to is there. -/
structure Proper (d : Deployment) : Prop where
  nonempty : d.workloads ≠ []
  names : (d.workloads.map (·.name)).Nodup
  named : ∀ w ∈ d.workloads, IsName w.name
  version : ∀ w ∈ d.workloads, w.version ≤ d.version
  payloads : ∀ w ∈ d.workloads, w.payload.Proper
  references : ∀ w ∈ d.workloads, w.payload.Backed d.workloads

theorem Proper.of_perm (h : d.Proper) (hperm : d.workloads.Perm ws) : { d with workloads := ws }.Proper where
  nonempty := by
    rintro rfl
    exact h.nonempty hperm.eq_nil
  names := (hperm.map _).nodup_iff.1 h.names
  named w hw := h.named w (hperm.mem_iff.2 hw)
  version w hw := h.version w (hperm.mem_iff.2 hw)
  payloads w hw := h.payloads w (hperm.mem_iff.2 hw)
  references w hw := (h.references w (hperm.mem_iff.2 hw)).of_perm hperm

/-! ### References that lead nowhere -/

theorem validateReferences_eq_ok_iff : d.validateReferences ws = .ok () ↔ ∀ w ∈ ws, d.danglingReference? w = none := by
  induction ws with
  | nil => exact iff_of_true rfl (List.forall_mem_nil _)
  | cons w rest ih =>
    rw [validateReferences, List.forall_mem_cons, ← ih]
    cases d.danglingReference? w with
    | some r =>
      refine iff_of_false ?_ ?_
      · rintro ⟨⟩
      · rintro ⟨⟨⟩, -⟩
    | none => exact (and_iff_right rfl).symm

section Names

variable (hnames : (d.workloads.map (·.name)).Nodup)
include hnames

theorem names_iff {kinds : List WorkloadKind} :
    d.names name kinds = true ↔ ∃ w ∈ d.workloads, w.name = name ∧ w.kind ∈ kinds := by
  rw [names, Option.any_eq_true]
  simp only [workload?_eq_some_iff hnames, List.contains_iff_mem, and_assoc]

theorem danglingReference?_eq_none_iff : d.danglingReference? w = none ↔ w.payload.Backed d.workloads := by
  unfold danglingReference? Payload.Backed
  cases w.payload with
  | machine m =>
    have hip : (m.network.publicIp.filter fun ip => !d.names ip [.publicIp]) = none ↔
        ∀ name, m.network.publicIp = some name → Provides d.workloads name .publicIp := by
      simp only [Option.filter_eq_none_iff, Bool.not_eq_true', Bool.not_eq_false, names_iff hnames, List.mem_singleton,
        Provides]
    have hmounts : (m.mounts.find? fun mount => !d.names mount.name [.disk, .qsfs]) = none ↔
        ∀ mount ∈ m.mounts, Provides d.workloads mount.name .disk ∨ Provides d.workloads mount.name .qsfs := by
      simp only [List.find?_eq_none, Bool.not_eq_true', Bool.not_eq_false, names_iff hnames, List.mem_cons,
        List.not_mem_nil, or_false, Provides, ← exists_or, ← and_or_left]
    have hinterfaces : (m.network.interfaces.find? fun i => (d.workload? i.network).any (·.kind != .network)) = none ↔
        ∀ i ∈ m.network.interfaces, ∀ w ∈ d.workloads, w.name = i.network → w.kind = .network := by
      simp only [List.find?_eq_none, Option.any_eq_true, workload?_eq_some_iff hnames, bne_iff_ne, not_exists, not_and,
        and_imp, Decidable.not_not]
    dsimp only
    rw [Option.orElse_eq_orElse, Option.orElse_eq_or, Option.orElse_eq_or, Option.or_eq_none_iff, Option.or_eq_none_iff,
      Option.map_eq_none_iff, Option.map_eq_none_iff, Option.map_eq_none_iff, hip, hmounts, hinterfaces]
    constructor
    · rintro ⟨hip, hmounts, hinterfaces⟩
      exact ⟨hip, hmounts, hinterfaces⟩
    · rintro ⟨hip, hmounts, hinterfaces⟩
      exact ⟨hip, hmounts, hinterfaces⟩
  | logs l =>
    dsimp only
    split
    next hmachine => exact iff_of_true rfl (by simpa [names_iff hnames, Provides] using hmachine)
    next hmachine => exact iff_of_false nofun (by simpa [names_iff hnames, Provides] using hmachine)
  | _ => exact iff_of_true rfl trivial

end Names

/-! ### Acceptance -/

theorem proper_of_validate_iff : d.validate = .ok () ↔ d.Proper := by
  have heach : validateEach d.version [] d.workloads = .ok () ↔
      (∀ w ∈ d.workloads, (IsName w.name ∧ w.payload.Proper) ∧ w.version ≤ d.version) ∧
        (d.workloads.map (·.name)).Nodup := by
    simp only [validateEach_eq_ok_iff, Workload.validate_eq_ok_iff, List.not_mem_nil, not_false_eq_true, and_true]
  rw [validate]
  cases hempty : d.workloads.isEmpty with
  | true => exact iff_of_false (by rintro ⟨⟩) fun h => h.nonempty (List.isEmpty_iff.1 hempty)
  | false =>
    rw [if_neg Bool.false_ne_true]
    show (validateEach d.version [] d.workloads >>= fun _ => d.validateReferences d.workloads) = .ok () ↔ _
    rw [Checked.bind_eq_ok]
    constructor
    · rintro ⟨_, hrun, hreferences⟩
      obtain ⟨hworkloads, hnames⟩ := heach.1 hrun
      exact {
        nonempty := List.isEmpty_eq_false_iff.1 hempty
        names := hnames
        named := fun w hw => (hworkloads w hw).1.1
        version := fun w hw => (hworkloads w hw).2
        payloads := fun w hw => (hworkloads w hw).1.2
        references := fun w hw =>
          (danglingReference?_eq_none_iff hnames).1 (validateReferences_eq_ok_iff.1 hreferences w hw) }
    · intro h
      refine ⟨(), heach.2 ⟨fun w hw => ⟨⟨h.named w hw, h.payloads w hw⟩, h.version w hw⟩, h.names⟩, ?_⟩
      exact validateReferences_eq_ok_iff.2 fun w hw => (danglingReference?_eq_none_iff h.names).2 (h.references w hw)

/-- A deployment is accepted if and only if it keeps the rules, and then it is in any order of its workloads. -/
theorem validate_accepts_iff (d : Deployment) : (d.validate = .ok () ↔ d.Proper) ∧
    ∀ ws, d.workloads.Perm ws → ({ d with workloads := ws }.validate = .ok () ↔ d.validate = .ok ()) := by
  refine ⟨proper_of_validate_iff, fun ws hperm => ?_⟩
  rw [proper_of_validate_iff, proper_of_validate_iff]
  exact ⟨fun h => h.of_perm hperm.symm, fun h => h.of_perm hperm⟩

/-- A machine with a disk and an address, and one that ships its logs. -/
def machineSample : Deployment :=
  .new 280 [.new "data" (.disk ⟨1024⟩), .new "ip" (.publicIp ⟨true, false⟩),
    .new "web" (.machine {
      flist := "ubuntu.flist"
      network := ⟨some "ip", true, [⟨"net", ⟨10, 20, 2, 2⟩⟩]⟩
      size := 0
      compute := ⟨1, 1073741824⟩
      mounts := [⟨"data", "/mnt/data"⟩]
      entrypoint := ""
      env := ∅
      corex := false }),
    .new "logs" (.logs ⟨"web", "ws://logs.example.com:9000"⟩)]

/-- It is accepted, and so it is when those that refer to others come before them. -/
theorem validate_machineSample : machineSample.Proper ∧
    { machineSample with workloads := machineSample.workloads.reverse }.validate = .ok () := by
  have hvalid : machineSample.validate = .ok () := by decide +kernel
  obtain ⟨hproper, hperm⟩ := validate_accepts_iff machineSample
  exact ⟨hproper.1 hvalid, (hperm _ (List.reverse_perm _).symm).2 hvalid⟩

end Deployment

end ComputeGrid
