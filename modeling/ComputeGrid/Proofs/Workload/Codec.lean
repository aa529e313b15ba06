import ComputeGrid.Proofs.Address.Texts
import ComputeGrid.Proofs.Json.Records
import ComputeGrid.Workload.Codec

/-!
# Workloads are read back

A payload is read by its kind from the members that the tag stands before, among which none has the name of the tag
(`Payload.filter_fields`, `Payload.ofContent?_fields`).

The readers of numbers compare with the bounds of the word sizes, which no type check may evaluate: so each step of
these proofs is an equation and not a conversion.
-/

namespace ComputeGrid

@[simp] theorem Compute.ofJson?_toJson (c : Compute) : ofJson? c.toJson = some c := by
  simp -implicitDefEqProofs [toJson, ofJson?]

@[simp] theorem MachineInterface.ofJson?_toJson (i : MachineInterface) : ofJson? i.toJson = some i := by
  simp -implicitDefEqProofs [toJson, ofJson?]

@[simp] theorem MachineMount.ofJson?_toJson (m : MachineMount) : ofJson? m.toJson = some m := by
  simp -implicitDefEqProofs [toJson, ofJson?]

@[simp] theorem MachineNetwork.ofJson?_toJson (n : MachineNetwork) : ofJson? n.toJson = some n := by
  simp -implicitDefEqProofs [toJson, ofJson?, Json.toOption?_ofOption Json.toString?_string rfl]

@[simp] theorem Peer.ofJson?_toJson (p : Peer) : ofJson? p.toJson = some p := by
  simp -implicitDefEqProofs [toJson, ofJson?]

@[simp] theorem QsfsBackend.ofJson?_toJson (b : QsfsBackend) : ofJson? b.toJson = some b := by
  simp -implicitDefEqProofs [toJson, ofJson?]

@[simp] theorem QsfsGroup.ofJson?_toJson (g : QsfsGroup) : ofJson? g.toJson = some g := by
  simp -implicitDefEqProofs [toJson, ofJson?]

/-! ### Payloads -/

@[simp] theorem Machine.ofJson?_fields (m : Machine) : ofJson? (.object m.fields) = some m := by
  simp -implicitDefEqProofs [fields, ofJson?]

@[simp] theorem Disk.ofJson?_fields (d : Disk) : ofJson? (.object d.fields) = some d := by
  simp -implicitDefEqProofs [fields, ofJson?]

@[simp] theorem ZdbMode.ofText?_text (m : ZdbMode) : ofText? m.text = some m := by
  cases m <;> decide +kernel

@[simp] theorem Zdb.ofJson?_fields (z : Zdb) : ofJson? (.object z.fields) = some z := by
  simp -implicitDefEqProofs [fields, ofJson?]

@[simp] theorem NameGateway.ofJson?_fields (g : NameGateway) : ofJson? (.object g.fields) = some g := by
  simp -implicitDefEqProofs [fields, ofJson?]

@[simp] theorem FqdnGateway.ofJson?_fields (g : FqdnGateway) : ofJson? (.object g.fields) = some g := by
  simp -implicitDefEqProofs [fields, ofJson?]

@[simp] theorem NetworkSlice.ofJson?_fields (n : NetworkSlice) : ofJson? (.object n.fields) = some n := by
  simp -implicitDefEqProofs [fields, ofJson?]

@[simp] theorem PublicIp.ofJson?_fields (p : PublicIp) : ofJson? (.object p.fields) = some p := by
  simp -implicitDefEqProofs [fields, ofJson?]

@[simp] theorem Qsfs.ofJson?_fields (q : Qsfs) : ofJson? (.object q.fields) = some q := by
  simp -implicitDefEqProofs [fields, ofJson?]

@[simp] theorem LogShipper.ofJson?_fields (l : LogShipper) : ofJson? (.object l.fields) = some l := by
  simp -implicitDefEqProofs [fields, ofJson?]

/-- A payload is read back from the fields of its kind. -/
@[simp] theorem Payload.ofContent?_fields (p : Payload) : ofContent? p.kind (.object p.fields) = some p := by
  cases p <;> simp -implicitDefEqProofs [ofContent?, kind, fields]

/-- No field of a kind has the name of the tag. -/
theorem Payload.filter_fields (p : Payload) : p.fields.filter (·.1 != "type") = p.fields := by
  cases p <;> rfl

@[simp] theorem Payload.ofJson?_toJson (p : Payload) : ofJson? p.toJson = some p := by
  have hfields : (("type", Json.string p.kind.tag) :: p.fields).filter (·.1 != "type") = p.fields := by
    rw [List.filter_cons_of_neg (by simp), filter_fields]
  simp -implicitDefEqProofs [toJson, ofJson?, WorkloadKind.ofTag?_tag, hfields]

/-! ### Reports and workloads -/

@[simp] theorem Report.ofJson?_toJson (r : Report) : ofJson? r.toJson = some r := by
  simp -implicitDefEqProofs [toJson, ofJson?, ReportState.ofText?_text]

@[simp] theorem Workload.ofJson?_toJson (w : Workload) : ofJson? w.toJson = some w := by
  simp -implicitDefEqProofs [toJson, ofJson?]

end ComputeGrid
