import ComputeGrid.Workload.Validity

/-!
# Rules for workloads

What is asked of a workload on its own: a name of one to fifty ASCII letters, digits and underscores (`IsName`), and the rules
of the kind of its payload (`Payload.Proper`).  A payload has no flaw if and only if it keeps the rules
(`Payload.flaw?_eq_none_iff`), so these are what a workload passes by (`Workload.validate_eq_ok_iff`).
-/

namespace ComputeGrid

/-! ### Texts -/

/-- A text starts with another. -/
def Starts (start s : String) : Prop := start.toList <+: s.toList

theorem startsWith_iff {start s : String} : startsWith start s = true ↔ Starts start s := List.isPrefixOf_iff_prefix

/-- An ASCII letter, a digit or an underscore. -/
def IsNameChar (c : Char) : Prop := ('a' ≤ c ∧ c ≤ 'z') ∨ ('A' ≤ c ∧ c ≤ 'Z') ∨ ('0' ≤ c ∧ c ≤ '9') ∨ c = '_'

theorem isNameChar_iff {c : Char} : (c.isAlphanum || c == '_') = true ↔ IsNameChar c := by
  have hrange (first last : Char) :
      (decide (c.val ≥ first.val) && decide (c.val ≤ last.val)) = true ↔ first ≤ c ∧ c ≤ last := by
    rw [Bool.and_eq_true, decide_eq_true_eq, decide_eq_true_eq]
    exact Iff.rfl
  have hupper : c.isUpper = true ↔ 'A' ≤ c ∧ c ≤ 'Z' := decide_eq_true_iff
  have hlower : c.isLower = true ↔ 'a' ≤ c ∧ c ≤ 'z' := hrange 'a' 'z'
  have hdigit : c.isDigit = true ↔ '0' ≤ c ∧ c ≤ '9' := hrange '0' '9'
  show ((c.isUpper || c.isLower || c.isDigit) || c == '_') = true ↔ _
  rw [Bool.or_eq_true, Bool.or_eq_true, Bool.or_eq_true, hupper, hlower, hdigit, beq_iff_eq, IsNameChar,
    or_comm (a := 'A' ≤ c ∧ c ≤ 'Z'), or_assoc, or_assoc]

/-- A name of one to fifty ASCII letters, digits and underscores. -/
structure IsName (name : String) : Prop where
  nonempty : 1 ≤ name.length
  short : name.length ≤ 50
  chars : ∀ c ∈ name.toList, IsNameChar c

theorem isValidName_iff {name : String} : isValidName name = true ↔ IsName name := by
  have hnonempty : (!name.toList.isEmpty) = true ↔ 1 ≤ name.length := by
    rw [Bool.not_eq_true', List.isEmpty_eq_false_iff, ← List.length_pos_iff, String.length_toList]
    exact Iff.rfl
  rw [isValidName, Bool.and_eq_true, Bool.and_eq_true, hnonempty, decide_eq_true_eq, String.length_toList, List.all_eq_true]
  simp only [isNameChar_iff]
  constructor
  · rintro ⟨⟨h, h'⟩, h''⟩
    exact ⟨h, h', h''⟩
  · rintro ⟨h, h', h''⟩
    exact ⟨⟨h, h'⟩, h''⟩

/-! ### Rules of each kind -/

theorem positive_iff {n : UInt64} : ¬ n = 0 ↔ 1 ≤ n.toNat := by
  rw [← UInt64.toNat_inj, UInt64.toNat_zero]
  omega

/-- A first flaw is absent if and only if the rest has none. -/
theorem flaw_else_iff {c : Prop} [Decidable c] {flaw : PayloadFlaw} {rest : Option PayloadFlaw} :
    (if c then some flaw else rest) = none ↔ ¬ c ∧ rest = none := by
  split
  next hc => exact iff_of_false nofun fun h => h.1 hc
  next hc => exact (and_iff_right hc).symm

/-- An image, a processor, 250 MiB of memory, and absolute paths for mounts. -/
structure Machine.Proper (m : Machine) : Prop where
  flist : m.flist ≠ ""
  cpu : 1 ≤ m.compute.cpu.toNat
  memory : 250 * 1024 * 1024 ≤ m.compute.memory.toNat
  mounts : ∀ mount ∈ m.mounts, Starts "/" mount.mountpoint

theorem Machine.flaw?_eq_none_iff {m : Machine} : m.flaw? = none ↔ m.Proper := by
  have hcpu : ¬ m.compute.cpu = 0 ↔ 1 ≤ m.compute.cpu.toNat := by
    rw [← UInt8.toNat_inj, UInt8.toNat_zero]
    omega
  have hmounts : (¬ (m.mounts.any fun mount => !startsWith "/" mount.mountpoint) = true) ↔
      ∀ mount ∈ m.mounts, Starts "/" mount.mountpoint := by
    simp only [List.any_eq_true, Bool.not_eq_true', not_exists, not_and, Bool.not_eq_false, startsWith_iff]
  rw [flaw?, flaw_else_iff, flaw_else_iff, flaw_else_iff, flaw_else_iff, String.isEmpty_iff, hcpu, Nat.not_lt, hmounts]
  constructor
  · rintro ⟨hflist, hcpu, hmemory, hmounts, -⟩
    exact ⟨hflist, hcpu, hmemory, hmounts⟩
  · rintro ⟨hflist, hcpu, hmemory, hmounts⟩
    exact ⟨hflist, hcpu, hmemory, hmounts, rfl⟩

/-- Addresses of web servers, and at least one. -/
def AreBackends (backends : List String) : Prop :=
  backends ≠ [] ∧ ∀ b ∈ backends, Starts "http://" b ∨ Starts "https://" b

theorem backendsFlaw?_eq_none_iff {backends : List String} : backendsFlaw? backends = none ↔ AreBackends backends := by
  rw [backendsFlaw?, flaw_else_iff, List.isEmpty_iff, Option.map_eq_none_iff, List.find?_eq_none]
  refine and_congr_right fun _ => forall₂_congr fun b _ => ?_
  rw [Bool.not_eq_true', Bool.not_eq_false, isWebUrl, Bool.or_eq_true, startsWith_iff, startsWith_iff]

/-- A key, and addresses that are let through. -/
structure Peer.Proper (p : Peer) : Prop where
  publicKey : p.publicKey ≠ ""
  allowedIps : p.allowedIps ≠ []

theorem Peer.flaw?_eq_none_iff {p : Peer} : p.flaw? = none ↔ p.Proper := by
  rw [flaw?, flaw_else_iff, flaw_else_iff, String.isEmpty_iff, List.isEmpty_iff]
  constructor
  · rintro ⟨hkey, hips, -⟩
    exact ⟨hkey, hips⟩
  · rintro ⟨hkey, hips⟩
    exact ⟨hkey, hips, rfl⟩

/-- A `/24` inside a `/16`, a key, a port, and peers with keys and addresses. -/
structure NetworkSlice.Proper (n : NetworkSlice) : Prop where
  range : n.ipRange.length.val = 16
  subnet : n.subnet.length.val = 24
  inside : n.ipRange.contains n.subnet = true
  privateKey : n.privateKey ≠ ""
  listenPort : n.listenPort ≠ 0
  peers : ∀ p ∈ n.peers, p.Proper

theorem NetworkSlice.flaw?_eq_none_iff {n : NetworkSlice} : n.flaw? = none ↔ n.Proper := by
  rw [flaw?, flaw_else_iff, flaw_else_iff, flaw_else_iff, flaw_else_iff, Decidable.not_not, not_or, Decidable.not_not,
    Bool.not_eq_false, String.isEmpty_iff, List.findSome?_eq_none_iff]
  simp only [Peer.flaw?_eq_none_iff]
  constructor
  · rintro ⟨hrange, ⟨hsubnet, hinside⟩, hkey, hport, hpeers⟩
    exact ⟨hrange, hsubnet, hinside, hkey, hport, hpeers⟩
  · rintro ⟨hrange, hsubnet, hinside, hkey, hport, hpeers⟩
    exact ⟨hrange, ⟨hsubnet, hinside⟩, hkey, hport, hpeers⟩

/-- A cache, and at least one shard that is needed of those that are expected. -/
structure Qsfs.Proper (q : Qsfs) : Prop where
  cache : 1 ≤ q.cache.toNat
  shards : 1 ≤ q.minimalShards.toNat ∧ q.minimalShards.toNat ≤ q.expectedShards.toNat

theorem Qsfs.flaw?_eq_none_iff {q : Qsfs} : q.flaw? = none ↔ q.Proper := by
  have hshards : ¬ (q.minimalShards = 0 ∨ q.expectedShards < q.minimalShards) ↔
      1 ≤ q.minimalShards.toNat ∧ q.minimalShards.toNat ≤ q.expectedShards.toNat := by
    rw [← UInt32.toNat_inj, UInt32.toNat_zero, UInt32.lt_iff_toNat_lt]
    omega
  rw [flaw?, flaw_else_iff, flaw_else_iff, positive_iff, hshards]
  constructor
  · rintro ⟨hcache, hshards, -⟩
    exact ⟨hcache, hshards⟩
  · rintro ⟨hcache, hshards⟩
    exact ⟨hcache, hshards, rfl⟩

/-- A machine, and the address of a websocket. -/
structure LogShipper.Proper (l : LogShipper) : Prop where
  machine : l.machine ≠ ""
  output : Starts "ws://" l.output ∨ Starts "wss://" l.output

theorem LogShipper.flaw?_eq_none_iff {l : LogShipper} : l.flaw? = none ↔ l.Proper := by
  have houtput : (if startsWith "ws://" l.output || startsWith "wss://" l.output then none
      else some PayloadFlaw.outputNoUrl) = none ↔ Starts "ws://" l.output ∨ Starts "wss://" l.output := by
    rw [← startsWith_iff, ← startsWith_iff, ← Bool.or_eq_true]
    split
    next h => exact iff_of_true rfl h
    next h => exact iff_of_false nofun h
  rw [flaw?, flaw_else_iff, String.isEmpty_iff, houtput]
  exact ⟨fun h => ⟨h.1, h.2⟩, fun h => ⟨h.machine, h.output⟩⟩

/-- The rules of each kind of payload. -/
def Payload.Proper : Payload → Prop
  | .machine m => m.Proper
  | .disk d => 1 ≤ d.size.toNat
  | .zdb z => 1 ≤ z.size.toNat
  | .nameGateway g => g.name ≠ "" ∧ AreBackends g.backends
  | .fqdnGateway g => '.' ∈ g.fqdn.toList ∧ AreBackends g.backends
  | .network n => n.Proper
  | .publicIp _ => True
  | .qsfs q => q.Proper
  | .logs l => l.Proper

theorem Payload.flaw?_eq_none_iff {p : Payload} : p.flaw? = none ↔ p.Proper := by
  cases p with
  | machine m => exact Machine.flaw?_eq_none_iff
  | disk d =>
    rw [flaw?, Disk.flaw?, flaw_else_iff, positive_iff]
    exact and_iff_left rfl
  | zdb z =>
    rw [flaw?, Zdb.flaw?, flaw_else_iff, positive_iff]
    exact and_iff_left rfl
  | nameGateway g => rw [flaw?, NameGateway.flaw?, flaw_else_iff, String.isEmpty_iff, backendsFlaw?_eq_none_iff, Proper]
  | fqdnGateway g =>
    rw [flaw?, FqdnGateway.flaw?, Proper, ← List.contains_iff_mem, ← backendsFlaw?_eq_none_iff]
    split
    next hdotted => exact (and_iff_right hdotted).symm
    next hplain => exact iff_of_false (Option.some_ne_none _) fun h => hplain h.1
  | network n => exact NetworkSlice.flaw?_eq_none_iff
  | publicIp p => exact iff_of_true rfl trivial
  | qsfs q => exact Qsfs.flaw?_eq_none_iff
  | logs l => exact LogShipper.flaw?_eq_none_iff

/-- A workload passes on its own if and only if it has a name and keeps the rules of its kind. -/
theorem Workload.validate_eq_ok_iff {w : Workload} : w.validate = .ok () ↔ IsName w.name ∧ w.payload.Proper := by
  rw [validate, ← isValidName_iff, ← Payload.flaw?_eq_none_iff]
  split
  next hname =>
    rw [and_iff_right hname]
    cases w.payload.flaw? with
    | some flaw => exact iff_of_false nofun nofun
    | none => exact iff_of_true rfl rfl
  next hname => exact iff_of_false nofun fun h => hname h.1

end ComputeGrid
