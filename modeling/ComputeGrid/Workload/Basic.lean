import ComputeGrid.Address.Network
import ComputeGrid.Capacity
import ComputeGrid.Identifier

/-!
# Workloads

A workload is a named, versioned unit of a deployment. Its `Payload` is one of nine kinds; what the node reports about it
is its `Report`. Identity is by name, and a report is never part of what a caller asks for.
-/

namespace ComputeGrid

/-! ### Payloads -/

/-- The kinds of payload, in the order in which they are listed. -/
inductive WorkloadKind where
  | machine
  | disk
  | zdb
  | nameGateway
  | fqdnGateway
  | network
  | publicIp
  | qsfs
  | logs
  deriving DecidableEq, Repr, Inhabited

namespace WorkloadKind

/-- Every kind, in order. -/
def all : List WorkloadKind :=
  [machine, disk, zdb, nameGateway, fqdnGateway, network, publicIp, qsfs, logs]

/-- The word for a kind that people read. -/
def text : WorkloadKind → String
  | machine => "zmachine"
  | disk => "zmount"
  | zdb => "zdb"
  | nameGateway => "gateway-name-proxy"
  | fqdnGateway => "gateway-fqdn-proxy"
  | network => "network"
  | publicIp => "ip"
  | qsfs => "qsfs"
  | logs => "zlogs"

/-- The tag of a kind in records. -/
def tag : WorkloadKind → String
  | machine => "z_machine"
  | disk => "z_mount"
  | zdb => "zdb"
  | nameGateway => "gateway_name"
  | fqdnGateway => "gateway_fqdn"
  | network => "network"
  | publicIp => "public_ip"
  | qsfs => "qsfs"
  | logs => "z_logs"

/-- The kind with a given tag. -/
def ofTag? (s : String) : Option WorkloadKind := all.find? (·.tag == s)

theorem ofTag?_tag (k : WorkloadKind) : ofTag? k.tag = some k := by
  cases k <;> decide +kernel

end WorkloadKind

/-- Processors, and memory in bytes. -/
structure Compute where
  cpu : UInt8
  memory : UInt64
  deriving DecidableEq, Repr

/-- An address of a machine in a network workload, named by the workload. -/
structure MachineInterface where
  network : String
  ip : Ipv4
  deriving DecidableEq, Repr

/-- Where a disk or file system workload is mounted. -/
structure MachineMount where
  name : String
  mountpoint : String
  deriving DecidableEq, Repr

/-- How a machine is connected; `publicIp` names an address workload. -/
structure MachineNetwork where
  publicIp : Option String
  planetary : Bool
  interfaces : List MachineInterface
  deriving DecidableEq

/-- A virtual machine; `size` is that of its root file system in bytes. -/
structure Machine where
  flist : String
  network : MachineNetwork
  size : UInt64
  compute : Compute
  mounts : List MachineMount
  entrypoint : String
  env : NameMap String
  corex : Bool
  deriving DecidableEq

/-- A raw disk of `size` bytes. -/
structure Disk where
  size : UInt64
  deriving DecidableEq, Repr

/-- How keys of a 0-db are chosen: by the user or in sequence. -/
inductive ZdbMode where
  | user
  | sequential
  deriving DecidableEq, Repr

/-- A 0-db namespace. -/
structure Zdb where
  size : UInt64
  mode : ZdbMode
  password : String
  isPublic : Bool
  deriving DecidableEq, Repr

/-- A gateway that gives backends a name under the node's domain. -/
structure NameGateway where
  name : String
  tlsPassthrough : Bool
  backends : List String
  deriving DecidableEq, Repr

/-- A gateway that gives backends a domain of the caller. -/
structure FqdnGateway where
  fqdn : String
  tlsPassthrough : Bool
  backends : List String
  deriving DecidableEq, Repr

/-- A peer of a network slice. The endpoint is `host:port`, and empty if the peer dials in. -/
structure Peer where
  subnet : Ipv4Network
  publicKey : String
  allowedIps : List Ipv4Network
  endpoint : String
  deriving DecidableEq, Repr

/-- One node's part of a wireguard mesh: its subnet in the range of the mesh, and its peers. -/
structure NetworkSlice where
  ipRange : Ipv4Network
  subnet : Ipv4Network
  privateKey : String
  listenPort : UInt16
  peers : List Peer
  deriving DecidableEq, Repr

/-- Public addresses of the farm of the node. -/
structure PublicIp where
  v4 : Bool
  v6 : Bool
  deriving DecidableEq, Repr

/-- A store of shards. -/
structure QsfsBackend where
  address : String
  namespaceName : String
  password : String
  deriving DecidableEq, Repr

/-- A group of stores. -/
structure QsfsGroup where
  backends : List QsfsBackend
  deriving DecidableEq, Repr

/-- A file system over shards; `cache` is the size of its local cache in bytes. -/
structure Qsfs where
  cache : UInt64
  minimalShards : UInt32
  expectedShards : UInt32
  encryptionKey : String
  groups : List QsfsGroup
  deriving DecidableEq, Repr

/-- Ships the logs of a machine, named by its workload, to a websocket. -/
structure LogShipper where
  machine : String
  output : String
  deriving DecidableEq, Repr

/-- What a workload is. -/
inductive Payload where
  | machine (m : Machine)
  | disk (d : Disk)
  | zdb (z : Zdb)
  | nameGateway (g : NameGateway)
  | fqdnGateway (g : FqdnGateway)
  | network (n : NetworkSlice)
  | publicIp (p : PublicIp)
  | qsfs (q : Qsfs)
  | logs (l : LogShipper)
  deriving DecidableEq

namespace Payload

def kind : Payload → WorkloadKind
  | .machine _ => .machine
  | .disk _ => .disk
  | .zdb _ => .zdb
  | .nameGateway _ => .nameGateway
  | .fqdnGateway _ => .fqdnGateway
  | .network _ => .network
  | .publicIp _ => .publicIp
  | .qsfs _ => .qsfs
  | .logs _ => .logs

/-- What a payload consumes on its node. A file system over shards needs a daemon with one unit and 256 MiB. -/
def capacity : Payload → Capacity
  | .machine m => ⟨m.compute.cpu.toUInt64, m.compute.memory, m.size, 0⟩
  | .disk d => ⟨0, 0, d.size, 0⟩
  | .zdb z => ⟨0, 0, 0, z.size⟩
  | .qsfs q => ⟨1, (256 * Capacity.mebibyte).toUInt64, q.cache, 0⟩
  | .nameGateway _ | .fqdnGateway _ | .network _ | .publicIp _ | .logs _ => .zero

/-- Whether a payload reserves a public IPv4 address; none reserves more than one. -/
def reservesIpv4 : Payload → Bool
  | .publicIp p => p.v4
  | _ => false

end Payload

/-! ### Reports -/

/-- What a node says about a workload. -/
inductive ReportState where
  /-- Not processed yet. -/
  | init
  | ok
  | error
  | deleted
  | paused
  | unchanged
  deriving DecidableEq, Repr, Inhabited

namespace ReportState

/-- Every state, in order. -/
def all : List ReportState := [init, ok, error, deleted, paused, unchanged]

def text : ReportState → String
  | init => "init"
  | ok => "ok"
  | error => "error"
  | deleted => "deleted"
  | paused => "paused"
  | unchanged => "unchanged"

/-- The state with a given name. -/
def ofText? (s : String) : Option ReportState := all.find? (·.text == s)

/-- Whether a workload in this state will not become ok at its version. -/
def isFailure : ReportState → Bool
  | init | ok => false
  | error | deleted | paused | unchanged => true

theorem ofText?_text (s : ReportState) : ofText? s.text = some s := by
  cases s <;> decide +kernel

end ReportState

/-- The report of a node on a workload: its state, a message, data of the node's own and a time. -/
structure Report where
  state : ReportState
  error : String
  data : Json
  created : UInt64
  deriving DecidableEq

namespace Report

/-- The report of a workload that no node has seen. -/
def unseen : Report := ⟨.init, "", .null, 0⟩

end Report

/-! ### Workloads -/

/-- A named and versioned unit of a deployment. -/
structure Workload where
  version : UInt32
  name : String
  payload : Payload
  metadata : String
  description : String
  report : Report
  deriving DecidableEq

namespace Workload

/-- A workload at version zero that no node has seen. -/
def new (name : String) (payload : Payload) : Workload :=
  ⟨0, name, payload, "", "", .unseen⟩

def kind (w : Workload) : WorkloadKind := w.payload.kind

def capacity (w : Workload) : Capacity := w.payload.capacity

def reservesIpv4 (w : Workload) : Bool := w.payload.reservesIpv4

/-- How many public IPv4 addresses the workload reserves. -/
def publicIpv4Count (w : Workload) : Nat := w.reservesIpv4.toNat

end Workload

end ComputeGrid
