import ComputeGrid.Text.Quoted
import ComputeGrid.Workload.Basic

/-!
# Valid workloads

A workload is valid if its name is well formed and its payload has no flaw of its own. References between workloads are a
matter of the deployment. `Payload.flaw?` gives the first flaw of a payload, and `ValidationError` is every way in which a
deployment can be refused before anything is sent.
-/

namespace ComputeGrid

/-- What is wrong with a payload. -/
inductive PayloadFlaw where
  | noFlist
  | noCpu
  | littleMemory
  | relativeMountpoint
  | emptyDisk
  | emptyZdb
  | noGatewayName
  | noDottedDomain
  | noBackend
  | backendNoUrl (backend : String)
  | rangeLength
  | subnetOutside (subnet range : Ipv4Network)
  | noPrivateKey
  | noListenPort
  | peerNoKey (subnet : Ipv4Network)
  | peerNoAllowedIps (subnet : Ipv4Network)
  | emptyCache
  | shardBounds
  | noMachineNamed
  | outputNoUrl
  deriving DecidableEq, Repr

namespace PayloadFlaw

def message : PayloadFlaw → String
  | noFlist => "flist is required"
  | noCpu => "at least one cpu is required"
  | littleMemory => "memory must be at least 250 MiB"
  | relativeMountpoint => "mountpoints must be absolute paths"
  | emptyDisk => "disk size must be positive"
  | emptyZdb => "zdb size must be positive"
  | noGatewayName => "gateway name is required"
  | noDottedDomain => "fqdn must be a dotted domain name"
  | noBackend => "at least one backend is required"
  | backendNoUrl backend => "backend " ++ Text.quoted backend ++ " must be an http(s) url"
  | rangeLength => "network ip range must be a /16"
  | subnetOutside subnet range => "subnet " ++ subnet.text ++ " must be a /24 inside " ++ range.text
  | noPrivateKey => "wireguard private key is required"
  | noListenPort => "wireguard listen port is required"
  | peerNoKey subnet => "peer " ++ subnet.text ++ " has no public key"
  | peerNoAllowedIps subnet => "peer " ++ subnet.text ++ " has no allowed ips"
  | emptyCache => "qsfs cache size must be positive"
  | shardBounds => "minimal shards must be between 1 and expected shards"
  | noMachineNamed => "log shipper must name a vm"
  | outputNoUrl => "log output must be a ws:// or wss:// url"

end PayloadFlaw

/-- Whether a text starts with another. -/
def startsWith (start s : String) : Bool := start.toList.isPrefixOf s.toList

/-- Least memory of a machine, in bytes. -/
def leastMachineMemory : Nat := 250 * Capacity.mebibyte

def Machine.flaw? (m : Machine) : Option PayloadFlaw :=
  if m.flist.isEmpty then some .noFlist
  else if m.compute.cpu = 0 then some .noCpu
  else if m.compute.memory.toNat < leastMachineMemory then some .littleMemory
  else if m.mounts.any fun mount => !startsWith "/" mount.mountpoint then some .relativeMountpoint
  else none

def Disk.flaw? (d : Disk) : Option PayloadFlaw :=
  if d.size = 0 then some .emptyDisk else none

def Zdb.flaw? (z : Zdb) : Option PayloadFlaw :=
  if z.size = 0 then some .emptyZdb else none

/-- Whether a backend is an address of a web server. -/
def isWebUrl (backend : String) : Bool :=
  startsWith "http://" backend || startsWith "https://" backend

/-- The flaw of a gateway's backends: there are none, or the first that is no web address. -/
def backendsFlaw? (backends : List String) : Option PayloadFlaw :=
  if backends.isEmpty then some .noBackend
  else (backends.find? fun b => !isWebUrl b).map .backendNoUrl

def NameGateway.flaw? (g : NameGateway) : Option PayloadFlaw :=
  if g.name.isEmpty then some .noGatewayName else backendsFlaw? g.backends

def FqdnGateway.flaw? (g : FqdnGateway) : Option PayloadFlaw :=
  if g.fqdn.toList.contains '.' then backendsFlaw? g.backends else some .noDottedDomain

/-- The flaw of a peer. -/
def Peer.flaw? (p : Peer) : Option PayloadFlaw :=
  if p.publicKey.isEmpty then some (.peerNoKey p.subnet)
  else if p.allowedIps.isEmpty then some (.peerNoAllowedIps p.subnet)
  else none

def NetworkSlice.flaw? (n : NetworkSlice) : Option PayloadFlaw :=
  if n.ipRange.length.val ≠ 16 then some .rangeLength
  else if n.subnet.length.val ≠ 24 ∨ n.ipRange.contains n.subnet = false then some (.subnetOutside n.subnet n.ipRange)
  else if n.privateKey.isEmpty then some .noPrivateKey
  else if n.listenPort = 0 then some .noListenPort
  else n.peers.findSome? Peer.flaw?

def Qsfs.flaw? (q : Qsfs) : Option PayloadFlaw :=
  if q.cache = 0 then some .emptyCache
  else if q.minimalShards = 0 ∨ q.expectedShards < q.minimalShards then some .shardBounds
  else none

def LogShipper.flaw? (l : LogShipper) : Option PayloadFlaw :=
  if l.machine.isEmpty then some .noMachineNamed
  else if startsWith "ws://" l.output || startsWith "wss://" l.output then none
  else some .outputNoUrl

/-- The first flaw of a payload. -/
def Payload.flaw? : Payload → Option PayloadFlaw
  | .machine m => m.flaw?
  | .disk d => d.flaw?
  | .zdb z => z.flaw?
  | .nameGateway g => g.flaw?
  | .fqdnGateway g => g.flaw?
  | .network n => n.flaw?
  | .publicIp _ => none
  | .qsfs q => q.flaw?
  | .logs l => l.flaw?

/-- What a reference between workloads is to. -/
inductive ReferenceKind where
  | publicIp
  | mount
  | network
  | machine
  deriving DecidableEq, Repr

def ReferenceKind.text : ReferenceKind → String
  | publicIp => "public ip"
  | mount => "mount"
  | network => "network"
  | machine => "vm"

/-- Why a deployment or a workload is refused before anything is sent. -/
inductive ValidationError where
  | empty
  | invalidName (name : String)
  | duplicateName (name : String)
  | versionRegression (deployment : UInt32) (workload : String) (version : UInt32)
  | invalidWorkload (workload : String) (flaw : PayloadFlaw)
  | danglingReference (workload : String) (kind : ReferenceKind) (target : String)
  deriving DecidableEq, Repr

namespace ValidationError

def message : ValidationError → String
  | empty => "deployment has no workloads"
  | invalidName name =>
    "invalid workload name " ++ Text.quoted name ++ ": must be 1-50 ascii alphanumerics or '_'"
  | duplicateName name => "duplicate workload name " ++ Text.quoted name
  | versionRegression deployment workload version =>
    "deployment version " ++ toString deployment.toNat ++ " is lower than workload " ++ Text.quoted workload ++
      " version " ++ toString version.toNat
  | invalidWorkload workload flaw => "workload " ++ Text.quoted workload ++ ": " ++ flaw.message
  | danglingReference workload kind target =>
    "workload " ++ Text.quoted workload ++ " references unknown " ++ kind.text ++ " " ++ Text.quoted target

end ValidationError

/-- Whether a name is one to fifty ASCII letters, digits or underscores. -/
def isValidName (name : String) : Bool :=
  let cs := name.toList
  !cs.isEmpty && cs.length ≤ 50 && cs.all fun c => c.isAlphanum || c == '_'

/-- Refuses a workload with a malformed name or a flawed payload. -/
def Workload.validate (w : Workload) : Except ValidationError Unit :=
  if isValidName w.name then
    match w.payload.flaw? with
    | some flaw => .error (.invalidWorkload w.name flaw)
    | none => .ok ()
  else .error (.invalidName w.name)

end ComputeGrid
