import ComputeGrid.Address.Codec
import ComputeGrid.Json.Maps
import ComputeGrid.Workload.Basic

/-!
# Workloads as JSON

Records are objects with their fields in the order of declaration. A payload is the object of its fields with its tag as
the member `type` before them; as an array it lists the tag before the fields.
-/

namespace ComputeGrid

open Json (ofNat)

namespace Compute

def toJson (c : Compute) : Json :=
  .object [("cpu", ofNat c.cpu.toNat), ("memory", ofNat c.memory.toNat)]

def ofJson? (j : Json) : Option Compute := do
  let f ← j.toFields? 2
  return { cpu := ← f.required 0 "cpu" Json.toUInt8?, memory := ← f.required 1 "memory" Json.toUInt64? }

end Compute

namespace MachineInterface

def toJson (i : MachineInterface) : Json :=
  .object [("network", .string i.network), ("ip", i.ip.toJson)]

def ofJson? (j : Json) : Option MachineInterface := do
  let f ← j.toFields? 2
  return { network := ← f.required 0 "network" Json.toString?, ip := ← f.required 1 "ip" Ipv4.ofJson? }

end MachineInterface

namespace MachineMount

def toJson (m : MachineMount) : Json :=
  .object [("name", .string m.name), ("mountpoint", .string m.mountpoint)]

def ofJson? (j : Json) : Option MachineMount := do
  let f ← j.toFields? 2
  return {
    name := ← f.required 0 "name" Json.toString?
    mountpoint := ← f.required 1 "mountpoint" Json.toString? }

end MachineMount

namespace MachineNetwork

def toJson (n : MachineNetwork) : Json :=
  .object [("public_ip", Json.ofOption .string n.publicIp), ("planetary", .bool n.planetary),
    ("interfaces", Json.ofList MachineInterface.toJson n.interfaces)]

def ofJson? (j : Json) : Option MachineNetwork := do
  let f ← j.toFields? 3
  return {
    publicIp := ← f.withDefault 0 "public_ip" (Json.toOption? Json.toString?) none
    planetary := ← f.withDefault 1 "planetary" Json.toBool? false
    interfaces := ← f.withDefault 2 "interfaces" (Json.toList? MachineInterface.ofJson?) [] }

end MachineNetwork

/-! ### Payloads -/

namespace Machine

def fields (m : Machine) : List (String × Json) :=
  [("flist", .string m.flist), ("network", m.network.toJson), ("size", ofNat m.size.toNat),
    ("compute", m.compute.toJson), ("mounts", Json.ofList MachineMount.toJson m.mounts),
    ("entrypoint", .string m.entrypoint), ("env", Json.nameMap .string m.env), ("corex", .bool m.corex)]

def ofJson? (j : Json) : Option Machine := do
  let f ← j.toFields? 8
  return {
    flist := ← f.required 0 "flist" Json.toString?
    network := ← f.required 1 "network" MachineNetwork.ofJson?
    size := ← f.required 2 "size" Json.toUInt64?
    compute := ← f.required 3 "compute" Compute.ofJson?
    mounts := ← f.withDefault 4 "mounts" (Json.toList? MachineMount.ofJson?) []
    entrypoint := ← f.withDefault 5 "entrypoint" Json.toString? ""
    env := ← f.withDefault 6 "env" (Json.toNameMap? Json.toString?) ∅
    corex := ← f.withDefault 7 "corex" Json.toBool? false }

end Machine

namespace Disk

def fields (d : Disk) : List (String × Json) := [("size", ofNat d.size.toNat)]

def ofJson? (j : Json) : Option Disk := do
  let f ← j.toFields? 1
  return { size := ← f.required 0 "size" Json.toUInt64? }

end Disk

namespace ZdbMode

def text : ZdbMode → String
  | user => "user"
  | sequential => "seq"

def ofText? (s : String) : Option ZdbMode := [user, sequential].find? (·.text == s)

end ZdbMode

namespace Zdb

def fields (z : Zdb) : List (String × Json) :=
  [("size", ofNat z.size.toNat), ("mode", .string z.mode.text), ("password", .string z.password),
    ("public", .bool z.isPublic)]

def ofJson? (j : Json) : Option Zdb := do
  let f ← j.toFields? 4
  return {
    size := ← f.required 0 "size" Json.toUInt64?
    mode := ← f.required 1 "mode" fun j => j.toName?.bind ZdbMode.ofText?
    password := ← f.withDefault 2 "password" Json.toString? ""
    isPublic := ← f.withDefault 3 "public" Json.toBool? false }

end Zdb

namespace NameGateway

def fields (g : NameGateway) : List (String × Json) :=
  [("name", .string g.name), ("tls_passthrough", .bool g.tlsPassthrough),
    ("backends", Json.ofList .string g.backends)]

def ofJson? (j : Json) : Option NameGateway := do
  let f ← j.toFields? 3
  return {
    name := ← f.required 0 "name" Json.toString?
    tlsPassthrough := ← f.withDefault 1 "tls_passthrough" Json.toBool? false
    backends := ← f.required 2 "backends" (Json.toList? Json.toString?) }

end NameGateway

namespace FqdnGateway

def fields (g : FqdnGateway) : List (String × Json) :=
  [("fqdn", .string g.fqdn), ("tls_passthrough", .bool g.tlsPassthrough),
    ("backends", Json.ofList .string g.backends)]

def ofJson? (j : Json) : Option FqdnGateway := do
  let f ← j.toFields? 3
  return {
    fqdn := ← f.required 0 "fqdn" Json.toString?
    tlsPassthrough := ← f.withDefault 1 "tls_passthrough" Json.toBool? false
    backends := ← f.required 2 "backends" (Json.toList? Json.toString?) }

end FqdnGateway

namespace Peer

def toJson (p : Peer) : Json :=
  .object [("subnet", p.subnet.toJson), ("wireguard_public_key", .string p.publicKey),
    ("allowed_ips", Json.ofList Ipv4Network.toJson p.allowedIps), ("endpoint", .string p.endpoint)]

def ofJson? (j : Json) : Option Peer := do
  let f ← j.toFields? 4
  return {
    subnet := ← f.required 0 "subnet" Ipv4Network.ofJson?
    publicKey := ← f.required 1 "wireguard_public_key" Json.toString?
    allowedIps := ← f.required 2 "allowed_ips" (Json.toList? Ipv4Network.ofJson?)
    endpoint := ← f.withDefault 3 "endpoint" Json.toString? "" }

end Peer

namespace NetworkSlice

def fields (n : NetworkSlice) : List (String × Json) :=
  [("ip_range", n.ipRange.toJson), ("subnet", n.subnet.toJson), ("wireguard_private_key", .string n.privateKey),
    ("wireguard_listen_port", ofNat n.listenPort.toNat), ("peers", Json.ofList Peer.toJson n.peers)]

def ofJson? (j : Json) : Option NetworkSlice := do
  let f ← j.toFields? 5
  return {
    ipRange := ← f.required 0 "ip_range" Ipv4Network.ofJson?
    subnet := ← f.required 1 "subnet" Ipv4Network.ofJson?
    privateKey := ← f.required 2 "wireguard_private_key" Json.toString?
    listenPort := ← f.required 3 "wireguard_listen_port" Json.toUInt16?
    peers := ← f.withDefault 4 "peers" (Json.toList? Peer.ofJson?) [] }

end NetworkSlice

namespace PublicIp

def fields (p : PublicIp) : List (String × Json) := [("v4", .bool p.v4), ("v6", .bool p.v6)]

def ofJson? (j : Json) : Option PublicIp := do
  let f ← j.toFields? 2
  return { v4 := ← f.required 0 "v4" Json.toBool?, v6 := ← f.required 1 "v6" Json.toBool? }

end PublicIp

namespace QsfsBackend

def toJson (b : QsfsBackend) : Json :=
  .object [("address", .string b.address), ("namespace", .string b.namespaceName),
    ("password", .string b.password)]

def ofJson? (j : Json) : Option QsfsBackend := do
  let f ← j.toFields? 3
  return {
    address := ← f.required 0 "address" Json.toString?
    namespaceName := ← f.required 1 "namespace" Json.toString?
    password := ← f.withDefault 2 "password" Json.toString? "" }

end QsfsBackend

namespace QsfsGroup

def toJson (g : QsfsGroup) : Json :=
  .object [("backends", Json.ofList QsfsBackend.toJson g.backends)]

def ofJson? (j : Json) : Option QsfsGroup := do
  let f ← j.toFields? 1
  return { backends := ← f.required 0 "backends" (Json.toList? QsfsBackend.ofJson?) }

end QsfsGroup

namespace Qsfs

def fields (q : Qsfs) : List (String × Json) :=
  [("cache", ofNat q.cache.toNat), ("minimal_shards", ofNat q.minimalShards.toNat),
    ("expected_shards", ofNat q.expectedShards.toNat), ("encryption_key", .string q.encryptionKey),
    ("groups", Json.ofList QsfsGroup.toJson q.groups)]

def ofJson? (j : Json) : Option Qsfs := do
  let f ← j.toFields? 5
  return {
    cache := ← f.required 0 "cache" Json.toUInt64?
    minimalShards := ← f.required 1 "minimal_shards" Json.toUInt32?
    expectedShards := ← f.required 2 "expected_shards" Json.toUInt32?
    encryptionKey := ← f.withDefault 3 "encryption_key" Json.toString? ""
    groups := ← f.withDefault 4 "groups" (Json.toList? QsfsGroup.ofJson?) [] }

end Qsfs

namespace LogShipper

def fields (l : LogShipper) : List (String × Json) :=
  [("zmachine", .string l.machine), ("output", .string l.output)]

def ofJson? (j : Json) : Option LogShipper := do
  let f ← j.toFields? 2
  return {
    machine := ← f.required 0 "zmachine" Json.toString?
    output := ← f.required 1 "output" Json.toString? }

end LogShipper

namespace Payload

/-- The fields of the kind. -/
def fields : Payload → List (String × Json)
  | .machine m => m.fields
  | .disk d => d.fields
  | .zdb z => z.fields
  | .nameGateway g => g.fields
  | .fqdnGateway g => g.fields
  | .network n => n.fields
  | .publicIp p => p.fields
  | .qsfs q => q.fields
  | .logs l => l.fields

def toJson (p : Payload) : Json :=
  .object (("type", .string p.kind.tag) :: p.fields)

/-- The payload of a kind with the given fields. -/
def ofContent? (kind : WorkloadKind) (content : Json) : Option Payload :=
  match kind with
  | .machine => (Machine.ofJson? content).map .machine
  | .disk => (Disk.ofJson? content).map .disk
  | .zdb => (Zdb.ofJson? content).map .zdb
  | .nameGateway => (NameGateway.ofJson? content).map .nameGateway
  | .fqdnGateway => (FqdnGateway.ofJson? content).map .fqdnGateway
  | .network => (NetworkSlice.ofJson? content).map .network
  | .publicIp => (PublicIp.ofJson? content).map .publicIp
  | .qsfs => (Qsfs.ofJson? content).map .qsfs
  | .logs => (LogShipper.ofJson? content).map .logs

def ofJson? : Json → Option Payload
  | .object members => do
    let tag ← (members.lookup "type").bind Json.toString?
    ofContent? (← WorkloadKind.ofTag? tag) (.object (members.filter (·.1 != "type")))
  | .array (tag :: items) => do
    ofContent? (← tag.toString?.bind WorkloadKind.ofTag?) (.array items)
  | _ => none

end Payload

/-! ### Reports and workloads -/

namespace Report

def toJson (r : Report) : Json :=
  .object [("state", .string r.state.text), ("error", .string r.error), ("data", r.data),
    ("created", ofNat r.created.toNat)]

def ofJson? (j : Json) : Option Report := do
  let f ← j.toFields? 4
  return {
    state := ← f.required 0 "state" fun j => j.toName?.bind ReportState.ofText?
    error := ← f.withDefault 1 "error" Json.toString? ""
    data := ← f.withDefault 2 "data" some .null
    created := ← f.withDefault 3 "created" Json.toUInt64? 0 }

end Report

namespace Workload

def toJson (w : Workload) : Json :=
  .object [("version", ofNat w.version.toNat), ("name", .string w.name), ("data", w.payload.toJson),
    ("metadata", .string w.metadata), ("description", .string w.description), ("result", w.report.toJson)]

def ofJson? (j : Json) : Option Workload := do
  let f ← j.toFields? 6
  return {
    version := ← f.required 0 "version" Json.toUInt32?
    name := ← f.required 1 "name" Json.toString?
    payload := ← f.required 2 "data" Payload.ofJson?
    metadata := ← f.withDefault 3 "metadata" Json.toString? ""
    description := ← f.withDefault 4 "description" Json.toString? ""
    report := ← f.withDefault 5 "result" Report.ofJson? .unseen }

end Workload

end ComputeGrid
