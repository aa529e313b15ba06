import ComputeGrid.Address.Codec
import ComputeGrid.Json.Maps
import ComputeGrid.Mesh.Basic

/-!
# Meshes as JSON

The private key of an external member is left out where it is not known.
-/

namespace ComputeGrid

open Json (ofNat)

namespace Member

def toJson (m : Member) : Json :=
  .object [("subnet", m.subnet.toJson), ("private_key", .string m.privateKey), ("public_key", .string m.publicKey),
    ("port", ofNat m.port.toNat)]

def ofJson? (j : Json) : Option Member := do
  let f ← j.toFields? 4
  return {
    subnet := ← f.required 0 "subnet" Ipv4Network.ofJson?
    privateKey := ← f.required 1 "private_key" Json.toString?
    publicKey := ← f.required 2 "public_key" Json.toString?
    port := ← f.required 3 "port" Json.toUInt16? }

end Member

namespace ExternalMember

def toJson (m : ExternalMember) : Json :=
  .object ([("subnet", m.subnet.toJson), ("public_key", .string m.publicKey)] ++
    (m.privateKey.map fun k => ("private_key", .string k)).toList)

def ofJson? (j : Json) : Option ExternalMember := do
  let f ← j.toFields? 3
  return {
    subnet := ← f.required 0 "subnet" Ipv4Network.ofJson?
    publicKey := ← f.required 1 "public_key" Json.toString?
    privateKey := ← f.withDefault 2 "private_key" (Json.toOption? Json.toString?) none }

end ExternalMember

namespace Mesh

def toJson (m : Mesh) : Json :=
  .object [("name", .string m.name), ("ip_range", m.range.toJson), ("nodes", Json.nodeMap Member.toJson m.nodes),
    ("relay", Json.ofOption (fun n => ofNat n.toNat) m.relay),
    ("external", Json.ofOption ExternalMember.toJson m.external)]

def ofJson? (j : Json) : Option Mesh := do
  let f ← j.toFields? 5
  return {
    name := ← f.required 0 "name" Json.toString?
    range := ← f.required 1 "ip_range" Ipv4Network.ofJson?
    nodes := ← f.withDefault 2 "nodes" (Json.toNodeMap? Member.ofJson?) ∅
    relay := ← f.withDefault 3 "relay" (Json.toOption? Json.toUInt32?) none
    external := ← f.withDefault 4 "external" (Json.toOption? ExternalMember.ofJson?) none }

end Mesh

end ComputeGrid
