import ComputeGrid.Address.Codec
import ComputeGrid.Inventory.Basic

/-!
# Nodes and farms as JSON
-/

namespace ComputeGrid

open Json (ofNat)

namespace PublicConfig

def toJson (c : PublicConfig) : Json :=
  .object [("ipv4", Json.ofOption Ipv4Network.toJson c.ipv4), ("gw4", Json.ofOption Ipv4.toJson c.gateway4),
    ("ipv6", Json.ofOption Ipv6Network.toJson c.ipv6), ("gw6", Json.ofOption Ipv6.toJson c.gateway6),
    ("domain", Json.ofOption .string c.domain)]

def ofJson? (j : Json) : Option PublicConfig := do
  let f ← j.toFields? 5
  return {
    ipv4 := ← f.withDefault 0 "ipv4" (Json.toOption? Ipv4Network.ofJson?) none
    gateway4 := ← f.withDefault 1 "gw4" (Json.toOption? Ipv4.ofJson?) none
    ipv6 := ← f.withDefault 2 "ipv6" (Json.toOption? Ipv6Network.ofJson?) none
    gateway6 := ← f.withDefault 3 "gw6" (Json.toOption? Ipv6.ofJson?) none
    domain := ← f.withDefault 4 "domain" (Json.toOption? Json.toString?) none }

end PublicConfig

namespace NodeInfo

def toJson (n : NodeInfo) : Json :=
  .object [("node_id", ofNat n.nodeId.toNat), ("farm_id", ofNat n.farmId.toNat), ("twin_id", ofNat n.twinId.toNat),
    ("total", n.total.toJson), ("used", n.used.toJson),
    ("public_config", Json.ofOption PublicConfig.toJson n.publicConfig), ("online", .bool n.online)]

def ofJson? (j : Json) : Option NodeInfo := do
  let f ← j.toFields? 7
  return {
    nodeId := ← f.required 0 "node_id" Json.toUInt32?
    farmId := ← f.required 1 "farm_id" Json.toUInt32?
    twinId := ← f.required 2 "twin_id" Json.toUInt32?
    total := ← f.required 3 "total" Capacity.ofJson?
    used := ← f.required 4 "used" Capacity.ofJson?
    publicConfig := ← f.withDefault 5 "public_config" (Json.toOption? PublicConfig.ofJson?) none
    online := ← f.withDefault 6 "online" Json.toBool? true }

end NodeInfo

namespace FarmAddress

def toJson (a : FarmAddress) : Json :=
  .object [("ip", a.ip.toJson), ("gateway", a.gateway.toJson), ("contract_id", ofNat a.contractId.toNat)]

def ofJson? (j : Json) : Option FarmAddress := do
  let f ← j.toFields? 3
  return {
    ip := ← f.required 0 "ip" Ipv4Network.ofJson?
    gateway := ← f.required 1 "gateway" Ipv4.ofJson?
    contractId := ← f.withDefault 2 "contract_id" Json.toUInt64? 0 }

end FarmAddress

namespace Farm

def toJson (x : Farm) : Json :=
  .object [("farm_id", ofNat x.farmId.toNat), ("name", .string x.name),
    ("public_ips", Json.ofList FarmAddress.toJson x.publicIps)]

def ofJson? (j : Json) : Option Farm := do
  let f ← j.toFields? 3
  return {
    farmId := ← f.required 0 "farm_id" Json.toUInt32?
    name := ← f.required 1 "name" Json.toString?
    publicIps := ← f.withDefault 2 "public_ips" (Json.toList? FarmAddress.ofJson?) [] }

end Farm

namespace FarmFilter

def ofJson? (j : Json) : Option FarmFilter := do
  let f ← j.toFields? 3
  return {
    farmId := ← f.nullable 0 "farm_id" Json.toUInt32?
    name := ← f.nullable 1 "name" Json.toString?
    freeIps := ← f.nullable 2 "free_ips" Json.toUInt32? }

end FarmFilter

end ComputeGrid
