import ComputeGrid.Address.Network

/-!
# The configuration of an external member

The text from which a machine outside the grid brings up its side of the mesh: its own address and key, and the relay as its
peer.
-/

namespace ComputeGrid

/-- What the configuration of an external member says; `keepalive` is in seconds. -/
structure QuickConfig where
  address : Ipv4Network
  privateKey : String
  relayPublicKey : String
  relayEndpoint : String
  allowedIps : List Ipv4Network
  keepalive : UInt32
  deriving DecidableEq, Repr

/-- The text, line by line. -/
def QuickConfig.render (c : QuickConfig) : String :=
  String.join <| [
    "[Interface]",
    "Address = " ++ c.address.text,
    "PrivateKey = " ++ c.privateKey,
    "",
    "[Peer]",
    "PublicKey = " ++ c.relayPublicKey,
    "AllowedIPs = " ++ ", ".intercalate (c.allowedIps.map Ipv4Network.text),
    "PersistentKeepalive = " ++ toString c.keepalive.toNat,
    "Endpoint = " ++ c.relayEndpoint].map (· ++ "\n")

end ComputeGrid
