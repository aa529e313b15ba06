import ComputeGrid.Address.Network
import ComputeGrid.Json.Record

/-!
# Addresses and networks as JSON

Each is the string of its text.
-/

namespace ComputeGrid

namespace Ipv4

def toJson (x : Ipv4) : Json := .string x.text

def ofJson? (j : Json) : Option Ipv4 := j.toString?.bind ofText?

end Ipv4

namespace Ipv6

def toJson (x : Ipv6) : Json := .string x.text

def ofJson? (j : Json) : Option Ipv6 := j.toString?.bind ofText?

end Ipv6

namespace IpAddress

def toJson (x : IpAddress) : Json := .string x.text

def ofJson? (j : Json) : Option IpAddress := j.toString?.bind ofText?

end IpAddress

namespace Ipv4Network

def toJson (n : Ipv4Network) : Json := .string n.text

def ofJson? (j : Json) : Option Ipv4Network := j.toString?.bind ofText?

end Ipv4Network

namespace Ipv6Network

def toJson (n : Ipv6Network) : Json := .string n.text

def ofJson? (j : Json) : Option Ipv6Network := j.toString?.bind ofText?

end Ipv6Network

end ComputeGrid
