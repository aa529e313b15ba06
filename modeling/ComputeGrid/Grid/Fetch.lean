import ComputeGrid.Grid.Exchanges

/-!
# Fetching a fleet

The deployments of several nodes are asked for at the same time, each within a timeout. All requests are sent before any
answer is due, and the time that passes is the longest of the waits. One node's failure hides no other's deployment.
-/

namespace ComputeGrid

/-- Some deployments could not be fetched; the others were. -/
structure FetchError where
  fetched : NodeMap Deployment
  failures : NodeMap RpcError

def FetchError.message (e : FetchError) : String :=
  "failed to fetch deployments from " ++ ", ".intercalate (e.failures.toList.map fun (node, failure) =>
    "node " ++ toString node.toNat ++ " (" ++ failure.message ++ ")")

namespace Grid

/-- What the requests have led to, with the milliseconds until the last answer or timeout. -/
structure Fetched where
  answers : NodeMap (Except RpcError Deployment)
  ms : Nat
  grid : Grid

/-- Sends the requests for contracts of nodes, in an order. -/
def sendAll (g : Grid) : List (NodeId × ContractId) → NodeMap (Sent (Except RpcError Deployment)) × Grid
  | [] => (∅, g)
  | (node, contract) :: rest =>
    let (sent, g) := (getDeployment node contract).send g
    let (others, g) := g.sendAll rest
    (others.insert node sent, g)

/-- Takes in the answers to requests, in an order. -/
def receiveAll (patience : Nat) (sent : NodeMap (Sent (Except RpcError Deployment))) (acc : Fetched) :
    List (NodeId × ContractId) → Fetched
  | [] => acc
  | (node, contract) :: rest =>
    let acc := match sent[node]? with
      | some (.answered x) => { acc with answers := acc.answers.insert node x }
      | some (.pending delay) =>
        if delay ≤ patience then
          let (x, g) := (getDeployment node contract).answer acc.grid
          ⟨acc.answers.insert node x, max acc.ms delay, g⟩
        else
          { acc with
            answers := acc.answers.insert node (.error (.timeout node .get)), ms := max acc.ms patience }
      | none => acc
    receiveAll patience sent acc rest

/-- The answers to requests that are sent in one order and answered in another. -/
def fetchInOrder (g : Grid) (patience : Nat) (requests answers : List (NodeId × ContractId)) : Fetched :=
  let (sent, g) := g.sendAll requests
  receiveAll patience sent ⟨∅, 0, g⟩ answers

/-- The deployments that were fetched. -/
def Fetched.deployments (f : Fetched) : NodeMap Deployment := f.answers.filterMap fun _ x => x.toOption

/-- The errors in place of the others. -/
def Fetched.failures (f : Fetched) : NodeMap RpcError := f.answers.filterMap fun _ x =>
  match x with
  | .ok _ => none
  | .error e => some e

/-- The deployments, if there was no failure. -/
def Fetched.result (f : Fetched) : Except FetchError (NodeMap Deployment) :=
  if f.failures.isEmpty then .ok f.deployments else .error ⟨f.deployments, f.failures⟩

/-- Fetches the deployment of each node under its contract. -/
def fetchFleet (current : NodeMap ContractId) (timeout : Duration) :
    Timed Grid (Except FetchError (NodeMap Deployment)) := do
  let t ← get
  let f := t.state.fetchInOrder timeout.ceilMillis current.toList current.toList
  set (⟨t.now + f.ms, f.grid⟩ : Timeline Grid)
  return f.result

end Grid

end ComputeGrid
