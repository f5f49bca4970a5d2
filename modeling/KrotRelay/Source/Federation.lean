import KrotRelay.Source.ServerEffects

/-!
# Two relays that federate (krot-server/src/peer_lookup.rs, session.rs: `register_http`)

`PeerLabelLookup` is a trait; the implementation here is the one the deployment is meant to
have: it is always available and answers with the owner the other relay's registry has for
the label at the instant of the query. Each relay lists the other as a peer, and every
identity that gets a session names the other relay in its `federation=` list. `accepted`
only observes: the connections each relay has accepted.
-/
namespace KrotRelay.Source

variable {event : Event} {next server : Server}

/-- The identity that has the label in the registry's table. -/
def TunnelRegistry.labelOwner (registry : TunnelRegistry) (label : String) : Option PubKey :=
  (registry.tunnels.entries.find? fun entry => entry.2.kind == .http label).map
    fun entry => entry.2.owner

/-- What the lookup answers. -/
def TunnelRegistry.findOwner (registry : TunnelRegistry) (label : String) : PeerLookupOutcome :=
  match registry.labelOwner label with
  | some owner => .found owner
  | none => .notFound

inductive Side where
  | east
  | west
  deriving DecidableEq

def Side.other : Side → Side
  | .east => .west
  | .west => .east

structure FederatedPair where
  relay : Side → Server
  accepted : Side → List Connection

namespace FederatedPair

def init (relay : Side → Server) : FederatedPair where
  relay := relay
  accepted := fun _ => []

-- the apex domains under which the relays know each other
variable (apex : Side → String)

/-- Queries to the other relay are answered from its registry, it stays on the list of peers,
and sessions start for identities that name it. -/
def federated (pair : FederatedPair) (side : Side) : Event → Bool
  | .call connection choice =>
    match (pair.relay side).tasks connection with
    | .dispatching _ _ (.call (.findOwner peer label) _) =>
      peer != apex side.other || choice.owner == (pair.relay side.other).registry.findOwner label
    | _ => true
  | .subscribe connection =>
    match (pair.relay side).tasks connection with
    | .authenticated ok => ok.entry.federation.contains (apex side.other)
    | _ => true
  | .setPeers peers => peers.contains (apex side.other)
  | _ => true

def observe (pair : FederatedPair) (side : Side) : Event → List Connection
  | .accept connection => pair.accepted side ++ [connection]
  | _ => pair.accepted side

def step (pair : FederatedPair) (turn : Side × Event) : Option FederatedPair :=
  if pair.federated apex turn.1 turn.2 then
    ((pair.relay turn.1).step turn.2).map fun next =>
      { relay := Function.update pair.relay turn.1 next
        accepted := Function.update pair.accepted turn.1 (pair.observe turn.1 turn.2) }
  else none

end FederatedPair

/-- An entry of the table is found by its label if no other has the label. -/
theorem TunnelRegistry.labelOwner_eq {registry : TunnelRegistry} {label : String} {id : TunnelId}
    {info : TunnelInfo} (found : registry.tunnels.lookup id = some info)
    (kind : info.kind = .http label)
    (unique : ∀ other entry, registry.tunnels.lookup other = some entry →
      entry.kind = .http label → other = id) : registry.labelOwner label = some info.owner := by
  have mem : (⟨id, info⟩ : Sigma fun _ : TunnelId => TunnelInfo) ∈ registry.tunnels.entries :=
    AList.mem_lookup_iff.mp found
  unfold labelOwner
  cases search : registry.tunnels.entries.find? fun entry => entry.2.kind == .http label with
  | none =>
    have absent := List.find?_eq_none.mp search _ mem
    rw [kind] at absent
    simp at absent
  | some entry =>
    obtain ⟨other, entry⟩ := entry
    have present : registry.tunnels.lookup other = some entry :=
      AList.mem_lookup_iff.mpr (List.mem_of_find?_eq_some search)
    have named : entry.kind = .http label := by simpa using List.find?_some search
    obtain rfl := unique other entry present named
    cases present.symm.trans found
    rfl

namespace Server

/-- The list of peers is set from outside only. -/
theorem step_peers (other : ∀ peers, event ≠ .setPeers peers)
    (step : server.step event = some next) : next.peers = server.peers := by
  cases step_cases step with
  | peersSet peers => exact absurd rfl (other peers)
  | started =>
    simp only [startSession, ensureRateState]
    split <;> rfl
  | greeted _ _ _ _ _ _ _ answered => cases answer_cases answered <;> rfl
  | dispatched _ _ _ _ _ _ _ _ _ answered => cases answer_cases answered <;> rfl
  | sawShutdown _ written | sawRevoked _ written => cases written <;> rfl
  | _ => rfl

/-- Only an accepted connection has a task. -/
theorem step_absent {connection : Connection} (stepped : server.step event = some next)
    (absent : server.tasks connection = .absent) (present : next.tasks connection ≠ .absent) :
    event = .accept connection := by
  by_contra other
  refine present ?_
  by_cases own : event.connection? = some connection
  · cases event with
    | accept =>
      cases own
      exact absurd rfl other
    | call | timeout | subscribe | frame | readError | sawShutdown | sawRevoked | cleanup =>
      cases own
      simp only [step, absent] at stepped
      cases stepped
    | tick | poll | reapExpired | shutdown | setPeers | reload | announce => cases own
  · rw [step_tasks_other stepped connection own]
    exact absent

end Server
end KrotRelay.Source
