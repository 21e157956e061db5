import Mathlib.Data.Finset.Prod
import SyncFanet.Olsr.Flooding
import SyncFanet.Olsr.TruthfulAgents

/-!
# Routes and repositories of a network

Agents whose packets are lost, delayed, duplicated and reordered, while hosts start, stop and
crash. What an agent stores about other agents goes back to packets that they have received
from each other and to MPRs that they have chosen.
-/

set_option autoImplicit false

namespace SyncFanet.Olsr

/-- The agents of a network, with the one behind each address. -/
structure Fanet (Agent : Type) where
  config : Agent → Config
  owner : NsAddr → Agent
  main : ∀ agent, owner (config agent).raAddr = agent
  ifaces : ∀ agent, ∀ iface ∈ (config agent).ifaces, owner iface.addr = agent

/-- The hosts, the pairs of a receiver and a sender of a packet that has arrived, and the
pairs of an agent and an MPR that it has had. -/
structure Situation (Agent : Type) where
  host : Agent → Host
  heard : Finset (Agent × Agent)
  picked : Finset (Agent × Agent)

variable {Agent : Type} [DecidableEq Agent]

namespace Situation

/-- An event at a host is over, which leaves an MPR set behind. -/
def settle (situation : Situation Agent) (fanet : Fanet Agent) (agent : Agent) (host : Host) :
    Situation Agent :=
  { situation with
    host := Function.update situation.host agent host
    picked := situation.picked ∪
      host.node.state.mprset.image fun mpr => (agent, fanet.owner mpr) }

theorem settle_host (situation : Situation Agent) (fanet : Fanet Agent) (agent other : Agent)
    (host : Host) : (situation.settle fanet agent host).host other =
      if other = agent then host else situation.host other :=
  Function.update_apply situation.host agent host other

/-- A packet has arrived. -/
def hear (situation : Situation Agent) (receiver sender : Agent) : Situation Agent :=
  { situation with heard := insert (receiver, sender) situation.heard }

def air (situation : Situation Agent) (fanet : Fanet Agent) : Air Agent where
  owner := fanet.owner
  heard receiver sender := (receiver, sender) ∈ situation.heard
  picked agent mpr := (agent, mpr) ∈ situation.picked

end Situation

namespace Fanet

variable (fanet : Fanet Agent)

/-- No agent has heard another one. -/
def initial (start maxTime : Agent → Int) : Situation Agent where
  host agent := {
    node := initialNode (fanet.config agent) (start agent) (maxTime agent)
    isOperational := true }
  heard := ∅
  picked := ∅

/-- A packet that some agent has sent arrives at one of them, on any interface, at any later
time and any number of times. Everything else happens at one host. -/
inductive Step (now : Int) (situation : Situation Agent) : Situation Agent → Prop where
  | receive (agent : Agent) (iface : Iface) (srcAddr : NsAddr) (pkt : Pkt) {host : Host}
      (known : iface ∈ (fanet.config agent).ifaces)
      (running : (situation.host agent).isOperational = true)
      (sent : Action.sentPkt pkt ∈ (situation.host (fanet.owner srcAddr)).node.history)
      (stepped : hostStep (fanet.config agent) now (.agent (.recv iface srcAddr pkt))
        (situation.host agent) = .ok host) :
      Step now situation
        ((situation.hear agent (fanet.owner srcAddr)).settle fanet agent host)
  | happen (agent : Agent) (event : HostEvent) {host : Host}
      (inside : ∀ iface srcAddr pkt, event ≠ .agent (.recv iface srcAddr pkt))
      (stepped : hostStep (fanet.config agent) now event (situation.host agent) = .ok host) :
      Step now situation (situation.settle fanet agent host)

/-- The situations of the runs, with the time of the last step. -/
inductive Reached : Int → Situation Agent → Prop where
  | initial (clock : Int) (start maxTime : Agent → Int) :
      Reached clock (fanet.initial start maxTime)
  | step {clock now : Int} {situation situation' : Situation Agent}
      (before : Reached clock situation) (later : clock ≤ now)
      (stepped : fanet.Step now situation situation') : Reached now situation'

end Fanet

/-! ## Every agent is truthful -/

section

variable {fanet : Fanet Agent} {clock now : Int} {situation situation' : Situation Agent}

omit [DecidableEq Agent] in
theorem Fanet.seat (fanet : Fanet Agent) (situation : Situation Agent) (agent : Agent) :
    Seat (situation.air fanet) agent (fanet.config agent) :=
  ⟨fanet.main agent, fanet.ifaces agent⟩

theorem Situation.hear_grows (situation : Situation Agent) (receiver sender : Agent) :
    (situation.air fanet).Grows ((situation.hear receiver sender).air fanet) where
  owner := rfl
  heard _ _ heard := Finset.mem_insert_of_mem heard
  picked _ _ picked := picked

theorem Situation.settle_grows (situation : Situation Agent) (agent : Agent) (host : Host) :
    (situation.air fanet).Grows ((situation.settle fanet agent host).air fanet) where
  owner := rfl
  heard _ _ heard := heard
  picked _ _ picked := Finset.mem_union_left _ picked

structure Situation.Honest (fanet : Fanet Agent) (clock : Int) (situation : Situation Agent) :
    Prop where
  truthful : ∀ agent,
    Truthful (situation.air fanet) agent clock (situation.host agent).node
  picks : ∀ agent, ∀ mpr ∈ (situation.host agent).node.state.mprset,
    (situation.air fanet).picked agent (fanet.owner mpr)

theorem Situation.Honest.hear (honest : situation.Honest fanet clock) (receiver sender : Agent) :
    (situation.hear receiver sender).Honest fanet clock where
  truthful agent := (honest.truthful agent).mono (situation.hear_grows receiver sender) (le_refl _)
  picks := honest.picks

omit [DecidableEq Agent] in
theorem Situation.Honest.later (honest : situation.Honest fanet clock) (later : clock ≤ now) :
    situation.Honest fanet now where
  truthful agent := (honest.truthful agent).mono ⟨rfl, fun _ _ same => same, fun _ _ same => same⟩
    later
  picks := honest.picks

theorem Situation.Honest.settle (honest : situation.Honest fanet now) {agent : Agent}
    {host : Host} (truthful : Truthful (situation.air fanet) agent now host.node) :
    (situation.settle fanet agent host).Honest fanet now := by
  have grows : (situation.air fanet).Grows ((situation.settle fanet agent host).air fanet) :=
    situation.settle_grows agent host
  constructor
  · intro other
    by_cases here : other = agent
    · subst here
      rw [Situation.settle_host, if_pos rfl]
      exact truthful.mono grows (le_refl _)
    · rw [Situation.settle_host, if_neg here]
      exact (honest.truthful other).mono grows (le_refl _)
  · intro other mpr member
    by_cases here : other = agent
    · subst here
      rw [Situation.settle_host, if_pos rfl] at member
      exact Finset.mem_union_right _ (Finset.mem_image_of_mem _ member)
    · rw [Situation.settle_host, if_neg here] at member
      exact grows.picked _ _ (honest.picks other mpr member)

theorem Situation.Honest.step (honest : situation.Honest fanet now)
    (stepped : fanet.Step now situation situation') : situation'.Honest fanet now := by
  cases stepped with
  | receive agent iface srcAddr pkt known running sent stepped =>
      have heard := honest.hear agent (fanet.owner srcAddr)
      refine heard.settle ((heard.truthful agent).hostStep (fanet.seat _ agent)
        (heard.picks agent) ?_ stepped)
      intro iface' srcAddr' pkt' same
      cases same
      exact ⟨known, Finset.mem_insert_self _ _,
        (heard.truthful (fanet.owner srcAddr)).sent pkt sent⟩
  | happen agent event inside stepped =>
      refine honest.settle ((honest.truthful agent).hostStep (fanet.seat _ agent)
        (honest.picks agent) ?_ stepped)
      intro iface srcAddr pkt same
      exact absurd same (inside iface srcAddr pkt)

omit [DecidableEq Agent] in
theorem Fanet.initial_honest (fanet : Fanet Agent) (clock : Int) (start maxTime : Agent → Int) :
    (fanet.initial start maxTime).Honest fanet clock where
  truthful agent := by
    refine ⟨List.nodup_nil, ?_, List.forall_mem_nil _, List.forall_mem_nil _, ?_,
      List.forall_mem_nil _, List.forall_mem_nil _, List.forall_mem_nil _, ?_,
      List.forall_mem_nil _, ?_⟩
    · intro tuple member
      obtain ⟨⟨iface, position⟩, among, rfl⟩ := List.mem_map.mp member
      have known := List.fst_mem_of_mem_zipIdx among
      exact (fanet.ifaces agent iface known).trans (fanet.main agent).symm
    · intro mpr member
      exact absurd member (Finset.notMem_empty mpr)
    · intro dest entry found
      cases found
    · intro pkt sent
      cases sent
  picks agent mpr member := absurd member (Finset.notMem_empty mpr)

theorem Fanet.Reached.honest (reached : fanet.Reached clock situation) :
    situation.Honest fanet clock := by
  induction reached with
  | initial clock start maxTime => exact fanet.initial_honest clock start maxTime
  | step _ later stepped ih => exact (ih.later later).step stepped

end

/-! ## Three agents in a line -/

/-- The first timer of an agent fires, or the last packet of an agent arrives at another one
on its first interface. -/
inductive Cue (Agent : Type) where
  | tick (agent : Agent)
  | hear (receiver sender : Agent)

def Node.lastPkt (node : Node) : Option Pkt :=
  node.history.reverse.findSome? Action.packet

theorem Node.sent_of_lastPkt {node : Node} {pkt : Pkt} (last : node.lastPkt = some pkt) :
    Action.sentPkt pkt ∈ node.history := by
  obtain ⟨action, member, packet⟩ := List.exists_of_findSome?_eq_some last
  have here : action = .sentPkt pkt := by
    cases action <;> cases packet
    rfl
  exact here ▸ List.mem_reverse.mp member

namespace Fanet

variable (fanet : Fanet Agent)

def follow (now : Int) (cue : Cue Agent) (situation : Situation Agent) :
    Option (Situation Agent) :=
  match cue with
  | .tick agent =>
      (hostStep (fanet.config agent) now (.agent .timer) (situation.host agent)).toOption.map
        (situation.settle fanet agent)
  | .hear receiver sender =>
      if (situation.host receiver).isOperational then
        (fanet.config receiver).ifaces.head?.bind fun iface =>
          (situation.host sender).node.lastPkt.bind fun pkt =>
            (hostStep (fanet.config receiver) now
              (.agent (.recv iface (fanet.config sender).raAddr pkt))
              (situation.host receiver)).toOption.map
                ((situation.hear receiver sender).settle fanet receiver)
      else none

def play : List (Int × Cue Agent) → Int × Situation Agent → Option (Int × Situation Agent)
  | [], current => some current
  | (now, cue) :: rest, current =>
      if current.1 ≤ now then
        (fanet.follow now cue current.2).bind fun situation => play rest (now, situation)
      else none

variable {fanet}

theorem follow_step {now : Int} {cue : Cue Agent} {situation situation' : Situation Agent}
    (followed : fanet.follow now cue situation = some situation') :
    fanet.Step now situation situation' := by
  cases cue with
  | tick agent =>
      obtain ⟨host, ran, rfl⟩ := Option.map_eq_some_iff.mp followed
      refine .happen agent (.agent .timer) ?_ (toOption_some ran)
      intro iface srcAddr pkt same
      cases same
  | hear receiver sender =>
      simp only [follow] at followed
      split at followed
      · next running =>
        obtain ⟨iface, first, followed⟩ := Option.bind_eq_some_iff.mp followed
        obtain ⟨pkt, last, followed⟩ := Option.bind_eq_some_iff.mp followed
        obtain ⟨host, ran, rfl⟩ := Option.map_eq_some_iff.mp followed
        have sent : Action.sentPkt pkt ∈
            (situation.host (fanet.owner (fanet.config sender).raAddr)).node.history := by
          rw [fanet.main sender]
          exact Node.sent_of_lastPkt last
        have received := Step.receive receiver iface (fanet.config sender).raAddr pkt
          (List.mem_of_mem_head? first) running sent (toOption_some ran)
        rw [fanet.main sender] at received
        exact received
      · cases followed

theorem play_reached {cues : List (Int × Cue Agent)} {current ended : Int × Situation Agent}
    (before : fanet.Reached current.1 current.2) (played : fanet.play cues current = some ended) :
    fanet.Reached ended.1 ended.2 := by
  induction cues generalizing current with
  | nil =>
      cases played
      exact before
  | cons first rest ih =>
      obtain ⟨now, cue⟩ := first
      simp only [play] at played
      split at played
      · next later =>
        obtain ⟨situation, followed, played⟩ := Option.bind_eq_some_iff.mp played
        have after : fanet.Reached now situation := before.step later (follow_step followed)
        refine ih ?_ played
        exact after
      · cases played

end Fanet

def lineConfig (agent : Fin 3) : Config :=
  { oneIfaceConfig with
    raAddr := agent.val + 1
    ifaces := [{ index := 0, addr := agent.val + 1 }]
    localAddrs := [agent.val + 1]
    useMac := false
    refreshInterval := 20 * Time.second
    tcIval := 12 * Time.second
    raAddr_local := List.mem_singleton_self _
    ifaces_local := List.forall_mem_singleton.mpr (List.mem_singleton_self _)
    refreshInterval_pos := by decide }

def lineFanet : Fanet (Fin 3) where
  config := lineConfig
  owner addr := if addr = 1 then 0 else if addr = 2 then 1 else 2
  main := by decide
  ifaces := by decide

def lineRound (now : Int) (ticks : Nat) : List (Int × Cue (Fin 3)) :=
  List.replicate ticks (now, .tick 0) ++ List.replicate ticks (now, .tick 2) ++
    [(now, .hear 1 0), (now, .hear 1 2)] ++ List.replicate ticks (now, .tick 1) ++
    [(now, .hear 0 1), (now, .hear 2 1)]

def lineCues : List (Int × Cue (Fin 3)) :=
  lineRound (5 * Time.second) 4 ++
    List.replicate 2 (5 * Time.second + Time.microsecond, .tick 1) ++
    lineRound (10 * Time.second) 2 ++ lineRound (15 * Time.second) 2 ++
    List.replicate 2 (17 * Time.second, .tick 1) ++ [(17 * Time.second, .hear 0 1)]

theorem line_played : ∃ clock situation entry, lineFanet.Reached clock situation ∧
    (situation.host 0).node.rtable.lookup 3 = some entry ∧
    entry.dist = 2 ∧ entry.route = [2] ∧ entry.nextAddr = 2 ∧
    (3, 2) ∈ (situation.host 0).node.state.topologyset.map fun tuple =>
      (tuple.destAddr, tuple.lastAddr) := by
  have computed : (lineFanet.play lineCues
      (0, lineFanet.initial (fun _ => 0) (fun _ => 0))).any (fun ended =>
        ((ended.2.host 0).node.rtable.lookup 3).any (fun entry =>
          decide (entry.dist = 2 ∧ entry.route = [2] ∧ entry.nextAddr = 2)) &&
        decide ((3, 2) ∈ (ended.2.host 0).node.state.topologyset.map fun tuple =>
          (tuple.destAddr, tuple.lastAddr))) = true := by
    decide +kernel
  obtain ⟨⟨clock, situation⟩, played, checked⟩ := (Option.any_eq_true _ _).mp computed
  obtain ⟨routed, told⟩ := Bool.and_eq_true_iff.mp checked
  obtain ⟨entry, found, shape⟩ := (Option.any_eq_true _ _).mp routed
  obtain ⟨dist, route, next⟩ := of_decide_eq_true shape
  exact ⟨clock, situation, entry, Fanet.play_reached (.initial 0 _ _) played, found, dist, route,
    next, of_decide_eq_true told⟩

/-! ## Routes and repositories -/

/-- In every run, an entry of a routing table stands for a path of as many links as its distance
says, through its next hop to the agent behind its destination, and the agents at both ends of
each of these links have received packets from each other. -/
theorem Fanet.Reached.lookup_leads {fanet : Fanet Agent} {clock : Int}
    {situation : Situation Agent} (reached : fanet.Reached clock situation) {agent : Agent}
    {dest : NsAddr} {entry : RtEntry}
    (found : (situation.host agent).node.rtable.lookup dest = some entry) :
    Leads (situation.air fanet) agent entry :=
  (reached.honest.truthful agent).routes dest entry found

theorem line_leads : ∃ clock situation entry, lineFanet.Reached clock situation ∧
    (situation.host 0).node.rtable.lookup 3 = some entry ∧ entry.route = [2] ∧
      Leads (situation.air lineFanet) 0 entry := by
  obtain ⟨clock, situation, entry, reached, found, _, route, _⟩ := line_played
  exact ⟨clock, situation, entry, reached, found, route, reached.lookup_leads found⟩

/-- In every run, the 2-hop tuples of an agent tell of links on which both agents have heard
each other, its selectors have chosen it, and a topology tuple tells of an agent that has
chosen another one as its MPR. -/
theorem Fanet.Reached.repositories_heard {fanet : Fanet Agent} {clock : Int}
    {situation : Situation Agent} (reached : fanet.Reached clock situation) (agent : Agent) :
    (∀ hop ∈ (situation.host agent).node.state.nb2hopset, (situation.air fanet).Both
      (fanet.owner hop.nbMainAddr) (fanet.owner hop.nb2hopAddr)) ∧
    (∀ tuple ∈ (situation.host agent).node.state.mprselset,
      (situation.air fanet).Chosen (fanet.owner tuple.mainAddr) agent) ∧
    ∀ tuple ∈ (situation.host agent).node.state.topologyset, (situation.air fanet).Chosen
      (fanet.owner tuple.destAddr) (fanet.owner tuple.lastAddr) :=
  ⟨(reached.honest.truthful agent).hops, (reached.honest.truthful agent).selectors,
    (reached.honest.truthful agent).topology⟩

theorem line_topology_heard : ∃ clock situation, lineFanet.Reached clock situation ∧
    ∃ tuple ∈ (situation.host 0).node.state.topologyset,
      tuple.destAddr = 3 ∧ tuple.lastAddr = 2 ∧ (situation.air lineFanet).Chosen 2 1 := by
  obtain ⟨clock, situation, _, reached, _, _, _, _, told⟩ := line_played
  obtain ⟨tuple, member, same⟩ := List.mem_map.mp told
  obtain ⟨dest, last⟩ := Prod.mk.inj same
  have chosen := (reached.repositories_heard 0).2.2 tuple member
  rw [dest, last] at chosen
  exact ⟨clock, situation, reached, tuple, member, dest, last, chosen⟩

end SyncFanet.Olsr
