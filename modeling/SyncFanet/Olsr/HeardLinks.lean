import SyncFanet.Olsr.HelloExchange
import SyncFanet.Olsr.Lifecycle

/-!
# What the agents of a network have heard

Which agents have received packets from which others, and which have chosen which
others as MPRs. Messages and repositories are truthful when they tell nothing else.
-/

set_option autoImplicit false

namespace SyncFanet.Olsr

/-! ## Evidence -/

/-- The agents behind the addresses, `heard receiver sender` for the packets that have
arrived, and `picked agent mpr` for the MPR sets that the agents have had. -/
structure Air (Agent : Type) where
  owner : NsAddr → Agent
  heard : Agent → Agent → Prop
  picked : Agent → Agent → Prop

namespace Air

variable {Agent : Type}

/-- Each of the agents has heard the other one. -/
def Both (air : Air Agent) (first second : Agent) : Prop :=
  air.heard first second ∧ air.heard second first

/-- The agent has chosen the other one as an MPR, with which it shares a link. -/
def Chosen (air : Air Agent) (agent mpr : Agent) : Prop :=
  air.picked agent mpr ∧ air.Both agent mpr

theorem Both.symm {air : Air Agent} {first second : Agent} (both : air.Both first second) :
    air.Both second first :=
  ⟨both.2, both.1⟩

structure Grows (air air' : Air Agent) : Prop where
  owner : air'.owner = air.owner
  heard : ∀ receiver sender, air.heard receiver sender → air'.heard receiver sender
  picked : ∀ agent mpr, air.picked agent mpr → air'.picked agent mpr

variable {air air' : Air Agent} {first second agent mpr : Agent}

theorem Grows.both (grows : air.Grows air') (both : air.Both first second) :
    air'.Both first second :=
  ⟨grows.heard _ _ both.1, grows.heard _ _ both.2⟩

theorem Grows.chosen (grows : air.Grows air') (chosen : air.Chosen agent mpr) :
    air'.Chosen agent mpr :=
  ⟨grows.picked _ _ chosen.1, grows.both chosen.2⟩

end Air

variable {Agent : Type}

/-! ## Messages -/

structure HelloListing (air : Air Agent) (sender : Agent) (nbType : Nat) (addr : NsAddr) :
    Prop where
  heard : air.heard sender (air.owner addr)
  symmetric : nbType = symNeigh ∨ nbType = mprNeigh → air.Both sender (air.owner addr)
  chosen : nbType = mprNeigh → air.Chosen sender (air.owner addr)

def Vouched (air : Air Agent) (sender : Agent) (msg : Msg) : Prop :=
  match msg.body with
  | .hello hello => air.owner msg.origAddr = sender ∧
      ∀ group ∈ hello.helloMsgs, ∀ addr ∈ group.nbIfaceAddrs,
        HelloListing air sender group.nbType addr
  | .tc tc => ∀ addr ∈ tc.nbMainAddrs, air.Chosen (air.owner addr) (air.owner msg.origAddr)
  | .mid mid => ∀ addr ∈ mid.ifaceAddrs, air.owner addr = air.owner msg.origAddr
  | .other _ => True

/-! ## Routes -/

/-- The route that is stored with an entry, up to its destination, leads over links on
which the agents have heard each other, as far as the distance says and through the next hop. -/
structure Leads (air : Air Agent) (agent : Agent) (entry : RtEntry) : Prop where
  linked : List.IsChain air.Both
    (agent :: (entry.route ++ [entry.destAddr]).map air.owner)
  hops : entry.route.length + 1 = entry.dist
  first : ((entry.route ++ [entry.destAddr]).map air.owner).head? =
    some (air.owner entry.nextAddr)
  leaves : air.owner entry.ifaceAddr = agent

/-! ## Agents -/

structure TruthfulLink (air : Air Agent) (agent : Agent) (clock : Int) (link : LinkTuple) :
    Prop where
  inbound : air.owner link.localIfaceAddr = agent
  heard : air.heard agent (air.owner link.nbIfaceAddr)
  symmetric : link.symTime < clock ∨ air.heard (air.owner link.nbIfaceAddr) agent

structure Truthful (air : Air Agent) (agent : Agent) (clock : Int) (node : Node) : Prop where
  mains : node.state.nbMains.Nodup
  assocs : ∀ tuple ∈ node.state.ifaceassocset,
    air.owner tuple.ifaceAddr = air.owner tuple.mainAddr
  links : ∀ link ∈ node.state.linkset, TruthfulLink air agent clock link
  nbs : ∀ nb ∈ node.state.nbset, nb.status = .sym → air.Both agent (air.owner nb.nbMainAddr)
  mprs : ∀ mpr ∈ node.state.mprset, air.Both agent (air.owner mpr)
  hops : ∀ hop ∈ node.state.nb2hopset,
    air.Both (air.owner hop.nbMainAddr) (air.owner hop.nb2hopAddr)
  selectors : ∀ tuple ∈ node.state.mprselset, air.Chosen (air.owner tuple.mainAddr) agent
  topology : ∀ tuple ∈ node.state.topologyset,
    air.Chosen (air.owner tuple.destAddr) (air.owner tuple.lastAddr)
  routes : ∀ dest entry, node.rtable.lookup dest = some entry → Leads air agent entry
  buffered : ∀ msg ∈ node.msgs, Vouched air agent msg
  sent : ∀ pkt, Action.sentPkt pkt ∈ node.history → ∀ msg ∈ pkt.msgs, Vouched air agent msg

/-! ## Evidence grows -/

section

variable {air air' : Air Agent} {agent : Agent} {clock now : Int} {node : Node}

theorem HelloListing.mono {nbType : Nat} {addr : NsAddr} (grows : air.Grows air')
    (listed : HelloListing air agent nbType addr) : HelloListing air' agent nbType addr where
  heard := by
    rw [grows.owner]
    exact grows.heard _ _ listed.heard
  symmetric type := by
    rw [grows.owner]
    exact grows.both (listed.symmetric type)
  chosen type := by
    rw [grows.owner]
    exact grows.chosen (listed.chosen type)

theorem Vouched.mono {msg : Msg} (grows : air.Grows air') (vouched : Vouched air agent msg) :
    Vouched air' agent msg := by
  unfold Vouched at vouched ⊢
  cases body : msg.body with
  | hello hello =>
      simp only [body] at vouched ⊢
      obtain ⟨own, listed⟩ := vouched
      refine ⟨grows.owner ▸ own, ?_⟩
      intro group member addr among
      exact (listed group member addr among).mono grows
  | tc tc =>
      simp only [body] at vouched ⊢
      intro addr among
      rw [grows.owner]
      exact grows.chosen (vouched addr among)
  | mid mid =>
      simp only [body] at vouched ⊢
      intro addr among
      rw [grows.owner]
      exact vouched addr among
  | other msgType => trivial

theorem Leads.mono {entry : RtEntry} (grows : air.Grows air') (leads : Leads air agent entry) :
    Leads air' agent entry where
  linked := by
    rw [grows.owner]
    exact leads.linked.imp fun _ _ both => grows.both both
  hops := leads.hops
  first := by
    rw [grows.owner]
    exact leads.first
  leaves := by
    rw [grows.owner]
    exact leads.leaves

theorem TruthfulLink.mono {link : LinkTuple} (grows : air.Grows air') (later : clock ≤ now)
    (truthful : TruthfulLink air agent clock link) : TruthfulLink air' agent now link where
  inbound := by
    rw [grows.owner]
    exact truthful.inbound
  heard := by
    rw [grows.owner]
    exact grows.heard _ _ truthful.heard
  symmetric := by
    rw [grows.owner]
    rcases truthful.symmetric with ended | heard
    · exact .inl (Int.lt_of_lt_of_le ended later)
    · exact .inr (grows.heard _ _ heard)

theorem Truthful.mono (grows : air.Grows air') (later : clock ≤ now)
    (truthful : Truthful air agent clock node) : Truthful air' agent now node where
  mains := truthful.mains
  assocs := by
    rw [grows.owner]
    exact truthful.assocs
  links link member := (truthful.links link member).mono grows later
  nbs nb member sym := by
    rw [grows.owner]
    exact grows.both (truthful.nbs nb member sym)
  mprs mpr member := by
    rw [grows.owner]
    exact grows.both (truthful.mprs mpr member)
  hops hop member := by
    rw [grows.owner]
    exact grows.both (truthful.hops hop member)
  selectors tuple member := by
    rw [grows.owner]
    exact grows.chosen (truthful.selectors tuple member)
  topology tuple member := by
    rw [grows.owner]
    exact grows.chosen (truthful.topology tuple member)
  routes dest entry found := (truthful.routes dest entry found).mono grows
  buffered msg member := (truthful.buffered msg member).mono grows
  sent pkt sent msg member := (truthful.sent pkt sent msg member).mono grows

end

/-! ## Steps that tell nothing new -/

structure Forgets (node node' : Node) : Prop where
  linkset : node'.state.linkset ⊆ node.state.linkset
  nbset : node'.state.nbset.Sublist node.state.nbset
  ifaceassocset : node'.state.ifaceassocset ⊆ node.state.ifaceassocset
  mprset : node'.state.mprset ⊆ node.state.mprset
  nb2hopset : node'.state.nb2hopset ⊆ node.state.nb2hopset
  mprselset : node'.state.mprselset ⊆ node.state.mprselset
  topologyset : node'.state.topologyset ⊆ node.state.topologyset
  rtable : ∀ dest entry, node'.rtable.lookup dest = some entry →
    node.rtable.lookup dest = some entry
  msgs : node'.msgs ⊆ node.msgs
  sent : ∀ pkt, Action.sentPkt pkt ∈ node'.history → Action.sentPkt pkt ∈ node.history

namespace Forgets

variable {node node' node'' : Node}

theorem refl (node : Node) : Forgets node node :=
  ⟨List.Subset.refl _, List.Sublist.refl _, List.Subset.refl _, Finset.Subset.refl _,
    List.Subset.refl _, List.Subset.refl _, List.Subset.refl _, fun _ _ found => found,
    List.Subset.refl _, fun _ sent => sent⟩

theorem trans (left : Forgets node node') (right : Forgets node' node'') :
    Forgets node node'' where
  linkset := List.Subset.trans right.linkset left.linkset
  nbset := right.nbset.trans left.nbset
  ifaceassocset := List.Subset.trans right.ifaceassocset left.ifaceassocset
  mprset := Finset.Subset.trans right.mprset left.mprset
  nb2hopset := List.Subset.trans right.nb2hopset left.nb2hopset
  mprselset := List.Subset.trans right.mprselset left.mprselset
  topologyset := List.Subset.trans right.topologyset left.topologyset
  rtable dest entry found := left.rtable dest entry (right.rtable dest entry found)
  msgs := List.Subset.trans right.msgs left.msgs
  sent pkt sent := left.sent pkt (right.sent pkt sent)

theorem record (node : Node) {action : Action} (silent : ∀ pkt, action ≠ .sentPkt pkt) :
    Forgets node (node.record action) := by
  refine { refl node with sent := ?_ }
  intro pkt sent
  rcases List.mem_append.mp sent with before | here
  · exact before
  · exact absurd (List.mem_singleton.mp here).symm (silent pkt)

theorem truthful {air : Air Agent} {agent : Agent} {clock : Int} (forgets : Forgets node node')
    (truthful : Truthful air agent clock node) : Truthful air agent clock node' where
  mains := truthful.mains.sublist (forgets.nbset.map _)
  assocs tuple member := truthful.assocs tuple (forgets.ifaceassocset member)
  links link member := truthful.links link (forgets.linkset member)
  nbs nb member := truthful.nbs nb (forgets.nbset.subset member)
  mprs mpr member := truthful.mprs mpr (forgets.mprset member)
  hops hop member := truthful.hops hop (forgets.nb2hopset member)
  selectors tuple member := truthful.selectors tuple (forgets.mprselset member)
  topology tuple member := truthful.topology tuple (forgets.topologyset member)
  routes dest entry found := truthful.routes dest entry (forgets.rtable dest entry found)
  buffered msg member := truthful.buffered msg (forgets.msgs member)
  sent pkt sent := truthful.sent pkt (forgets.sent pkt sent)

end Forgets

end SyncFanet.Olsr
