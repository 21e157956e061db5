import Mathlib.Tactic.NormNum
import SyncFanet.Dsr.Receive

/-!
# The cost vector of a route request

`PathCost` and `ExpandCost`, which a node runs on a route request that it receives. The
first one reads the cost of the last link from the node that sent the request, the second
one from its initiator.
-/

set_option autoImplicit false

namespace SyncFanet.Dsr

/-! ## Link costs -/

/-- The delivery ratios of an `ETXEntry`. -/
structure EtxEntry where
  deliveryDirect : ℚ
  deliveryReverse : ℚ

/-- `DSRUU::getCost`, of a neighbour table. -/
def getCost (etxNeighborTable : Finmap fun _ : InAddr => EtxEntry) (addr : InAddr) : ℚ :=
  match etxNeighborTable.lookup addr with
  | none => -1
  | some entry =>
      if entry.deliveryReverse = 0 ∨ entry.deliveryDirect = 0 then -1
      else 1 / (entry.deliveryReverse * entry.deliveryDirect)

/-- The cost of a neighbour, or the highest one where it is not known. -/
def Node.linkCost (node : Node) (addr : InAddr) : ℚ :=
  if node.getCost addr < 0 then 10 ^ 100 else node.getCost addr

/-! ## Costs of a request -/

/-- `DSR_RREQ_ADDRS_LEN`. -/
def rreqAddrsLen (opt : DsrRreqOpt) : Int :=
  opt.length - 6

/-- `DSRUU::PathCost`. -/
def Node.pathCost (node : Node) (dp : DsrPkt) (opt : DsrRreqOpt) : ℚ :=
  if node.config.etxActive then
    let totalCost := (dp.costVector.map EtxCost.cost).sum
    match dp.costVector.getLast? with
    | some last => totalCost + node.linkCost last.address
    | none => totalCost + node.linkCost dp.src
  else (rreqAddrsLen opt).tdiv dsrAddressSize + 1

/-- `DSRUU::ExpandCost`. -/
def Node.expandCost (node : Node) (dp : DsrPkt) : DsrPkt :=
  if node.config.etxActive then
    if dp.costVector = [] ∧ dp.src ≠ node.myaddr ∨ dp.costVector ≠ [] then
      { dp with
        costVector := dp.costVector ++
          [{ address := node.myaddr, cost := node.linkCost dp.src }] }
    else dp
  else { dp with costVector := [] }

/-- A request after the nodes of a chain have processed and forwarded it. -/
def forwardCosts (nodes : List Node) (dp : DsrPkt) : DsrPkt :=
  nodes.foldl (fun dp node => node.expandCost dp) dp

/-! ## What the costs are for -/

/-- The links of a chain that a request has come over, from the node before it: each with the
node it leads to and the cost that this node holds for it. -/
def linkCosts (prev : InAddr) : List Node → List EtxCost
  | [] => []
  | node :: nodes =>
      { address := node.myaddr, cost := node.linkCost prev } :: linkCosts node.myaddr nodes

/-- After every node of a chain the costs are those of the links up to it, and their sum is
what `PathCost` has returned. -/
def RecordsLinks (dp : DsrPkt) (nodes : List Node) : Prop :=
  ∀ before node after, nodes = before ++ node :: after →
    (forwardCosts (before ++ [node]) dp).costVector = linkCosts dp.src (before ++ [node]) ∧
      ∀ opt, ((forwardCosts (before ++ [node]) dp).costVector.map EtxCost.cost).sum =
        node.pathCost (forwardCosts before dp) opt

/-- Every node after the first one holds the same cost for the initiator as for the node
before it. -/
def SameCosts (src : InAddr) (nodes : List Node) : Prop :=
  nodes.IsChain fun prev node => node.linkCost prev.myaddr = node.linkCost src

/-! ## What the code records -/

variable {src : InAddr} {dp : DsrPkt} {nodes : List Node} {node : Node}

theorem expandCost_active (active : node.config.etxActive = true) (other : node.myaddr ≠ dp.src) :
    node.expandCost dp =
      { dp with
        costVector := dp.costVector ++
          [{ address := node.myaddr, cost := node.linkCost dp.src }] } := by
  unfold Node.expandCost
  rw [if_pos active, if_pos]
  by_cases empty : dp.costVector = []
  · exact .inl ⟨empty, other.symm⟩
  · exact .inr empty

theorem forwardCosts_eq (active : ∀ node ∈ nodes, node.config.etxActive = true)
    (others : ∀ node ∈ nodes, node.myaddr ≠ dp.src) :
    forwardCosts nodes dp =
      { dp with
        costVector := dp.costVector ++
          nodes.map fun node => { address := node.myaddr, cost := node.linkCost dp.src } } := by
  induction nodes generalizing dp with
  | nil => simp [forwardCosts]
  | cons node nodes ih =>
      have first := expandCost_active (active node List.mem_cons_self)
        (others node List.mem_cons_self)
      have others' : ∀ later ∈ nodes, later.myaddr ≠ (node.expandCost dp).src := by
        intro later member
        rw [first]
        exact others later (List.mem_cons_of_mem _ member)
      have rest : forwardCosts (node :: nodes) dp = forwardCosts nodes (node.expandCost dp) := rfl
      rw [rest, ih (fun later member => active later (List.mem_cons_of_mem _ member)) others',
        first]
      simp

theorem linkCosts_eq_iff (prev : Node) :
    linkCosts prev.myaddr nodes =
        nodes.map (fun node => { address := node.myaddr, cost := node.linkCost src }) ↔
      SameCosts src (prev :: nodes) := by
  unfold SameCosts
  induction nodes generalizing prev with
  | nil => simp [linkCosts]
  | cons node nodes ih =>
      rw [linkCosts, List.map_cons, List.isChain_cons_cons, ← ih node]
      simp

theorem linkCosts_src_iff :
    linkCosts src nodes =
        nodes.map (fun node => { address := node.myaddr, cost := node.linkCost src }) ↔
      SameCosts src nodes := by
  cases nodes with
  | nil => simp [linkCosts, SameCosts]
  | cons node nodes =>
      rw [← linkCosts_eq_iff node, linkCosts, List.map_cons]
      simp

/-- A node of which the neighbours have delivery ratios. -/
def etxNode (myaddr : InAddr) (neighbours : List (InAddr × ℚ)) : Node where
  config :=
    { pathCache := true, etxActive := true, useNetworkLayerAck := true,
      rrepDestinationOnly := true, routeCacheTimeout := 10 }
  myaddr := myaddr
  paths := { paths := ∅, nextPurge := 0 }
  links := { linkArray := ∅, routeMap := ∅ }
  gratRrep := []
  getCost :=
    getCost (neighbours.map fun neighbour =>
      ⟨neighbour.1, { deliveryDirect := neighbour.2, deliveryReverse := 1 }⟩).toFinmap

/-- The request of a node, as it is sent. -/
def freshRreq (src : InAddr) : DsrPkt where
  src := src
  dst := dsrBroadcast
  nxtHop := dsrBroadcast
  prvHop := 0
  flags := 0
  salvage := 0
  ttl := 10
  payloadLen := 0
  opth := []
  srtOpt := none
  rrepOpt := []
  srt := none
  costVector := []

/-- A request that comes over a chain of other nodes records its links if and only if each
node after the first holds the same cost for the initiator as for the node before it. -/
theorem recordsLinks_iff (dp : DsrPkt) (nodes : List Node) (fresh : dp.costVector = [])
    (active : ∀ node ∈ nodes, node.config.etxActive = true)
    (others : ∀ node ∈ nodes, node.myaddr ≠ dp.src) :
    RecordsLinks dp nodes ↔ SameCosts dp.src nodes := by
  have recorded : ∀ before after, nodes = before ++ after →
      (forwardCosts before dp).costVector = before.map fun node =>
        { address := node.myaddr, cost := node.linkCost dp.src } := by
    intro before after split
    have among : ∀ node ∈ before, node ∈ nodes := fun node member =>
      split ▸ List.mem_append_left after member
    rw [forwardCosts_eq (fun node member => active node (among node member))
      fun node member => others node (among node member)]
    simp [fresh]
  constructor
  · intro records
    cases List.eq_nil_or_concat' nodes with
    | inl empty => simp [empty, SameCosts]
    | inr last =>
        obtain ⟨before, node, rfl⟩ := last
        have whole := (records before node [] rfl).1
        rw [recorded (before ++ [node]) [] (by simp)] at whole
        exact linkCosts_src_iff.mp whole.symm
  · intro same before node after split
    have split' : nodes = (before ++ [node]) ++ after := by simp [split]
    have prefixed : SameCosts dp.src (before ++ [node]) := (split' ▸ same).left_of_append
    rw [recorded _ after split']
    refine ⟨(linkCosts_src_iff.mpr prefixed).symm, ?_⟩
    intro opt
    have member : node ∈ nodes := by simp [split]
    unfold Node.pathCost
    rw [if_pos (active node member), recorded before _ split]
    cases List.eq_nil_or_concat' before with
    | inl empty =>
        subst empty
        have src : (forwardCosts [] dp).src = dp.src := rfl
        simp [src]
    | inr last =>
        obtain ⟨earlier, prev, rfl⟩ := last
        have chain : SameCosts dp.src (earlier ++ prev :: node :: after) := by
          have split'' : nodes = earlier ++ prev :: node :: after := by simp [split]
          exact split'' ▸ same
        have link : node.linkCost prev.myaddr = node.linkCost dp.src :=
          (List.isChain_append_cons_cons.mp chain).2.1
        simp [link, add_assoc]

/-- The initiator is a neighbour of both nodes of the chain. -/
theorem recordsLinks_neighbours :
    RecordsLinks (freshRreq 1) [etxNode 2 [(1, 1)], etxNode 3 [(2, 1), (1, 1)]] := by
  have condition := recordsLinks_iff (freshRreq 1) [etxNode 2 [(1, 1)], etxNode 3 [(2, 1), (1, 1)]]
    rfl (by decide) (by decide)
  refine condition.mpr ?_
  simp [SameCosts, Node.linkCost, etxNode, freshRreq, getCost]

/-- The second node does not know the initiator, and records the highest cost for the link
from the first node. -/
theorem not_recordsLinks :
    ¬RecordsLinks (freshRreq 1) [etxNode 2 [(1, 1)], etxNode 3 [(2, 1)]] := by
  intro records
  have whole := (records [etxNode 2 [(1, 1)]] (etxNode 3 [(2, 1)]) [] rfl).1
  simp [forwardCosts, Node.expandCost, linkCosts, etxNode, freshRreq, Node.linkCost, getCost]
    at whole
  norm_num at whole

end SyncFanet.Dsr
