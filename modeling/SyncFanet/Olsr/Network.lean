import Mathlib.Data.Nat.Pairing
import SyncFanet.Library.RelayCover
import SyncFanet.Olsr.MprComputation

/-!
# Converged networks

A finite connected graph of nodes with one interface each, whose repositories
mirror the graph.
-/

set_option autoImplicit false

namespace SyncFanet.Olsr

/-- The graph of a network: its edges join nodes, and it connects them. -/
structure Network where
  nodes : Finset NsAddr
  graph : SimpleGraph NsAddr
  adj_mem : ∀ u v, graph.Adj u v → v ∈ nodes
  connected : ∀ u ∈ nodes, ∀ v ∈ nodes, graph.Reachable u v

/-- The repositories of a node show its links, its neighbors, its 2-hop neighbors
and its own MPR computation; links stay symmetric until the horizon. -/
structure MirrorsNeighborhood (network : Network) (horizon : Int) (addr : NsAddr)
    (state : State) : Prop where
  linked : ∀ other, network.graph.Adj addr other →
    ∃ link ∈ state.linkset, link.nbIfaceAddr = other
  link_adj : ∀ link ∈ state.linkset, network.graph.Adj addr link.nbIfaceAddr
  link_sym : ∀ link ∈ state.linkset, horizon < link.symTime ∧ horizon < link.time
  neighbor : ∀ other, network.graph.Adj addr other → ∃ nb ∈ state.nbset, nb.nbMainAddr = other
  neighbor_adj : ∀ nb ∈ state.nbset, network.graph.Adj addr nb.nbMainAddr
  neighbor_sym : ∀ nb ∈ state.nbset, nb.status = .sym ∧ nb.willingness ≠ willNever
  neighbor_unique : (state.nbset.map NbTuple.nbMainAddr).Nodup
  twoHop : ∀ m v, (∃ hop ∈ state.nb2hopset, hop.nbMainAddr = m ∧ hop.nb2hopAddr = v) ↔
    network.graph.Adj addr m ∧ network.graph.Adj m v ∧ v ≠ addr
  single : ∀ tuple ∈ state.ifaceassocset, tuple.ifaceAddr = addr ∧ tuple.mainAddr = addr
  mprs : mprComputation (fun other => decide (other = addr)) state = some state.mprset

/-- Every node mirrors its neighborhood, and the MPR selectors of a node are those
that selected it. -/
structure Converged (network : Network) (horizon : Int) (state : NsAddr → State) : Prop where
  mirrors : ∀ addr ∈ network.nodes, MirrorsNeighborhood network horizon addr (state addr)
  selectors : ∀ m ∈ network.nodes, ∀ u, (∃ tuple ∈ (state m).mprselset, tuple.mainAddr = u) ↔
    u ∈ network.nodes ∧ m ∈ (state u).mprset

theorem Network.mem_left (network : Network) {u v : NsAddr}
    (adjacent : network.graph.Adj u v) : u ∈ network.nodes :=
  network.adj_mem v u adjacent.symm

namespace MirrorsNeighborhood

variable {network : Network} {horizon : Int} {addr : NsAddr} {state : State}

theorem getMainAddr (mirrors : MirrorsNeighborhood network horizon addr state)
    (other : NsAddr) : state.getMainAddr other = other := by
  unfold State.getMainAddr
  cases found : state.findIfaceassocTuple other with
  | none => rfl
  | some tuple =>
      obtain ⟨iface, main⟩ := mirrors.single tuple (List.mem_of_find?_eq_some found)
      have named : tuple.ifaceAddr = other := by simpa using List.find?_some found
      exact main.trans (iface.symm.trans named)

theorem mprCover (mirrors : MirrorsNeighborhood network horizon addr state) :
    MprCover Nb2hopTuple.nbMainAddr Nb2hopTuple.nb2hopAddr
      (fun other => decide (other = addr)) state.nbset state.nb2hopset state.mprset := by
  obtain ⟨mprset, computed, cover⟩ := mprComputation_spec
    (fun other => decide (other = addr)) state mirrors.neighbor_unique
  rw [mirrors.mprs] at computed
  cases computed
  exact cover

end MirrorsNeighborhood

namespace Converged

variable {network : Network} {horizon : Int} {state : NsAddr → State}

theorem relayCover (converged : Converged network horizon state) :
    RelayCover network.graph fun u m => u ∈ network.nodes ∧ m ∈ (state u).mprset := by
  constructor
  · rintro u m ⟨node, picked⟩
    have mirrors := converged.mirrors u node
    obtain ⟨nb, member, rfl, _⟩ := mirrors.mprCover.willing m picked
    exact mirrors.neighbor_adj nb member
  · intro u m v step step' different apart
    have node := network.mem_left step
    have mirrors := converged.mirrors u node
    obtain ⟨hop, member, rfl, rfl⟩ := (mirrors.twoHop m v).mpr ⟨step, step', different⟩
    obtain ⟨nb, included, main⟩ := mirrors.neighbor hop.nbMainAddr step
    obtain ⟨sym, willing⟩ := mirrors.neighbor_sym nb included
    obtain ⟨other, among, same, picked⟩ := mirrors.mprCover.covers hop member nb included main
      sym willing (by simpa using different) (by
        intro neighbor member' _ equal
        exact apart (equal ▸ mirrors.neighbor_adj neighbor member'))
    obtain ⟨_, reaches, _⟩ := (mirrors.twoHop other.nbMainAddr other.nb2hopAddr).mp
      ⟨other, among, rfl, rfl⟩
    exact ⟨other.nbMainAddr, ⟨node, picked⟩, same ▸ reaches⟩

end Converged

/-! ## Every network has a converged state -/

section

variable (adj : NsAddr → List NsAddr) (nodes : List NsAddr) (horizon : Int)

def mirrorRepositories (addr : NsAddr) : State where
  linkset := (adj addr).map fun other => {
    id := other
    localIfaceAddr := addr
    nbIfaceAddr := other
    symTime := horizon + Time.second
    asymTime := horizon + Time.second
    lostTime := 0
    time := horizon + Time.second
    localIfaceIndex := 0 }
  nbset := (adj addr).map fun other => {
    nbMainAddr := other
    status := .sym
    willingness := willDefault }
  nb2hopset := (adj addr).flatMap fun m => ((adj m).filter fun v => v ≠ addr).map fun v => {
    id := Nat.pair m v
    nbMainAddr := m
    nb2hopAddr := v
    time := horizon + Time.second }
  ifaceassocset := [{
    id := 0
    ifaceAddr := addr
    mainAddr := addr
    time := horizon + Time.second
    localIfaceIndex := 0 }]

def mirrorMprset (addr : NsAddr) : Finset NsAddr :=
  (mprComputation (fun other => decide (other = addr))
    (mirrorRepositories adj horizon addr)).getD ∅

def mirrorSelectors (addr : NsAddr) : List NsAddr :=
  nodes.filter fun u => addr ∈ mirrorMprset adj horizon u

/-- The converged state of a node, with the topology set that the advertisements
of all other nodes leave there. -/
def mirrorState (addr : NsAddr) : State :=
  { mirrorRepositories adj horizon addr with
    mprset := mirrorMprset adj horizon addr
    mprselset := (mirrorSelectors adj nodes horizon addr).map fun u => {
      id := u
      mainAddr := u
      time := horizon + Time.second }
    topologyset := (nodes.filter fun m => m ≠ addr).flatMap fun m =>
      (mirrorSelectors adj nodes horizon m).map fun u => {
        id := Nat.pair u m
        destAddr := u
        lastAddr := m
        seq := 0
        time := horizon + Time.second
        localIfaceIndex := 0 } }

variable {adj nodes} {network : Network}

theorem mirrorState_mirrors (adjacent : ∀ u v, network.graph.Adj u v ↔ v ∈ adj u)
    (simple : ∀ u, (adj u).Nodup) (addr : NsAddr) :
    MirrorsNeighborhood network horizon addr (mirrorState adj nodes horizon addr) := by
  have later : horizon < horizon + Time.second := by
    simp only [Time.second]
    omega
  constructor
  · intro other step
    simpa [mirrorState, mirrorRepositories] using (adjacent addr other).mp step
  · intro link member
    simp only [mirrorState, mirrorRepositories, List.mem_map] at member
    obtain ⟨other, included, rfl⟩ := member
    exact (adjacent addr other).mpr included
  · intro link member
    simp only [mirrorState, mirrorRepositories, List.mem_map] at member
    obtain ⟨other, _, rfl⟩ := member
    exact ⟨later, later⟩
  · intro other step
    simpa [mirrorState, mirrorRepositories] using (adjacent addr other).mp step
  · intro nb member
    simp only [mirrorState, mirrorRepositories, List.mem_map] at member
    obtain ⟨other, included, rfl⟩ := member
    exact (adjacent addr other).mpr included
  · intro nb member
    simp only [mirrorState, mirrorRepositories, List.mem_map] at member
    obtain ⟨other, _, rfl⟩ := member
    exact ⟨rfl, by simp [willDefault, willNever]⟩
  · simpa [mirrorState, mirrorRepositories, Function.comp_def] using simple addr
  · intro m v
    rw [adjacent, adjacent]
    simp [mirrorState, mirrorRepositories, and_assoc]
  · intro tuple member
    simp only [mirrorState, mirrorRepositories, List.mem_singleton] at member
    subst member
    exact ⟨rfl, rfl⟩
  · obtain ⟨mprset, computed, _⟩ := mprComputation_spec (fun other => decide (other = addr))
      (mirrorRepositories adj horizon addr)
      (by simpa [mirrorRepositories, Function.comp_def] using simple addr)
    have selected : mirrorMprset adj horizon addr = mprset := by
      simp [mirrorMprset, computed]
    calc mprComputation (fun other => decide (other = addr)) (mirrorState adj nodes horizon addr)
        = mprComputation (fun other => decide (other = addr))
            (mirrorRepositories adj horizon addr) := rfl
      _ = some mprset := computed
      _ = some (mirrorState adj nodes horizon addr).mprset := by rw [← selected]; rfl

theorem mirrorState_converged (adjacent : ∀ u v, network.graph.Adj u v ↔ v ∈ adj u)
    (simple : ∀ u, (adj u).Nodup) (all : ∀ u, u ∈ network.nodes ↔ u ∈ nodes) :
    Converged network horizon (mirrorState adj nodes horizon) := by
  refine ⟨fun addr _ => mirrorState_mirrors horizon adjacent simple addr, ?_⟩
  intro m _ u
  rw [all]
  simp [mirrorState, mirrorSelectors]

end

/-! ## A path of four nodes -/

def pathAdj : NsAddr → List NsAddr
  | 1 => [2]
  | 2 => [1, 3]
  | 3 => [2, 4]
  | 4 => [3]
  | _ => []

theorem mem_pathAdj {u v : NsAddr} :
    v ∈ pathAdj u ↔ (u = 1 ∧ v = 2) ∨ (u = 2 ∧ v = 1) ∨ (u = 2 ∧ v = 3) ∨ (u = 3 ∧ v = 2) ∨
      (u = 3 ∧ v = 4) ∨ (u = 4 ∧ v = 3) := by
  unfold pathAdj
  split <;> simp_all

theorem pathAdj_nodup (u : NsAddr) : (pathAdj u).Nodup := by
  unfold pathAdj
  split <;> decide

def pathGraph : SimpleGraph NsAddr where
  Adj u v := v ∈ pathAdj u
  symm := ⟨by
    intro u v member
    rcases mem_pathAdj.mp member with ⟨rfl, rfl⟩ | ⟨rfl, rfl⟩ | ⟨rfl, rfl⟩ | ⟨rfl, rfl⟩ |
      ⟨rfl, rfl⟩ | ⟨rfl, rfl⟩ <;> decide⟩
  loopless := ⟨by
    intro u member
    have ends := mem_pathAdj.mp member
    rcases ends with ⟨rfl, ends⟩ | ⟨rfl, ends⟩ | ⟨rfl, ends⟩ | ⟨rfl, ends⟩ | ⟨rfl, ends⟩ |
      ⟨rfl, ends⟩ <;> cases ends⟩

def pathNetwork : Network where
  nodes := {1, 2, 3, 4}
  graph := pathGraph
  adj_mem u v member := by
    rcases mem_pathAdj.mp member with ⟨_, rfl⟩ | ⟨_, rfl⟩ | ⟨_, rfl⟩ | ⟨_, rfl⟩ |
      ⟨_, rfl⟩ | ⟨_, rfl⟩ <;> decide
  connected u left v right := by
    have first : pathGraph.Adj 1 2 := show 2 ∈ pathAdj 1 by decide
    have second : pathGraph.Adj 2 3 := show 3 ∈ pathAdj 2 by decide
    have third : pathGraph.Adj 3 4 := show 4 ∈ pathAdj 3 by decide
    have from' : ∀ w ∈ ({1, 2, 3, 4} : Finset NsAddr), pathGraph.Reachable 1 w := by
      intro w member
      simp only [Finset.mem_insert, Finset.mem_singleton] at member
      rcases member with rfl | rfl | rfl | rfl
      · exact SimpleGraph.Reachable.refl 1
      · exact first.reachable
      · exact first.reachable.trans second.reachable
      · exact (first.reachable.trans second.reachable).trans third.reachable
    exact (from' u left).symm.trans (from' v right)

def pathState (horizon : Int) : NsAddr → State :=
  mirrorState pathAdj [1, 2, 3, 4] horizon

theorem pathState_converged (horizon : Int) :
    Converged pathNetwork horizon (pathState horizon) :=
  mirrorState_converged horizon (fun _ _ => Iff.rfl) pathAdj_nodup
    fun u => by simp [pathNetwork]

end SyncFanet.Olsr
