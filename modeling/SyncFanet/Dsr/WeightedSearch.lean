import Mathlib.Algebra.BigOperators.Group.Finset.Basic
import SyncFanet.Dsr.LinkSearch

/-!
# The search of `run` for any costs

A node that is found over a cheaper link goes into the heap again, but the order of the heap
does not compare elements of one node, so that the cheaper element may come later than the
stale one and other nodes are settled before it. The search ends in any case, and its states
form a tree of unexpired links; they have the least costs if no node is found over a cheaper link
later.
-/

set_option autoImplicit false

namespace SyncFanet.Dsr

namespace LinkCache

/-- The links of a database: of no negative cost, one at most from a node to another, and from
every node that a link leads to. -/
structure Weighted (linkArray : LinkArray) : Prop where
  nonneg : ∀ origin, ∀ edge ∈ edgesFrom linkArray origin, 0 ≤ edge.costAdd
  single : ∀ origin, ((edgesFrom linkArray origin).map Edge.lastNode).Nodup
  ends : ∀ origin, ∀ edge ∈ edgesFrom linkArray origin, edge.lastNode ∈ linkArray

/-- The costs of the links that have not expired. -/
def linkCost (linkArray : LinkArray) (now : SimTime) (origin last : InAddr) (weight : ℚ) : Prop :=
  ∃ edge ∈ edgesFrom linkArray origin, edge.lastNode = last ∧ now < edge.expires ∧
    edge.costAdd = weight

/-! ## The links of one node -/

theorem insertElem_perm (place : Nat) (elem : SetElem) (heap : List SetElem) :
    (insertElem place elem heap).Perm (elem :: heap) := by
  obtain ⟨front, behind, whole, inserted, -, -⟩ := insertElem_between place elem heap
  rw [inserted, whole]
  exact List.perm_middle

theorem mem_insertElem {place : Nat} {elem other : SetElem} {heap : List SetElem} :
    other ∈ insertElem place elem heap ↔ other = elem ∨ other ∈ heap :=
  (insertElem_perm place elem heap).mem_iff.trans List.mem_cons

theorem length_insertElem (place : Nat) (elem : SetElem) (heap : List SetElem) :
    (insertElem place elem heap).length = heap.length + 1 :=
  (insertElem_perm place elem heap).length_eq

structure Tried (iD : InAddr) (cost : ℚ) (before : Search) (seen : List Edge) (after : Search) :
    Prop where
  linkArray : after.linkArray = before.linkArray
  lower : ∀ node state, before.routeMap.lookup node = some state →
    after.routeMap.lookup node = some state ∨ state.perm = false ∧
      ∃ state', after.routeMap.lookup node = some state' ∧ state'.costAdd ≤ state.costAdd
  origin : ∀ node state, after.routeMap.lookup node = some state →
    before.routeMap.lookup node = some state ∨
      (∃ elem ∈ after.heap, elem.iD = node) ∧ ∃ edge ∈ seen, edge.lastNode = node ∧
        state = { costAdd := edge.costAdd + cost, idPrev := iD, perm := false }
  tried : ∀ edge ∈ seen, ∃ state, after.routeMap.lookup edge.lastNode = some state ∧
    (state.perm = true ∨ state.costAdd ≤ edge.costAdd + cost)
  kept : ∀ elem ∈ before.heap, elem ∈ after.heap
  added : ∀ elem ∈ after.heap, elem ∈ before.heap ∨ elem.iD ∈ seen.map Edge.lastNode
  size : after.heap.length ≤ before.heap.length + seen.length

section

variable {iD : InAddr} {cost : ℚ} {before after : Search} {seen : List Edge} {edge : Edge}

theorem Tried.start : Tried iD cost before [] before where
  linkArray := rfl
  lower := fun _ _ stored => .inl stored
  origin := fun _ _ stored => .inl stored
  tried := fun _ member => absurd member List.not_mem_nil
  kept := fun _ member => member
  added := fun _ member => .inl member
  size := le_refl _

theorem Tried.unchanged (tried : Tried iD cost before seen after)
    (here : ∃ state, after.routeMap.lookup edge.lastNode = some state ∧
      (state.perm = true ∨ state.costAdd ≤ edge.costAdd + cost)) :
    Tried iD cost before (seen ++ [edge]) after where
  linkArray := tried.linkArray
  lower := tried.lower
  origin := by
    intro node state stored
    refine (tried.origin node state stored).imp_right fun found => ⟨found.1, ?_⟩
    obtain ⟨other, member, same⟩ := found.2
    exact ⟨other, List.mem_append_left _ member, same⟩
  tried := by
    intro other member
    rcases List.mem_append.mp member with earlier | last
    · exact tried.tried other earlier
    · rw [List.mem_singleton.mp last]
      exact here
  kept := tried.kept
  added := by
    intro elem member
    refine (tried.added elem member).imp_right fun among => ?_
    rw [List.map_append]
    exact List.mem_append_left _ among
  size := tried.size.trans (by rw [List.length_append]; omega)

theorem Tried.reach (place : Nat) (tried : Tried iD cost before seen after)
    (here : ∀ state, after.routeMap.lookup edge.lastNode = some state →
      state.perm = false ∧ edge.costAdd + cost ≤ state.costAdd) :
    Tried iD cost before (seen ++ [edge])
      { after with
        heap := insertElem place { iD := edge.lastNode, costAdd := edge.costAdd + cost } after.heap
        routeMap := after.routeMap.insert edge.lastNode
          { costAdd := edge.costAdd + cost, idPrev := iD, perm := false } } where
  linkArray := tried.linkArray
  lower := by
    intro node state stored
    by_cases same : node = edge.lastNode
    · subst same
      have open' : state.perm = false ∧ edge.costAdd + cost ≤ state.costAdd := by
        rcases tried.lower _ state stored with still | ⟨open', state', lowered, less⟩
        · exact here state still
        · exact ⟨open', (here state' lowered).2.trans less⟩
      exact .inr ⟨open'.1, _, Finmap.lookup_insert _, open'.2⟩
    · refine (tried.lower node state stored).imp (Finmap.lookup_insert_of_ne _ same).trans ?_
      rintro ⟨open', state', lowered, less⟩
      exact ⟨open', state', (Finmap.lookup_insert_of_ne _ same).trans lowered, less⟩
  origin := by
    intro node state stored
    by_cases same : node = edge.lastNode
    · subst same
      have new := Option.some.inj ((Finmap.lookup_insert _).symm.trans stored)
      exact .inr ⟨⟨_, mem_insertElem.mpr (.inl rfl), rfl⟩, edge,
        List.mem_append_right _ (List.mem_singleton_self edge), rfl, new.symm⟩
    · have old := (Finmap.lookup_insert_of_ne _ same).symm.trans stored
      refine (tried.origin node state old).imp_right ?_
      rintro ⟨⟨elem, member, named⟩, other, among, found⟩
      exact ⟨⟨elem, mem_insertElem.mpr (.inr member), named⟩, other,
        List.mem_append_left _ among, found⟩
  tried := by
    intro other member
    by_cases same : other.lastNode = edge.lastNode
    · rw [same, Finmap.lookup_insert]
      refine ⟨_, rfl, .inr ?_⟩
      rcases List.mem_append.mp member with earlier | last
      · obtain ⟨state, stored, bound⟩ := tried.tried other earlier
        have open' := here state (same ▸ stored)
        rcases bound with permanent | least
        · rw [open'.1] at permanent
          cases permanent
        · exact open'.2.trans least
      · rw [List.mem_singleton.mp last]
    · rcases List.mem_append.mp member with earlier | last
      · obtain ⟨state, stored, bound⟩ := tried.tried other earlier
        exact ⟨state, (Finmap.lookup_insert_of_ne _ same).trans stored, bound⟩
      · exact absurd (congrArg Edge.lastNode (List.mem_singleton.mp last)) same
  kept := fun elem member => mem_insertElem.mpr (.inr (tried.kept elem member))
  added := by
    intro elem member
    rw [List.map_append]
    rcases mem_insertElem.mp member with rfl | old
    · exact .inr (List.mem_append_right _ (List.mem_singleton_self _))
    · exact (tried.added elem old).imp_right (List.mem_append_left _)
  size := by
    have size := tried.size
    simp only [length_insertElem, List.length_append, List.length_singleton]
    omega

theorem Tried.relax (place : SetElem → Nat) (tried : Tried iD cost before seen after) :
    Tried iD cost before (seen ++ [edge]) (LinkCache.relax place iD cost after edge) := by
  unfold LinkCache.relax
  cases stored : after.routeMap.lookup edge.lastNode with
  | none =>
      exact tried.reach _ fun state there => by
        rw [stored] at there
        cases there
  | some next =>
      dsimp only
      by_cases permanent : next.perm = true
      · rw [if_pos permanent]
        exact tried.unchanged ⟨next, stored, .inl permanent⟩
      · rw [if_neg permanent]
        by_cases less : edge.costAdd + cost < next.costAdd
        · rw [if_pos less]
          refine tried.reach _ fun state there => ?_
          obtain rfl := Option.some.inj (stored.symm.trans there)
          exact ⟨Bool.eq_false_of_not_eq_true permanent, less.le⟩
        · rw [if_neg less]
          exact tried.unchanged ⟨next, stored, .inr (not_lt.mp less)⟩

theorem tried_foldl (place : SetElem → Nat) (edges : List Edge) :
    Tried iD cost before edges (edges.foldl (relax place iD cost) before) :=
  foldl_seen (relax place iD cost) (Tried iD cost before) .start
    fun _ _ _ _ tried => tried.relax place

end

/-! ## Rounds -/

/-- The links of a node that have not expired. -/
def liveEdges (linkArray : LinkArray) (now : SimTime) (origin : InAddr) : List Edge :=
  (edgesFrom linkArray origin).filter fun edge => now < edge.expires

/-- The invariant of the loop, for the links at its start and the permanent nodes in the order in
which they have become so. -/
structure Weighing (rootNode : InAddr) (now : SimTime) (linkArray : LinkArray)
    (order : List InAddr) (search : Search) : Prop where
  keys : ∀ node, node ∈ search.linkArray ↔ node ∈ linkArray
  pruned : ∀ node, edgesFrom search.linkArray node =
    if node ∈ order then liveEdges linkArray now node else edgesFrom linkArray node
  nodup : order.Nodup
  settled : ∀ node, node ∈ order ↔
    ∃ state, search.routeMap.lookup node = some state ∧ state.perm = true
  known : ∀ node state, search.routeMap.lookup node = some state → node ∈ linkArray
  waiting : ∀ node state, search.routeMap.lookup node = some state → state.perm = false →
    ∃ elem ∈ search.heap, elem.iD = node
  elements : ∀ elem ∈ search.heap, ∃ state, search.routeMap.lookup elem.iD = some state
  root : ∃ state, search.routeMap.lookup rootNode = some state ∧ state.costAdd = 0
  rooted : rootNode ∈ order ∨
    ∀ node state, search.routeMap.lookup node = some state → node = rootNode
  placed : ∀ node state, search.routeMap.lookup node = some state → node ≠ rootNode →
    order.idxOf state.idPrev < order.idxOf node ∧ ∃ prev weight,
      search.routeMap.lookup state.idPrev = some prev ∧
        linkCost linkArray now state.idPrev node weight ∧ state.costAdd = prev.costAdd + weight

/-- The search from the root. -/
def rootSearch (rootNode : InAddr) (linkArray : LinkArray) : Search where
  heap := [{ iD := rootNode, costAdd := 0 }]
  linkArray := linkArray
  routeMap := rootMap rootNode

section

variable {rootNode : InAddr} {now : SimTime} {linkArray : LinkArray} {order : List InAddr}
  {search after : Search} {elem : SetElem} {index : Nat} {state : RouteState}

theorem mem_eraseIdx {heap : List SetElem} {other : SetElem} (here : heap[index]? = some elem)
    (member : other ∈ heap) (different : other.iD ≠ elem.iD) : other ∈ heap.eraseIdx index := by
  obtain ⟨i, there⟩ := List.mem_iff_getElem?.mp member
  refine List.mem_eraseIdx_iff_getElem?.mpr ⟨i, fun same => ?_, there⟩
  rw [same, here] at there
  exact different (congrArg SetElem.iD (Option.some.inj there)).symm

theorem length_eraseIdx {heap : List SetElem} (here : heap[index]? = some elem) :
    (heap.eraseIdx index).length + 1 = heap.length := by
  have inside := (List.getElem?_eq_some_iff.mp here).1
  rw [List.length_eraseIdx, if_pos inside]
  omega

theorem weighing_initial (key : rootNode ∈ linkArray) :
    Weighing rootNode now linkArray [] (rootSearch rootNode linkArray) := by
  constructor
  · exact fun _ => Iff.rfl
  · exact fun _ => rfl
  · exact List.nodup_nil
  · intro node
    refine iff_of_false List.not_mem_nil ?_
    rintro ⟨state, stored, permanent⟩
    rw [(lookup_rootMap.mp stored).2] at permanent
    cases permanent
  · intro node state stored
    rw [(lookup_rootMap.mp stored).1]
    exact key
  · intro node state stored _
    exact ⟨_, List.mem_singleton_self _, (lookup_rootMap.mp stored).1.symm⟩
  · intro elem member
    rw [List.mem_singleton.mp member]
    exact ⟨_, lookup_rootMap.mpr ⟨rfl, rfl⟩⟩
  · exact ⟨_, lookup_rootMap.mpr ⟨rfl, rfl⟩, rfl⟩
  · exact .inr fun node state stored => (lookup_rootMap.mp stored).1
  · exact fun node state stored other => absurd (lookup_rootMap.mp stored).1 other

theorem Weighing.skip (place : SetElem → Nat)
    (weighing : Weighing rootNode now linkArray order search)
    (here : search.heap[index]? = some elem)
    (stored : search.routeMap.lookup elem.iD = some state) (permanent : state.perm = true) :
    LinkCache.settle now place elem { search with heap := search.heap.eraseIdx index } =
        .ok { search with heap := search.heap.eraseIdx index } ∧
      Weighing rootNode now linkArray order
        { search with heap := search.heap.eraseIdx index } := by
  constructor
  · simp only [LinkCache.settle, stored, permanent, if_true]
  · refine { weighing with waiting := ?_, elements := ?_ }
    · intro node open' found notPermanent
      obtain ⟨other, member, same⟩ := weighing.waiting node open' found notPermanent
      refine ⟨other, mem_eraseIdx here member fun equal => ?_, same⟩
      rw [← same, equal, stored] at found
      rw [← Option.some.inj found, permanent] at notPermanent
      cases notPermanent
    · exact fun other member => weighing.elements other (List.mem_of_mem_eraseIdx member)

def permanentNode (now : SimTime) (linkArray : LinkArray) (search : Search) (index : Nat)
    (node : InAddr) (state : RouteState) : Search where
  heap := search.heap.eraseIdx index
  linkArray := search.linkArray.insert node (liveEdges linkArray now node)
  routeMap := search.routeMap.insert node { state with perm := true }

theorem Weighing.unsettled (weighing : Weighing rootNode now linkArray order search)
    (stored : search.routeMap.lookup elem.iD = some state) (open' : state.perm = false) :
    elem.iD ∉ order := by
  intro member
  obtain ⟨state', stored', permanent⟩ := (weighing.settled elem.iD).mp member
  rw [Option.some.inj (stored.symm.trans stored'), permanent] at open'
  cases open'

theorem Weighing.settle_open (place : SetElem → Nat)
    (weighing : Weighing rootNode now linkArray order search)
    (stored : search.routeMap.lookup elem.iD = some state) (open' : state.perm = false) :
    LinkCache.settle now place elem { search with heap := search.heap.eraseIdx index } =
      .ok ((liveEdges linkArray now elem.iD).foldl (relax place elem.iD state.costAdd)
        (permanentNode now linkArray search index elem.iD state)) := by
  have key := (weighing.keys elem.iD).mpr (weighing.known elem.iD state stored)
  obtain ⟨edges, found⟩ := Option.isSome_iff_exists.mp (Finmap.lookup_isSome.mpr key)
  have unsettled := weighing.unsettled stored open'
  have live : (edges.filter fun edge => now < edge.expires) = liveEdges linkArray now elem.iD := by
    have same := weighing.pruned elem.iD
    rw [if_neg unsettled, edgesFrom_of_lookup found] at same
    rw [liveEdges, same]
  simp only [LinkCache.settle, stored, open', Bool.false_eq_true, if_false, found, live]
  rfl

theorem lookup_permanentNode {node : InAddr} :
    (permanentNode now linkArray search index elem.iD state).routeMap.lookup node =
      if node = elem.iD then some { state with perm := true } else search.routeMap.lookup node := by
  by_cases same : node = elem.iD
  · rw [if_pos same, same]
    exact Finmap.lookup_insert _
  · rw [if_neg same]
    exact Finmap.lookup_insert_of_ne _ same

theorem Tried.permanent {iD : InAddr} {cost : ℚ} {before : Search} {seen : List Edge}
    (tried : Tried iD cost before seen after) {node : InAddr} {state : RouteState}
    (stored : before.routeMap.lookup node = some state) (permanent : state.perm = true) :
    after.routeMap.lookup node = some state := by
  rcases tried.lower node state stored with still | ⟨open', -⟩
  · exact still
  · rw [permanent] at open'
    cases open'

theorem Tried.kept_permanent
    (tried : Tried elem.iD state.costAdd
      (permanentNode now linkArray search index elem.iD state) (liveEdges linkArray now elem.iD)
      after)
    (stored : search.routeMap.lookup elem.iD = some state) (open' : state.perm = false)
    {node : InAddr} {prev : RouteState}
    (there : search.routeMap.lookup node = some prev) (permanent : prev.perm = true) :
    after.routeMap.lookup node = some prev := by
  refine tried.permanent ?_ permanent
  have different : node ≠ elem.iD := by
    intro same
    rw [same, stored] at there
    rw [Option.some.inj there, permanent] at open'
    cases open'
  rw [lookup_permanentNode, if_neg different]
  exact there

theorem idxOf_lt_of_mem {first second : InAddr} (less : order.idxOf first < order.idxOf second) :
    first ∈ order :=
  List.idxOf_lt_length_iff.mp (less.trans_le List.idxOf_le_length)

theorem idxOf_append_lt {first second last : InAddr}
    (less : order.idxOf first < order.idxOf second) :
    (order ++ [last]).idxOf first < (order ++ [last]).idxOf second := by
  rw [List.idxOf_append_of_mem (idxOf_lt_of_mem less)]
  by_cases member : second ∈ order
  · rwa [List.idxOf_append_of_mem member]
  · rw [List.idxOf_append_of_notMem member]
    exact (List.idxOf_lt_length_iff.mpr (idxOf_lt_of_mem less)).trans_le (Nat.le_add_right _ _)

section

variable (weighing : Weighing rootNode now linkArray order search)
  (tried : Tried elem.iD state.costAdd
    (permanentNode now linkArray search index elem.iD state) (liveEdges linkArray now elem.iD)
    after)
include weighing tried

theorem Weighing.settled_step (node : InAddr) : node ∈ order ++ [elem.iD] ↔
    ∃ state, after.routeMap.lookup node = some state ∧ state.perm = true := by
  have before : node ∈ order ++ [elem.iD] ↔
      ∃ state', (permanentNode now linkArray search index elem.iD state).routeMap.lookup node =
        some state' ∧ state'.perm = true := by
    rw [lookup_permanentNode, List.mem_append, List.mem_singleton]
    by_cases same : node = elem.iD
    · rw [if_pos same]
      exact iff_of_true (.inr same) ⟨_, rfl, rfl⟩
    · rw [if_neg same, or_iff_left same, weighing.settled]
  rw [before]
  constructor
  · rintro ⟨state', found, permanent⟩
    exact ⟨state', tried.permanent found permanent, permanent⟩
  · rintro ⟨state', found, permanent⟩
    rcases tried.origin node state' found with old | ⟨-, edge, -, -, rfl⟩
    · exact ⟨state', old, permanent⟩
    · cases permanent

variable (stored : search.routeMap.lookup elem.iD = some state) (open' : state.perm = false)
include stored open'

theorem Weighing.root_step : rootNode ∈ order ++ [elem.iD] ∧
    ∃ state, after.routeMap.lookup rootNode = some state ∧ state.costAdd = 0 := by
  obtain ⟨root, there, zero⟩ := weighing.root
  rcases weighing.rooted with member | alone
  · obtain ⟨state', found, permanent⟩ := (weighing.settled rootNode).mp member
    obtain rfl := Option.some.inj (there.symm.trans found)
    exact ⟨List.mem_append_left _ member, root, tried.kept_permanent stored open' there permanent,
      zero⟩
  · have same : elem.iD = rootNode := alone elem.iD state stored
    rw [same] at stored
    obtain rfl := Option.some.inj (there.symm.trans stored)
    refine ⟨List.mem_append_right _ (List.mem_singleton.mpr same.symm), { root with perm := true },
      tried.permanent ?_ rfl, zero⟩
    rw [lookup_permanentNode, if_pos same.symm]

theorem Weighing.placed_step {node : InAddr} {state' : RouteState}
    (found : after.routeMap.lookup node = some state') (other : node ≠ rootNode) :
    (order ++ [elem.iD]).idxOf state'.idPrev < (order ++ [elem.iD]).idxOf node ∧
      ∃ prev weight, after.routeMap.lookup state'.idPrev = some prev ∧
        linkCost linkArray now state'.idPrev node weight ∧
        state'.costAdd = prev.costAdd + weight := by
  -- the state before a settled one is permanent and stays
  have keeps : ∀ old prev, old ∈ order → search.routeMap.lookup old = some prev →
      after.routeMap.lookup old = some prev := by
    intro old prev member there
    obtain ⟨settled, there', permanent⟩ := (weighing.settled old).mp member
    obtain rfl := Option.some.inj (there.symm.trans there')
    exact tried.kept_permanent stored open' there permanent
  have old : ∀ old, search.routeMap.lookup node = some old → old.idPrev = state'.idPrev →
      old.costAdd = state'.costAdd →
      (order ++ [elem.iD]).idxOf state'.idPrev < (order ++ [elem.iD]).idxOf node ∧
        ∃ prev weight, after.routeMap.lookup state'.idPrev = some prev ∧
          linkCost linkArray now state'.idPrev node weight ∧
          state'.costAdd = prev.costAdd + weight := by
    intro old there idPrev costAdd
    obtain ⟨less, prev, weight, before, linked, sum⟩ := weighing.placed node old there other
    rw [idPrev] at less before linked
    exact ⟨idxOf_append_lt less, prev, weight, keeps _ prev (idxOf_lt_of_mem less) before, linked,
      costAdd ▸ sum⟩
  rcases tried.origin node state' found with before | ⟨-, edge, member, last, rfl⟩
  · rw [lookup_permanentNode] at before
    split at before
    · next same =>
        cases before
        exact old state (by rw [same, stored]) rfl rfl
    · exact old state' before rfl rfl
  · have here : after.routeMap.lookup elem.iD = some { state with perm := true } :=
      tried.permanent (lookup_permanentNode.trans (if_pos rfl)) rfl
    obtain ⟨among, live⟩ := List.mem_filter.mp member
    have newNode : node ∉ order ++ [elem.iD] := by
      intro settled
      obtain ⟨state'', there, permanent⟩ :=
        (weighing.settled_step tried node).mp settled
      rw [Option.some.inj (there.symm.trans found)] at permanent
      cases permanent
    refine ⟨?_, _, edge.costAdd, here, ⟨edge, among, last, of_decide_eq_true live, rfl⟩,
      add_comm _ _⟩
    rw [List.idxOf_eq_length newNode]
    exact List.idxOf_lt_length_iff.mpr (List.mem_append_right _ (List.mem_singleton_self _))

end

theorem Weighing.step (weighing : Weighing rootNode now linkArray order search)
    (weighted : Weighted linkArray)
    (stored : search.routeMap.lookup elem.iD = some state) (open' : state.perm = false)
    (here : search.heap[index]? = some elem)
    (tried : Tried elem.iD state.costAdd
      (permanentNode now linkArray search index elem.iD state) (liveEdges linkArray now elem.iD)
      after) :
    Weighing rootNode now linkArray (order ++ [elem.iD]) after := by
  have unsettled := weighing.unsettled stored open'
  have links :
      after.linkArray = search.linkArray.insert elem.iD (liveEdges linkArray now elem.iD) :=
    tried.linkArray
  have reached : ∀ node state', search.routeMap.lookup node = some state' →
      ∃ state'', after.routeMap.lookup node = some state'' := by
    intro node state' there
    have between : ∃ state'', (permanentNode now linkArray search index elem.iD
        state).routeMap.lookup node = some state'' := by
      rw [lookup_permanentNode]
      split
      · exact ⟨_, rfl⟩
      · exact ⟨state', there⟩
    obtain ⟨state'', before⟩ := between
    rcases tried.lower node state'' before with still | ⟨-, lowered, after', -⟩
    · exact ⟨state'', still⟩
    · exact ⟨lowered, after'⟩
  constructor
  · intro node
    rw [links, Finmap.mem_insert, weighing.keys]
    exact or_iff_right_of_imp fun same => same ▸ weighing.known elem.iD state stored
  · intro node
    rw [links, edgesFrom_insert, weighing.pruned]
    by_cases same : node = elem.iD
    · rw [if_pos same, same]
      exact (if_pos (List.mem_append_right _ (List.mem_singleton_self _))).symm
    · rw [if_neg same]
      simp only [List.mem_append, List.mem_singleton, same, or_false]
  · exact List.nodup_append.mpr ⟨weighing.nodup, List.nodup_singleton _, fun first member last equal
      same => unsettled (List.mem_singleton.mp equal ▸ same ▸ member)⟩
  · exact weighing.settled_step tried
  · intro node state' found
    rcases tried.origin node state' found with before | ⟨-, edge, member, rfl, -⟩
    · rw [lookup_permanentNode] at before
      split at before
      · next same => exact same ▸ weighing.known elem.iD state stored
      · exact weighing.known node state' before
    · exact weighted.ends elem.iD edge (List.mem_of_mem_filter member)
  · intro node state' found notPermanent
    rcases tried.origin node state' found with before | ⟨found', -⟩
    · rw [lookup_permanentNode] at before
      split at before
      · cases before
        cases notPermanent
      · next different =>
          obtain ⟨other, member, same⟩ := weighing.waiting node state' before notPermanent
          exact ⟨other, tried.kept other (mem_eraseIdx here member (same ▸ different)), same⟩
    · exact found'
  · intro other member
    rcases tried.added other member with old | new
    · obtain ⟨state', there⟩ := weighing.elements other (List.mem_of_mem_eraseIdx old)
      exact reached other.iD state' there
    · obtain ⟨edge, among, same⟩ := List.mem_map.mp new
      obtain ⟨state', there, -⟩ := tried.tried edge among
      exact ⟨state', same ▸ there⟩
  · exact (weighing.root_step tried stored open').2
  · exact .inl (weighing.root_step tried stored open').1
  · exact fun node state' found other => weighing.placed_step tried stored open' found other

def pending (linkArray : LinkArray) (order : List InAddr) : Nat :=
  ∑ node ∈ linkArray.keys with node ∉ order, (edgesFrom linkArray node).length

theorem pending_step (key : elem.iD ∈ linkArray) (unsettled : elem.iD ∉ order) :
    pending linkArray (order ++ [elem.iD]) + (edgesFrom linkArray elem.iD).length =
      pending linkArray order := by
  have among : elem.iD ∈ linkArray.keys.filter (· ∉ order) :=
    Finset.mem_filter.mpr ⟨Finmap.mem_keys.mpr key, unsettled⟩
  have rest : linkArray.keys.filter (· ∉ order ++ [elem.iD]) =
      (linkArray.keys.filter (· ∉ order)).erase elem.iD := by
    ext node
    simp only [Finset.mem_filter, Finset.mem_erase, List.mem_append, List.mem_singleton, not_or]
    tauto
  rw [pending, rest, pending, add_comm]
  exact Finset.add_sum_erase _ (fun node => (edgesFrom linkArray node).length) among

/-! ## Nodes that are found over their cheapest links first -/

def Tight (linkArray : LinkArray) (now : SimTime) (routeMap : RouteMap) : Prop :=
  ∀ node state, routeMap.lookup node = some state → state.perm = true →
    ∀ edge ∈ liveEdges linkArray now node, ∃ next, routeMap.lookup edge.lastNode = some next ∧
      next.costAdd ≤ edge.costAdd + state.costAdd

/-- The nearest of the nodes with a link to another node are on its cheapest paths, as they are
with links of equal costs. -/
def NearestBest (rootNode : InAddr) (links : InAddr → InAddr → ℚ → Prop) : Prop :=
  ∀ near node weight cost, node ≠ rootNode → links near node weight →
    IsLeast { cost | PathCost (starts rootNode) links near cost } cost →
    (∀ other weight' total, links other node weight' →
      PathCost (starts rootNode) links other total → cost ≤ total) →
    ∀ total, PathCost (starts rootNode) links node total → cost + weight ≤ total

/-- The heap holds the open nodes once, in the order of their costs, and all costs are the
least. -/
structure Ordered (rootNode : InAddr) (links : InAddr → InAddr → ℚ → Prop) (search : Search) :
    Prop where
  sorted : search.heap.Pairwise fun first second => first.costAdd ≤ second.costAdd
  once : (search.heap.map SetElem.iD).Nodup
  current : ∀ elem ∈ search.heap, ∃ state, search.routeMap.lookup elem.iD = some state ∧
    state.perm = false ∧ state.costAdd = elem.costAdd
  least : ∀ node state, search.routeMap.lookup node = some state →
    IsLeast { cost | PathCost (starts rootNode) links node cost } state.costAdd

theorem insertElem_sorted {place : Nat} {elem : SetElem} {heap : List SetElem}
    (sorted : heap.Pairwise fun first second => first.costAdd ≤ second.costAdd)
    (new : ∀ other ∈ heap, other.iD ≠ elem.iD) :
    (insertElem place elem heap).Pairwise fun first second => first.costAdd ≤ second.costAdd := by
  obtain ⟨front, behind, rfl, inserted, before, after⟩ := insertElem_between place elem heap
  obtain ⟨sortedFront, sortedBehind, across⟩ := List.pairwise_append.mp sorted
  have less_iff : ∀ other ∈ front ++ behind,
      (elem.less other = true ↔ elem.costAdd < other.costAdd) := by
    intro other member
    simp only [SetElem.less, decide_eq_true_eq, and_iff_right (new other member).symm]
  have below : ∀ other ∈ front, other.costAdd ≤ elem.costAdd := by
    intro other member
    rcases List.eq_nil_or_concat' front with rfl | ⟨rest, last, rfl⟩
    · cases member
    · have least : last.costAdd ≤ elem.costAdd := by
        refine not_lt.mp fun less => ?_
        have member : last ∈ (rest ++ [last]) ++ behind := by simp
        have notLess := before last (by simp)
        rw [(less_iff last member).mpr less] at notLess
        cases notLess
      rcases List.mem_append.mp member with earlier | same
      · exact ((List.pairwise_append.mp sortedFront).2.2 other earlier last
          (List.mem_singleton_self last)).trans least
      · rw [List.mem_singleton.mp same]
        exact least
  have above : ∀ other ∈ behind, elem.costAdd ≤ other.costAdd := by
    intro other member
    cases behind with
    | nil => cases member
    | cons next rest =>
        have less := (less_iff next (by simp)).mp (after next rfl)
        rcases List.mem_cons.mp member with rfl | later
        · exact less.le
        · exact less.le.trans ((List.pairwise_cons.mp sortedBehind).1 other later)
  rw [inserted]
  refine List.pairwise_append.mpr
    ⟨sortedFront, List.pairwise_cons.mpr ⟨above, sortedBehind⟩, fun first member second among => ?_⟩
  rcases List.mem_cons.mp among with rfl | later
  · exact below first member
  · exact across first member second later

section

variable {links : InAddr → InAddr → ℚ → Prop}

theorem Ordered.relax (place : SetElem → Nat) (ordered : Ordered rootNode links search)
    {iD : InAddr} {cost : ℚ} {edge : Edge} (path : PathCost (starts rootNode) links iD cost)
    (linked : links iD edge.lastNode edge.costAdd)
    (best : search.routeMap.lookup edge.lastNode = none → ∀ total,
      PathCost (starts rootNode) links edge.lastNode total → cost + edge.costAdd ≤ total) :
    Ordered rootNode links (LinkCache.relax place iD cost search edge) := by
  unfold LinkCache.relax
  cases stored : search.routeMap.lookup edge.lastNode with
  | some next =>
      have notLess : ¬edge.costAdd + cost < next.costAdd := by
        rw [add_comm]
        exact not_lt.mpr ((ordered.least _ next stored).2 (path.next linked))
      simp only [if_neg notLess, ite_self]
      exact ordered
  | none =>
      have new : ∀ other ∈ search.heap, other.iD ≠ edge.lastNode := by
        intro other member same
        obtain ⟨state, there, -⟩ := ordered.current other member
        rw [same, stored] at there
        cases there
      constructor
      · exact insertElem_sorted ordered.sorted new
      · refine ((insertElem_perm _ _ _).map SetElem.iD).nodup_iff.mpr
          (List.nodup_cons.mpr ⟨fun member => ?_, ordered.once⟩)
        obtain ⟨other, among, same⟩ := List.mem_map.mp member
        exact new other among same
      · intro elem member
        rcases mem_insertElem.mp member with rfl | old
        · exact ⟨_, Finmap.lookup_insert _, rfl, rfl⟩
        · obtain ⟨state, there, open', same⟩ := ordered.current elem old
          exact ⟨state, (Finmap.lookup_insert_of_ne _ (new elem old)).trans there, open', same⟩
      · intro node state found
        by_cases same : node = edge.lastNode
        · subst same
          rw [← Option.some.inj ((Finmap.lookup_insert _).symm.trans found), add_comm edge.costAdd]
          exact ⟨path.next linked, fun total path' => best stored total path'⟩
        · exact ordered.least node state ((Finmap.lookup_insert_of_ne _ same).symm.trans found)

theorem Ordered.foldl (place : SetElem → Nat) (ordered : Ordered rootNode links search)
    {iD : InAddr} {cost : ℚ} {edges : List Edge}
    (path : PathCost (starts rootNode) links iD cost)
    (linked : ∀ edge ∈ edges, links iD edge.lastNode edge.costAdd)
    (best : ∀ edge ∈ edges, search.routeMap.lookup edge.lastNode = none → ∀ total,
      PathCost (starts rootNode) links edge.lastNode total → cost + edge.costAdd ≤ total) :
    Ordered rootNode links (edges.foldl (LinkCache.relax place iD cost) search) := by
  suffices loop : Tried iD cost search edges (edges.foldl (LinkCache.relax place iD cost) search) ∧
      Ordered rootNode links (edges.foldl (LinkCache.relax place iD cost) search) from loop.2
  refine foldl_seen (LinkCache.relax place iD cost)
    (fun seen after => Tried iD cost search seen after ∧ Ordered rootNode links after)
    ⟨.start, ordered⟩ fun seen edge after member holds => ?_
  refine ⟨holds.1.relax place, holds.2.relax place path (linked edge member) fun new => ?_⟩
  -- a node without a state had none before
  refine best edge member (Option.eq_none_iff_forall_ne_some.mpr fun state there => ?_)
  rcases holds.1.lower _ state there with still | ⟨-, lowered, after', -⟩
  · rw [new] at still
    cases still
  · rw [new] at after'
    cases after'

theorem Ordered.permanent (ordered : Ordered rootNode links search)
    (here : search.heap[index]? = some elem)
    (stored : search.routeMap.lookup elem.iD = some state) :
    Ordered rootNode links (permanentNode now linkArray search index elem.iD state) := by
  obtain ⟨inside, same⟩ := List.getElem?_eq_some_iff.mp here
  have split : (elem :: search.heap.eraseIdx index).Perm search.heap :=
    same ▸ List.getElem_cons_eraseIdx_perm inside
  obtain ⟨once, rest⟩ :=
    List.nodup_cons.mp ((split.map SetElem.iD).nodup_iff.mpr ordered.once)
  constructor
  · exact ordered.sorted.sublist (List.eraseIdx_sublist _ _)
  · exact rest
  · intro other member
    obtain ⟨state', there, open', cost⟩ := ordered.current other (List.mem_of_mem_eraseIdx member)
    refine ⟨state', ?_, open', cost⟩
    rw [lookup_permanentNode, if_neg fun equal => once (List.mem_map.mpr ⟨other, member, equal⟩)]
    exact there
  · intro node state' found
    rw [lookup_permanentNode] at found
    split at found
    · next equal =>
        cases found
        exact equal ▸ ordered.least elem.iD state stored
    · exact ordered.least node state' found

end

theorem Ordered.searched (ordered : Ordered rootNode (linkCost linkArray now) search)
    (weighing : Weighing rootNode now linkArray order search)
    (tight : Tight linkArray now search.routeMap) :
    Searched (starts rootNode) (linkCost linkArray now) (label search.routeMap)
      (isOpen search.routeMap) := by
  have closed : ∀ node, ¬isOpen search.routeMap node →
      ∃ state, search.routeMap.lookup node = some state ∧ state.perm = true := by
    intro node closed
    simpa [isOpen] using closed
  constructor
  · intro node cost labelled
    obtain ⟨state, stored, rfl⟩ := Option.map_eq_some_iff.mp labelled
    exact (ordered.least node state stored).1
  · rintro node cost ⟨rfl, rfl⟩
    obtain ⟨state, stored, zero⟩ := weighing.root
    exact ⟨state.costAdd, zero.le, by rw [label, stored]; rfl⟩
  · rintro last node cost weight shut labelled ⟨edge, among, rfl, live, rfl⟩
    obtain ⟨state, stored, permanent⟩ := closed last shut
    obtain rfl : state.costAdd = cost := by
      rw [label, stored] at labelled
      exact Option.some.inj labelled
    obtain ⟨next, there, bound⟩ := tight last state stored permanent edge
      (List.mem_filter.mpr ⟨among, decide_eq_true live⟩)
    exact ⟨next.costAdd, by rw [add_comm]; exact bound, by rw [label, there]; rfl⟩
  · intro node cost shut path
    obtain ⟨state, stored, -⟩ := closed node shut
    exact ⟨state.costAdd, (ordered.least node state stored).2 path, by rw [label, stored]; rfl⟩

theorem Ordered.cheapest (ordered : Ordered rootNode (linkCost linkArray now) search)
    (weighing : Weighing rootNode now linkArray order search)
    (stored : search.routeMap.lookup elem.iD = some state) (open' : state.perm = false)
    (member : elem ∈ search.heap) (least : ∀ other ∈ search.heap, elem.costAdd ≤ other.costAdd) :
    Cheapest (label search.routeMap) (isOpen search.routeMap) elem.iD state.costAdd := by
  -- the cost in the heap is the one in the state
  have costs : ∀ other ∈ search.heap, ∀ state', search.routeMap.lookup other.iD = some state' →
      state'.costAdd = other.costAdd := by
    intro other among state' there
    obtain ⟨state'', there', -, same⟩ := ordered.current other among
    rwa [Option.some.inj (there.symm.trans there')]
  refine ⟨fun state' there => ?_, by rw [label, stored]; rfl, fun node cost opened labelled => ?_⟩
  · rwa [← Option.some.inj (stored.symm.trans there)]
  · obtain ⟨state', there, rfl⟩ := Option.map_eq_some_iff.mp labelled
    obtain ⟨other, among, rfl⟩ := weighing.waiting node state' there (opened state' there)
    rw [costs elem member state stored, costs other among state' there]
    exact least other among

/-- No path to a node without a state is cheaper than the one over the node that becomes
permanent: the other nodes with links to it are open, and not nearer. -/
theorem Ordered.best (ordered : Ordered rootNode (linkCost linkArray now) search)
    (weighing : Weighing rootNode now linkArray order search) (weighted : Weighted linkArray)
    (tight : Tight linkArray now search.routeMap)
    (nearest : NearestBest rootNode (linkCost linkArray now))
    (stored : search.routeMap.lookup elem.iD = some state)
    (cheapest : Cheapest (label search.routeMap) (isOpen search.routeMap) elem.iD state.costAdd)
    {node : InAddr} {weight total : ℚ} (linked : linkCost linkArray now elem.iD node weight)
    (new : search.routeMap.lookup node = none)
    (path : PathCost (starts rootNode) (linkCost linkArray now) node total) :
    state.costAdd + weight ≤ total := by
  have searched := ordered.searched weighing tight
  have inflates : ∀ last node weight cost, linkCost linkArray now last node weight →
      cost ≤ cost + weight := by
    rintro last - - cost ⟨edge, among, -, -, rfl⟩
    exact le_add_of_nonneg_right (weighted.nonneg last edge among)
  refine nearest elem.iD node weight state.costAdd ?_ linked (ordered.least _ state stored) ?_
    total path
  · rintro rfl
    obtain ⟨root, there, -⟩ := weighing.root
    rw [new] at there
    cases there
  · intro other weight' total' linked' path'
    rcases searched.bound inflates cheapest path' with closed | bound
    · obtain ⟨before, -, labelled⟩ := searched.least other total' closed path'
      obtain ⟨after, -, labelled'⟩ :=
        searched.relaxed other node before weight' closed labelled linked'
      rw [label, new] at labelled'
      cases labelled'
    · exact bound

/-! ## The loop -/

theorem tight_step (weighted : Weighted linkArray)
    (stored : search.routeMap.lookup elem.iD = some state)
    (tried : Tried elem.iD state.costAdd
      (permanentNode now linkArray search index elem.iD state) (liveEdges linkArray now elem.iD)
      after)
    (tight : Tight linkArray now search.routeMap)
    (kept : ∀ edge ∈ liveEdges linkArray now elem.iD, ∀ next,
      search.routeMap.lookup edge.lastNode = some next →
      next.costAdd ≤ edge.costAdd + state.costAdd) :
    Tight linkArray now after.routeMap := by
  intro node state' found permanent edge member
  rcases tried.origin node state' found with before | ⟨-, _, -, -, rfl⟩
  · rw [lookup_permanentNode] at before
    split at before
    · next same =>
        cases before
        rw [same] at member
        obtain ⟨next, there, bound⟩ := tried.tried edge member
        refine ⟨next, there, ?_⟩
        rcases bound with settled | least
        · -- the node was permanent before, or it is the one that has become so
          rcases tried.origin _ next there with old | ⟨-, _, -, -, rfl⟩
          · rw [lookup_permanentNode] at old
            split at old
            · cases old
              exact le_add_of_nonneg_left
                (weighted.nonneg elem.iD edge (List.mem_of_mem_filter member))
            · exact kept edge member next old
          · cases settled
        · exact least
    · obtain ⟨next, there, bound⟩ := tight node state' before permanent edge member
      have between : ∃ between, (permanentNode now linkArray search index elem.iD
          state).routeMap.lookup edge.lastNode = some between ∧
          between.costAdd = next.costAdd := by
        rw [lookup_permanentNode]
        split
        · next same =>
            rw [same, stored] at there
            obtain rfl := Option.some.inj there
            exact ⟨_, rfl, rfl⟩
        · exact ⟨next, there, rfl⟩
      obtain ⟨middle, between, same⟩ := between
      rw [← same] at bound
      rcases tried.lower _ middle between with still | ⟨-, lowered, there', less⟩
      · exact ⟨middle, still, bound⟩
      · exact ⟨lowered, there', less.trans bound⟩
  · cases permanent

structure Round (rootNode : InAddr) (now : SimTime) (linkArray : LinkArray) (order : List InAddr)
    (place : SetElem → Nat) (elem : SetElem) (index : Nat) (search after : Search) : Prop where
  ran : settle now place elem { search with heap := search.heap.eraseIdx index } = .ok after
  weighing : ∃ order', Weighing rootNode now linkArray order' after ∧
    after.heap.length + pending linkArray order' < search.heap.length + pending linkArray order
  ordered : NearestBest rootNode (linkCost linkArray now) → Tight linkArray now search.routeMap →
    Ordered rootNode (linkCost linkArray now) search →
    Tight linkArray now after.routeMap ∧ Ordered rootNode (linkCost linkArray now) after

theorem Weighing.round (place : SetElem → Nat)
    (weighing : Weighing rootNode now linkArray order search)
    (weighted : Weighted linkArray) (here : search.heap[index]? = some elem)
    (within : index < equalCount search.heap) :
    ∃ after, Round rootNode now linkArray order place elem index search after := by
  obtain ⟨state, stored⟩ := weighing.elements elem (List.mem_of_getElem? here)
  have shorter := length_eraseIdx here
  by_cases permanent : state.perm = true
  · obtain ⟨ran, weighing'⟩ := weighing.skip place here stored permanent
    refine ⟨_, ran, ⟨order, weighing', by dsimp only; omega⟩, fun _ _ ordered => ?_⟩
    obtain ⟨state', stored', open', -⟩ := ordered.current elem (List.mem_of_getElem? here)
    rw [← Option.some.inj (stored.symm.trans stored'), permanent] at open'
    cases open'
  · have open' : state.perm = false := Bool.eq_false_of_not_eq_true permanent
    have known := weighing.known elem.iD state stored
    obtain ⟨after, made⟩ : ∃ after, after = (liveEdges linkArray now elem.iD).foldl
        (relax place elem.iD state.costAdd)
        (permanentNode now linkArray search index elem.iD state) := ⟨_, rfl⟩
    have tried : Tried elem.iD state.costAdd
        (permanentNode now linkArray search index elem.iD state) (liveEdges linkArray now elem.iD)
        after := made ▸ tried_foldl place _
    refine ⟨after, made ▸ weighing.settle_open place stored open',
      ⟨_, weighing.step weighted stored open' here tried, ?_⟩, fun nearest tight ordered => ?_⟩
    · have fewer := pending_step known (weighing.unsettled stored open')
      have live : (liveEdges linkArray now elem.iD).length ≤ (edgesFrom linkArray elem.iD).length :=
        List.length_filter_le _ _
      have size : after.heap.length ≤
          (search.heap.eraseIdx index).length + (liveEdges linkArray now elem.iD).length :=
        tried.size
      omega
    · have path := (ordered.least elem.iD state stored).1
      have linked : ∀ edge ∈ liveEdges linkArray now elem.iD,
          linkCost linkArray now elem.iD edge.lastNode edge.costAdd := by
        intro edge member
        obtain ⟨among, live⟩ := List.mem_filter.mp member
        exact ⟨edge, among, rfl, of_decide_eq_true live, rfl⟩
      constructor
      · refine tight_step weighted stored tried tight fun edge member next there => ?_
        rw [add_comm]
        exact (ordered.least _ next there).2 (path.next (linked edge member))
      · have cheapest := ordered.cheapest weighing stored open' (List.mem_of_getElem? here)
          (equalCount_least ordered.sorted within here)
        rw [made]
        refine (ordered.permanent here stored).foldl place path linked
          fun edge member new total path' => ?_
        rw [lookup_permanentNode] at new
        split at new
        · cases new
        · exact ordered.best weighing weighted tight nearest stored cheapest (linked edge member)
            new path'

structure Finished (rootNode : InAddr) (now : SimTime) (chance : Chance) (linkArray : LinkArray)
    (fuel : Nat) (search final : Search) : Prop where
  ran : rounds now chance fuel search = .ok final
  weighing : ∃ order, Weighing rootNode now linkArray order final
  empty : final.heap = []
  tight : NearestBest rootNode (linkCost linkArray now) → Tight linkArray now search.routeMap →
    Ordered rootNode (linkCost linkArray now) search → Tight linkArray now final.routeMap

/-- The loop ends, as every round takes an element from the heap and puts one there for some of
the links of one node at most. -/
theorem Weighing.finish (weighted : Weighted linkArray) {chance : Chance} {fuel : Nat}
    (weighing : Weighing rootNode now linkArray order search)
    (enough : search.heap.length + pending linkArray order ≤ fuel) :
    ∃ final, Finished rootNode now chance linkArray fuel search final := by
  induction fuel generalizing order search with
  | zero =>
      have empty : search.heap = [] := List.eq_nil_of_length_eq_zero (by omega)
      exact ⟨search, by rw [rounds, if_pos empty], ⟨order, weighing⟩, empty,
        fun _ tight _ => tight⟩
  | succ fuel ih =>
      cases here : search.heap[extracted (chance.rand fuel) search.heap]? with
      | none =>
          exact ⟨search, by simp only [rounds, here], ⟨order, weighing⟩,
            heap_of_extracted_none here, fun _ tight _ => tight⟩
      | some elem =>
          obtain ⟨after, round⟩ := weighing.round chance.place weighted here
            (extracted_lt (List.ne_nil_of_mem (List.mem_of_getElem? here)))
          obtain ⟨order', weighing', less⟩ := round.weighing
          obtain ⟨final, finished⟩ := ih weighing' (by omega)
          refine ⟨final, ?_, finished.weighing, finished.empty, fun nearest tight ordered => ?_⟩
          · simp only [rounds, here, round.ran]
            exact finished.ran
          · obtain ⟨tight', ordered'⟩ := round.ordered nearest tight ordered
            exact finished.tight nearest tight' ordered'

end

/-! ## What the states describe -/

/-- The states lead from a node back to the root: the nodes after the root, and the cost of the
links between them. -/
inductive Leads (rootNode : InAddr) (links : InAddr → InAddr → ℚ → Prop) (routeMap : RouteMap) :
    InAddr → List InAddr → ℚ → Prop where
  | root : Leads rootNode links routeMap rootNode [] 0
  | next {node : InAddr} {state : RouteState} {nodes : List InAddr} {cost weight : ℚ}
      (stored : routeMap.lookup node = some state) (other : node ≠ rootNode)
      (before : Leads rootNode links routeMap state.idPrev nodes cost)
      (linked : links state.idPrev node weight) :
      Leads rootNode links routeMap node (nodes ++ [node]) (cost + weight)

/-- The route map holds the nodes that paths lead to and no others, with their least costs and
paths of these costs. -/
structure CheapestMap (rootNode : InAddr) (links : InAddr → InAddr → ℚ → Prop)
    (routeMap : RouteMap) : Prop where
  reached : ∀ node cost, PathCost (starts rootNode) links node cost → node ∈ routeMap
  least : ∀ node state, routeMap.lookup node = some state →
    IsLeast { cost | PathCost (starts rootNode) links node cost } state.costAdd
  described : ∀ node state, routeMap.lookup node = some state →
    ∃ nodes, Leads rootNode links routeMap node nodes state.costAdd

section

variable {rootNode node : InAddr} {now : SimTime} {links : InAddr → InAddr → ℚ → Prop}
  {routeMap : RouteMap} {linkArray : LinkArray} {order : List InAddr} {search : Search}

theorem Leads.pathCost {nodes : List InAddr} {cost : ℚ}
    (leads : Leads rootNode links routeMap node nodes cost) :
    PathCost (starts rootNode) links node cost := by
  induction leads with
  | root => exact .first ⟨rfl, rfl⟩
  | next _ _ _ linked ih => exact ih.next linked

theorem Leads.ends {nodes : List InAddr} {cost : ℚ}
    (leads : Leads rootNode links routeMap node nodes cost) (other : node ≠ rootNode) :
    ∃ relays, nodes = relays ++ [node] := by
  cases leads with
  | root => exact absurd rfl other
  | next _ _ _ _ => exact ⟨_, rfl⟩

theorem Weighing.leads (weighing : Weighing rootNode now linkArray order search)
    {state : RouteState} (stored : search.routeMap.lookup node = some state) :
    ∃ nodes, Leads rootNode (linkCost linkArray now) search.routeMap node nodes state.costAdd ∧
      nodes.length ≤ order.idxOf node := by
  induction before : order.idxOf node using Nat.strong_induction_on generalizing node state with
  | _ position ih =>
      by_cases root : node = rootNode
      · subst root
        obtain ⟨state', there, zero⟩ := weighing.root
        rw [← Option.some.inj (stored.symm.trans there)] at zero
        rw [zero]
        exact ⟨[], .root, Nat.zero_le _⟩
      · obtain ⟨less, prev, weight, there, linked, sum⟩ := weighing.placed node state stored root
        rw [before] at less
        obtain ⟨nodes, leads, short⟩ := ih _ less there rfl
        refine ⟨nodes ++ [node], ?_, ?_⟩
        · rw [sum]
          exact .next stored root leads linked
        · rw [List.length_append, List.length_singleton]
          omega

theorem Weighing.permanent (weighing : Weighing rootNode now linkArray order search)
    (empty : search.heap = []) {state : RouteState}
    (stored : search.routeMap.lookup node = some state) : state.perm = true := by
  by_contra open'
  obtain ⟨elem, member, _⟩ :=
    weighing.waiting node state stored (Bool.eq_false_of_not_eq_true open')
  rw [empty] at member
  cases member

theorem Weighing.cheapestMap (weighing : Weighing rootNode now linkArray order search)
    (empty : search.heap = []) (tight : Tight linkArray now search.routeMap) :
    CheapestMap rootNode (linkCost linkArray now) search.routeMap := by
  -- by induction on the path, whose nodes are permanent
  have bounded : ∀ node cost, PathCost (starts rootNode) (linkCost linkArray now) node cost →
      ∃ state, search.routeMap.lookup node = some state ∧ state.costAdd ≤ cost := by
    intro node cost path
    induction path with
    | first first =>
        obtain ⟨state, stored, zero⟩ := weighing.root
        exact ⟨state, first.1 ▸ stored, by rw [zero, first.2]⟩
    | @next last node cost weight path linked ih =>
        obtain ⟨state, stored, bound⟩ := ih
        obtain ⟨edge, among, rfl, live, rfl⟩ := linked
        obtain ⟨next, there, less⟩ := tight last state stored
          (weighing.permanent empty stored) edge
          (List.mem_filter.mpr ⟨among, decide_eq_true live⟩)
        exact ⟨next, there, by linarith⟩
  constructor
  · intro node cost path
    obtain ⟨state, stored, _⟩ := bounded node cost path
    exact Finmap.lookup_isSome.mp (by rw [stored]; rfl)
  · intro node state stored
    obtain ⟨nodes, leads, _⟩ := weighing.leads stored
    refine ⟨leads.pathCost, fun cost path => ?_⟩
    obtain ⟨state', stored', bound⟩ := bounded node cost path
    rwa [Option.some.inj (stored'.symm.trans stored)] at bound
  · intro node state stored
    obtain ⟨nodes, leads, _⟩ := weighing.leads stored
    exact ⟨nodes, leads⟩

/-! ## What `run` builds -/

/-- What `run` leaves when it starts at a node of the database. -/
structure Built (rootNode : InAddr) (now : SimTime) (chance : Chance) (cache built : LinkCache) :
    Prop where
  ran : cache.run rootNode now chance = .ok built
  weighing : ∃ order, Weighing rootNode now cache.linkArray order
    { heap := [], linkArray := built.linkArray, routeMap := built.routeMap }
  cheapest : NearestBest rootNode (linkCost cache.linkArray now) →
    CheapestMap rootNode (linkCost cache.linkArray now) built.routeMap

theorem pending_le (linkArray : LinkArray) :
    pending linkArray [] = (linkArray.entries.map fun entry => entry.2.length).sum := by
  have whole : linkArray.keys.filter (· ∉ ([] : List InAddr)) = linkArray.keys :=
    Finset.filter_true_of_mem fun node _ => List.not_mem_nil
  have lengths : ∀ entry ∈ linkArray.entries,
      (edgesFrom linkArray entry.1).length = entry.2.length := by
    intro entry member
    rw [edgesFrom_of_lookup (Finmap.lookup_eq_some_iff.mpr member)]
  rw [pending, whole]
  show ((linkArray.entries.map Sigma.fst).map _).sum = _
  rw [Multiset.map_map]
  exact congrArg Multiset.sum (Multiset.map_congr rfl lengths)

theorem pathCost_nonneg (weighted : Weighted linkArray) {cost : ℚ}
    (path : PathCost (starts rootNode) (linkCost linkArray now) node cost) : 0 ≤ cost := by
  induction path with
  | first first => exact first.2.ge
  | next _ linked ih =>
      obtain ⟨edge, among, -, -, rfl⟩ := linked
      exact add_nonneg ih (weighted.nonneg _ edge among)

theorem ordered_initial (weighted : Weighted linkArray) :
    Ordered rootNode (linkCost linkArray now) (rootSearch rootNode linkArray) := by
  constructor
  · exact List.pairwise_singleton _ _
  · exact List.nodup_singleton _
  · intro elem member
    rw [List.mem_singleton.mp member]
    exact ⟨_, lookup_rootMap.mpr ⟨rfl, rfl⟩, rfl, rfl⟩
  · intro node state stored
    obtain ⟨rfl, rfl⟩ := lookup_rootMap.mp stored
    exact ⟨.first ⟨rfl, rfl⟩, fun cost path => pathCost_nonneg weighted path⟩

theorem built_ok {cache : LinkCache} (weighted : Weighted cache.linkArray)
    (key : rootNode ∈ cache.linkArray) (now : SimTime) (chance : Chance) :
    ∃ built, Built rootNode now chance cache built := by
  have enough : (rootSearch rootNode cache.linkArray).heap.length + pending cache.linkArray [] ≤
      cache.maxRounds := by
    rw [pending_le, maxRounds]
    show 1 + _ ≤ _
    omega
  obtain ⟨final, finished⟩ :
      ∃ final, Finished rootNode now chance cache.linkArray cache.maxRounds
        (rootSearch rootNode cache.linkArray) final :=
    (weighing_initial key).finish weighted enough
  rcases final with ⟨heap, linkArray, routeMap⟩
  obtain rfl : heap = [] := finished.empty
  obtain ⟨order, weighing⟩ := finished.weighing
  obtain ⟨edges, stored⟩ := Option.isSome_iff_exists.mp (Finmap.lookup_isSome.mpr key)
  -- no node is permanent at the start
  have start : Tight cache.linkArray now (rootSearch rootNode cache.linkArray).routeMap := by
    intro node state there permanent
    rw [(lookup_rootMap.mp there).2] at permanent
    cases permanent
  refine ⟨{ linkArray := linkArray, routeMap := routeMap }, ?_, ⟨order, weighing⟩, ?_⟩
  · rw [run, stored]
    exact bind_ok.mpr ⟨_, finished.ran, rfl⟩
  · exact fun nearest =>
      weighing.cheapestMap rfl (finished.tight nearest start (ordered_initial weighted))

end

end LinkCache

end SyncFanet.Dsr
