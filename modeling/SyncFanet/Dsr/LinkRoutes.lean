import SyncFanet.Dsr.LinkCache

/-!
# Routes from the link cache

`DsrDataBase::run`, which builds the route map from the links, and `getRoute`, which
follows it back from the destination and extends the links on its way. The root is the own
address. A pointer to an edge is the edge between two nodes. The random numbers are given for
each round, and the places of new elements where the order of the heap leaves them open.
-/

set_option autoImplicit false

namespace SyncFanet.Dsr

namespace LinkCache

/-! ## The heap -/

/-- `DijkstraShortest::SetElem`. -/
structure SetElem where
  iD : InAddr
  costAdd : ℚ

/-- `operator <`, to which elements of one node are equal. -/
def SetElem.less (elem other : SetElem) : Bool :=
  elem.iD ≠ other.iD ∧ elem.costAdd < other.costAdd

/-- The positions where a descent from the root of the multiset can end: it went to the right of
the element before, and to the left of the one behind. As the elements are not ordered, there
may be several, and the shape of the tree decides. -/
def places (elem : SetElem) (heap : List SetElem) : List Nat :=
  (List.range (heap.length + 1)).filter fun i =>
    (heap.take i).getLast?.all (fun before => ¬elem.less before) ∧
      heap[i]?.all fun behind => elem.less behind

/-- The insertion into the multiset. -/
def insertElem (place : Nat) (elem : SetElem) (heap : List SetElem) : List SetElem :=
  let places := places elem heap
  let i := places.getD (place % places.length) 0
  heap.take i ++ elem :: heap.drop i

/-- How many elements at the front of the heap have the same cost. -/
def equalCount : List SetElem → Nat
  | [] => 0
  | [_] => 1
  | first :: second :: rest =>
      if second.costAdd > first.costAdd then 1 else 1 + equalCount (second :: rest)

/-- The position of the element that is extracted: the random number is never the last one. -/
def extracted (rand : Nat) (heap : List SetElem) : Nat :=
  let numeq := equalCount heap - 1
  if numeq > 0 then rand % numeq else 0

/-! ## Building the route map -/

/-- What the links do not determine: the random number of each round, and the place of each new
element of the heap. No element comes twice into the heap. -/
structure Chance where
  rand : Nat → Nat
  place : SetElem → Nat

/-- The first random number each time, and the first place. -/
def Chance.first : Chance where
  rand := fun _ => 0
  place := fun _ => 0

structure Search where
  heap : List SetElem
  linkArray : Finmap fun _ : InAddr => List Edge
  routeMap : Finmap fun _ : InAddr => RouteState

/-- What a link from a node makes of the search. -/
def relax (place : SetElem → Nat) (iD : InAddr) (cost : ℚ) (search : Search) (edge : Edge) :
    Search :=
  let costAdd := edge.costAdd + cost
  let elem : SetElem := { iD := edge.lastNode, costAdd := costAdd }
  let reached : Search :=
    { search with
      heap := insertElem (place elem) elem search.heap
      routeMap := search.routeMap.insert edge.lastNode
        { costAdd := costAdd, idPrev := iD, perm := false } }
  match search.routeMap.lookup edge.lastNode with
  | none => reached
  | some next =>
      if next.perm then search else if costAdd < next.costAdd then reached else search

/-- The node of an element becomes permanent, and its links that have not expired are
tried. -/
def settle (now : SimTime) (place : SetElem → Nat) (elem : SetElem) (search : Search) :
    Except Fault Search :=
  match search.routeMap.lookup elem.iD with
  | none => .error (.runtimeError "node not found in routeMap")
  | some state =>
      if state.perm then .ok search
      else
        match search.linkArray.lookup elem.iD with
        | none => .error .danglingIterator
        | some edges =>
            let live := edges.filter fun edge => now < edge.expires
            .ok (live.foldl (relax place elem.iD state.costAdd)
              { search with
                linkArray := search.linkArray.insert elem.iD live
                routeMap := search.routeMap.insert elem.iD { state with perm := true } })

/-- The loop of `run`, with a bound on its rounds. -/
def rounds (now : SimTime) (chance : Chance) : Nat → Search → Except Fault Search
  | 0, search => if search.heap = [] then .ok search else .error .diverges
  | fuel + 1, search =>
      let index := extracted (chance.rand fuel) search.heap
      match search.heap[index]? with
      | none => .ok search
      | some elem =>
          (settle now chance.place elem { search with heap := search.heap.eraseIdx index }).bind
            (rounds now chance fuel)

/-- A bound on the rounds: every element of the heap comes from a link, but for the first. -/
def maxRounds (cache : LinkCache) : Nat :=
  1 + cache.linkArray.keys.card + (cache.linkArray.entries.map fun entry => entry.2.length).sum

/-- `DsrDataBase::run`, without a target. -/
def run (rootNode : InAddr) (now : SimTime) (chance : Chance) (cache : LinkCache) :
    Except Fault LinkCache :=
  match cache.linkArray.lookup rootNode with
  | none => .ok { cache with routeMap := ∅ }
  | some _ =>
      let state : RouteState := { costAdd := 0, idPrev := 0, perm := false }
      (rounds now chance cache.maxRounds
        { heap := [{ iD := rootNode, costAdd := 0 }], linkArray := cache.linkArray
          routeMap := Finmap.singleton rootNode state }).bind fun search =>
        .ok { linkArray := search.linkArray, routeMap := search.routeMap }

/-! ## Following the route map -/

/-- The edge between two nodes. -/
def edge? (linkArray : Finmap fun _ : InAddr => List Edge) (origin last : InAddr) : Option Edge :=
  ((linkArray.lookup origin).getD []).find? fun edge => edge.lastNode = last

/-- The links with a new time for an edge. -/
def extendEdge (linkArray : Finmap fun _ : InAddr => List Edge) (origin last : InAddr)
    (expires : SimTime) : Finmap fun _ : InAddr => List Edge :=
  match linkArray.lookup origin with
  | none => linkArray
  | some edges =>
      linkArray.insert origin
        (updateFirst (fun edge => edge.lastNode = last)
          (fun edge => { edge with expires := expires }) edges)

/-- The loop of `getRoute` from a node back to the root, with the nodes it has passed: the
links it leaves, and the nodes, unless it comes across an expired link. -/
def walk (rootNode : InAddr) (now : SimTime) (exp : Nat)
    (routeMap : Finmap fun _ : InAddr => RouteState) :
    Nat → (Finmap fun _ : InAddr => List Edge) → InAddr → RouteState → List InAddr →
      Except Fault ((Finmap fun _ : InAddr => List Edge) × Option (List InAddr))
  | fuel, linkArray, currentNode, state, path =>
      if currentNode = rootNode then .ok (linkArray, some path)
      else
        match fuel with
        | 0 => .error .diverges
        | fuel + 1 =>
            match edge? linkArray state.idPrev currentNode with
            | none => .error .danglingIterator
            | some edge =>
                if edge.expires ≤ now then .ok (linkArray, none)
                else
                  let linkArray :=
                    if exp > 0 then
                      extendEdge linkArray state.idPrev currentNode (now + usecs exp)
                    else linkArray
                  match routeMap.lookup state.idPrev with
                  | none => .error (.runtimeError "error in data routeMap")
                  | some prev =>
                      walk rootNode now exp routeMap fuel linkArray state.idPrev prev
                        (path ++ [currentNode])

/-- The last loop of `getRoute`: the passed nodes backwards, without the destination. -/
def forwards (path : List InAddr) : Except Fault PathCacheRoute :=
  match path with
  | [] => .error .outOfBounds
  | _ :: rest => .ok rest.reverse

/-- `DsrDataBase::getRoute`, with a bound on the depth of its calls. -/
def getRoute (rootNode : InAddr) (now : SimTime) (chance : Nat → Chance) (exp : Nat)
    (nodeId : InAddr) : Nat → LinkCache → Except Fault (LinkCache × Option PathCacheRoute)
  | 0, _ => .error .diverges
  | depth + 1, cache =>
      (if cache.routeMap = ∅ then cache.run rootNode now (chance depth) else .ok cache).bind
        fun cache =>
          match cache.routeMap.lookup nodeId with
          | none => .ok (cache, none)
          | some state =>
              (walk rootNode now exp cache.routeMap cache.routeMap.keys.card cache.linkArray nodeId
                state []).bind fun walked =>
                match walked.2 with
                | some path =>
                    (forwards path).bind fun route =>
                      .ok ({ cache with linkArray := walked.1 }, some route)
                | none =>
                    getRoute rootNode now chance exp nodeId depth
                      { linkArray := walked.1, routeMap := ∅ }

/-- `ph_srt_find_link_route_map`. A route map that was just built has no expired link, so
that `getRoute` calls itself once at most. -/
def phSrtFindLinkRouteMap (myaddr : InAddr) (now : SimTime) (chance : Nat → Chance)
    (cache : LinkCache) (src dst : InAddr) (timeout : Nat) :
    Except Fault (LinkCache × Option DsrSrt) :=
  (cache.getRoute myaddr now chance timeout dst 2).bind fun found =>
    .ok (found.1, found.2.map fun route =>
      { src := src, dst := dst, flags := 0, laddrs := route.length * dsrAddressSize,
        addrs := route, cost := [] })

end LinkCache

end SyncFanet.Dsr
