import SyncFanet.Dsr.MaintBuffer

/-!
# The request table

`dsrRreqTbl`, in which an entry is the state of a route discovery for its node and the
memory of the requests that its node has sent, and `rreqInfoMap`, which remembers requests
for 100 s. An entry is deleted when it is taken out of the table, and its timer with it.
-/

set_option autoImplicit false

namespace SyncFanet.Dsr

/-! ## Configuration -/

structure RreqConfig where
  requestTableIds : Nat
  maxRequestRexmt : Nat
  /-- In seconds. -/
  maxRequestPeriod : Nat
  /-- In milliseconds. -/
  requestPeriod : Nat
  rreqMaxVisit : Nat

namespace RreqConfig

variable (config : RreqConfig)

/-- `RREQMulVisit`, which `initialize` derives. -/
def rreqMulVisit : Nat :=
  if config.rreqMaxVisit > 1 then 1 else 0

/-- `ConfValToUsecs(MaxRequestPeriod)`, computed in 32 bits. -/
def maxRequestUsecs : Nat :=
  config.maxRequestPeriod * 1000000 % 2 ^ 32

/-- `ConfValToUsecs(RequestPeriod)`, computed in 32 bits. -/
def requestUsecs : Nat :=
  config.requestPeriod * 1000 % 2 ^ 32

end RreqConfig

/-- `MAXTTL`. -/
def maxTtl : Nat := 255

/-- `TTL_START`. -/
def ttlStart : Nat := 10

/-! ## Entries -/

/-- `Id_Entry_Route`. -/
structure IdEntryRoute where
  cost : ℚ
  length : Int
  add : List InAddr

/-- `Id_Entry`: a request, with the routes it came over. -/
structure IdEntry where
  trgAddr : InAddr
  id : Nat
  rreqIdTblRoutes : List IdEntryRoute

inductive RreqTblState where
  | idle
  | inRouteDisc
  deriving DecidableEq

/-- `rreq_tbl_entry`, with the time its timer is scheduled for. -/
structure RreqTblEntry where
  state : RreqTblState
  nodeAddr : InAddr
  ttl : Nat
  timer : Option SimTime
  lastUsed : Int
  timeout : Nat
  numRexmts : Nat
  rreqIdTbl : List IdEntry

abbrev DsrRreqTbl := Finmap fun _ : InAddr => RreqTblEntry

/-- `RreqSeqInfo`. -/
structure RreqSeqInfo where
  seq : Nat
  time : SimTime
  paths : List (List InAddr)

abbrev RreqInfoMap := Finmap fun _ : InAddr => List RreqSeqInfo

structure RreqTable where
  dsrRreqTbl : DsrRreqTbl
  rreqInfoMap : RreqInfoMap
  rreqSeqno : Nat

/-- What the functions on the table do besides: a request is sent, or a discovery ends. -/
inductive RreqAct where
  | send (opt : DsrRreqOpt) (ttl : Nat)
  | removed (target : InAddr)
  | cancelled (target : InAddr)

/-- `set_timer`, for a time in microseconds. -/
def setTimer (now : SimTime) (expires : Int) : SimTime :=
  max now (1000000 * expires)

/-- `__rreq_tbl_entry_create`. -/
def rreqTblEntryCreate (nodeAddr : InAddr) : RreqTblEntry where
  state := .idle
  nodeAddr := nodeAddr
  ttl := 0
  timer := none
  lastUsed := 0
  timeout := 0
  numRexmts := 0
  rreqIdTbl := []

/-- `__rreq_tbl_add`, with the entry it returns. -/
def rreqTblAdd (tbl : DsrRreqTbl) (nodeAddr : InAddr) : Except Fault (DsrRreqTbl × RreqTblEntry) :=
  match tbl.lookup nodeAddr with
  | some _ => .error (.runtimeError "dsrRreqTbl entry already in the table")
  | none => .ok (tbl.insert nodeAddr (rreqTblEntryCreate nodeAddr), rreqTblEntryCreate nodeAddr)

/-- The entry of a node, added where there is none. -/
def rreqTblEntry (tbl : DsrRreqTbl) (nodeAddr : InAddr) : Except Fault (DsrRreqTbl × RreqTblEntry) :=
  match tbl.lookup nodeAddr with
  | some e => .ok (tbl, e)
  | none => rreqTblAdd tbl nodeAddr

/-! ## Remembering requests -/

/-- A request that is known already is remembered over another route, unless it has come
over any: the routes are compared with themselves. -/
def visitAgain (config : RreqConfig) (route : IdEntryRoute) (e : IdEntry) : IdEntry :=
  if config.rreqMulVisit = 0 ∨ config.rreqMaxVisit ≤ e.rreqIdTblRoutes.length then e
  else if e.rreqIdTblRoutes.any fun old => old.length < route.length ∨ old.add = old.add then e
  else { e with rreqIdTblRoutes := e.rreqIdTblRoutes ++ [route] }

/-- The ids of an entry without the first one, where there are as many as may be. -/
def forgetFirst (config : RreqConfig) (ids : List IdEntry) : Except Fault (List IdEntry) :=
  if config.requestTableIds ≤ ids.length then
    match ids with
    | [] => .error .outOfBounds
    | _ :: rest => .ok rest
  else .ok ids

/-- The ids of an entry with a request, of which the last one that matches counts. -/
def addIdEntry (config : RreqConfig) (ids : List IdEntry) (target : InAddr) (id : Nat)
    (route : IdEntryRoute) : Except Fault (List IdEntry) :=
  if ids.any fun e => id = e.id ∧ e.trgAddr = target then
    .ok (updateFirst (fun e => id = e.id ∧ e.trgAddr = target) (visitAgain config route)
      ids.reverse).reverse
  else
    (forgetFirst config ids).bind fun ids =>
      .ok (ids ++ [{ trgAddr := target, id := id, rreqIdTblRoutes := [route] }])

/-- `rreq_tbl_add_id`. -/
def rreqTblAddId (config : RreqConfig) (now : SimTime) (table : RreqTable)
    (initiator target : InAddr) (id : Nat) (cost : ℚ) (addr : List InAddr) (length : Int) :
    Except Fault RreqTable :=
  (rreqTblEntry table.dsrRreqTbl initiator).bind fun found =>
    let route : IdEntryRoute := { cost := cost, length := length, add := addr }
    (addIdEntry config found.2.rreqIdTbl target id route).bind fun ids =>
      let e := { found.2 with lastUsed := gettime now, rreqIdTbl := ids }
      .ok { table with dsrRreqTbl := found.1.insert initiator e }

/-! ## Route discovery -/

/-- `dsr_rreq_send`: the table after the request, and the request. -/
def dsrRreqSend (table : RreqTable) (target : InAddr) (ttl : Nat) : RreqTable × RreqAct :=
  let seqno := (table.rreqSeqno + 1) % 2 ^ 32
  ({ table with rreqSeqno := seqno },
    .send { length := 6, id := seqno % 2 ^ 16, target := target, addrs := [] } ttl)

/-- `rreq_tbl_route_discovery_cancel`. -/
def rreqTblRouteDiscoveryCancel (table : RreqTable) (dst : InAddr) : RreqTable × List RreqAct :=
  match table.dsrRreqTbl.lookup dst with
  | none => (table, [])
  | some e =>
      ({ table with dsrRreqTbl := table.dsrRreqTbl.erase dst },
        if e.state = .inRouteDisc then [.cancelled dst] else [])

/-- `dsr_rreq_route_discovery`. -/
def dsrRreqRouteDiscovery (config : RreqConfig) (now : SimTime) (table : RreqTable)
    (target : InAddr) : Except Fault (RreqTable × List RreqAct) :=
  (rreqTblEntry table.dsrRreqTbl target).bind fun found =>
    if found.2.state = .inRouteDisc then
      .ok ({ table with dsrRreqTbl := found.1 }, [])
    else
      let e := { found.2 with
        lastUsed := gettime now
        ttl := ttlStart
        timeout := config.requestUsecs
        state := .inRouteDisc
        numRexmts := 0
        timer := some (setTimer now (gettime now + config.requestUsecs)) }
      let sent := dsrRreqSend { table with dsrRreqTbl := found.1.insert target e } target ttlStart
      .ok (sent.1, [sent.2])

/-- The check with which `rreq_tbl_timeout` starts: whether the table has the entry. -/
def findOwn (tbl : DsrRreqTbl) (key nodeAddr : InAddr) : Except Fault Bool :=
  match tbl.lookup nodeAddr with
  | some _ => if nodeAddr = key then .ok true else .error (.runtimeError "dsrRreqTbl")
  | none => .ok false

/-- `rreq_tbl_timeout`, for the entry at a key of the table. -/
def rreqTblTimeout (config : RreqConfig) (now : SimTime) (table : RreqTable) (key : InAddr)
    (e : RreqTblEntry) : Except Fault (RreqTable × List RreqAct) :=
  (findOwn table.dsrRreqTbl key e.nodeAddr).bind fun found =>
    if config.maxRequestRexmt ≤ e.numRexmts then
      if found then
        .ok ({ table with dsrRreqTbl := table.dsrRreqTbl.erase e.nodeAddr }, [.removed e.nodeAddr])
      else .error .danglingIterator
    else
      let ttl := min (e.ttl * 2) maxTtl
      let timeout := min (e.timeout * 2) config.maxRequestUsecs
      let e := { e with
        numRexmts := e.numRexmts + 1
        ttl := ttl
        timeout := timeout
        lastUsed := gettime now
        timer := some (setTimer now (gettime now + timeout)) }
      let sent := dsrRreqSend { table with dsrRreqTbl := table.dsrRreqTbl.insert key e }
        e.nodeAddr ttl
      .ok (sent.1, [sent.2])

/-- `rreq_timer_test`, for the timer of the entry at a key. -/
def rreqTimerTest (config : RreqConfig) (now : SimTime) (table : RreqTable) (key : InAddr) :
    Except Fault (RreqTable × List RreqAct) :=
  match table.dsrRreqTbl.lookup key with
  | none => .ok (table, [])
  | some e => rreqTblTimeout config now table key { e with timer := none }

end SyncFanet.Dsr
