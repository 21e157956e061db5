import SyncFanet.Dsr.SourceRoute

/-!
# Packets

The options of a DSR packet, `struct dsr_pkt` and the actions that the option handlers
ask for. A packet on its way between two nodes is a `DSRPkt`.
-/

set_option autoImplicit false

namespace SyncFanet.Dsr

/-! ## Options -/

structure DsrSrtOpt where
  length : Nat
  salv : Nat
  sleft : Nat
  addrs : List InAddr
  deriving DecidableEq

structure DsrRreqOpt where
  length : Nat
  id : Nat
  target : InAddr
  addrs : List InAddr
  deriving DecidableEq

structure DsrRrepOpt where
  length : Nat
  addrs : List InAddr
  cost : List Nat
  deriving DecidableEq

structure DsrRerrOpt where
  errType : Nat
  salv : Nat
  errSrc : InAddr
  errDst : InAddr
  info : InAddr
  deriving DecidableEq

structure DsrAckOpt where
  id : Nat
  src : InAddr
  dst : InAddr
  deriving DecidableEq

inductive DsrOpt where
  | padn
  | rreq (opt : DsrRreqOpt)
  | rrep (opt : DsrRrepOpt)
  | rerr (opt : DsrRerrOpt)
  | prevHop
  | ack (opt : DsrAckOpt)
  | srt (opt : DsrSrtOpt)
  | timeout
  | flowid
  | ackReq (id : Nat)
  | pad1
  deriving DecidableEq

/-- `dsr_srt_opt_add`: the option with the source route, in its fields of 8, 4 and 6 bits. -/
def dsrSrtOptAdd (salvage : Nat) (srt : DsrSrt) : DsrSrtOpt where
  length := (srt.laddrs + 2) % 2 ^ 8
  salv := salvage % 2 ^ 4
  sleft := srt.count % 2 ^ 6
  addrs := srt.addrs

/-- `dsr_rrep_opt_add`: the option with the route that a reply reports. -/
def dsrRrepOptAdd (srt : DsrSrt) : DsrRrepOpt where
  length := (srt.laddrs + dsrAddressSize + 1) % 2 ^ 8
  addrs := srt.addrs ++ [srt.dst]
  cost := srt.cost

/-! ## Packets -/

/-- `PKT_PROMISC_RECV`. -/
def pktPromiscRecv : Nat := 0x01

/-- `PKT_REQUEST_ACK`. -/
def pktRequestAck : Nat := 0x02

/-- `DSR_BROADCAST`. -/
def dsrBroadcast : InAddr := 0xffffffff

structure DsrPkt where
  src : InAddr
  dst : InAddr
  nxtHop : InAddr
  prvHop : InAddr
  flags : Nat
  salvage : Nat
  ttl : Nat
  payloadLen : Nat
  /-- The options headers with their options. -/
  opth : List (List DsrOpt)
  srtOpt : Option DsrSrtOpt
  rrepOpt : List DsrRrepOpt
  srt : Option DsrSrt
  costVector : List EtxCost

def DsrPkt.hasFlag (dp : DsrPkt) (flag : Nat) : Bool :=
  dp.flags &&& flag ≠ 0

/-- The packet between two nodes, with the address of the next one unless it is a
broadcast. -/
structure DSRPkt where
  src : InAddr
  dst : InAddr
  nextAddress : Option InAddr
  ttl : Nat
  payloadLen : Nat
  dsrOptions : List (List DsrOpt)
  costVector : List EtxCost

/-- `IPDEFTTL`. -/
def ipDefTtl : Nat := 64

/-- The time to live that `dsr_build_ip` writes. -/
def dsrBuildIpTtl (ttl : Nat) : Nat :=
  if ttl = 0 then ipDefTtl else ttl

@[simp] theorem dsrBuildIpTtl_ne_zero (ttl : Nat) : dsrBuildIpTtl ttl ≠ 0 := by
  unfold dsrBuildIpTtl
  split
  · decide
  · assumption

theorem dsrBuildIpTtl_of_ne_zero {ttl : Nat} (alive : ttl ≠ 0) : dsrBuildIpTtl ttl = ttl :=
  if_neg alive

/-- `MAX_RREP_OPTS`. -/
def maxRrepOpts : Nat := 10

/-- What `dsr_opt_parse` finds among the options. -/
def dsrOptParse (dp : DsrPkt) : DsrPkt :=
  { dp with
    srtOpt := dp.opth.flatten.findSome? fun
      | .srt opt => some opt
      | _ => none
    rrepOpt := (dp.opth.flatten.filterMap fun
      | .rrep opt => some opt
      | _ => none).take maxRrepOpts }

/-- `dsr_pkt_alloc` for a packet that arrives. -/
def dsrPktAlloc (useNetworkLayerAck : Bool) (p : DSRPkt) : DsrPkt :=
  dsrOptParse
    { src := p.src
      dst := p.dst
      nxtHop := 0
      prvHop := 0
      flags := if p.payloadLen ≠ 0 ∧ useNetworkLayerAck then pktRequestAck else 0
      salvage := 0
      ttl := p.ttl
      payloadLen := p.payloadLen
      opth := p.dsrOptions
      srtOpt := none
      rrepOpt := []
      srt := none
      costVector := p.costVector }

/-- The packet without its options. -/
def DSRPkt.clearDsrOptions (p : DSRPkt) : DSRPkt :=
  { p with dsrOptions := [] }

/-- `dsr_pkt_alloc2` for a packet that is overheard. Its options are assigned a second time after
they are cleared, and the payload is not taken. -/
def dsrPktAlloc2 (p : DSRPkt) : DsrPkt :=
  let dp : DsrPkt :=
    { src := p.src
      dst := p.dst
      nxtHop := 0
      prvHop := 0
      flags := 0
      salvage := 0
      ttl := p.ttl
      payloadLen := 0
      opth := p.dsrOptions
      srtOpt := none
      rrepOpt := []
      srt := none
      costVector := [] }
  let cleared := p.clearDsrOptions
  { dsrOptParse { dp with opth := cleared.dsrOptions } with costVector := cleared.costVector }

/-! ## Actions -/

def dsrPktNone : Nat := 1
def dsrPktSrtRemove : Nat := dsrPktNone <<< 2
def dsrPktSendIcmp : Nat := dsrPktNone <<< 3
def dsrPktSendRrep : Nat := dsrPktNone <<< 4
def dsrPktSendBuffered : Nat := dsrPktNone <<< 5
def dsrPktSendAck : Nat := dsrPktNone <<< 6
def dsrPktForward : Nat := dsrPktNone <<< 7
def dsrPktForwardRreq : Nat := dsrPktNone <<< 8
def dsrPktDrop : Nat := dsrPktNone <<< 9
def dsrPktError : Nat := dsrPktNone <<< 10
def dsrPktDeliver : Nat := dsrPktNone <<< 11

/-- `DSR_PKT_ACTION_LAST`. -/
def dsrPktActionLast : Nat := 12

end SyncFanet.Dsr
