import SyncFanet.Dsr.MaintRuns
import SyncFanet.Dsr.RouteFind

/-!
# Route errors

`dsr_rerr_send`, with the packet that it sends, and `packetFailed`, which reports a broken
link and then salvages the packet that was lost.
-/

set_option autoImplicit false

namespace SyncFanet.Dsr

/-- `MAX_RERR_OPTS` and `MAX_ACK_OPTS`. -/
def maxParsedOpts : Nat := 10

/-- `dsr_rerr_opt_add`, for a node that cannot be reached. -/
def dsrRerrOptAdd (errSrc errDst unreachAddr : InAddr) (salv : Nat) : DsrRerrOpt where
  errType := nodeUnreachable
  salv := salv % 2 ^ 4
  errSrc := errSrc
  errDst := errDst
  info := unreachAddr

/-- The route errors among the options of a packet, up to the first that was salvaged too
often, and its acknowledgements. -/
def oldErrors (maxSalvageCount : Nat) (opth : List (List DsrOpt)) : List DsrOpt :=
  let rerrs := (opth.flatten.filterMap fun
    | .rerr opt => some opt
    | _ => none).take maxParsedOpts
  let acks := (opth.flatten.filterMap fun
    | .ack opt => some opt
    | _ => none).take maxParsedOpts
  (rerrs.takeWhile fun opt => opt.salv ≤ maxSalvageCount).map .rerr ++ acks.map .ack

/-- Whom `dsr_rerr_send` tells about a link that broke. -/
def rerrDst (dp : DsrPkt) (opt : DsrSrtOpt) : Except Fault InAddr :=
  if opt.salv = 0 then .ok dp.src else at? opt.addrs 1

/-- `dsr_rerr_send`: the route error, where there is a route for it. -/
def dsrRerrSend (myaddr : InAddr) (maxSalvageCount : Nat) (rtcFind : InAddr → Option DsrSrt)
    (dpTrigg : DsrPkt) (unrAddr : InAddr) : Except Fault (Option DsrPkt) :=
  match dpTrigg.srtOpt with
  | none => .ok none
  | some opt =>
      if dpTrigg.src = myaddr then .ok none
      else
        (rerrDst dpTrigg opt).bind fun dst =>
          match rtcFind dst with
          | none => .ok none
          | some srt =>
              (dsrSrtNextHop srt srt.count).bind fun nxtHop =>
                let srtOpt := dsrSrtOptAdd 0 srt
                let rerr := dsrRerrOptAdd myaddr dst unrAddr opt.salv
                .ok (some
                  { src := myaddr, dst := dst, nxtHop := nxtHop, prvHop := 0, flags := 0
                    salvage := 0, ttl := ipDefTtl, payloadLen := 0
                    opth := [.srt srtOpt :: .rerr rerr :: oldErrors maxSalvageCount dpTrigg.opth]
                    srtOpt := some srtOpt, rrepOpt := [], srt := some srt, costVector := [] })

/-- `packetFailed`, after the link has been deleted: the route error, and the packet with
its new route unless it is dropped. The packet is the one that was transmitted. -/
def packetFailed (useNetworkLayerAck : Bool) (myaddr : InAddr) (maxSalvageCount : Nat)
    (rtcFind : InAddr → Option DsrSrt) (p : DSRPkt) (nxtHop : InAddr) :
    Except Fault (Option DsrPkt × Option DsrPkt) :=
  let dp := dsrPktAlloc useNetworkLayerAck p
  (dsrRerrSend myaddr maxSalvageCount rtcFind dp nxtHop).bind fun rerr =>
    (salvagePacket myaddr { dp with nxtHop := nxtHop } (rtcFind dp.dst)).bind fun salvaged =>
      .ok (rerr, salvaged)

end SyncFanet.Dsr
