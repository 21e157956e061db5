import SyncFanet.Dsr.AckRequests

/-!
# The length in the options header

`p_len` is kept next to the options that it counts, and written by each function that adds or
changes one of them.
-/

set_option autoImplicit false

namespace SyncFanet.Dsr

/-! ## Sizes -/

/-- The sizes of two options, which are those of their C++ classes. -/
structure Sizes where
  /-- `DSR_ACK_REQ_HDR_LEN`. -/
  ackReqHdrLen : Nat
  /-- `DSR_ACK_HDR_LEN`. -/
  ackHdrLen : Nat

/-- `DSR_SRT_HDR_LEN`. -/
def dsrSrtHdrLen : Nat := 4

/-- `DSR_RERR_HDR_LEN`. -/
def dsrRerrHdrLen : Nat := 12

/-- `DSR_OPT_HDR_LEN`. -/
def dsrOptHdrLen : Nat := 4

/-- `DSR_SRT_OPT_LEN`. -/
def dsrSrtOptLen (srt : DsrSrt) : Nat :=
  dsrSrtHdrLen + srt.addrs.length * dsrAddressSize

/-- The length that an option gives, with the two bytes before it. No function writes one of the
last kinds. -/
def DsrOpt.size (sizes : Sizes) : DsrOpt → Nat
  | .srt opt => opt.length + 2
  | .rreq opt => opt.length + 2
  | .rrep opt => opt.length + 2
  | .rerr opt => dsrRerrHdrLen + if opt.errType = nodeUnreachable then 4 else 0
  | .ack _ => sizes.ackHdrLen
  | .ackReq _ => sizes.ackReqHdrLen
  | .padn | .prevHop | .timeout | .flowid | .pad1 => 0

/-- The length of the options of a header. -/
def optionsLen (sizes : Sizes) (header : List DsrOpt) : Nat :=
  (header.map (DsrOpt.size sizes)).sum

@[simp] theorem optionsLen_nil (sizes : Sizes) : optionsLen sizes [] = 0 := rfl

@[simp] theorem optionsLen_cons (sizes : Sizes) (option : DsrOpt) (rest : List DsrOpt) :
    optionsLen sizes (option :: rest) = option.size sizes + optionsLen sizes rest := by
  simp [optionsLen]

@[simp] theorem optionsLen_append (sizes : Sizes) (before after : List DsrOpt) :
    optionsLen sizes (before ++ after) = optionsLen sizes before + optionsLen sizes after := by
  simp [optionsLen]

/-! ## Writing the length -/

/-- `p_len` of the first header after `dsr_ack_req_opt_add`, which leaves it where a request is
there already. -/
def ackReqPLen (sizes : Sizes) (opth : List (List DsrOpt)) (pLen : Nat) : Nat :=
  if requestIds opth ≠ [] then pLen
  else
    match opth with
    | [] => sizes.ackReqHdrLen % 2 ^ 16
    | [_] => (pLen + sizes.ackReqHdrLen) % 2 ^ 16
    | _ => pLen

/-- A packet between two nodes, with `p_len` of its header. -/
structure SentPkt where
  p : DSRPkt
  pLen : Nat

/-- `omnet_xmit`, where `maint_buf_add` has decided on an acknowledgement request. -/
def xmitWithLength (sizes : Sizes) (ackReq : Option Nat) (dp : DsrPkt) (pLen : Nat) :
    Option SentPkt :=
  (omnetXmit ackReq dp).map fun p =>
    { p := p
      pLen :=
        if ackReq.isSome ∧ dp.hasFlag pktRequestAck then ackReqPLen sizes dp.opth pLen else pLen }

/-- `p_len` after `maint_buf_salvage` has written another source route, or the same number of
nodes. -/
def salvagePLen (pLen : Nat) (oldOpt : DsrSrtOpt) (srt : DsrSrt) : Nat :=
  let oldSrtOptLen := oldOpt.length + 2
  let newSrtOptLen := dsrSrtOptLen srt
  let oldOptLen := pLen + dsrOptHdrLen
  let newOptLen : Int := oldOptLen - oldSrtOptLen + newSrtOptLen
  if oldSrtOptLen ≠ newSrtOptLen then ((newOptLen - dsrOptHdrLen) % 2 ^ 16).toNat else pLen

/-- `maint_buf_salvage`: nothing where it returns −1, and else what it transmits, which is
nothing for a packet at the end of its lifetime. -/
def maintBufSalvageXmit (sizes : Sizes) (myaddr : InAddr) (ackReq : Option Nat) (dp : DsrPkt)
    (pLen : Nat) (altSrt : Option DsrSrt) : Except Fault (Option (Option SentPkt)) :=
  (salvagePacket myaddr dp altSrt).bind fun salvaged =>
    match salvaged, dp.srtOpt with
    | some dp', some oldOpt =>
        match dp'.srt with
        | some srt => .ok (some (xmitWithLength sizes ackReq dp' (salvagePLen pLen oldOpt srt)))
        | none => .error .nullDeref
    | _, _ => .ok none

end SyncFanet.Dsr
