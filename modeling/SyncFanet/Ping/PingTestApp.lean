import Mathlib.Data.Rat.Defs

/-!
# PingTestApp

The ping application: its self message, the replies it counts, the statistics it records
and what shutdowns and restarts of the node do to it. Times are picoseconds.
-/

set_option autoImplicit false

namespace SyncFanet.Ping

/-- An address, or the unspecified one. -/
abbrev L3Address : Type := Option Nat

/-- `PingSelfKinds`. -/
inductive PingSelfKind where
  | firstAddr
  | changeAddr
  | send
  deriving DecidableEq, Repr

inductive PingFault where
  | downSelfMessage
  | assertFailed (condition : String)
  deriving DecidableEq, Repr

def pingHistorySize : Nat := 100

structure PingParams where
  destAddr : String
  count : ℚ
  startTime : Int
  stopTime : Int
  continuous : Bool

structure PingTestApp where
  destAddresses : List L3Address
  destAddrIdx : Int
  srcAddr : L3Address
  destAddr : L3Address
  pid : Int
  timerKind : PingSelfKind
  timer : Option Int
  lastStart : Int
  sendSeqNo : Nat
  expectedReplySeqNo : Nat
  sendTimeHistory : List Int
  rttStat : List Int
  sentCount : Nat
  lossCount : Int
  outOfOrderArrivalCount : Nat
  numPongs : Nat
  deriving DecidableEq

structure PingPayload where
  originatorId : Int
  seqNo : Nat
  deriving DecidableEq

namespace PingTestApp

/-- The state after the local initialization stage. -/
def initialized : PingTestApp where
  destAddresses := []
  destAddrIdx := -1
  srcAddr := none
  destAddr := none
  pid := -1
  timerKind := .firstAddr
  timer := none
  lastStart := -1
  sendSeqNo := 0
  expectedReplySeqNo := 0
  sendTimeHistory := List.replicate pingHistorySize 0
  rttStat := []
  sentCount := 0
  lossCount := 0
  outOfOrderArrivalCount := 0
  numPongs := 0

def isEnabled (params : PingParams) (app : PingTestApp) : Bool :=
  params.destAddr ≠ "" ∧ (params.count = -1 ∨ (app.sentCount : ℚ) < params.count)

/-- `scheduleNextPingRequest`; a negative previous time is one that does not exist. -/
def scheduleNextPingRequest (params : PingParams) (now previous : Int) (withSleep : Bool)
    (sendInterval sleepDuration : Int) (app : PingTestApp) : PingTestApp :=
  let next :=
    if previous < 0 then
      if now ≤ params.startTime then params.startTime else now
    else if withSleep then previous + sendInterval + sleepDuration
    else previous + sendInterval
  if params.stopTime < 0 ∨ next < params.stopTime then { app with timer := some next } else app

/-- `startSendingPingRequests`, with the unique number that the simulation gives. -/
def startSendingPingRequests (params : PingParams) (now uniqueNumber : Int)
    (app : PingTestApp) : Except PingFault PingTestApp :=
  if app.timer.isSome then .error (.assertFailed "!timer->isScheduled()")
  else
    .ok ({ app with
      pid := uniqueNumber
      lastStart := now
      timerKind := .firstAddr
      sentCount := 0
      sendSeqNo := 0 }.scheduleNextPingRequest params now (-1) false 0 0)

def stopSendingPingRequests (app : PingTestApp) : PingTestApp :=
  { app with
    pid := -1
    lastStart := -1
    sendSeqNo := 0
    expectedReplySeqNo := 0
    srcAddr := none
    destAddr := none
    destAddresses := []
    destAddrIdx := -1
    timer := none }

def sendPing (now : Int) (app : PingTestApp) : Except PingFault (PingTestApp × PingPayload) :=
  if app.pid = -1 then .error (.assertFailed "pid != -1")
  else
    .ok ({ app with
        sendTimeHistory := app.sendTimeHistory.set (app.sendSeqNo % pingHistorySize) now
        sendSeqNo := app.sendSeqNo + 1
        sentCount := app.sentCount + 1 },
      { originatorId := app.pid, seqNo := app.sendSeqNo })

/-- The first self message resolves the addresses. -/
def resolveAddrs (srcAddr : L3Address) (resolved : List L3Address) (app : PingTestApp) :
    PingTestApp :=
  if app.timerKind = .firstAddr then
    let app := { app with
      srcAddr := srcAddr
      destAddresses := app.destAddresses ++ resolved }
    if app.destAddresses = [] then app
    else { app with destAddrIdx := 0, timerKind := .changeAddr }
  else app

/-- The next destination, where there is one to choose. -/
def chooseAddr (app : PingTestApp) : Except PingFault PingTestApp :=
  if app.timerKind = .changeAddr ∧ app.destAddrIdx < app.destAddresses.length then
    let destAddr := (app.destAddresses[app.destAddrIdx.toNat]?).getD none
    if destAddr = none then .error (.assertFailed "!destAddr.isUnspecified()")
    else .ok { app with destAddr := destAddr, timerKind := .send }
  else .ok app

def advanceAddr (params : PingParams) (app : PingTestApp) : PingTestApp :=
  if 1 < app.destAddresses.length then
    let next := app.destAddrIdx + 1
    { app with
      timerKind := .changeAddr
      destAddrIdx :=
        if app.destAddresses.length ≤ next ∧ params.continuous then
          next % app.destAddresses.length
        else next }
  else app

/-- `handleMessage` of the self message. It sends nothing when there is no destination, or
none left. -/
def handleSelfMessage (params : PingParams) (now : Int) (srcAddr : L3Address)
    (resolved : List L3Address) (sendInterval sleepDuration : Int) (app : PingTestApp) :
    Except PingFault (PingTestApp × Option PingPayload) :=
  (resolveAddrs srcAddr resolved { app with timer := none }).chooseAddr.bind fun app =>
    if app.timerKind = .send then
      (app.sendPing now).bind fun sent =>
        let app := sent.1.advanceAddr params
        .ok (app.scheduleNextPingRequest params now now (app.timerKind = .changeAddr)
          sendInterval sleepDuration, some sent.2)
    else .ok (app, none)

def countPingResponse (seqNo : Nat) (rtt : Int) (app : PingTestApp) : PingTestApp :=
  let app := { app with
    numPongs := app.numPongs + 1
    rttStat := if rtt > 0 then app.rttStat ++ [rtt] else app.rttStat }
  if seqNo = app.expectedReplySeqNo then
    { app with expectedReplySeqNo := app.expectedReplySeqNo + 1 }
  else if seqNo > app.expectedReplySeqNo then
    let jump : Int := seqNo - app.expectedReplySeqNo
    { app with
      lossCount := app.lossCount + jump
      expectedReplySeqNo := seqNo + 1 }
  else
    { app with
      outOfOrderArrivalCount := app.outOfOrderArrivalCount + 1
      lossCount := app.lossCount - 1 }

/-- The round-trip time, or 0 when the time of sending was overwritten. -/
def rttOf (now : Int) (seqNo : Nat) (app : PingTestApp) : Int :=
  if (app.sendSeqNo : Int) - seqNo > pingHistorySize then 0
  else now - app.sendTimeHistory.getD (seqNo % pingHistorySize) 0

def processPingResponse (now : Int) (msg : PingPayload) (app : PingTestApp) : PingTestApp :=
  if msg.originatorId ≠ app.pid then app
  else app.countPingResponse msg.seqNo (app.rttOf now msg.seqNo)

/-- The loss count that `finish` leaves. -/
def finishedLossCount (app : PingTestApp) : Int :=
  if app.sendSeqNo = 0 then app.lossCount
  else app.lossCount + (app.sendSeqNo - app.expectedReplySeqNo)

/-- The ping loss rate, in percent, if `finish` records one. -/
def recordedLossRate (app : PingTestApp) : Option ℚ :=
  if app.sendSeqNo = 0 then none
  else some (100 * app.finishedLossCount / app.sendSeqNo)

end PingTestApp

end SyncFanet.Ping
