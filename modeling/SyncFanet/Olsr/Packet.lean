import Mathlib.Algebra.Order.Ring.Int
import Mathlib.Tactic.Positivity
import Mathlib.Tactic.Ring

/-!
# OLSR constants and message format

Protocol constants, validity times and the packet contents of `OLSRpkt.msg`.
The fixed arrays with a `count` beside them are lists. Times are in the
picoseconds of the simulator's fixed-point clock.
-/

set_option autoImplicit false

namespace SyncFanet

/-- Node and interface addresses; OLSR only compares them. -/
abbrev NsAddr := Nat

def Time.second : Int := 1000000000000

/-- The microsecond that `DELAY` and `DELAY_T` add to every deadline. -/
def Time.microsecond : Int := 1000000

namespace Olsr

/-! ## Constants -/

def asymLink : Nat := 1
def symLink : Nat := 2
def lostLink : Nat := 3

def notNeigh : Nat := 0
def symNeigh : Nat := 1
def mprNeigh : Nat := 2

def willNever : Nat := 0
def willDefault : Nat := 3
def willAlways : Nat := 7

def maxSeqNum : Nat := 65535
def maxMsgs : Nat := 4
def maxHellos : Nat := 12
def maxAddrs : Nat := 64

def pktHdrSize : Nat := 4
def helloHdrSize : Nat := 4
def helloMsgHdrSize : Nat := 4
def tcHdrSize : Nat := 4

/-- Eight bytes and one address, of four bytes above IP and six in the MAC layer. -/
def msgHdrSize (addrSize : Nat) : Nat := 8 + addrSize

/-- A duplicate tuple is held for thirty seconds. -/
def dupHoldTime : Int := 30 * Time.second

/-! ## Validity times -/

/-- `emf_to_seconds`: the scaling factor 0.0625 s times `1 + a/16` times `2^b`.
A 256th of a second is a whole number of picoseconds, so this is exact. -/
def emfToSeconds (olsrFormat : Nat) : Int :=
  let a := olsrFormat >>> 4
  let b := olsrFormat - a * 16
  (Time.second / 256) * ((16 + a : Nat) : Int) * ((2 ^ b : Nat) : Int)

theorem emfToSeconds_pos (olsrFormat : Nat) : 0 < emfToSeconds olsrFormat := by
  have unit : 0 < Time.second / 256 := by decide
  unfold emfToSeconds
  positivity

/-! ## Messages -/

/-- One link-code group of a HELLO. -/
structure HelloMsg where
  linkCode : Nat
  nbIfaceAddrs : List NsAddr
  deriving DecidableEq, Repr

/-- Link type in the two low bits of a link code. -/
def HelloMsg.linkType (helloMsg : HelloMsg) : Nat := helloMsg.linkCode &&& 0x03

/-- Neighbor type in the bits above the link type. -/
def HelloMsg.nbType (helloMsg : HelloMsg) : Nat := helloMsg.linkCode >>> 2

structure Hello where
  htime : Nat
  willingness : Nat
  helloMsgs : List HelloMsg
  deriving DecidableEq, Repr

structure Tc where
  ansn : Nat
  nbMainAddrs : List NsAddr
  deriving DecidableEq, Repr

structure Mid where
  ifaceAddrs : List NsAddr
  deriving DecidableEq, Repr

/-- The body selected by the message type. -/
inductive MsgBody where
  | hello (hello : Hello)
  | tc (tc : Tc)
  | mid (mid : Mid)
  | other (msgType : Nat)
  deriving DecidableEq, Repr

structure Msg where
  vtime : Nat
  origAddr : NsAddr
  ttl : Nat
  hopCount : Nat
  msgSeqNum : Nat
  body : MsgBody
  deriving DecidableEq, Repr

structure Pkt where
  pktSeqNum : Nat
  msgs : List Msg
  deriving DecidableEq, Repr

def HelloMsg.size (addrSize : Nat) (helloMsg : HelloMsg) : Nat :=
  helloMsgHdrSize + helloMsg.nbIfaceAddrs.length * addrSize

def Hello.size (addrSize : Nat) (hello : Hello) : Nat :=
  helloHdrSize + (hello.helloMsgs.map (HelloMsg.size addrSize)).sum

def Tc.size (addrSize : Nat) (tc : Tc) : Nat :=
  tcHdrSize + tc.nbMainAddrs.length * addrSize

def Mid.size (addrSize : Nat) (mid : Mid) : Nat :=
  mid.ifaceAddrs.length * addrSize

def Msg.size (addrSize : Nat) (msg : Msg) : Nat :=
  msgHdrSize addrSize +
    match msg.body with
    | .hello hello => hello.size addrSize
    | .tc tc => tc.size addrSize
    | .mid mid => mid.size addrSize
    | .other _ => 0

/-- The byte length that `send_pkt` gives a packet. -/
def Pkt.byteLength (addrSize : Nat) (pkt : Pkt) : Nat :=
  pktHdrSize + (pkt.msgs.map (Msg.size addrSize)).sum

theorem Pkt.byteLength_lt_iff (addrSize : Nat) (pkt : Pkt) :
    pkt.byteLength addrSize < pktHdrSize + msgHdrSize addrSize ↔
      pkt.msgs = [] := by
  cases contents : pkt.msgs with
  | nil => simp [Pkt.byteLength, contents, msgHdrSize]
  | cons msg rest =>
      have header : msgHdrSize addrSize ≤ msg.size addrSize := by
        simp [Msg.size]
      simp only [Pkt.byteLength, contents, List.map_cons, List.sum_cons, reduceCtorEq,
        iff_false, not_lt]
      omega

end Olsr
end SyncFanet
