import Mathlib.Data.List.Basic
import Mathlib.Data.Rat.Floor

/-!
# Source routes

`struct dsr_srt`: the nodes of a route from a source to a destination, with the
intermediate ones in a vector whose length in bytes is kept next to it.
-/

set_option autoImplicit false

namespace SyncFanet.Dsr

/-- What the C++ code does not come back from: an exception, a read outside a vector or
through an iterator whose element was erased. -/
inductive Fault where
  | runtimeError (text : String)
  | outOfBounds
  | nullDeref
  | danglingIterator
  | diverges
  deriving DecidableEq, Repr

/-- The 32 bits of `in_addr::s_addr`. -/
abbrev InAddr := Nat

/-- `DSR_ADDRESS_SIZE`. -/
def dsrAddressSize : Nat := 4

/-- `SRT_BIDIR`. -/
def srtBidir : Nat := 1

structure DsrSrt where
  src : InAddr
  dst : InAddr
  flags : Nat
  laddrs : Nat
  addrs : List InAddr
  cost : List Nat
  deriving DecidableEq, Repr

/-- All nodes of a route, in its order. -/
def DsrSrt.nodes (srt : DsrSrt) : List InAddr :=
  srt.src :: srt.addrs ++ [srt.dst]

/-- A read of a vector at an index. -/
def at? {Item : Type} (items : List Item) (index : Nat) : Except Fault Item :=
  match items[index]? with
  | none => .error .outOfBounds
  | some item => .ok item

/-- The same with an index that may be negative. -/
def atInt {Item : Type} (items : List Item) (index : Int) : Except Fault Item :=
  if index < 0 then .error .outOfBounds else at? items index.toNat

namespace DsrSrt

/-- The number of intermediate nodes that the length in bytes gives. -/
def count (srt : DsrSrt) : Nat :=
  srt.laddrs / dsrAddressSize

/-- The test with which the functions on source routes start. -/
def checkSize (srt : DsrSrt) : Except Fault Unit :=
  if srt.count = srt.addrs.length then .ok () else .error (.runtimeError "size mismatch ")

end DsrSrt

/-! ## Hops -/

/-- `dsr_srt_next_hop`. -/
def dsrSrtNextHop (srt : DsrSrt) (sleft : Int) : Except Fault InAddr :=
  if sleft ≤ 0 then .ok srt.dst else atInt srt.addrs (srt.count - sleft)

/-- `dsr_srt_prev_hop`. -/
def dsrSrtPrevHop (srt : DsrSrt) (sleft : Int) : Except Fault InAddr :=
  if (srt.count : Int) - 1 = sleft then .ok srt.src else atInt srt.addrs (srt.count - 2 - sleft)

/-- The loop of `dsr_srt_find_addr`, over the segments that are left. -/
def findAddrAmong (srt : DsrSrt) (addr : InAddr) : Nat → Except Fault Bool
  | 0 => .ok (addr = srt.dst)
  | sleft + 1 =>
      (atInt srt.addrs (srt.count - (sleft + 1))).bind fun hop =>
        if hop = addr then .ok true else findAddrAmong srt addr sleft

/-- `dsr_srt_find_addr`. -/
def dsrSrtFindAddr (srt : DsrSrt) (addr : InAddr) (sleft : Nat) : Except Fault Bool :=
  if srt.count = 0 ∨ sleft > srt.count ∨ sleft < 1 then .ok false
  else findAddrAmong srt addr sleft

/-! ## Building a source route -/

/-- `EtxCost`: the cost of the link to a node. -/
structure EtxCost where
  address : InAddr
  cost : ℚ
  deriving DecidableEq

/-- The conversion of a cost to an unsigned number. -/
def EtxCost.toUnsigned (cost : EtxCost) : Nat :=
  ⌊cost.cost⌋.toNat

def etxMismatch : Fault :=
  .runtimeError "Dsr error, Etx address and dsr are different"

/-- Whether the costs stand for the addresses, one after another. The addresses are read
up to the first that differs. -/
def matchAddresses : List EtxCost → List InAddr → Except Fault Bool
  | [], _ => .ok true
  | _ :: _, [] => .error .outOfBounds
  | cost :: costs, addr :: addrs =>
      if cost.address = addr then matchAddresses costs addrs else .ok false

/-- The costs of all addresses, which have to come in their order. -/
def requireAddresses : List InAddr → List EtxCost → Except Fault Unit
  | [], _ => .ok ()
  | _ :: _, [] => .error .outOfBounds
  | addr :: addrs, cost :: costs =>
      if cost.address = addr then requireAddresses addrs costs else .error etxMismatch

/-- The integrity test of `dsr_srt_new`, with the costs it takes over. -/
def srtCosts (src dst : InAddr) (addrs : List InAddr) (cost : List EtxCost) :
    Except Fault (List Nat) :=
  if cost = [] then .ok []
  else if addrs.length + 1 = cost.length then
    if (cost.map EtxCost.address).take addrs.length = addrs then
      .ok (cost.map EtxCost.toUnsigned)
    else
      let backwards :=
        match cost.getLast? with
        | none => cost.reverse
        | some last =>
            if last.address = src ∨ last.address = dst then cost.reverse.drop 1 else cost.reverse
      (requireAddresses addrs backwards).bind fun _ =>
        .ok (cost.reverse.map EtxCost.toUnsigned)
  else
    match cost.findIdx? fun link => link.address = src with
    | none => .error etxMismatch
    | some j =>
        let backwards := (cost.take j).reverse
        (matchAddresses backwards addrs).bind fun inverse =>
          if inverse then
            .ok (backwards.map EtxCost.toUnsigned ++
              List.replicate (addrs.length + 1 - j) 0)
          else
            (requireAddresses addrs (cost.drop (j + 1))).bind fun _ =>
              if j + 1 + addrs.length < cost.length then
                .ok (((cost.drop (j + 1)).take (addrs.length + 1)).map EtxCost.toUnsigned)
              else .error .outOfBounds

/-- `dsr_srt_new`. -/
def dsrSrtNew (src dst : InAddr) (length : Nat) (addrs : List InAddr) (cost : List EtxCost) :
    Except Fault DsrSrt :=
  (srtCosts src dst addrs cost).bind fun costs =>
    .ok { src := src, dst := dst, flags := srtBidir, laddrs := length, addrs := addrs,
          cost := costs }

/-- `dsr_srt_new_rev`. -/
def dsrSrtNewRev (srt : DsrSrt) : Except Fault DsrSrt :=
  srt.checkSize.bind fun _ =>
    .ok { src := srt.dst, dst := srt.src, flags := srt.flags, laddrs := srt.laddrs,
          addrs := srt.addrs.reverse, cost := srt.cost.reverse }

/-- `dsr_srt_new_split`. -/
def dsrSrtNewSplit (srt : DsrSrt) (addr : InAddr) : Except Fault (Option DsrSrt) :=
  srt.checkSize.bind fun _ =>
    match srt.addrs.findIdx? fun hop => hop = addr with
    | none => .ok none
    | some i =>
        if srt.cost = [] ∨ i < srt.cost.length then
          .ok (some { src := srt.src, dst := addr, flags := srt.flags,
                      laddrs := dsrAddressSize * i, addrs := srt.addrs.take i,
                      cost := srt.cost.take (i + 1) })
        else .error .outOfBounds

/-- `dsr_srt_new_split_rev`. -/
def dsrSrtNewSplitRev (srt : DsrSrt) (addr : InAddr) : Except Fault (Option DsrSrt) :=
  (dsrSrtNewSplit srt addr).bind fun split =>
    match split with
    | none => .ok none
    | some split => (dsrSrtNewRev split).bind fun srt => .ok (some srt)

/-- `dsr_srt_concatenate`. -/
def dsrSrtConcatenate (srt1 srt2 : DsrSrt) : Except Fault DsrSrt :=
  srt1.checkSize.bind fun _ =>
    srt2.checkSize.bind fun _ =>
      .ok { src := srt1.src, dst := srt2.dst, flags := srt1.flags &&& srt2.flags,
            laddrs := (srt1.count + srt2.count + 1) * dsrAddressSize,
            addrs := srt1.addrs ++ srt2.src :: srt2.addrs, cost := [] }

/-- `dsr_srt_check_duplicate`: each address is compared with those before it. -/
def dsrSrtCheckDuplicate (srt : DsrSrt) : Except Fault Bool :=
  let listed := srt.src :: srt.addrs.take srt.count
  if ¬listed.Nodup then .ok true
  else if srt.count ≤ srt.addrs.length then .ok (decide (srt.dst ∈ listed))
  else .error .outOfBounds

/-- `dsr_srt_shortcut`: without the nodes between `a1` and `a2`. -/
def dsrSrtShortcut (srt : DsrSrt) (a1 a2 : InAddr) : Except Fault DsrSrt :=
  srt.checkSize.bind fun _ =>
    let n := srt.addrs.length
    -- the last position of an address among the nodes
    let position (addr : InAddr) (initial : Int) : Int :=
      srt.addrs.zipIdx.foldl (fun found entry => if entry.1 = addr then entry.2 + 1 else found)
        initial
    let a1Num := position a1 (if srt.src = a1 then 0 else -1)
    let a2Num := if srt.dst = a2 then (n : Int) + 1 else position a2 (-1)
    let nCut : Int := n - (a2Num - a1Num - 1)
    let kept {Item : Type} (items : List Item) : List Item :=
      (items.zipIdx.filter fun entry =>
        ¬((entry.2 : Int) + 1 > a1Num ∧ (entry.2 : Int) + 1 < a2Num)).map Prod.fst
    if nCut = 0 then
      .ok { src := srt.src, dst := srt.dst, flags := srt.flags, laddrs := 0, addrs := [],
            cost := [] }
    else if (kept srt.addrs).length = nCut then
      .ok { src := srt.src, dst := srt.dst, flags := srt.flags,
            laddrs := nCut.toNat * dsrAddressSize, addrs := kept srt.addrs, cost := kept srt.cost }
    else .error (.runtimeError "DSR src cut error ")

/-! ## Splitting an overheard route -/

/-- One step of the loop that takes this node out of the route to the destination. -/
def cutToDest (me : InAddr) (cost : List Nat) (size : Nat) (srt : DsrSrt) (k : Nat) :
    Except Fault DsrSrt :=
  (at? srt.addrs k).bind fun hop =>
    if hop = me then
      if cost ≠ [] ∨ srt.addrs.length < size then .error .outOfBounds
      else .ok { srt with addrs := srt.addrs.drop (k + 1)
                          laddrs := dsrAddressSize * (size - (k + 1)) }
    else .ok srt

/-- The elements after an index moved to the front of the first `size`. -/
def moveUp {Item : Type} (items : List Item) (size k : Nat) : List Item :=
  (items.take size).drop (k + 1) ++ items.drop (size - (k + 1))

/-- One step of the loop that takes this node out of the route to the source. -/
def cutToSrc (me : InAddr) (size : Nat) (srt : DsrSrt) (k : Nat) : Except Fault DsrSrt :=
  (at? srt.addrs k).bind fun hop =>
    if hop = me then
      (if srt.cost = [] then .ok []
        else (at? srt.cost size).bind fun last =>
          .ok ((moveUp srt.cost size k).set (size - (k + 1)) last)).bind fun cost =>
        .ok { srt with addrs := moveUp srt.addrs size k
                       cost := cost
                       laddrs := dsrAddressSize * (size - (k + 1)) }
    else .ok srt

/-- The part of `dsr_srt_split_both` for the destination, with the position `l` at which
the route is split. -/
def splitToDest (srt : DsrSrt) (addr me : InAddr) (l : Int) : Except Fault (Option DsrSrt) :=
  let size := ((srt.addrs.length : Int) - l - 1).toNat
  if size = 0 then .ok none
  else
    let towards : DsrSrt :=
      if addr = srt.src ∧ addr ≠ me then
        { src := me, dst := srt.dst, flags := srt.flags, laddrs := dsrAddressSize * size,
          addrs := srt.src :: srt.addrs, cost := if srt.cost = [] then [] else 1 :: srt.cost }
      else
        { src := me, dst := srt.dst, flags := srt.flags, laddrs := dsrAddressSize * size,
          addrs := srt.addrs.drop (l + 1).toNat, cost := srt.cost.drop (l + 1).toNat }
    ((List.range size).foldlM (cutToDest me srt.cost size) towards).bind fun srt => .ok (some srt)

/-- The part of `dsr_srt_split_both` for the source. -/
def splitToSrc (srt : DsrSrt) (me : InAddr) (size : Nat) : Except Fault (Option DsrSrt) :=
  if size = 0 then .ok none
  else
    ((List.range size).mapM fun k : Nat => atInt srt.addrs ((size : Int) - k - 1)).bind fun addrs =>
      (if srt.cost = [] then .ok []
        else ((List.range size).mapM fun k : Nat => atInt srt.cost ((size : Int) - k)).bind fun costs =>
          (at? srt.cost 0).bind fun first => .ok (costs ++ [first])).bind fun cost =>
        ((List.range size).foldlM (cutToSrc me size)
          { src := me, dst := srt.src, flags := srt.flags, laddrs := dsrAddressSize * size,
            addrs := addrs, cost := cost }).bind fun srt => .ok (some srt)

/-- `dsr_srt_split_both`: the routes of the node `me` to the destination and to the source,
where the route is split at `addr`. -/
def dsrSrtSplitBoth (srt : DsrSrt) (addr me : InAddr) :
    Except Fault (Option DsrSrt × Option DsrSrt) :=
  srt.checkSize.bind fun _ =>
    let n := srt.addrs.length
    if n = 0 then .ok (none, none)
    else if addr = srt.src then
      (splitToDest srt addr me (if addr ≠ me then -2 else -1)).bind fun toDest =>
        .ok (toDest, none)
    else if addr = srt.dst then
      if me ∈ srt.addrs then .ok (none, none)
      else
        (splitToDest srt addr me (n + 1)).bind fun toDest =>
          (splitToSrc srt me (if me = srt.dst then n else n + 1)).bind fun toSrc =>
            .ok (toDest, toSrc)
    else
      match srt.addrs.findIdx? fun hop => addr = hop with
      | none => .ok (none, none)
      | some i =>
          (splitToDest srt addr me (if addr ≠ me then (i : Int) - 1 else i)).bind fun toDest =>
            (splitToSrc srt me
              (if me = srt.dst then n else if addr ≠ me then i + 1 else i)).bind fun toSrc =>
              .ok (toDest, toSrc)

end SyncFanet.Dsr
