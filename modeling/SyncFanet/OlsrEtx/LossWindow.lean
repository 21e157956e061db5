import Mathlib.Data.Nat.Bitwise
import SyncFanet.Library.Fold
import SyncFanet.Library.Ring
import SyncFanet.OlsrEtx.LinkSensing

/-!
# What the loss window counts

The loss window is a ring of the last packets: bit by bit it holds which of them were
lost, and its counters are the counts of this ring. The bytes in which the source keeps
the bits are related to the bits of `LossWindow` here as well.
-/

set_option autoImplicit false

namespace SyncFanet.OlsrEtx

/-! ## Bytes -/

/-- The link quality fields with `loss_bitmap_` as the source has it. -/
structure ByteWindow where
  lossBitmap : List (BitVec 8)
  lossSeqno : Nat
  lossIndex : Nat
  lossWindowSize : Nat
  lostPackets : Int
  totalPackets : Int
  lossMissedHellos : Nat
  nextHello : Int
  helloIval : Int
  linkQuality : ℚ
  nbLinkQuality : ℚ
  etx : ℚ
  deriving DecidableEq

/-- `link_quality_init`. -/
def linkQualityInitBytes (seqno lossWindowSize : Nat) : ByteWindow where
  lossBitmap := List.replicate 16 0
  lossSeqno := seqno
  lossIndex := 0
  lossWindowSize := lossWindowSize
  lostPackets := 0
  totalPackets := 0
  lossMissedHellos := 0
  nextHello := 0
  helloIval := 0
  linkQuality := 0
  nbLinkQuality := 0
  etx := 0

def bitOf (bytes : List (BitVec 8)) (position : Nat) : Bool :=
  (bytes.getD (position / 8) 0).getLsbD (position % 8)

def bitsOf (bytes : List (BitVec 8)) : List Bool :=
  (List.range (8 * bytes.length)).map (bitOf bytes)

namespace ByteWindow

def mask (window : ByteWindow) : BitVec 8 := 1#8 <<< (window.lossIndex &&& 7)

def index (window : ByteWindow) : Nat := window.lossIndex >>> 3

/-- The first half of `process_packet`. -/
def markPacket (received : Bool) (window : ByteWindow) : ByteWindow :=
  let byte := window.lossBitmap.getD window.index 0
  if received then
    if byte &&& window.mask ≠ 0 then
      { window with
        lossBitmap := window.lossBitmap.set window.index (byte &&& ~~~ window.mask)
        lostPackets := window.lostPackets - 1 }
    else window
  else if byte &&& window.mask = 0 then
    { window with
      lossBitmap := window.lossBitmap.set window.index (byte ||| window.mask)
      lostPackets := window.lostPackets + 1 }
  else window

/-- `process_packet`. -/
def processPacket (behaviour : LinkQuality) (now : Int) (received : Bool) (htime : Int)
    (window : ByteWindow) : ByteWindow :=
  let marked := window.markPacket received
  let timed :=
    if received then { marked with helloIval := htime, nextHello := now + htime } else marked
  let total :=
    if timed.totalPackets < timed.lossWindowSize then timed.totalPackets + 1
    else timed.totalPackets
  let quality : ℚ := (total - timed.lostPackets : ℚ) / (timed.lossWindowSize : ℚ)
  { timed with
    lossIndex := (timed.lossIndex + 1) % timed.lossWindowSize
    totalPackets := total
    linkQuality := quality
    etx := etxOf behaviour (quality * timed.nbLinkQuality) }

def bits (window : ByteWindow) : LossWindow where
  lossBitmap := bitsOf window.lossBitmap
  lossSeqno := window.lossSeqno
  lossIndex := window.lossIndex
  lossWindowSize := window.lossWindowSize
  lostPackets := window.lostPackets
  totalPackets := window.totalPackets
  lossMissedHellos := window.lossMissedHellos
  nextHello := window.nextHello
  helloIval := window.helloIval
  linkQuality := window.linkQuality
  nbLinkQuality := window.nbLinkQuality
  etx := window.etx

end ByteWindow

@[simp] theorem length_bitsOf (bytes : List (BitVec 8)) :
    (bitsOf bytes).length = 8 * bytes.length := by
  simp [bitsOf]

theorem getD_bitsOf {bytes : List (BitVec 8)} {position : Nat}
    (inside : position < 8 * bytes.length) :
    (bitsOf bytes).getD position false = bitOf bytes position := by
  simp [bitsOf, inside]

theorem bitsOf_set {bytes : List (BitVec 8)} {position : Nat} {byte : BitVec 8} (bit : Bool)
    (inside : position < 8 * bytes.length)
    (written : ∀ other, other < 8 → byte.getLsbD other =
      if other = position % 8 then bit else (bytes.getD (position / 8) 0).getLsbD other) :
    bitsOf (bytes.set (position / 8) byte) = (bitsOf bytes).set position bit := by
  have slot : position / 8 < bytes.length := by omega
  apply List.ext_getElem (by simp)
  intro other within _
  simp only [bitsOf, List.length_map, List.length_range, List.length_set] at within
  simp only [bitsOf, List.getElem_map, List.getElem_range, List.getElem_set, bitOf,
    List.getD_eq_getElem?_getD, List.getElem?_set]
  by_cases sameByte : position / 8 = other / 8
  · have place := written (other % 8) (Nat.mod_lt _ (by decide))
    have otherSlot : other / 8 < bytes.length := by omega
    rw [sameByte] at place
    by_cases same : position = other
    · subst same
      simp [slot, place]
    · have elsewhere : other % 8 ≠ position % 8 := by omega
      simp [sameByte, otherSlot, same, place, elsewhere]
  · have different : position ≠ other := by
      intro same
      exact sameByte (by rw [same])
    simp [sameByte, different]

/-! ## The byte at the index -/

section Mask

variable {window : ByteWindow}

theorem ByteWindow.index_eq : window.index = window.lossIndex / 8 := by
  simp [ByteWindow.index, Nat.shiftRight_eq_div_pow]

theorem ByteWindow.mask_eq : window.mask = BitVec.twoPow 8 (window.lossIndex % 8) := by
  have low : window.lossIndex &&& 7 = window.lossIndex % 8 :=
    Nat.and_two_pow_sub_one_eq_mod window.lossIndex 3
  rw [ByteWindow.mask, low, BitVec.twoPow_eq]

theorem ByteWindow.masked_iff (byte : BitVec 8) :
    byte &&& window.mask ≠ 0 ↔ byte.getLsbD (window.lossIndex % 8) = true := by
  have place : window.lossIndex % 8 < 8 := Nat.mod_lt _ (by decide)
  have nonzero : BitVec.twoPow 8 (window.lossIndex % 8) ≠ 0 := by
    intro zero
    have bit := congrArg (fun byte => byte.getLsbD (window.lossIndex % 8)) zero
    simp [place] at bit
  rw [ByteWindow.mask_eq, BitVec.and_twoPow]
  cases byte.getLsbD (window.lossIndex % 8) with
  | false => simp
  | true => simpa using nonzero

theorem ByteWindow.getLsbD_clear (byte : BitVec 8) {place : Nat} (inside : place < 8) :
    (byte &&& ~~~ window.mask).getLsbD place =
      if place = window.lossIndex % 8 then false else byte.getLsbD place := by
  have low : window.lossIndex % 8 < 8 := Nat.mod_lt _ (by decide)
  rw [ByteWindow.mask_eq]
  by_cases same : place = window.lossIndex % 8
  · simp [same, low]
  · simp [same, inside]

theorem ByteWindow.getLsbD_set (byte : BitVec 8) {place : Nat} (inside : place < 8) :
    (byte ||| window.mask).getLsbD place =
      if place = window.lossIndex % 8 then true else byte.getLsbD place := by
  have low : window.lossIndex % 8 < 8 := Nat.mod_lt _ (by decide)
  rw [ByteWindow.mask_eq]
  by_cases same : place = window.lossIndex % 8
  · simp [same, low]
  · simp [same, inside]

end Mask

theorem ByteWindow.bits_markPacket (received : Bool) {window : ByteWindow}
    (inside : window.lossIndex < 8 * window.lossBitmap.length) :
    (window.markPacket received).bits = window.bits.markPacket received := by
  have old : window.bits.lossBitmap.getD window.bits.lossIndex false =
      (window.lossBitmap.getD window.index 0).getLsbD (window.lossIndex % 8) := by
    rw [ByteWindow.index_eq]
    exact getD_bitsOf inside
  unfold markPacket LossWindow.markPacket
  rw [old]
  cases lost : (window.lossBitmap.getD window.index 0).getLsbD (window.lossIndex % 8) with
  | false =>
      have masked := (not_congr (window.masked_iff _)).mpr (Bool.eq_false_iff.mp lost)
      rw [not_not] at masked
      cases received with
      | true => simp only [masked, ne_eq, not_true_eq_false, if_true, if_false, reduceCtorEq]
      | false =>
          have written := bitsOf_set true inside fun place within =>
            window.getLsbD_set _ within
          rw [← ByteWindow.index_eq] at written
          simp only [masked, if_true, if_false, reduceCtorEq, bits, written, Bool.not_false]
  | true =>
      have masked := (window.masked_iff _).mpr lost
      cases received with
      | true =>
          have written := bitsOf_set false inside fun place within =>
            window.getLsbD_clear _ within
          rw [← ByteWindow.index_eq] at written
          simp only [masked, ne_eq, not_false_eq_true, if_true, bits, written, Bool.not_true]
      | false => simp only [masked, if_false, reduceCtorEq]

theorem ByteWindow.bits_processPacket (behaviour : LinkQuality) (now : Int) (received : Bool)
    (htime : Int) {window : ByteWindow}
    (inside : window.lossIndex < 8 * window.lossBitmap.length) :
    (window.processPacket behaviour now received htime).bits =
      window.bits.processPacket behaviour now received htime := by
  unfold processPacket LossWindow.processPacket
  rw [← window.bits_markPacket received inside]
  cases received <;> rfl

theorem bits_linkQualityInitBytes (seqno lossWindowSize : Nat) :
    (linkQualityInitBytes seqno lossWindowSize).bits = linkQualityInit seqno lossWindowSize := by
  have clear : bitsOf (List.replicate 16 0) = List.replicate 128 false := by decide
  simp only [ByteWindow.bits, linkQualityInitBytes, linkQualityInit, clear]

/-! ## What a packet writes -/

namespace LossWindow

variable (behaviour : LinkQuality) (now : Int) (received : Bool) (htime : Int)
  (window : LossWindow)

theorem markPacket_frame :
    window.markPacket received =
      { window with
        lossBitmap := (window.markPacket received).lossBitmap
        lostPackets := (window.markPacket received).lostPackets } := by
  by_cases flipped : received = window.lossBitmap.getD window.lossIndex false
  · rw [markPacket, if_pos flipped]
  · rw [markPacket, if_neg flipped]

@[simp] theorem markPacket_lossWindowSize :
    (window.markPacket received).lossWindowSize = window.lossWindowSize := by
  rw [markPacket_frame]

@[simp] theorem markPacket_lossIndex :
    (window.markPacket received).lossIndex = window.lossIndex := by
  rw [markPacket_frame]

@[simp] theorem markPacket_totalPackets :
    (window.markPacket received).totalPackets = window.totalPackets := by
  rw [markPacket_frame]

@[simp] theorem markPacket_lossSeqno :
    (window.markPacket received).lossSeqno = window.lossSeqno := by
  rw [markPacket_frame]

@[simp] theorem markPacket_lossMissedHellos :
    (window.markPacket received).lossMissedHellos = window.lossMissedHellos := by
  rw [markPacket_frame]

@[simp] theorem markPacket_nbLinkQuality :
    (window.markPacket received).nbLinkQuality = window.nbLinkQuality := by
  rw [markPacket_frame]

@[simp] theorem processPacket_lossBitmap :
    (window.processPacket behaviour now received htime).lossBitmap =
      (window.markPacket received).lossBitmap := by
  cases received <;> rfl

@[simp] theorem processPacket_lostPackets :
    (window.processPacket behaviour now received htime).lostPackets =
      (window.markPacket received).lostPackets := by
  cases received <;> rfl

@[simp] theorem processPacket_lossWindowSize :
    (window.processPacket behaviour now received htime).lossWindowSize =
      window.lossWindowSize := by
  rw [← markPacket_lossWindowSize received window]
  cases received <;> rfl

@[simp] theorem processPacket_lossIndex :
    (window.processPacket behaviour now received htime).lossIndex =
      (window.lossIndex + 1) % window.lossWindowSize := by
  rw [← markPacket_lossWindowSize received window, ← markPacket_lossIndex received window]
  cases received <;> rfl

@[simp] theorem processPacket_totalPackets :
    (window.processPacket behaviour now received htime).totalPackets =
      if window.totalPackets < window.lossWindowSize then window.totalPackets + 1
      else window.totalPackets := by
  rw [← markPacket_lossWindowSize received window, ← markPacket_totalPackets received window]
  cases received <;> rfl

@[simp] theorem processPacket_lossSeqno :
    (window.processPacket behaviour now received htime).lossSeqno = window.lossSeqno := by
  rw [← markPacket_lossSeqno received window]
  cases received <;> rfl

@[simp] theorem processPacket_lossMissedHellos :
    (window.processPacket behaviour now received htime).lossMissedHellos =
      window.lossMissedHellos := by
  rw [← markPacket_lossMissedHellos received window]
  cases received <;> rfl

@[simp] theorem processPacket_nbLinkQuality :
    (window.processPacket behaviour now received htime).nbLinkQuality =
      window.nbLinkQuality := by
  rw [← markPacket_nbLinkQuality received window]
  cases received <;> rfl

theorem processPacket_linkQuality :
    (window.processPacket behaviour now received htime).linkQuality =
      ((window.processPacket behaviour now received htime).totalPackets -
        (window.processPacket behaviour now received htime).lostPackets : ℚ) /
          (window.processPacket behaviour now received htime).lossWindowSize := by
  cases received <;> rfl

theorem markPacket_lossBitmap (inside : window.lossIndex < window.lossBitmap.length) :
    (window.markPacket received).lossBitmap =
      window.lossBitmap.set window.lossIndex (!received) := by
  have read : window.lossBitmap.getD window.lossIndex false =
      window.lossBitmap[window.lossIndex] := by simp [inside]
  by_cases flipped : received = window.lossBitmap.getD window.lossIndex false
  · rw [markPacket, if_pos flipped]
  · have old : window.lossBitmap[window.lossIndex] = !received := by
      rw [read] at flipped
      cases received <;> simpa using flipped
    rw [markPacket, if_neg flipped, ← old, List.set_getElem_self]

end LossWindow

/-! ## The ring of losses -/

/-- The window is the ring of the packets that were lost, of which `handled` were counted
so far. -/
structure LossWindow.Holds (window : LossWindow) (ring : Ring Bool) (handled : Nat) : Prop where
  room : window.lossWindowSize ≤ window.lossBitmap.length
  slots : window.lossBitmap.take window.lossWindowSize = ring.slots
  index : window.lossIndex = ring.next
  lost : window.lostPackets = ring.slots.count true
  total : window.totalPackets = min handled window.lossWindowSize
  quality : window.linkQuality =
    (window.totalPackets - window.lostPackets : ℚ) / window.lossWindowSize

namespace LossWindow.Holds

variable {window : LossWindow} {ring : Ring Bool} {handled : Nat}

theorem size (holds : window.Holds ring handled) : ring.slots.length = window.lossWindowSize := by
  rw [← holds.slots, List.length_take, min_eq_left holds.room]

theorem inside (holds : window.Holds ring handled) :
    window.lossIndex < window.lossWindowSize := by
  rw [holds.index, ← holds.size]
  exact ring.inside

theorem bit (holds : window.Holds ring handled) :
    window.lossBitmap.getD window.lossIndex false = ring.oldest := by
  have written : ring.next < window.lossWindowSize := by
    rw [← holds.index]
    exact holds.inside
  have stored : ring.next < window.lossBitmap.length := lt_of_lt_of_le written holds.room
  simp [holds.index, Ring.oldest, ← holds.slots, stored]

theorem start (seqno : Nat) {size : Nat} (positive : 0 < size) (small : size ≤ 128) :
    (linkQualityInit seqno size).Holds (Ring.blank size false positive) 0 where
  room := by simpa [linkQualityInit] using small
  slots := by
    simp only [linkQualityInit, List.take_replicate, min_eq_left small, Ring.blank_slots]
  index := rfl
  lost := by simp [linkQualityInit, List.count_replicate]
  total := by simp [linkQualityInit]
  quality := by simp [linkQualityInit]

/-- The count of losses goes down with the loss that leaves the ring and up with the one
that comes. -/
theorem count_write (ring : Ring Bool) (loss : Bool) :
    ((ring.write loss).slots.count true : Int) =
      ring.slots.count true - (if ring.oldest then 1 else 0) +
        (if loss then 1 else 0) := by
  have counted := @List.count_set _ _ loss true ring.slots _ ring.inside
  have leaves : ring.oldest = true → 0 < ring.slots.count true := by
    intro lost
    exact List.count_pos_iff.mpr (lost ▸ List.getElem_mem ring.inside)
  rw [Ring.write_slots, counted]
  change ((_ - (if (ring.oldest == true) = true then 1 else 0) + _ : Nat) : Int) = _
  cases old : ring.oldest with
  | false => cases loss <;> simp
  | true =>
      have positive := leaves old
      cases loss <;> simp <;> omega

theorem lost_markPacket (received : Bool) (holds : window.Holds ring handled) :
    (window.markPacket received).lostPackets = (ring.write (!received)).slots.count true := by
  rw [count_write, ← holds.bit, ← holds.lost]
  unfold LossWindow.markPacket
  cases window.lossBitmap.getD window.lossIndex false <;> cases received <;> simp

theorem processPacket (holds : window.Holds ring handled) (behaviour : LinkQuality) (now : Int)
    (received : Bool) (htime : Int) :
    (window.processPacket behaviour now received htime).Holds (ring.write (!received))
      (handled + 1) := by
  have within := lt_of_lt_of_le holds.inside holds.room
  constructor
  · simpa [LossWindow.markPacket_lossBitmap received window within] using holds.room
  · rw [LossWindow.processPacket_lossWindowSize, LossWindow.processPacket_lossBitmap,
      LossWindow.markPacket_lossBitmap received window within, List.take_set, holds.slots,
      holds.index, Ring.write_slots]
  · rw [LossWindow.processPacket_lossIndex, Ring.write_next, holds.index, holds.size]
  · rw [LossWindow.processPacket_lostPackets, lost_markPacket received holds]
  · rw [LossWindow.processPacket_totalPackets, LossWindow.processPacket_lossWindowSize,
      holds.total]
    split <;> omega
  · exact LossWindow.processPacket_linkQuality behaviour now received htime window

end LossWindow.Holds

/-! ## Runs -/

/-- A call of `process_packet`. -/
structure Outcome where
  now : Int
  received : Bool
  htime : Int
  deriving DecidableEq

def ByteWindow.processPackets (behaviour : LinkQuality) (outcomes : List Outcome)
    (window : ByteWindow) : ByteWindow :=
  outcomes.foldl (fun window outcome =>
    window.processPacket behaviour outcome.now outcome.received outcome.htime) window

def lossRing {size : Nat} (positive : 0 < size) (outcomes : List Outcome) : Ring Bool :=
  (outcomes.map fun outcome => !outcome.received).foldl (fun ring loss => ring.write loss)
    (Ring.blank size false positive)

theorem length_lossRing {size : Nat} (positive : 0 < size) (outcomes : List Outcome) :
    (lossRing positive outcomes).slots.length = size := by
  rw [lossRing, Ring.length_writes]
  simp

theorem ByteWindow.processPackets_holds (behaviour : LinkQuality) (seqno : Nat) {size : Nat}
    (positive : 0 < size) (small : size ≤ 128) (outcomes : List Outcome) :
    ((linkQualityInitBytes seqno size).processPackets behaviour outcomes).bits.Holds
      (lossRing positive outcomes) outcomes.length := by
  induction outcomes using List.reverseRecOn with
  | nil =>
      have start := LossWindow.Holds.start seqno positive small
      rwa [← bits_linkQualityInitBytes] at start
  | append_singleton outcomes outcome ih =>
      have within := lt_of_lt_of_le ih.inside ih.room
      have next := ih.processPacket behaviour outcome.now outcome.received outcome.htime
      rw [← bits_processPacket] at next
      · simpa [processPackets, lossRing] using next
      · simpa [bits] using within

theorem count_lossRing {size : Nat} (positive : 0 < size) (outcomes : List Outcome) :
    (lossRing positive outcomes).slots.count true =
      (outcomes.drop (outcomes.length - size)).countP fun outcome => !outcome.received := by
  have order := Ring.inOrder_writes false (outcomes.map fun outcome => !outcome.received) positive
  have counted := (lossRing positive outcomes).inOrder_perm.count_eq true
  rw [← counted, lossRing, order, lastItems]
  simp [← List.map_drop, List.count_eq_countP, List.countP_map,
    Function.comp_def]

theorem count_bitOf {bytes : List (BitVec 8)} {size : Nat} (room : size ≤ 8 * bytes.length) :
    ((bitsOf bytes).take size).count true = (List.range size).countP (bitOf bytes) := by
  rw [bitsOf, ← List.map_take, List.take_range, min_eq_left room, List.count_eq_countP,
    List.countP_map]
  congr 1
  funext position
  simp

theorem lossWindow_exact (behaviour : LinkQuality) (seqno : Nat) (size : Nat)
    (positive : 0 < size) (small : size ≤ 128) (outcomes : List Outcome) :
    let window := (linkQualityInitBytes seqno size).processPackets behaviour outcomes
    window.lostPackets = (List.range size).countP (bitOf window.lossBitmap) ∧
      0 ≤ window.lostPackets ∧ window.lostPackets ≤ window.totalPackets ∧
      window.totalPackets ≤ size ∧ window.totalPackets = min outcomes.length size ∧
      window.linkQuality =
        ((outcomes.drop (outcomes.length - size)).countP Outcome.received : ℚ) / size := by
  intro window
  have holds : window.bits.Holds (lossRing positive outcomes) outcomes.length :=
    ByteWindow.processPackets_holds behaviour seqno positive small outcomes
  have sized : window.lossWindowSize = size := by
    rw [← length_lossRing positive outcomes]
    exact holds.size.symm
  have lost : window.lostPackets =
      (outcomes.drop (outcomes.length - size)).countP fun outcome => !outcome.received := by
    rw [← count_lossRing positive outcomes]
    exact holds.lost
  have total : window.totalPackets = min outcomes.length size := by
    rw [← sized]
    exact_mod_cast holds.total
  have room : size ≤ 8 * window.lossBitmap.length := by
    rw [← sized, ← length_bitsOf]
    exact holds.room
  have bits : window.lostPackets = (List.range size).countP (bitOf window.lossBitmap) := by
    rw [← count_bitOf room, ← sized]
    rw [show window.lostPackets = _ from holds.lost, ← holds.slots]
    rfl
  -- a packet in the window has either arrived or was lost
  have split : (outcomes.drop (outcomes.length - size)).countP Outcome.received +
      (outcomes.drop (outcomes.length - size)).countP (fun outcome => !outcome.received) =
        min outcomes.length size := by
    have either := @List.length_eq_countP_add_countP _ Outcome.received
      (outcomes.drop (outcomes.length - size))
    have lostOnes : (fun outcome : Outcome => decide ¬outcome.received = true) =
        fun outcome => !outcome.received := by
      funext outcome
      simp
    rw [lostOnes, List.length_drop] at either
    omega
  have arrived : window.linkQuality =
      ((window.totalPackets - window.lostPackets : Int) : ℚ) / window.lossWindowSize := by
    rw [Int.cast_sub]
    exact holds.quality
  have received : window.totalPackets - window.lostPackets =
      (outcomes.drop (outcomes.length - size)).countP Outcome.received := by
    rw [total, lost]
    omega
  rw [received, sized] at arrived
  refine ⟨bits, by omega, by omega, by omega, total, ?_⟩
  simpa using arrived

/-- Thirteen packets go around the whole ring of ten. -/
theorem lossWindow_exact_wrapped :
    let outcomes := [true, false, false, true, true, false, true, true, true, false, false, true,
      true].map fun received => Outcome.mk 0 received 2
    let window := (linkQualityInitBytes 7 10).processPackets .etx outcomes
    window.lostPackets = (List.range 10).countP (bitOf window.lossBitmap) ∧
      0 ≤ window.lostPackets ∧ window.lostPackets ≤ window.totalPackets ∧
      window.totalPackets ≤ (10 : Nat) ∧ window.totalPackets = min outcomes.length 10 ∧
      window.linkQuality =
        ((outcomes.drop (outcomes.length - 10)).countP Outcome.received : ℚ) / (10 : Nat) :=
  lossWindow_exact .etx 7 10 (by decide) (by decide) _

end SyncFanet.OlsrEtx
