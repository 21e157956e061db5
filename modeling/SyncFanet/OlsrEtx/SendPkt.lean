import SyncFanet.OlsrEtx.LinkSensing

/-!
# Packing of buffered messages

The loops of `OLSR::send_pkt` and `OLSR_ETX::send_pkt` that move the buffered messages
into the message arrays of packets. A slot of an array that was never assigned is `none`.
-/

set_option autoImplicit false

namespace SyncFanet.OlsrEtx

open Olsr

variable {Msg : Type}

/-! ## Message arrays -/

/-- `setMsgArraySize`, which keeps the slots that are still inside. -/
def setMsgArraySize (size : Nat) (slots : List (Option Msg)) : List (Option Msg) :=
  slots.take size ++ List.replicate (size - slots.length) none

/-- `setMsg`. -/
def setMsg (index : Nat) (msg : Msg) (slots : List (Option Msg)) : List (Option Msg) :=
  slots.set index (some msg)

/-- The loop that fills one packet. -/
def fillPkt : Nat → List (Option Msg) → List Msg → List (Option Msg) × List Msg
  | _, op, [] => (op, [])
  | j, op, msg :: msgs =>
      if j = maxMsgs then (op, msg :: msgs)
      else fillPkt (j + 1) (setMsg j msg (setMsgArraySize (j + 1) op)) msgs

/-- The loop that fills a packet and its duplicate: both assignments advance the index. -/
def fillPair : Nat → List (Option Msg) → List (Option Msg) → List Msg →
    (List (Option Msg) × List (Option Msg)) × List Msg
  | _, op1, op2, [] => ((op1, op2), [])
  | j, op1, op2, msg :: msgs =>
      if j = maxMsgs then ((op1, op2), msg :: msgs)
      else
        fillPair (j + 2) (setMsg j msg (setMsgArraySize (j + 1) op1))
          (setMsg (j + 1) msg (setMsgArraySize (j + 2) op2)) msgs

/-- What one round of `send_pkt` hands to the IP layer: a packet, or a CapProbe pair. -/
inductive Emitted (Msg : Type) where
  | pkt (op : List (Option Msg))
  | pair (op1 op2 : List (Option Msg))
  deriving DecidableEq

namespace Emitted

def pkts : Emitted Msg → List (List (Option Msg))
  | .pkt op => [op]
  | .pair op1 op2 => [op1, op2]

/-- The packet, or the first one of the pair. -/
def leading : Emitted Msg → List (Option Msg)
  | .pkt op => op
  | .pair op1 _ => op1

/-- Both packets of a pair carry the same messages. -/
def Same : Emitted Msg → Prop
  | .pkt _ => True
  | .pair op1 op2 => op1 = op2

end Emitted

/-! ## `send_pkt` -/

def numPkts (numMsgs : Nat) : Nat :=
  if numMsgs % maxMsgs = 0 then numMsgs / maxMsgs else numMsgs / maxMsgs + 1

/-- A round of `send_pkt`. -/
def sendRound (linkDelay : Bool) (i : Nat) (msgs : List Msg) : Emitted Msg × List Msg :=
  if linkDelay ∧ i = 0 then
    let (pair, rest) := fillPair 0 [] [] msgs
    (.pair pair.1 pair.2, rest)
  else
    let (op, rest) := fillPkt 0 [] msgs
    (.pkt op, rest)

/-- The rounds from `i` on, of which `count` are left. -/
def sendRounds (linkDelay : Bool) : Nat → Nat → List Msg → List (Emitted Msg) × List Msg
  | _, 0, msgs => ([], msgs)
  | i, count + 1, msgs =>
      let (emitted, rest) := sendRound linkDelay i msgs
      let (later, left) := sendRounds linkDelay (i + 1) count rest
      (emitted :: later, left)

/-- `OLSR_ETX::send_pkt`: what is emitted, and what is left in `msgs_`. -/
def etxSendPkt (linkDelay : Bool) (msgs : List Msg) : List (Emitted Msg) × List Msg :=
  sendRounds linkDelay 0 (numPkts msgs.length) msgs

/-- `OLSR::send_pkt`. -/
def olsrSendPkt (msgs : List Msg) : List (Emitted Msg) × List Msg :=
  sendRounds false 0 (numPkts msgs.length) msgs

/-- Every message was sent once, in a slot of its own. -/
structure SentOnce (msgs : List Msg) (sent : List (Emitted Msg) × List Msg) : Prop where
  emptied : sent.2 = []
  inOrder : sent.1.flatMap Emitted.leading = msgs.map some
  assigned : ∀ emitted ∈ sent.1, ∀ op ∈ emitted.pkts, none ∉ op
  small : ∀ emitted ∈ sent.1, ∀ op ∈ emitted.pkts, op.length ≤ maxMsgs
  pairs : ∀ emitted ∈ sent.1, emitted.Same

/-! ## What the loops do -/

theorem setMsg_next (msg : Msg) (slots : List (Option Msg)) :
    setMsg slots.length msg (setMsgArraySize (slots.length + 1) slots) = slots ++ [some msg] := by
  have all : slots.take (slots.length + 1) = slots := List.take_of_length_le (by omega)
  simp [setMsg, setMsgArraySize, all]

theorem fillPkt_eq (op : List (Option Msg)) (msgs : List Msg) (small : op.length ≤ maxMsgs) :
    fillPkt op.length op msgs =
      (op ++ (msgs.take (maxMsgs - op.length)).map some, msgs.drop (maxMsgs - op.length)) := by
  induction msgs generalizing op with
  | nil => simp [fillPkt]
  | cons msg msgs ih =>
      rw [fillPkt]
      by_cases full : op.length = maxMsgs
      · simp [full]
      · have room : maxMsgs - op.length = (maxMsgs - (op.length + 1)) + 1 := by omega
        have next := ih (op ++ [some msg]) (by simp; omega)
        rw [if_neg full, setMsg_next]
        simp only [List.length_append, List.length_singleton] at next
        rw [next, room]
        simp

theorem sendRounds_single (i count : Nat) (msgs : List Msg) :
    sendRounds false i (count + 1) msgs =
      (.pkt ((msgs.take maxMsgs).map some) ::
        (sendRounds false (i + 1) count (msgs.drop maxMsgs)).1,
      (sendRounds false (i + 1) count (msgs.drop maxMsgs)).2) := by
  have filled := fillPkt_eq [] msgs (Nat.zero_le _)
  simp only [List.length_nil, Nat.sub_zero, List.nil_append] at filled
  simp [sendRounds, sendRound, filled]

theorem numPkts_enough (numMsgs : Nat) : numMsgs ≤ maxMsgs * numPkts numMsgs := by
  unfold numPkts
  by_cases full : numMsgs % maxMsgs = 0
  · rw [if_pos full]
    simp only [maxMsgs] at full ⊢
    omega
  · rw [if_neg full]
    simp only [maxMsgs]
    omega

theorem sendRounds_sentOnce {count : Nat} (i : Nat) {msgs : List Msg}
    (enough : msgs.length ≤ maxMsgs * count) :
    SentOnce msgs (sendRounds false i count msgs) := by
  induction count generalizing i msgs with
  | zero =>
      have none : msgs = [] := List.length_eq_zero_iff.mp (by omega)
      subst none
      exact ⟨rfl, rfl, nofun, nofun, nofun⟩
  | succ count ih =>
      have rest : (msgs.drop maxMsgs).length ≤ maxMsgs * count := by
        rw [List.length_drop]
        rw [Nat.mul_succ] at enough
        omega
      have later := ih (i + 1) rest
      rw [sendRounds_single]
      constructor
      · exact later.emptied
      · rw [List.flatMap_cons, later.inOrder, Emitted.leading, ← List.map_append,
          List.take_append_drop]
      · have filled : none ∉ (msgs.take maxMsgs).map some := by
          intro member
          obtain ⟨msg, _, impossible⟩ := List.mem_map.mp member
          cases impossible
        rw [List.forall_mem_cons]
        exact ⟨by simpa only [Emitted.pkts, List.forall_mem_singleton] using filled,
          later.assigned⟩
      · rw [List.forall_mem_cons]
        exact ⟨by simp [Emitted.pkts], later.small⟩
      · rw [List.forall_mem_cons]
        exact ⟨trivial, later.pairs⟩

theorem sendRounds_later (linkDelay : Bool) (i count : Nat) (msgs : List Msg) :
    sendRounds linkDelay (i + 1) count msgs = sendRounds false (i + 1) count msgs := by
  induction count generalizing i msgs with
  | zero => rfl
  | succ count ih =>
      have same : sendRound linkDelay (i + 1) msgs = sendRound false (i + 1) msgs := by
        simp [sendRound]
      simp only [sendRounds, same, ih]

theorem fillPair_eq (msgs : List Msg) :
    fillPair 0 [] [] msgs =
      ((((msgs.take 2).map some).intersperse none,
        (msgs.take 2).flatMap fun msg => [none, some msg]), msgs.drop 2) := by
  match msgs with
  | [] => rfl
  | [msg] => simp [fillPair, setMsg, setMsgArraySize, maxMsgs]
  | first :: second :: [] => simp [fillPair, setMsg, setMsgArraySize, maxMsgs]
  | first :: second :: third :: rest => simp [fillPair, setMsg, setMsgArraySize, maxMsgs]

/-! ## Packets on the wire -/

/-- The packets of `Sender`, in which a slot that was never assigned is `unset`. -/
theorem sendPkts_rounds (unset : EtxMsg) (i count : Nat) (sender : Sender) :
    (sendPkts count sender).1.msgs = (sendRounds false i count sender.msgs).2 ∧
      (sendPkts count sender).2.map EtxPkt.msgs =
        ((sendRounds false i count sender.msgs).1.flatMap Emitted.pkts).map
          (List.map (Option.getD · unset)) := by
  induction count generalizing i sender with
  | zero => exact ⟨rfl, rfl⟩
  | succ count ih =>
      obtain ⟨left, pkts⟩ := ih (i + 1) (sendOnePkt sender).1
      rw [sendRounds_single]
      refine ⟨left, ?_⟩
      rw [sendPkts, List.flatMap_cons, List.map_append, List.map_append, pkts]
      simp [sendOnePkt, Sender.nextPktSeq, Emitted.pkts]

theorem sendPair_slots (unset : EtxMsg) (sender : Sender) :
    (sendPair unset sender).1.msgs = (fillPair 0 [] [] sender.msgs).2 ∧
      (sendPair unset sender).2.map EtxPkt.msgs =
        [(fillPair 0 [] [] sender.msgs).1.1.map (Option.getD · unset),
          (fillPair 0 [] [] sender.msgs).1.2.map (Option.getD · unset)] := by
  rw [fillPair_eq]
  refine ⟨rfl, ?_⟩
  rcases sender with ⟨msgs, pktSeq⟩
  match msgs with
  | [] => rfl
  | [msg] => rfl
  | first :: second :: rest => rfl

theorem sendPkt_rounds (linkDelay : Bool) (unset : EtxMsg) (sender : Sender) :
    (sendPkt linkDelay unset sender).1.msgs = (etxSendPkt linkDelay sender.msgs).2 ∧
      (sendPkt linkDelay unset sender).2.map EtxPkt.msgs =
        ((etxSendPkt linkDelay sender.msgs).1.flatMap Emitted.pkts).map
          (List.map (Option.getD · unset)) := by
  have rounds : sendPkt linkDelay unset sender =
      if linkDelay ∧ 0 < numPkts sender.msgs.length then
        ((sendPkts (numPkts sender.msgs.length - 1) (sendPair unset sender).1).1,
          (sendPair unset sender).2 ++
            (sendPkts (numPkts sender.msgs.length - 1) (sendPair unset sender).1).2)
      else sendPkts (numPkts sender.msgs.length) sender := rfl
  obtain ⟨pairLeft, pairPkts⟩ := sendPair_slots unset sender
  rw [rounds]
  by_cases paired : linkDelay = true ∧ 0 < numPkts sender.msgs.length
  · obtain ⟨rfl, some⟩ := paired
    obtain ⟨count, counted⟩ := Nat.exists_eq_succ_of_ne_zero (Nat.ne_of_gt some)
    obtain ⟨left, pkts⟩ := sendPkts_rounds unset 1 count (sendPair unset sender).1
    rw [pairLeft] at left pkts
    rw [if_pos ⟨rfl, some⟩, etxSendPkt, counted]
    simp only [Nat.succ_eq_add_one, Nat.add_sub_cancel, sendRounds, sendRound, and_self, if_true,
      sendRounds_later]
    refine ⟨left, ?_⟩
    rw [List.map_append, pairPkts, pkts]
    simp [Emitted.pkts]
  · rw [if_neg paired]
    have unpaired : etxSendPkt linkDelay sender.msgs =
        sendRounds false 0 (numPkts sender.msgs.length) sender.msgs := by
      cases linkDelay with
      | false => rfl
      | true =>
          have none : numPkts sender.msgs.length = 0 := by
            by_contra some
            exact paired ⟨rfl, Nat.pos_of_ne_zero some⟩
          rw [etxSendPkt, none]
          rfl
    rw [unpaired]
    exact sendPkts_rounds unset 0 (numPkts sender.msgs.length) sender

theorem olsrSendPkts_rounds (i count : Nat) (node : Node) :
    (Olsr.sendPkts count node).msgs = (sendRounds false i count node.msgs).2 ∧
      ∃ pkts : List Pkt,
        (Olsr.sendPkts count node).history = node.history ++ pkts.map Action.sentPkt ∧
        pkts.map (fun pkt => pkt.msgs.map some) =
          (sendRounds false i count node.msgs).1.flatMap Emitted.pkts := by
  induction count generalizing i node with
  | zero => exact ⟨rfl, [], by simp [Olsr.sendPkts], rfl⟩
  | succ count ih =>
      obtain ⟨left, pkts, recorded, sent⟩ := ih (i + 1) (Olsr.sendOnePkt node)
      rw [sendRounds_single]
      refine ⟨left, { pktSeqNum := node.nextPktSeq.pktSeq, msgs := node.msgs.take maxMsgs } :: pkts,
        ?_, ?_⟩
      · rw [Olsr.sendPkts, recorded]
        simp [Olsr.sendOnePkt, Node.nextPktSeq, Node.record]
      · rw [List.map_cons, sent]
        rfl

theorem olsrSendPkt_rounds (node : Node) :
    (Olsr.sendPkt node).msgs = (olsrSendPkt node.msgs).2 ∧
      ∃ pkts : List Pkt,
        (Olsr.sendPkt node).history = node.history ++ pkts.map Action.sentPkt ∧
        pkts.map (fun pkt => pkt.msgs.map some) =
          (olsrSendPkt node.msgs).1.flatMap Emitted.pkts :=
  olsrSendPkts_rounds 0 (numPkts node.msgs.length) node

/-! ## The law -/

theorem not_sentOnce_pair {msgs : List Msg} (some : msgs ≠ []) :
    ¬ SentOnce msgs (etxSendPkt true msgs) := by
  intro sent
  have enough := numPkts_enough msgs.length
  have positive := List.length_pos_iff.mpr some
  have rounds : numPkts msgs.length ≠ 0 := by
    intro none
    rw [none, Nat.mul_zero] at enough
    omega
  obtain ⟨count, counted⟩ := Nat.exists_eq_succ_of_ne_zero rounds
  have first : Emitted.pair (fillPair 0 [] [] msgs).1.1 (fillPair 0 [] [] msgs).1.2 ∈
      (etxSendPkt true msgs).1 := by
    rw [etxSendPkt, counted]
    simp [sendRounds, sendRound]
  refine sent.assigned _ first (fillPair 0 [] [] msgs).1.2 (by simp [Emitted.pkts]) ?_
  rw [fillPair_eq]
  cases msgs with
  | nil => exact absurd rfl some
  | cons msg msgs => simp

theorem buffered_sent_once (msgs : List Msg) :
    SentOnce msgs (olsrSendPkt msgs) ∧
      ∀ linkDelay : Bool, SentOnce msgs (etxSendPkt linkDelay msgs) ↔
        linkDelay = false ∨ msgs = [] := by
  have single : SentOnce msgs (sendRounds false 0 (numPkts msgs.length) msgs) :=
    sendRounds_sentOnce 0 (numPkts_enough msgs.length)
  refine ⟨single, fun linkDelay => ?_⟩
  constructor
  · intro sent
    cases linkDelay with
    | false => exact .inl rfl
    | true =>
        by_contra neither
        exact not_sentOnce_pair (fun empty => neither (.inr empty)) sent
  · rintro (rfl | rfl)
    · exact single
    · have nothing : etxSendPkt linkDelay ([] : List Msg) = ([], []) := by
        simp [etxSendPkt, numPkts, sendRounds]
      rw [nothing]
      exact ⟨rfl, rfl, by simp, by simp, by simp⟩

/-- Three messages and a CapProbe pair: the third message stays in the buffer. -/
theorem not_sent_once_pair :
    let msgs : List EtxMsg := (List.range 3).map fun msgSeqNum =>
      { vtime := 0, origAddr := 1, ttl := 1, hopCount := 0, msgSeqNum := msgSeqNum, body := .tc }
    ¬ SentOnce msgs (etxSendPkt true msgs) := by
  intro msgs sent
  have emptied : (etxSendPkt true msgs).2.length = 0 := by rw [sent.emptied]; rfl
  exact absurd emptied (by decide)

end SyncFanet.OlsrEtx
