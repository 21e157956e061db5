import Mathlib.Data.List.Perm.Basic
import SyncFanet.Library.LeastOf
import SyncFanet.Dsr.BufferRuns
import SyncFanet.Dsr.MaintBuffer
import SyncFanet.Dsr.SendBuffer

/-!
# How long packets wait

The send buffer with `send_buf_timer`, which is set when the first packet comes and again when
it fires, but not when packets leave for other reasons.
-/

set_option autoImplicit false

namespace SyncFanet.Dsr

/-! ## The timer -/

/-- A node with the timer of its send buffer. -/
structure SendBuf where
  host : Host
  sendBufTimer : Option SimTime

/-- When a timer fires that is set by `timevalFromSimTime` and `set_timer`. -/
def armedAt (now expires : SimTime) : SimTime :=
  max now (usecs 1 * gettime expires)

/-- `SimTime::getMaxTime`. -/
def simTimeMax : SimTime := 2 ^ 63 - 1

namespace SendBuf

/-- `send_buf_enqueue_packet`, with the timer. -/
def enqueue (sendBufferTimeout : Nat) (now : SimTime) (dp : DsrPkt) (buf : SendBuf) : SendBuf where
  host := buf.host.sendBufEnqueuePacket now dp
  sendBufTimer :=
    if buf.host.packetBuffer.isEmpty then some (armedAt now (now + usecs sendBufferTimeout))
    else buf.sendBufTimer

/-- `send_buf_timeout`, once the timer has fired. -/
def timeout (sendBufferTimeout : Nat) (now : SimTime) (buf : SendBuf) : SendBuf :=
  if buf.host.packetBuffer.isEmpty then { buf with sendBufTimer := none }
  else
    let host := buf.host.sendBufTimeout now sendBufferTimeout
    if host.packetBuffer.isEmpty then { host := host, sendBufTimer := none }
    else
      let minTimeout := (host.packetBuffer.map PacketStoreage.time).foldl min simTimeMax
      let nextPacketTimeout := usecs sendBufferTimeout - (now - minTimeout)
      { host := host, sendBufTimer := some (armedAt now (now + nextPacketTimeout)) }

/-- `send_buf_set_verdict` for `SEND_BUF_DROP`. -/
def drop (dst : InAddr) (buf : SendBuf) : SendBuf :=
  let here (entry : PacketStoreage) : Bool := entry.packet.dst = dst
  { buf with
    host := { buf.host with
      packetBuffer := buf.host.packetBuffer.filter fun entry => !here entry
      freed := buf.host.freed ++ (buf.host.packetBuffer.filter here).map PacketStoreage.packet } }

end SendBuf

/-- The states of a send buffer under any order of its operations, at times that do not
decrease and do not pass the timer. The rest of the node changes in any way. -/
inductive SendBufRun (sendBufferTimeout : Nat) : SimTime → SendBuf → Prop where
  | start (now : SimTime) (host : Host) (empty : host.packetBuffer = []) :
      SendBufRun sendBufferTimeout now { host := host, sendBufTimer := none }
  | wait {now later : SimTime} {buf : SendBuf} (before : SendBufRun sendBufferTimeout now buf)
      (le : now ≤ later) (due : ∀ expires, buf.sendBufTimer = some expires → later ≤ expires) :
      SendBufRun sendBufferTimeout later buf
  | enqueue {now : SimTime} {buf : SendBuf} (before : SendBufRun sendBufferTimeout now buf)
      (dp : DsrPkt) : SendBufRun sendBufferTimeout now (buf.enqueue sendBufferTimeout now dp)
  | send {now : SimTime} {buf : SendBuf} {host : Host}
      (before : SendBufRun sendBufferTimeout now buf) (outside : Outside) (dst : InAddr)
      (ran : buf.host.sendBufSend outside dst = .ok host) :
      SendBufRun sendBufferTimeout now { buf with host := host }
  | drop {now : SimTime} {buf : SendBuf} (before : SendBufRun sendBufferTimeout now buf)
      (dst : InAddr) : SendBufRun sendBufferTimeout now (buf.drop dst)
  | fire {now : SimTime} {buf : SendBuf} (before : SendBufRun sendBufferTimeout now buf)
      (due : buf.sendBufTimer = some now) :
      SendBufRun sendBufferTimeout now (buf.timeout sendBufferTimeout now)
  | other {now : SimTime} {buf : SendBuf} (before : SendBufRun sendBufferTimeout now buf)
      (host : Host) (same : host.packetBuffer = buf.host.packetBuffer) :
      SendBufRun sendBufferTimeout now { buf with host := host }

/-! ## Entries come and go -/

theorem perm_insertStorage (entry : PacketStoreage) (entries : List PacketStoreage) :
    (Host.insertStorage entry entries).Perm (entry :: entries) := by
  induction entries with
  | nil => exact .refl _
  | cons first rest ih =>
      rw [Host.insertStorage]
      split
      · exact .refl _
      · exact (ih.cons first).trans (.swap entry first rest)

theorem oldest_spec {entries : List PacketStoreage} (nonempty : entries ≠ []) :
    ∃ inside : Host.oldest entries < entries.length,
      ∀ entry ∈ entries, entries[Host.oldest entries].time ≤ entry.time := by
  cases entries with
  | nil => exact absurd rfl nonempty
  | cons first rest =>
      let times := (first :: rest).map PacketStoreage.time
      let least := (rest.map PacketStoreage.time).foldl min first.time
      obtain ⟨among, below⟩ := isLeast_foldl_min first.time (rest.map PacketStoreage.time)
      have listed : ∃ time ∈ times, decide (time = least) = true :=
        ⟨least, List.mem_cons.mpr among, decide_eq_true rfl⟩
      have position : Host.oldest (first :: rest) = times.findIdx fun time => time = least := rfl
      have inside : Host.oldest (first :: rest) < times.length := by
        rw [position]
        exact List.findIdx_lt_length_of_exists listed
      have within : Host.oldest (first :: rest) < (first :: rest).length := by
        rwa [List.length_map] at inside
      refine ⟨within, fun entry member => ?_⟩
      have here : times[Host.oldest (first :: rest)] = least := by
        simp only [position]
        exact of_decide_eq_true (List.findIdx_getElem (p := fun time => decide (time = least)))
      rw [List.getElem_map] at here
      rw [here]
      exact below (List.mem_cons.mp (List.mem_map_of_mem member))

theorem enqueue_full {host : Host} (now : SimTime) (dp : DsrPkt)
    (full : sendBufMaxLen ≤ host.packetBuffer.length) :
    ∃ evicted rest, host.packetBuffer.Perm (evicted :: rest) ∧
      (∀ entry ∈ host.packetBuffer, evicted.time ≤ entry.time) ∧
      (host.sendBufEnqueuePacket now dp).packetBuffer.Perm ({ time := now, packet := dp } :: rest) := by
  have nonempty : host.packetBuffer ≠ [] := by
    intro empty
    rw [empty] at full
    exact absurd full (by decide)
  obtain ⟨inside, least⟩ := oldest_spec nonempty
  refine ⟨_, _, (List.getElem_cons_eraseIdx_perm inside).symm, least, ?_⟩
  simp only [Host.sendBufEnqueuePacket, if_pos full]
  exact perm_insertStorage _ _

theorem enqueue_room {host : Host} (now : SimTime) (dp : DsrPkt)
    (room : host.packetBuffer.length < sendBufMaxLen) :
    (host.sendBufEnqueuePacket now dp).packetBuffer.Perm
      ({ time := now, packet := dp } :: host.packetBuffer) := by
  simp only [Host.sendBufEnqueuePacket, if_neg (Nat.not_le.mpr room)]
  exact perm_insertStorage _ _

theorem mem_enqueue {host : Host} {now : SimTime} {dp : DsrPkt} {entry : PacketStoreage}
    (member : entry ∈ (host.sendBufEnqueuePacket now dp).packetBuffer) :
    entry.time = now ∨ entry ∈ host.packetBuffer := by
  by_cases full : sendBufMaxLen ≤ host.packetBuffer.length
  · obtain ⟨evicted, rest, before, -, after⟩ := enqueue_full now dp full
    rcases List.mem_cons.mp (after.mem_iff.mp member) with rfl | kept
    · exact .inl rfl
    · exact .inr (before.mem_iff.mpr (List.mem_cons_of_mem _ kept))
  · have after := enqueue_room now dp (Nat.not_le.mp full)
    rcases List.mem_cons.mp (after.mem_iff.mp member) with rfl | kept
    · exact .inl rfl
    · exact .inr kept

theorem sendBufSend_packetBuffer {outside : Outside} {host after : Host} {dst : InAddr}
    (ran : host.sendBufSend outside dst = .ok after) :
    after.packetBuffer.Sublist host.packetBuffer := by
  obtain ⟨last, -, ran⟩ := bind_ok.mp ran
  cases ran
  exact List.filter_sublist

/-! ## The invariant -/

theorem le_armedAt (now expires : SimTime) : now ≤ armedAt now expires := le_max_left _ _

theorem armedAt_le {now expires bound : SimTime} (future : now ≤ bound)
    (late : expires + usecs 1 ≤ bound) : armedAt now expires ≤ bound := by
  refine max_le future ?_
  simp only [gettime, usecs, SimTime] at *
  omega

structure Aged (sendBufferTimeout : Nat) (now : SimTime) (buf : SendBuf) : Prop where
  pending : ∀ expires, buf.sendBufTimer = some expires → now ≤ expires
  timely : buf.host.packetBuffer ≠ [] → ∃ expires, buf.sendBufTimer = some expires ∧
    ∀ entry ∈ buf.host.packetBuffer, expires ≤ entry.time + usecs sendBufferTimeout + usecs 1
  past : ∀ entry ∈ buf.host.packetBuffer, entry.time ≤ now
  room : buf.host.packetBuffer.length ≤ sendBufMaxLen

section

variable {sendBufferTimeout : Nat} {now : SimTime} {buf : SendBuf}

theorem Aged.of_sublist {host : Host} (aged : Aged sendBufferTimeout now buf)
    (sublist : host.packetBuffer.Sublist buf.host.packetBuffer) :
    Aged sendBufferTimeout now { buf with host := host } := by
  refine ⟨aged.pending, fun nonempty => ?_, fun entry member => aged.past entry (sublist.subset
    member), sublist.length_le.trans aged.room⟩
  have before : buf.host.packetBuffer ≠ [] := by
    intro empty
    rw [empty] at sublist
    exact nonempty (List.sublist_nil.mp sublist)
  obtain ⟨expires, timer, least⟩ := aged.timely before
  exact ⟨expires, timer, fun entry member => least entry (sublist.subset member)⟩

theorem length_enqueue (aged : Aged sendBufferTimeout now buf) (dp : DsrPkt) :
    (buf.host.sendBufEnqueuePacket now dp).packetBuffer.length ≤ sendBufMaxLen := by
  have room := aged.room
  by_cases full : sendBufMaxLen ≤ buf.host.packetBuffer.length
  · obtain ⟨evicted, rest, before, -, after⟩ := enqueue_full now dp full
    have same := before.length_eq
    have next := after.length_eq
    simp only [List.length_cons] at same next
    omega
  · have next := (enqueue_room now dp (Nat.not_le.mp full)).length_eq
    simp only [List.length_cons] at next
    omega

theorem Aged.enqueue (aged : Aged sendBufferTimeout now buf) (dp : DsrPkt) :
    Aged sendBufferTimeout now (buf.enqueue sendBufferTimeout now dp) := by
  have past : ∀ entry ∈ (buf.host.sendBufEnqueuePacket now dp).packetBuffer,
      entry.time ≤ now := by
    intro entry member
    rcases mem_enqueue member with new | old
    · exact new.le
    · exact aged.past entry old
  unfold SendBuf.enqueue
  cases empty : buf.host.packetBuffer with
  | nil =>
      have soon : armedAt now (now + usecs sendBufferTimeout) ≤
          now + usecs sendBufferTimeout + usecs 1 := by
        refine armedAt_le ?_ le_rfl
        simp only [usecs, SimTime]
        omega
      refine ⟨fun expires timer => ?_, fun _ => ⟨_, rfl, fun entry member => ?_⟩, past,
        length_enqueue aged dp⟩
      · cases timer
        exact le_armedAt _ _
      · rcases mem_enqueue member with new | old
        · rw [new]
          exact soon
        · rw [empty] at old
          cases old
  | cons first rest =>
      obtain ⟨expires, timer, least⟩ := aged.timely (by rw [empty]; exact List.cons_ne_nil _ _)
      refine ⟨aged.pending, fun _ => ⟨expires, timer, fun entry member => ?_⟩, past,
        length_enqueue aged dp⟩
      have stored : first ∈ buf.host.packetBuffer := by
        rw [empty]
        exact List.mem_cons_self
      rcases mem_enqueue member with new | old
      · have bound := least first stored
        have earlier := aged.past first stored
        rw [new]
        simp only [SimTime] at *
        omega
      · exact least entry old

theorem Aged.timeout (aged : Aged sendBufferTimeout now buf) :
    Aged sendBufferTimeout now (buf.timeout sendBufferTimeout now) := by
  have kept : (buf.host.sendBufTimeout now sendBufferTimeout).packetBuffer.Sublist
      buf.host.packetBuffer := List.filter_sublist
  unfold SendBuf.timeout
  split
  · next empty =>
    have none := List.isEmpty_iff.mp empty
    exact ⟨nofun, fun nonempty => absurd none nonempty, aged.past, aged.room⟩
  · dsimp only
    split
    · next empty =>
      have none := List.isEmpty_iff.mp empty
      exact ⟨nofun, fun nonempty => absurd none nonempty,
        fun entry member => aged.past entry (kept.subset member),
        kept.length_le.trans aged.room⟩
    · refine ⟨fun expires timer => ?_, fun _ => ⟨_, rfl, fun entry member => ?_⟩,
        fun entry member => aged.past entry (kept.subset member),
        kept.length_le.trans aged.room⟩
      · cases timer
        exact le_armedAt _ _
      · have young : ¬(usecs sendBufferTimeout ≤ now - entry.time + usecs 10000) := by
          have stays := (List.mem_filter.mp member).2
          simpa using stays
        have least := (isLeast_foldl_min simTimeMax
          ((buf.host.sendBufTimeout now sendBufferTimeout).packetBuffer.map
            PacketStoreage.time)).2 (.inr (List.mem_map_of_mem member))
        refine armedAt_le ?_ ?_ <;> simp only [usecs, SimTime] at * <;> omega

theorem timeout_young :
    ((buf.timeout sendBufferTimeout now).host.packetBuffer.filter fun entry =>
        now - entry.time < usecs sendBufferTimeout - usecs 10000) =
      buf.host.packetBuffer.filter fun entry =>
        now - entry.time < usecs sendBufferTimeout - usecs 10000 := by
  have freed : (buf.host.sendBufTimeout now sendBufferTimeout).packetBuffer.filter
        (fun entry => now - entry.time < usecs sendBufferTimeout - usecs 10000) =
      buf.host.packetBuffer.filter fun entry =>
        now - entry.time < usecs sendBufferTimeout - usecs 10000 := by
    simp only [Host.sendBufTimeout, List.filter_filter]
    refine List.filter_congr fun entry _ => ?_
    simp only [SimTime, Bool.and_eq_left_iff_imp, decide_eq_true_eq, Bool.not_eq_true',
      decide_eq_false_iff_not]
    intro young
    omega
  unfold SendBuf.timeout
  split
  · rfl
  · dsimp only
    split <;> exact freed

theorem SendBufRun.aged (run : SendBufRun sendBufferTimeout now buf) :
    Aged sendBufferTimeout now buf := by
  induction run with
  | start now host empty =>
      refine ⟨nofun, fun nonempty => absurd empty nonempty, ?_, ?_⟩ <;> simp [empty]
  | wait _ le due aged =>
      exact ⟨due, aged.timely, fun entry member => (aged.past entry member).trans le, aged.room⟩
  | enqueue _ dp aged => exact aged.enqueue dp
  | send _ outside dst ran aged => exact aged.of_sublist (sendBufSend_packetBuffer ran)
  | drop _ dst aged => exact aged.of_sublist List.filter_sublist
  | fire _ due aged => exact aged.timeout
  | other _ host same aged => exact aged.of_sublist (same ▸ List.Sublist.refl _)

/-! ## Ageing -/

/-- What the buffer owes to the packets in it, and to the next one. -/
structure Ages (sendBufferTimeout : Nat) (now : SimTime) (buf : SendBuf) : Prop where
  pending : buf.host.packetBuffer ≠ [] → ∃ expires, buf.sendBufTimer = some expires ∧
    ∀ entry ∈ buf.host.packetBuffer, expires ≤ entry.time + usecs sendBufferTimeout + usecs 1
  waits : ∀ entry ∈ buf.host.packetBuffer,
    now - entry.time ≤ usecs sendBufferTimeout + usecs 1
  keepsYoung : ((buf.timeout sendBufferTimeout now).host.packetBuffer.filter fun entry =>
      now - entry.time < usecs sendBufferTimeout - usecs 10000) =
    buf.host.packetBuffer.filter fun entry =>
      now - entry.time < usecs sendBufferTimeout - usecs 10000
  room : buf.host.packetBuffer.length ≤ sendBufMaxLen
  evicts : ∀ dp, buf.host.packetBuffer.length = sendBufMaxLen →
    ∃ evicted rest, buf.host.packetBuffer.Perm (evicted :: rest) ∧
      (∀ entry ∈ buf.host.packetBuffer, evicted.time ≤ entry.time) ∧
      (buf.enqueue sendBufferTimeout now dp).host.packetBuffer.Perm
        ({ time := now, packet := dp } :: rest)
  admits : ∀ dp, buf.host.packetBuffer.length < sendBufMaxLen →
    (buf.enqueue sendBufferTimeout now dp).host.packetBuffer.Perm
      ({ time := now, packet := dp } :: buf.host.packetBuffer)

/-- In every run of the send buffer its packets age as they should. -/
theorem sendBuf_ages (run : SendBufRun sendBufferTimeout now buf) :
    Ages sendBufferTimeout now buf := by
  have aged := run.aged
  refine ⟨aged.timely, ?_, timeout_young, aged.room,
    fun dp full => enqueue_full now dp full.ge, fun dp room => enqueue_room now dp room⟩
  intro entry member
  obtain ⟨expires, timer, least⟩ := aged.timely (List.ne_nil_of_mem member)
  have future := aged.pending expires timer
  have bound := least entry member
  simp only [SimTime] at *
  omega

end

/-- A packet for node 3 waits in the buffer of node 1 for almost 30 s. -/
theorem sendBuf_ages_enqueued :
    Ages 30000000 (usecs 29999999)
      (SendBuf.enqueue 30000000 0 dataPacket { host := emptyHost true, sendBufTimer := none }) :=
  sendBuf_ages (((SendBufRun.start 0 (emptyHost true) rfl).enqueue dataPacket).wait (by decide)
    fun expires timer => by cases timer; decide)

end SyncFanet.Dsr
