import Mathlib.Data.List.TakeWhile
import SyncFanet.Dsr.BrokenLinks
import SyncFanet.Dsr.MalformedRoutes
import SyncFanet.Dsr.SalvagedRoutes

/-!
# The loop that salvages packets

A packet that is salvaged goes back into the buffer, and `maint_buf_timeout` may be entered
once more, for the other entries that are due. The loop comes to its end where that only
retransmits, and no entry is due at the iterator.
-/

set_option autoImplicit false

namespace SyncFanet.Dsr

variable {Cache : Type}

/-! ## Packets that can be salvaged -/

/-- The source route of a packet can be taken apart: its costs stand for its addresses, its
length gives their number, and the next hop of a packet without relays is its destination. -/
structure DsrPkt.Separates (dp : DsrPkt) (opt : DsrSrtOpt) : Prop where
  costs : ∃ costs, srtCosts dp.src dp.dst opt.addrs dp.costVector = .ok costs
  sized : (opt.length - 2) / dsrAddressSize = opt.addrs.length
  direct : opt.addrs = [] → dp.dst = dp.nxtHop

/-- A route error about the packet has a receiver: the source of the packet, or the second
relay of a salvaged one. -/
def DsrPkt.Reports (me : InAddr) (dp : DsrPkt) : Prop :=
  ∀ opt ∈ dp.srtOpt, dp.src = me ∨ opt.salv = 0 ∨ 1 < opt.addrs.length

theorem dsrSrtNewSplit_returns {srt : DsrSrt} (sized : srt.count = srt.addrs.length)
    (priced : srt.cost = [] ∨ srt.addrs.length < srt.cost.length) (me : InAddr) :
    ∃ split, dsrSrtNewSplit srt me = .ok split ∧
      ∀ toMe ∈ split, toMe.count = toMe.addrs.length := by
  unfold dsrSrtNewSplit
  rw [DsrSrt.checkSize, if_pos sized]
  simp only [Except.bind]
  cases found : srt.addrs.findIdx? fun hop => hop = me with
  | none => exact ⟨none, rfl, fun _ member => absurd member (Option.not_mem_none _)⟩
  | some i =>
      have inside : i < srt.addrs.length := (List.findIdx?_eq_some_iff_getElem.mp found).1
      have enough : srt.cost = [] ∨ i < srt.cost.length := priced.imp id inside.trans
      refine ⟨_, if_pos enough, ?_⟩
      intro toMe member
      cases member
      apply DsrSrt.count_of_laddrs
      rw [List.length_take, min_eq_left inside.le]

theorem salvageRoute_returns {me : InAddr} {dp : DsrPkt} {oldSrt altSrt : DsrSrt}
    (sized : oldSrt.count = oldSrt.addrs.length)
    (priced : oldSrt.cost = [] ∨ oldSrt.addrs.length < oldSrt.cost.length)
    (direct : oldSrt.addrs = [] → oldSrt.dst = dp.nxtHop)
    (counted : altSrt.laddrs = dsrAddressSize * altSrt.addrs.length) :
    ∃ route, salvageRoute me dp oldSrt altSrt = .ok route := by
  have start : ∃ atSource, (if oldSrt.addrs = [] ∧ oldSrt.dst = dp.nxtHop then
      (.ok true : Except Fault Bool)
      else (at? oldSrt.addrs 0).bind fun first => .ok (decide (first = dp.nxtHop))) =
        .ok atSource := by
    cases addrs : oldSrt.addrs with
    | nil => exact ⟨true, if_pos ⟨rfl, direct addrs⟩⟩
    | cons first rest =>
        rw [if_neg (fun both => absurd both.1 (List.cons_ne_nil _ _))]
        exact ⟨_, rfl⟩
  obtain ⟨atSource, start⟩ := start
  unfold salvageRoute
  rw [start]
  cases atSource with
  | true => exact ⟨_, rfl⟩
  | false =>
      obtain ⟨split, parted, toMeSized⟩ := dsrSrtNewSplit_returns sized priced me
      simp only [Except.bind, Bool.false_eq_true, if_false, parted]
      cases split with
      | none => exact ⟨none, rfl⟩
      | some toMe =>
          have joined : dsrSrtConcatenate toMe altSrt = .ok _ :=
            dsrSrtConcatenate_eq (toMeSized toMe rfl) (DsrSrt.count_of_laddrs counted)
          simp only [joined]
          exact ⟨_, rfl⟩

theorem dsrSrtNextHop_returns {srt : DsrSrt} {sleft : Nat}
    (sized : srt.count = srt.addrs.length) (left : sleft ≤ srt.addrs.length) :
    ∃ nxtHop, dsrSrtNextHop srt sleft = .ok nxtHop := by
  unfold dsrSrtNextHop
  by_cases ended : (sleft : Int) ≤ 0
  · exact ⟨srt.dst, if_pos ended⟩
  · have index : (srt.count : Int) - sleft = ((srt.addrs.length - sleft : Nat) : Int) := by
      rw [sized]
      omega
    have inside : srt.addrs.length - sleft < srt.addrs.length := by omega
    rw [if_neg ended, index, atInt, if_neg (Int.not_lt.mpr (Int.natCast_nonneg _)),
      Int.toNat_natCast]
    exact ⟨_, at?_ok.mpr (List.getElem?_eq_getElem inside)⟩

theorem salvagePacket_returns {me : InAddr} {dp : DsrPkt} {altSrt : Option DsrSrt}
    (separates : ∀ opt ∈ dp.srtOpt, dp.Separates opt)
    (counted : ∀ srt ∈ altSrt, srt.laddrs = dsrAddressSize * srt.addrs.length)
    (short : ∀ srt ∈ altSrt, srt.addrs.length < 2 ^ 6) :
    ∃ salvaged, salvagePacket me dp altSrt = .ok salvaged := by
  unfold salvagePacket
  cases altSrt with
  | none => exact ⟨none, rfl⟩
  | some altSrt =>
      cases route : dp.srtOpt with
      | none => exact ⟨none, rfl⟩
      | some opt =>
          obtain ⟨⟨costs, taken⟩, sized, direct⟩ := separates opt route
          have priced : costs = [] ∨ opt.addrs.length < costs.length :=
            (length_srtCosts taken).imp And.right fun full => by omega
          obtain ⟨found, routed⟩ : ∃ route, salvageRoute me dp
              { src := dp.src, dst := dp.dst, flags := srtBidir, laddrs := opt.length - 2
                addrs := opt.addrs, cost := costs } altSrt = .ok route :=
            salvageRoute_returns sized priced direct (counted altSrt rfl)
          simp only [dsrSrtNew, taken, Except.bind, routed]
          cases found with
          | none => exact ⟨none, rfl⟩
          | some found =>
              obtain ⟨srt, sleft⟩ := found
              obtain ⟨front, addrs, count, -, rfl⟩ :=
                salvageRoute_behind (counted altSrt rfl) routed
              have whole : srt.count = srt.addrs.length := by
                rw [count, addrs, List.length_append]
              have left : altSrt.addrs.length % 2 ^ 6 ≤ srt.addrs.length := by
                rw [Nat.mod_eq_of_lt (short altSrt rfl), addrs, List.length_append]
                omega
              obtain ⟨nxtHop, next⟩ := dsrSrtNextHop_returns whole left
              simp only [dsrSrtCheckDuplicate_eq whole]
              split
              · exact ⟨none, rfl⟩
              · simp only [next]
                exact ⟨_, rfl⟩

/-! ## Entries that are due -/

def dueAmong (now : SimTime) (buf : List Slot) : List Slot :=
  buf.filter fun slot => slot.Due now

/-- The entry has been sent as often as it may be. -/
def MaintAgent.Exhausted (agent : MaintAgent Cache) (slot : Slot) : Prop :=
  agent.maxMaintRexmt ≤ slot.entry.rexmt + 1

instance (agent : MaintAgent Cache) (slot : Slot) : Decidable (agent.Exhausted slot) :=
  inferInstanceAs (Decidable (_ ≤ _))

theorem mem_dueAmong {now : SimTime} {buf : List Slot} {slot : Slot} :
    slot ∈ dueAmong now buf ↔ slot ∈ buf ∧ slot.Due now := by
  unfold dueAmong
  rw [List.mem_filter, decide_eq_true_iff]

theorem dueAmong_cons {now : SimTime} {slot : Slot} {rest : List Slot} (due : slot.Due now) :
    dueAmong now (slot :: rest) = slot :: dueAmong now rest :=
  List.filter_cons_of_pos (decide_eq_true due)

theorem filter_insertSlot {kept : Slot → Bool} {slot : Slot} (out : kept slot = false)
    (buf : List Slot) : (insertSlot slot buf).filter kept = buf.filter kept := by
  induction buf with
  | nil => simp [insertSlot, out]
  | cons first rest ih =>
      unfold insertSlot
      split
      · rw [List.filter_cons, List.filter_cons, ih]
      · rw [List.filter_cons, if_neg (by simp [out])]

theorem dueAmong_insertSlot {now : SimTime} {slot : Slot} (waits : ¬slot.Due now)
    (buf : List Slot) : dueAmong now (insertSlot slot buf) = dueAmong now buf :=
  filter_insertSlot (decide_eq_false waits) buf

namespace MaintState

variable {agent : MaintAgent Cache} {s s' : MaintState Cache}

theorem maintBuf_maintInsert (room : s.maintBuf.length < maxMaintBuff) (slot : Slot) :
    (s.maintInsert slot).maintBuf = insertSlot { slot with node := s.nodes } s.maintBuf := by
  have none : s.evicted = [] := if_neg (Nat.not_le.mpr room)
  unfold maintInsert
  rw [none]
  rfl

theorem Timed.long (timed : s.Timed) {dp : DsrPkt} {neigh : Neighbor}
    (known : s.neighborMap.lookup dp.nxtHop = some neigh) : 10000 ≤ neigh.rto := by
  have ranged : 20 ≤ neigh.tRxtcur := timed.neighbors _ _ known
  unfold Neighbor.rto
  omega

/-- The timer is stopped while an entry is due. -/
structure Alert (s : MaintState Cache) : Prop where
  ordered : s.Ordered
  timed : s.Timed
  stopped : ∀ slot ∈ s.maintBuf, slot.Due s.now → s.ackTimer = none

theorem Ordered.waits (ordered : s.Ordered) {slot : Slot} {rest : List Slot}
    (first : s.maintBuf = slot :: rest) (waits : ¬slot.Due s.now) :
    ∀ other ∈ s.maintBuf, ¬other.Due s.now := by
  intro other member due
  have least : slot.key ≤ other.key := ordered.first_key first other member
  exact waits (least.trans due)

theorem Ordered.first_due (ordered : s.Ordered) (some : ¬∀ slot ∈ s.maintBuf, ¬slot.Due s.now) :
    ∃ slot rest, s.maintBuf = slot :: rest ∧ slot.Due s.now := by
  cases first : s.maintBuf with
  | nil =>
      rw [first] at some
      exact absurd (List.forall_mem_nil _) some
  | cons slot rest =>
      refine ⟨slot, rest, rfl, ?_⟩
      by_contra waits
      exact some (ordered.waits first waits)

theorem now_change (change : Change agent s s') : s'.now = s.now := by
  cases change <;> rfl

theorem Alert.change (alert : s.Alert) (change : Change agent s s') : s'.Alert := by
  refine ⟨alert.ordered.step change, alert.timed.step change, ?_⟩
  cases change with
  | setTimer first waits =>
      intro other member due
      exact absurd due (alert.ordered.waits first waits other member)
  | retransmit idle first due again => exact fun _ _ _ => idle
  | linkBreak cache reported idle first due exhausted given names => exact fun _ _ _ => idle
  | @salvage before after slot how cache among declared given =>
      intro other member due
      refine alert.stopped other ?_ due
      have kept : other ∈ before ++ after := member
      rw [among]
      simp only [List.mem_append, List.mem_cons] at kept ⊢
      exact kept.imp id .inr
  | @buffer dp neigh known =>
      intro other member due
      cases mem_maintInsert member with
      | inl created =>
          rw [created] at due
          exact absurd due (not_due_of_timeout (alert.timed.long known))
      | inr old => exact alert.stopped other old due
  | routes cache => exact alert.stopped

theorem Alert.of_cache (alert : s.Alert) {cache : Cache} {left : List Departure} :
    ({ s with cache := cache, left := left } : MaintState Cache).Alert :=
  ⟨alert.ordered.of_sublist (.refl _) (Nat.le_refl _),
    alert.timed.of_sublist rfl (List.Subset.refl _), alert.stopped⟩

end MaintState

open MaintState

theorem MaintAgent.Changes.now {agent : MaintAgent Cache} {s s' : MaintState Cache}
    (changes : agent.Changes s s') : s'.now = s.now := by
  induction changes with
  | refl => rfl
  | tail _ last ih => exact (now_change last).trans ih

theorem MaintAgent.Changes.alert {agent : MaintAgent Cache} {s s' : MaintState Cache}
    (changes : agent.Changes s s') (alert : s.Alert) : s'.Alert :=
  changes.keeps alert fun holds change => holds.change change

/-! ## Calls that only retransmit -/

/-- The number of entries for a next hop. -/
def MaintState.waitingFor (nxtHop : InAddr) (s : MaintState Cache) : Nat :=
  s.maintBuf.countP fun slot => slot.entry.nxtHop = nxtHop

/-- A call has only retransmitted entries, all that were due: the others are still there, and
for each next hop there are as many as before. -/
structure MaintState.Retransmits (s s' : MaintState Cache) : Prop where
  quiet : ∀ slot ∈ s'.maintBuf, ¬slot.Due s.now
  waiting : ∀ slot ∈ s.maintBuf, ¬slot.Due s.now → slot ∈ s'.maintBuf
  hops : ∀ nxtHop, s'.waitingFor nxtHop = s.waitingFor nxtHop

namespace MaintAgent

variable {agent : MaintAgent Cache} {s s' : MaintState Cache} {depth : Nat}

theorem maintBufSetTimeout_due {slot : Slot} {rest : List Slot} (first : s.maintBuf = slot :: rest)
    (due : slot.Due s.now) : agent.maintBufSetTimeout (depth + 1) s =
      agent.maintBufTimeout (agent.maintBufSetTimeout depth) depth s := by
  rw [maintBufSetTimeout]
  simp only [first, due, if_true]

theorem maintBufTimeout_due {setTimeout : MaintState Cache → Except Fault (MaintState Cache)}
    {rounds : Nat} {slot : Slot} {rest : List Slot} (idle : s.ackTimer = none)
    (first : s.maintBuf = slot :: rest) (due : slot.Due s.now) :
    agent.maintBufTimeout setTimeout rounds s =
      if slot.entry.rexmt + 1 ≥ agent.maxMaintRexmt then
        agent.linkBreak setTimeout rounds slot { s with maintBuf := rest }
      else setTimeout (s.retransmit slot rest) := by
  rw [maintBufTimeout]
  simp only [idle, first, due, not_true_eq_false, if_false, Option.isSome_none,
    Bool.false_eq_true]

theorem retransmits_of_quiet (quiet : ∀ slot ∈ s.maintBuf, ¬slot.Due s.now) :
    s.Retransmits s.arm := by
  constructor
  · rw [maintBuf_arm]
    exact quiet
  · rw [maintBuf_arm]
    exact fun slot member _ => member
  · intro nxtHop
    rw [waitingFor, maintBuf_arm, waitingFor]

theorem retransmit_again (alert : s.Alert) {slot : Slot} {rest : List Slot}
    (first : s.maintBuf = slot :: rest) : ∃ again : Slot, ¬again.Due s.now ∧
      again.entry.nxtHop = slot.entry.nxtHop ∧ again.entry.dp = slot.entry.dp ∧
      (s.retransmit slot rest).maintBuf = insertSlot again rest := by
  have room : rest.length < maxMaintBuff := by
    have bounded := alert.ordered.bounded
    rw [first, List.length_cons] at bounded
    exact bounded
  have long : 10000 ≤ slot.entry.rto := alert.timed.slots slot (by simp [first])
  let again : Slot := { slot with
    key := s.now + usecs slot.entry.rto
    node := s.nodes
    entry := { slot.entry with
      rexmt := slot.entry.rexmt + 1, txTime := s.now
      expires := s.now + usecs slot.entry.rto } }
  have waits : ¬again.Due s.now := not_due_of_timeout long
  exact ⟨again, waits, rfl, rfl, maintBuf_maintInsert room _⟩

theorem maintBufSetTimeout_retransmits (alert : s.Alert)
    (again : ∀ slot ∈ s.maintBuf, slot.Due s.now → ¬agent.Exhausted slot)
    (enough : (dueAmong s.now s.maintBuf).length < depth) :
    ∃ s', agent.maintBufSetTimeout depth s = .ok s' ∧ s.Retransmits s' := by
  induction depth generalizing s with
  | zero => exact absurd enough (Nat.not_lt_zero _)
  | succ depth ih =>
      by_cases quiet : ∀ slot ∈ s.maintBuf, ¬slot.Due s.now
      · exact ⟨s.arm, maintBufSetTimeout_quiet depth quiet, retransmits_of_quiet quiet⟩
      obtain ⟨slot, rest, first, due⟩ := alert.ordered.first_due quiet
      have member : slot ∈ s.maintBuf := by
        rw [first]
        exact List.mem_cons_self
      have idle : s.ackTimer = none := alert.stopped slot member due
      have left : slot.entry.rexmt + 1 < agent.maxMaintRexmt :=
        Nat.lt_of_not_le (again slot member due)
      have alert₁ : (s.retransmit slot rest).Alert :=
        alert.change (.retransmit idle first due left)
      obtain ⟨sent, waits, hop, -, buf⟩ := retransmit_again alert first
      have fewer : (dueAmong s.now (s.retransmit slot rest).maintBuf).length < depth := by
        rw [first, dueAmong_cons due, List.length_cons] at enough
        rw [buf, dueAmong_insertSlot waits]
        exact Nat.lt_of_succ_lt_succ enough
      have again₁ : ∀ other ∈ (s.retransmit slot rest).maintBuf, other.Due s.now →
          ¬agent.Exhausted other := by
        intro other among due
        rw [buf] at among
        cases mem_insertSlot.mp among with
        | inl same => exact absurd due (same ▸ waits)
        | inr old => exact again other (by rw [first]; exact List.mem_cons_of_mem slot old) due
      obtain ⟨s', ran, retransmits⟩ := ih alert₁ again₁ fewer
      refine ⟨s', ?_, retransmits.quiet, ?_, ?_⟩
      · rw [maintBufSetTimeout_due first due, maintBufTimeout_due idle first due,
          if_neg (Nat.not_le.mpr left), ran]
      · intro other among waiting
        apply retransmits.waiting other ?_ waiting
        rw [buf]
        apply mem_insertSlot.mpr
        cases List.mem_cons.mp (first ▸ among) with
        | inl same => exact absurd due (same ▸ waiting)
        | inr old => exact .inr old
      · intro nxtHop
        rw [retransmits.hops, waitingFor, waitingFor, buf, first,
          (perm_insertSlot sent rest).countP_eq, List.countP_cons, List.countP_cons, hop]

theorem maintBufSetTimeout_quiets (alert : s.Alert)
    (ran : agent.maintBufSetTimeout depth s = .ok s') :
    ∀ slot ∈ s'.maintBuf, ¬slot.Due s'.now := by
  induction depth generalizing s s' with
  | zero => cases ran
  | succ depth ih =>
      rcases maintBufSetTimeout_cases ran with
        ⟨none, rfl⟩ | ⟨slot, rest, first, ⟨due, ran⟩ | ⟨waits, rfl⟩⟩
      · rw [none]
        exact List.forall_mem_nil _
      · have idle : s.ackTimer = none := alert.stopped slot (by simp [first]) due
        cases maintBufTimeout_cases ran with
        | pending set same =>
            rw [idle] at set
            cases set
        | empty none same => exact absurd (none.symm.trans first) (List.cons_ne_nil _ _).symm
        | @early other rest' first' waits ran =>
            rw [first] at first'
            cases first'
            exact absurd due waits
        | linkBreak idle first due exhausted ran =>
            obtain ⟨s₁, changes, set⟩ :=
              linkBreak_sets maintBufSetTimeout_changes idle first due exhausted ran
            exact ih (changes.alert alert) set
        | retransmit idle first due left ran =>
            exact ih (alert.change (.retransmit idle first due left)) ran
      · exact alert.ordered.waits first waits

end MaintAgent

/-! ## Salvaging -/

namespace MaintAgent

/-- The entries that are left of a link break, while the loop salvages those for its next hop:
the due ones that were sent as often as they may be are for that next hop, and no due entry is
behind another one for it. -/
structure Looping (agent : MaintAgent Cache) (offers : Cache → InAddr → List InAddr → Prop)
    (nxtHop : InAddr) (s : MaintState Cache) : Prop where
  guarded : Guarded offers s
  alert : s.Alert
  declared : nxtHop ∈ s.broken
  separates : ∀ slot ∈ s.maintBuf, slot.entry.nxtHop = nxtHop → ∀ opt ∈ slot.entry.dp.srtOpt,
    slot.entry.dp.Separates opt
  exhausted : ∀ slot ∈ s.maintBuf, slot.Due s.now → agent.Exhausted slot →
    slot.entry.nxtHop = nxtHop
  last : (dueAmong s.now s.maintBuf).Pairwise fun slot _ => slot.entry.nxtHop ≠ nxtHop

variable {agent : MaintAgent Cache} {offers : Cache → InAddr → List InAddr → Prop}
  {s s' : MaintState Cache} {depth : Nat} {nxtHop : InAddr}

theorem dsrRerrSend_returns {dp : DsrPkt} (reports : dp.Reports agent.myaddr)
    (unrAddr : InAddr) (s : MaintState Cache) : ∃ s', agent.dsrRerrSend dp unrAddr s = .ok s' := by
  unfold dsrRerrSend
  cases route : dp.srtOpt with
  | none => exact ⟨s, rfl⟩
  | some opt =>
      by_cases own : dp.src = agent.myaddr
      · exact ⟨s, if_pos own⟩
      · simp only [if_neg own]
        by_cases fresh : opt.salv = 0
        · rw [if_pos fresh]
          exact ⟨_, rfl⟩
        · have inside : 1 < opt.addrs.length :=
            ((reports opt route).resolve_left own).resolve_left fresh
          rw [if_neg fresh, at?_ok.mpr (List.getElem?_eq_getElem inside)]
          exact ⟨_, rfl⟩

variable (lawful : agent.routes.Lawful offers)

include lawful

/-- A packet is salvaged without another call, or is buffered and the timeouts looked for. -/
theorem maintBufSalvage_calls
    (setTimeout : MaintState Cache → Except Fault (MaintState Cache)) (dp : DsrPkt)
    (leaves : Leave → List Departure) (guarded : Guarded offers s)
    (separates : ∀ opt ∈ dp.srtOpt, dp.Separates opt) : ∃ cache left,
      Tidies offers s { s with cache := cache, left := left } ∧
      (agent.maintBufSalvage setTimeout dp leaves s =
        .ok { s with cache := cache, left := left } ∨
      ∃ dp' neigh, dp'.nxtHop ∉ s.broken ∧ s.neighborMap.lookup dp'.nxtHop = some neigh ∧
        agent.maintBufSalvage setTimeout dp leaves s =
          setTimeout (({ s with cache := cache, left := left } : MaintState Cache).buffer
            agent.maintHoldoffTime dp' neigh)) := by
  obtain ⟨salvaged, packet⟩ : ∃ salvaged, salvagePacket agent.myaddr dp
      (agent.routes.rtcFind s.now agent.myaddr dp.dst s.cache).1 = .ok salvaged :=
    salvagePacket_returns separates (fun srt here => (lawful.found here).2.1)
      fun srt here => guarded.short _ _ (lawful.found here).2.2
  have searched (left : List Departure) : Tidies offers s { s with
      cache := (agent.routes.rtcFind s.now agent.myaddr dp.dst s.cache).2, left := left } :=
    .of_sublist guarded (.refl _) rfl rfl fun _ _ => lawful.findKeeps
  unfold maintBufSalvage
  simp only [packet, Except.bind]
  cases salvaged with
  | none => exact ⟨_, _, searched _, .inl rfl⟩
  | some dp' =>
      refine ⟨_, _, searched (s.left ++ leaves .salvaged), ?_⟩
      simp only [maintBufAdd]
      cases asked : dp'.hasFlag pktRequestAck with
      | false => exact .inl rfl
      | true =>
          cases known : s.neighborMap.lookup dp'.nxtHop with
          | none => exact .inl rfl
          | some neigh =>
              exact .inr ⟨dp', neigh, salvagePacket_unbroken lawful guarded packet, known, rfl⟩

/-- Salvaging leaves the entries that were there, or none that is due. -/
theorem Looping.salvaged {dp : DsrPkt} {leaves : Leave → List Departure}
    (looping : agent.Looping offers nxtHop s)
    (ran : agent.maintBufSalvage (agent.maintBufSetTimeout depth) dp leaves s = .ok s')
    (result : s'.maintBuf = s.maintBuf ∨ ∀ slot ∈ s'.maintBuf, ¬slot.Due s'.now) :
    agent.Looping offers nxtHop s' := by
  have tidies : Tidies offers s s' :=
    maintBufSalvage_tidies lawful (maintBufSetTimeout_tidies lawful) looping.guarded ran
  obtain ⟨how, cache, -, changes⟩ := maintBufSalvage_changes maintBufSetTimeout_changes ran
  have now : s'.now = s.now := changes.now
  constructor
  · exact tidies.guarded
  · exact changes.alert looping.alert.of_cache
  · exact tidies.broken looping.declared
  · intro slot member same
    obtain ⟨old, among, hop, dp⟩ := tidies.kept slot member (same ▸ looping.declared)
    rw [← dp]
    exact looping.separates old among (hop.trans same)
  · cases result with
    | inl unchanged =>
        rw [unchanged, now]
        exact looping.exhausted
    | inr quiet => exact fun slot member due => absurd due (quiet slot member)
  · cases result with
    | inl unchanged =>
        rw [unchanged, now]
        exact looping.last
    | inr quiet =>
        have none : dueAmong s'.now s'.maintBuf = [] := by
          apply List.filter_eq_nil_iff.mpr
          intro slot member due
          exact quiet slot member (of_decide_eq_true due)
        rw [none]
        exact .nil

omit lawful in
theorem Looping.of_sublist (looping : agent.Looping offers nxtHop s) {buf : List Slot}
    (kept : buf.Sublist s.maintBuf) :
    agent.Looping offers nxtHop { s with maintBuf := buf } := by
  have tidies : Tidies offers s { s with maintBuf := buf } :=
    .of_sublist looping.guarded kept rfl rfl fun _ _ offered => offered
  constructor
  · exact tidies.guarded
  · exact ⟨tidies.guarded.ordered, looping.alert.timed.of_sublist rfl kept.subset,
      fun slot member => looping.alert.stopped slot (kept.subset member)⟩
  · exact looping.declared
  · exact fun slot member => looping.separates slot (kept.subset member)
  · exact fun slot member => looping.exhausted slot (kept.subset member)
  · exact looping.last.sublist (kept.filter _)

omit lawful in
/-- No entry is due behind one that the loop salvages. -/
theorem Looping.waits_behind {before later : List Slot} {slot : Slot}
    (looping : agent.Looping offers nxtHop s) (among : s.maintBuf = before ++ slot :: later)
    (same : slot.entry.nxtHop = nxtHop) : ∀ other ∈ later, ¬other.Due s.now := by
  intro other member due
  have sorted := looping.guarded.ordered.sorted
  rw [among] at sorted
  have least : slot.key ≤ other.key :=
    (List.pairwise_cons.mp (List.pairwise_append.mp sorted).2.1).1 other member
  have pair : [slot, other].Sublist s.maintBuf := by
    rw [among]
    exact ((List.singleton_sublist.mpr member).cons_cons slot).trans
      (List.sublist_append_right before _)
  have duePair : [slot, other].Sublist (dueAmong s.now s.maintBuf) := by
    have both : (dueAmong s.now [slot, other]).Sublist (dueAmong s.now s.maintBuf) :=
      pair.filter _
    have due' : slot.Due s.now := least.trans due
    rw [dueAmong_cons due', dueAmong_cons due] at both
    exact both
  exact List.pairwise_iff_forall_sublist.mp looping.last duePair same

/-- One packet is salvaged. Where the timeouts are looked for, every due entry is one that the
iterator has passed, and is retransmitted. -/
theorem Looping.salvageNext {before later : List Slot} {dp : DsrPkt}
    {leaves : Leave → List Departure} (looping : agent.Looping offers nxtHop s)
    (among : s.maintBuf = before ++ later) (room : s.maintBuf.length < maxMaintBuff)
    (clear : ∀ other ∈ before, other.entry.nxtHop ≠ nxtHop)
    (waits : ∀ other ∈ later, ¬other.Due s.now)
    (separates : ∀ opt ∈ dp.srtOpt, dp.Separates opt) (deep : maxMaintBuff < depth) :
    ∃ s', agent.maintBufSalvage (agent.maintBufSetTimeout depth) dp leaves s = .ok s' ∧
      agent.Looping offers nxtHop s' ∧ (∀ other ∈ later, other ∈ s'.maintBuf) ∧
      s'.waitingFor nxtHop = s.waitingFor nxtHop := by
  have behind : ∀ other ∈ later, other ∈ s.maintBuf := by
    rw [among]
    exact fun other member => List.mem_append_right before member
  obtain ⟨cache, left, tidies, ran | ⟨dp', neigh, unbroken, known, ran⟩⟩ :=
    maintBufSalvage_calls lawful (agent.maintBufSetTimeout depth) dp leaves looping.guarded
      separates
  · exact ⟨_, ran, looping.salvaged lawful ran (.inl rfl), behind, rfl⟩
  · let searched : MaintState Cache := { s with cache := cache, left := left }
    let buffered : MaintState Cache := searched.buffer agent.maintHoldoffTime dp' neigh
    have added : Change agent searched buffered := .buffer known
    have alert : buffered.Alert := looping.alert.of_cache.change added
    have buf : buffered.maintBuf =
        insertSlot (searched.maintEntryCreate dp' neigh
          (searched.asks agent.maintHoldoffTime neigh)) s.maintBuf :=
      maintBuf_buffer room
    have later' : ¬(searched.maintEntryCreate dp' neigh
        (searched.asks agent.maintHoldoffTime neigh)).Due s.now :=
      not_due_of_timeout (looping.alert.timed.long known)
    have again : ∀ slot ∈ buffered.maintBuf, slot.Due s.now → ¬agent.Exhausted slot := by
      intro slot member due exhausted
      rw [buf] at member
      cases mem_insertSlot.mp member with
      | inl created => exact later' (created ▸ due)
      | inr old =>
          have same : slot.entry.nxtHop = nxtHop := looping.exhausted slot old due exhausted
          rw [among] at old
          cases List.mem_append.mp old with
          | inl passed => exact clear slot passed same
          | inr ahead => exact waits slot ahead due
    have few : (dueAmong s.now buffered.maintBuf).length < depth :=
      (List.length_filter_le _ _).trans_lt (alert.ordered.bounded.trans_lt deep)
    obtain ⟨s', returned, retransmits⟩ := maintBufSetTimeout_retransmits alert again few
    have now : s'.now = s.now := (maintBufSetTimeout_changes returned).now
    refine ⟨s', ran.trans returned, ?_, ?_, ?_⟩
    · refine looping.salvaged lawful (ran.trans returned) (.inr ?_)
      rw [now]
      exact retransmits.quiet
    · intro other member
      apply retransmits.waiting other ?_ (waits other member)
      rw [buf]
      exact mem_insertSlot.mpr (.inr (behind other member))
    · have other : dp'.nxtHop ≠ nxtHop := fun same => unbroken (same ▸ looping.declared)
      rw [retransmits.hops, waitingFor, waitingFor, buf, (perm_insertSlot _ _).countP_eq]
      exact List.countP_cons_of_neg (mt of_decide_eq_true other)

omit lawful in
theorem dropWhile_at {before later : List Slot} {slot : Slot} (ordered : s.Ordered)
    (among : s.maintBuf = before ++ slot :: later) :
    (s.maintBuf.dropWhile fun other => other.node ≠ slot.node) = slot :: later := by
  have distinct := ordered.distinct
  rw [among] at distinct ⊢
  have apart := (List.pairwise_append.mp distinct).2.2
  rw [List.dropWhile_append_of_pos]
  · exact List.dropWhile_cons_of_neg (by simp)
  · intro other member
    exact decide_eq_true (apart other member slot List.mem_cons_self)

omit lawful in
theorem dropWhile_reaches {buf : List Slot} {node : Nat}
    (there : ∃ slot ∈ buf, slot.node = node) :
    ∃ slot later, (buf.dropWhile fun slot => slot.node ≠ node) = slot :: later := by
  apply List.exists_cons_of_ne_nil
  intro none
  obtain ⟨slot, member, here⟩ := there
  exact absurd here (of_decide_eq_true (List.dropWhile_eq_nil_iff.mp none slot member))

/-- Before a round of the loop, the iterator is at an entry, and rounds are left for the entries
behind it, even if the buffer is full again whenever one for the next hop is salvaged. -/
structure Iterating (agent : MaintAgent Cache) (offers : Cache → InAddr → List InAddr → Prop)
    (nxtHop : InAddr) (rounds : Nat) (iterator : Option Nat) (s : MaintState Cache) : Prop
    extends Looping agent offers nxtHop s where
  passed : s.Passed nxtHop iterator
  valid : ∀ node ∈ iterator, ∃ slot ∈ s.maintBuf, slot.node = node
  enough : ∀ node ∈ iterator, s.waitingFor nxtHop * (maxMaintBuff + 1) +
    (s.maintBuf.dropWhile fun slot => slot.node ≠ node).length ≤ rounds

section

variable {rounds : Nat} {before later : List Slot} {slot : Slot}

omit lawful in
theorem Iterating.clear (iterating : agent.Iterating offers nxtHop rounds (some slot.node) s)
    (among : s.maintBuf = before ++ slot :: later) :
    ∀ other ∈ before, other.entry.nxtHop ≠ nxtHop := by
  intro other member
  have behind := iterating.passed.behind
  rw [among] at behind
  exact (List.pairwise_append.mp behind).2.2 other member slot List.mem_cons_self rfl

theorem Iterating.salvages
    (iterating : agent.Iterating offers nxtHop (rounds + 1) (some slot.node) s)
    (among : s.maintBuf = before ++ slot :: later)
    (out : (s.maintBuf.eraseP fun other => other.node = slot.node) = before ++ later)
    (same : slot.entry.nxtHop = nxtHop) (deep : maxMaintBuff < depth) :
    ∃ s₁, agent.maintBufSalvage (agent.maintBufSetTimeout depth) slot.entry.dp
        (fun how => [slot.leaves how])
        { s with maintBuf := s.maintBuf.eraseP fun other => other.node = slot.node } = .ok s₁ ∧
      agent.Iterating offers nxtHop rounds (later.head?.map Slot.node) s₁ := by
  let erased : MaintState Cache := { s with
    maintBuf := s.maintBuf.eraseP fun other => other.node = slot.node }
  have left : erased.maintBuf = before ++ later := out
  have start : agent.Looping offers nxtHop erased := iterating.of_sublist List.eraseP_sublist
  have member : slot ∈ s.maintBuf := by simp [among]
  have clear := iterating.clear among
  have room : erased.maintBuf.length < maxMaintBuff := by
    have bounded := iterating.guarded.ordered.bounded
    rw [among] at bounded
    rw [left]
    simp only [List.length_append, List.length_cons] at bounded ⊢
    omega
  obtain ⟨s₁, salvaged, looping₁, kept, waiting⟩ := start.salvageNext lawful left room clear
    (iterating.waits_behind among same) (iterating.separates slot member same) deep
  have next : erased.Passed nxtHop (later.head?.map Slot.node) := start.guarded.passed left clear
  have tidies : Tidies offers erased s₁ :=
    maintBufSalvage_tidies lawful (maintBufSetTimeout_tidies lawful) start.guarded salvaged
  refine ⟨s₁, salvaged, looping₁, tidies.passed nxtHop start.declared _ next, ?_, ?_⟩
  · intro node member
    obtain ⟨other, first, rfl⟩ := Option.mem_map.mp member
    exact ⟨other, kept other (List.mem_of_mem_head? first), rfl⟩
  · intro node _
    have fewer : s₁.waitingFor nxtHop + 1 = s.waitingFor nxtHop := by
      rw [waiting, waitingFor, waitingFor, left, among]
      simp only [List.countP_append, List.countP_cons, same, decide_true, if_true]
      omega
    have short : (s₁.maintBuf.dropWhile fun slot => slot.node ≠ node).length ≤ maxMaintBuff :=
      (List.dropWhile_sublist _).length_le.trans looping₁.guarded.ordered.bounded
    have bound := iterating.enough slot.node rfl
    rw [← fewer, Nat.add_mul, Nat.one_mul] at bound
    omega

omit lawful in
theorem Iterating.advances
    (iterating : agent.Iterating offers nxtHop (rounds + 1) (some slot.node) s)
    (among : s.maintBuf = before ++ slot :: later) (other : slot.entry.nxtHop ≠ nxtHop) :
    agent.Iterating offers nxtHop rounds (later.head?.map Slot.node) s := by
  have among' : s.maintBuf = (before ++ [slot]) ++ later := by simp [among]
  refine ⟨iterating.toLooping, iterating.guarded.passed among' ?_, ?_, ?_⟩
  · intro passed member
    cases List.mem_append.mp member with
    | inl earlier => exact iterating.clear among passed earlier
    | inr last => exact List.mem_singleton.mp last ▸ other
  · intro next member
    obtain ⟨first, head, rfl⟩ := Option.mem_map.mp member
    exact ⟨first, by rw [among']; simp [List.mem_of_mem_head? head], rfl⟩
  · intro next member
    have bound := iterating.enough slot.node rfl
    rw [dropWhile_at iterating.guarded.ordered among] at bound
    cases later with
    | nil => cases member
    | cons first rest =>
        cases member
        rw [dropWhile_at iterating.guarded.ordered among']
        rw [List.length_cons] at bound
        omega

end

theorem salvageLoop_returns {rounds : Nat} {iterator : Option Nat} (deep : maxMaintBuff < depth)
    (iterating : agent.Iterating offers nxtHop rounds iterator s) :
    ∃ s', agent.salvageLoop (agent.maintBufSetTimeout depth) nxtHop rounds iterator s = .ok s' ∧
      agent.Looping offers nxtHop s' := by
  induction rounds generalizing iterator s with
  | zero =>
      cases iterator with
      | none => exact ⟨s, rfl, iterating.toLooping⟩
      | some node =>
          obtain ⟨slot, later, position⟩ := dropWhile_reaches (iterating.valid node rfl)
          -- No rounds are left, but the iterator is at an entry.
          have bound := iterating.enough node rfl
          rw [position, List.length_cons] at bound
          exact absurd bound (by omega)
  | succ rounds ih =>
      cases iterator with
      | none => exact ⟨s, rfl, iterating.toLooping⟩
      | some node =>
          obtain ⟨slot, later, position⟩ := dropWhile_reaches (iterating.valid node rfl)
          obtain ⟨rfl, before, among, out⟩ := erase_at position
          rw [salvageLoop, position]
          by_cases same : slot.entry.nxtHop = nxtHop
          · simp only [same, if_true]
            obtain ⟨s₁, salvaged, iterating₁⟩ := iterating.salvages lawful among out same deep
            obtain ⟨s', ran, looping'⟩ := ih iterating₁
            exact ⟨s', bind_ok.mpr ⟨s₁, salvaged, ran⟩, looping'⟩
          · simp only [same, if_false]
            exact ih (iterating.advances among same)

end MaintAgent

end SyncFanet.Dsr
