import SyncFanet.Dsr.MaintOrder

/-!
# Next hops that were declared broken

While the packets for a broken next hop are salvaged, the calls inside the loop take entries
out of the buffer, put them at another place and add entries for other next hops. What is
behind the iterator stays free of entries for the broken next hop.
-/

set_option autoImplicit false

namespace SyncFanet.Dsr

variable {Cache : Type}

/-! ## Routes around a broken link -/

/-- What the maintenance functions rely on of a route cache, with the routes that it has: it
returns one of them, it loses routes only, and the deletion of a link of this node leaves no
route over that link. -/
structure RouteCache.Lawful (routes : RouteCache Cache)
    (offers : Cache → InAddr → List InAddr → Prop) : Prop where
  found : ∀ {now : SimTime} {me dst : InAddr} {cache : Cache} {srt : DsrSrt},
    (routes.rtcFind now me dst cache).1 = some srt →
      srt.dst = dst ∧ srt.laddrs = dsrAddressSize * srt.addrs.length ∧ offers cache dst srt.addrs
  findKeeps : ∀ {now : SimTime} {me dst dest : InAddr} {cache : Cache} {addrs : List InAddr},
    offers (routes.rtcFind now me dst cache).2 dest addrs → offers cache dest addrs
  deleteKeeps : ∀ {now : SimTime} {me origin via dest : InAddr} {cache : Cache}
    {addrs : List InAddr},
    offers (routes.deleteLink now me origin via cache) dest addrs → offers cache dest addrs
  deleted : ∀ {now : SimTime} {me nxtHop dest : InAddr} {cache : Cache} {addrs : List InAddr},
    offers (routes.deleteLink now me me nxtHop cache) dest addrs → addrs.headD dest ≠ nxtHop

theorem nextHop_behind {srt : DsrSrt} {front rest : List InAddr} {nxtHop : InAddr}
    (addrs : srt.addrs = front ++ rest) (count : srt.count = front.length + rest.length)
    (ran : dsrSrtNextHop srt rest.length = .ok nxtHop) : nxtHop = rest.headD srt.dst := by
  unfold dsrSrtNextHop at ran
  cases rest with
  | nil =>
      simp only [List.length_nil, Nat.cast_zero, Int.le_refl, if_true] at ran
      cases ran
      rfl
  | cons first rest =>
      have left : ¬(((first :: rest).length : Nat) : Int) ≤ 0 := by
        simp only [List.length_cons]
        omega
      have index : ((srt.count : Int) - ((first :: rest).length : Nat)) = (front.length : Int) := by
        rw [count]
        omega
      have here : srt.addrs[front.length]? = some first := by
        rw [addrs]
        simp
      rw [if_neg left, index] at ran
      simp only [atInt, Int.toNat_natCast, at?, here,
        if_neg (Int.not_lt.mpr (Int.natCast_nonneg front.length))] at ran
      cases ran
      rfl

theorem salvageRoute_behind {myaddr : InAddr} {dp : DsrPkt} {oldSrt altSrt srt : DsrSrt}
    {sleft : Nat} (counted : altSrt.laddrs = dsrAddressSize * altSrt.addrs.length)
    (ran : salvageRoute myaddr dp oldSrt altSrt = .ok (some (srt, sleft))) :
    ∃ front, srt.addrs = front ++ altSrt.addrs ∧
      srt.count = front.length + altSrt.addrs.length ∧ srt.dst = altSrt.dst ∧
      sleft = altSrt.addrs.length := by
  have altCount : altSrt.count = altSrt.addrs.length := by
    unfold DsrSrt.count
    rw [counted]
    exact Nat.mul_div_cancel_left _ (by decide)
  obtain ⟨atSource, -, ran⟩ := bind_ok.mp ran
  cases atSource with
  | true =>
      simp only [if_true, Except.ok.injEq, Option.some.injEq, Prod.mk.injEq] at ran
      obtain ⟨rfl, rfl⟩ := ran
      exact ⟨[], rfl, by rw [altCount]; simp, rfl, rfl⟩
  | false =>
      simp only [Bool.false_eq_true, if_false] at ran
      obtain ⟨srtToMe, split, ran⟩ := bind_ok.mp ran
      cases srtToMe with
      | none => cases ran
      | some srtToMe =>
          obtain ⟨joined, concatenated, ran⟩ := bind_ok.mp ran
          cases ran
          obtain ⟨_, checked, concatenated⟩ := bind_ok.mp concatenated
          obtain ⟨_, -, concatenated⟩ := bind_ok.mp concatenated
          cases concatenated
          have toMe : srtToMe.count = srtToMe.addrs.length := by
            unfold DsrSrt.checkSize at checked
            split at checked
            · assumption
            · cases checked
          refine ⟨srtToMe.addrs ++ [altSrt.src], by simp, ?_, rfl, ?_⟩
          · show (srtToMe.count + altSrt.count + 1) * dsrAddressSize / dsrAddressSize = _
            rw [Nat.mul_div_cancel _ (by decide), toMe, altCount]
            simp only [List.length_append, List.length_cons, List.length_nil]
            omega
          · simp only [List.length_append, List.length_cons]
            omega

theorem salvagePacket_nxtHop {myaddr : InAddr} {dp dp' : DsrPkt} {altSrt : DsrSrt}
    (counted : altSrt.laddrs = dsrAddressSize * altSrt.addrs.length)
    (short : altSrt.addrs.length < 2 ^ 6)
    (ran : salvagePacket myaddr dp (some altSrt) = .ok (some dp')) :
    dp'.nxtHop = altSrt.addrs.headD altSrt.dst := by
  unfold salvagePacket at ran
  cases route : dp.srtOpt with
  | none =>
      simp only [route] at ran
      cases ran
  | some srtOpt =>
      simp only [route] at ran
      obtain ⟨oldSrt, -, ran⟩ := bind_ok.mp ran
      obtain ⟨found, routed, ran⟩ := bind_ok.mp ran
      cases found with
      | none => cases ran
      | some found =>
          obtain ⟨srt, sleft⟩ := found
          obtain ⟨duplicate, -, ran⟩ := bind_ok.mp ran
          cases duplicate with
          | true => cases ran
          | false =>
              obtain ⟨nxtHop, next, ran⟩ := bind_ok.mp ran
              cases ran
              obtain ⟨front, addrs, count, dst, rfl⟩ := salvageRoute_behind counted routed
              rw [Nat.mod_eq_of_lt short] at next
              rw [← dst]
              exact nextHop_behind addrs count next

/-! ## Behind the iterator -/

namespace MaintState

def Clear (nxtHop : InAddr) (s : MaintState Cache) : Prop :=
  ∀ slot ∈ s.maintBuf, slot.entry.nxtHop ≠ nxtHop

/-- The iterator has passed entries for other next hops only, which are all of them where it
is at the end. -/
structure Passed (nxtHop : InAddr) (iterator : Option Nat) (s : MaintState Cache) : Prop where
  created : ∀ node ∈ iterator, node < s.nodes
  behind : s.maintBuf.Pairwise fun slot other =>
    some other.node = iterator → slot.entry.nxtHop ≠ nxtHop
  ended : iterator = none → s.Clear nxtHop

variable {s s' : MaintState Cache} {nxtHop : InAddr} {iterator : Option Nat}

theorem Clear.passed (clear : s.Clear nxtHop) : s.Passed nxtHop none :=
  ⟨nofun, List.pairwise_of_forall fun _ _ here => absurd here (Option.some_ne_none _),
    fun _ => clear⟩

namespace Passed

theorem of_sublist (passed : s.Passed nxtHop iterator)
    (kept : s'.maintBuf.Sublist s.maintBuf) (nodes : s'.nodes = s.nodes) :
    s'.Passed nxtHop iterator := by
  constructor
  · rw [nodes]
    exact passed.created
  · exact passed.behind.sublist kept
  · exact fun ended slot member => passed.ended ended slot (kept.subset member)

/-- An entry for another next hop may come to stand anywhere, and an entry that was not
passed behind the iterator. -/
theorem maintInsert (passed : s.Passed nxtHop iterator) {slot : Slot}
    (ahead : ∀ other ∈ s.maintBuf, some other.node = iterator → slot.entry.nxtHop ≠ nxtHop)
    (ended : iterator = none → slot.entry.nxtHop ≠ nxtHop) :
    (s.maintInsert slot).Passed nxtHop iterator := by
  constructor
  · intro node member
    exact (passed.created node member).trans (Nat.lt_succ_self s.nodes)
  · apply pairwise_insertSlot (passed.behind.sublist (List.drop_sublist _ _))
    · intro other member here
      exact ahead other (List.mem_of_mem_drop member) here
    · intro other member here
      -- the iterator is older than the new node
      have created : s.nodes < s.nodes := passed.created s.nodes here.symm
      exact absurd created (Nat.lt_irrefl s.nodes)
  · intro finished other member
    cases mem_maintInsert member with
    | inl created =>
        rw [created]
        exact ended finished
    | inr old => exact passed.ended finished other old

theorem retransmit (passed : s.Passed nxtHop iterator) {slot : Slot} {rest : List Slot}
    (first : s.maintBuf = slot :: rest) : (s.retransmit slot rest).Passed nxtHop iterator := by
  have removed : ({ s with maintBuf := rest } : MaintState Cache).Passed nxtHop iterator :=
    passed.of_sublist (by rw [first]; exact List.sublist_cons_self slot rest) rfl
  apply removed.maintInsert
  · have behind := passed.behind
    rw [first] at behind
    exact (List.pairwise_cons.mp behind).1
  · exact fun ended => passed.ended ended slot (by simp [first])

theorem buffer (passed : s.Passed nxtHop iterator) {holdoff : Nat} {dp : DsrPkt}
    {neigh : Neighbor} (other : dp.nxtHop ≠ nxtHop) :
    (s.buffer holdoff dp neigh).Passed nxtHop iterator := by
  have inserted : (s.maintInsert
      (s.maintEntryCreate dp neigh (s.asks holdoff neigh))).Passed nxtHop iterator :=
    passed.maintInsert (fun _ _ _ => other) fun _ => other
  exact ⟨inserted.created, inserted.behind, inserted.ended⟩

end Passed

end MaintState

/-! ## Calls -/

/-- A state inside an event: no route leads over a link that was declared broken in it, and
all routes fit into the segments left of a packet. -/
structure Guarded (offers : Cache → InAddr → List InAddr → Prop) (s : MaintState Cache) :
    Prop where
  ordered : s.Ordered
  severed : ∀ nxtHop ∈ s.broken, ∀ dest addrs, offers s.cache dest addrs →
    addrs.headD dest ≠ nxtHop
  short : ∀ dest addrs, offers s.cache dest addrs → addrs.length < 2 ^ 6

theorem Guarded.passed {offers : Cache → InAddr → List InAddr → Prop} {s : MaintState Cache}
    (guarded : Guarded offers s) {nxtHop : InAddr} {before later : List Slot}
    (among : s.maintBuf = before ++ later)
    (clear : ∀ slot ∈ before, slot.entry.nxtHop ≠ nxtHop) :
    s.Passed nxtHop (later.head?.map Slot.node) := by
  have distinct := guarded.ordered.distinct
  rw [among] at distinct
  constructor
  · intro node member
    obtain ⟨slot, first, rfl⟩ := Option.mem_map.mp member
    exact guarded.ordered.fresh slot (by rw [among]; simp [List.mem_of_mem_head? first])
  · rw [among]
    apply List.pairwise_append.mpr
    refine ⟨List.pairwise_of_forall_mem_list fun slot member _ _ _ => clear slot member, ?_,
      fun slot member _ _ _ => clear slot member⟩
    cases later with
    | nil => exact .nil
    | cons first rest =>
        -- no other entry is at the iterator
        have apart := (List.pairwise_cons.mp (List.pairwise_append.mp distinct).2.1).1
        have elsewhere : ∀ other ∈ rest, some other.node ≠ some first.node := by
          intro other member same
          exact apart other member (Option.some.inj same).symm
        apply List.pairwise_cons.mpr
        exact ⟨fun other member here => absurd here (elsewhere other member),
          List.pairwise_of_forall_mem_list fun _ _ other member here =>
            absurd here (elsewhere other member)⟩
  · intro ended slot member
    cases later with
    | nil =>
        rw [among, List.append_nil] at member
        exact clear slot member
    | cons first rest => cases ended

/-- A call keeps what the iterators of the calls around it have passed, adds no entry for a
next hop that was declared broken before, and leaves none for one that it declares broken. -/
structure Tidies (offers : Cache → InAddr → List InAddr → Prop) (s s' : MaintState Cache) :
    Prop where
  guarded : Guarded offers s'
  broken : s.broken ⊆ s'.broken
  passed : ∀ nxtHop ∈ s.broken, ∀ iterator, s.Passed nxtHop iterator →
    s'.Passed nxtHop iterator
  kept : ∀ slot ∈ s'.maintBuf, slot.entry.nxtHop ∈ s.broken → ∃ old ∈ s.maintBuf,
    old.entry.nxtHop = slot.entry.nxtHop ∧ old.entry.dp = slot.entry.dp
  cleared : ∀ nxtHop ∈ s'.broken, nxtHop ∉ s.broken → s'.Clear nxtHop

namespace Tidies

variable {offers : Cache → InAddr → List InAddr → Prop} {s s₁ s' : MaintState Cache}

theorem clear (tidies : Tidies offers s s') {nxtHop : InAddr} (declared : nxtHop ∈ s.broken)
    (clear : s.Clear nxtHop) : s'.Clear nxtHop :=
  (tidies.passed nxtHop declared none clear.passed).ended rfl

theorem trans (first : Tidies offers s s₁) (second : Tidies offers s₁ s') :
    Tidies offers s s' := by
  constructor
  · exact second.guarded
  · exact fun _ member => second.broken (first.broken member)
  · intro nxtHop declared iterator passed
    exact second.passed nxtHop (first.broken declared) iterator
      (first.passed nxtHop declared iterator passed)
  · intro slot member declared
    obtain ⟨between, member₁, hop₁, dp₁⟩ := second.kept slot member (first.broken declared)
    obtain ⟨old, among, hop, dp⟩ := first.kept between member₁ (hop₁ ▸ declared)
    exact ⟨old, among, hop.trans hop₁, dp.trans dp₁⟩
  · intro nxtHop declared before
    by_cases between : nxtHop ∈ s₁.broken
    · exact second.clear between (first.cleared nxtHop between before)
    · exact second.cleared nxtHop declared between

theorem of_sublist (guarded : Guarded offers s) (kept : s'.maintBuf.Sublist s.maintBuf)
    (nodes : s'.nodes = s.nodes) (broken : s'.broken = s.broken)
    (lost : ∀ dest addrs, offers s'.cache dest addrs → offers s.cache dest addrs) :
    Tidies offers s s' := by
  constructor
  · constructor
    · exact guarded.ordered.of_sublist kept nodes.ge
    · rw [broken]
      exact fun nxtHop declared dest addrs offered =>
        guarded.severed nxtHop declared dest addrs (lost dest addrs offered)
    · exact fun dest addrs offered => guarded.short dest addrs (lost dest addrs offered)
  · rw [broken]
    exact List.Subset.refl _
  · exact fun _ _ _ passed => passed.of_sublist kept nodes
  · exact fun slot member _ => ⟨slot, kept.subset member, rfl, rfl⟩
  · rw [broken]
    exact fun _ declared undeclared => absurd declared undeclared

theorem refl (guarded : Guarded offers s) : Tidies offers s s :=
  of_sublist guarded (.refl _) rfl rfl fun _ _ offered => offered

theorem retransmit (guarded : Guarded offers s) {slot : Slot} {rest : List Slot}
    (first : s.maintBuf = slot :: rest) : Tidies offers s (s.retransmit slot rest) := by
  constructor
  · exact ⟨guarded.ordered.retransmit first, guarded.severed, guarded.short⟩
  · exact List.Subset.refl _
  · exact fun _ _ _ passed => passed.retransmit first
  · intro other member _
    cases MaintState.mem_maintInsert member with
    | inl again =>
        rw [again]
        exact ⟨slot, by rw [first]; exact List.mem_cons_self, rfl, rfl⟩
    | inr old =>
        have among : other ∈ rest := old
        exact ⟨other, by rw [first]; exact List.mem_cons_of_mem slot among, rfl, rfl⟩
  · exact fun _ declared undeclared => absurd declared undeclared

theorem buffer (guarded : Guarded offers s) (holdoff : Nat) {dp : DsrPkt} (neigh : Neighbor)
    (other : dp.nxtHop ∉ s.broken) : Tidies offers s (s.buffer holdoff dp neigh) := by
  constructor
  · exact ⟨guarded.ordered.buffer holdoff dp neigh, guarded.severed, guarded.short⟩
  · exact List.Subset.refl _
  · intro nxtHop declared iterator passed
    apply passed.buffer
    intro same
    exact other (same ▸ declared)
  · intro slot member declared
    cases MaintState.mem_maintInsert member with
    | inl created =>
        rw [created] at declared
        exact absurd declared other
    | inr old => exact ⟨slot, old, rfl, rfl⟩
  · exact fun _ declared undeclared => absurd declared undeclared

end Tidies

theorem Guarded.deleteLink {agent : MaintAgent Cache}
    {offers : Cache → InAddr → List InAddr → Prop} {s : MaintState Cache}
    (guarded : Guarded offers s) (lawful : agent.routes.Lawful offers) (nxtHop : InAddr) :
    Guarded offers (agent.deleteLink nxtHop s) := by
  refine ⟨guarded.ordered.of_sublist (.refl _) (Nat.le_refl _), ?_, ?_⟩
  · intro broken declared dest addrs offered
    cases List.mem_cons.mp declared with
    | inl same => exact same ▸ lawful.deleted offered
    | inr before => exact guarded.severed broken before dest addrs (lawful.deleteKeeps offered)
  · exact fun dest addrs offered => guarded.short dest addrs (lawful.deleteKeeps offered)

namespace MaintAgent

variable {agent : MaintAgent Cache} {offers : Cache → InAddr → List InAddr → Prop}
  (lawful : agent.routes.Lawful offers)

include lawful

theorem dsrRerrSend_tidies {s s' : MaintState Cache} {dp : DsrPkt} {unrAddr : InAddr}
    (guarded : Guarded offers s) (ran : agent.dsrRerrSend dp unrAddr s = .ok s') :
    Tidies offers s s' ∧ s'.maintBuf = s.maintBuf := by
  have unchanged : Tidies offers s s := .refl guarded
  unfold dsrRerrSend at ran
  cases route : dp.srtOpt with
  | none =>
      simp only [route] at ran
      cases ran
      exact ⟨unchanged, rfl⟩
  | some opt =>
      simp only [route] at ran
      by_cases own : dp.src = agent.myaddr
      · simp only [own, if_true] at ran
        cases ran
        exact ⟨unchanged, rfl⟩
      · simp only [own, if_false] at ran
        obtain ⟨dst, -, ran⟩ := bind_ok.mp ran
        cases ran
        exact ⟨.of_sublist guarded (.refl _) rfl rfl fun _ _ => lawful.findKeeps, rfl⟩

section

variable {setTimeout : MaintState Cache → Except Fault (MaintState Cache)}
  (tidies : ∀ {s s' : MaintState Cache}, Guarded offers s → setTimeout s = .ok s' →
    Tidies offers s s') {s s' : MaintState Cache}

include tidies

omit lawful in
theorem maintBufAdd_tidies {dp : DsrPkt} (guarded : Guarded offers s)
    (other : dp.nxtHop ∉ s.broken) (ran : agent.maintBufAdd setTimeout dp s = .ok s') :
    Tidies offers s s' := by
  rcases maintBufAdd_cases ran with rfl | ⟨neigh, -, ran⟩
  · exact .refl guarded
  · have buffered : Tidies offers s _ := .buffer guarded agent.maintHoldoffTime neigh other
    exact buffered.trans (tidies buffered.guarded ran)

omit tidies in
theorem salvagePacket_unbroken {dp dp' : DsrPkt} (guarded : Guarded offers s)
    (packet : salvagePacket agent.myaddr dp
      (agent.routes.rtcFind s.now agent.myaddr dp.dst s.cache).1 = .ok (some dp')) :
    dp'.nxtHop ∉ s.broken := by
  cases found : (agent.routes.rtcFind s.now agent.myaddr dp.dst s.cache).1 with
  | none =>
      rw [found] at packet
      cases packet
  | some altSrt =>
      rw [found] at packet
      obtain ⟨dst, counted, offered⟩ := lawful.found found
      intro declared
      have next : dp'.nxtHop = altSrt.addrs.headD altSrt.dst :=
        salvagePacket_nxtHop counted (guarded.short _ _ offered) packet
      rw [dst] at next
      exact guarded.severed _ declared _ _ offered next.symm

theorem maintBufSalvage_tidies {dp : DsrPkt} {leaves : Leave → List Departure}
    (guarded : Guarded offers s)
    (ran : agent.maintBufSalvage setTimeout dp leaves s = .ok s') : Tidies offers s s' := by
  obtain ⟨salvaged, packet, ran⟩ := bind_ok.mp ran
  cases salvaged with
  | none =>
      cases ran
      exact .of_sublist guarded (.refl _) rfl rfl fun _ _ => lawful.findKeeps
  | some dp' =>
      have searched : Tidies offers s { s with
          cache := (agent.routes.rtcFind s.now agent.myaddr dp.dst s.cache).2
          left := s.left ++ leaves .salvaged } :=
        .of_sublist guarded (.refl _) rfl rfl fun _ _ => lawful.findKeeps
      have other := salvagePacket_unbroken lawful guarded packet
      exact searched.trans (maintBufAdd_tidies tidies searched.guarded other ran)

theorem salvageLoop_tidies {nxtHop : InAddr} {rounds : Nat} {iterator : Option Nat}
    (guarded : Guarded offers s) (declared : nxtHop ∈ s.broken)
    (passed : s.Passed nxtHop iterator)
    (ran : agent.salvageLoop setTimeout nxtHop rounds iterator s = .ok s') :
    Tidies offers s s' ∧ s'.Clear nxtHop := by
  induction rounds generalizing iterator s with
  | zero =>
      cases iterator with
      | none =>
          cases ran
          exact ⟨.refl guarded, passed.ended rfl⟩
      | some node => cases ran
  | succ rounds ih =>
      cases iterator with
      | none =>
          cases ran
          exact ⟨.refl guarded, passed.ended rfl⟩
      | some node =>
          cases position : s.maintBuf.dropWhile fun slot => slot.node ≠ node with
          | nil =>
              rw [salvageLoop, position] at ran
              cases ran
          | cons slot later =>
              obtain ⟨here, before, among, out⟩ := erase_at position
              have behind := passed.behind
              rw [among] at behind
              have clear : ∀ other ∈ before, other.entry.nxtHop ≠ nxtHop := by
                intro other member
                exact (List.pairwise_append.mp behind).2.2 other member slot List.mem_cons_self
                  (congrArg some here)
              rw [salvageLoop, position] at ran
              by_cases same : slot.entry.nxtHop = nxtHop
              · simp only [same, if_true] at ran
                obtain ⟨s₁, salvaged, ran⟩ := bind_ok.mp ran
                let erased : MaintState Cache := { s with
                  maintBuf := s.maintBuf.eraseP fun other => other.node = node }
                have removed : Tidies offers s erased :=
                  .of_sublist guarded List.eraseP_sublist rfl rfl fun _ _ offered => offered
                have next : erased.Passed nxtHop (later.head?.map Slot.node) :=
                  removed.guarded.passed out clear
                have first : Tidies offers erased s₁ :=
                  maintBufSalvage_tidies lawful tidies removed.guarded salvaged
                have rest := ih first.guarded (first.broken declared)
                  (first.passed nxtHop declared _ next) ran
                exact ⟨(removed.trans first).trans rest.1, rest.2⟩
              · simp only [same, if_false] at ran
                have among' : s.maintBuf = (before ++ [slot]) ++ later := by simp [among]
                refine ih guarded declared (guarded.passed among' ?_) ran
                intro other member
                cases List.mem_append.mp member with
                | inl earlier => exact clear other earlier
                | inr last => exact List.mem_singleton.mp last ▸ same

theorem linkBreak_tidies {slot : Slot} {rounds : Nat} (guarded : Guarded offers s)
    (ran : agent.linkBreak setTimeout rounds slot s = .ok s') : Tidies offers s s' := by
  obtain ⟨s₁, sent, then₁⟩ := bind_ok.mp ran
  obtain ⟨s₂, salvaged, then₂⟩ := bind_ok.mp then₁
  obtain ⟨s₃, looped, set⟩ := bind_ok.mp then₂
  have declared : slot.entry.nxtHop ∈ (agent.deleteLink slot.entry.nxtHop s).broken :=
    List.mem_cons_self
  have deleted : Guarded offers (agent.deleteLink slot.entry.nxtHop s) :=
    guarded.deleteLink lawful slot.entry.nxtHop
  have reported := (dsrRerrSend_tidies lawful deleted sent).1
  have first := maintBufSalvage_tidies lawful tidies reported.guarded salvaged
  have known : slot.entry.nxtHop ∈ s₂.broken := first.broken (reported.broken declared)
  have start : s₂.Passed slot.entry.nxtHop (s₂.maintBuf.head?.map Slot.node) :=
    first.guarded.passed (List.nil_append _).symm fun _ member => absurd member List.not_mem_nil
  have loop := salvageLoop_tidies lawful tidies first.guarded known start looped
  have last : Tidies offers s₃ s' := tidies loop.1.guarded set
  have whole : Tidies offers (agent.deleteLink slot.entry.nxtHop s) s' :=
    ((reported.trans first).trans loop.1).trans last
  constructor
  · exact whole.guarded
  · exact fun _ member => whole.broken (List.mem_cons_of_mem _ member)
  · intro nxtHop broken iterator passed
    exact whole.passed nxtHop (List.mem_cons_of_mem _ broken) iterator
      ⟨passed.created, passed.behind, passed.ended⟩
  · exact fun slot member broken => whole.kept slot member (List.mem_cons_of_mem _ broken)
  · intro nxtHop broken before
    by_cases same : nxtHop = slot.entry.nxtHop
    · subst same
      exact last.clear (loop.1.broken known) loop.2
    · refine whole.cleared nxtHop broken fun between => ?_
      cases List.mem_cons.mp between with
      | inl this => exact same this
      | inr there => exact before there

theorem maintBufTimeout_tidies {rounds : Nat} (guarded : Guarded offers s)
    (ran : agent.maintBufTimeout setTimeout rounds s = .ok s') : Tidies offers s s' := by
  cases maintBufTimeout_cases ran with
  | pending _ same =>
      rw [same]
      exact .refl guarded
  | empty _ same =>
      rw [same]
      exact .refl guarded
  | early _ _ ran => exact tidies guarded ran
  | @linkBreak slot rest _ first _ _ ran =>
      have kept : rest.Sublist s.maintBuf := by
        rw [first]
        exact List.sublist_cons_self slot rest
      have removed : Tidies offers s { s with maintBuf := rest } :=
        .of_sublist guarded kept rfl rfl fun _ _ offered => offered
      exact removed.trans (linkBreak_tidies lawful tidies removed.guarded ran)
  | @retransmit slot rest _ first _ _ ran =>
      have again : Tidies offers s (s.retransmit slot rest) := .retransmit guarded first
      exact again.trans (tidies again.guarded ran)

end

theorem maintBufSetTimeout_tidies {depth : Nat} {s s' : MaintState Cache}
    (guarded : Guarded offers s) (ran : agent.maintBufSetTimeout depth s = .ok s') :
    Tidies offers s s' := by
  induction depth generalizing s s' with
  | zero => cases ran
  | succ depth ih =>
      rcases maintBufSetTimeout_cases ran with
        ⟨-, rfl⟩ | ⟨slot, rest, -, ⟨-, ran⟩ | ⟨-, rfl⟩⟩
      · exact .refl guarded
      · exact maintBufTimeout_tidies lawful ih guarded ran
      · exact .of_sublist guarded (.refl _) rfl rfl fun _ _ offered => offered

end MaintAgent

end SyncFanet.Dsr
