import SyncFanet.Olsr.Timers

/-!
# The arrays of originated messages

The indices at which `send_hello`, `send_tc` and `send_mid` write. The groups of a HELLO
always suffice; the addresses of a group, of a TC and of a MID suffice as long as the
sets they are taken from are small enough.
-/

set_option autoImplicit false

namespace SyncFanet.Olsr

/-! ## Link-code groups -/

def groupSize (linkCode : Nat) : List HelloMsg → Nat
  | [] => 0
  | group :: groups =>
      if group.linkCode = linkCode then group.nbIfaceAddrs.length else groupSize linkCode groups

/-- The group, and the place in it, at which the next address with a link code is
written. -/
def helloIndex (linkCode : Nat) : List HelloMsg → Nat × Nat
  | [] => (0, 0)
  | group :: groups =>
      if group.linkCode = linkCode then (0, group.nbIfaceAddrs.length)
      else ((helloIndex linkCode groups).1 + 1, (helloIndex linkCode groups).2)

def groupAll (items : List (Nat × NsAddr)) (groups : List HelloMsg) : List HelloMsg :=
  items.foldl (fun groups item => addToGroup item.1 item.2 groups) groups

/-- The indices at which these addresses are written. -/
def helloWrites : List (Nat × NsAddr) → List HelloMsg → List (Nat × Nat)
  | [], _ => []
  | item :: rest, groups =>
      helloIndex item.1 groups :: helloWrites rest (addToGroup item.1 item.2 groups)

section

variable {linkCode other : Nat} {ifaceAddr : NsAddr} {groups : List HelloMsg}
  {items : List (Nat × NsAddr)}

theorem helloIndex_snd (linkCode : Nat) (groups : List HelloMsg) :
    (helloIndex linkCode groups).2 = groupSize linkCode groups := by
  induction groups with
  | nil => rfl
  | cons group groups ih =>
      simp only [helloIndex, groupSize]
      split
      · rfl
      · exact ih

theorem helloIndex_fst_le (linkCode : Nat) (groups : List HelloMsg) :
    (helloIndex linkCode groups).1 ≤ groups.length := by
  induction groups with
  | nil => exact Nat.le_refl 0
  | cons group groups ih =>
      simp only [helloIndex]
      split
      · exact Nat.zero_le _
      · exact Nat.succ_le_succ ih

theorem groupSize_addToGroup (linkCode other : Nat) (ifaceAddr : NsAddr)
    (groups : List HelloMsg) :
    groupSize other (addToGroup linkCode ifaceAddr groups) =
      if linkCode = other then groupSize other groups + 1 else groupSize other groups := by
  induction groups with
  | nil => simp [addToGroup, groupSize]
  | cons group groups ih =>
      simp only [addToGroup]
      split
      · next same =>
        simp only [groupSize, same]
        split <;> simp
      · next different =>
        simp only [groupSize, ih]
        by_cases here : group.linkCode = other
        · have apart : ¬ linkCode = other := fun same => different (here.trans same.symm)
          simp [here, apart]
        · simp [here]

theorem codes_addToGroup (linkCode : Nat) (ifaceAddr : NsAddr) (groups : List HelloMsg) :
    (addToGroup linkCode ifaceAddr groups).map HelloMsg.linkCode =
      if linkCode ∈ groups.map HelloMsg.linkCode then groups.map HelloMsg.linkCode
      else groups.map HelloMsg.linkCode ++ [linkCode] := by
  induction groups with
  | nil => rfl
  | cons group groups ih =>
      simp only [addToGroup]
      by_cases here : group.linkCode = linkCode
      · simp [here]
      · rw [if_neg here, List.map_cons, ih]
        by_cases later : linkCode ∈ groups.map HelloMsg.linkCode
        · simp [later]
        · simp [later, Ne.symm here]

theorem mem_addToGroup {group : HelloMsg} (member : group ∈ groups) :
    ∃ grown ∈ addToGroup linkCode ifaceAddr groups, grown.linkCode = group.linkCode ∧
      ∀ addr ∈ group.nbIfaceAddrs, addr ∈ grown.nbIfaceAddrs := by
  induction groups with
  | nil => cases member
  | cons head groups ih =>
      simp only [addToGroup]
      cases List.mem_cons.mp member with
      | inl here =>
          subst here
          split
          · exact ⟨_, List.mem_cons_self, rfl, fun addr listed => List.mem_append_left _ listed⟩
          · exact ⟨group, List.mem_cons_self, rfl, fun addr listed => listed⟩
      | inr later =>
          split
          · exact ⟨group, List.mem_cons_of_mem _ later, rfl, fun addr listed => listed⟩
          · obtain ⟨grown, among, same, keeps⟩ := ih later
            exact ⟨grown, List.mem_cons_of_mem _ among, same, keeps⟩

theorem added_mem_addToGroup (linkCode : Nat) (ifaceAddr : NsAddr) (groups : List HelloMsg) :
    ∃ group ∈ addToGroup linkCode ifaceAddr groups, group.linkCode = linkCode ∧
      ifaceAddr ∈ group.nbIfaceAddrs := by
  induction groups with
  | nil => exact ⟨_, List.mem_cons_self, rfl, List.mem_cons_self⟩
  | cons head groups ih =>
      simp only [addToGroup]
      split
      · next same => exact ⟨_, List.mem_cons_self, same, by simp⟩
      · obtain ⟨group, among, same, listed⟩ := ih
        exact ⟨group, List.mem_cons_of_mem _ among, same, listed⟩

theorem groupSize_of_mem (distinct : (groups.map HelloMsg.linkCode).Nodup) {group : HelloMsg}
    (member : group ∈ groups) : groupSize group.linkCode groups = group.nbIfaceAddrs.length := by
  induction groups with
  | nil => cases member
  | cons head groups ih =>
      obtain ⟨fresh, rest⟩ := List.nodup_cons.mp distinct
      simp only [groupSize]
      cases List.mem_cons.mp member with
      | inl here => simp [here]
      | inr later =>
          have apart : ¬ head.linkCode = group.linkCode := fun same =>
            fresh (same ▸ List.mem_map_of_mem later)
          rw [if_neg apart]
          exact ih rest later

/-! ### A whole HELLO -/

/-- What `send_hello` combines: a link type with a neighbor type. -/
def linkCodes : List Nat := [1, 2, 3, 5, 6, 7, 9, 10, 11]

/-- The groups that the loop of `send_hello` builds. -/
structure WellGrouped (groups : List HelloMsg) : Prop where
  distinct : (groups.map HelloMsg.linkCode).Nodup
  known : ∀ linkCode ∈ groups.map HelloMsg.linkCode, linkCode ∈ linkCodes

theorem WellGrouped.addToGroup (grouped : WellGrouped groups) (known : linkCode ∈ linkCodes)
    (ifaceAddr : NsAddr) : WellGrouped (addToGroup linkCode ifaceAddr groups) := by
  have codes := codes_addToGroup linkCode ifaceAddr groups
  by_cases here : linkCode ∈ groups.map HelloMsg.linkCode
  · rw [if_pos here] at codes
    exact ⟨codes ▸ grouped.distinct, codes ▸ grouped.known⟩
  · rw [if_neg here] at codes
    constructor
    · rw [codes]
      exact List.nodup_append.mpr ⟨grouped.distinct, List.nodup_singleton _, by
        intro code listed last isLast same
        rw [List.mem_singleton.mp isLast] at same
        exact here (same ▸ listed)⟩
    · rw [codes]
      intro code listed
      cases List.mem_append.mp listed with
      | inl before => exact grouped.known code before
      | inr last => exact List.mem_singleton.mp last ▸ known

theorem WellGrouped.length_le (grouped : WellGrouped groups) : groups.length ≤ 9 := by
  have few := (grouped.distinct.subperm grouped.known).length_le
  simpa [linkCodes] using few

theorem WellGrouped.helloIndex_lt (grouped : WellGrouped groups) (linkCode : Nat) :
    (helloIndex linkCode groups).1 < maxHellos := by
  have room := grouped.length_le
  have index := helloIndex_fst_le linkCode groups
  unfold maxHellos
  omega

theorem WellGrouped.groupAll (grouped : WellGrouped groups)
    (known : ∀ item ∈ items, item.1 ∈ linkCodes) : WellGrouped (groupAll items groups) := by
  induction items generalizing groups with
  | nil => exact grouped
  | cons item rest ih =>
      apply ih (grouped.addToGroup (known item List.mem_cons_self) item.2)
      intro later member
      exact known later (List.mem_cons_of_mem _ member)

theorem WellGrouped.helloWrites_fst_lt (grouped : WellGrouped groups)
    (known : ∀ item ∈ items, item.1 ∈ linkCodes) :
    ∀ index ∈ helloWrites items groups, index.1 < maxHellos := by
  induction items generalizing groups with
  | nil =>
      intro index written
      cases written
  | cons item rest ih =>
      intro index written
      cases List.mem_cons.mp written with
      | inl here => exact here ▸ grouped.helloIndex_lt item.1
      | inr later =>
          apply ih (grouped.addToGroup (known item List.mem_cons_self) item.2) _ index later
          intro other member
          exact known other (List.mem_cons_of_mem _ member)

/-- The number of addresses with a link code. -/
def codeCount (linkCode : Nat) (items : List (Nat × NsAddr)) : Nat :=
  items.countP fun item => item.1 = linkCode

theorem groupSize_groupAll (linkCode : Nat) (items : List (Nat × NsAddr))
    (groups : List HelloMsg) :
    groupSize linkCode (groupAll items groups) =
      groupSize linkCode groups + codeCount linkCode items := by
  induction items generalizing groups with
  | nil => rfl
  | cons item rest ih =>
      have step : groupAll (item :: rest) groups =
          groupAll rest (Olsr.addToGroup item.1 item.2 groups) := rfl
      rw [step, ih, groupSize_addToGroup]
      by_cases here : item.1 = linkCode
      · simp [codeCount, here]
        omega
      · simp [codeCount, here]

theorem kept_groupAll (items : List (Nat × NsAddr)) {group : HelloMsg} (member : group ∈ groups) :
    ∃ grown ∈ groupAll items groups, grown.linkCode = group.linkCode ∧
      ∀ addr ∈ group.nbIfaceAddrs, addr ∈ grown.nbIfaceAddrs := by
  induction items generalizing groups group with
  | nil => exact ⟨group, member, rfl, fun addr listed => listed⟩
  | cons item rest ih =>
      obtain ⟨grown, among, same, keeps⟩ := mem_addToGroup member
      obtain ⟨final, last, code, all⟩ := ih among
      exact ⟨final, last, code.trans same, fun addr listed => all addr (keeps addr listed)⟩

theorem listed_groupAll {item : Nat × NsAddr} (listed : item ∈ items) (groups : List HelloMsg) :
    ∃ group ∈ groupAll items groups, group.linkCode = item.1 ∧ item.2 ∈ group.nbIfaceAddrs := by
  induction items generalizing groups with
  | nil => cases listed
  | cons head rest ih =>
      cases List.mem_cons.mp listed with
      | inl here =>
          subst here
          obtain ⟨group, among, same, added⟩ := added_mem_addToGroup item.1 item.2 groups
          obtain ⟨grown, last, code, keeps⟩ := kept_groupAll rest among
          exact ⟨grown, last, code.trans same, keeps item.2 added⟩
      | inr later => exact ih later _

theorem codeCount_cons (linkCode : Nat) (item : Nat × NsAddr) (rest : List (Nat × NsAddr)) :
    codeCount linkCode (item :: rest) =
      if item.1 = linkCode then codeCount linkCode rest + 1 else codeCount linkCode rest := by
  by_cases here : item.1 = linkCode <;> simp [codeCount, here]

/-- The places at which a HELLO is written are in range exactly if no group grows beyond
its array. -/
theorem helloWrites_snd_lt_iff :
    (∀ index ∈ helloWrites items groups, index.2 < maxAddrs) ↔
      ∀ item ∈ items, groupSize item.1 groups + codeCount item.1 items ≤ maxAddrs := by
  induction items generalizing groups with
  | nil => simp [helloWrites]
  | cons head rest ih =>
      have later : (∀ item ∈ rest, groupSize item.1 (addToGroup head.1 head.2 groups) +
            codeCount item.1 rest ≤ maxAddrs) ↔
          ∀ item ∈ rest, groupSize item.1 groups + codeCount item.1 (head :: rest) ≤ maxAddrs := by
        apply forall₂_congr
        intro item _
        rw [groupSize_addToGroup, codeCount_cons]
        split
        · rw [Nat.add_right_comm, Nat.add_assoc]
        · rfl
      simp only [helloWrites, List.forall_mem_cons, helloIndex_snd, ih, later]
      apply and_congr_left
      intro room
      rw [codeCount_cons, if_pos rfl]
      constructor
      · intro first
        cases count : codeCount head.1 rest with
        | zero => omega
        | succ more =>
            -- A later address of the same group has the stronger bound.
            obtain ⟨item, among, same⟩ := List.countP_pos_iff.mp
              (show 0 < codeCount head.1 rest by omega)
            have code : item.1 = head.1 := of_decide_eq_true same
            have bound := room item among
            rw [codeCount_cons, if_pos code.symm, code, count] at bound
            exact bound
      · intro all
        omega

/-! ### Messages within bounds -/

theorem groupAll_grouped (known : ∀ item ∈ items, item.1 ∈ linkCodes) :
    WellGrouped (groupAll items []) :=
  WellGrouped.groupAll ⟨List.nodup_nil, nofun⟩ known

theorem length_groupAll_le (known : ∀ item ∈ items, item.1 ∈ linkCodes) :
    (groupAll items []).length ≤ maxHellos := by
  have nine := (groupAll_grouped known).length_le
  unfold maxHellos
  omega

theorem groupAll_fit_iff (known : ∀ item ∈ items, item.1 ∈ linkCodes) :
    (∀ group ∈ groupAll items [], group.nbIfaceAddrs.length ≤ maxAddrs) ↔
      ∀ linkCode, codeCount linkCode items ≤ maxAddrs := by
  have distinct := (groupAll_grouped known).distinct
  have sizes : ∀ linkCode, groupSize linkCode (groupAll items []) = codeCount linkCode items := by
    intro linkCode
    rw [groupSize_groupAll]
    exact Nat.zero_add _
  constructor
  · intro fit linkCode
    cases count : codeCount linkCode items with
    | zero => exact Nat.zero_le _
    | succ more =>
        obtain ⟨item, among, same⟩ := List.countP_pos_iff.mp
          (show 0 < codeCount linkCode items by omega)
        obtain ⟨group, built, code, -⟩ := listed_groupAll among []
        have bound := fit group built
        rw [← groupSize_of_mem distinct built, sizes, code, of_decide_eq_true same, count] at bound
        exact bound
  · intro fit group built
    rw [← groupSize_of_mem distinct built, sizes]
    exact fit group.linkCode

theorem helloWrites_lt (known : ∀ item ∈ items, item.1 ∈ linkCodes)
    (few : ∀ linkCode, codeCount linkCode items ≤ maxAddrs) :
    ∀ index ∈ helloWrites items [], index.1 < maxHellos ∧ index.2 < maxAddrs := by
  have empty : WellGrouped [] := ⟨List.nodup_nil, nofun⟩
  have places : ∀ index ∈ helloWrites items [], index.2 < maxAddrs := by
    rw [helloWrites_snd_lt_iff]
    intro item _
    exact (Nat.zero_add _).trans_le (few item.1)
  intro index written
  exact ⟨empty.helloWrites_fst_lt known index written, places index written⟩

end

/-! ## What each message writes -/

/-- The link code and the address that `send_hello` writes for a link, unless it leaves
the link out. -/
def advertised (config : Config) (now : Int) (state : State) (link : LinkTuple) :
    Option (Nat × NsAddr) :=
  if state.getMainAddr link.localIfaceAddr = config.raAddr ∧ link.time ≥ now then
    (helloNbType state link).map fun nbType =>
      ((helloLinkType config now link &&& 0x03) ||| ((nbType <<< 2) &&& 0x0f), link.nbIfaceAddr)
  else none

def advertisements (config : Config) (now : Int) (state : State) : List (Nat × NsAddr) :=
  state.linkset.filterMap (advertised config now state)

/-- The places at which `send_mid` writes; it does not check them. -/
def midWrites (config : Config) : List Nat :=
  if config.ifaces.length ≤ 1 ∧ config.optimizedMid then [] else List.range config.ifaces.length

section

variable {config : Config} {now : Int} {node : Node}

theorem helloGroups_eq (config : Config) (now : Int) (state : State) :
    state.linkset.foldl (advertiseLink config now state) [] =
      groupAll (advertisements config now state) [] := by
  have step : ∀ groups link, advertiseLink config now state groups link =
      match advertised config now state link with
      | none => groups
      | some item => addToGroup item.1 item.2 groups := by
    intro groups link
    unfold advertiseLink advertised
    split
    · cases helloNbType state link <;> rfl
    · rfl
  unfold groupAll advertisements
  generalize ([] : List HelloMsg) = groups
  induction state.linkset generalizing groups with
  | nil => rfl
  | cons link rest ih =>
      rw [List.foldl_cons, List.filterMap_cons, step, ih]
      cases advertised config now state link <;> rfl

theorem linkCode_known {state : State} {link : LinkTuple} {nbType : Nat}
    (known : helloNbType state link = some nbType) :
    (helloLinkType config now link &&& 0x03) ||| ((nbType <<< 2) &&& 0x0f) ∈ linkCodes := by
  have linkType : helloLinkType config now link ∈ [lostLink, symLink, asymLink] := by
    unfold helloLinkType
    split
    · simp
    · split
      · simp
      · split <;> simp
  have nbTypes : nbType ∈ [mprNeigh, symNeigh, notNeigh] := by
    unfold helloNbType at known
    simp only at known
    split at known
    · cases known
      simp
    · obtain ⟨nb, -, same⟩ := Option.map_eq_some_iff.mp known
      rw [← same]
      cases nb.status <;> simp
  have combine : ∀ first ∈ [lostLink, symLink, asymLink], ∀ second ∈ [mprNeigh, symNeigh, notNeigh],
      (first &&& 0x03) ||| ((second <<< 2) &&& 0x0f) ∈ linkCodes := by decide
  exact combine _ linkType _ nbTypes

theorem advertisements_code {state : State} :
    ∀ item ∈ advertisements config now state, item.1 ∈ linkCodes := by
  intro item listed
  obtain ⟨link, -, found⟩ := List.mem_filterMap.mp listed
  unfold advertised at found
  split at found
  · obtain ⟨nbType, known, same⟩ := Option.map_eq_some_iff.mp found
    rw [← same]
    exact linkCode_known known
  · cases found

/-! ## The three messages -/

/-- The HELLO is sent, its writes are in range, and it has every address that the loop
comes to. -/
structure HelloFits (config : Config) (now : Int) (node : Node) : Prop where
  writes : ∀ index ∈ helloWrites (advertisements config now node.state) [],
    index.1 < maxHellos ∧ index.2 < maxAddrs
  sent : ∃ sent msg hello, sendHello config now node = .ok sent ∧ msg ∈ sent.msgs ∧
    msg.body = .hello hello ∧ ∀ item ∈ advertisements config now node.state,
      ∃ group ∈ hello.helloMsgs, group.linkCode = item.1 ∧ item.2 ∈ group.nbIfaceAddrs

/-- The TC is sent, its writes are in range, and it has every MPR selector. -/
structure TcFits (config : Config) (now : Int) (node : Node) : Prop where
  writes : ∀ index < node.state.mprselset.length, index < maxAddrs
  sent : ∃ sent msg tc, sendTc config now node = .ok sent ∧ msg ∈ sent.msgs ∧
    msg.body = .tc tc ∧ ∀ tuple ∈ node.state.mprselset, tuple.mainAddr ∈ tc.nbMainAddrs

/-- The writes of the MID are in range, and it has every interface if it is sent. -/
structure MidFits (config : Config) (now : Int) (node : Node) : Prop where
  writes : ∀ index ∈ midWrites config, index < maxAddrs
  sent : ¬ (config.ifaces.length ≤ 1 ∧ config.optimizedMid) →
    ∃ msg mid, msg ∈ (sendMid config now node).msgs ∧ msg.body = .mid mid ∧
      ∀ iface ∈ config.ifaces, iface.addr ∈ mid.ifaceAddrs

theorem mem_enqueMsg (config : Config) (now : Int) (node : Node) (msg : Msg) :
    msg ∈ (node.enqueMsg config now msg).msgs :=
  List.mem_append_right _ (List.mem_singleton_self msg)

theorem helloFits_iff (config : Config) (now : Int) (node : Node) :
    HelloFits config now node ↔
      ∀ linkCode, codeCount linkCode (advertisements config now node.state) ≤ maxAddrs := by
  have groups := helloGroups_eq config now node.state
  constructor
  · intro fits
    rw [← groupAll_fit_iff advertisements_code]
    obtain ⟨sent, msg, hello, ran, -⟩ := fits.sent
    unfold sendHello at ran
    simp only [Node.nextMsgSeq, groups] at ran
    split at ran
    · cases ran
    · split at ran
      · cases ran
      · next small =>
        simp only [List.any_eq_true, decide_eq_true_eq, not_exists, not_and, not_lt] at small
        exact small
  · intro few
    constructor
    · exact helloWrites_lt advertisements_code few
    · have enough : ¬ maxHellos < (groupAll (advertisements config now node.state) []).length :=
        Nat.not_lt.mpr (length_groupAll_le advertisements_code)
      have small : ¬ ((groupAll (advertisements config now node.state) []).any fun group =>
          decide (maxAddrs < group.nbIfaceAddrs.length)) = true := by
        simp only [List.any_eq_true, decide_eq_true_eq, not_exists, not_and, not_lt]
        exact (groupAll_fit_iff advertisements_code).mpr few
      unfold sendHello
      simp only [Node.nextMsgSeq, groups, if_neg enough, if_neg small]
      refine ⟨_, _, _, rfl, mem_enqueMsg _ _ _ _, rfl, ?_⟩
      intro item among
      exact listed_groupAll among []

theorem tcFits_iff (config : Config) (now : Int) (node : Node) :
    TcFits config now node ↔ node.state.mprselset.length ≤ maxAddrs := by
  constructor
  · intro fits
    by_contra many
    have last := fits.writes maxAddrs (by omega)
    exact absurd last (Nat.lt_irrefl _)
  · intro few
    constructor
    · intro index written
      exact Nat.lt_of_lt_of_le written few
    · have fits : ¬ maxAddrs < (node.state.mprselset.map MprselTuple.mainAddr).length := by
        rw [List.length_map]
        omega
      refine ⟨_, _, _, if_neg fits, mem_enqueMsg _ _ _ _, rfl, ?_⟩
      intro tuple among
      exact List.mem_map_of_mem among

theorem midWrites_lt_iff (config : Config) :
    (∀ index ∈ midWrites config, index < maxAddrs) ↔ config.ifaces.length ≤ maxAddrs := by
  constructor
  · intro writes
    by_contra many
    have several : ¬ (config.ifaces.length ≤ 1 ∧ config.optimizedMid = true) := by
      intro single
      unfold maxAddrs at many
      omega
    have written : maxAddrs ∈ midWrites config := by
      rw [midWrites, if_neg several]
      exact List.mem_range.mpr (by omega)
    exact absurd (writes maxAddrs written) (Nat.lt_irrefl _)
  · intro few index written
    unfold midWrites at written
    split at written
    · cases written
    · exact Nat.lt_of_lt_of_le (List.mem_range.mp written) few

theorem midFits_iff (config : Config) (now : Int) (node : Node) :
    MidFits config now node ↔ config.ifaces.length ≤ maxAddrs := by
  rw [← midWrites_lt_iff]
  constructor
  · intro fits
    exact fits.writes
  · intro writes
    refine ⟨writes, ?_⟩
    intro several
    unfold sendMid
    rw [if_neg several]
    refine ⟨_, _, mem_enqueMsg _ _ _ _, rfl, ?_⟩
    intro iface among
    exact List.mem_map_of_mem among

end

/-- What an agent originates stays within its arrays. -/
structure MessagesFit (config : Config) (now : Int) (node : Node) : Prop where
  hello : HelloFits config now node
  tc : TcFits config now node
  mid : MidFits config now node

/-- At most as many links with one link code, MPR selectors and interfaces as addresses in
an array. -/
structure ArraysSuffice (config : Config) (now : Int) (node : Node) : Prop where
  links : ∀ linkCode, codeCount linkCode (advertisements config now node.state) ≤ maxAddrs
  selectors : node.state.mprselset.length ≤ maxAddrs
  interfaces : config.ifaces.length ≤ maxAddrs

theorem messagesFit_iff (config : Config) (now : Int) (node : Node) :
    MessagesFit config now node ↔ ArraysSuffice config now node := by
  constructor
  · rintro ⟨hello, tc, mid⟩
    exact ⟨(helloFits_iff config now node).mp hello, (tcFits_iff config now node).mp tc,
      (midFits_iff config now node).mp mid⟩
  · rintro ⟨links, selectors, interfaces⟩
    exact ⟨(helloFits_iff config now node).mpr links, (tcFits_iff config now node).mpr selectors,
      (midFits_iff config now node).mpr interfaces⟩

end SyncFanet.Olsr
