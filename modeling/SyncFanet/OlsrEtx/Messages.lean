import Mathlib.Data.Finset.Sort
import SyncFanet.Library.Fold
import SyncFanet.Olsr.MessageArrays
import SyncFanet.OlsrEtx.Dijkstra

/-!
# Messages of OLSR_ETX

`OLSR_ETX::send_hello` and `OLSR_ETX::send_tc`, with the arrays that they fill. The MID is
the one of `OLSR`.
-/

set_option autoImplicit false

namespace SyncFanet.OlsrEtx

open Olsr

/-! ## What the messages are made of -/

/-- The sets that the messages are taken from, with the link delay of each link tuple. -/
structure MessageState extends Repositories where
  mprset : Finset NsAddr
  mprselset : List MprselTuple
  linkDelay : TupleId → ℚ

/-- What the inherited routines of `OLSR` see. -/
def MessageState.base (state : MessageState) : State where
  linkset := state.linkset.map MetricLink.toLinkTuple
  nbset := state.nbset
  mprset := state.mprset
  mprselset := state.mprselset
  ifaceassocset := state.ifaceassocset

structure TcParameter extends Parameter where
  tcRedundancy : Int
  fishEye : Bool

/-- `OLSR_ETX_iface_address`, with its delays. -/
structure QosAddress where
  ifaceAddress : NsAddr
  linkQuality : ℚ
  nbLinkQuality : ℚ
  linkDelay : ℚ
  nbLinkDelay : ℚ
  deriving DecidableEq

/-- An address with the qualities and delays of a link. -/
def MessageState.measured (state : MessageState) (ifaceAddress : NsAddr) (link : MetricLink) :
    QosAddress where
  ifaceAddress := ifaceAddress
  linkQuality := link.qualities.linkQuality
  nbLinkQuality := link.qualities.nbLinkQuality
  linkDelay := state.linkDelay link.id
  nbLinkDelay := link.qualities.nbLinkDelay

structure QosMessage (Body : Type) where
  vtime : Nat
  origAddr : NsAddr
  ttl : Nat
  hopCount : Nat
  msgSeqNum : Nat
  body : Body

/-! ## HELLO -/

/-- A link-code group with the QoS behaviour of its sender. -/
structure QosGroup where
  linkCode : Nat
  qosBehaviour : LinkQuality
  nbIfaceAddrs : List QosAddress
  deriving DecidableEq

def QosGroup.base (group : QosGroup) : HelloMsg where
  linkCode := group.linkCode
  nbIfaceAddrs := group.nbIfaceAddrs.map QosAddress.ifaceAddress

structure QosHello where
  htime : Nat
  willingness : Nat
  helloMsgs : List QosGroup
  deriving DecidableEq

def addToQosGroup (behaviour : LinkQuality) (linkCode : Nat) (address : QosAddress) :
    List QosGroup → List QosGroup
  | [] => [{ linkCode := linkCode, qosBehaviour := behaviour, nbIfaceAddrs := [address] }]
  | group :: groups =>
      if group.linkCode = linkCode then
        { group with nbIfaceAddrs := group.nbIfaceAddrs ++ [address] } :: groups
      else group :: addToQosGroup behaviour linkCode address groups

/-- The link code and the address that are written for a link. The local interface is
compared itself, not by its main address. -/
def advertisedLink (config : Config) (now : Int) (state : MessageState) (link : MetricLink) :
    Option (Nat × QosAddress) :=
  if link.localIfaceAddr = config.raAddr ∧ link.time ≥ now then
    (helloNbType state.base link.toLinkTuple).map fun nbType =>
      ((helloLinkType config now link.toLinkTuple &&& 0x03) ||| ((nbType <<< 2) &&& 0x0f),
        state.measured link.nbIfaceAddr link)
  else none

def advertiseQosLink (config : Config) (parameter : Parameter) (now : Int) (state : MessageState)
    (groups : List QosGroup) (link : MetricLink) : List QosGroup :=
  match advertisedLink config now state link with
  | none => groups
  | some (linkCode, address) => addToQosGroup parameter.linkQuality linkCode address groups

/-- `OLSR_ETX::send_hello`, up to `enque_msg`. -/
def sendHello (config : Config) (parameter : Parameter) (msgSeqNum : Nat) (now : Int)
    (state : MessageState) : Except Fault (QosMessage QosHello) :=
  let groups := state.linkset.foldl (advertiseQosLink config parameter now state) []
  if maxHellos < groups.length then
    .error (.assertFailed "count >= 0 && count < OLSR_MAX_HELLOS")
  else if groups.any fun group => decide (maxAddrs < group.nbIfaceAddrs.length) then
    .error (.assertFailed "i >= 0 && i < OLSR_MAX_ADDRS")
  else
    .ok {
      vtime := secondsToEmf config.neighbHoldTime
      origAddr := config.raAddr
      ttl := 1
      hopCount := 0
      msgSeqNum := msgSeqNum
      body := {
        htime := secondsToEmf config.helloIval
        willingness := config.willingness
        helloMsgs := groups } }

/-! ## TC -/

structure QosTc where
  ansn : Nat
  qosBehaviour : LinkQuality
  nbMainAddrs : List QosAddress
  deriving DecidableEq

/-- `tc_msg_ttl_`. -/
def tcMsgTtl : List Nat := [255, 3, 2, 1, 2, 1, 1, 3, 2, 1, 2, 1, 1]

def symNeighbors (state : MessageState) : List NsAddr :=
  (state.nbset.filter fun nb => nb.status = .sym).map NbTuple.nbMainAddr

/-- The addresses that the loops of `send_tc` go through. -/
def consideredAddrs (parameter : TcParameter) (state : MessageState) : List NsAddr :=
  match parameter.mprAlgorithm with
  | .olsrd => symNeighbors state
  | _ =>
      let selectors := state.mprselset.map MprselTuple.mainAddr
      let mprs := state.mprset.sort (· ≤ ·)
      if parameter.tcRedundancy = 0 then selectors
      else if parameter.tcRedundancy = 1 then selectors ++ mprs
      else if parameter.tcRedundancy = 2 then symNeighbors state
      else if parameter.tcRedundancy = 3 then mprs
      else []

/-- What is written for an address: its best link, if it has one. -/
def reported (parameter : Parameter) (state : MessageState) (now : Int) (addr : NsAddr) :
    Option QosAddress :=
  (state.findBestSymLinkTuple parameter addr now).map (state.measured addr)

/-- One round of such a loop. The array is checked before it is known whether anything is
written. -/
def reportAddr (parameter : Parameter) (state : MessageState) (now : Int)
    (written : List QosAddress) (addr : NsAddr) : Except Fault (List QosAddress) :=
  if written.length < maxAddrs then
    match reported parameter state now addr with
    | none => .ok written
    | some address => .ok (written ++ [address])
  else .error (.assertFailed "count >= 0 && count < OLSR_MAX_ADDRS")

/-- `OLSR_ETX::send_tc`, up to `enque_msg`, with the next index into `tc_msg_ttl_`. -/
def sendTc (config : Config) (parameter : TcParameter) (msgSeqNum ansn ttlIndex : Nat) (now : Int)
    (state : MessageState) : Except Fault (QosMessage QosTc × Nat) :=
  let ttl := if parameter.fishEye then tcMsgTtl.getD ttlIndex 0 else 255
  let next := if parameter.fishEye then (ttlIndex + 1) % tcMsgTtl.length else ttlIndex
  ((consideredAddrs parameter state).foldlM
    (reportAddr parameter.toParameter state now) []).bind fun written =>
      .ok ({
        vtime := secondsToEmf (3 * config.tcIval)
        origAddr := config.raAddr
        ttl := ttl
        hopCount := 0
        msgSeqNum := msgSeqNum
        body := {
          ansn := ansn
          qosBehaviour := parameter.linkQuality
          nbMainAddrs := written } }, next)

/-! ## The arrays of a HELLO -/

section

variable {config : Config} {parameter : Parameter} {now : Int} {state : MessageState}

def advertisedLinks (config : Config) (now : Int) (state : MessageState) :
    List (Nat × QosAddress) :=
  state.linkset.filterMap (advertisedLink config now state)

/-- A link code with an address, without the qualities. -/
def plain (item : Nat × QosAddress) : Nat × NsAddr := (item.1, item.2.ifaceAddress)

theorem base_addToQosGroup (behaviour : LinkQuality) (linkCode : Nat) (address : QosAddress)
    (groups : List QosGroup) :
    (addToQosGroup behaviour linkCode address groups).map QosGroup.base =
      addToGroup linkCode address.ifaceAddress (groups.map QosGroup.base) := by
  induction groups with
  | nil => rfl
  | cons group groups ih =>
      simp only [addToQosGroup, List.map_cons, addToGroup]
      by_cases same : group.linkCode = linkCode
      · simp [same, QosGroup.base]
      · simp [same, QosGroup.base, ih]

theorem qosGroups_base (config : Config) (parameter : Parameter) (now : Int)
    (state : MessageState) :
    (state.linkset.foldl (advertiseQosLink config parameter now state) []).map QosGroup.base =
      groupAll ((advertisedLinks config now state).map plain) [] := by
  have step : ∀ (links : List MetricLink) (groups : List QosGroup),
      (links.foldl (advertiseQosLink config parameter now state) groups).map QosGroup.base =
        groupAll ((links.filterMap (advertisedLink config now state)).map plain)
          (groups.map QosGroup.base) := by
    intro links
    induction links with
    | nil => exact fun groups => rfl
    | cons link rest ih =>
        intro groups
        rw [List.foldl_cons, ih, List.filterMap_cons, advertiseQosLink]
        cases advertisedLink config now state link with
        | none => rfl
        | some item =>
            rw [base_addToQosGroup]
            rfl
  exact step state.linkset []

theorem advertisedLinks_code :
    ∀ item ∈ (advertisedLinks config now state).map plain, item.1 ∈ linkCodes := by
  intro item listed
  obtain ⟨written, among, rfl⟩ := List.mem_map.mp listed
  obtain ⟨link, -, found⟩ := List.mem_filterMap.mp among
  unfold advertisedLink at found
  split at found
  · obtain ⟨nbType, known, same⟩ := Option.map_eq_some_iff.mp found
    rw [← same]
    exact linkCode_known known
  · cases found

/-- The HELLO is built, its writes are in range, and it has every address that the loop
comes to. -/
structure HelloFits (config : Config) (parameter : Parameter) (msgSeqNum : Nat) (now : Int)
    (state : MessageState) : Prop where
  writes : ∀ index ∈ helloWrites ((advertisedLinks config now state).map plain) [],
    index.1 < maxHellos ∧ index.2 < maxAddrs
  sent : ∃ msg, sendHello config parameter msgSeqNum now state = .ok msg ∧
    ∀ item ∈ advertisedLinks config now state, ∃ group ∈ msg.body.helloMsgs,
      group.linkCode = item.1 ∧ item.2 ∈ group.nbIfaceAddrs

theorem kept_addToQosGroup (behaviour : LinkQuality) (linkCode : Nat) (address : QosAddress)
    {groups : List QosGroup} {group : QosGroup} (member : group ∈ groups) :
    ∃ grown ∈ addToQosGroup behaviour linkCode address groups,
      grown.linkCode = group.linkCode ∧ ∀ item ∈ group.nbIfaceAddrs, item ∈ grown.nbIfaceAddrs := by
  induction groups with
  | nil => cases member
  | cons head groups ih =>
      simp only [addToQosGroup]
      cases List.mem_cons.mp member with
      | inl here =>
          subst here
          split
          · exact ⟨_, List.mem_cons_self, rfl, fun item listed => List.mem_append_left _ listed⟩
          · exact ⟨group, List.mem_cons_self, rfl, fun item listed => listed⟩
      | inr later =>
          split
          · exact ⟨group, List.mem_cons_of_mem _ later, rfl, fun item listed => listed⟩
          · obtain ⟨grown, among, same, keeps⟩ := ih later
            exact ⟨grown, List.mem_cons_of_mem _ among, same, keeps⟩

theorem added_mem_addToQosGroup (behaviour : LinkQuality) (linkCode : Nat) (address : QosAddress)
    (groups : List QosGroup) :
    ∃ group ∈ addToQosGroup behaviour linkCode address groups,
      group.linkCode = linkCode ∧ address ∈ group.nbIfaceAddrs := by
  induction groups with
  | nil => exact ⟨_, List.mem_cons_self, rfl, List.mem_cons_self⟩
  | cons head groups ih =>
      simp only [addToQosGroup]
      split
      · next same => exact ⟨_, List.mem_cons_self, same, by simp⟩
      · obtain ⟨group, among, same, listed⟩ := ih
        exact ⟨group, List.mem_cons_of_mem _ among, same, listed⟩

theorem listed_qosGroups (config : Config) (parameter : Parameter) (now : Int)
    (state : MessageState) : ∀ item ∈ advertisedLinks config now state,
      ∃ group ∈ state.linkset.foldl (advertiseQosLink config parameter now state) [],
        group.linkCode = item.1 ∧ item.2 ∈ group.nbIfaceAddrs := by
  let Listed (seen : List MetricLink) (groups : List QosGroup) : Prop :=
    ∀ item ∈ seen.filterMap (advertisedLink config now state),
      ∃ group ∈ groups, group.linkCode = item.1 ∧ item.2 ∈ group.nbIfaceAddrs
  have whole : Listed state.linkset
      (state.linkset.foldl (advertiseQosLink config parameter now state) []) := by
    apply foldl_seen (advertiseQosLink config parameter now state) Listed nofun
    intro seen link groups _ listed item among
    rw [List.filterMap_append, List.mem_append] at among
    unfold advertiseQosLink
    cases found : advertisedLink config now state link with
    | none =>
        simp only [List.filterMap_cons, found, List.filterMap_nil, List.not_mem_nil, or_false]
          at among
        exact listed item among
    | some new =>
        cases among with
        | inl before =>
            obtain ⟨group, member, code, has⟩ := listed item before
            obtain ⟨grown, last, same, keeps⟩ :=
              kept_addToQosGroup parameter.linkQuality new.1 new.2 member
            exact ⟨grown, last, same.trans code, keeps _ has⟩
        | inr now =>
            simp only [List.filterMap_cons, found, List.filterMap_nil, List.mem_singleton] at now
            rw [now]
            exact added_mem_addToQosGroup parameter.linkQuality new.1 new.2 groups
  exact whole

theorem helloFits_iff (config : Config) (parameter : Parameter) (msgSeqNum : Nat) (now : Int)
    (state : MessageState) :
    HelloFits config parameter msgSeqNum now state ↔
      ∀ linkCode, codeCount linkCode ((advertisedLinks config now state).map plain) ≤ maxAddrs := by
  have groups := qosGroups_base config parameter now state
  rw [← groupAll_fit_iff advertisedLinks_code, ← groups]
  have length : (state.linkset.foldl (advertiseQosLink config parameter now state) []).length =
      (groupAll ((advertisedLinks config now state).map plain) []).length := by
    rw [← groups, List.length_map]
  have sizes : (∀ group ∈ (state.linkset.foldl (advertiseQosLink config parameter now state)
        []).map QosGroup.base, group.nbIfaceAddrs.length ≤ maxAddrs) ↔
      ¬ ((state.linkset.foldl (advertiseQosLink config parameter now state) []).any fun group =>
        decide (maxAddrs < group.nbIfaceAddrs.length)) = true := by
    simp [QosGroup.base]
  rw [sizes]
  constructor
  · intro fits
    obtain ⟨msg, ran, -⟩ := fits.sent
    unfold sendHello at ran
    simp only at ran
    split at ran
    · cases ran
    · split at ran
      · cases ran
      · next small => exact small
  · intro small
    constructor
    · apply helloWrites_lt advertisedLinks_code
      rw [← groupAll_fit_iff advertisedLinks_code, ← groups]
      exact sizes.mpr small
    · have enough : ¬ maxHellos <
          (state.linkset.foldl (advertiseQosLink config parameter now state) []).length := by
        rw [length]
        exact Nat.not_lt.mpr (length_groupAll_le advertisedLinks_code)
      unfold sendHello
      simp only [if_neg enough, if_neg small]
      exact ⟨_, rfl, listed_qosGroups config parameter now state⟩

/-! ## The array of a TC -/

/-- Every address that the loops come to finds room, whether or not it is written. -/
def TcRoom (parameter : TcParameter) (now : Int) (state : MessageState) : Prop :=
  ∀ before addr after, consideredAddrs parameter state = before ++ addr :: after →
    (before.filterMap (reported parameter.toParameter state now)).length < maxAddrs

/-- The TC is built, and it has every considered address with a link. -/
structure TcFits (config : Config) (parameter : TcParameter) (msgSeqNum ansn ttlIndex : Nat)
    (now : Int) (state : MessageState) : Prop where
  writes : ∀ before addr after address,
    consideredAddrs parameter state = before ++ addr :: after →
    reported parameter.toParameter state now addr = some address →
    (before.filterMap (reported parameter.toParameter state now)).length < maxAddrs
  sent : ∃ msg next, sendTc config parameter msgSeqNum ansn ttlIndex now state = .ok (msg, next) ∧
    ∀ addr ∈ consideredAddrs parameter state, ∀ address,
      reported parameter.toParameter state now addr = some address → address ∈ msg.body.nbMainAddrs

theorem reportAddrs_ok {addrs : List NsAddr} {written : List QosAddress}
    (room : ∀ before addr after, addrs = before ++ addr :: after →
      written.length + (before.filterMap (reported parameter state now)).length < maxAddrs) :
    addrs.foldlM (reportAddr parameter state now) written =
      .ok (written ++ addrs.filterMap (reported parameter state now)) := by
  induction addrs generalizing written with
  | nil =>
      rw [List.filterMap_nil, List.append_nil]
      rfl
  | cons addr rest ih =>
      have here : written.length < maxAddrs := room [] addr rest rfl
      rw [List.foldlM_cons, reportAddr, if_pos here, List.filterMap_cons]
      cases found : reported parameter state now addr with
      | none =>
          apply ih
          intro before next after split
          have bound := room (addr :: before) next after (by rw [split]; rfl)
          rwa [List.filterMap_cons, found] at bound
      | some address =>
          have grown : ∀ before next after, rest = before ++ next :: after →
              (written ++ [address]).length +
                (before.filterMap (reported parameter state now)).length < maxAddrs := by
            intro before next after split
            have bound := room (addr :: before) next after (by rw [split]; rfl)
            rw [List.filterMap_cons, found, List.length_cons] at bound
            rw [List.length_append, List.length_singleton]
            omega
          have later := ih grown
          rw [List.append_assoc] at later
          exact later

theorem room_of_reportAddrs {addrs : List NsAddr} {written result : List QosAddress}
    (ran : addrs.foldlM (reportAddr parameter state now) written = .ok result) :
    ∀ before addr after, addrs = before ++ addr :: after →
      written.length + (before.filterMap (reported parameter state now)).length < maxAddrs := by
  induction addrs generalizing written with
  | nil =>
      intro before addr after split
      simp at split
  | cons head rest ih =>
      obtain ⟨middle, first, last⟩ := bind_ok.mp ran
      unfold reportAddr at first
      split at first
      · next here =>
        intro before addr after split
        cases before with
        | nil => exact here
        | cons start before =>
            obtain ⟨rfl, later⟩ := List.cons.inj split
            have bound := ih last before addr after later
            rw [List.filterMap_cons]
            cases found : reported parameter state now head with
            | none =>
                rw [found] at first
                cases first
                exact bound
            | some address =>
                rw [found] at first
                cases first
                rw [List.length_append, List.length_singleton] at bound
                rw [List.length_cons]
                omega
      · cases first

theorem tcFits_iff (config : Config) (parameter : TcParameter) (msgSeqNum ansn ttlIndex : Nat)
    (now : Int) (state : MessageState) :
    TcFits config parameter msgSeqNum ansn ttlIndex now state ↔ TcRoom parameter now state := by
  constructor
  · intro fits before addr after split
    obtain ⟨msg, next, ran, -⟩ := fits.sent
    obtain ⟨written, filled, -⟩ := bind_ok.mp ran
    have room := room_of_reportAddrs filled before addr after split
    rwa [List.length_nil, Nat.zero_add] at room
  · intro room
    have filled : (consideredAddrs parameter state).foldlM
          (reportAddr parameter.toParameter state now) [] =
        .ok ((consideredAddrs parameter state).filterMap
          (reported parameter.toParameter state now)) := by
      apply reportAddrs_ok
      intro before addr after split
      rw [List.length_nil, Nat.zero_add]
      exact room before addr after split
    constructor
    · intro before addr after address split _
      exact room before addr after split
    · unfold sendTc
      rw [filled]
      refine ⟨_, _, rfl, ?_⟩
      intro addr among address found
      exact List.mem_filterMap.mpr ⟨addr, among, found⟩

end

/-! ## Both agents -/

/-- What an OLSR_ETX agent originates stays within its arrays. -/
structure MessagesFit (config : Config) (parameter : TcParameter)
    (msgSeqNum ansn ttlIndex : Nat) (now : Int) (state : MessageState) : Prop where
  hello : HelloFits config parameter.toParameter msgSeqNum now state
  tc : TcFits config parameter msgSeqNum ansn ttlIndex now state
  mid : ∀ index ∈ midWrites config, index < maxAddrs

/-- At most as many links with one link code, addresses reported before another one is
considered, and interfaces as addresses in an array. -/
structure ArraysSuffice (config : Config) (parameter : TcParameter) (now : Int)
    (state : MessageState) : Prop where
  links : ∀ linkCode,
    codeCount linkCode ((advertisedLinks config now state).map plain) ≤ maxAddrs
  reports : TcRoom parameter now state
  interfaces : config.ifaces.length ≤ maxAddrs

theorem messagesFit_iff (config : Config) (parameter : TcParameter)
    (msgSeqNum ansn ttlIndex : Nat) (now : Int) (state : MessageState) :
    MessagesFit config parameter msgSeqNum ansn ttlIndex now state ↔
      ArraysSuffice config parameter now state := by
  have hello := helloFits_iff config parameter.toParameter msgSeqNum now state
  have tc := tcFits_iff config parameter msgSeqNum ansn ttlIndex now state
  have mid := midWrites_lt_iff config
  constructor
  · intro fits
    exact ⟨hello.mp fits.hello, tc.mp fits.tc, mid.mp fits.mid⟩
  · intro suffice
    exact ⟨hello.mpr suffice.links, tc.mpr suffice.reports, mid.mpr suffice.interfaces⟩

/-- In every state of an OLSR and of an OLSR_ETX agent the messages stay within their
arrays, and are complete, exactly if the sets behind them are small enough. -/
theorem originated_messages_fit_iff (config : Config) (now : Int) (node : Node)
    (parameter : TcParameter) (msgSeqNum ansn ttlIndex : Nat) (state : MessageState) :
    (Olsr.MessagesFit config now node ↔ Olsr.ArraysSuffice config now node) ∧
      (MessagesFit config parameter msgSeqNum ansn ttlIndex now state ↔
        ArraysSuffice config parameter now state) :=
  ⟨Olsr.messagesFit_iff config now node,
    messagesFit_iff config parameter msgSeqNum ansn ttlIndex now state⟩

def selectedByAll : List (Int × Event) :=
  (List.range 65).map fun sender =>
    (Time.second, receiveHello (sender + 2) (sender + 2) sender 0x80 11)

set_option maxRecDepth 10000 in
/-- The TC has no place for the last of 65 MPR selectors. -/
theorem messages_overrun_of_selectors :
    ¬ ∀ (config : Config) (clock : Int) (node : Node),
      Reached Olsr.recvOlsr config (fun _ _ _ => True) clock node →
        Olsr.MessagesFit config clock node := by
  intro claimed
  obtain ⟨clock, node, reached, checked⟩ := exists_reached_of_runOf Olsr.recvOlsr
    (fun _ _ _ => true) selectedByAll
    (fun current => decide (current.2.state.mprselset.length = 65)) (by decide +kernel)
  have selectors : node.state.mprselset.length = 65 := of_decide_eq_true checked
  have fits := claimed oneIfaceConfig clock node (reached.weaken fun _ _ _ _ => trivial)
  have last := fits.tc.writes maxAddrs (by rw [selectors]; decide)
  exact absurd last (Nat.lt_irrefl _)

end SyncFanet.OlsrEtx
