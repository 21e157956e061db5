import SyncFanet.Olsr.HelloGroups
import SyncFanet.OlsrEtx.Messages

/-!
# The links in a HELLO

`OLSR::send_hello` lists the live links of all interfaces of the node. `OLSR_ETX::send_hello`
compares the local interface of a link itself with the main address of the node, and lists
the same links only where this makes no difference.
-/

set_option autoImplicit false

namespace SyncFanet.OlsrEtx

open Olsr
open Olsr.HelloArrays

variable {config : Config} {now : Int} {state : State} {etxState : MessageState}

/-! ## `OLSR_ETX::send_hello` -/

/-- The link code of a link tuple of the main interface. -/
def mainLinkCode (config : Config) (now : Int) (state : MessageState) (link : MetricLink) :
    Option Nat :=
  if link.localIfaceAddr = config.raAddr ∧ link.time ≥ now then
    (helloNbType state.base link.toLinkTuple).map fun nbType =>
      (helloLinkType config now link.toLinkTuple &&& 0x03) ||| ((nbType <<< 2) &&& 0x0f)
  else none

/-- The HELLO that `OLSR_ETX::send_hello` fills. -/
def fillHello (config : Config) (now : Int) (state : MessageState) :
    Except Fault (HelloArrays MetricLink) :=
  fill config.addrSize (mainLinkCode config now state) state.linkset

/-- What `OLSR::send_hello` would give the link. -/
def liveLinkCode (config : Config) (now : Int) (state : MessageState) (link : MetricLink) :
    Option Nat :=
  helloLinkCode config now state.base link.toLinkTuple

theorem mainLinkCode_known {link : MetricLink} {linkCode : Nat}
    (code : mainLinkCode config now etxState link = some linkCode) : linkCode ∈ linkCodes := by
  unfold mainLinkCode at code
  split at code
  · obtain ⟨nbType, known, rfl⟩ := Option.map_eq_some_iff.mp code
    exact linkCode_known known
  · cases code

/-- The groups of the message are those of `sendHello`. -/
theorem groups_fillHello {parameter : Parameter} {hello : HelloArrays MetricLink}
    (ran : fillHello config now etxState = .ok hello) :
    hello.groups (fun link => link.nbIfaceAddr) =
      (etxState.linkset.foldl (advertiseQosLink config parameter now etxState) []).map
        QosGroup.base := by
  rw [qosGroups_base, groups_fill ran, advertisedLinks, List.map_filterMap]
  congr 1
  refine List.filterMap_congr fun link _ => ?_
  unfold mainLinkCode advertisedLink
  split
  · cases helloNbType etxState.base link.toLinkTuple <;> rfl
  · rfl

/-! ## Both senders -/

/-- Both HELLOs list exactly the live links of all interfaces. -/
structure ListsLiveLinks (config : Config) (now : Int) (state : State)
    (etxState : MessageState) : Prop where
  olsr : ∃ hello, Olsr.fillHello config now state = .ok hello ∧
    ListsExactly config.addrSize (helloLinkCode config now state) state.linkset hello
  etx : ∃ hello, fillHello config now etxState = .ok hello ∧
    ListsExactly config.addrSize (liveLinkCode config now etxState) etxState.linkset hello

theorem mainLinkCode_eq_iff {link : MetricLink} :
    mainLinkCode config now etxState link = liveLinkCode config now etxState link ↔
      (link.time ≥ now → (helloNbType etxState.base link.toLinkTuple).isSome →
        (link.localIfaceAddr = config.raAddr ↔
          etxState.base.getMainAddr link.localIfaceAddr = config.raAddr)) := by
  unfold mainLinkCode liveLinkCode helloLinkCode
  by_cases live : link.time ≥ now
  · cases known : helloNbType etxState.base link.toLinkTuple with
    | none => simp
    | some nbType =>
        by_cases own : link.localIfaceAddr = config.raAddr
        · by_cases main : etxState.base.getMainAddr link.localIfaceAddr = config.raAddr
          · simp [live, own]
          · simp [live, own]
        · by_cases main : etxState.base.getMainAddr link.localIfaceAddr = config.raAddr
          · simp [live, own, main]
          · simp [live, own, main]
  · simp [live]

/-- The senders list exactly the live links if no live link of `OLSR_ETX` is on an interface that
has the node for its main address and is not the main interface itself, or the other way
round. -/
theorem listsLiveLinks_iff (small : config.addrSize ≤ 16)
    (few : Few (helloLinkCode config now state) state.linkset)
    (fewEtx : Few (liveLinkCode config now etxState) etxState.linkset) :
    ListsLiveLinks config now state etxState ↔
      ∀ link ∈ etxState.linkset, link.time ≥ now →
        (helloNbType etxState.base link.toLinkTuple).isSome →
        (link.localIfaceAddr = config.raAddr ↔
          etxState.base.getMainAddr link.localIfaceAddr = config.raAddr) := by
  constructor
  · intro lists link listed
    obtain ⟨hello, ran, exact⟩ := lists.etx
    exact mainLinkCode_eq_iff.mp ((fill_filled ran).same_code exact link listed)
  · intro same
    constructor
    · have known : ∀ link ∈ state.linkset, ∀ linkCode,
          helloLinkCode config now state link = some linkCode → linkCode ∈ linkCodes :=
        fun _ _ _ => helloLinkCode_known
      obtain ⟨hello, ran⟩ := fill_total config.addrSize known few
      exact ⟨hello, ran, (fill_filled ran).exact known few small⟩
    · have agree : ∀ link ∈ etxState.linkset,
          mainLinkCode config now etxState link = liveLinkCode config now etxState link :=
        fun link listed => mainLinkCode_eq_iff.mpr (same link listed)
      have known : ∀ link ∈ etxState.linkset, ∀ linkCode,
          mainLinkCode config now etxState link = some linkCode → linkCode ∈ linkCodes :=
        fun _ _ _ => mainLinkCode_known
      have fewMain : Few (mainLinkCode config now etxState) etxState.linkset := by
        intro linkCode
        rw [linksWith_congr agree]
        exact fewEtx linkCode
      obtain ⟨hello, ran⟩ := fill_total config.addrSize known fewMain
      exact ⟨hello, ran, ((fill_filled ran).exact known fewMain small).congr agree⟩

/-! ## A node with two interfaces -/

private def twoIfaceConfig : Config :=
  { oneIfaceConfig with
    ifaces := [{ index := 0, addr := 1 }, { index := 1, addr := 2 }]
    localAddrs := [1, 2]
    raAddr_local := by decide
    ifaces_local := by decide }

/-- Node 1 with the neighbor 9, which it hears on the given interface. -/
private def heardOn (localIfaceAddr : NsAddr) : MessageState where
  linkset :=
    [{ id := 1, localIfaceAddr := localIfaceAddr, nbIfaceAddr := 9, symTime := 10, asymTime := 10
       lostTime := 0, time := 20, localIfaceIndex := 0
       qualities := { linkQuality := 1, nbLinkQuality := 1, nbLinkDelay := 1 } }]
  nbset := [{ nbMainAddr := 9, status := .sym, willingness := willDefault }]
  nb2hopset := []
  topologyset := []
  ifaceassocset :=
    [{ id := 0, ifaceAddr := 1, mainAddr := 1, time := 100, localIfaceIndex := 0 },
      { id := 1, ifaceAddr := 2, mainAddr := 1, time := 100, localIfaceIndex := 1 }]
  mprset := ∅
  mprselset := []
  linkDelay := fun _ => 1

private theorem few_of_single {Link : Type} (codeOf : Link → Option Nat) (link : Link) :
    Few codeOf [link] := fun _ =>
  (List.length_filter_le _ [link]).trans (show 1 ≤ maxAddrs by decide)

/-- A neighbor on the main interface. -/
theorem listsLiveLinks_iff_main :
    ListsLiveLinks twoIfaceConfig 0 (heardOn 1).base (heardOn 1) ↔
      ∀ link ∈ (heardOn 1).linkset, link.time ≥ 0 →
        (helloNbType (heardOn 1).base link.toLinkTuple).isSome →
        (link.localIfaceAddr = 1 ↔ (heardOn 1).base.getMainAddr link.localIfaceAddr = 1) :=
  listsLiveLinks_iff (by decide) (few_of_single _ _) (few_of_single _ _)

/-- A neighbor on the other interface is left out of the HELLO of `OLSR_ETX`. -/
theorem not_listsLiveLinks :
    ¬∀ (config : Config) (now : Int) (state : State) (etxState : MessageState),
      config.addrSize ≤ 16 → Few (helloLinkCode config now state) state.linkset →
      Few (liveLinkCode config now etxState) etxState.linkset →
      ListsLiveLinks config now state etxState := by
  intro all
  obtain ⟨hello, ran, exact⟩ := (all twoIfaceConfig 0 (heardOn 2).base (heardOn 2) (by decide)
    (few_of_single _ _) (few_of_single _ _)).etx
  have same := (fill_filled ran).same_code exact _ List.mem_cons_self
  revert same
  decide

end SyncFanet.OlsrEtx
