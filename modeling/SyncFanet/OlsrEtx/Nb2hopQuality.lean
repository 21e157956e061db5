import Mathlib.Algebra.Order.Ring.Rat
import SyncFanet.Library.Fold
import SyncFanet.Library.LeastOf
import SyncFanet.OlsrEtx.Nb2hopSet

/-!
# Qualities of 2-hop neighbors

What a HELLO leaves in the tuple of a 2-hop neighbor: the best of what the tuple had
and what the HELLO lists since the neighbor was last erased.
-/

set_option autoImplicit false

namespace SyncFanet.OlsrEtx

open Olsr

/-! ## Better qualities -/

/-- The smaller the better. -/
def rank (behaviour : LinkQuality) (etx : ℚ) : ℚ :=
  match behaviour with
  | .ml => -etx
  | _ => etx

theorem rank_inj (behaviour : LinkQuality) {etx etx' : ℚ} :
    rank behaviour etx = rank behaviour etx' ↔ etx = etx' := by
  cases behaviour <;> simp [rank]

/-- The two values of a tuple that routes and MPRs read. -/
structure Rating where
  etx : ℚ
  nbLinkDelay : ℚ
  deriving DecidableEq

def QosNb2hopTuple.rating (tuple : QosNb2hopTuple) : Rating where
  etx := tuple.etx
  nbLinkDelay := tuple.nbLinkDelay

def QosAddress.rating (behaviour : LinkQuality) (addr : QosAddress) : Rating where
  etx := addr.etx behaviour
  nbLinkDelay := addr.nbLinkDelay

/-- The values of a new tuple. -/
def Rating.fresh (behaviour : LinkQuality) : Rating where
  etx := etxOf behaviour 0
  nbLinkDelay := 1

def Rating.improve (behaviour : LinkQuality) (rating listed : Rating) : Rating where
  etx := if rank behaviour listed.etx < rank behaviour rating.etx then listed.etx else rating.etx
  nbLinkDelay := min rating.nbLinkDelay listed.nbLinkDelay

theorem rank_improve (behaviour : LinkQuality) (rating listed : Rating) :
    rank behaviour (rating.improve behaviour listed).etx =
      min (rank behaviour rating.etx) (rank behaviour listed.etx) := by
  by_cases better : rank behaviour listed.etx < rank behaviour rating.etx
  · simp [Rating.improve, better, min_eq_right better.le]
  · simp [Rating.improve, better, min_eq_left (not_lt.mp better)]

theorem rank_foldl_improve (behaviour : LinkQuality) (start : Rating) (listed : List Rating) :
    rank behaviour (listed.foldl (Rating.improve behaviour) start).etx =
      (listed.map fun rating => rank behaviour rating.etx).foldl min
        (rank behaviour start.etx) := by
  induction listed generalizing start with
  | nil => rfl
  | cons rating listed ih => rw [List.foldl_cons, ih, rank_improve, List.map_cons, List.foldl_cons]

theorem nbLinkDelay_foldl_improve (behaviour : LinkQuality) (start : Rating)
    (listed : List Rating) :
    (listed.foldl (Rating.improve behaviour) start).nbLinkDelay =
      (listed.map Rating.nbLinkDelay).foldl min start.nbLinkDelay := by
  induction listed generalizing start with
  | nil => rfl
  | cons rating listed ih =>
      rw [List.foldl_cons, ih, List.map_cons, List.foldl_cons]
      rfl

theorem rating_keepBest {behaviour : LinkQuality} (rated : behaviour ≠ .none)
    (addr : QosAddress) (tuple : QosNb2hopTuple) :
    (tuple.keepBest behaviour behaviour addr).rating =
      tuple.rating.improve behaviour (addr.rating behaviour) := by
  have delay : ∀ rated : QosNb2hopTuple,
      (if addr.nbLinkDelay < rated.nbLinkDelay then
        rated.updateLinkDelay addr.linkDelay addr.nbLinkDelay else rated).rating =
      { etx := rated.etx, nbLinkDelay := min rated.nbLinkDelay addr.nbLinkDelay } := by
    intro rated
    by_cases smaller : addr.nbLinkDelay < rated.nbLinkDelay
    · rw [if_pos smaller, min_eq_right smaller.le]
      rfl
    · rw [if_neg smaller, min_eq_left (not_lt.mp smaller)]
      rfl
  cases behaviour with
  | none => exact absurd rfl rated
  | etx =>
      dsimp only [QosNb2hopTuple.keepBest]
      rw [delay]
      by_cases better : addr.etx .etx < tuple.etx
      · simp [Rating.improve, rank, QosNb2hopTuple.rating, QosAddress.rating, better,
          QosNb2hopTuple.updateLinkQuality]
        rfl
      · simp [Rating.improve, rank, QosNb2hopTuple.rating, QosAddress.rating, better]
  | ml =>
      dsimp only [QosNb2hopTuple.keepBest]
      rw [delay]
      by_cases better : addr.etx .ml > tuple.etx
      · simp [Rating.improve, rank, QosNb2hopTuple.rating, QosAddress.rating, better,
          QosNb2hopTuple.updateLinkQuality]
        rfl
      · simp [Rating.improve, rank, QosNb2hopTuple.rating, QosAddress.rating, better]

/-! ## Listings -/

/-- An address of a HELLO with the 2-hop neighbor it stands for. -/
structure Listing where
  nbType : Nat
  nb2hopAddr : NsAddr
  addr : QosAddress

namespace Listing

def Advertises (nb2hopAddr : NsAddr) (listing : Listing) : Prop :=
  listing.nb2hopAddr = nb2hopAddr ∧ (listing.nbType = symNeigh ∨ listing.nbType = mprNeigh)

/-- The listing is of the neighbor, as none. -/
def Erases (nb2hopAddr : NsAddr) (listing : Listing) : Prop :=
  listing.nb2hopAddr = nb2hopAddr ∧ listing.nbType = notNeigh

instance (nb2hopAddr : NsAddr) : DecidablePred (Advertises nb2hopAddr) := fun _ =>
  inferInstanceAs (Decidable (_ ∧ _))

instance (nb2hopAddr : NsAddr) : DecidablePred (Erases nb2hopAddr) := fun _ =>
  inferInstanceAs (Decidable (_ ∧ _))

theorem not_advertises {nb2hopAddr : NsAddr} {listing : Listing}
    (erases : listing.Erases nb2hopAddr) : ¬ listing.Advertises nb2hopAddr := by
  rintro ⟨_, sym | mpr⟩
  · exact absurd (erases.2.symm.trans sym) (by decide)
  · exact absurd (erases.2.symm.trans mpr) (by decide)

end Listing

def Listing.write (behaviour : LinkQuality) (nb2hopAddr : NsAddr) (stored : Option Rating)
    (listing : Listing) : Option Rating :=
  if listing.Advertises nb2hopAddr then
    some ((stored.getD (.fresh behaviour)).improve behaviour (listing.addr.rating behaviour))
  else if listing.Erases nb2hopAddr then none
  else stored

/-- The listings of a HELLO, in order, as the node reads them. -/
def Nb2hopNode.listings (node : Nb2hopNode) (helloMsgs : List QosGroup) : List Listing :=
  helloMsgs.flatMap fun group => group.nbIfaceAddrs.map fun addr =>
    { nbType := group.nbType
      nb2hopAddr := node.base.getMainAddr addr.ifaceAddress
      addr := addr }

/-! ## The tuple of one neighbor -/

namespace Nb2hopNode

variable {node : Nb2hopNode} {behaviour : LinkQuality} {nbMainAddr nb2hopAddr other : NsAddr}

def ratingOf (node : Nb2hopNode) (nbMainAddr nb2hopAddr : NsAddr) : Option Rating :=
  (node.findNb2hopTuple nbMainAddr nb2hopAddr).map QosNb2hopTuple.rating

theorem is2hop_other {tuple : QosNb2hopTuple} (different : other ≠ nb2hopAddr)
    (found : is2hop nbMainAddr nb2hopAddr tuple = true) : is2hop nbMainAddr other tuple = false := by
  simp only [is2hop, Bool.decide_and, Bool.and_eq_true, decide_eq_true_eq] at found
  simp [is2hop, found.2, Ne.symm different]

theorem find_update (update : QosNb2hopTuple → QosNb2hopTuple)
    (keeps : ∀ tuple, is2hop nbMainAddr nb2hopAddr (update tuple) =
      is2hop nbMainAddr nb2hopAddr tuple) :
    (node.updateNb2hopTuple nbMainAddr nb2hopAddr update).findNb2hopTuple nbMainAddr nb2hopAddr =
      (node.findNb2hopTuple nbMainAddr nb2hopAddr).map update :=
  updateFirst.find?_same (fun tuple found => (keeps tuple).trans found) node.nb2hopset

theorem find_update_other (update : QosNb2hopTuple → QosNb2hopTuple)
    (keeps : ∀ tuple, is2hop nbMainAddr nb2hopAddr (update tuple) =
      is2hop nbMainAddr nb2hopAddr tuple) (different : other ≠ nb2hopAddr) :
    (node.updateNb2hopTuple nbMainAddr nb2hopAddr update).findNb2hopTuple nbMainAddr other =
      node.findNb2hopTuple nbMainAddr other := by
  apply updateFirst.find?_other
  intro tuple found
  exact ⟨is2hop_other different found, is2hop_other different ((keeps tuple).trans found)⟩

theorem find_add (time : Int) (absent : node.findNb2hopTuple nbMainAddr nb2hopAddr = none) :
    (node.addNb2hopTuple behaviour nbMainAddr nb2hopAddr time).findNb2hopTuple nbMainAddr
      nb2hopAddr =
        some (.created behaviour node.nextId nbMainAddr nb2hopAddr time) := by
  unfold findNb2hopTuple at absent
  simp [findNb2hopTuple, addNb2hopTuple, List.find?_append, absent, is2hop,
    QosNb2hopTuple.created]

theorem find_add_other (time : Int) (different : other ≠ nb2hopAddr) :
    (node.addNb2hopTuple behaviour nbMainAddr nb2hopAddr time).findNb2hopTuple nbMainAddr other =
      node.findNb2hopTuple nbMainAddr other := by
  simp [findNb2hopTuple, addNb2hopTuple, List.find?_append, is2hop, QosNb2hopTuple.created,
    Ne.symm different]

theorem find_erase :
    (node.eraseNb2hopTuples nbMainAddr nb2hopAddr).findNb2hopTuple nbMainAddr nb2hopAddr =
      none := by
  simp [findNb2hopTuple, eraseNb2hopTuples]

theorem find_erase_other (different : other ≠ nb2hopAddr) :
    (node.eraseNb2hopTuples nbMainAddr nb2hopAddr).findNb2hopTuple nbMainAddr other =
      node.findNb2hopTuple nbMainAddr other := by
  unfold findNb2hopTuple eraseNb2hopTuples
  rw [List.find?_filter]
  congr 1
  funext tuple
  cases found : is2hop nbMainAddr nb2hopAddr tuple with
  | false => simp
  | true => simp [is2hop_other different found]

end Nb2hopNode

theorem is2hop_keepBest (behaviour sender : LinkQuality) (addr : QosAddress)
    (nbMainAddr nb2hopAddr : NsAddr) (tuple : QosNb2hopTuple) :
    Nb2hopNode.is2hop nbMainAddr nb2hopAddr (tuple.keepBest behaviour sender addr) =
      Nb2hopNode.is2hop nbMainAddr nb2hopAddr tuple := by
  have same : (tuple.keepBest behaviour sender addr).toNb2hopTuple = tuple.toNb2hopTuple := by
    unfold QosNb2hopTuple.keepBest
    cases behaviour <;> dsimp only <;> split_ifs <;> rfl
  simp only [Nb2hopNode.is2hop, same]

section Populate

variable {behaviour : LinkQuality} {validityTime : Int} {nbMainAddr nb2hopAddr : NsAddr}
  {group : QosGroup} {node : Nb2hopNode}

theorem populateQosAddr_frame (addr : QosAddress) :
    (populateQosAddr behaviour validityTime nbMainAddr group node addr).base = node.base ∧
      (populateQosAddr behaviour validityTime nbMainAddr group node addr).raAddr =
        node.raAddr := by
  unfold populateQosAddr
  dsimp only
  split_ifs
  · exact ⟨rfl, rfl⟩
  · cases node.findNb2hopTuple nbMainAddr (node.base.getMainAddr addr.ifaceAddress) <;>
      exact ⟨rfl, rfl⟩
  · exact ⟨rfl, rfl⟩
  · exact ⟨rfl, rfl⟩

theorem ratingOf_populateQosAddr (rated : behaviour ≠ .none)
    (agreed : group.qosBehaviour = behaviour) (foreign : nb2hopAddr ≠ node.raAddr)
    (addr : QosAddress) :
    (populateQosAddr behaviour validityTime nbMainAddr group node addr).ratingOf nbMainAddr
        nb2hopAddr =
      Listing.write behaviour nb2hopAddr (node.ratingOf nbMainAddr nb2hopAddr)
        { nbType := group.nbType
          nb2hopAddr := node.base.getMainAddr addr.ifaceAddress
          addr := addr } := by
  unfold populateQosAddr Listing.write Nb2hopNode.ratingOf
  dsimp only
  simp only [Listing.Advertises, Listing.Erases]
  by_cases here : node.base.getMainAddr addr.ifaceAddress = nb2hopAddr
  · rw [here]
    simp only [true_and]
    by_cases advertised : group.nbType = symNeigh ∨ group.nbType = mprNeigh
    · rw [if_pos advertised, if_pos advertised, if_neg foreign, agreed,
        Nb2hopNode.find_update _ (is2hop_keepBest behaviour behaviour addr nbMainAddr nb2hopAddr)]
      cases found : node.findNb2hopTuple nbMainAddr nb2hopAddr with
      | none =>
          dsimp only
          rw [Nb2hopNode.find_add validityTime found, Option.map_some, Option.map_some,
            rating_keepBest rated]
          simp [QosNb2hopTuple.rating, QosNb2hopTuple.created, Rating.fresh]
      | some tuple =>
          dsimp only
          rw [Nb2hopNode.find_update (fun tuple => { tuple with time := validityTime })
            (fun _ => rfl), found]
          simp only [Option.map_some, rating_keepBest rated, Option.getD_some]
          rfl
    · rw [if_neg advertised, if_neg advertised]
      by_cases erased : group.nbType = notNeigh
      · rw [if_pos erased, if_pos erased, Nb2hopNode.find_erase]
        rfl
      · rw [if_neg erased, if_neg erased]
  · have elsewhere : nb2hopAddr ≠ node.base.getMainAddr addr.ifaceAddress := Ne.symm here
    simp only [here, false_and, if_false]
    by_cases advertised : group.nbType = symNeigh ∨ group.nbType = mprNeigh
    · rw [if_pos advertised]
      by_cases own : node.base.getMainAddr addr.ifaceAddress = node.raAddr
      · rw [if_pos own]
      · rw [if_neg own, Nb2hopNode.find_update_other _ (is2hop_keepBest _ _ addr _ _) elsewhere]
        cases node.findNb2hopTuple nbMainAddr (node.base.getMainAddr addr.ifaceAddress) with
        | none => rw [Nb2hopNode.find_add_other validityTime elsewhere]
        | some tuple =>
            dsimp only
            rw [Nb2hopNode.find_update_other (fun tuple => { tuple with time := validityTime })
              (fun _ => rfl) elsewhere]
    · rw [if_neg advertised]
      by_cases erased : group.nbType = notNeigh
      · rw [if_pos erased, Nb2hopNode.find_erase_other elsewhere]
      · rw [if_neg erased]

end Populate

section Hello

variable {behaviour : LinkQuality} {validityTime : Int} {nbMainAddr nb2hopAddr : NsAddr}

theorem ratingOf_populateGroup {group : QosGroup} (rated : behaviour ≠ .none)
    (agreed : group.qosBehaviour = behaviour) (addrs : List QosAddress) (node : Nb2hopNode)
    (foreign : nb2hopAddr ≠ node.raAddr) :
    let after := addrs.foldl (populateQosAddr behaviour validityTime nbMainAddr group) node
    after.base = node.base ∧ after.raAddr = node.raAddr ∧
      after.ratingOf nbMainAddr nb2hopAddr =
        (addrs.map fun addr => (⟨group.nbType, node.base.getMainAddr addr.ifaceAddress, addr⟩ :
          Listing)).foldl (Listing.write behaviour nb2hopAddr)
            (node.ratingOf nbMainAddr nb2hopAddr) := by
  induction addrs generalizing node with
  | nil => exact ⟨rfl, rfl, rfl⟩
  | cons addr addrs ih =>
      obtain ⟨sameBase, sameAddr⟩ := @populateQosAddr_frame behaviour validityTime nbMainAddr group node
        addr
      have written := @ratingOf_populateQosAddr behaviour validityTime nbMainAddr nb2hopAddr group
        node rated agreed foreign addr
      obtain ⟨base, own, rating⟩ :=
        ih (populateQosAddr behaviour validityTime nbMainAddr group node addr)
          (by rwa [sameAddr])
      refine ⟨base.trans sameBase, own.trans sameAddr, ?_⟩
      rw [List.foldl_cons, rating, sameBase, written]
      rfl

theorem ratingOf_populateGroups (rated : behaviour ≠ .none) {helloMsgs : List QosGroup}
    (agreed : ∀ group ∈ helloMsgs, group.qosBehaviour = behaviour) {node : Nb2hopNode}
    (foreign : nb2hopAddr ≠ node.raAddr) :
    (helloMsgs.foldl (fun node group => group.nbIfaceAddrs.foldl
        (populateQosAddr behaviour validityTime nbMainAddr group) node) node).ratingOf nbMainAddr
        nb2hopAddr =
      (node.listings helloMsgs).foldl (Listing.write behaviour nb2hopAddr)
        (node.ratingOf nbMainAddr nb2hopAddr) := by
  induction helloMsgs generalizing node with
  | nil => rfl
  | cons group helloMsgs ih =>
      obtain ⟨base, own, rating⟩ := @ratingOf_populateGroup behaviour validityTime nbMainAddr nb2hopAddr
        group rated (agreed group List.mem_cons_self) group.nbIfaceAddrs node foreign
      rw [List.foldl_cons, ih (fun other member => agreed other (List.mem_cons_of_mem _ member))
        (by rwa [own]), rating]
      simp only [Nb2hopNode.listings, List.flatMap_cons, List.foldl_append, base]

end Hello

/-! ## What is left of a HELLO -/

section Left

variable (behaviour : LinkQuality) (nb2hopAddr : NsAddr)

/-- The addresses listed for a neighbor. -/
def advertised (listings : List Listing) : List QosAddress :=
  (listings.filter fun listing => listing.Advertises nb2hopAddr).map Listing.addr

/-- Those that come after the last listing as no neighbor. -/
def sinceErased (listings : List Listing) : List QosAddress :=
  listings.foldl (fun kept listing =>
    if listing.Advertises nb2hopAddr then kept ++ [listing.addr]
    else if listing.Erases nb2hopAddr then []
    else kept) []

/-- The values that these are compared with first. -/
def startRating (stored : Option Rating) (listings : List Listing) : Rating :=
  if listings.any fun listing => listing.Erases nb2hopAddr then .fresh behaviour
  else stored.getD (.fresh behaviour)

variable {behaviour nb2hopAddr}

structure Leaves (behaviour : LinkQuality) (nb2hopAddr : NsAddr) (stored left : Option Rating)
    (listings : List Listing) : Prop where
  values : left.getD (.fresh behaviour) =
    ((sinceErased nb2hopAddr listings).map (QosAddress.rating behaviour)).foldl
      (Rating.improve behaviour) (startRating behaviour nb2hopAddr stored listings)
  present : sinceErased nb2hopAddr listings ≠ [] → left.isSome
  erased : sinceErased nb2hopAddr listings = [] → advertised nb2hopAddr listings ≠ [] → left = none
  among : ∀ addr ∈ sinceErased nb2hopAddr listings, addr ∈ advertised nb2hopAddr listings

theorem foldl_write_leaves (stored : Option Rating) (listings : List Listing) :
    Leaves behaviour nb2hopAddr stored
      (listings.foldl (Listing.write behaviour nb2hopAddr) stored) listings := by
  induction listings using List.reverseRecOn with
  | nil => exact ⟨rfl, fun some => absurd rfl some, fun _ some => absurd rfl some, nofun⟩
  | append_singleton listings listing ih =>
      have since : sinceErased nb2hopAddr (listings ++ [listing]) =
          if listing.Advertises nb2hopAddr then
            sinceErased nb2hopAddr listings ++ [listing.addr]
          else if listing.Erases nb2hopAddr then []
          else sinceErased nb2hopAddr listings := by
        simp [sinceErased, List.foldl_append]
      have start : startRating behaviour nb2hopAddr stored (listings ++ [listing]) =
          if listing.Erases nb2hopAddr then .fresh behaviour
          else startRating behaviour nb2hopAddr stored listings := by
        by_cases erases : listing.Erases nb2hopAddr
        · simp [startRating, erases]
        · simp [startRating, erases]
      have listed : advertised nb2hopAddr (listings ++ [listing]) =
          if listing.Advertises nb2hopAddr then
            advertised nb2hopAddr listings ++ [listing.addr]
          else advertised nb2hopAddr listings := by
        by_cases advertises : listing.Advertises nb2hopAddr
        · simp [advertised, advertises]
        · simp [advertised, advertises]
      rw [List.foldl_append, List.foldl_cons, List.foldl_nil]
      by_cases advertises : listing.Advertises nb2hopAddr
      · have kept : ¬ listing.Erases nb2hopAddr := fun erases =>
          Listing.not_advertises erases advertises
        rw [if_pos advertises] at since listed
        rw [if_neg kept] at start
        rw [Listing.write, if_pos advertises]
        constructor
        · rw [since, start, ih.values]
          simp
        · intro _
          rfl
        · rw [since]
          simp
        · rw [since, listed]
          intro addr member
          rcases List.mem_append.mp member with before | last
          · exact List.mem_append_left _ (ih.among addr before)
          · exact List.mem_append_right _ last
      · rw [if_neg advertises] at since listed
        rw [Listing.write, if_neg advertises]
        by_cases erases : listing.Erases nb2hopAddr
        · rw [if_pos erases] at since start
          rw [if_pos erases]
          constructor
          · rw [since, start]
            rfl
          · rw [since]
            exact fun some => absurd rfl some
          · intro _ _
            rfl
          · rw [since]
            nofun
        · rw [if_neg erases] at since start
          rw [if_neg erases]
          constructor
          · rw [since, start]
            exact ih.values
          · rw [since]
            exact ih.present
          · rw [since, listed]
            exact ih.erased
          · rw [since, listed]
            exact ih.among

end Left

/-! ## The law -/

/-- The tuple of the neighbor has the best quality and the smallest delay of those that
are listed for it. -/
structure CarriesBest (behaviour : LinkQuality) (tuple : QosNb2hopTuple)
    (listed : List QosAddress) : Prop where
  quality : ∃ addr ∈ listed, tuple.etx = addr.etx behaviour ∧
    ∀ other ∈ listed, rank behaviour (addr.etx behaviour) ≤ rank behaviour (other.etx behaviour)
  delay : ∃ addr ∈ listed, tuple.nbLinkDelay = addr.nbLinkDelay ∧
    ∀ other ∈ listed, addr.nbLinkDelay ≤ other.nbLinkDelay

/-- What was stored before hides nothing that is listed. -/
structure Unhidden (behaviour : LinkQuality) (start : Rating)
    (since listed : List QosAddress) : Prop where
  kept : since ≠ []
  quality : ∃ addr ∈ listed,
    (∀ other ∈ listed,
      rank behaviour (addr.etx behaviour) ≤ rank behaviour (other.etx behaviour)) ∧
    rank behaviour (addr.etx behaviour) ≤ rank behaviour start.etx ∧
    (start.etx = addr.etx behaviour ∨ ∃ last ∈ since, last.etx behaviour = addr.etx behaviour)
  delay : ∃ addr ∈ listed,
    (∀ other ∈ listed, addr.nbLinkDelay ≤ other.nbLinkDelay) ∧
    addr.nbLinkDelay ≤ start.nbLinkDelay ∧
    (start.nbLinkDelay = addr.nbLinkDelay ∨
      ∃ last ∈ since, last.nbLinkDelay = addr.nbLinkDelay)

/-- `isLeast_foldl_min_iff` for a value of the listed addresses. -/
theorem least_listed_iff {start : ℚ} {value : QosAddress → ℚ} {since listed : List QosAddress}
    (among : ∀ addr ∈ since, addr ∈ listed) :
    (∃ addr ∈ listed, (since.map value).foldl min start = value addr ∧
      ∀ other ∈ listed, value addr ≤ value other) ↔
      ∃ addr ∈ listed, (∀ other ∈ listed, value addr ≤ value other) ∧ value addr ≤ start ∧
        (start = value addr ∨ ∃ last ∈ since, value last = value addr) := by
  have least := @isLeast_foldl_min_iff ℚ _ start (since.map value) (listed.map value)
    (by
      intro kept member
      obtain ⟨addr, inSince, same⟩ := List.mem_map.mp member
      exact List.mem_map.mpr ⟨addr, among addr inSince, same⟩)
  have isLeast : ∀ bound : ℚ, IsLeast {kept | kept ∈ listed.map value} bound ↔
      ∃ addr ∈ listed, bound = value addr ∧ ∀ other ∈ listed, value addr ≤ value other := by
    intro bound
    constructor
    · rintro ⟨member, below⟩
      obtain ⟨addr, inListed, rfl⟩ := List.mem_map.mp member
      exact ⟨addr, inListed, rfl, fun other among => below (List.mem_map_of_mem among)⟩
    · rintro ⟨addr, inListed, rfl, below⟩
      refine ⟨List.mem_map_of_mem inListed, ?_⟩
      intro kept member
      obtain ⟨other, among, rfl⟩ := List.mem_map.mp member
      exact below other among
  rw [← isLeast, least]
  constructor
  · rintro ⟨bound, found, notAbove, attained⟩
    obtain ⟨addr, member, rfl, below⟩ := (isLeast bound).mp found
    exact ⟨addr, member, below, notAbove, by simpa only [List.mem_map] using attained⟩
  · rintro ⟨addr, member, below, notAbove, attained⟩
    exact ⟨value addr, (isLeast _).mpr ⟨addr, member, rfl, below⟩, notAbove,
      by simpa only [List.mem_map] using attained⟩

theorem leaves_best_iff {behaviour : LinkQuality} {nb2hopAddr : NsAddr} {stored : Option Rating}
    {found : Option QosNb2hopTuple} {listings : List Listing}
    (leaves : Leaves behaviour nb2hopAddr stored (found.map QosNb2hopTuple.rating) listings)
    (listed : advertised nb2hopAddr listings ≠ []) :
    (∃ tuple, found = some tuple ∧
      CarriesBest behaviour tuple (advertised nb2hopAddr listings)) ↔
      Unhidden behaviour (startRating behaviour nb2hopAddr stored listings)
        (sinceErased nb2hopAddr listings) (advertised nb2hopAddr listings) := by
  have quality := @least_listed_iff
    (rank behaviour (startRating behaviour nb2hopAddr stored listings).etx)
    (fun addr => rank behaviour (addr.etx behaviour)) _ _ leaves.among
  have delay := @least_listed_iff
    (startRating behaviour nb2hopAddr stored listings).nbLinkDelay QosAddress.nbLinkDelay _ _
    leaves.among
  simp only [rank_inj] at quality
  cases found with
  | none =>
      have nothing : sinceErased nb2hopAddr listings = [] := by
        by_contra some
        exact absurd (leaves.present some) (by simp)
      constructor
      · rintro ⟨tuple, impossible, _⟩
        cases impossible
      · intro unhidden
        exact absurd nothing unhidden.kept
  | some tuple =>
      have kept : sinceErased nb2hopAddr listings ≠ [] := by
        intro nothing
        exact absurd (leaves.erased nothing listed) (by simp)
      have values := leaves.values
      simp only [Option.map_some, Option.getD_some] at values
      have etx := congrArg (fun rating => rank behaviour rating.etx) values
      have delays := congrArg Rating.nbLinkDelay values
      simp only [rank_foldl_improve, nbLinkDelay_foldl_improve, List.map_map] at etx delays
      constructor
      · rintro ⟨_, same, carries⟩
        cases same
        refine ⟨kept, quality.mp ?_, delay.mp ?_⟩
        · obtain ⟨addr, member, best, below⟩ := carries.quality
          refine ⟨addr, member, ?_, below⟩
          rw [← best]
          exact etx.symm
        · obtain ⟨addr, member, smallest, below⟩ := carries.delay
          refine ⟨addr, member, ?_, below⟩
          rw [← smallest]
          exact delays.symm
      · intro unhidden
        refine ⟨tuple, rfl, ?_, ?_⟩
        · obtain ⟨addr, member, best, below⟩ := quality.mpr unhidden.quality
          exact ⟨addr, member, (rank_inj behaviour).mp (etx.trans best), below⟩
        · obtain ⟨addr, member, smallest, below⟩ := delay.mpr unhidden.delay
          exact ⟨addr, member, delays.trans smallest, below⟩

def populateAll (behaviour : LinkQuality) (hellos : List (Int × QosMessage QosHello))
    (node : Nb2hopNode) : Except Fault Nb2hopNode :=
  hellos.foldlM (fun node hello => populateNb2hopset behaviour hello.1 hello.2 node) node

section Follows

variable (behaviour : LinkQuality) (msg : QosMessage QosHello) (before after : Nb2hopNode)

/-- After the HELLO every 2-hop neighbor that it advertises is as the HELLO says. -/
def FollowsHello : Prop :=
  ∀ nb2hopAddr, nb2hopAddr ≠ before.raAddr →
    advertised nb2hopAddr (before.listings msg.body.helloMsgs) ≠ [] →
    ∃ tuple, after.findNb2hopTuple msg.origAddr nb2hopAddr = some tuple ∧
      CarriesBest behaviour tuple (advertised nb2hopAddr (before.listings msg.body.helloMsgs))

/-- Nothing that the node stored, or gives to a new tuple, is better than the HELLO. -/
def HidesNothing : Prop :=
  ∀ nb2hopAddr, nb2hopAddr ≠ before.raAddr →
    advertised nb2hopAddr (before.listings msg.body.helloMsgs) ≠ [] →
    Unhidden behaviour
      (startRating behaviour nb2hopAddr (before.ratingOf msg.origAddr nb2hopAddr)
        (before.listings msg.body.helloMsgs))
      (sinceErased nb2hopAddr (before.listings msg.body.helloMsgs))
      (advertised nb2hopAddr (before.listings msg.body.helloMsgs))

end Follows

theorem nb2hop_follows_hello {behaviour : LinkQuality} (rated : behaviour ≠ .none)
    {start before after : Nb2hopNode} {earlier : List (Int × QosMessage QosHello)} {now : Int}
    {msg : QosMessage QosHello}
    (agreed : ∀ group ∈ msg.body.helloMsgs, group.qosBehaviour = behaviour)
    (reached : populateAll behaviour earlier start = .ok before)
    (symmetric : symLinksOf now msg.origAddr before.base ≠ [])
    (populated : populateAll behaviour (earlier ++ [(now, msg)]) start = .ok after) :
    FollowsHello behaviour msg before after ↔ HidesNothing behaviour msg before := by
  have last : populateNb2hopset behaviour now msg before = .ok after := by
    have whole := populated
    rw [populateAll, List.foldlM_append] at whole
    change (populateAll behaviour earlier start).bind _ = _ at whole
    rw [reached] at whole
    simpa [Except.bind] using whole
  have groups : after = msg.body.helloMsgs.foldl (fun node group => group.nbIfaceAddrs.foldl
      (populateQosAddr behaviour (now + emfToSeconds msg.vtime) msg.origAddr group) node)
        before := by
    rw [populateNb2hopset, if_neg symmetric] at last
    split_ifs at last
    exact (Except.ok.inj last).symm
  have leaves : ∀ nb2hopAddr, nb2hopAddr ≠ before.raAddr →
      Leaves behaviour nb2hopAddr (before.ratingOf msg.origAddr nb2hopAddr)
        (after.ratingOf msg.origAddr nb2hopAddr) (before.listings msg.body.helloMsgs) := by
    intro nb2hopAddr foreign
    rw [groups, ratingOf_populateGroups rated agreed foreign]
    exact foldl_write_leaves _ _
  constructor
  · intro follows nb2hopAddr foreign listed
    exact (leaves_best_iff (leaves nb2hopAddr foreign) listed).mp
      (follows nb2hopAddr foreign listed)
  · intro hides nb2hopAddr foreign listed
    exact (leaves_best_iff (leaves nb2hopAddr foreign) listed).mpr
      (hides nb2hopAddr foreign listed)

/-- A node 1 with the symmetric neighbor 2. -/
def besideTwo : Nb2hopNode where
  raAddr := 1
  linkset := [{
    id := 0
    localIfaceAddr := 1
    nbIfaceAddr := 2
    symTime := 10
    asymTime := 10
    lostTime := 0
    time := 10
    localIfaceIndex := 0 }]
  ifaceassocset := []
  nb2hopset := []
  nextId := 1
  nb2hopTimers := []

/-- A HELLO of 2 that lists 3 as a symmetric neighbor. -/
def helloOfTwo (linkQuality nbLinkDelay : ℚ) : QosMessage QosHello where
  vtime := 0
  origAddr := 2
  ttl := 1
  hopCount := 0
  msgSeqNum := 0
  body := {
    htime := 0
    willingness := 3
    helloMsgs := [{
      linkCode := 6
      qosBehaviour := .etx
      nbIfaceAddrs := [{
        ifaceAddress := 3
        linkQuality := linkQuality
        nbLinkQuality := linkQuality
        linkDelay := nbLinkDelay
        nbLinkDelay := nbLinkDelay }] }] }

/-- The tuple of 3 that a HELLO of 2 leaves. -/
def tupleOfThree (linkQuality etx nbLinkDelay : ℚ) : QosNb2hopTuple where
  id := 1
  nbMainAddr := 2
  nb2hopAddr := 3
  time := emfToSeconds 0
  linkQuality := linkQuality
  nbLinkQuality := linkQuality
  etx := etx
  linkDelay := nbLinkDelay
  nbLinkDelay := nbLinkDelay

/-- The node with a tuple of 3. -/
def besideThree (tuple : QosNb2hopTuple) : Nb2hopNode :=
  { besideTwo with
    nb2hopset := [tuple]
    nextId := 2
    nb2hopTimers := [(1, emfToSeconds 0)] }

/-- A link of the neighbor that gets better. -/
theorem nb2hop_follows_hello_better :
    FollowsHello .etx (helloOfTwo 1 (1 / 4)) (besideThree (tupleOfThree (1 / 2) 4 (1 / 2)))
        (besideThree (tupleOfThree 1 1 (1 / 4))) ↔
      HidesNothing .etx (helloOfTwo 1 (1 / 4)) (besideThree (tupleOfThree (1 / 2) 4 (1 / 2))) :=
  @nb2hop_follows_hello .etx (by decide) besideTwo _ _ [(0, helloOfTwo (1 / 2) (1 / 2))] 0 _
    (by decide) (by decide +kernel) (by decide) (by decide +kernel)

/-- A link of the neighbor that gets worse: the better value stays. -/
theorem degradation_hidden :
    populateAll .etx [(0, helloOfTwo 1 (1 / 4))] besideTwo =
        .ok (besideThree (tupleOfThree 1 1 (1 / 4))) ∧
      symLinksOf 0 2 (besideThree (tupleOfThree 1 1 (1 / 4))).base ≠ [] ∧
      populateAll .etx [(0, helloOfTwo 1 (1 / 4)), (0, helloOfTwo (1 / 2) (1 / 4))] besideTwo =
        .ok (besideThree (tupleOfThree 1 1 (1 / 4))) ∧
      ¬ FollowsHello .etx (helloOfTwo (1 / 2) (1 / 4)) (besideThree (tupleOfThree 1 1 (1 / 4)))
        (besideThree (tupleOfThree 1 1 (1 / 4))) := by
  refine ⟨by decide +kernel, by decide, by decide +kernel, ?_⟩
  intro follows
  obtain ⟨tuple, found, carries⟩ := follows 3 (by decide) (by decide +kernel)
  have stored : (besideThree (tupleOfThree 1 1 (1 / 4))).findNb2hopTuple 2 3 =
      some (tupleOfThree 1 1 (1 / 4)) := by decide +kernel
  cases found.symm.trans stored
  obtain ⟨addr, member, best, _⟩ := carries.quality
  have listed : ∀ addr ∈ advertised 3 ((besideThree (tupleOfThree 1 1 (1 / 4))).listings
      (helloOfTwo (1 / 2) (1 / 4)).body.helloMsgs),
      (tupleOfThree 1 1 (1 / 4)).etx ≠ addr.etx .etx := by decide +kernel
  exact listed addr member best

end SyncFanet.OlsrEtx
