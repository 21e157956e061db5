import SyncFanet.Olsr.LinkInvariants
import SyncFanet.Olsr.RtableLayers

/-!
# Readers of the routing table

`getRoute` and `getNextHop`, what it takes for an entry to serve them, and the
shape that every computed entry has.
-/

set_option autoImplicit false

namespace SyncFanet.Olsr

variable {config : Config} {entry : RtEntry}

/-! ## The readers -/

def unspecifiedAddr : NsAddr := 0

/-- `getInterfaceWlanByAddress`. -/
def getInterfaceWlanByAddress (config : Config) (addr : NsAddr) : Option Iface :=
  if addr = unspecifiedAddr then config.ifaces.head?
  else config.ifaces.find? fun iface => iface.addr = addr

def databaseError : Fault := .runtimeError "OLSR Data base error"

/-- The part of `getRoute` after a lookup: the distance and the addresses. -/
def readRoute (rtable : Rtable) (fuel : Nat) (dest : NsAddr) (rtEntry : RtEntry) :
    Except Fault (Nat × List NsAddr) :=
  let add := rtEntry.route ++ [dest]
  (rtable.findSendEntry fuel (some rtEntry)).bind fun rtEntryAux =>
    match rtEntryAux with
    | none => .error .nullDeref
    | some rtEntryAux =>
        if some rtEntryAux.nextAddr ≠ add.head? then .error databaseError
        else .ok (rtEntry.dist, add)

/-- `getRoute`; `getAp` is the access point of a destination, if it has one. -/
def getRoute (getAp : NsAddr → Option NsAddr) (rtable : Rtable) (fuel : Nat) (dest : NsAddr) :
    Except Fault (Nat × List NsAddr) :=
  match rtable.lookup dest with
  | some rtEntry => readRoute rtable fuel dest rtEntry
  | none =>
      match getAp dest with
      | none => .ok (0, [])
      | some apAddr =>
          match rtable.lookup apAddr with
          | none => .ok (0, [])
          | some rtEntry => readRoute rtable fuel apAddr rtEntry

structure NextHop where
  add : NsAddr
  iface : Nat
  cost : Nat

/-- The part of `getNextHop` after a lookup. -/
def readNextHop (config : Config) (rtable : Rtable) (fuel : Nat) (rtEntry : RtEntry) :
    Except Fault (Option NextHop) :=
  let add := rtEntry.route.head?.getD rtEntry.nextAddr
  (rtable.findSendEntry fuel (some rtEntry)).bind fun rtEntryAux =>
    match rtEntryAux with
    | none => .error .nullDeref
    | some rtEntryAux =>
        if rtEntryAux.nextAddr ≠ add then .error databaseError
        else
          match getInterfaceWlanByAddress config rtEntry.ifaceAddr with
          | none => .error .nullDeref
          | some ie => .ok (some { add := add, iface := ie.index, cost := rtEntry.dist })

/-- `getNextHop`. -/
def getNextHop (config : Config) (getAp : NsAddr → Option NsAddr) (rtable : Rtable)
    (fuel : Nat) (dest : NsAddr) : Except Fault (Option NextHop) :=
  match rtable.lookup dest with
  | some rtEntry => readNextHop config rtable fuel rtEntry
  | none =>
      match getAp dest with
      | none => .ok none
      | some apAddr =>
          match rtable.lookup apAddr with
          | none => .ok none
          | some rtEntry => readNextHop config rtable fuel rtEntry

/-- An entry serves its readers: `find_send_entry` ends at a neighbor's entry, and
both readers accept the route, which leads from its next hop to the destination. -/
def Usable (config : Config) (getAp : NsAddr → Option NsAddr) (rtable : Rtable)
    (entry : RtEntry) : Prop :=
  ∃ fuel final route hop,
    rtable.findSendEntry fuel (some entry) = .ok (some final) ∧ final.dist = 1 ∧
    getRoute getAp rtable fuel entry.destAddr = .ok (entry.dist, route) ∧
    route.length = entry.dist ∧ route.getLast? = some entry.destAddr ∧
    route.head? = some final.nextAddr ∧
    getNextHop config getAp rtable fuel entry.destAddr = .ok (some hop) ∧
    hop.add = final.nextAddr

/-! ## The shape of entries -/

/-- The route lists the hops between the node and the destination, and the local
interface is one of the agent. -/
structure WellShaped (config : Config) (entry : RtEntry) : Prop where
  route : (entry.dist = 1 ∧ entry.route = []) ∨
    (2 ≤ entry.dist ∧ entry.route.length + 1 = entry.dist ∧
      entry.route.head? = some entry.nextAddr)
  iface : ∃ iface ∈ config.ifaces, iface.addr = entry.ifaceAddr

theorem WellShaped.interface (shaped : WellShaped config entry) :
    ∃ ie, getInterfaceWlanByAddress config entry.ifaceAddr = some ie := by
  obtain ⟨iface, known, addr⟩ := shaped.iface
  unfold getInterfaceWlanByAddress
  split
  · cases ifaces : config.ifaces with
    | nil => simp [ifaces] at known
    | cons first rest => exact ⟨first, rfl⟩
  · refine Option.isSome_iff_exists.mp (List.find?_isSome.mpr ⟨iface, known, ?_⟩)
    simpa using addr

theorem WellShaped.extend {via : RtEntry} (shaped : WellShaped config via) (dest : NsAddr)
    {dist : Nat} (next : dist = via.dist ∨ (dist = via.dist + 1 ∧ 2 ≤ via.dist)) :
    WellShaped config (extendEntry dest dist via) := by
  refine ⟨?_, shaped.iface⟩
  rcases next with rfl | ⟨rfl, far⟩
  · have same : via.dist + 1 ≠ via.dist := Nat.succ_ne_self _
    simpa [extendEntry, same] using shaped.route
  · rcases shaped.route with ⟨near, _⟩ | ⟨_, length, head⟩
    · omega
    · refine .inr ⟨by simp only [extendEntry]; omega, ?_, ?_⟩
      · simp [extendEntry, length]
      · simp [extendEntry, head]

theorem findSendEntry_final {rtable : Rtable} {fuel : Nat} {final : RtEntry}
    (stored : rtable.lookup entry.destAddr = some entry)
    (ran : rtable.findSendEntry fuel (some entry) = .ok (some final)) :
    final.destAddr = final.nextAddr ∧ rtable.lookup final.destAddr = some final := by
  induction fuel generalizing entry with
  | zero =>
      by_cases direct : entry.destAddr = entry.nextAddr
      · have same : entry = final := by simpa [Rtable.findSendEntry, direct] using ran
        exact same ▸ ⟨direct, stored⟩
      · simp [Rtable.findSendEntry, direct] at ran
  | succ fuel ih =>
      by_cases direct : entry.destAddr = entry.nextAddr
      · have same : entry = final := by simpa [Rtable.findSendEntry, direct] using ran
        exact same ▸ ⟨direct, stored⟩
      · simp only [Rtable.findSendEntry, direct, if_false] at ran
        cases found : rtable.lookup entry.nextAddr with
        | none => cases fuel <;> simp [found, Rtable.findSendEntry] at ran
        | some next =>
            rw [found] at ran
            have dest := Rtable.lookup_dest found
            exact ih (dest.symm ▸ found) ran

/-- The readers accept an entry exactly when its chain ends at the first address of
its route. -/
theorem usable_iff {getAp : NsAddr → Option NsAddr} {rtable : Rtable}
    (shaped : WellShaped config entry) (stored : rtable.lookup entry.destAddr = some entry) :
    Usable config getAp rtable entry ↔ ∃ fuel final,
      rtable.findSendEntry fuel (some entry) = .ok (some final) ∧ final.dist = 1 ∧
      (entry.route ++ [entry.destAddr]).head? = some final.nextAddr := by
  constructor
  · rintro ⟨fuel, final, route, hop, chain, near, got, _, _, head, _, _⟩
    refine ⟨fuel, final, chain, near, ?_⟩
    simp only [getRoute, stored, readRoute, chain, Except.bind] at got
    split at got
    · cases got
    · next first => exact (not_not.mp first).symm
  · rintro ⟨fuel, final, chain, near, head⟩
    obtain ⟨ie, interface⟩ := shaped.interface
    have first : entry.route.head?.getD entry.nextAddr = final.nextAddr := by
      rcases shaped.route with ⟨_, empty⟩ | ⟨_, _, next⟩
      · obtain ⟨ends, found⟩ := findSendEntry_final stored chain
        have dest : entry.destAddr = final.nextAddr := by simpa [empty] using head
        rw [ends, ← dest, stored] at found
        cases found
        simp [empty]
      · rw [List.head?_append, next] at head
        simpa [next] using head
    have accepted : getRoute getAp rtable fuel entry.destAddr =
        .ok (entry.dist, entry.route ++ [entry.destAddr]) := by
      simp [getRoute, stored, readRoute, chain, Except.bind, head]
    have hop : getNextHop config getAp rtable fuel entry.destAddr =
        .ok (some { add := final.nextAddr, iface := ie.index, cost := entry.dist }) := by
      simp [getNextHop, stored, readNextHop, chain, Except.bind, first, interface]
    refine ⟨fuel, final, _, _, chain, near, accepted, ?_, by simp, head, hop, rfl⟩
    rcases shaped.route with ⟨dist, empty⟩ | ⟨_, length, _⟩
    · simp [empty, dist]
    · simpa using length

end SyncFanet.Olsr
