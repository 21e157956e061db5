import Mathlib.Data.Rat.Defs
import SyncFanet.Olsr.State

/-!
# Routing table

`OLSR_rtable`: a map from destination addresses to entries, kept as the list of
its entries, each stored under its own destination.
-/

set_option autoImplicit false

namespace SyncFanet.Olsr

/-- What stops the program: a failed assertion, a thrown `cRuntimeError`, a read
through a null pointer, a pointer to a tuple that was freed, or a loop that does
not end. -/
inductive Fault where
  | assertFailed (condition : String)
  | runtimeError (text : String)
  | nullDeref
  | freedTuple
  | diverges
  deriving DecidableEq, Repr

structure RtEntry where
  destAddr : NsAddr
  nextAddr : NsAddr
  ifaceAddr : NsAddr
  dist : Nat
  localIfaceIndex : Nat
  route : List NsAddr
  quality : ℚ
  delay : ℚ
  deriving DecidableEq

abbrev Rtable := List RtEntry

namespace Rtable

def lookup (rtable : Rtable) (dest : NsAddr) : Option RtEntry :=
  rtable.find? fun entry => entry.destAddr = dest

/-- Store an entry under its destination, in place of the one stored there. -/
def store (rtable : Rtable) (entry : RtEntry) : Rtable :=
  entry :: rtable.filter fun other => other.destAddr ≠ entry.destAddr

/-- Default of the `quality` and `delay` arguments of `add_entry`. -/
def notMeasured : ℚ := -1

/-- `add_entry` without an auxiliary entry: only a distance of two hops records
the next hop in the route. -/
def addEntry (rtable : Rtable) (dest next iface : NsAddr) (dist index : Nat)
    (quality delay : ℚ) : Rtable :=
  rtable.store {
    destAddr := dest
    nextAddr := next
    ifaceAddr := iface
    dist := dist
    localIfaceIndex := index
    route := if dist = 2 then [next] else []
    quality := quality
    delay := delay }

/-- `add_entry` with an auxiliary entry, whose route is extended by its own
destination when the new entry is one hop further. -/
def addEntryVia (rtable : Rtable) (dest next iface : NsAddr) (dist index : Nat)
    (entryAux : RtEntry) (quality delay : ℚ) : Rtable :=
  rtable.store {
    destAddr := dest
    nextAddr := next
    ifaceAddr := iface
    dist := dist
    localIfaceIndex := index
    route := entryAux.route ++
      if entryAux.dist + 1 = dist then [entryAux.destAddr] else []
    quality := quality
    delay := delay }

/-- `find_send_entry`: follow the next hops until an entry names its own
destination. The fuel bounds the number of lookups. -/
def findSendEntry (rtable : Rtable) : Nat → Option RtEntry → Except Fault (Option RtEntry)
  | _, none => .ok none
  | 0, some entry =>
      if entry.destAddr = entry.nextAddr then .ok (some entry) else .error .diverges
  | fuel + 1, some entry =>
      if entry.destAddr = entry.nextAddr then .ok (some entry)
      else rtable.findSendEntry fuel (rtable.lookup entry.nextAddr)

theorem lookup_dest {rtable : Rtable} {dest : NsAddr} {entry : RtEntry}
    (found : rtable.lookup dest = some entry) : entry.destAddr = dest := by
  simpa using List.find?_some found

@[simp] theorem lookup_nil (dest : NsAddr) : lookup [] dest = none := rfl

theorem lookup_store (rtable : Rtable) (entry : RtEntry) (dest : NsAddr) :
    (rtable.store entry).lookup dest =
      if dest = entry.destAddr then some entry else rtable.lookup dest := by
  by_cases same : dest = entry.destAddr
  · subst same
    simp [lookup, store]
  · have different : entry.destAddr ≠ dest := fun equal => same equal.symm
    simp only [lookup, store, List.find?_cons, different, decide_false, same, if_false]
    induction rtable with
    | nil => rfl
    | cons head tail ih =>
        by_cases here : head.destAddr = dest
        · simp [here, same]
        · by_cases dropped : head.destAddr = entry.destAddr
          · simpa [dropped, here, different] using ih
          · simpa [dropped, here] using ih

@[simp] theorem lookup_store_self (rtable : Rtable) (entry : RtEntry) :
    (rtable.store entry).lookup entry.destAddr = some entry := by
  simp [lookup_store]

theorem lookup_store_ne (rtable : Rtable) (entry : RtEntry) {dest : NsAddr}
    (different : dest ≠ entry.destAddr) :
    (rtable.store entry).lookup dest = rtable.lookup dest := by
  simp [lookup_store, different]

end Rtable

end SyncFanet.Olsr
