import SyncFanet.Base.RouteStores
import SyncFanet.Library.Fold

/-!
# Agreement of the route stores

The internal store of an agent and its table in the inspector over sequences of calls.
They agree as long as no absent destination is deleted and the tables are empty when the
IPv4 routing table is cleaned.
-/

set_option autoImplicit false

namespace SyncFanet.Base

open Olsr (Fault)

/-! ## Calls -/

inductive Call where
  | chgRte (dst gtwy netm : L3Address) (hops : Int) (delEntry : Bool) (iface : L3Address)
  | chgRteIndex (dst gtwy netm : L3Address) (hops : Int) (delEntry : Bool) (index : Int)
  | setRoute (destination nextHop : L3Address) (ifaceIndex hops : Int) (mask : L3Address)
  | setRouteByName (destination nextHop : L3Address) (ifaceName : String) (hops : Int)
      (mask : L3Address)
  | cleanRte

def Call.perform (agent : Agent) (stores : Stores) : Call → Except Fault Stores
  | .chgRte dst gtwy netm hops delEntry iface =>
      omnetChgRte agent stores dst gtwy netm hops delEntry iface
  | .chgRteIndex dst gtwy netm hops delEntry index =>
      omnetChgRteIndex agent stores dst gtwy netm hops delEntry index
  | .setRoute destination nextHop ifaceIndex hops mask =>
      (Base.setRoute agent stores destination nextHop ifaceIndex hops mask).bind fun result =>
        .ok result.2
  | .setRouteByName destination nextHop ifaceName hops mask =>
      (Base.setRouteByName agent stores destination nextHop ifaceName hops mask).bind fun result =>
        .ok result.2
  | .cleanRte => omnetCleanRte agent stores

/-- What a call asks for. A call with the name of an unknown interface is refused before
it does anything. -/
inductive Request where
  | add (dest next : L3Address)
  | delete (dest next : L3Address)
  | clean
  | refused

def Request.change (dest next : L3Address) (delEntry : Bool) : Request :=
  if delEntry then .delete dest next else .add dest next

def Call.request (agent : Agent) : Call → Request
  | .chgRte dst gtwy _ _ delEntry _ => .change dst gtwy delEntry
  | .chgRteIndex dst gtwy _ _ delEntry _ => .change dst gtwy delEntry
  | .setRoute destination nextHop _ _ _ => .change destination nextHop nextHop.isUnspecified
  | .setRouteByName destination nextHop ifaceName _ _ =>
      if agent.interfaces.any fun entry => entry.name = ifaceName then
        .change destination nextHop nextHop.isUnspecified
      else .refused
  | .cleanRte => .clean

/-- Whether the last operation on a destination is an add, once the request is made. -/
def Request.added (dest : L3Address) (before : Bool) : Request → Bool
  | .add other _ => if other = dest then true else before
  | .delete other _ => if other = dest then false else before
  | .clean => false
  | .refused => before

/-- The last operation on the destination was an add. -/
def lastAdded (agent : Agent) (calls : List Call) (dest : L3Address) : Bool :=
  calls.foldl (fun before call => (call.request agent).added dest before) false

theorem lastAdded_snoc (agent : Agent) (calls : List Call) (call : Call) (dest : L3Address) :
    lastAdded agent (calls ++ [call]) dest =
      (call.request agent).added dest (lastAdded agent calls dest) := by
  simp only [lastAdded, List.foldl_append, List.foldl_cons, List.foldl_nil]

/-- The stores after a sequence of calls, if all of them return. -/
def runCalls (agent : Agent) (start : Stores) (calls : List Call) : Except Fault Stores :=
  calls.foldlM (fun stores call => call.perform agent stores) start

theorem runCalls_snoc {agent : Agent} {start stores : Stores} {calls : List Call} {call : Call} :
    runCalls agent start (calls ++ [call]) = .ok stores ↔
      ∃ middle, runCalls agent start calls = .ok middle ∧
        call.perform agent middle = .ok stores := by
  unfold runCalls
  rw [List.foldlM_append]
  constructor
  · intro ran
    obtain ⟨middle, first, last⟩ := bind_ok.mp ran
    obtain ⟨final, performed, done⟩ := bind_ok.mp last
    cases done
    exact ⟨middle, first, performed⟩
  · rintro ⟨middle, first, last⟩
    exact bind_ok.mpr ⟨middle, first, bind_ok.mpr ⟨stores, last, rfl⟩⟩

/-! ## The two tables -/

/-- The internal store of the agent and its table in the inspector are the given ones. -/
structure Tables (agent : Agent) (stores : Stores) (internal inspected : RouteMap) : Prop where
  enabled : stores.createInternalStore = true
  internal : stores.routesVector = some internal
  present : ∃ routes, stores.globalRouteMap = some routes ∧
    routes.table agent.address agent.mod = some inspected

/-- Same next hops for the same destinations, which are those that were last added; none
right after a clean. -/
structure StoresAgree (agent : Agent) (calls : List Call) (stores : Stores) : Prop where
  tables : ∃ internal inspected, Tables agent stores internal inspected ∧
    (∀ dest, internal.lookup dest = inspected.lookup dest) ∧
    (∀ dest, (internal.lookup dest).isSome = lastAdded agent calls dest) ∧
    (calls.getLast? = some .cleanRte → ∀ dest, internal.lookup dest = none)

/-- A delete meets a destination that was last added, and a clean meets none. -/
def Request.Admissible (added : L3Address → Bool) : Request → Prop
  | .add _ _ => True
  | .delete dest _ => added dest = true
  | .clean => ∀ dest, added dest = false
  | .refused => True

def Admissible (agent : Agent) (calls : List Call) : Prop :=
  ∀ before call after, calls = before ++ call :: after →
    (call.request agent).Admissible (lastAdded agent before)

/-! ## One call -/

section

variable {agent : Agent} {stores stores' : Stores} {internal inspected : RouteMap}

def Request.record (agent : Agent) (stores : Stores) : Request → Stores
  | .add dest next => stores.record agent dest next false
  | .delete dest next => stores.record agent dest next true
  | .clean => stores
  | .refused => stores

theorem record_change (agent : Agent) (stores : Stores) (dest next : L3Address)
    (delEntry : Bool) :
    (Request.change dest next delEntry).record agent stores =
      stores.record agent dest next delEntry := by
  cases delEntry <;> rfl

theorem change_record {dst gtwy netm : L3Address} {hops : Int} {delEntry : Bool}
    {ie : Except Fault (Option InterfaceEntry)} {sourceType : SourceType}
    (ran : stores.change agent dst gtwy netm hops delEntry ie sourceType = .ok stores') :
    ∃ inetRt, stores' = { stores.record agent dst gtwy delEntry with inetRt := inetRt } := by
  unfold Stores.change at ran
  simp only at ran
  split at ran
  · cases ran
    exact ⟨stores.inetRt, rfl⟩
  · obtain ⟨inetRt, -, rest⟩ := bind_ok.mp ran
    cases rest
    exact ⟨inetRt, rfl⟩

/-- `setRoute` writes the stores as soon as the destination is an IPv4 address. -/
theorem setRoute_record {destination nextHop mask : L3Address} {ifaceIndex hops : Int}
    {result : Bool}
    (ran : setRoute agent stores destination nextHop ifaceIndex hops mask = .ok (result, stores')) :
    ∃ inetRt, stores' =
      { stores.record agent destination nextHop nextHop.isUnspecified with inetRt := inetRt } := by
  unfold setRoute at ran
  split at ran
  · obtain ⟨desAddress, -, rest⟩ := bind_ok.mp ran
    simp only at rest
    split at rest
    · cases rest
      exact ⟨stores.inetRt, rfl⟩
    · obtain ⟨changed, wrote, last⟩ := bind_ok.mp rest
      cases last
      exact change_record wrote
  · cases ran

/-- Every call that returns writes the stores as its request says, and beyond that the
IPv4 routing table only. -/
theorem perform_record {call : Call} (ran : call.perform agent stores = .ok stores') :
    ∃ inetRt, stores' = { (call.request agent).record agent stores with inetRt := inetRt } := by
  cases call with
  | chgRte dst gtwy netm hops delEntry iface =>
      simp only [Call.perform, omnetChgRte] at ran
      split at ran
      · rw [Call.request, record_change]
        exact change_record ran
      · cases ran
  | chgRteIndex dst gtwy netm hops delEntry index =>
      simp only [Call.perform, omnetChgRteIndex] at ran
      split at ran
      · rw [Call.request, record_change]
        exact change_record ran
      · cases ran
  | setRoute destination nextHop ifaceIndex hops mask =>
      rw [Call.request, record_change]
      obtain ⟨⟨result, changed⟩, set, same⟩ := bind_ok.mp ran
      cases same
      exact setRoute_record set
  | setRouteByName destination nextHop ifaceName hops mask =>
      obtain ⟨⟨result, changed⟩, set, same⟩ := bind_ok.mp ran
      cases same
      unfold setRouteByName at set
      split at set
      · cases index : agent.interfaces.findIdx? fun entry => entry.name = ifaceName with
        | none =>
            have unknown : (agent.interfaces.any fun entry => entry.name = ifaceName) = false := by
              rw [← List.findIdx?_isSome, index]
              rfl
            simp only [index] at set
            cases set
            exact ⟨stores.inetRt, by simp [Call.request, unknown, Request.record]⟩
        | some position =>
            have known : (agent.interfaces.any fun entry => entry.name = ifaceName) = true := by
              rw [← List.findIdx?_isSome, index]
              rfl
            simp only [index] at set
            rw [Call.request, if_pos known, record_change]
            exact setRoute_record set
      · cases set
  | cleanRte =>
      simp only [Call.perform, omnetCleanRte] at ran
      split at ran
      · split at ran
        · cases ran
          exact ⟨stores.inetRt, rfl⟩
        · cases ran
          exact ⟨_, rfl⟩
      · cases ran

/-! ## The tables after a call -/

theorem lookup_setInspectorEntry (dest gw other : L3Address) (erase : Bool) (table : RouteMap) :
    (setInspectorEntry dest gw erase table).lookup other =
      if other = dest then (if erase then none else some gw) else table.lookup other := by
  unfold setInspectorEntry
  by_cases here : other = dest
  · subst here
    cases stored : table.lookup other <;> cases erase <;> simp [stored]
  · cases table.lookup dest <;> cases erase <;> simp [here]

theorem lookup_setInternalEntry (dest gw other : L3Address) (erase : Bool) (table : RouteMap) :
    (setInternalEntry dest gw erase table).lookup other =
      if other = dest then
        (if erase && (table.lookup dest).isSome then none else some gw)
      else table.lookup other := by
  unfold setInternalEntry
  by_cases here : other = dest
  · subst here
    cases stored : table.lookup other <;> cases erase <;> simp
  · cases table.lookup dest <;> cases erase <;> simp [here]

theorem setInspectorRoute_table {routes : InspectorRouteMap} {mod : ModuleId}
    {orgA dest gw : L3Address} (erase : Bool) (present : routes.table orgA mod = some inspected) :
    ∃ routes', (setInspectorRoute (some routes) mod orgA dest gw erase).2 = some routes' ∧
      routes'.table orgA mod = some (setInspectorEntry dest gw erase inspected) := by
  obtain ⟨owned, known, found⟩ := Option.bind_eq_some_iff.mp present
  obtain ⟨data, first, table⟩ := Option.map_eq_some_iff.mp found
  simp only [setInspectorRoute, known, first]
  refine ⟨_, rfl, ?_⟩
  let write (data : OwnedRoutingData) : OwnedRoutingData :=
    { data with routesVector := setInspectorEntry dest gw erase data.routesVector }
  have keeps : ∀ data : OwnedRoutingData, decide (data.mod = mod) = true →
      decide ((write data).mod = mod) = true := fun _ owns => owns
  have same := updateFirst.find?_same keeps owned
  simp only [write] at same
  simp only [InspectorRouteMap.table, Finmap.lookup_insert, Option.bind_some, same, first,
    Option.map_some, table]

theorem Tables.record (tables : Tables agent stores internal inspected) (dest gw : L3Address)
    (erase : Bool) :
    Tables agent (stores.record agent dest gw erase) (setInternalEntry dest gw erase internal)
      (setInspectorEntry dest gw erase inspected) where
  enabled := tables.enabled
  internal := by
    simp only [Stores.record, setRouteInternalStorege, tables.enabled, if_true, tables.internal,
      Option.map_some]
  present := by
    obtain ⟨routes, same, table⟩ := tables.present
    simp only [Stores.record, same]
    exact setInspectorRoute_table erase table

def Request.write (set : L3Address → L3Address → Bool → RouteMap → RouteMap) (table : RouteMap) :
    Request → RouteMap
  | .add dest next => set dest next false table
  | .delete dest next => set dest next true table
  | .clean => table
  | .refused => table

theorem Tables.perform {call : Call} (tables : Tables agent stores internal inspected)
    (ran : call.perform agent stores = .ok stores') :
    Tables agent stores' ((call.request agent).write setInternalEntry internal)
      ((call.request agent).write setInspectorEntry inspected) := by
  obtain ⟨inetRt, rfl⟩ := perform_record ran
  cases call.request agent with
  | add dest next =>
      have recorded := tables.record dest next false
      exact ⟨recorded.enabled, recorded.internal, recorded.present⟩
  | delete dest next =>
      have recorded := tables.record dest next true
      exact ⟨recorded.enabled, recorded.internal, recorded.present⟩
  | clean => exact ⟨tables.enabled, tables.internal, tables.present⟩
  | refused => exact ⟨tables.enabled, tables.internal, tables.present⟩

theorem Tables.unique {internal' inspected' : RouteMap}
    (tables : Tables agent stores internal inspected)
    (others : Tables agent stores internal' inspected') :
    internal = internal' ∧ inspected = inspected' := by
  obtain ⟨routes, same, table⟩ := tables.present
  obtain ⟨routes', same', table'⟩ := others.present
  cases same.symm.trans same'
  exact ⟨Option.some.inj (tables.internal.symm.trans others.internal),
    Option.some.inj (table.symm.trans table')⟩

/-! ## What an admissible request does -/

variable {added : L3Address → Bool} {request : Request}

theorem Request.write_agree (same : ∀ dest, internal.lookup dest = inspected.lookup dest)
    (stored : ∀ dest, (internal.lookup dest).isSome = added dest)
    (admissible : request.Admissible added) (dest : L3Address) :
    (request.write setInternalEntry internal).lookup dest =
      (request.write setInspectorEntry inspected).lookup dest := by
  cases request with
  | add other next => simp [write, lookup_setInternalEntry, lookup_setInspectorEntry, same]
  | delete other next =>
      have known : (internal.lookup other).isSome = true := (stored other).trans admissible
      simp [write, lookup_setInternalEntry, lookup_setInspectorEntry, same,
        (same other) ▸ known]
  | clean => exact same dest
  | refused => exact same dest

theorem Request.write_stored (stored : ∀ dest, (internal.lookup dest).isSome = added dest)
    (admissible : request.Admissible added) (dest : L3Address) :
    ((request.write setInternalEntry internal).lookup dest).isSome =
      request.added dest (added dest) := by
  cases request with
  | add other next =>
      rw [write, lookup_setInternalEntry, Request.added]
      by_cases here : dest = other
      · simp [here]
      · rw [if_neg here, if_neg (Ne.symm here)]
        exact stored dest
  | delete other next =>
      have known : (internal.lookup other).isSome = true := (stored other).trans admissible
      rw [write, lookup_setInternalEntry, Request.added]
      by_cases here : dest = other
      · simp [here, known]
      · rw [if_neg here, if_neg (Ne.symm here)]
        exact stored dest
  | clean => exact (stored dest).trans (admissible dest)
  | refused => exact stored dest

/-- Where the tables agree and hold what was last added afterwards, the request was
admissible. -/
theorem Request.admissible_of_stored
    (stored : ∀ dest, (internal.lookup dest).isSome = added dest)
    (after : ∀ dest, ((request.write setInternalEntry internal).lookup dest).isSome =
      request.added dest (added dest)) :
    request.Admissible added := by
  cases request with
  | add other next => trivial
  | delete other next =>
      have gone := after other
      rw [write, lookup_setInternalEntry, Request.added, if_pos rfl, if_pos rfl, stored other]
        at gone
      by_contra absent
      simp [Bool.eq_false_iff.mpr absent] at gone
  | clean =>
      intro dest
      exact (stored dest).symm.trans (after dest)
  | refused => trivial

end

/-! ## Runs -/

variable {agent : Agent} {start stores stores' : Stores} {calls : List Call} {call : Call}

theorem StoresAgree.perform (agree : StoresAgree agent calls stores)
    (ran : call.perform agent stores = .ok stores')
    (admissible : (call.request agent).Admissible (lastAdded agent calls)) :
    StoresAgree agent (calls ++ [call]) stores' := by
  obtain ⟨internal, inspected, tables, same, stored, -⟩ := agree.tables
  refine ⟨_, _, tables.perform ran, Request.write_agree same stored admissible, ?_, ?_⟩
  · intro dest
    rw [lastAdded_snoc]
    exact Request.write_stored stored admissible dest
  · intro cleaned dest
    have isClean : call = .cleanRte := by simpa using cleaned
    subst isClean
    have empty := Request.write_stored stored admissible dest
    simpa [Call.request, Request.added] using empty

theorem StoresAgree.admissible (agree : StoresAgree agent calls stores)
    (ran : call.perform agent stores = .ok stores')
    (after : StoresAgree agent (calls ++ [call]) stores') :
    (call.request agent).Admissible (lastAdded agent calls) := by
  obtain ⟨internal, inspected, tables, -, stored, -⟩ := agree.tables
  obtain ⟨internal', inspected', tables', -, stored', -⟩ := after.tables
  obtain ⟨rfl, rfl⟩ := (tables.perform ran).unique tables'
  apply Request.admissible_of_stored stored
  intro dest
  rw [← lastAdded_snoc]
  exact stored' dest

/-- After registration both tables of the agent are there and empty. -/
def Registered (agent : Agent) (stores : Stores) : Prop :=
  Tables agent stores ∅ ∅

theorem Registered.agree (registered : Registered agent start) : StoresAgree agent [] start :=
  ⟨∅, ∅, registered, fun _ => rfl, fun _ => rfl, fun cleaned => by cases cleaned⟩

theorem Admissible.snoc_iff :
    Admissible agent (calls ++ [call]) ↔
      Admissible agent calls ∧ (call.request agent).Admissible (lastAdded agent calls) := by
  constructor
  · intro admissible
    constructor
    · intro before other after split
      exact admissible before other (after ++ [call]) (by simp [split])
    · exact admissible calls call [] rfl
  · rintro ⟨earlier, last⟩ before other after split
    cases after using List.reverseRecOn with
    | nil =>
        obtain ⟨rfl, same⟩ := List.append_inj' split rfl
        cases same
        exact last
    | append_singleton after final =>
        rw [← List.cons_append, ← List.append_assoc] at split
        obtain ⟨rfl, -⟩ := List.append_inj' split rfl
        exact earlier before other after rfl

/-- The stores agree after every call of a sequence that returns exactly if every call
that deletes a route meets that route and every clean meets empty tables. -/
theorem stores_agree_iff (registered : Registered agent start)
    (ran : runCalls agent start calls = .ok stores) :
    (∀ before reached, before <+: calls → runCalls agent start before = .ok reached →
      StoresAgree agent before reached) ↔ Admissible agent calls := by
  induction calls using List.reverseRecOn generalizing stores with
  | nil =>
      constructor
      · intro _ before call after split
        simp at split
      · intro _ before reached isPrefix here
        rw [List.prefix_nil.mp isPrefix] at here ⊢
        cases here
        exact registered.agree
  | append_singleton calls call ih =>
      obtain ⟨middle, first, last⟩ := runCalls_snoc.mp ran
      rw [Admissible.snoc_iff, ← ih first]
      constructor
      · intro agree
        have earlier := fun before reached (isPrefix : before <+: calls) =>
          agree before reached (isPrefix.trans (List.prefix_append calls [call]))
        exact ⟨earlier, (earlier calls middle List.prefix_rfl first).admissible last
          (agree _ stores List.prefix_rfl ran)⟩
      · rintro ⟨earlier, admissible⟩ before reached isPrefix here
        cases List.prefix_concat_iff.mp isPrefix with
        | inl whole =>
            subst whole
            rw [ran] at here
            cases here
            exact (earlier calls middle List.prefix_rfl first).perform last admissible
        | inr shorter => exact earlier before reached shorter here

/-! ## An agent with one interface -/

private def wlanAgent : Agent :=
  let wlan : InterfaceEntry := { name := "wlan0", macAddress := 1, ipAddress := 1 }
  { isRegistered := true
    macLayer := false
    address := { type := .ipv4, value := 1 }
    mod := 0
    interfaces := [wlan]
    interfaceVector := [wlan]
    useManetLabelRouting := true
    addRoute := fun routes route => .ok (route :: routes) }

private def emptyStores : Stores where
  createInternalStore := true
  routesVector := some ∅
  globalRouteMap :=
    initRoutingTables (some ∅) wlanAgent.mod wlanAgent.address true
  inetRt := []

private def callTo (value : Nat) (delEntry : Bool) : Call :=
  .chgRte { type := .ipv4, value := value } { type := .ipv4, value := 2 } .unspecified 1 delEntry
    .unspecified

theorem stores_agree_iff_addDelete :
    (∀ before reached, before <+: [callTo 9 false, callTo 9 true] →
      runCalls wlanAgent emptyStores before = .ok reached →
      StoresAgree wlanAgent before reached) ↔
      Admissible wlanAgent [callTo 9 false, callTo 9 true] := by
  have returns : ∃ stores,
      runCalls wlanAgent emptyStores [callTo 9 false, callTo 9 true] = .ok stores := ⟨_, rfl⟩
  obtain ⟨stores, ran⟩ := returns
  exact stores_agree_iff ⟨rfl, rfl, _, rfl, rfl⟩ ran

/-- The first call deletes a destination that no store has. -/
theorem not_stores_agree_absent :
    ¬ ∀ before reached, before <+: [callTo 9 true] →
      runCalls wlanAgent emptyStores before = .ok reached →
      StoresAgree wlanAgent before reached := by
  intro agree
  obtain ⟨internal, inspected, tables, -, stored, -⟩ :=
    (agree [callTo 9 true] _ List.prefix_rfl rfl).tables
  have known := Option.some.inj tables.internal
  have absent := stored { type := .ipv4, value := 9 }
  rw [← known] at absent
  exact absurd absent (by decide)

end SyncFanet.Base
