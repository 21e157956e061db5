import SyncFanet.Olsr.AssertedRoutes
import SyncFanet.Olsr.DistributionPath
import SyncFanet.Olsr.Lifecycle

/-!
# Distribution paths in a network

Agents that run beside each other and share the static maps of routing tables and
distribution paths. A path is readable and up to date as long as every computation can
finish its tour over a non-empty MPR set and no table on a stored path changes.
-/

set_option autoImplicit false

namespace SyncFanet.Olsr

/-! ## Steps that do not compute the routing table -/

section

variable {config : Config} {now : Int} {node node' : Node}

theorem output_mprset (written : WritesOutput node node') :
    node'.state.mprset = node.state.mprset := by
  obtain ⟨_, _, _, _, _, _, rfl⟩ := written
  rfl

theorem expireTimer_mprset {key : Int} {timer : Timer} {rest : List (Int × Timer)}
    (queue : node.timerQueue = (key, timer) :: rest)
    (unrouted : routeInput config now .timer node = none)
    (ran : expireTimer config now timer { node with timerQueue := rest } = .ok node') :
    node'.state.mprset = node.state.mprset := by
  cases timer with
  | hello | tc | mid | msg =>
      have kept := output_mprset (expireTimer_output (by simp) ran)
      exact kept
  | link id firstTime =>
      obtain ⟨link, found, ⟨_, rfl⟩ | ⟨valid, asymmetric, lost, loss, rfl⟩ | ⟨_, _, rfl⟩⟩ :=
        expireLink_ok ran
      · rfl
      · have stored : node.state.linkset.find? (fun link => link.id = id) = some link := found
        rcases loss with ⟨_, rfl⟩ | ⟨rfl, loss⟩
        · rfl
        · -- Here the neighbor is lost, which computes the table.
          obtain ⟨computed, mprs, -⟩ := nbLoss_stages loss
          simp [routeInput, nbLossInput, queue, stored, valid, asymmetric, mprs,
            Except.toOption] at unrouted
      · rfl
  | mprsel id =>
      obtain ⟨tuple, found, ⟨_, rfl⟩ | ⟨_, rfl⟩⟩ := expireTuple_ok ran
      · unfold Node.rmMprselTuple
        dsimp only
        split <;> rfl
      · rfl
  | dup id | nb2hop id | topology id | ifaceAssoc id =>
      obtain ⟨tuple, found, ⟨_, rfl⟩ | ⟨_, rfl⟩⟩ := expireTuple_ok ran
      · rfl
      · rfl

theorem stepWith_mprset {event : Event} (unrouted : routeInput config now event node = none)
    (ran : stepWith recvOlsr config now event node = .ok node') :
    node'.state.mprset = node.state.mprset := by
  cases event with
  | recv iface srcAddr pkt =>
      cases recvOlsr_stages ran with
      | inl empty => rw [empty.2]
      | inr handled =>
          obtain ⟨handled, loop, -⟩ := handled
          by_cases empty : pkt.msgs = []
          · rw [stepWith, recvOlsr,
              if_pos ((Pkt.byteLength_lt_iff config.addrSize pkt).mpr empty)] at ran
            rw [← Except.ok.inj ran]
          · simp [routeInput, empty, loop, Except.toOption] at unrouted
  | timer =>
      cases queue : node.timerQueue with
      | nil =>
          simp only [stepWith, queue] at ran
          rw [← Except.ok.inj ran]
      | cons first rest =>
          obtain ⟨key, timer⟩ := first
          simp only [stepWith, queue] at ran
          exact expireTimer_mprset queue unrouted ran
  | linkBreak destAddr =>
      simp only [stepWith, macFailed] at ran
      split at ran
      · next useMac =>
        split at ran
        · rw [← Except.ok.inj ran]
        · next unicast =>
          split at ran
          · rw [← Except.ok.inj ran]
          · next entry routed =>
            split at ran
            · rw [← Except.ok.inj ran]
            · next link found =>
              obtain ⟨computed, mprs, -⟩ := nbLoss_stages ran
              have written : (lossErased config now (lostLinkTuple config now link)
                  (node.mapState fun state =>
                    state.updateLinkTuple (lostLinkTuple config now link))).recomputeMprs config =
                  .ok computed := mprs
              simp [routeInput, nbLossInput, useMac, unicast, routed, found, written,
                Except.toOption] at unrouted
      · rw [← Except.ok.inj ran]

theorem deleteTimer_mprset {timer : Timer} (ran : deleteTimer timer node = .ok node') :
    node'.state.mprset = node.state.mprset := by
  cases timer with
  | hello | tc | mid | msg => rw [← Except.ok.inj ran]
  | dup id | link id _ | nb2hop id | topology id | ifaceAssoc id =>
      simp only [deleteTimer, deleteTuple] at ran
      split at ran
      · cases ran
      · rw [← Except.ok.inj ran]
        rfl
  | mprsel id =>
      simp only [deleteTimer, deleteTuple] at ran
      split at ran
      · cases ran
      · rw [← Except.ok.inj ran]
        unfold Node.rmMprselTuple
        dsimp only
        split <;> rfl

theorem deleteTimers_mprset {timers : List (Int × Timer)}
    (ran : deleteTimers timers node = .ok node') : node'.state.mprset = node.state.mprset := by
  induction timers generalizing node with
  | nil => rw [← Except.ok.inj ran]
  | cons first rest ih =>
      obtain ⟨deleted, one, others⟩ := bind_ok.mp ran
      have kept := deleteTimer_mprset one
      exact (ih others).trans kept

end

/-! ## The network -/

/-- The agents by their main addresses. -/
structure NetConfig where
  config : NsAddr → Config
  raAddr_eq : ∀ addr, (config addr).raAddr = addr

/-- The agents that have been initialized and the static map of paths; `executed` tells
which agents have computed a routing table, and nothing reads it. -/
structure Net where
  host : NsAddr → Option Host
  distributionPath : NsAddr → Option (List Leg)
  executed : NsAddr → Bool

namespace Net

/-- `globalRtable`. -/
def tables (net : Net) : GlobalRtable :=
  fun addr => (net.host addr).map fun host => host.node.rtable

def setHost (net : Net) (addr : NsAddr) (host : Host) : Net :=
  { net with host := Function.update net.host addr (some host) }

end Net

inductive NetEvent where
  | initAgent (start maxTime : Int)
  | host (now : Int) (event : HostEvent)

/-- Whether the event computes the routing table of the host. -/
def recomputes (config : Config) (now : Int) (event : HostEvent) (host : Host) : Bool :=
  match event with
  | .agent event => reaches event host && (routeInput config now event host.node).isSome
  | _ => false

/-- The end of `rtable_computation` on a host. -/
def storePath (addr : NsAddr) (host : Host) (net : Net) : Except Fault Net :=
  (computeDistributionPath net.tables host.node.state.mprset addr).bind fun path =>
    .ok { net with
      executed := Function.update net.executed addr true
      distributionPath :=
        match path with
        | none => net.distributionPath
        | some legs => Function.update net.distributionPath addr (some legs) }

/-- One event at one agent. An agent is initialized once. -/
def netStep (params : NetConfig) (addr : NsAddr) (event : NetEvent) (net : Net) :
    Except Fault Net :=
  match event, net.host addr with
  | .initAgent start maxTime, none =>
      .ok (net.setHost addr {
        node := initialNode (params.config addr) start maxTime
        isOperational := true })
  | .initAgent _ _, some _ => .ok net
  | .host _ _, none => .ok net
  | .host now event, some host =>
      (hostStep (params.config addr) now event host).bind fun host' =>
        if recomputes (params.config addr) now event host then
          storePath addr host' (net.setHost addr host')
        else .ok (net.setHost addr host')

/-- No agent yet, and both maps empty. -/
def emptyNet : Net where
  host _ := none
  distributionPath _ := none
  executed _ := false

/-- The states of the runs in which every step met the condition. -/
inductive NetReached (params : NetConfig) (condition : NsAddr → NetEvent → Net → Prop) :
    Net → Prop where
  | initial : NetReached params condition emptyNet
  | step {net net' : Net} {addr : NsAddr} {event : NetEvent}
      (before : NetReached params condition net) (met : condition addr event net)
      (stepped : netStep params addr event net = .ok net') : NetReached params condition net'

/-! ## Readable paths -/

/-- The path of a node can be read. It stops at each of the node's MPRs once, and from
stop to stop it takes the routes that the stops store. -/
structure ReadablePath (net : Net) (addr : NsAddr) : Prop where
  readable : ∃ host legs, net.host addr = some host ∧
    getDistributionPath net.distributionPath addr = .ok (pathOf legs) ∧
    (legs.map Leg.stop).Nodup ∧
    (∀ mpr, mpr ∈ legs.map Leg.stop ↔ mpr ∈ host.node.state.mprset) ∧
    LegsStored net.tables addr legs

/-- Where each segment of a path starts, with the stop where it ends. -/
def endpoints : NsAddr → List Leg → List (NsAddr × NsAddr)
  | _, [] => []
  | node, leg :: rest => (node, leg.stop) :: endpoints leg.stop rest

/-- The step computes a routing table only with a non-empty MPR set that a tour over the
tables then visits, and it leaves the routes alone that other stored paths take. -/
structure KeepsPaths (params : NetConfig) (addr : NsAddr) (event : NetEvent) (net : Net) :
    Prop where
  completes : ∀ now hostEvent host host', event = .host now hostEvent →
    net.host addr = some host →
    hostStep (params.config addr) now hostEvent host = .ok host' →
    recomputes (params.config addr) now hostEvent host = true →
    host'.node.state.mprset.Nonempty ∧
      ∃ legs, NearestTour (net.setHost addr host').tables addr
        (host'.node.state.mprset.sort (· ≤ ·)) legs
  stable : ∀ now hostEvent host host', event = .host now hostEvent →
    net.host addr = some host →
    hostStep (params.config addr) now hostEvent host = .ok host' →
    ∀ owner legs, net.distributionPath owner = some legs →
      (owner = addr → recomputes (params.config addr) now hostEvent host = false) →
      ∀ ends ∈ endpoints owner legs,
        storedRoute (net.setHost addr host').tables ends.1 ends.2 =
          storedRoute net.tables ends.1 ends.2

section

variable {params : NetConfig} {addr owner : NsAddr} {net : Net} {host host' : Host} {now : Int}
  {event : HostEvent} {legs : List Leg} {tables tables' : GlobalRtable}

theorem LegsStored.of_same (stored : LegsStored tables owner legs)
    (same : ∀ ends ∈ endpoints owner legs,
      storedRoute tables' ends.1 ends.2 = storedRoute tables ends.1 ends.2) :
    LegsStored tables' owner legs := by
  induction legs generalizing owner with
  | nil => trivial
  | cons leg rest ih =>
      obtain ⟨first, others⟩ := stored
      have here := same (owner, leg.stop) List.mem_cons_self
      refine ⟨here.trans first, ih others ?_⟩
      intro ends member
      exact same ends (List.mem_cons_of_mem _ member)

theorem pathOf_ne_nil (some' : legs ≠ []) : pathOf legs ≠ [] := by
  cases legs with
  | nil => exact absurd rfl some'
  | cons leg rest => simp [pathOf]

theorem hostStep_mprset (unrouted : recomputes (params.config addr) now event host = false)
    (ran : hostStep (params.config addr) now event host = .ok host') :
    host'.node.state.mprset = host.node.state.mprset := by
  cases event with
  | agent event =>
      simp only [hostStep] at ran
      split at ran
      · next reached =>
        obtain ⟨node, stepped, same⟩ := bind_ok.mp ran
        cases same
        have none : routeInput (params.config addr) now event host.node = none := by
          simpa [recomputes, reached] using unrouted
        exact stepWith_mprset none stepped
      · cases ran
        rfl
  | start =>
      cases ran
      rfl
  | shutdown | crash =>
      obtain ⟨node, deleted, same⟩ := bind_ok.mp ran
      cases same
      have kept := deleteTimers_mprset deleted
      exact kept
  | changeInterface =>
      obtain ⟨node, deleted, same⟩ := bind_ok.mp ran
      cases same
      have kept := deleteTimers_mprset deleted
      exact kept

structure Toured (net : Net) (addr : NsAddr) : Prop where
  stored : ∃ host legs, net.host addr = some host ∧ net.distributionPath addr = some legs ∧
    legs ≠ [] ∧ (legs.map Leg.stop).Nodup ∧
    (∀ mpr, mpr ∈ legs.map Leg.stop ↔ mpr ∈ host.node.state.mprset) ∧
    LegsStored net.tables addr legs

theorem Toured.readable (toured : Toured net addr) : ReadablePath net addr := by
  obtain ⟨host, legs, present, path, some', distinct, visits, stored⟩ := toured.stored
  refine ⟨host, legs, present, ?_, distinct, visits, stored⟩
  simp only [getDistributionPath, path, if_neg (pathOf_ne_nil some')]

theorem NearestTour.toured (tour : NearestTour net.tables addr
      (host.node.state.mprset.sort (· ≤ ·)) legs)
    (some' : host.node.state.mprset.Nonempty) (present : net.host addr = some host)
    (path : net.distributionPath addr = some legs) : Toured net addr := by
  have stops := tour.stops_perm
  have visits : ∀ mpr, mpr ∈ legs.map Leg.stop ↔ mpr ∈ host.node.state.mprset := by
    intro mpr
    rw [stops.mem_iff, Finset.mem_sort]
  refine ⟨host, legs, present, path, ?_, ?_, visits, tour.legsStored⟩
  · rintro rfl
    obtain ⟨mpr, member⟩ := some'
    have visited := (visits mpr).mpr member
    cases visited
  · exact stops.nodup_iff.mpr (Finset.sort_nodup _ _)

theorem Toured.kept {net' : Net} (toured : Toured net owner)
    (hosts : ∀ host, net.host owner = some host → ∃ host', net'.host owner = some host' ∧
      host'.node.state.mprset = host.node.state.mprset)
    (path : net'.distributionPath owner = net.distributionPath owner)
    (routes : ∀ legs, net.distributionPath owner = some legs → ∀ ends ∈ endpoints owner legs,
      storedRoute net'.tables ends.1 ends.2 = storedRoute net.tables ends.1 ends.2) :
    Toured net' owner := by
  obtain ⟨host, legs, present, known, some', distinct, visits, stored⟩ := toured.stored
  obtain ⟨host', present', same⟩ := hosts host present
  exact ⟨host', legs, present', path.trans known, some', distinct, same ▸ visits,
    stored.of_same (routes legs known)⟩

theorem tables_setHost_self (net : Net) (addr : NsAddr) (host : Host) :
    (net.setHost addr host).tables addr = some host.node.rtable := by
  simp [Net.tables, Net.setHost]

theorem tables_setHost_ne (net : Net) {addr other : NsAddr} (host : Host) (apart : other ≠ addr) :
    (net.setHost addr host).tables other = net.tables other := by
  simp [Net.tables, Net.setHost, apart]

theorem storedRoute_initAgent {start maxTime : Int} (absent : net.host addr = none)
    (node dest : NsAddr) :
    storedRoute (net.setHost addr {
        node := initialNode (params.config addr) start maxTime
        isOperational := true }).tables node dest =
      storedRoute net.tables node dest := by
  unfold storedRoute
  by_cases here : node = addr
  · subst here
    rw [tables_setHost_self]
    simp only [Net.tables, absent, Option.map_none, Option.bind_none]
    rfl
  · rw [tables_setHost_ne net _ here]

theorem host_setHost_kept {host' : Host}
    (kept : ∀ host, net.host addr = some host → owner = addr →
      host'.node.state.mprset = host.node.state.mprset) (host : Host)
    (present : net.host owner = some host) :
    ∃ after, (net.setHost addr host').host owner = some after ∧
      after.node.state.mprset = host.node.state.mprset := by
  by_cases here : owner = addr
  · subst here
    exact ⟨host', by simp [Net.setHost], kept host present rfl⟩
  · exact ⟨host, by simp [Net.setHost, here, present], rfl⟩

theorem netStep_toured {net' : Net} {event : NetEvent}
    (before : ∀ owner, net.executed owner = true → Toured net owner)
    (met : KeepsPaths params addr event net) (ran : netStep params addr event net = .ok net')
    (owner : NsAddr) (executed : net'.executed owner = true) : Toured net' owner := by
  cases event with
  | initAgent start maxTime =>
      cases present : net.host addr with
      | some host =>
          simp only [netStep, present] at ran
          cases ran
          exact before owner executed
      | none =>
          simp only [netStep, present] at ran
          cases ran
          apply (before owner executed).kept
          · apply host_setHost_kept
            intro host known
            rw [present] at known
            cases known
          · rfl
          · intro legs _ ends _
            exact storedRoute_initAgent present ends.1 ends.2
  | host now event =>
      cases present : net.host addr with
      | none =>
          simp only [netStep, present] at ran
          cases ran
          exact before owner executed
      | some host =>
          simp only [netStep, present] at ran
          obtain ⟨host', stepped, ran⟩ := bind_ok.mp ran
          have stable := met.stable now event host host' rfl present stepped
          split at ran
          · next routed =>
            obtain ⟨some', legs, tour⟩ := met.completes now event host host' rfl present stepped
              routed
            obtain ⟨path, computed, same⟩ := bind_ok.mp ran
            rw [computeDistributionPath_of_tour tour] at computed
            cases computed
            cases same
            by_cases here : owner = addr
            · subst here
              exact NearestTour.toured tour some' (by simp [Net.setHost]) (by simp)
            · have earlier : net.executed owner = true := by
                simpa [Net.setHost, here] using executed
              apply (before owner earlier).kept
              · exact host_setHost_kept fun _ _ same => absurd same here
              · simp [Net.setHost, here]
              · intro legs known
                exact stable owner legs known fun same => absurd same here
          · next unrouted =>
            cases ran
            have unrouted := Bool.eq_false_iff.mpr unrouted
            apply (before owner executed).kept
            · apply host_setHost_kept
              intro known same _
              rw [present] at same
              cases same
              exact hostStep_mprset unrouted stepped
            · rfl
            · intro legs known
              exact stable owner legs known fun _ => unrouted

theorem reached_toured (reached : NetReached params (KeepsPaths params) net) :
    ∀ owner, net.executed owner = true → Toured net owner := by
  induction reached with
  | initial => nofun
  | step _ met stepped ih => exact netStep_toured ih met stepped

end

def singleConfig (addr : NsAddr) : Config :=
  { oneIfaceConfig with
    raAddr := addr
    ifaces := [{ index := 0, addr := addr }]
    localAddrs := [addr]
    raAddr_local := List.mem_singleton_self addr
    ifaces_local := by simp }

def singleNet : NetConfig where
  config := singleConfig
  raAddr_eq _ := rfl

def hearsSecond (others : List NsAddr) : HostEvent :=
  .agent (receive 2 2 0 0x80 (.hello {
    htime := 0
    willingness := willDefault
    helloMsgs := [{ linkCode := 6, nbIfaceAddrs := 1 :: others }] }))

private def firstHost : Host where
  node := initialNode (singleConfig 1) 0 0
  isOperational := true

private theorem netStep_first {others : List NsAddr} {host : Host}
    (stepped : hostStep (singleConfig 1) Time.second (hearsSecond others) firstHost = .ok host)
    (routed : recomputes (singleConfig 1) Time.second (hearsSecond others) firstHost = true) :
    netStep singleNet 1 (.host Time.second (hearsSecond others)) (emptyNet.setHost 1 firstHost) =
      storePath 1 host ((emptyNet.setHost 1 firstHost).setHost 1 host) := by
  have present : (emptyNet.setHost 1 firstHost).host 1 = some firstHost := rfl
  have config : singleNet.config 1 = singleConfig 1 := rfl
  simp only [netStep, present, config, stepped, Except.bind, if_pos routed]

private theorem keepsPaths_init (addr : NsAddr) (start maxTime : Int) (net : Net) :
    KeepsPaths singleNet addr (.initAgent start maxTime) net :=
  ⟨nofun, nofun⟩

end SyncFanet.Olsr
