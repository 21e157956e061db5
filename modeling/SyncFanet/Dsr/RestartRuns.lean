import SyncFanet.Dsr.Lifecycle
import SyncFanet.Dsr.LinkRouteRuns
import SyncFanet.Dsr.RouteDiscovery

/-!
# Restarts

What a node keeps of its life before a shutdown. The route map of the link cache outlives the
links that it was built from, and the timer of the probes is set by `initialize` only.
-/

set_option autoImplicit false

namespace SyncFanet.Dsr

/-! ## What a restart is for -/

namespace Agent

structure NoTimer (agent : Agent) : Prop where
  timers : ∀ timer, agent.timers timer = none
  etx : agent.etxTimer = none
  rreq : ∀ key e, agent.rreqTable.dsrRreqTbl.lookup key = some e → e.timer = none

/-- A node that is down has no timer pending, one that is up finds no route before it has
learnt any, and its probes go on. -/
structure StartsClean (config : LifeConfig) (now : SimTime) (agent : Agent) (learnt : Bool) :
    Prop where
  noTimer : agent.nodeActive = false → agent.NoTimer
  noRoute : agent.nodeActive = true → learnt = false → ∀ chance src dst, dst ≠ agent.node.myaddr →
    ∃ node, agent.node.routeFind config.refreshIntermediate now chance src dst = .ok (node, none)
  probing : agent.nodeActive = true → agent.node.config.etxActive = true → agent.etxTimer ≠ none

/-- A timer is pending for a time. -/
def Pending (agent : Agent) (time : SimTime) : Prop :=
  (∃ timer, agent.timers timer = some time) ∨ agent.etxTimer = some time ∨
    ∃ key e, agent.rreqTable.dsrRreqTbl.lookup key = some e ∧ e.timer = some time

/-- Whether routes or links were learnt since the last stop, with an event. -/
def learntAfter (now : SimTime) (agent : Agent) (learnt : Bool) : Event → Bool
  | .message calls => learnt || agent.nodeActive && calls.any LifeCall.learns
  | .timer timer calls => learnt || agent.timers timer = some now && calls.any LifeCall.learns
  | .signal calls => learnt || calls.any LifeCall.learns
  | .nodeShutdown | .nodeCrash => false
  | _ => learnt

end Agent

/-- The runs of a node whose events are allowed, with whether it has learnt routes or links
since it was last stopped. -/
inductive LifeRun (config : LifeConfig) (start : Agent) (allowed : Agent → Agent.Event → Prop) :
    SimTime → Agent → Bool → Prop where
  | start : LifeRun config start allowed 0 start false
  | wait {now later : SimTime} {agent : Agent} {learnt : Bool}
      (before : LifeRun config start allowed now agent learnt) (le : now ≤ later)
      (next : ∀ time, agent.Pending time → later ≤ time) :
      LifeRun config start allowed later agent learnt
  | event {now : SimTime} {agent after : Agent} {learnt : Bool}
      (before : LifeRun config start allowed now agent learnt) (event : Agent.Event)
      (allows : allowed agent event) (ran : agent.perform config now event = .ok after) :
      LifeRun config start allowed now after (agent.learntAfter now learnt event)

/-- The events after which a node can start clean: with the link cache no route is left in
the map when it stops, it is not started with ETX, and no frame is overheard while it is
down that it learns from or sets a timer for. -/
def Agent.Restartable (agent : Agent) : Agent.Event → Prop
  | .nodeShutdown | .nodeCrash =>
      agent.node.config.pathCache = true ∨
        ∀ dst ∈ agent.node.links.routeMap, dst = agent.node.myaddr
  | .nodeStart => agent.nodeActive = true ∨ agent.node.config.etxActive = false
  | .signal calls => agent.nodeActive = true ∨ ∀ call ∈ calls, ¬call.learns ∧ ¬call.arms
  | _ => True

/-! ## Nodes that know no route -/

structure Node.Unlearnt (node : Node) : Prop where
  paths : node.paths.paths = ∅
  linkArray : node.links.linkArray = ∅
  routeMap : node.config.pathCache = true ∨ ∀ dst ∈ node.links.routeMap, dst = node.myaddr

section

variable {node node' : Node} {now : SimTime} {src dst : InAddr} {found : Option DsrSrt}
  {chance : Nat → LinkCache.Chance} {refreshIntermediate : Bool}

namespace PathsCache

theorem keepPaths_empty (kept : InAddr → Path → Bool) : keepPaths kept ∅ = ∅ := by
  apply Finmap.ext_lookup
  intro dest
  simp [keepPaths]

theorem erasePathWithLink_empty (rootNode addr1 addr2 : InAddr) (eraseFirst bidirectional : Bool) :
    erasePathWithLink rootNode now ∅ addr1 addr2 eraseFirst bidirectional = ∅ := by
  unfold erasePathWithLink eraseFirstLink eraseDirect
  rw [Finmap.lookup_empty]
  split <;> exact keepPaths_empty _

end PathsCache

theorem Node.Unlearnt.deleteLink (unlearnt : node.Unlearnt) (src1 src2 : InAddr) :
    (node.deleteLink now src1 src2).Unlearnt := by
  have kept : node.links.deleteEdge src1 src2 true = node.links := by
    unfold LinkCache.deleteEdge
    rw [if_pos unlearnt.linkArray]
  constructor
  · show node.paths.paths.erasePathWithLink _ _ _ _ _ _ = ∅
    rw [unlearnt.paths]
    exact PathsCache.erasePathWithLink_empty _ _ _ _ _
  · show (node.links.deleteEdge src1 src2 true).linkArray = ∅
    rw [kept]
    exact unlearnt.linkArray
  · show _ ∨ ∀ dst ∈ (node.links.deleteEdge src1 src2 true).routeMap, dst = node.myaddr
    rw [kept]
    exact unlearnt.routeMap

theorem phSrtFindMap_empty (empty : node.paths.paths = ∅) (timeout : Nat) :
    phSrtFindMap refreshIntermediate now node src dst timeout = .ok (node, none) := by
  have same : { node with paths := { node.paths with paths := ∅ } } = node := by
    rw [← empty]
  unfold phSrtFindMap findCheapest PathsCache.getPaths PathsCache.getPath
  rw [empty]
  simp only [Finmap.lookup_empty]
  split
  · exact congrArg (fun node : Node => Except.ok (node, none)) same
  · exact congrArg (fun node : Node => Except.ok (node, none)) same

/-- A call of `getRoute` without links, where the route map has the root at most. -/
theorem getRoute_empty {rootNode : InAddr} {cache : LinkCache} (empty : cache.linkArray = ∅)
    (onlyRoot : ∀ dst ∈ cache.routeMap, dst = rootNode) (now : SimTime)
    (chance : Nat → LinkCache.Chance) (dst : InAddr) (exp depth : Nat) :
    ∃ built : LinkCache, built.linkArray = ∅ ∧ (∀ dst ∈ built.routeMap, dst = rootNode) ∧
      (if cache.routeMap = ∅ then cache.run rootNode now (chance depth) else .ok cache) = .ok built ∧
      (built.routeMap.lookup dst = none →
        cache.getRoute rootNode now chance exp dst (depth + 1) = .ok (built, none)) := by
  have prepared : ∃ built : LinkCache, built.linkArray = ∅ ∧
      (∀ dst ∈ built.routeMap, dst = rootNode) ∧
      (if cache.routeMap = ∅ then cache.run rootNode now (chance depth) else .ok cache) =
        .ok built := by
    by_cases none : cache.routeMap = ∅
    · refine ⟨{ cache with routeMap := ∅ }, empty, ?_, ?_⟩
      · intro dst member
        exact absurd member Finmap.notMem_empty
      · rw [if_pos none, LinkCache.run, empty, Finmap.lookup_empty]
    · exact ⟨cache, empty, onlyRoot, if_neg none⟩
  obtain ⟨built, empty', onlyRoot', ready⟩ := prepared
  exact ⟨built, empty', onlyRoot', ready, LinkCache.getRoute_missing ready⟩

theorem Node.Unlearnt.routeFind_none (unlearnt : node.Unlearnt) (other : dst ≠ node.myaddr) :
    ∃ node', node.routeFind refreshIntermediate now chance src dst = .ok (node', none) := by
  unfold Node.routeFind
  by_cases pathCache : node.config.pathCache = true
  · rw [if_pos pathCache]
    exact ⟨node, phSrtFindMap_empty unlearnt.paths _⟩
  · rw [if_neg pathCache]
    have onlyRoot := unlearnt.routeMap.resolve_left pathCache
    obtain ⟨built, _, onlyRoot', _, returns⟩ :=
      getRoute_empty unlearnt.linkArray onlyRoot now chance dst
        (node.config.routeCacheTimeout % 2 ^ 32) 1
    have missing : built.routeMap.lookup dst = none := by
      apply Finmap.lookup_eq_none.mpr
      exact fun member => other (onlyRoot' dst member)
    refine ⟨{ node with links := built }, ?_⟩
    unfold LinkCache.phSrtFindLinkRouteMap
    rw [returns missing]
    rfl

theorem Node.Unlearnt.routeFind (unlearnt : node.Unlearnt)
    (ran : node.routeFind refreshIntermediate now chance src dst = .ok (node', found)) :
    node'.Unlearnt := by
  unfold Node.routeFind at ran
  by_cases pathCache : node.config.pathCache = true
  · rw [if_pos pathCache, phSrtFindMap_empty unlearnt.paths] at ran
    cases ran
    exact unlearnt
  · rw [if_neg pathCache] at ran
    have onlyRoot := unlearnt.routeMap.resolve_left pathCache
    obtain ⟨result, looked, same⟩ := bind_ok.mp ran
    obtain ⟨result', inner, same'⟩ := bind_ok.mp looked
    cases same
    cases same'
    obtain ⟨built, empty, onlyRoot', ready, returns⟩ :=
      getRoute_empty unlearnt.linkArray onlyRoot now chance dst
        (node.config.routeCacheTimeout % 2 ^ 32) 1
    cases stored : built.routeMap.lookup dst with
    | none =>
        rw [returns stored] at inner
        cases inner
        exact ⟨unlearnt.paths, empty, .inr onlyRoot'⟩
    | some state =>
        have here : dst = node.myaddr :=
          onlyRoot' dst (Finmap.lookup_isSome.mp (by rw [stored]; rfl))
        subst here
        rw [LinkCache.getRoute_walk _ ready stored, LinkCache.walk_root] at inner
        cases inner

end

/-! ## The calls of a handler -/

structure Agent.Frame (before after : Agent) : Prop where
  nodeActive : after.nodeActive = before.nodeActive
  etxTimer : after.etxTimer = before.etxTimer
  config : after.node.config = before.node.config
  myaddr : after.node.myaddr = before.node.myaddr

section

variable {config : LifeConfig} {now : SimTime} {agent after : Agent} {call : LifeCall}
  {calls : List LifeCall}

theorem routeAdd_frame {node node' : Node} {srt : DsrSrt} (ran : node.routeAdd now srt = .ok node') :
    node'.config = node.config ∧ node'.myaddr = node.myaddr := by
  obtain ⟨paths, links, rfl⟩ := Node.routeAdd_ok ran
  exact ⟨rfl, rfl⟩

theorem routeFind_frame {refreshIntermediate : Bool} {chance : Nat → LinkCache.Chance} {node node' : Node}
    {src dst : InAddr} {found : Option DsrSrt}
    (ran : node.routeFind refreshIntermediate now chance src dst = .ok (node', found)) :
    node'.config = node.config ∧ node'.myaddr = node.myaddr := by
  obtain ⟨⟨paths, links, rfl⟩, -⟩ := Node.routeFind_ok ran
  exact ⟨rfl, rfl⟩

theorem LifeCall.frame (ran : call.perform config now agent = .ok after) : agent.Frame after := by
  cases call with
  | routeAdd srt =>
      obtain ⟨node, added, same⟩ := bind_ok.mp ran
      cases same
      exact ⟨rfl, rfl, (routeAdd_frame added).1, (routeAdd_frame added).2⟩
  | routeFind chance src dst =>
      obtain ⟨found, looked, same⟩ := bind_ok.mp ran
      cases same
      exact ⟨rfl, rfl, (routeFind_frame looked).1, (routeFind_frame looked).2⟩
  | rreqAddId initiator target id cost addr length =>
      obtain ⟨table, _, same⟩ := bind_ok.mp ran
      cases same
      exact ⟨rfl, rfl, rfl, rfl⟩
  | rreqDiscovery target =>
      obtain ⟨table, _, same⟩ := bind_ok.mp ran
      cases same
      exact ⟨rfl, rfl, rfl, rfl⟩
  | addNode | addLink | deleteLink | setTimer | delTimer | rreqCancel =>
      cases ran
      exact ⟨rfl, rfl, rfl, rfl⟩

theorem LifeCall.noTimer (quiet : ¬call.arms) (none : agent.NoTimer)
    (ran : call.perform config now agent = .ok after) : after.NoTimer := by
  cases call with
  | routeAdd srt =>
      obtain ⟨node, _, same⟩ := bind_ok.mp ran
      cases same
      exact ⟨none.timers, none.etx, none.rreq⟩
  | routeFind chance src dst =>
      obtain ⟨found, _, same⟩ := bind_ok.mp ran
      cases same
      exact ⟨none.timers, none.etx, none.rreq⟩
  | addNode | addLink | deleteLink =>
      cases ran
      exact ⟨none.timers, none.etx, none.rreq⟩
  | setTimer | rreqDiscovery => exact absurd rfl quiet
  | delTimer timer =>
      cases ran
      refine ⟨?_, none.etx, none.rreq⟩
      intro other
      by_cases same : other = timer
      · subst same
        exact Function.update_self _ _ _
      · exact (Function.update_of_ne same _ _).trans (none.timers other)
  | rreqAddId initiator target id cost addr length =>
      obtain ⟨table, added, same⟩ := bind_ok.mp ran
      cases same
      obtain ⟨found, entry, added⟩ := bind_ok.mp added
      obtain ⟨ids, _, same⟩ := bind_ok.mp added
      cases same
      obtain ⟨made, _, others⟩ := rreqTblEntry_ok entry
      refine ⟨none.timers, none.etx, ?_⟩
      intro key e stored
      by_cases here : key = initiator
      · subst here
        rw [Finmap.lookup_insert] at stored
        cases stored
        rw [made]
        cases old : agent.rreqTable.dsrRreqTbl.lookup key with
        | none => rfl
        | some e => exact none.rreq key e old
      · rw [Finmap.lookup_insert_of_ne _ here, others key here] at stored
        exact none.rreq key e stored
  | rreqCancel dst =>
      cases ran
      refine ⟨none.timers, none.etx, ?_⟩
      intro key e stored
      unfold rreqTblRouteDiscoveryCancel at stored
      split at stored
      · exact none.rreq key e stored
      · by_cases here : key = dst
        · subst here
          rw [Finmap.lookup_erase] at stored
          cases stored
        · rw [Finmap.lookup_erase_ne here] at stored
          exact none.rreq key e stored

theorem LifeCall.unlearnt (quiet : ¬call.learns) (unlearnt : agent.node.Unlearnt)
    (ran : call.perform config now agent = .ok after) : after.node.Unlearnt := by
  cases call with
  | routeAdd | addNode | addLink => exact absurd rfl quiet
  | deleteLink src1 src2 =>
      cases ran
      exact unlearnt.deleteLink src1 src2
  | routeFind chance src dst =>
      obtain ⟨found, looked, same⟩ := bind_ok.mp ran
      cases same
      exact unlearnt.routeFind looked
  | setTimer | delTimer | rreqCancel =>
      cases ran
      exact unlearnt
  | rreqAddId initiator target id cost addr length =>
      obtain ⟨table, _, same⟩ := bind_ok.mp ran
      cases same
      exact unlearnt
  | rreqDiscovery target =>
      obtain ⟨table, _, same⟩ := bind_ok.mp ran
      cases same
      exact unlearnt

theorem Agent.handle_frame (ran : agent.handle config now calls = .ok after) :
    agent.Frame after := by
  apply foldlM_seen ran fun _ after => agent.Frame after
  · exact ⟨rfl, rfl, rfl, rfl⟩
  · intro seen call between after _ frame performed
    have next := LifeCall.frame performed
    exact ⟨next.nodeActive.trans frame.nodeActive, next.etxTimer.trans frame.etxTimer,
      next.config.trans frame.config, next.myaddr.trans frame.myaddr⟩

theorem Agent.handle_noTimer (quiet : ∀ call ∈ calls, ¬call.arms) (none : agent.NoTimer)
    (ran : agent.handle config now calls = .ok after) : after.NoTimer :=
  foldlM_seen ran (fun _ after => after.NoTimer) none
    fun _ call _ _ member none performed => LifeCall.noTimer (quiet call member) none performed

theorem Agent.handle_unlearnt (quiet : ∀ call ∈ calls, ¬call.learns)
    (unlearnt : agent.node.Unlearnt) (ran : agent.handle config now calls = .ok after) :
    after.node.Unlearnt :=
  foldlM_seen ran (fun _ after => after.node.Unlearnt) unlearnt
    fun _ call _ _ member unlearnt performed =>
      LifeCall.unlearnt (quiet call member) unlearnt performed

end

/-! ## Runs -/

structure Agent.Restarts (agent : Agent) (learnt : Bool) : Prop where
  noTimer : agent.nodeActive = false → agent.NoTimer
  unlearnt : learnt = false → agent.node.Unlearnt
  probing : agent.nodeActive = true → agent.node.config.etxActive = true → agent.etxTimer ≠ none

section

variable {config : LifeConfig} {now : SimTime} {agent after : Agent} {learnt : Bool}
  {calls : List LifeCall} {event : Agent.Event}

theorem Agent.Restarts.handle (restarts : agent.Restarts learnt)
    (quiet : agent.nodeActive = true ∨ ∀ call ∈ calls, ¬call.arms)
    (ran : agent.handle config now calls = .ok after) :
    after.Restarts (learnt || calls.any LifeCall.learns) := by
  have frame := Agent.handle_frame ran
  constructor
  · intro down
    rw [frame.nodeActive] at down
    have quiet' := quiet.resolve_left (by rw [down]; exact Bool.false_ne_true)
    exact Agent.handle_noTimer quiet' (restarts.noTimer down) ran
  · intro none
    obtain ⟨before, nothing⟩ := Bool.or_eq_false_iff.mp none
    apply Agent.handle_unlearnt _ (restarts.unlearnt before) ran
    intro call member
    exact List.any_eq_false.mp nothing call member
  · intro up etx
    rw [frame.nodeActive] at up
    rw [frame.config] at etx
    rw [frame.etxTimer]
    exact restarts.probing up etx

theorem Agent.Restarts.etxMsgSend (restarts : agent.Restarts learnt)
    (up : agent.nodeActive = true) : (agent.etxMsgSend config now).Restarts learnt := by
  have down : ¬agent.nodeActive = false := by rw [up]; exact Bool.true_eq_false.mp
  refine ⟨fun down' => absurd down' down, ?_, fun _ _ => nofun⟩
  intro none
  apply foldl_keeps _ Node.Unlearnt (restarts.unlearnt none)
  exact fun entry node _ unlearnt => unlearnt.deleteLink _ _

theorem Agent.restarts_stop
    (clean : agent.node.config.pathCache = true ∨
      ∀ dst ∈ agent.node.links.routeMap, dst = agent.node.myaddr) :
    agent.stop.Restarts false := by
  refine ⟨fun _ => ⟨fun _ => rfl, rfl, ?_⟩, fun _ => ⟨rfl, rfl, clean⟩, nofun⟩
  intro key e stored
  rw [show agent.stop.rreqTable.dsrRreqTbl = ∅ from rfl, Finmap.lookup_empty] at stored
  cases stored

theorem Agent.fired_ok {early : Prop} [Decidable early] {fires : Except Fault Agent}
    (ran : (if early then .ok agent
      else if ¬agent.nodeActive then .error .danglingIterator else fires) = .ok after) :
    (early ∧ after = agent) ∨ (¬early ∧ agent.nodeActive = true ∧ fires = .ok after) := by
  split at ran
  · next early =>
    cases ran
    exact .inl ⟨early, rfl⟩
  · next due =>
    split at ran
    · cases ran
    · next up => exact .inr ⟨due, not_not.mp up, ran⟩

theorem Agent.Restarts.perform (restarts : agent.Restarts learnt)
    (allows : agent.Restartable event) (ran : agent.perform config now event = .ok after) :
    after.Restarts (agent.learntAfter now learnt event) := by
  cases event with
  | message calls =>
      unfold Agent.perform at ran
      dsimp only at ran
      split at ran
      · next up =>
          have handled := restarts.handle (.inl up) ran
          simpa [Agent.learntAfter, up] using handled
      · next down =>
          cases ran
          simpa [Agent.learntAfter, down] using restarts
  | probe src =>
      unfold Agent.perform at ran
      dsimp only at ran
      split at ran
      · cases ran
        exact ⟨fun down => ⟨(restarts.noTimer down).timers, (restarts.noTimer down).etx,
          (restarts.noTimer down).rreq⟩, restarts.unlearnt, restarts.probing⟩
      · cases ran
        exact restarts
  | timer timer calls =>
      rcases Agent.fired_ok ran with ⟨early, rfl⟩ | ⟨due, up, ran⟩
      · simpa [Agent.learntAfter, early] using restarts
      · have taken : ({ agent with
            timers := Function.update agent.timers timer none } : Agent).Restarts learnt :=
          ⟨fun down => absurd (up.symm.trans down) nofun, restarts.unlearnt, restarts.probing⟩
        have handled := taken.handle (.inl up) ran
        simpa [Agent.learntAfter, not_not.mp due] using handled
  | rreqTimer key =>
      rcases Agent.fired_ok ran with ⟨-, rfl⟩ | ⟨-, up, ran⟩
      · exact restarts
      · obtain ⟨found, _, same⟩ := bind_ok.mp ran
        cases same
        exact ⟨fun down => absurd (up.symm.trans down) nofun, restarts.unlearnt,
          restarts.probing⟩
  | etxTimer =>
      rcases Agent.fired_ok ran with ⟨-, rfl⟩ | ⟨-, up, ran⟩
      · exact restarts
      · cases ran
        exact restarts.etxMsgSend up
  | signal calls =>
      have quiet : agent.nodeActive = true ∨ ∀ call ∈ calls, ¬call.arms :=
        allows.imp_right fun quiet call member => (quiet call member).2
      exact restarts.handle quiet ran
  | nodeStart =>
      cases ran
      refine ⟨nofun, restarts.unlearnt, ?_⟩
      intro _ etx
      cases allows with
      | inl up => exact restarts.probing up etx
      | inr off => exact absurd (etx.symm.trans off) nofun
  | nodeShutdown | nodeCrash =>
      cases ran
      exact Agent.restarts_stop allows

variable {start : Agent} {myaddr : InAddr} {getCost : InAddr → ℚ} {settings : Config}

theorem LifeRun.restarts
    (run : LifeRun config (Agent.initial settings myaddr getCost) Agent.Restartable now agent
      learnt) : agent.Restarts learnt := by
  induction run with
  | start =>
      refine ⟨nofun, fun _ => ⟨rfl, rfl, .inr ?_⟩, ?_⟩
      · exact fun dst member => absurd member Finmap.notMem_empty
      · intro _ etx
        have etx : settings.etxActive = true := etx
        simp [Agent.initial, etx]
  | wait _ _ _ ih => exact ih
  | event _ event allows ran ih => exact ih.perform allows ran

/-- A node starts clean in every run in which its route map is empty when it stops, ETX is
off when it starts, and nothing is overheard while it is down. -/
theorem startsClean_run
    (run : LifeRun config (Agent.initial settings myaddr getCost) Agent.Restartable now agent
      learnt) : agent.StartsClean config now learnt :=
  ⟨run.restarts.noTimer, fun _ none _ _ _ other => (run.restarts.unlearnt none).routeFind_none other,
    run.restarts.probing⟩

end

def linkCacheSettings : Config where
  pathCache := false
  etxActive := false
  useNetworkLayerAck := false
  rrepDestinationOnly := false
  routeCacheTimeout := 300000000

def LifeConfig.default : LifeConfig where
  etxTime := usecs 5000000
  etxWindowSize := usecs 50000000
  rreq := RreqConfig.default
  refreshIntermediate := false

/-- A node with the path cache at the time 0, after it has learnt a route over one relay, put a
packet for another node into the send buffer and asked for a route. -/
def searching : Except Fault Agent :=
  (Agent.initial { linkCacheSettings with pathCache := true } 1 0).perform LifeConfig.default 0
    (.message
      [.routeAdd { src := 1, dst := 3, flags := 0, laddrs := 4, addrs := [2], cost := [] },
        .setTimer .sendBuf 5, .rreqDiscovery 4])

/-- It is stopped while it knows the route and both timers are pending, and started again. -/
theorem startsClean_restarted :
    ∃ agent, searching = .ok agent ∧ (agent.node.paths.paths.getPath 0 3 0).2.isSome ∧
      agent.timers .sendBuf = some 5 ∧
      ((agent.rreqTable.dsrRreqTbl.lookup 4).bind RreqTblEntry.timer).isSome ∧
      { agent.stop with nodeActive := true }.StartsClean LifeConfig.default 0 false := by
  have busy : (match searching with
      | .ok agent =>
          (agent.node.paths.paths.getPath 0 3 0).2.isSome && agent.timers .sendBuf == some 5 &&
            ((agent.rreqTable.dsrRreqTbl.lookup 4).bind RreqTblEntry.timer).isSome &&
            agent.node.config.pathCache && !agent.node.config.etxActive
      | .error _ => false) = true := by
    decide +kernel
  cases ran : searching with
  | error fault =>
      rw [ran] at busy
      cases busy
  | ok agent =>
      simp only [ran, Bool.and_eq_true, beq_iff_eq, Bool.not_eq_true'] at busy
      obtain ⟨⟨⟨⟨known, waits⟩, asks⟩, pathCache⟩, etx⟩ := busy
      exact ⟨agent, rfl, known, waits, asks, startsClean_run
        (.event (.event (.event .start _ trivial ran) .nodeShutdown (.inl pathCache) rfl)
          .nodeStart (.inr etx) rfl)⟩

def restarted : Except Fault Agent :=
  ((Agent.initial linkCacheSettings 1 0).perform LifeConfig.default 0
    (.message [.addLink 1 2, .routeFind (fun _ => .first) 1 2])).bind fun agent =>
      (agent.perform LifeConfig.default 0 .nodeShutdown).bind fun agent =>
        agent.perform LifeConfig.default 0 .nodeStart

def findsNone (dst : InAddr) (agent : Agent) : Bool :=
  match agent.node.routeFind false 0 (fun _ => .first) agent.node.myaddr dst with
  | .ok (_, none) => true
  | _ => false

/-- After the restart the lookup follows the old route map to a link that has been freed. -/
theorem not_startsClean :
    ¬∀ (config : LifeConfig) (settings : Config) (myaddr : InAddr) (getCost : InAddr → ℚ)
      (now : SimTime) (agent : Agent) (learnt : Bool),
      LifeRun config (Agent.initial settings myaddr getCost) (fun _ _ => True) now agent learnt →
      agent.StartsClean config now learnt := by
  intro clean
  have lost : (match restarted with
      | .ok agent => agent.nodeActive && agent.node.myaddr == 1 && !findsNone 2 agent
      | .error _ => false) = true := by
    decide +kernel
  cases ran : restarted with
  | error fault =>
      rw [ran] at lost
      cases lost
  | ok agent =>
      simp only [ran, Bool.and_eq_true, beq_iff_eq, Bool.not_eq_true'] at lost
      obtain ⟨⟨up, here⟩, lost⟩ := lost
      obtain ⟨used, first, ran⟩ := bind_ok.mp ran
      obtain ⟨stopped, second, third⟩ := bind_ok.mp ran
      have run : LifeRun LifeConfig.default (Agent.initial linkCacheSettings 1 0) (fun _ _ => True)
          0 agent false :=
        .event (.event (.event .start _ trivial first) .nodeShutdown trivial second) .nodeStart
          trivial third
      obtain ⟨node, found⟩ :=
        (clean _ _ _ _ _ _ _ run).noRoute up rfl (fun _ => .first) agent.node.myaddr 2
          (by rw [here]; decide)
      have found : agent.node.routeFind false 0 (fun _ => .first) agent.node.myaddr 2 =
          .ok (node, none) := found
      unfold findsNone at lost
      rw [found] at lost
      cases lost

end SyncFanet.Dsr
