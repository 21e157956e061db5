import SyncFanet.Library.Announcements
import SyncFanet.Olsr.BeaconNetwork
import SyncFanet.Olsr.HeardNetwork

/-!
# Neighborhoods that are discovered

The HELLOs of an agent announce what it knows. After a round of HELLOs every agent has heard
its neighbors, after a second one it talks with them, after a third one it sees what is behind
them, and after a fourth one its MPRs are current. From then on this stays so.
-/

set_option autoImplicit false

namespace SyncFanet.Olsr

variable {network : Network} {beacons : Beacons network} {begun clock now start : Int}
  {u v w : NsAddr} {scene scene' : Scene}

/-! ## HELLOs with some content -/

/-- All HELLOs among the messages have the content. -/
def OnlySuch (content : Hello → Prop) (msgs : List Msg) : Prop :=
  ∀ msg ∈ msgs, ∀ hello, msg.body = .hello hello → content hello

/-- A HELLO has the content, and all HELLOs after it have. -/
def EndsWith (content : Hello → Prop) : List Msg → Prop
  | [] => False
  | msg :: rest => EndsWith content rest ∨
      ((∃ hello, msg.body = .hello hello ∧ content hello) ∧ OnlySuch content rest)

/-- A packet that arrives in time ends with such a HELLO, and all packets after it have only
such ones. -/
def Coming (content : Hello → Prop) (flight time : Int) : List (Int × Pkt) → Prop
  | [] => False
  | entry :: rest => Coming content flight time rest ∨
      (EndsWith content entry.2.msgs ∧ entry.1 + flight ≤ time ∧
        ∀ later ∈ rest, OnlySuch content later.2.msgs)

section

variable {content : Hello → Prop} {flight time : Int}

theorem onlySuch_append {msgs more : List Msg} :
    OnlySuch content (msgs ++ more) ↔ OnlySuch content msgs ∧ OnlySuch content more :=
  List.forall_mem_append

theorem onlySuch_of_aboutTopology {msgs : List Msg} (about : ∀ msg ∈ msgs, msg.AboutTopology) :
    OnlySuch content msgs := by
  intro msg member hello body
  exact absurd body ((about msg member).1 hello)

theorem endsWith_append {msgs more : List Msg} : EndsWith content (msgs ++ more) ↔
    EndsWith content more ∨ (EndsWith content msgs ∧ OnlySuch content more) := by
  induction msgs with
  | nil => simp [EndsWith]
  | cons msg rest ih =>
      rw [List.cons_append, EndsWith, EndsWith, ih, onlySuch_append]
      tauto

theorem Coming.append_clear {air more : List (Int × Pkt)} (coming : Coming content flight time air)
    (clear : ∀ entry ∈ more, OnlySuch content entry.2.msgs) :
    Coming content flight time (air ++ more) := by
  induction air with
  | nil => exact absurd coming id
  | cons entry rest ih =>
      rcases coming with later | ⟨ends, soon, after⟩
      · exact .inl (ih later)
      · exact .inr ⟨ends, soon, List.forall_mem_append.mpr ⟨after, clear⟩⟩

theorem Coming.prepend {more : List (Int × Pkt)} (coming : Coming content flight time more)
    (air : List (Int × Pkt)) : Coming content flight time (air ++ more) := by
  induction air with
  | nil => exact coming
  | cons entry rest ih => exact .inl ih

theorem coming_of_packets {sent : Int} (soon : sent + flight ≤ time) {pkts : List Pkt}
    (ends : EndsWith content (pkts.flatMap Pkt.msgs)) :
    Coming content flight time (pkts.map fun pkt => (sent, pkt)) := by
  induction pkts with
  | nil => exact ends
  | cons pkt rest ih =>
      rw [List.flatMap_cons, endsWith_append] at ends
      rcases ends with later | ⟨here, after⟩
      · exact .inl (ih later)
      · refine .inr ⟨here, soon, ?_⟩
        intro entry member
        obtain ⟨other, among, rfl⟩ := List.mem_map.mp member
        exact fun msg listed => after msg (List.mem_flatMap.mpr ⟨other, among, listed⟩)

theorem Coming.ahead {air : List (Int × Pkt)} (coming : Coming content flight time air)
    (punctual : ∀ entry ∈ air, now ≤ entry.1 + flight) : now ≤ time := by
  induction air with
  | nil => exact absurd coming id
  | cons entry rest ih =>
      rcases coming with later | ⟨_, soon, _⟩
      · exact ih later fun other member => punctual other (List.mem_cons_of_mem _ member)
      · exact (punctual entry List.mem_cons_self).trans soon

end

/-! ## HELLOs as announcements -/

/-- The HELLOs of one agent to a neighbor of it, and what the neighbor holds about it. -/
def announcements (beacons : Beacons network) (u v : NsAddr) (content : Hello → Prop)
    (held : Int → Node → Prop) : Announcements Scene where
  next scene time := (time, .hello) ∈ (scene.node u).timerQueue
  arrives scene time :=
    (EndsWith content (scene.node u).msgs ∧
      ∃ key, (key, .msg) ∈ (scene.node u).timerQueue ∧ key + beacons.flight ≤ time) ∨
    (Coming content beacons.flight time (scene.air u v) ∧ OnlySuch content (scene.node u).msgs)
  clear scene := OnlySuch content (scene.node u).msgs ∧
    ∀ entry ∈ scene.air u v, OnlySuch content entry.2.msgs
  holds scene expiry := held expiry (scene.node v)

def Beacons.timing (beacons : Beacons network) : Announcements.Timing where
  interval := beacons.interval
  transit := beacons.slack + beacons.flight
  validity := beacons.validity
  transit_nonneg := Int.add_nonneg beacons.slack_nonneg beacons.flight_nonneg
  remembered := by
    have remembered := beacons.remembered
    omega

section

variable {content : Hello → Prop} {held : Int → Node → Prop}

theorem announcements_punctual (onSchedule : scene.OnSchedule beacons now)
    (adjacent : network.graph.Adj u v) :
    (announcements beacons u v content held).Punctual now scene := by
  have timers := onSchedule.timers u (network.adj_mem v u adjacent.symm)
  constructor
  · intro time next
    exact timers _ next
  · rintro time (⟨_, key, leaves, soon⟩ | ⟨coming, _⟩)
    · have leaving := timers _ leaves
      have flight := beacons.flight_nonneg
      omega
    · exact coming.ahead (onSchedule.packets u v adjacent)

theorem announcements_aside
    (hellos : ∀ time, (time, .hello) ∈ (scene.node u).timerQueue →
      (time, .hello) ∈ (scene'.node u).timerQueue)
    (buffers : ∀ time, (time, .msg) ∈ (scene.node u).timerQueue →
      (time, .msg) ∈ (scene'.node u).timerQueue)
    (msgs : ∃ more, (scene'.node u).msgs = (scene.node u).msgs ++ more ∧
      ∀ msg ∈ more, msg.AboutTopology)
    (still : scene'.air u v = scene.air u v)
    (kept : start < now → ∀ expiry, now ≤ expiry → held expiry (scene.node v) →
      held expiry (scene'.node v)) :
    (announcements beacons u v content held).Step beacons.timing start now scene scene' := by
  obtain ⟨more, msgs, about⟩ := msgs
  have only : OnlySuch content more := onlySuch_of_aboutTopology about
  have appended : OnlySuch content (scene.node u).msgs → OnlySuch content (scene'.node u).msgs := by
    intro clear
    rw [msgs]
    exact onlySuch_append.mpr ⟨clear, only⟩
  constructor
  · intro time next
    exact .inl (hellos time next)
  · rintro _ time (⟨ends, key, leaves, soon⟩ | ⟨coming, clear⟩)
    · refine .inl (.inl ⟨?_, key, buffers key leaves, soon⟩)
      rw [msgs]
      exact endsWith_append.mpr (.inr ⟨ends, only⟩)
    · exact .inl (.inr ⟨still ▸ coming, appended clear⟩)
  · rintro _ ⟨clear, flying⟩
    exact ⟨appended clear, still ▸ flying⟩
  · intro begun _ expiry ahead holds
    exact .inl (kept begun expiry ahead holds)

theorem mem_rest {timer other : Timer} {rest queue : List (Int × Timer)} {time : Int}
    (due : queue = (now, timer) :: rest) (member : (time, other) ∈ queue) :
    (time, other) ∈ rest ∨ (time = now ∧ other = timer) := by
  rw [due] at member
  rcases List.mem_cons.mp member with same | among
  · exact .inr (Prod.mk.inj same)
  · exact .inl among

theorem announcements_hello {rest : List (Int × Timer)}
    (due : (scene.node u).timerQueue = (now, .hello) :: rest) {msg : Msg} {hello : Hello}
    (body : msg.body = .hello hello)
    (queued : HelloQueued now beacons.interval beacons.slack msg
      { scene.node u with timerQueue := rest } (scene'.node u))
    (others : scene'.node v = scene.node v) (still : scene'.air u v = scene.air u v)
    (such : start < now → content hello) :
    (announcements beacons u v content held).Step beacons.timing start now scene scene' := by
  obtain ⟨queue, msgs, _, ⟨key, leaves, early⟩, again, next, soon⟩ := queued
  have only : start < now → OnlySuch content (scene.node u).msgs →
      OnlySuch content (scene'.node u).msgs := by
    intro begun clear
    rw [msgs]
    refine onlySuch_append.mpr ⟨clear, List.forall_mem_singleton.mpr ?_⟩
    intro other same
    rw [body] at same
    cases same
    exact such begun
  have ends : start < now → EndsWith content (scene'.node u).msgs := by
    intro begun
    rw [msgs]
    exact endsWith_append.mpr
      (.inl (.inr ⟨⟨hello, body, such begun⟩, List.forall_mem_nil _⟩))
  constructor
  · intro time member
    rcases mem_rest due member with among | ⟨rfl, _⟩
    · exact .inl (queue among)
    · refine .inr ⟨rfl, ⟨again, soon, next⟩, fun begun => .inl ⟨ends begun, key, leaves, ?_⟩⟩
      simp only [Beacons.timing]
      omega
  · rintro begun time (⟨_, other, waits, soon'⟩ | ⟨coming, clear⟩)
    · rcases mem_rest due waits with among | ⟨_, here⟩
      · exact .inl (.inl ⟨ends begun, other, queue among, soon'⟩)
      · cases here
    · exact .inl (.inr ⟨still ▸ coming, only begun clear⟩)
  · rintro begun ⟨clear, flying⟩
    exact ⟨only begun clear, still ▸ flying⟩
  · intro _ _ expiry _ holds
    exact .inl (show held expiry (scene'.node v) from others ▸ holds)

theorem announcements_buffer {rest : List (Int × Timer)}
    (ahead : ∀ entry ∈ (scene.node u).timerQueue, now ≤ entry.1)
    (due : (scene.node u).timerQueue = (now, .msg) :: rest)
    (buffer : BufferSent { scene.node u with timerQueue := rest } (scene'.node u))
    (others : scene'.node v = scene.node v)
    (sent : scene'.air u v = scene.air u v ++
      (packetsSent (scene.node u) (scene'.node u)).map fun pkt => (now, pkt)) :
    (announcements beacons u v content held).Step beacons.timing start now scene scene' := by
  have packets : (packetsSent (scene.node u) (scene'.node u)).flatMap Pkt.msgs =
    (scene.node u).msgs := buffer.packets
  have queue : (scene'.node u).timerQueue = rest := buffer.queue
  have empty : OnlySuch content (scene'.node u).msgs := by
    rw [buffer.empty]
    exact List.forall_mem_nil _
  have flown : OnlySuch content (scene.node u).msgs → ∀ entry ∈
      (packetsSent (scene.node u) (scene'.node u)).map (fun pkt => (now, pkt)),
      OnlySuch content entry.2.msgs := by
    intro clear entry member
    obtain ⟨pkt, made, rfl⟩ := List.mem_map.mp member
    intro msg among
    exact clear msg (packets ▸ List.mem_flatMap.mpr ⟨pkt, made, among⟩)
  constructor
  · intro time member
    rcases mem_rest due member with among | ⟨_, here⟩
    · refine .inl ?_
      change (time, Timer.hello) ∈ (scene'.node u).timerQueue
      rw [queue]
      exact among
    · cases here
  · rintro begun time (⟨ends, key, leaves, soon⟩ | ⟨coming, clear⟩)
    · have leaving : now ≤ key := ahead _ leaves
      refine .inl (.inr ⟨?_, empty⟩)
      rw [sent]
      refine (coming_of_packets ?_ (packets ▸ ends)).prepend _
      omega
    · refine .inl (.inr ⟨?_, empty⟩)
      rw [sent]
      exact coming.append_clear (flown clear)
  · rintro begun ⟨clear, flying⟩
    refine ⟨empty, ?_⟩
    rw [sent]
    exact List.forall_mem_append.mpr ⟨flying, flown clear⟩
  · intro _ _ expiry _ holds
    exact .inl (show held expiry (scene'.node v) from others ▸ holds)

theorem announcements_heard {sent : Int} {pkt : Pkt} {rest : List (Int × Pkt)}
    (first : scene.air u v = (sent, pkt) :: rest) (taken : scene'.air u v = rest)
    (others : scene'.node u = scene.node u)
    (ending : EndsWith content pkt.msgs → ∀ expiry, expiry < now + beacons.validity →
      held expiry (scene'.node v))
    (only : OnlySuch content pkt.msgs → ∀ expiry, held expiry (scene.node v) →
      held expiry (scene'.node v) ∨
        ∀ expiry', expiry' < now + beacons.validity → held expiry' (scene'.node v)) :
    (announcements beacons u v content held).Step beacons.timing start now scene scene' := by
  have clear' : OnlySuch content (scene.node u).msgs → OnlySuch content (scene'.node u).msgs := by
    rw [others]
    exact id
  constructor
  · intro time next
    exact .inl (show (time, Timer.hello) ∈ (scene'.node u).timerQueue from others ▸ next)
  · rintro _ time (⟨ends, key, leaves, soon⟩ | ⟨coming, clear⟩)
    · rw [← others] at ends leaves
      exact .inl (.inl ⟨ends, key, leaves, soon⟩)
    · rw [first] at coming
      rcases coming with later | ⟨ends, _, after⟩
      · exact .inl (.inr ⟨taken ▸ later, clear' clear⟩)
      · exact .inr ⟨⟨clear' clear, taken ▸ after⟩, ending ends⟩
  · rintro _ ⟨clear, flying⟩
    refine ⟨clear' clear, ?_⟩
    rw [taken]
    intro entry member
    exact flying entry (first ▸ List.mem_cons_of_mem _ member)
  · rintro _ ⟨_, flying⟩ expiry _ holds
    exact only (flying (sent, pkt) (first ▸ List.mem_cons_self)) expiry holds

end

/-! ## What is held, stage by stage -/

/-- The node holds this about all its neighbors. -/
def Around (network : Network) (held : NsAddr → NsAddr → Int → Node → Prop) (now : Int)
    (v : NsAddr) (node : Node) : Prop :=
  ∀ u, network.graph.Adj v u → ∃ expiry, now ≤ expiry ∧ held v u expiry node

/-- Nodes that hold something about their neighbors send HELLOs with some content to them, and
who hears such a HELLO holds more about its sender, as long as it is valid. -/
structure Stage (beacons : Beacons network) (prior held : NsAddr → NsAddr → Int → Node → Prop)
    (content : NsAddr → NsAddr → Hello → Prop) : Prop where
  emits : ∀ (now : Int) (u v : NsAddr) (node : Node) (hello : Hello), u ∈ network.nodes →
    network.graph.Adj u v → NeighborView beacons now u node → Around network prior now u node →
    hello.helloMsgs = node.state.linkset.foldl
      (advertiseLink (beacons.config u) now node.state) [] → content u v hello
  unseen : ∀ (v u : NsAddr) (expiry : Int) (node node' : Node), SameView node node' →
    held v u expiry node → held v u expiry node'
  expires : ∀ (now : Int) (v u : NsAddr) (expiry : Int) (node node' : Node),
    NeighborView beacons now v node → Around network prior now v node →
    TimerEffect (beacons.config v) now node node' → now ≤ expiry → held v u expiry node →
    held v u expiry node'
  overhears : ∀ (now validity : Int) (v u w : NsAddr) (hello : Hello) (expiry : Int)
    (node node' : Node), w ≠ u → HelloEffect (beacons.config v) now validity v w hello node node' →
    held v u expiry node → held v u expiry node'
  hears : ∀ (now validity : Int) (v u : NsAddr) (hello : Hello) (expiry : Int) (node node' : Node),
    v ∈ network.nodes → network.graph.Adj u v →
    HelloEffect (beacons.config v) now validity v u hello node node' → content u v hello →
    expiry < now + validity → held v u expiry node'

namespace Stage

variable {prior held : NsAddr → NsAddr → Int → Node → Prop}
  {content : NsAddr → NsAddr → Hello → Prop} {msgs : List Msg} {node node' : Node} {expiry : Int}

theorem keeps_others (stage : Stage beacons prior held content) (different : w ≠ u)
    (hears : Hears beacons now v w msgs node node') (holds : held v u expiry node) :
    held v u expiry node' := by
  induction hears with
  | done same => exact stage.unseen v u expiry _ _ same holds
  | other noHello same later ih => exact ih (stage.unseen v u expiry _ _ same holds)
  | hello hello body effect later ih =>
      exact ih (stage.overhears now _ v u w hello expiry _ _ different effect holds)

theorem keeps_only (stage : Stage beacons prior held content) (adjacent : network.graph.Adj u v)
    (hears : Hears beacons now v u msgs node node') (only : OnlySuch (content u v) msgs)
    (holds : held v u expiry node) : held v u expiry node' ∨
      ∀ expiry', expiry' < now + beacons.validity → held v u expiry' node' := by
  induction hears generalizing expiry with
  | done same => exact .inl (stage.unseen v u expiry _ _ same holds)
  | other noHello same later ih =>
      exact ih (fun msg among => only msg (List.mem_cons_of_mem _ among))
        (stage.unseen v u expiry _ _ same holds)
  | hello hello body effect later ih =>
      have rest : OnlySuch (content u v) _ := fun msg among =>
        only msg (List.mem_cons_of_mem _ among)
      have valid := beacons.valid u (network.adj_mem v u adjacent.symm)
      refine .inr fun expiry' early => ?_
      have renewed := stage.hears now _ v u hello expiry' _ _ (network.adj_mem u v adjacent)
        adjacent effect (only _ List.mem_cons_self hello body) (by omega)
      rcases ih rest renewed with kept | all
      · exact kept
      · exact all expiry' early

theorem heard (stage : Stage beacons prior held content) (adjacent : network.graph.Adj u v)
    (hears : Hears beacons now v u msgs node node') (ends : EndsWith (content u v) msgs)
    (early : expiry < now + beacons.validity) : held v u expiry node' := by
  induction hears with
  | done same => exact absurd ends id
  | other noHello same later ih =>
      rcases ends with rest | ⟨⟨hello, body, _⟩, _⟩
      · exact ih rest
      · exact absurd body (noHello hello)
  | hello hello body effect later ih =>
      rcases ends with rest | ⟨⟨other, same, such⟩, only⟩
      · exact ih rest
      · rw [body] at same
        cases same
        have valid := beacons.valid u (network.adj_mem v u adjacent.symm)
        have renewed := stage.hears now _ v u hello expiry _ _ (network.adj_mem u v adjacent)
          adjacent effect such (by omega)
        rcases stage.keeps_only adjacent later only renewed with kept | all
        · exact kept
        · exact all expiry early

theorem own_timer (stage : Stage beacons prior held content) (faithful : scene.Faithful beacons now)
    (onSchedule : scene.OnSchedule beacons now)
    (settled : start < now → Around network prior now u (scene.node u))
    (adjacent : network.graph.Adj u v) {timer : Timer} {rest : List (Int × Timer)}
    (due : (scene.node u).timerQueue = (now, timer) :: rest)
    (fires : Fires beacons now u timer { scene.node u with timerQueue := rest } (scene'.node u))
    (others : scene'.node v = scene.node v)
    (sent : scene'.air u v = scene.air u v ++
      (packetsSent (scene.node u) (scene'.node u)).map fun pkt => (now, pkt)) :
    (announcements beacons u v (content u v) (held v u)).Step beacons.timing start now
      scene scene' := by
  have isNode := network.adj_mem v u adjacent.symm
  cases fires with
  | hello fired msg hello body told groups queued =>
      subst fired
      have silent : packetsSent (scene.node u) (scene'.node u) = [] := queued.silent
      refine announcements_hello due body queued others ?_ ?_
      · rw [sent, silent, List.map_nil, List.append_nil]
      · intro begun
        exact stage.emits now u v (scene.node u) hello isNode adjacent (faithful.view u isNode)
          (settled begun) groups
  | buffer fired buffer =>
      subst fired
      exact announcements_buffer (onSchedule.timers u isNode) due buffer others sent
  | other noHello noMsg grows =>
      have silent : packetsSent (scene.node u) (scene'.node u) = [] := grows.packetsSent
      refine announcements_aside ?_ ?_ grows.msgs ?_ ?_
      · intro time member
        rcases mem_rest due member with among | ⟨_, same⟩
        · exact grows.queue among
        · exact absurd same.symm noHello
      · intro time member
        rcases mem_rest due member with among | ⟨_, same⟩
        · exact grows.queue among
        · exact absurd same.symm noMsg
      · rw [sent, silent, List.map_nil, List.append_nil]
      · intro _ expiry _ holds
        exact others ▸ holds

/-- A timer of another agent, which may be the neighbor. -/
theorem other_timer (stage : Stage beacons prior held content)
    (faithful : scene.Faithful beacons now)
    (settled : start < now → ∀ w ∈ network.nodes, Around network prior now w (scene.node w))
    (isNode : w ∈ network.nodes) (different : u ≠ w)
    (effect : TimerEffect (beacons.config w) now (scene.node w) (scene'.node w))
    (others : ∀ x, x ≠ w → scene'.node x = scene.node x)
    (still : scene'.air u v = scene.air u v) :
    (announcements beacons u v (content u v) (held v u)).Step beacons.timing start now
      scene scene' := by
  have same := others u different
  refine announcements_aside ?_ ?_ ⟨[], ?_, List.forall_mem_nil _⟩ still ?_
  · intro time member
    exact same ▸ member
  · intro time member
    exact same ▸ member
  · rw [same, List.append_nil]
  · intro begun expiry ahead holds
    by_cases there : w = v
    · subst there
      exact stage.expires now w u expiry _ _ (faithful.view w isNode) (settled begun w isNode)
        effect ahead holds
    · exact others v (Ne.symm there) ▸ holds

/-- A packet arrives on another link. -/
theorem other_packet (stage : Stage beacons prior held content) {x y : NsAddr} {pkt : Pkt}
    (elsewhere : ¬ (x = u ∧ y = v))
    (hears : Hears beacons now y x pkt.msgs (scene.node y) (scene'.node y))
    (grows : OutputGrows (scene.node y) (scene'.node y))
    (others : ∀ w, w ≠ y → scene'.node w = scene.node w)
    (still : scene'.air u v = scene.air u v) :
    (announcements beacons u v (content u v) (held v u)).Step beacons.timing start now
      scene scene' := by
  have kept : ∀ expiry, held v u expiry (scene.node v) → held v u expiry (scene'.node v) := by
    intro expiry holds
    by_cases there : y = v
    · subst there
      have different : x ≠ u := fun same => elsewhere ⟨same, rfl⟩
      exact stage.keeps_others different hears holds
    · exact others v (Ne.symm there) ▸ holds
  have grows' : OutputGrows (scene.node u) (scene'.node u) := by
    by_cases there : y = u
    · exact there ▸ grows
    · rw [others u (Ne.symm there)]
      exact .refl _
  exact announcements_aside (fun time member => grows'.queue member)
    (fun time member => grows'.queue member) grows'.msgs still
    (fun _ expiry _ holds => kept expiry holds)

/-- What a step does to the announcements of an agent to a neighbor. -/
theorem step (stage : Stage beacons prior held content) (faithful : scene.Faithful beacons now)
    (onSchedule : scene.OnSchedule beacons now)
    (settled : start < now → ∀ w ∈ network.nodes, Around network prior now w (scene.node w))
    (adjacent : network.graph.Adj u v) (stepped : beacons.Step now scene scene') :
    (announcements beacons u v (content u v) (held v u)).Step beacons.timing start now
      scene scene' := by
  cases stepped with
  | timer w isNode timer rest due stepped others sent still =>
      obtain ⟨_, effect, fires⟩ := faithful.fires isNode due stepped
      by_cases here : w = u
      · subst here
        exact stage.own_timer faithful onSchedule (fun begun => settled begun w isNode) adjacent
          due fires (others v adjacent.ne') (sent v adjacent)
      · exact stage.other_timer faithful settled isNode (Ne.symm here) effect others
          (still u v (Ne.symm here))
  | deliver x y near sent pkt rest first fresh stepped others taken still =>
      obtain ⟨_, hears, grows⟩ := faithful.hears near first fresh stepped
      by_cases here : x = u ∧ y = v
      · obtain ⟨rfl, rfl⟩ := here
        refine announcements_heard first taken (others x near.ne) ?_ ?_
        · intro ends expiry early
          exact stage.heard near hears ends early
        · intro only expiry holds
          exact stage.keeps_only near hears only holds
      · exact stage.other_packet here hears grows others (still u v (by tauto))

end Stage

/-! ## Runs -/

/-- In all runs, after some time, the nodes hold something about their neighbors. -/
def Beacons.Settles (beacons : Beacons network) (begun : Int)
    (held : NsAddr → NsAddr → Int → Node → Prop) (start : Int) : Prop :=
  ∀ clock scene now, beacons.Reached begun clock scene → clock ≤ now →
    scene.OnSchedule beacons now → start < now →
    ∀ v ∈ network.nodes, Around network held now v (scene.node v)

/-- The time in which every agent sends a HELLO and it arrives. -/
def Beacons.round (beacons : Beacons network) : Int :=
  beacons.interval + beacons.slack + beacons.flight

theorem Beacons.round_nonneg (beacons : Beacons network) (isNode : v ∈ network.nodes) :
    0 ≤ beacons.round := by
  have helloIval := beacons.helloIval_le v isNode
  have jitter := (beacons.config v).jitter_le 0
  have slack := beacons.slack_nonneg
  have flight := beacons.flight_nonneg
  unfold Beacons.round
  omega

namespace Stage

variable {prior held : NsAddr → NsAddr → Int → Node → Prop}
  {content : NsAddr → NsAddr → Hello → Prop}

theorem maintained (stage : Stage beacons prior held content)
    (settles : beacons.Settles begun prior start) (early : begun ≤ start)
    (adjacent : network.graph.Adj u v) (reached : beacons.Reached begun clock scene) :
    (announcements beacons u v (content u v) (held v u)).Maintained beacons.timing start clock
      scene := by
  induction reached with
  | initial started maxTime begins =>
      have isNode := network.adj_mem v u adjacent.symm
      have started' := begins u isNode
      have interval := beacons.helloIval_le u isNode
      have next : (started u + (beacons.config u).helloIval, Timer.hello) ∈
          (initialNode (beacons.config u) (started u) (maxTime u)).timerQueue :=
        mem_insertTimer.mpr (.inr (mem_insertTimer.mpr (.inr (mem_insertTimer.mpr (.inl rfl)))))
      refine Announcements.maintained_initial next ?_ early
      simp only [Beacons.timing]
      omega
  | step before later onSchedule stepped ih =>
      refine ih.step later (announcements_punctual onSchedule adjacent)
        (stage.step (before.faithful.later later) onSchedule ?_ adjacent stepped)
      exact settles _ _ _ before later onSchedule

theorem settles (stage : Stage beacons prior held content)
    (settles : beacons.Settles begun prior start) (early : begun ≤ start) :
    beacons.Settles begun held (start + beacons.round) := by
  intro clock scene now reached later onSchedule late v isNode u adjacent
  have maintained := stage.maintained settles early adjacent.symm reached
  refine (maintained.holds (announcements_punctual onSchedule adjacent.symm) ?_).2
  simp only [Beacons.timing]
  simp only [Beacons.round] at late
  omega

end Stage

/-! ## Four rounds -/

theorem hearing (beacons : Beacons network) : Stage beacons (fun _ _ _ _ => True)
    (fun _ u => HearsFrom u) (fun _ _ _ => True) where
  emits _ _ _ _ _ _ _ _ _ _ := trivial
  unseen _ _ _ _ _ same holds := holds.seen same.linkset
  expires _ _ _ _ _ _ view _ effect ahead holds :=
    holds.timer view (fun _ alive => by omega) effect
  overhears _ _ _ _ _ _ _ _ _ different effect holds :=
    holds.overheard different effect
  hears _ _ _ _ _ _ _ _ _ _ effect _ early :=
    hearsFrom_of_hello effect early

theorem talking (beacons : Beacons network) : Stage beacons (fun _ u => HearsFrom u)
    (fun _ u => TalksWith u) (fun _ v hello => hello.Confirms v) where
  emits _ _ v _ _ isNode adjacent view prior groups := by
    obtain ⟨expiry, ahead, hears⟩ := prior v adjacent
    exact view.confirms isNode ahead hears groups
  unseen _ _ _ _ _ same holds := holds.seen same.linkset
  expires _ _ _ _ _ _ view _ effect ahead holds :=
    holds.timer view (fun _ alive => by omega) effect
  overhears _ _ _ _ _ _ _ _ _ different effect holds :=
    holds.overheard different effect
  hears _ _ _ _ _ _ _ _ _ _ effect confirms early :=
    talksWith_of_hello effect confirms early

theorem seeing (beacons : Beacons network) : Stage beacons (fun _ u => TalksWith u)
    (fun v u => SeesBehind network v u) (fun u v hello => hello.Confirms v ∧
      ∀ w, network.graph.Adj u w → hello.Reveals w) where
  emits _ _ v _ _ isNode adjacent view prior groups := by
    obtain ⟨expiry, ahead, link, member, addr, asym, _⟩ := prior v adjacent
    refine ⟨view.confirms isNode ahead ⟨link, member, addr, asym⟩ groups, ?_⟩
    intro w near
    obtain ⟨expiry, ahead, talks⟩ := prior w near
    exact view.reveals isNode ahead talks groups
  unseen _ _ _ _ _ same holds := by
    refine ⟨holds.talks.seen same.linkset, ?_⟩
    rw [same.nb2hopset]
    exact holds.behind
  expires _ _ _ _ _ _ view _ effect ahead holds := holds.timer view ahead effect
  overhears _ _ _ _ _ _ _ _ _ different effect holds :=
    holds.overheard different effect
  hears _ _ _ _ _ _ _ _ isNode _ effect such early :=
    seesBehind_of_hello isNode effect such.1 such.2 early

theorem selecting (beacons : Beacons network) : Stage beacons (fun v u => SeesBehind network v u)
    (fun v _ _ => MprsCurrent (beacons.config v)) (fun _ _ _ => True) where
  emits _ _ _ _ _ _ _ _ _ _ := trivial
  unseen _ _ _ _ _ same holds := holds.unseen same
  expires _ _ _ _ _ _ view prior effect _ holds := holds.timer view prior effect
  overhears _ _ _ _ _ _ _ _ _ _ effect _ := effect.mprs
  hears _ _ _ _ _ _ _ _ _ _ effect _ _ := effect.mprs

theorem mprsCurrent_alone {node : Node} (view : NeighborView beacons now v node)
    (alone : ∀ u, ¬ network.graph.Adj v u) : MprsCurrent (beacons.config v) node := by
  obtain ⟨mprset, chosen, cover⟩ :=
    mprComputation_spec (beacons.config v).isLocalAddress node.state view.linked.mains
  have none : mprset = ∅ := by
    refine Finset.eq_empty_of_forall_notMem fun mpr member => ?_
    obtain ⟨nb, among, _⟩ := cover.willing mpr member
    exact alone _ (view.adjacent_nb among)
  have same : node.state.mprset = ∅ :=
    Finset.eq_empty_of_forall_notMem fun mpr member => alone mpr (view.mprs mpr member)
  rw [MprsCurrent, same, ← none]
  exact chosen

/-- Where no timer and no packet is late and no HELLO is taken for a duplicate, four rounds after
all agents have been initialized every agent mirrors its neighborhood, and in every later scene it
does. -/
theorem Beacons.Reached.discovers (reached : beacons.Reached begun clock scene)
    (later : clock ≤ now) (onSchedule : scene.OnSchedule beacons now)
    (late : begun + 4 * beacons.round < now) :
    ∀ v ∈ network.nodes, MirrorsNeighborhood network now v (scene.node v).state := by
  intro v isNode
  have round := beacons.round_nonneg isNode
  have first : beacons.Settles begun (fun _ _ _ _ => True) begun :=
    fun _ _ now _ _ _ _ _ _ _ _ => ⟨now, le_refl now, trivial⟩
  have heard := (hearing beacons).settles first (le_refl begun)
  have talked := (talking beacons).settles heard (by omega)
  have seen := (seeing beacons).settles talked (by omega)
  have selected := (selecting beacons).settles seen (by omega)
  have view := (reached.faithful.later later).view v isNode
  have sees : SeesAll network now v (scene.node v) :=
    seen clock scene now reached later onSchedule (by omega) v isNode
  have current : MprsCurrent (beacons.config v) (scene.node v) := by
    by_cases alone : ∀ u, ¬ network.graph.Adj v u
    · exact mprsCurrent_alone view alone
    · obtain ⟨u, adjacent⟩ := not_forall_not.mp alone
      obtain ⟨_, _, current⟩ :=
        selected clock scene now reached later onSchedule (by omega) v isNode u adjacent
      exact current
  exact view.mirrors isNode sees current

/-! ## Two agents -/

section

variable [DecidableRel network.graph.Adj]

/-- No timer and no packet is late, and the step is one of the network. -/
def Scene.follow (beacons : Beacons network) (now : Int) (cue : Cue NsAddr) (scene : Scene) :
    Option Scene :=
  match cue with
  | .tick u =>
      match (scene.node u).timerQueue with
      | [] => none
      | (time, _) :: _ =>
          if time = now ∧ u ∈ network.nodes then
            (stepWith recvOlsr (beacons.config u) now .timer (scene.node u)).toOption.map
              fun node => {
                node := Function.update scene.node u node
                air := fun w v => if w = u ∧ network.graph.Adj u v then scene.air u v ++
                  (packetsSent (scene.node u) node).map fun pkt => (now, pkt)
                  else scene.air w v }
          else none
  | .hear v u =>
      match scene.air u v with
      | [] => none
      | (_, pkt) :: rest =>
          if network.graph.Adj u v ∧ eachMsg
              (recvMsg (beacons.config v) now ⟨beacons.index v, v⟩ u) undoubled pkt.msgs
              (scene.node v) = true then
            (stepWith recvOlsr (beacons.config v) now (.recv ⟨beacons.index v, v⟩ u pkt)
              (scene.node v)).toOption.map fun node => {
                node := Function.update scene.node v node
                air := fun w x => if w = u ∧ x = v then rest else scene.air w x }
          else none

theorem Scene.follow_step {cue : Cue NsAddr}
    (followed : scene.follow beacons now cue = some scene') : beacons.Step now scene scene' := by
  cases cue with
  | tick u =>
      simp only [follow] at followed
      split at followed
      · cases followed
      · next time timer rest due =>
        split at followed
        · next met =>
          obtain ⟨rfl, isNode⟩ := met
          obtain ⟨node, ran, rfl⟩ := Option.map_eq_some_iff.mp followed
          refine .timer u isNode timer rest due ?_ ?_ ?_ ?_
          · simpa only [Function.update_self] using toOption_some ran
          · intro w other
            exact Function.update_of_ne other node scene.node
          · intro v adjacent
            simp only [Function.update_self, adjacent, and_self, if_true]
          · intro w v other
            exact if_neg fun same => other same.1
        · cases followed
  | hear v u =>
      simp only [follow] at followed
      split at followed
      · cases followed
      · next sent pkt rest first =>
        split at followed
        · next met =>
          obtain ⟨adjacent, fresh⟩ := met
          obtain ⟨node, ran, rfl⟩ := Option.map_eq_some_iff.mp followed
          refine .deliver u v adjacent sent pkt rest first fresh ?_ ?_ ?_ ?_
          · simpa only [Function.update_self] using toOption_some ran
          · intro w other
            exact Function.update_of_ne other node scene.node
          · exact if_pos ⟨rfl, rfl⟩
          · intro w x other
            exact if_neg (by tauto)
        · cases followed

/-- No timer and no packet is late at any node. -/
def Scene.punctual (beacons : Beacons network) (now : Int) (scene : Scene) : Bool :=
  decide (∀ v ∈ network.nodes, (∀ entry ∈ (scene.node v).timerQueue, now ≤ entry.1) ∧
    ∀ u ∈ network.nodes, ∀ entry ∈ scene.air u v, now ≤ entry.1 + beacons.flight)

omit [DecidableRel network.graph.Adj] in
theorem Scene.onSchedule_of_punctual (punctual : scene.punctual beacons now = true) :
    scene.OnSchedule beacons now := by
  have onSchedule := of_decide_eq_true punctual
  constructor
  · intro v isNode
    exact (onSchedule v isNode).1
  · intro u v adjacent
    exact (onSchedule v (network.adj_mem u v adjacent)).2 u (network.adj_mem v u adjacent.symm)

def Scene.play (beacons : Beacons network) :
    List (Int × Cue NsAddr) → Int × Scene → Option (Int × Scene)
  | [], current => some current
  | (now, cue) :: rest, current =>
      if current.1 ≤ now ∧ current.2.punctual beacons now = true then
        (current.2.follow beacons now cue).bind fun scene => play beacons rest (now, scene)
      else none

theorem Scene.play_reached {cues : List (Int × Cue NsAddr)} {current ended : Int × Scene}
    (before : beacons.Reached begun current.1 current.2)
    (played : Scene.play beacons cues current = some ended) :
    beacons.Reached begun ended.1 ended.2 := by
  induction cues generalizing current with
  | nil =>
      cases played
      exact before
  | cons first rest ih =>
      obtain ⟨now, cue⟩ := first
      simp only [play] at played
      split at played
      · next met =>
        obtain ⟨scene, followed, played⟩ := Option.bind_eq_some_iff.mp played
        refine ih ?_ played
        exact before.step met.1 (onSchedule_of_punctual met.2) (follow_step followed)
      · cases played

end

def pairNetwork : Network where
  nodes := {1, 2}
  graph := {
    Adj u v := (u = 1 ∧ v = 2) ∨ (u = 2 ∧ v = 1)
    symm := ⟨fun _ _ adjacent => adjacent.symm.imp And.symm And.symm⟩
    loopless := ⟨by
      intro u adjacent
      rcases adjacent with ⟨rfl, same⟩ | ⟨rfl, same⟩ <;> cases same⟩ }
  adj_mem u v adjacent := by
    rcases adjacent with ⟨_, rfl⟩ | ⟨_, rfl⟩ <;> decide
  connected u left v right := by
    simp only [Finset.mem_insert, Finset.mem_singleton] at left right
    rcases left with rfl | rfl <;> rcases right with rfl | rfl
    · exact .refl 1
    · exact SimpleGraph.Adj.reachable (.inl ⟨rfl, rfl⟩)
    · exact SimpleGraph.Adj.reachable (.inr ⟨rfl, rfl⟩)
    · exact .refl 2

instance : DecidableRel pairNetwork.graph.Adj := fun u v =>
  inferInstanceAs (Decidable ((u = 1 ∧ v = 2) ∨ (u = 2 ∧ v = 1)))

def pairBeacons : Beacons pairNetwork where
  config addr := lineConfig (lineFanet.owner addr)
  index _ := 0
  main := by decide
  oneIface := by decide
  apart := by decide
  interval := 5 * Time.second
  slack := 0
  flight := 0
  validity := 20 * Time.second
  aboveMac := by decide
  withoutMid := by decide
  willing := by decide
  helloIval_le := by decide
  jitter_le _ _ _ := le_refl 0
  slack_nonneg := le_refl 0
  flight_nonneg := le_refl 0
  valid := by decide
  remembered := by decide

/-- The HELLO intervals of both agents, one after the other. -/
def pairRound (now : Int) (ticks : Nat) : List (Int × Cue NsAddr) :=
  List.replicate ticks (now, .tick 1) ++ [(now, .hear 2 1)] ++
    List.replicate ticks (now, .tick 2) ++ [(now, .hear 1 2)]

def pairCues : List (Int × Cue NsAddr) :=
  pairRound (5 * Time.second) 4 ++ [(5 * Time.second + Time.microsecond, .tick 2)] ++
    pairRound (10 * Time.second) 2 ++ pairRound (15 * Time.second) 2 ++
    [(17 * Time.second, .tick 1), (17 * Time.second, .tick 2)] ++ pairRound (20 * Time.second) 2

theorem pair_played : ∃ clock scene, pairBeacons.Reached 0 clock scene ∧
    clock ≤ 21 * Time.second ∧ scene.OnSchedule pairBeacons (21 * Time.second) := by
  have computed : (Scene.play pairBeacons pairCues (0, {
      node := fun v => initialNode (pairBeacons.config v) 0 0
      air := fun _ _ => [] })).any (fun ended =>
        decide (ended.1 ≤ 21 * Time.second) &&
          ended.2.punctual pairBeacons (21 * Time.second)) = true := by
    decide +kernel
  obtain ⟨⟨clock, scene⟩, played, checked⟩ := (Option.any_eq_true _ _).mp computed
  obtain ⟨later, punctual⟩ := Bool.and_eq_true_iff.mp checked
  have started : pairBeacons.Reached 0 0 _ :=
    .initial (fun _ => 0) (fun _ => 0) fun _ _ => le_refl 0
  exact ⟨clock, scene, Scene.play_reached started played, of_decide_eq_true later,
    Scene.onSchedule_of_punctual punctual⟩

theorem pair_discovers : ∃ clock scene, pairBeacons.Reached 0 clock scene ∧
    ∀ v ∈ pairNetwork.nodes,
      MirrorsNeighborhood pairNetwork (21 * Time.second) v (scene.node v).state := by
  obtain ⟨clock, scene, reached, later, onSchedule⟩ := pair_played
  exact ⟨clock, scene, reached, reached.discovers later onSchedule (by decide)⟩

end SyncFanet.Olsr
