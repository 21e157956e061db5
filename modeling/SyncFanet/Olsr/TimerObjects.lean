import SyncFanet.Olsr.Lifecycle

/-!
# Timer objects of an agent

The timer queue of `OLSR` and `OLSR_ETX` as a queue of objects, with the message that
stands for the next of them and the objects that were freed. The functions that send
and process messages appear only through the timers that they create.
-/

set_option autoImplicit false

namespace SyncFanet.Olsr

/-! ## Objects -/

inductive AgentClass where
  | olsr
  | olsrEtx
  deriving DecidableEq

/-- The timers of messages and tuples are numbered in the order of their creation. -/
inductive TimerObject where
  | hello
  | tc
  | mid
  | linkQuality
  | oneShot (serial : Nat)
  deriving DecidableEq

/-- The timers that an agent keeps pointers to. -/
def AgentClass.periodic : AgentClass → List TimerObject
  | .olsr => [.hello, .tc, .mid]
  | .olsrEtx => [.hello, .tc, .mid, .linkQuality]

inductive TimerMessage where
  | idle
  | scheduled (arrivalTime : Int)
  | deleted
  deriving DecidableEq

/-- Reading the first timer of an empty queue, the two misuses of a freed object, an
error that ends the simulation, and a loop that goes on after the given expiries. -/
inductive TimerFault where
  | emptyQueue
  | doubleFree (timer : TimerObject)
  | freedMessage
  | stopped (error : String)
  | unfinished
  deriving DecidableEq

structure AgentTimers where
  timerQueue : List (Int × TimerObject) := []
  timerMessage : TimerMessage := .idle
  isOperational : Bool := true
  created : Nat := 0
  freed : List TimerObject := []
  deriving DecidableEq

namespace AgentTimers

def objects (timers : AgentTimers) : List TimerObject := timers.timerQueue.map Prod.snd

def insertObject (key : Int) (timer : TimerObject) :
    List (Int × TimerObject) → List (Int × TimerObject)
  | [] => [(key, timer)]
  | head :: tail =>
      if head.1 ≤ key then head :: insertObject key timer tail
      else (key, timer) :: head :: tail

def insert (timers : AgentTimers) (key : Int) (timer : TimerObject) : AgentTimers :=
  { timers with timerQueue := insertObject key timer timers.timerQueue }

/-- `removeQueueTimer`. -/
def removeQueueTimer (timers : AgentTimers) (timer : TimerObject) : AgentTimers :=
  { timers with timerQueue := timers.timerQueue.eraseP fun entry => entry.2 = timer }

/-- `resched`. -/
def resched (timers : AgentTimers) (key : Int) (timer : TimerObject) : AgentTimers :=
  (timers.removeQueueTimer timer).insert key timer

/-- A new timer of a message or a tuple. -/
def createOne (timers : AgentTimers) (key : Int) : AgentTimers :=
  { timers.insert key (.oneShot timers.created) with created := timers.created + 1 }

def create (timers : AgentTimers) (keys : List Int) : AgentTimers :=
  keys.foldl createOne timers

/-- `delete timer`: its destructor calls `removeTimer`. -/
def free (timer : TimerObject) (timers : AgentTimers) : Except TimerFault AgentTimers :=
  if timer ∈ timers.freed then .error (.doubleFree timer)
  else .ok { timers.removeQueueTimer timer with freed := timer :: timers.freed }

/-! ## Events -/

/-- `scheduleNextEvent`. -/
def scheduleNextEvent (now : Int) (timers : AgentTimers) : Except TimerFault AgentTimers :=
  match timers.timerQueue with
  | [] => .error .emptyQueue
  | (first, _) :: _ =>
      match timers.timerMessage with
      | .deleted => .error .freedMessage
      | .scheduled arrivalTime =>
          if first < arrivalTime then
            if first < now then .error (.stopped "cannot schedule to the past")
            else .ok { timers with timerMessage := .scheduled first }
          else if arrivalTime < first then .error (.stopped "OLSR timer Queue problem")
          else .ok timers
      | .idle =>
          if first < now then .error (.stopped "cannot schedule to the past")
          else .ok { timers with timerMessage := .scheduled first }

/-- What the functions called by one `expire` do: the times of the timers that they
create, the jitter, and the time at which a timer of a message or a tuple waits again
unless it is deleted. -/
structure Expiry where
  created : List Int := []
  jitter : Int := 0
  again : Option Int := none

/-- `expire`. -/
def expire (config : Config) (now : Int) (expiry : Expiry) (timer : TimerObject)
    (timers : AgentTimers) : Except TimerFault AgentTimers :=
  let timers := timers.create expiry.created
  match timer with
  | .hello => .ok (timers.insert (now + config.helloIval - expiry.jitter) .hello)
  | .tc => .ok (timers.insert (now + config.tcIval - expiry.jitter) .tc)
  | .mid =>
      if config.isInMacLayer then .ok timers
      else .ok (timers.insert (now + config.midIval - expiry.jitter) .mid)
  | .linkQuality => .ok (timers.insert (now + config.helloIval) .linkQuality)
  | .oneShot serial =>
      match expiry.again with
      | some key => .ok (timers.insert key (.oneShot serial))
      | none => timers.free (.oneShot serial)

/-- The loop of `handleMessage` over the timers that are due. -/
def fireTimers (config : Config) (now : Int) :
    List Expiry → AgentTimers → Except TimerFault AgentTimers
  | expiries, timers =>
      match timers.timerQueue with
      | [] => .error .emptyQueue
      | (first, timer) :: rest =>
          if first ≤ now then
            match expiries with
            | [] => .error .unfinished
            | expiry :: expiries =>
                (expire config now expiry timer { timers with timerQueue := rest }).bind
                  (fireTimers config now expiries)
          else .ok timers

/-- The loop that empties the queue when the node goes down, which knows three
timers. -/
def releaseQueue : Nat → AgentTimers → Except TimerFault AgentTimers
  | 0, timers => .ok timers
  | rounds + 1, timers =>
      match timers.timerQueue with
      | [] => .ok timers
      | (_, timer) :: rest =>
          let timers := { timers with timerQueue := rest }
          if timer = .hello ∨ timer = .tc ∨ timer = .mid then releaseQueue rounds timers
          else (free timer timers).bind (releaseQueue rounds)

/-- `handleNodeShutdown` and `handleNodeCrash`. -/
def handleNodeShutdown (timers : AgentTimers) : Except TimerFault AgentTimers :=
  if timers.timerMessage = .deleted then .error .freedMessage
  else releaseQueue timers.timerQueue.length { timers with timerMessage := .idle }

/-- `handleNodeStart`. -/
def handleNodeStart (config : Config) (now : Int) (timers : AgentTimers) :
    Except TimerFault AgentTimers :=
  scheduleNextEvent now
    (((timers.resched (now + config.helloIval) .hello).resched
      (now + config.helloIval) .tc).resched
      (now + config.helloIval) .mid)

/-- `initialize`. -/
def initialTimers (agent : AgentClass) (config : Config) (start : Int) :
    Except TimerFault AgentTimers :=
  let timers := ((({} : AgentTimers).resched (start + config.helloIval) .hello).resched
    (start + config.helloIval) .tc).resched (start + config.helloIval) .mid
  match agent with
  | .olsr => scheduleNextEvent start timers
  | .olsrEtx => scheduleNextEvent start (timers.resched start .linkQuality)

/-- The loop of the destructors, with the pointers that are not null yet. -/
def destroyQueue : Nat → List TimerObject → AgentTimers →
    Except TimerFault (List TimerObject × AgentTimers)
  | 0, pointers, timers => .ok (pointers, timers)
  | rounds + 1, pointers, timers =>
      match timers.timerQueue with
      | [] => .ok (pointers, timers)
      | (_, timer) :: rest =>
          (free timer { timers with timerQueue := rest }).bind
            (destroyQueue rounds (pointers.erase timer))

/-- `~OLSR` and `~OLSR_ETX`. -/
def destroy (agent : AgentClass) (timers : AgentTimers) : Except TimerFault AgentTimers :=
  if timers.timerMessage = .deleted then .error .freedMessage
  else
    (destroyQueue timers.timerQueue.length agent.periodic
      { timers with timerMessage := .deleted }).bind fun (pointers, timers) =>
        pointers.foldlM (fun timers timer => free timer timers) timers

end AgentTimers

/-- What happens to an agent: its timer message arrives, or a packet that makes it
create timers, or the node's lifecycle and its interfaces change. -/
inductive TimerEvent where
  | timerMessage (expiries : List AgentTimers.Expiry)
  | packet (created : List Int)
  | start
  | shutdown
  | crash
  | changeInterface

namespace AgentTimers

/-- `handleMessage`, `handleOperationStage` and `processChangeInterface`. Nothing is
done at time 0 about the last two. -/
def step (config : Config) (now : Int) (event : TimerEvent) (timers : AgentTimers) :
    Except TimerFault AgentTimers :=
  match event with
  | .timerMessage expiries =>
      if timers.isOperational then
        (fireTimers config now expiries { timers with timerMessage := .idle }).bind
          (scheduleNextEvent now)
      else .ok { timers with timerMessage := .deleted }
  | .packet created =>
      if timers.isOperational then scheduleNextEvent now (timers.create created)
      else .ok timers
  | .start =>
      if now = 0 then .ok timers
      else handleNodeStart config now { timers with isOperational := true }
  | .shutdown | .crash =>
      if now = 0 then .ok timers
      else (handleNodeShutdown timers).bind fun timers =>
        .ok { timers with isOperational := false }
  | .changeInterface =>
      if 0 < now then (handleNodeShutdown timers).bind (handleNodeStart config now)
      else .ok timers

/-- What the simulator lets happen next: time does not go back, and the timer message
arrives at its time. -/
structure Enabled (clock now : Int) (event : TimerEvent) (timers : AgentTimers) : Prop where
  later : clock ≤ now
  onTime : ∀ arrivalTime, timers.timerMessage = .scheduled arrivalTime → now ≤ arrivalTime
  due : ∀ expiries, event = .timerMessage expiries → timers.timerMessage = .scheduled now

/-- The states of the runs whose steps met the condition, with the time of the last
step. -/
inductive Reached (agent : AgentClass) (config : Config)
    (condition : TimerEvent → AgentTimers → Prop) : Int → AgentTimers → Prop where
  | initial {start : Int} {timers : AgentTimers}
      (initialized : initialTimers agent config start = .ok timers) :
      Reached agent config condition start timers
  | step {clock now : Int} {event : TimerEvent} {timers timers' : AgentTimers}
      (before : Reached agent config condition clock timers)
      (enabled : Enabled clock now event timers) (met : condition event timers)
      (stepped : AgentTimers.step config now event timers = .ok timers') :
      Reached agent config condition now timers'

/-! ## Simulation -/

def isEnabled (clock now : Int) (event : TimerEvent) (timers : AgentTimers) : Bool :=
  decide (clock ≤ now) &&
    (match timers.timerMessage with
    | .scheduled arrivalTime => decide (now ≤ arrivalTime)
    | _ => true) &&
    (match event with
    | .timerMessage _ => decide (timers.timerMessage = .scheduled now)
    | _ => true)

theorem enabled_of_isEnabled {clock now : Int} {event : TimerEvent} {timers : AgentTimers}
    (checked : isEnabled clock now event timers = true) : Enabled clock now event timers := by
  simp only [isEnabled, Bool.and_eq_true, decide_eq_true_eq] at checked
  obtain ⟨⟨later, onTime⟩, due⟩ := checked
  refine ⟨later, ?_, ?_⟩
  · intro arrivalTime scheduled
    simpa [scheduled] using onTime
  · rintro expiries rfl
    simpa using due

def runEvents (config : Config) :
    List (Int × TimerEvent) → Int × AgentTimers → Option (Int × AgentTimers)
  | [], current => some current
  | (now, event) :: rest, (clock, timers) =>
      if isEnabled clock now event timers then
        match step config now event timers with
        | .ok timers => runEvents config rest (now, timers)
        | .error _ => none
      else none

theorem runEvents_reached {agent : AgentClass} {config : Config}
    {condition : TimerEvent → AgentTimers → Prop} {events : List (Int × TimerEvent)}
    {current final : Int × AgentTimers}
    (before : Reached agent config condition current.1 current.2)
    (met : ∀ entry ∈ events, ∀ timers, condition entry.2 timers)
    (ran : runEvents config events current = some final) :
    Reached agent config condition final.1 final.2 := by
  induction events generalizing current with
  | nil => exact Option.some.inj ran ▸ before
  | cons first rest ih =>
      obtain ⟨now, event⟩ := first
      unfold runEvents at ran
      split at ran
      · next checked =>
        split at ran
        · next timers stepped =>
          have after := before.step (enabled_of_isEnabled checked) (met (now, event) (by simp) _) stepped
          exact ih after (fun entry member => met entry (List.mem_cons_of_mem _ member)) ran
        · cases ran
      · cases ran

end AgentTimers

end SyncFanet.Olsr
