import Mathlib.Data.List.Basic
import Mathlib.Data.Option.Basic
import SyncFanet.Ping.PingTestApp

/-!
# Runs of PingTestApp

The application with the node it runs on and a record of what was sent and answered.
A reply that is still on its way when the node goes down may arrive after a restart.
-/

set_option autoImplicit false

namespace SyncFanet.Ping

/-- The requests sent between a start and the next one, and the replies to them in the
order in which they were handled, each with its time. -/
structure StartRecord where
  pid : Int
  sent : List (Nat × Int)
  answers : List (Nat × Int)
  deriving DecidableEq

/-- `unique` is the next number that the simulation gives out. Before the first start
`last` is a record without requests. -/
structure PingRun where
  app : PingTestApp
  up : Bool
  unique : Nat
  earlier : List StartRecord
  last : StartRecord
  deriving DecidableEq

/-- `others` is how many unique numbers other modules took meanwhile. -/
inductive PingEvent where
  | timer (srcAddr : L3Address) (resolved : List L3Address) (sendInterval sleepDuration : Int)
  | reply (now : Int) (msg : PingPayload)
  | start (now : Int) (others : Nat)
  | stop
  deriving DecidableEq

namespace PingRun

/-- A request is answered at most once, and only after it was sent. The unique numbers of
the originators are not negative. -/
def Possible (run : PingRun) (msg : PingPayload) : Prop :=
  0 ≤ msg.originatorId ∧
    ∀ record ∈ run.earlier ++ [run.last], record.pid = msg.originatorId →
      msg.seqNo ∈ record.sent.map Prod.fst ∧ msg.seqNo ∉ record.answers.map Prod.fst

instance (run : PingRun) (msg : PingPayload) : Decidable (run.Possible msg) :=
  inferInstanceAs (Decidable (_ ∧ ∀ record ∈ run.earlier ++ [run.last], _ → _))

def noRequests : StartRecord where
  pid := -1
  sent := []
  answers := []

/-- `startSendingPingRequests` on the node, if the application is enabled. -/
def startApp (params : PingParams) (now : Int) (others : Nat) (run : PingRun) :
    Option PingRun :=
  if run.app.isEnabled params then
    match run.app.startSendingPingRequests params now (run.unique + others : Nat) with
    | .error _ => none
    | .ok app =>
        some { run with
          app := app
          unique := run.unique + others + 1
          earlier := run.earlier ++ [run.last]
          last := { pid := (run.unique + others : Nat), sent := [], answers := [] } }
  else some run

/-- `initialize`. -/
def init (params : PingParams) (up : Bool) (others : Nat) : Option PingRun :=
  let run : PingRun := {
    app := .initialized
    up := up
    unique := 0
    earlier := []
    last := noRequests }
  if up then run.startApp params 0 others else some run

/-- One event. The run ends with an event that cannot happen or that fails. -/
def step (params : PingParams) (run : PingRun) : PingEvent → Option PingRun
  | .timer srcAddr resolved sendInterval sleepDuration =>
      match run.app.timer with
      | none => none
      | some now =>
          if run.up then
            match run.app.handleSelfMessage params now srcAddr resolved sendInterval
              sleepDuration with
            | .error _ => none
            | .ok (app, none) => some { run with app := app }
            | .ok (app, some msg) =>
                some { run with
                  app := app
                  last := { run.last with sent := run.last.sent ++ [(msg.seqNo, now)] } }
          else none
  | .reply now msg =>
      if run.Possible msg then
        if run.up then
          some { run with
            app := run.app.processPingResponse now msg
            last :=
              if msg.originatorId = run.app.pid then
                { run.last with answers := run.last.answers ++ [(msg.seqNo, now)] }
              else run.last }
        else some run
      else none
  | .start now others =>
      if run.up then none
      else { run with up := true }.startApp params now others
  | .stop =>
      if run.up then some { run with app := run.app.stopSendingPingRequests, up := false }
      else none

/-- The states of the runs of the application. -/
inductive Reached (params : PingParams) : PingRun → Prop where
  | init {run : PingRun} {up : Bool} {others : Nat} (started : init params up others = some run) :
      Reached params run
  | step {run run' : PingRun} {event : PingEvent} (before : Reached params run)
      (stepped : run.step params event = some run') : Reached params run'

def simulate (params : PingParams) (up : Bool) (others : Nat) (events : List PingEvent) :
    Option PingRun :=
  (init params up others).bind fun run => events.foldlM (step params) run

theorem simulate_reached {params : PingParams} {up : Bool} {others : Nat}
    {events : List PingEvent} {last : PingRun}
    (simulated : simulate params up others events = some last) : Reached params last := by
  have steps : ∀ (events : List PingEvent) (run : PingRun), Reached params run →
      events.foldlM (step params) run = some last → Reached params last := by
    intro events
    induction events with
    | nil =>
        intro run reached ended
        cases ended
        exact reached
    | cons event events ih =>
        intro run reached ended
        rw [List.foldlM_cons] at ended
        obtain ⟨next, stepped, rest⟩ := Option.bind_eq_some_iff.mp ended
        exact ih next (reached.step stepped) rest
  obtain ⟨first, started, rest⟩ := Option.bind_eq_some_iff.mp simulated
  exact steps events first (.init started) rest

end PingRun

/-! ## What the statistics should say -/

namespace StartRecord

def answered (record : StartRecord) : List Nat := record.answers.map Prod.fst

/-- The requests that got no reply. -/
def unanswered (record : StartRecord) : List Nat :=
  (record.sent.map Prod.fst).filter fun seqNo => seqNo ∉ record.answered

/-- The requests that got no reply although a later one did. -/
def gaps (record : StartRecord) : List Nat :=
  record.unanswered.filter fun seqNo => record.answered.any fun later => seqNo < later

/-- The requests after the last one that got a reply. -/
def trailing (record : StartRecord) : List Nat :=
  record.unanswered.filter fun seqNo => record.answered.all fun earlier => earlier < seqNo

/-- From the sending of each answered request to its reply. -/
def delays (record : StartRecord) : List Int :=
  record.answers.map fun answer => answer.2 - (record.sent.lookup answer.1).getD 0

end StartRecord

/-- How many of the numbers come after a larger one, those of `before` included. -/
def lateAfter (before : List Nat) : List Nat → Nat
  | [] => 0
  | seqNo :: rest =>
      (if before.any fun earlier => seqNo < earlier then 1 else 0) +
        lateAfter (before ++ [seqNo]) rest

/-- The replies that come after a reply with a larger sequence number. -/
def StartRecord.late (record : StartRecord) : Nat := lateAfter [] record.answered

def PingRun.records (run : PingRun) : List StartRecord := run.earlier ++ [run.last]

end SyncFanet.Ping
