import Mathlib.Data.List.Nodup
import Mathlib.Data.List.Pairwise
import SyncFanet.Dsr.RouteShortening

/-!
# The hold-off of gratuitous replies

`gratRrep` holds the pairs for which a gratuitous reply was sent, each until its hold-off has
passed, and one timer for the pair at the front. `grat_rrep_tbl_add` puts a new entry before
the first one that expires later, and drops it when none does and the last one expires at the
same time.
-/

set_option autoImplicit false

namespace SyncFanet.Dsr

/-! ## The table -/

/-- `timeval_diff`, of times in microseconds. -/
def timevalDiff (tv1 tv2 : Int) : Int :=
  tv1 - tv2

/-- `struct grat_rrep_entry`, which expires at a time in microseconds. -/
structure GratRrepEntry where
  src : InAddr
  prevHop : InAddr
  expires : Int
  deriving DecidableEq

namespace GratRrepEntry

def pair (entry : GratRrepEntry) : InAddr × InAddr := (entry.src, entry.prevHop)

end GratRrepEntry

/-- `gratRrep` with the time for which `grat_rrep_tbl_timer` is scheduled. -/
structure GratRrepTbl where
  gratRrep : List GratRrepEntry
  timer : Option Int

/-- The loop of `grat_rrep_tbl_add`. -/
def gratInsertBefore (e : GratRrepEntry) : List GratRrepEntry → List GratRrepEntry
  | [] => []
  | it :: rest =>
      if timevalDiff it.expires e.expires > 0 then e :: it :: rest
      else it :: gratInsertBefore e rest

/-- The three ways in which `grat_rrep_tbl_add` enters an element. -/
def gratInsert (e : GratRrepEntry) : List GratRrepEntry → List GratRrepEntry
  | [] => [e]
  | front :: rest =>
      let back := (front :: rest).getLast (List.cons_ne_nil front rest)
      if timevalDiff back.expires e.expires < 0 then front :: rest ++ [e]
      else if timevalDiff front.expires e.expires > 0 then e :: front :: rest
      else gratInsertBefore e (front :: rest)

namespace GratRrepTbl

/-- The pairs, as `dsr_srt_opt_recv` reads them. -/
def pairs (tbl : GratRrepTbl) : List (InAddr × InAddr) :=
  tbl.gratRrep.map GratRrepEntry.pair

/-- `set_timer` for the front element, at once when its time has passed. -/
def setTimer (now : Int) (tbl : GratRrepTbl) : Except Fault GratRrepTbl :=
  match tbl.gratRrep with
  | [] => .error .outOfBounds
  | e :: _ => .ok { tbl with timer := some (max now e.expires) }

/-- The loop over `gratRrep` that `grat_rrep_tbl_add` and `grat_rrep_tbl_find` start with. -/
def holds (src prevHop : InAddr) (tbl : GratRrepTbl) : Bool :=
  tbl.gratRrep.any fun e => e.src = src ∧ e.prevHop = prevHop

/-- `grat_rrep_tbl_find`. -/
def find (src prevHop : InAddr) (tbl : GratRrepTbl) : Int :=
  if tbl.holds src prevHop then 1 else 0

/-- `grat_rrep_tbl_add`, with `GratReplyHoldOff` in microseconds. -/
def add (holdOff : Nat) (now : Int) (src prevHop : InAddr) (tbl : GratRrepTbl) :
    Except Fault (Int × GratRrepTbl) :=
  if tbl.holds src prevHop then .ok (0, tbl)
  else do
    let e : GratRrepEntry := { src := src, prevHop := prevHop, expires := now + holdOff }
    let tbl ← setTimer now { gratRrep := gratInsert e tbl.gratRrep, timer := none }
    return (1, tbl)

/-- `grat_rrep_tbl_timeout`, when the timer has fired. -/
def timeout (now : Int) (tbl : GratRrepTbl) : Except Fault GratRrepTbl :=
  match tbl.gratRrep with
  | [] => .error .outOfBounds
  | _ :: rest =>
      if rest.isEmpty then .ok { gratRrep := rest, timer := none }
      else setTimer now { gratRrep := rest, timer := none }

end GratRrepTbl

/-! ## Runs -/

/-- What happens to the table, or that time passes. -/
inductive HoldOffEvent where
  | wait (time : Int)
  | add (src prevHop : InAddr)
  | timeout

/-- The table at a time, with the pairs for which `grat_rrep_tbl_add` has returned 1 and when
it did. -/
structure HoldOffState where
  now : Int
  tbl : GratRrepTbl
  added : List (Int × InAddr × InAddr)

namespace HoldOffState

def start (now : Int) : HoldOffState where
  now := now
  tbl := { gratRrep := [], timer := none }
  added := []

def after (holdOff : Nat) (s : HoldOffState) : HoldOffEvent → Except Fault HoldOffState
  | .wait time => .ok { s with now := time }
  | .add src prevHop => do
      let (answer, tbl) ← s.tbl.add holdOff s.now src prevHop
      let added := if answer = 1 then (s.now, src, prevHop) :: s.added else s.added
      return { s with tbl := tbl, added := added }
  | .timeout => do
      let tbl ← s.tbl.timeout s.now
      return { s with tbl := tbl }

end HoldOffState

namespace HoldOffEvent

/-- Times do not decrease and do not pass the timer, which fires at its time. -/
def Possible (s : HoldOffState) : HoldOffEvent → Prop
  | .wait time => s.now ≤ time ∧ ∀ expires, s.tbl.timer = some expires → time ≤ expires
  | .add _ _ => True
  | .timeout => s.tbl.timer = some s.now

/-- A pair that the table does not hold is added at the instant at which its last entry was. -/
def Coincides (holdOff : Nat) (s : HoldOffState) : HoldOffEvent → Prop
  | .add src prevHop =>
      0 < holdOff ∧ s.tbl.find src prevHop = 0 ∧
        s.tbl.gratRrep.getLast?.map GratRrepEntry.expires = some (s.now + holdOff)
  | _ => False

end HoldOffEvent

/-- The state after a sequence of events, with each event and the state before it, the last one
first. -/
inductive HoldOffRun (holdOff : Nat) : List (HoldOffEvent × HoldOffState) → HoldOffState → Prop
  where
  | start (now : Int) : HoldOffRun holdOff [] (.start now)
  | next {past : List (HoldOffEvent × HoldOffState)} {s s' : HoldOffState} {event : HoldOffEvent}
      (before : HoldOffRun holdOff past s) (possible : event.Possible s)
      (ran : s.after holdOff event = .ok s') : HoldOffRun holdOff ((event, s) :: past) s'

/-- What the table is for: a pair is found from when it is added until its hold-off has
elapsed. -/
structure HeldOff (holdOff : Nat) (s : HoldOffState) : Prop where
  sorted : s.tbl.gratRrep.Pairwise fun e later => e.expires ≤ later.expires
  distinct : s.tbl.pairs.Nodup
  timer : s.tbl.timer = s.tbl.gratRrep.head?.map GratRrepEntry.expires
  found : ∀ time src prevHop, (time, src, prevHop) ∈ s.added → s.now < time + holdOff →
    s.tbl.find src prevHop = 1

/-! ## What the functions do -/

@[simp] theorem timevalDiff_neg {tv1 tv2 : Int} : timevalDiff tv1 tv2 < 0 ↔ tv1 < tv2 := by
  simp only [timevalDiff]
  omega

@[simp] theorem timevalDiff_pos {tv1 tv2 : Int} : timevalDiff tv1 tv2 > 0 ↔ tv2 < tv1 := by
  simp only [timevalDiff]
  omega

theorem gratInsertBefore_eq {e : GratRrepEntry} {entries : List GratRrepEntry}
    (early : ∀ it ∈ entries, it.expires ≤ e.expires) : gratInsertBefore e entries = entries := by
  induction entries with
  | nil => rfl
  | cons it rest ih =>
      have notLater : ¬ e.expires < it.expires := Int.not_lt.mpr (early it List.mem_cons_self)
      have unchanged := ih fun other listed => early other (List.mem_cons_of_mem it listed)
      simp only [gratInsertBefore, timevalDiff_pos, if_neg notLater, unchanged]

theorem gratInsert_eq {e : GratRrepEntry} {entries : List GratRrepEntry}
    (early : ∀ it ∈ entries, it.expires ≤ e.expires) :
    gratInsert e entries =
      if entries.getLast?.map GratRrepEntry.expires = some e.expires then entries
      else entries ++ [e] := by
  cases entries with
  | nil => rfl
  | cons front rest =>
      have nonempty := List.cons_ne_nil front rest
      have backEarly := early _ (List.getLast_mem nonempty)
      have frontEarly : ¬ e.expires < front.expires :=
        Int.not_lt.mpr (early front List.mem_cons_self)
      simp only [gratInsert, timevalDiff_neg, timevalDiff_pos, if_neg frontEarly,
        gratInsertBefore_eq early, List.getLast?_eq_some_getLast nonempty, Option.map_some,
        Option.some.injEq]
      by_cases same : ((front :: rest).getLast nonempty).expires = e.expires
      · rw [if_neg (by omega), if_pos same]
      · rw [if_pos (by omega), if_neg same]

namespace GratRrepTbl

/-- The entries that `grat_rrep_tbl_add` leaves when it accepts a pair. -/
def withPair (holdOff : Nat) (now : Int) (src prevHop : InAddr) (entries : List GratRrepEntry) :
    List GratRrepEntry :=
  if entries.getLast?.map GratRrepEntry.expires = some (now + holdOff) then entries
  else entries ++ [{ src := src, prevHop := prevHop, expires := now + holdOff }]

def timed (entries : List GratRrepEntry) : GratRrepTbl where
  gratRrep := entries
  timer := entries.head?.map GratRrepEntry.expires

variable {holdOff : Nat} {now : Int} {src prevHop : InAddr} {tbl : GratRrepTbl}
  {entries : List GratRrepEntry}

theorem holds_iff : tbl.holds src prevHop ↔ (src, prevHop) ∈ tbl.pairs := by
  simp [holds, pairs, GratRrepEntry.pair]

theorem find_eq_one : tbl.find src prevHop = 1 ↔ (src, prevHop) ∈ tbl.pairs := by
  rw [find, ← holds_iff]
  cases tbl.holds src prevHop <;> simp

theorem find_eq_zero : tbl.find src prevHop = 0 ↔ (src, prevHop) ∉ tbl.pairs := by
  rw [find, ← holds_iff]
  cases tbl.holds src prevHop <;> simp

theorem setTimer_ok (timer : Option Int) (nonempty : entries ≠ [])
    (pending : ∀ e ∈ entries, now ≤ e.expires) :
    setTimer now { gratRrep := entries, timer := timer } = .ok (timed entries) := by
  cases entries with
  | nil => exact absurd rfl nonempty
  | cons e rest =>
      have notPast : max now e.expires = e.expires :=
        Int.max_eq_right (pending e List.mem_cons_self)
      simp only [setTimer, notPast, timed, List.head?_cons, Option.map_some]

theorem withPair_ne_nil : withPair holdOff now src prevHop entries ≠ [] := by
  cases entries with
  | nil => simp [withPair]
  | cons => unfold withPair; split <;> simp

theorem mem_withPair {e : GratRrepEntry} (listed : e ∈ withPair holdOff now src prevHop entries) :
    e ∈ entries ∨ e = { src := src, prevHop := prevHop, expires := now + holdOff } := by
  unfold withPair at listed
  split at listed
  · exact .inl listed
  · simpa using listed

theorem add_held (held : tbl.find src prevHop = 1) :
    tbl.add holdOff now src prevHop = .ok (0, tbl) := by
  rw [add, if_pos (holds_iff.mpr (find_eq_one.mp held))]

theorem add_fresh (fresh : tbl.find src prevHop = 0)
    (pending : ∀ e ∈ tbl.gratRrep, now ≤ e.expires ∧ e.expires ≤ now + holdOff) :
    tbl.add holdOff now src prevHop =
      .ok (1, timed (withPair holdOff now src prevHop tbl.gratRrep)) := by
  have absent : ¬ tbl.holds src prevHop := fun held => find_eq_zero.mp fresh (holds_iff.mp held)
  have entered :
      gratInsert { src := src, prevHop := prevHop, expires := now + holdOff } tbl.gratRrep =
        withPair holdOff now src prevHop tbl.gratRrep :=
    gratInsert_eq fun it listed => (pending it listed).2
  have later : ∀ e ∈ withPair holdOff now src prevHop tbl.gratRrep, now ≤ e.expires := by
    intro e listed
    rcases mem_withPair listed with before | rfl
    · exact (pending e before).1
    · exact Int.le_add_of_nonneg_right (Int.natCast_nonneg holdOff)
  have armed := setTimer_ok none withPair_ne_nil later
  simp only [add, if_neg absent, entered, armed]
  rfl

theorem timeout_ok (nonempty : tbl.gratRrep ≠ [])
    (pending : ∀ e ∈ tbl.gratRrep, now ≤ e.expires) :
    tbl.timeout now = .ok (timed tbl.gratRrep.tail) := by
  cases entries : tbl.gratRrep with
  | nil => exact absurd entries nonempty
  | cons front rest =>
      rw [entries] at pending
      cases rest with
      | nil => simp [timeout, entries, timed]
      | cons second rest =>
          have later := setTimer_ok none (List.cons_ne_nil second rest)
            fun e listed => pending e (List.mem_cons_of_mem front listed)
          simpa [timeout, entries] using later

end GratRrepTbl

/-! ## What holds in every run -/

/-- The entries are in the order in which they expire, none of them is past that time, and the
timer is set for the first one. -/
structure Queued (holdOff : Nat) (s : HoldOffState) : Prop where
  sorted : s.tbl.gratRrep.Pairwise fun e later => e.expires ≤ later.expires
  distinct : s.tbl.pairs.Nodup
  timed : s.tbl = .timed s.tbl.gratRrep
  pending : ∀ e ∈ s.tbl.gratRrep, s.now ≤ e.expires ∧ e.expires ≤ s.now + holdOff
  accepted : ∀ e ∈ s.tbl.gratRrep, (e.expires - holdOff, e.src, e.prevHop) ∈ s.added

namespace Queued

variable {holdOff : Nat} {s s' : HoldOffState} {event : HoldOffEvent}

theorem front_due {time : Int} (queued : Queued holdOff s)
    (due : ∀ expires, s.tbl.timer = some expires → time ≤ expires) :
    ∀ e ∈ s.tbl.gratRrep, time ≤ e.expires := by
  intro e listed
  cases entries : s.tbl.gratRrep with
  | nil => simp [entries] at listed
  | cons front rest =>
      have atFront : s.tbl.timer = some front.expires := by
        rw [queued.timed, entries]
        rfl
      have sorted := queued.sorted
      rw [entries] at listed sorted
      have frontDue := due _ atFront
      rcases List.mem_cons.mp listed with rfl | behind
      · exact frontDue
      · exact frontDue.trans (List.rel_of_pairwise_cons sorted behind)

theorem start (now : Int) : Queued holdOff (.start now) where
  sorted := .nil
  distinct := List.nodup_nil
  timed := rfl
  pending := fun _ listed => by cases listed
  accepted := fun _ listed => by cases listed

theorem wait {time : Int} (queued : Queued holdOff s)
    (possible : (HoldOffEvent.wait time).Possible s) :
    Queued holdOff { s with now := time } where
  sorted := queued.sorted
  distinct := queued.distinct
  timed := queued.timed
  pending := fun e listed =>
    ⟨queued.front_due possible.2 e listed,
      (queued.pending e listed).2.trans (Int.add_le_add_right possible.1 _)⟩
  accepted := queued.accepted

theorem withPair {src prevHop : InAddr} (queued : Queued holdOff s)
    (fresh : s.tbl.find src prevHop = 0) :
    Queued holdOff
      { s with
        tbl := .timed (GratRrepTbl.withPair holdOff s.now src prevHop s.tbl.gratRrep)
        added := (s.now, src, prevHop) :: s.added } := by
  have older : ∀ e ∈ s.tbl.gratRrep,
      (e.expires - holdOff, e.src, e.prevHop) ∈ (s.now, src, prevHop) :: s.added :=
    fun e listed => List.mem_cons_of_mem _ (queued.accepted e listed)
  unfold GratRrepTbl.withPair
  split
  · rw [← queued.timed]
    exact ⟨queued.sorted, queued.distinct, queued.timed, queued.pending, older⟩
  · have absent := GratRrepTbl.find_eq_zero.mp fresh
    constructor
    · refine List.pairwise_append.mpr ⟨queued.sorted, List.pairwise_singleton _ _, ?_⟩
      intro e listed new isNew
      rw [List.mem_singleton.mp isNew]
      exact (queued.pending e listed).2
    · have distinct := queued.distinct
      simp only [GratRrepTbl.pairs, GratRrepTbl.timed, List.map_append, List.map_cons,
        List.map_nil]
      exact List.nodup_append.mpr ⟨distinct, List.nodup_singleton _, fun pair listed new isNew =>
        fun same => absent (by rwa [same, List.mem_singleton.mp isNew] at listed)⟩
    · rfl
    · intro e listed
      rcases List.mem_append.mp listed with before | isNew
      · exact queued.pending e before
      · rw [List.mem_singleton.mp isNew]
        exact ⟨Int.le_add_of_nonneg_right (Int.natCast_nonneg holdOff), Int.le_refl _⟩
    · intro e listed
      rcases List.mem_append.mp listed with before | isNew
      · exact older e before
      · rw [List.mem_singleton.mp isNew]
        simp

theorem tail (queued : Queued holdOff s) :
    Queued holdOff { s with tbl := .timed s.tbl.gratRrep.tail } where
  sorted := queued.sorted.sublist (List.tail_sublist _)
  distinct := queued.distinct.sublist ((List.tail_sublist _).map _)
  timed := rfl
  pending := fun e listed => queued.pending e (List.mem_of_mem_tail listed)
  accepted := fun e listed => queued.accepted e (List.mem_of_mem_tail listed)

end Queued

namespace HoldOffState

def next (holdOff : Nat) (s : HoldOffState) : HoldOffEvent → HoldOffState
  | .wait time => { s with now := time }
  | .add src prevHop =>
      if s.tbl.find src prevHop = 0 then
        { s with
          tbl := .timed (GratRrepTbl.withPair holdOff s.now src prevHop s.tbl.gratRrep)
          added := (s.now, src, prevHop) :: s.added }
      else s
  | .timeout => { s with tbl := .timed s.tbl.gratRrep.tail }

end HoldOffState

section

variable {holdOff : Nat} {s s' : HoldOffState} {event : HoldOffEvent}

theorem Queued.front_timer (queued : Queued holdOff s) {time : Int}
    (timer : s.tbl.timer = some time) :
    ∃ front rest, s.tbl.gratRrep = front :: rest ∧ front.expires = time := by
  rw [queued.timed] at timer
  cases entries : s.tbl.gratRrep with
  | nil => simp [GratRrepTbl.timed, entries] at timer
  | cons front rest =>
      exact ⟨front, rest, rfl, by simpa [GratRrepTbl.timed, entries] using timer⟩

theorem Queued.after_eq (queued : Queued holdOff s) (possible : event.Possible s) :
    s.after holdOff event = .ok (s.next holdOff event) := by
  cases event with
  | wait time => rfl
  | add src prevHop =>
      by_cases fresh : s.tbl.find src prevHop = 0
      · simp only [HoldOffState.after, GratRrepTbl.add_fresh fresh queued.pending,
          HoldOffState.next, if_pos fresh]
        rfl
      · have held : s.tbl.find src prevHop = 1 := by
          rw [GratRrepTbl.find] at fresh ⊢
          split at fresh <;> simp_all
        simp only [HoldOffState.after, GratRrepTbl.add_held held, HoldOffState.next, if_neg fresh]
        rfl
  | timeout =>
      obtain ⟨front, rest, entries, _⟩ := queued.front_timer possible
      have nonempty : s.tbl.gratRrep ≠ [] := by
        rw [entries]
        exact List.cons_ne_nil front rest
      have ran := GratRrepTbl.timeout_ok nonempty fun e listed => (queued.pending e listed).1
      simp only [HoldOffState.after, ran, HoldOffState.next]
      rfl

theorem Queued.next (queued : Queued holdOff s) (possible : event.Possible s) :
    Queued holdOff (s.next holdOff event) := by
  cases event with
  | wait time => exact queued.wait possible
  | add src prevHop =>
      by_cases fresh : s.tbl.find src prevHop = 0
      · simpa only [HoldOffState.next, if_pos fresh] using queued.withPair fresh
      · simpa only [HoldOffState.next, if_neg fresh] using queued
  | timeout => exact queued.tail

theorem HoldOffRun.queued {past : List (HoldOffEvent × HoldOffState)}
    (run : HoldOffRun holdOff past s) : Queued holdOff s := by
  induction run with
  | start now => exact .start now
  | next _ possible ran ih =>
      cases (ih.after_eq possible).symm.trans ran
      exact ih.next possible

/-! ## Pairs added at different instants -/

structure Holding (holdOff : Nat) (s : HoldOffState) : Prop where
  entry : ∀ time src prevHop, (time, src, prevHop) ∈ s.added → s.now < time + holdOff →
    { src := src, prevHop := prevHop, expires := time + holdOff } ∈ s.tbl.gratRrep

theorem Holding.next (kept : Holding holdOff s) (queued : Queued holdOff s)
    (possible : event.Possible s) (apart : ¬ event.Coincides holdOff s) :
    Holding holdOff (s.next holdOff event) := by
  constructor
  intro time src prevHop added running
  cases event with
  | wait later => exact kept.entry _ _ _ added (possible.1.trans_lt running)
  | timeout =>
      -- the entry that the timeout takes away is one that expires now
      have listed := kept.entry _ _ _ added running
      obtain ⟨front, rest, entries, frontExpires⟩ := queued.front_timer possible
      rw [entries] at listed
      rcases List.mem_cons.mp listed with isFront | behind
      · rw [← isFront] at frontExpires
        exact absurd frontExpires (Int.ne_of_gt running)
      · simpa only [HoldOffState.next, GratRrepTbl.timed, entries, List.tail_cons] using behind
  | add newSrc newPrevHop =>
      by_cases fresh : s.tbl.find newSrc newPrevHop = 0
      · simp only [HoldOffState.next, if_pos fresh] at added running ⊢
        simp only [GratRrepTbl.timed, GratRrepTbl.withPair]
        rcases List.mem_cons.mp added with isNew | before
        · cases isNew
          have lasting : 0 < holdOff := by omega
          rw [if_neg fun same => apart ⟨lasting, fresh, same⟩]
          exact List.mem_append_right _ (List.mem_singleton_self _)
        · have listed := kept.entry _ _ _ before running
          split
          · exact listed
          · exact List.mem_append_left _ listed
      · simp only [HoldOffState.next, if_neg fresh] at added running ⊢
        exact kept.entry _ _ _ added running

theorem HoldOffRun.kept {past : List (HoldOffEvent × HoldOffState)}
    (run : HoldOffRun holdOff past s)
    (apart : ∀ step ∈ past, ¬ step.1.Coincides holdOff step.2) : Holding holdOff s := by
  induction run with
  | start now => exact ⟨fun _ _ _ added => by cases added⟩
  | next before possible ran ih =>
      cases (before.queued.after_eq possible).symm.trans ran
      have earlier := ih fun step listed => apart step (List.mem_cons_of_mem _ listed)
      exact earlier.next before.queued possible (apart _ List.mem_cons_self)

theorem Holding.found (kept : Holding holdOff s) {time : Int} {src prevHop : InAddr}
    (added : (time, src, prevHop) ∈ s.added) (running : s.now < time + holdOff) :
    s.tbl.find src prevHop = 1 :=
  GratRrepTbl.find_eq_one.mpr (List.mem_map_of_mem (kept.entry _ _ _ added running))

theorem Holding.heldOff (kept : Holding holdOff s) (queued : Queued holdOff s) :
    HeldOff holdOff s where
  sorted := queued.sorted
  distinct := queued.distinct
  timer := congrArg GratRrepTbl.timer queued.timed
  found := fun _ _ _ added running => kept.found added running

/-- Unless the timer is due, what the table holds are the pairs whose hold-off has not
elapsed. -/
theorem Holding.find_iff (kept : Holding holdOff s) (queued : Queued holdOff s)
    (notDue : s.tbl.timer ≠ some s.now) {src prevHop : InAddr} :
    s.tbl.find src prevHop = 1 ↔
      ∃ time, (time, src, prevHop) ∈ s.added ∧ s.now < time + holdOff := by
  constructor
  · intro found
    obtain ⟨e, listed, same⟩ := List.mem_map.mp (GratRrepTbl.find_eq_one.mp found)
    cases same
    have beyond : s.now + 1 ≤ e.expires := by
      refine queued.front_due (fun expires timer => ?_) e listed
      obtain ⟨front, rest, entries, frontExpires⟩ := queued.front_timer timer
      have notPast := (queued.pending front (by rw [entries]; exact List.mem_cons_self)).1
      have notNow : expires ≠ s.now := fun now => notDue (now ▸ timer)
      omega
    exact ⟨e.expires - holdOff, queued.accepted e listed, by omega⟩
  · rintro ⟨time, added, running⟩
    exact kept.found added running

theorem dsrSrtOptRecv_heldOff {now : SimTime} {node : Node} {dp : DsrPkt} {opt : DsrSrtOpt}
    {recv : Recv DsrSrtOpt} (handled : dsrSrtOptRecv now node dp opt = .ok recv)
    (held : (dp.src, recv.dp.prvHop) ∈ node.gratRrep) : recv.calls.filterMap Call.rrep? = [] := by
  obtain ⟨srt, -, handled⟩ := bind_ok.mp handled
  obtain ⟨intended, -, handled⟩ := bind_ok.mp handled
  obtain ⟨prvHop, -, handled⟩ := bind_ok.mp handled
  obtain ⟨nxtHop, -, handled⟩ := bind_ok.mp handled
  obtain ⟨learned, learns, handled⟩ := bind_ok.mp handled
  obtain ⟨remaining, -, handled⟩ := bind_ok.mp handled
  have quiet : (Call.neighTblAdd prvHop :: learned.2).filterMap Call.rrep? = [] := by
    split at learns
    · obtain ⟨node', -, same⟩ := bind_ok.mp learns
      cases same
      rfl
    · exact learnLinks_quiet learns
  have previous : recv.dp.prvHop = prvHop := by
    dsimp only at handled
    split at handled
    · obtain ⟨shortened, -, handled⟩ := bind_ok.mp handled
      cases shortened with
      | none => cases handled; rfl
      | some extra =>
          cases handled
          split_ifs <;> rfl
    · cases handled
      split_ifs <;> rfl
  dsimp only at handled
  rw [previous] at held
  rw [if_neg fun pending => pending.2 held] at handled
  cases handled
  split_ifs <;> exact quiet

theorem Holding.one_reply (kept : Holding holdOff s) {time : Int} {now : SimTime} {node : Node}
    {dp : DsrPkt} {opt : DsrSrtOpt} {recv : Recv DsrSrtOpt}
    (same : node.gratRrep = s.tbl.pairs) (handled : dsrSrtOptRecv now node dp opt = .ok recv)
    (added : (time, dp.src, recv.dp.prvHop) ∈ s.added) (running : s.now < time + holdOff) :
    recv.calls.filterMap Call.rrep? = [] := by
  have found := GratRrepTbl.find_eq_one.mp (kept.found added running)
  exact dsrSrtOptRecv_heldOff handled (same ▸ found)

theorem Queued.missed (queued : Queued holdOff s) (coincides : event.Coincides holdOff s) :
    ¬ HeldOff holdOff (s.next holdOff event) := by
  intro held
  cases event with
  | wait | timeout => exact coincides.elim
  | add src prevHop =>
      obtain ⟨lasting, fresh, same⟩ := coincides
      have lost : s.next holdOff (.add src prevHop) =
          { s with added := (s.now, src, prevHop) :: s.added } := by
        rw [HoldOffState.next, if_pos fresh, GratRrepTbl.withPair, if_pos same, ← queued.timed]
      rw [lost] at held
      have found := held.found s.now src prevHop List.mem_cons_self
        (Int.lt_add_of_pos_right _ (Int.natCast_pos.mpr lasting))
      rw [fresh] at found
      cases found

/-- In every state of a run pairs are found until their hold-off has elapsed, exactly when no
pair is added at the instant at which the last entry was. -/
theorem HoldOffRun.heldOff_iff {past : List (HoldOffEvent × HoldOffState)}
    (run : HoldOffRun holdOff past s) :
    (∀ reached ∈ s :: past.map Prod.snd, HeldOff holdOff reached) ↔
      ∀ step ∈ past, ¬ step.1.Coincides holdOff step.2 := by
  induction run with
  | start now =>
      have kept : Holding holdOff (.start now) := ⟨fun _ _ _ added => by cases added⟩
      simpa using kept.heldOff (.start now)
  | next before possible ran ih =>
      cases (before.queued.after_eq possible).symm.trans ran
      rw [List.forall_mem_cons, List.forall_mem_cons, List.map_cons, ih]
      constructor
      · rintro ⟨held, apart⟩
        exact ⟨fun coincides => before.queued.missed coincides held, apart⟩
      · rintro ⟨apart, earlier⟩
        have kept := (before.kept earlier).next before.queued possible apart
        exact ⟨kept.heldOff (before.queued.next possible), earlier⟩

end

/-- A run in which two pairs are added one microsecond apart. -/
theorem HoldOffRun.heldOff_apart :
    ∃ past s, past.map Prod.fst = [.add 4 5, .wait 1, .add 2 3] ∧ HoldOffRun 1000000 past s ∧
      ((∀ reached ∈ s :: past.map Prod.snd, HeldOff 1000000 reached) ↔
        ∀ step ∈ past, ¬ step.1.Coincides 1000000 step.2) := by
  let one (now : Int) : HoldOffState :=
    { now := now, tbl := .timed [⟨2, 3, 1000000⟩], added := [(0, 2, 3)] }
  let two : HoldOffState :=
    { now := 1
      tbl := .timed [⟨2, 3, 1000000⟩, ⟨4, 5, 1000001⟩]
      added := [(1, 4, 5), (0, 2, 3)] }
  have first : HoldOffRun 1000000 [(.add 2 3, .start 0)] (one 0) :=
    .next (.start 0) trivial rfl
  have waited : HoldOffRun 1000000 [(.wait 1, one 0), (.add 2 3, .start 0)] (one 1) :=
    .next first ⟨by decide, fun expires due => by cases due; decide⟩ rfl
  have second : HoldOffRun 1000000
      [(.add 4 5, one 1), (.wait 1, one 0), (.add 2 3, .start 0)] two :=
    .next waited trivial rfl
  exact ⟨_, _, rfl, second, second.heldOff_iff⟩

/-- Of two pairs that are added at once the second one is not in the table. -/
theorem HoldOffRun.not_heldOff :
    ∃ past s, past.map Prod.fst = [.add 4 5, .add 2 3] ∧ HoldOffRun 1000000 past s ∧
      ¬ HeldOff 1000000 s := by
  let one : HoldOffState :=
    { now := 0, tbl := .timed [⟨2, 3, 1000000⟩], added := [(0, 2, 3)] }
  have first : HoldOffRun 1000000 [(.add 2 3, .start 0)] one := .next (.start 0) trivial rfl
  have second : HoldOffRun 1000000 [(.add 4 5, one), (.add 2 3, .start 0)]
      { one with added := [(0, 4, 5), (0, 2, 3)] } :=
    .next first trivial rfl
  refine ⟨_, _, rfl, second, fun held => ?_⟩
  have found := held.found 0 4 5 List.mem_cons_self (by decide)
  exact absurd found (by decide)

end SyncFanet.Dsr
