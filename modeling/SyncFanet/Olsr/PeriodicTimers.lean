import Mathlib.Data.List.Perm.Basic
import SyncFanet.Olsr.TimerObjects

/-!
# The periodic timers over the lifecycle of a node

Which timer objects are queued and which are freed, over all runs with starts,
shutdowns, crashes and changes of interfaces.
-/

set_option autoImplicit false

namespace SyncFanet.Olsr

/-- Reading an empty queue or a freed object, or freeing one again. -/
def TimerFault.misuse : TimerFault → Bool
  | .emptyQueue | .doubleFree _ | .freedMessage => true
  | .stopped _ | .unfinished => false

namespace AgentTimers

/-! ## Computations without misuse -/

def Meets {Result : Type} (condition : Result → Prop) : Except TimerFault Result → Prop
  | .ok result => condition result
  | .error fault => fault.misuse = false

section

variable {Result Next : Type} {condition weaker : Result → Prop} {after : Next → Prop}
  {computation : Except TimerFault Result}

theorem Meets.weaken (meets : Meets condition computation)
    (implied : ∀ result, condition result → weaker result) : Meets weaker computation := by
  cases computation with
  | ok result => exact implied result meets
  | error fault => exact meets

theorem Meets.bind {next : Result → Except TimerFault Next} (meets : Meets condition computation)
    (continues : ∀ result, condition result → Meets after (next result)) :
    Meets after (computation.bind next) := by
  cases computation with
  | ok result => exact continues result meets
  | error fault => exact meets

theorem Meets.result {result : Result} (meets : Meets condition computation)
    (ran : computation = .ok result) : condition result := by
  rw [ran] at meets
  exact meets

end

/-! ## The objects of the queue -/

section

variable {agent : AgentClass} {config : Config} {now key : Int} {timers : AgentTimers}
  {timer : TimerObject} {out : List TimerObject}

/-- The objects in the queue and the given others are alive and different from each
other. The agent knows those that it has pointers to. -/
structure Sound (agent : AgentClass) (out : List TimerObject) (timers : AgentTimers) : Prop where
  nodup : (out ++ timers.objects).Nodup
  alive : ∀ timer ∈ out ++ timers.objects, timer ∉ timers.freed
  fresh : ∀ serial, .oneShot serial ∈ out ++ timers.objects ++ timers.freed →
    serial < timers.created
  kept : ∀ timer ∈ agent.periodic, timer ∉ timers.freed
  known : ∀ timer ∈ out ++ timers.objects,
    timer ∈ agent.periodic ∨ ∃ serial, timer = .oneShot serial
  message : timers.timerMessage ≠ .deleted

theorem insertObject_perm (key : Int) (timer : TimerObject) (queue : List (Int × TimerObject)) :
    (insertObject key timer queue).Perm ((key, timer) :: queue) := by
  induction queue with
  | nil => exact .refl _
  | cons head tail ih =>
      unfold insertObject
      split
      · exact (ih.cons head).trans (.swap _ _ _)
      · exact .refl _

theorem insert_objects (timers : AgentTimers) (key : Int) (timer : TimerObject) :
    (timers.insert key timer).objects.Perm (timer :: timers.objects) :=
  (insertObject_perm key timer timers.timerQueue).map Prod.snd

theorem removeQueueTimer_objects (timers : AgentTimers) (timer : TimerObject) :
    (timers.removeQueueTimer timer).objects = timers.objects.erase timer := by
  simp only [objects, removeQueueTimer]
  induction timers.timerQueue with
  | nil => rfl
  | cons head tail ih =>
      by_cases same : head.2 = timer
      · simp [same]
      · simp [same, ih]

theorem Sound.perm {out' : List TimerObject} {timers' : AgentTimers}
    (sound : Sound agent out timers)
    (same : (out' ++ timers'.objects).Perm (out ++ timers.objects))
    (freed : timers'.freed = timers.freed) (created : timers.created ≤ timers'.created)
    (message : timers'.timerMessage ≠ .deleted) : Sound agent out' timers' where
  nodup := same.nodup_iff.mpr sound.nodup
  alive := by
    intro timer member
    rw [freed]
    exact sound.alive timer (same.mem_iff.mp member)
  fresh := by
    intro serial member
    refine Nat.lt_of_lt_of_le (sound.fresh serial ?_) created
    rw [freed, List.mem_append] at member
    exact List.mem_append.mpr (member.imp_left same.mem_iff.mp)
  kept := freed ▸ sound.kept
  known := fun timer member => sound.known timer (same.mem_iff.mp member)
  message := message

theorem Sound.insert (sound : Sound agent (timer :: out) timers) (key : Int) :
    Sound agent out (timers.insert key timer) := by
  refine sound.perm ?_ rfl (Nat.le_refl _) sound.message
  exact ((insert_objects timers key timer).append_left out).trans List.perm_middle

theorem Sound.createOne (sound : Sound agent out timers) (key : Int) :
    Sound agent out (timers.createOne key) := by
  have new : .oneShot timers.created ∉ out ++ timers.objects ++ timers.freed :=
    fun member => Nat.lt_irrefl _ (sound.fresh _ member)
  simp only [List.mem_append, not_or] at new
  have created : Sound agent (.oneShot timers.created :: out)
      { timers with created := timers.created + 1 } := by
    refine ⟨?_, ?_, ?_, sound.kept, ?_, sound.message⟩
    · refine List.nodup_cons.mpr ⟨fun member => ?_, sound.nodup⟩
      exact (List.mem_append.mp member).elim new.1.1 new.1.2
    · intro timer member
      rcases List.mem_cons.mp member with rfl | member
      · exact new.2
      · exact sound.alive timer member
    · intro serial member
      rcases List.mem_cons.mp member with same | member
      · cases same
        exact Nat.lt_succ_self _
      · exact Nat.lt_succ_of_lt (sound.fresh serial member)
    · intro timer member
      rcases List.mem_cons.mp member with rfl | member
      · exact .inr ⟨_, rfl⟩
      · exact sound.known timer member
  exact created.insert key

theorem removeQueueTimer_absent (absent : timer ∉ timers.objects) :
    timers.removeQueueTimer timer = timers := by
  have same : timers.timerQueue.eraseP (fun entry => entry.2 = timer) = timers.timerQueue := by
    refine List.eraseP_of_forall_not fun entry member same => absent ?_
    exact of_decide_eq_true same ▸ List.mem_map_of_mem member
  simp only [removeQueueTimer, same]

theorem free_ok (alive : timer ∉ timers.freed) (absent : timer ∉ timers.objects) :
    free timer timers = .ok { timers with freed := timer :: timers.freed } := by
  unfold free
  rw [if_neg alive, removeQueueTimer_absent absent]

theorem Sound.free (sound : Sound agent (timer :: out) timers) (unknown : timer ∉ agent.periodic) :
    free timer timers = .ok { timers with freed := timer :: timers.freed } ∧
      Sound agent out { timers with freed := timer :: timers.freed } := by
  have alive : timer ∉ timers.freed := sound.alive timer (by simp)
  obtain ⟨absent, nodup⟩ := List.nodup_cons.mp sound.nodup
  refine ⟨free_ok alive fun member => absent (List.mem_append_right _ member),
    nodup, ?_, ?_, ?_, ?_, sound.message⟩
  · intro other member freed
    rcases List.mem_cons.mp freed with rfl | freed
    · exact absent member
    · exact sound.alive other (List.mem_cons_of_mem _ member) freed
  · intro serial member
    exact sound.fresh serial (List.perm_middle.mem_iff.mp member)
  · intro other pointed freed
    rcases List.mem_cons.mp freed with rfl | freed
    · exact unknown pointed
    · exact sound.kept other pointed freed
  · intro other member
    exact sound.known other (List.mem_cons_of_mem _ member)

/-! ## Expiry -/

theorem Sound.create (sound : Sound agent out timers) (keys : List Int) :
    Sound agent out (timers.create keys) :=
  foldl_keeps AgentTimers.createOne (Sound agent out) sound fun key _ _ sound =>
    sound.createOne key

theorem subset_insert (timers : AgentTimers) (key : Int) (timer : TimerObject) :
    timers.objects ⊆ (timers.insert key timer).objects := fun _ member =>
  (insert_objects timers key timer).mem_iff.mpr (List.mem_cons_of_mem timer member)

theorem mem_insert (timers : AgentTimers) (key : Int) (timer : TimerObject) :
    timer ∈ (timers.insert key timer).objects :=
  (insert_objects timers key timer).mem_iff.mpr (by simp)

theorem subset_create (timers : AgentTimers) (keys : List Int) :
    timers.objects ⊆ (timers.create keys).objects :=
  foldl_keeps AgentTimers.createOne (fun timers' => timers.objects ⊆ timers'.objects)
    (List.Subset.refl _) fun key timers' _ subset =>
      List.Subset.trans subset (subset_insert timers' key (.oneShot timers'.created))

theorem create_isOperational (timers : AgentTimers) (keys : List Int) :
    (timers.create keys).isOperational = timers.isOperational :=
  foldl_keeps AgentTimers.createOne
    (fun timers' => timers'.isOperational = timers.isOperational) rfl fun _ _ _ same => same

def Armed (agent : AgentClass) (timers : AgentTimers) : Prop := agent.periodic ⊆ timers.objects

structure Running (agent : AgentClass) (timers : AgentTimers) : Prop where
  sound : Sound agent [] timers
  armed : Armed agent timers
  operational : timers.isOperational = true

theorem expire_running (aboveIp : config.isInMacLayer = false) (expiry : Expiry)
    (sound : Sound agent [timer] timers) (armed : agent.periodic ⊆ timer :: timers.objects)
    (operational : timers.isOperational = true) :
    Meets (Running agent) (expire config now expiry timer timers) := by
  have created := sound.create expiry.created
  have subset := subset_create timers expiry.created
  have up : (timers.create expiry.created).isOperational = true :=
    (create_isOperational _ _).trans operational
  -- a timer that waits again
  have again (key : Int) : Running agent ((timers.create expiry.created).insert key timer) := by
    refine ⟨created.insert key, fun pointed member => ?_, up⟩
    rcases List.mem_cons.mp (armed member) with rfl | member
    · exact mem_insert _ key _
    · exact subset_insert _ key _ (subset member)
  unfold expire
  cases timer with
  | hello => exact again _
  | tc => exact again _
  | mid =>
      rw [aboveIp]
      exact again _
  | linkQuality => exact again _
  | oneShot serial =>
      have unknown : .oneShot serial ∉ agent.periodic := by
        cases agent <;> simp [AgentClass.periodic]
      cases expiry.again with
      | some key => exact again key
      | none =>
          obtain ⟨freed, sound⟩ := created.free unknown
          simp only [freed]
          refine ⟨sound, fun pointed member => ?_, up⟩
          rcases List.mem_cons.mp (armed member) with rfl | queued
          · exact absurd member unknown
          · exact subset queued

theorem nonempty_of_mem (member : timer ∈ timers.objects) : timers.timerQueue ≠ [] := by
  intro empty
  simp [objects, empty] at member

theorem Armed.nonempty (armed : Armed agent timers) : timers.timerQueue ≠ [] :=
  nonempty_of_mem (armed (a := .hello) (by cases agent <;> simp [AgentClass.periodic]))

theorem fireTimers_running (aboveIp : config.isInMacLayer = false) (expiries : List Expiry)
    (running : Running agent timers) :
    Meets (Running agent) (fireTimers config now expiries timers) := by
  induction expiries generalizing timers with
  | nil =>
      unfold fireTimers
      cases queue : timers.timerQueue with
      | nil => exact absurd queue running.armed.nonempty
      | cons first rest =>
          dsimp only
          split
          · rfl
          · exact running
  | cons expiry rest ih =>
      unfold fireTimers
      cases queue : timers.timerQueue with
      | nil => exact absurd queue running.armed.nonempty
      | cons first later =>
          dsimp only
          split
          · have taken : timers.objects = first.2 :: later.map Prod.snd := by
              simp [objects, queue]
            have popped : Sound agent [first.2] { timers with timerQueue := later } :=
              running.sound.perm (by rw [taken]; exact .refl _) rfl (Nat.le_refl _)
                running.sound.message
            have armed := running.armed
            rw [Armed, taken] at armed
            exact (expire_running aboveIp expiry popped armed running.operational).bind
              fun _ fired => ih fired
          · exact running

theorem scheduleNextEvent_meets (sound : Sound agent [] timers) (nonempty : timers.timerQueue ≠ []) :
    Meets (fun timers' => Sound agent [] timers' ∧ timers'.objects = timers.objects ∧
      timers'.isOperational = timers.isOperational) (scheduleNextEvent now timers) := by
  have rescheduled (arrivalTime : Int) :
      Sound agent [] { timers with timerMessage := .scheduled arrivalTime } :=
    sound.perm (.refl _) rfl (Nat.le_refl _) nofun
  unfold scheduleNextEvent
  cases queue : timers.timerQueue with
  | nil => exact absurd queue nonempty
  | cons first rest =>
      dsimp only
      cases message : timers.timerMessage with
      | deleted => exact absurd message sound.message
      | scheduled arrivalTime =>
          dsimp only
          split
          · split
            · rfl
            · exact ⟨queue ▸ rescheduled _, by simp [objects, queue], rfl⟩
          · split
            · rfl
            · exact ⟨sound, rfl, rfl⟩
      | idle =>
          dsimp only
          split
          · rfl
          · exact ⟨queue ▸ rescheduled _, by simp [objects, queue], rfl⟩

theorem scheduleNextEvent_running (running : Running agent timers) :
    Meets (Running agent) (scheduleNextEvent now timers) := by
  refine (scheduleNextEvent_meets running.sound running.armed.nonempty).weaken ?_
  rintro timers' ⟨sound, objects, operational⟩
  refine ⟨sound, ?_, operational.trans running.operational⟩
  rw [Armed, objects]
  exact running.armed

/-! ## Lifecycle -/

theorem Sound.drop (sound : Sound agent (timer :: out) timers) : Sound agent out timers where
  nodup := (List.nodup_cons.mp sound.nodup).2
  alive := fun other member => sound.alive other (List.mem_cons_of_mem _ member)
  fresh := fun serial member => sound.fresh serial (List.mem_cons_of_mem _ member)
  kept := sound.kept
  known := fun other member => sound.known other (List.mem_cons_of_mem _ member)
  message := sound.message

/-- `OLSR` knows all its periodic timers when it empties the queue. -/
theorem releaseQueue_meets (rounds : Nat) (sound : Sound .olsr [] timers)
    (enough : timers.timerQueue.length ≤ rounds) :
    Meets (fun timers' => Sound .olsr [] timers' ∧ timers'.timerQueue = [] ∧
      timers'.isOperational = timers.isOperational) (releaseQueue rounds timers) := by
  induction rounds generalizing timers with
  | zero => exact ⟨sound, List.length_eq_zero_iff.mp (Nat.le_zero.mp enough), rfl⟩
  | succ rounds ih =>
      unfold releaseQueue
      cases queue : timers.timerQueue with
      | nil => exact ⟨sound, queue, rfl⟩
      | cons first rest =>
          rw [queue, List.length_cons, Nat.succ_le_succ_iff] at enough
          have popped : Sound .olsr [first.2] { timers with timerQueue := rest } :=
            sound.perm (by simp [objects, queue]) rfl (Nat.le_refl _) sound.message
          dsimp only
          split
          · exact ih popped.drop enough
          · next unknown =>
            obtain ⟨freed, sound⟩ := popped.free (by simpa [AgentClass.periodic] using unknown)
            rw [freed]
            exact ih sound enough

theorem handleNodeShutdown_meets (sound : Sound .olsr [] timers) :
    Meets (fun timers' => Sound .olsr [] timers' ∧ timers'.timerQueue = [] ∧
      timers'.isOperational = timers.isOperational) (handleNodeShutdown timers) := by
  unfold handleNodeShutdown
  rw [if_neg sound.message]
  exact releaseQueue_meets _ (sound.perm (.refl _) rfl (Nat.le_refl _) nofun) (Nat.le_refl _)

theorem Sound.resched (sound : Sound agent [] timers) (key : Int)
    (pointed : timer ∈ agent.periodic) : Sound agent [] (timers.resched key timer) := by
  have subset : (timers.removeQueueTimer timer).objects ⊆ timers.objects := by
    rw [removeQueueTimer_objects]
    exact List.erase_subset
  have nodup : timers.objects.Nodup := sound.nodup
  have taken : Sound agent [timer] (timers.removeQueueTimer timer) := by
    refine ⟨?_, ?_, ?_, sound.kept, ?_, sound.message⟩
    · change (timer :: (timers.removeQueueTimer timer).objects).Nodup
      rw [removeQueueTimer_objects]
      exact List.nodup_cons.mpr ⟨nodup.not_mem_erase, nodup.erase timer⟩
    · intro other member
      rcases List.mem_cons.mp member with rfl | member
      · exact sound.kept other pointed
      · exact sound.alive other (subset member)
    · intro serial member
      rcases List.mem_append.mp member with member | member
      · rcases List.mem_cons.mp member with same | member
        · rw [← same] at pointed
          cases agent <;> simp [AgentClass.periodic] at pointed
        · exact sound.fresh serial (List.mem_append_left _ (subset member))
      · exact sound.fresh serial (List.mem_append_right _ member)
    · intro other member
      rcases List.mem_cons.mp member with rfl | member
      · exact .inl pointed
      · exact sound.known other (subset member)
  exact taken.insert key

theorem mem_resched (timers : AgentTimers) (key : Int) (timer : TimerObject) :
    timer ∈ (timers.resched key timer).objects :=
  mem_insert _ key timer

theorem subset_resched (timers : AgentTimers) (key : Int) (timer : TimerObject) :
    timers.objects ⊆ (timers.resched key timer).objects := by
  intro other member
  by_cases same : other = timer
  · exact same ▸ mem_resched timers key other
  · refine subset_insert _ key timer ?_
    rw [removeQueueTimer_objects]
    exact (List.mem_erase_of_ne same).mpr member

/-- The three timers that `initialize` and `handleNodeStart` arm. -/
theorem Sound.arm (sound : Sound agent [] timers) (key : Int) :
    Sound agent [] (((timers.resched key .hello).resched key .tc).resched key .mid) ∧
      [.hello, .tc, .mid] ++ timers.objects ⊆
        (((timers.resched key .hello).resched key .tc).resched key .mid).objects := by
  have pointed : [.hello, .tc, .mid] ⊆ agent.periodic := by
    cases agent <;> simp [AgentClass.periodic]
  simp only [List.cons_subset] at pointed
  obtain ⟨hello, tc, mid, _⟩ := pointed
  refine ⟨((sound.resched key hello).resched key tc).resched key mid, ?_⟩
  have later := subset_resched ((timers.resched key .hello).resched key .tc) key .mid
  have latest := List.Subset.trans (subset_resched (timers.resched key .hello) key .tc) later
  simp only [List.cons_append, List.nil_append, List.cons_subset]
  exact ⟨latest (mem_resched _ _ _), later (mem_resched _ _ _), mem_resched _ _ _,
    List.Subset.trans (subset_resched _ _ _) latest⟩

theorem handleNodeStart_meets (sound : Sound agent [] timers) :
    Meets (fun timers' => Sound agent [] timers' ∧
        [.hello, .tc, .mid] ++ timers.objects ⊆ timers'.objects ∧
        timers'.isOperational = timers.isOperational) (handleNodeStart config now timers) := by
  obtain ⟨armed, subset⟩ := sound.arm (now + config.helloIval)
  have nonempty := nonempty_of_mem (subset (a := .mid) (by simp))
  refine (scheduleNextEvent_meets armed nonempty).weaken ?_
  rintro timers' ⟨sound, objects, operational⟩
  exact ⟨sound, objects ▸ subset, operational⟩

/-! ## Destruction -/

theorem free_all (pointers : List TimerObject) (unfreed : ∀ timer ∈ pointers, timer ∉ timers.freed)
    (nodup : pointers.Nodup) (empty : timers.objects = []) :
    Meets (fun _ => True) (pointers.foldlM (fun timers timer => free timer timers) timers) := by
  induction pointers generalizing timers with
  | nil => exact trivial
  | cons timer rest ih =>
      obtain ⟨absent, nodup⟩ := List.nodup_cons.mp nodup
      rw [List.foldlM_cons, free_ok (unfreed timer (by simp)) (by simp [empty])]
      refine ih ?_ nodup empty
      intro other member freed
      rcases List.mem_cons.mp freed with rfl | freed
      · exact absent member
      · exact unfreed other (List.mem_cons_of_mem _ member) freed

theorem destroyQueue_meets (rounds : Nat) {pointers : List TimerObject}
    (alive : ∀ timer ∈ pointers ++ timers.objects, timer ∉ timers.freed)
    (pointed : pointers.Nodup) (nodup : timers.objects.Nodup)
    (enough : timers.timerQueue.length ≤ rounds) :
    Meets (fun result => result.2.objects = [] ∧ result.1.Nodup ∧
      ∀ timer ∈ result.1, timer ∉ result.2.freed) (destroyQueue rounds pointers timers) := by
  induction rounds generalizing timers pointers with
  | zero =>
      have empty : timers.timerQueue = [] := List.length_eq_zero_iff.mp (Nat.le_zero.mp enough)
      exact ⟨by simp [objects, empty], pointed, fun timer member =>
        alive timer (List.mem_append_left _ member)⟩
  | succ rounds ih =>
      unfold destroyQueue
      cases queue : timers.timerQueue with
      | nil =>
          exact ⟨by simp [objects, queue], pointed, fun timer member =>
            alive timer (List.mem_append_left _ member)⟩
      | cons first rest =>
          rw [queue, List.length_cons, Nat.succ_le_succ_iff] at enough
          have taken : timers.objects = first.2 :: rest.map Prod.snd := by simp [objects, queue]
          rw [taken] at alive nodup
          obtain ⟨absent, nodup⟩ := List.nodup_cons.mp nodup
          have freed : free first.2 { timers with timerQueue := rest } =
              .ok { timers with timerQueue := rest, freed := first.2 :: timers.freed } :=
            free_ok (alive first.2 (by simp)) absent
          dsimp only
          rw [freed]
          refine ih ?_ (pointed.erase _) nodup enough
          intro other member freed
          have different : other ≠ first.2 := by
            rintro rfl
            rcases List.mem_append.mp member with member | member
            · exact pointed.not_mem_erase member
            · exact absent member
          refine alive other ?_ ((List.mem_cons.mp freed).resolve_left different)
          rcases List.mem_append.mp member with member | member
          · exact List.mem_append_left _ (List.mem_of_mem_erase member)
          · exact List.mem_append_right _ (List.mem_cons_of_mem _ member)

theorem destroy_meets (sound : Sound agent [] timers) :
    Meets (fun _ => True) (destroy agent timers) := by
  unfold destroy
  rw [if_neg sound.message]
  have pointed : agent.periodic.Nodup := by cases agent <;> decide
  have alive : ∀ timer ∈ agent.periodic ++ timers.objects, timer ∉ timers.freed := by
    intro timer member
    rcases List.mem_append.mp member with member | member
    · exact sound.kept timer member
    · exact sound.alive timer member
  let timers' : AgentTimers := { timers with timerMessage := .deleted }
  have emptied : Meets _ (destroyQueue timers'.timerQueue.length agent.periodic timers') :=
    destroyQueue_meets _ alive pointed sound.nodup (Nat.le_refl _)
  refine emptied.bind ?_
  rintro ⟨pointers, timers'⟩ ⟨empty, nodup, unfreed⟩
  exact free_all pointers unfreed nodup empty

/-! ## Runs -/

/-- No timer message arrives at an `OLSR` agent whose node is down. An `OLSR_ETX`
agent is never shut down. -/
def Allowed (agent : AgentClass) (event : TimerEvent) (timers : AgentTimers) : Prop :=
  match agent, event with
  | .olsr, .timerMessage _ => timers.isOperational = true
  | .olsrEtx, .shutdown | .olsrEtx, .crash | .olsrEtx, .changeInterface => False
  | _, _ => True

structure Lively (agent : AgentClass) (timers : AgentTimers) : Prop where
  sound : Sound agent [] timers
  armed : timers.isOperational = true → Armed agent timers
  up : agent = .olsrEtx → timers.isOperational = true

theorem Running.lively (running : Running agent timers) : Lively agent timers :=
  ⟨running.sound, fun _ => running.armed, fun _ => running.operational⟩

theorem handleNodeStart_lively (sound : Sound agent [] timers)
    (etx : agent = .olsrEtx → Armed agent timers ∧ timers.isOperational = true) :
    Meets (Lively agent) (handleNodeStart config now timers) := by
  refine (handleNodeStart_meets sound).weaken ?_
  rintro timers' ⟨sound, subset, operational⟩
  refine ⟨sound, fun _ => ?_, fun same => operational.trans (etx same).2⟩
  cases agent with
  | olsr => exact fun timer member => subset (List.mem_append_left _ member)
  | olsrEtx => exact fun timer member => subset (List.mem_append_right _ ((etx rfl).1 member))

theorem goDown_lively (sound : Sound .olsr [] timers) :
    Meets (Lively .olsr) ((handleNodeShutdown timers).bind fun timers =>
      .ok { timers with isOperational := false }) := by
  refine (handleNodeShutdown_meets sound).bind ?_
  rintro timers' ⟨sound, _, _⟩
  exact ⟨sound.perm (.refl _) rfl (Nat.le_refl _) sound.message, nofun, nofun⟩

theorem step_lively (aboveIp : config.isInMacLayer = false) {event : TimerEvent}
    (lively : Lively agent timers) (met : Allowed agent event timers) :
    Meets (Lively agent) (step config now event timers) := by
  obtain ⟨sound, armed, up⟩ := lively
  cases event with
  | timerMessage expiries =>
      have operational : timers.isOperational = true := by
        cases agent with
        | olsr => exact met
        | olsrEtx => exact up rfl
      have idle : Sound agent [] { timers with timerMessage := .idle } :=
        sound.perm (.refl _) rfl (Nat.le_refl _) nofun
      have running : Running agent { timers with timerMessage := .idle } :=
        ⟨idle, armed operational, operational⟩
      unfold step
      dsimp only
      rw [if_pos operational]
      exact ((fireTimers_running aboveIp expiries running).bind fun _ fired =>
        scheduleNextEvent_running fired).weaken fun _ running => running.lively
  | packet created =>
      simp only [step]
      split
      · next operational =>
        have running : Running agent (timers.create created) :=
          ⟨sound.create created,
            List.Subset.trans (armed operational) (subset_create timers created),
            (create_isOperational _ _).trans operational⟩
        exact (scheduleNextEvent_running running).weaken fun _ running => running.lively
      · exact ⟨sound, armed, up⟩
  | start =>
      simp only [step]
      split
      · exact ⟨sound, armed, up⟩
      · have started : Sound agent [] { timers with isOperational := true } :=
          sound.perm (.refl _) rfl (Nat.le_refl _) sound.message
        exact handleNodeStart_lively started fun same => ⟨armed (up same), rfl⟩
  | shutdown =>
      simp only [step]
      split
      · exact ⟨sound, armed, up⟩
      · cases agent with
        | olsrEtx => exact met.elim
        | olsr => exact goDown_lively sound
  | crash =>
      simp only [step]
      split
      · exact ⟨sound, armed, up⟩
      · cases agent with
        | olsrEtx => exact met.elim
        | olsr => exact goDown_lively sound
  | changeInterface =>
      simp only [step]
      split
      · cases agent with
        | olsrEtx => exact met.elim
        | olsr =>
            exact (handleNodeShutdown_meets sound).bind fun _ down =>
              handleNodeStart_lively down.1 nofun
      · exact ⟨sound, armed, up⟩

theorem initialTimers_lively (agent : AgentClass) (config : Config) (start : Int) :
    Meets (Lively agent) (initialTimers agent config start) := by
  have empty : Sound agent [] ({} : AgentTimers) :=
    ⟨.nil, nofun, nofun, fun _ _ => nofun, nofun, nofun⟩
  obtain ⟨sound, subset⟩ := empty.arm (start + config.helloIval)
  have lively {timers : AgentTimers} (running : Running agent timers) :
      Meets (Lively agent) (scheduleNextEvent start timers) :=
    (scheduleNextEvent_running running).weaken fun _ running => running.lively
  cases agent with
  | olsr => exact lively ⟨sound, fun timer member => subset member, rfl⟩
  | olsrEtx =>
      refine lively ⟨sound.resched start (by simp [AgentClass.periodic]), ?_, rfl⟩
      have known := List.Subset.trans subset (subset_resched _ start .linkQuality)
      simp only [List.cons_append, List.cons_subset] at known
      simp only [Armed, AgentClass.periodic, List.cons_subset]
      exact ⟨known.1, known.2.1, known.2.2.1, mem_resched _ _ _, List.nil_subset _⟩

/-- The periodic timers occur once in the queue of a node that is up, and neither the
next event nor the destructor misuses an object. -/
structure PeriodicAlive (agent : AgentClass) (config : Config)
    (condition : TimerEvent → AgentTimers → Prop) (clock : Int) (timers : AgentTimers) : Prop where
  once : timers.isOperational = true →
    ∀ timer ∈ agent.periodic, timers.objects.count timer = 1
  step : ∀ now event, Enabled clock now event timers → condition event timers →
    ∀ fault, AgentTimers.step config now event timers = .error fault → fault.misuse = false
  destroy : ∀ fault, AgentTimers.destroy agent timers = .error fault → fault.misuse = false

theorem reached_lively (aboveIp : config.isInMacLayer = false) {clock : Int}
    (reached : Reached agent config (Allowed agent) clock timers) : Lively agent timers := by
  induction reached with
  | initial initialized => exact (initialTimers_lively _ _ _).result initialized
  | step _ _ met stepped ih => exact (step_lively aboveIp ih met).result stepped

end

theorem periodic_alive (agent : AgentClass) (config : Config)
    (aboveIp : config.isInMacLayer = false) (clock : Int) (timers : AgentTimers)
    (reached : Reached agent config (Allowed agent) clock timers) :
    PeriodicAlive agent config (Allowed agent) clock timers := by
  have lively := reached_lively aboveIp reached
  refine ⟨?_, ?_, ?_⟩
  · intro operational timer pointed
    exact List.count_eq_one_of_mem lively.sound.nodup (lively.armed operational pointed)
  · intro now event _ met fault failed
    exact (failed ▸ step_lively aboveIp lively met : Meets (Lively agent) (.error fault))
  · intro fault failed
    exact (failed ▸ destroy_meets lively.sound : Meets (fun _ => True) (.error fault))

/-! ## Restarts -/

def aboveIpConfig : Config := { oneIfaceConfig with isInMacLayer := false }

def after (agent : AgentClass) (events : List (Int × TimerEvent)) : Option (Int × AgentTimers) :=
  match initialTimers agent aboveIpConfig 0 with
  | .ok timers => runEvents aboveIpConfig events (0, timers)
  | .error _ => none

theorem after_reached {agent : AgentClass} {condition : TimerEvent → AgentTimers → Prop}
    {events : List (Int × TimerEvent)} {final : Int × AgentTimers}
    (met : ∀ entry ∈ events, ∀ timers, condition entry.2 timers)
    (ran : after agent events = some final) :
    Reached agent aboveIpConfig condition final.1 final.2 := by
  unfold after at ran
  split at ran
  · next timers initialized => exact runEvents_reached (.initial initialized) met ran
  · cases ran

def restart : List (Int × TimerEvent) := [(6, .crash), (7, .start), (8, .changeInterface)]

theorem periodic_alive_afterRestart :
    ∃ clock timers, after .olsr restart = some (clock, timers) ∧
      timers.objects = [.hello, .tc, .mid] ∧
      PeriodicAlive .olsr aboveIpConfig (Allowed .olsr) clock timers := by
  have ran : ((after .olsr restart).map fun final => final.2.objects) =
      some [.hello, .tc, .mid] := by decide
  obtain ⟨⟨clock, timers⟩, ran, objects⟩ := Option.map_eq_some_iff.mp ran
  have met : ∀ entry ∈ restart, ∀ timers, Allowed .olsr entry.2 timers := by
    simp [restart, Allowed]
  exact ⟨clock, timers, ran, objects,
    periodic_alive .olsr aboveIpConfig rfl clock timers (after_reached met ran)⟩

/-- The link-quality timer expires at once. After a crash and a restart it is freed,
but neither armed nor forgotten. -/
def restartEtx : List (Int × TimerEvent) := [(0, .timerMessage [{}]), (6, .crash), (7, .start)]

theorem linkQuality_lost_afterRestart :
    ¬ ∀ agent config, config.isInMacLayer = false → ∀ clock timers,
      Reached agent config (fun _ _ => True) clock timers →
      PeriodicAlive agent config (fun _ _ => True) clock timers := by
  intro claim
  have ran : ((after .olsrEtx restartEtx).map fun final =>
      (final.2.isOperational, final.2.objects)) = some (true, [.hello, .tc, .mid]) := by decide
  obtain ⟨⟨clock, timers⟩, ran, result⟩ := Option.map_eq_some_iff.mp ran
  obtain ⟨operational, objects⟩ := Prod.mk.inj result
  have alive := claim .olsrEtx aboveIpConfig rfl clock timers
    (after_reached (fun _ _ _ => trivial) ran)
  have once := alive.once operational .linkQuality (by simp [AgentClass.periodic])
  simp only [objects] at once
  revert once
  decide

/-- The destructor frees the timer again. -/
example : ((after .olsrEtx restartEtx).map fun final => destroy .olsrEtx final.2) =
    some (.error (.doubleFree .linkQuality)) := by decide

/-- A change of the interfaces of a node that is down arms its timers, and the message
that then arrives is deleted. -/
def changeWhileDown : List (Int × TimerEvent) :=
  [(6, .shutdown), (7, .changeInterface), (7 + aboveIpConfig.helloIval, .timerMessage [])]

example : ((after .olsr changeWhileDown).map fun final =>
    step aboveIpConfig final.1 .start final.2) = some (.error .freedMessage) := by decide

end AgentTimers

end SyncFanet.Olsr
