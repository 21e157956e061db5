import SyncFanet.Dsr.LearnedPaths
import SyncFanet.Dsr.PathStore

/-!
# The path cache as a map with expiry

What the path cache is for: a map from destinations and routes to costs, a status and an
expiry time, in which an entry is gone when its time is reached. The cache behaves as this
map as long as `setPathsTimer` does not come across a path that has expired and is still
stored, which it brings back.
-/

set_option autoImplicit false

namespace SyncFanet.Dsr

/-! ## Operations -/

inductive PathOp where
  | setPath (dest : InAddr) (route : PathCacheRoute) (costVect : PathCacheCost) (cost : ℚ)
      (status : Int) (timeout : Nat)
  | setPathStatus (dest : InAddr) (route : PathCacheRoute) (status : Int)
  | setPathsTimer (dest : InAddr) (route : PathCacheRoute) (timeout : Nat)
  | deleteAddress (dest : InAddr)
  | erasePathWithNode (dest : InAddr)
  | purgePathCache
  | getPaths (dest : InAddr)
  | getPathCosVect (dest : InAddr) (timeout : Nat)

/-- What an operation returns. -/
inductive PathAnswer where
  | done
  | found (paths : Option (List (PathCacheRoute × PathCacheCost)))
  | chosen (path : Option (PathCacheRoute × PathCacheCost × ℚ))

/-- The operation stores a path. -/
def PathOp.Sets (dest : InAddr) (route : PathCacheRoute) : PathOp → Prop
  | .setPath dest' route' _ _ _ _ => dest' = dest ∧ route' = route
  | _ => False

/-- The operation asks for paths to a destination. -/
def PathOp.Asks (dest : InAddr) : PathOp → Prop
  | .getPaths dest' => dest' = dest
  | .getPathCosVect dest' _ => dest' = dest
  | _ => False

def PathAnswer.Returns (route : PathCacheRoute) : PathAnswer → Prop
  | .found (some paths) => route ∈ paths.map Prod.fst
  | .chosen (some path) => path.1 = route
  | _ => False

/-- An operation of `DsrDataBase`. -/
def PathsCache.perform (now : SimTime) (cache : PathsCache) : PathOp → PathsCache × PathAnswer
  | .setPath dest route costVect cost status timeout =>
      (cache.setPath now dest route costVect cost status timeout, .done)
  | .setPathStatus dest route status => (cache.setPathStatus now dest route status, .done)
  | .setPathsTimer dest route timeout => (cache.setPathsTimer now dest route timeout, .done)
  | .deleteAddress dest => (cache.deleteAddress dest, .done)
  | .erasePathWithNode dest => (cache.erasePathWithNode now dest, .done)
  | .purgePathCache => (cache.purgePathCache now, .done)
  | .getPaths dest => ((cache.getPaths now dest).1, .found (cache.getPaths now dest).2)
  | .getPathCosVect dest timeout =>
      ((cache.getPathCosVect now dest timeout).1,
        .chosen (cache.getPathCosVect now dest timeout).2)

/-- A run of operations at times that do not decrease, each of which is allowed where it
happens, with what they return. -/
inductive PathRun (allowed : SimTime → PathsCache → PathOp → Prop) :
    SimTime → PathsCache → List (SimTime × PathOp × PathAnswer) → SimTime → PathsCache → Prop where
  | stop (now : SimTime) (cache : PathsCache) : PathRun allowed now cache [] now cache
  | step {now time last : SimTime} {cache cache' : PathsCache} {op : PathOp}
      {events : List (SimTime × PathOp × PathAnswer)} (later : now ≤ time)
      (allows : allowed time cache op)
      (rest : PathRun allowed time (cache.perform time op).1 events last cache') :
      PathRun allowed now cache ((time, op, (cache.perform time op).2) :: events) last cache'

/-! ## The map -/

/-- What is stored under a destination and a route. -/
structure PathEntry where
  costVect : PathCacheCost
  status : Int
  expires : SimTime

def PathEntry.cost (entry : PathEntry) (route : PathCacheRoute) : ℚ :=
  match entry.costVect with
  | [] => route.length + 1
  | costs => costs.sum

abbrev PathMap := InAddr → PathCacheRoute → Option PathEntry

namespace PathMap

def Holds (map : PathMap) (now : SimTime) (dest : InAddr) (route : PathCacheRoute)
    (entry : PathEntry) : Prop :=
  map dest route = some entry ∧ now < entry.expires

def write (map : PathMap) (dest : InAddr) (route : PathCacheRoute) (entry : Option PathEntry) :
    PathMap :=
  fun dest' route' => if dest' = dest ∧ route' = route then entry else map dest' route'

/-- A change of an entry, if it exists. -/
def change (map : PathMap) (now : SimTime) (dest : InAddr) (route : PathCacheRoute)
    (update : PathEntry → PathEntry) : PathMap :=
  map.write dest route
    ((map dest route).bind fun entry => if now < entry.expires then some (update entry) else none)

/-- The map with the entries that a condition on destination and route keeps. -/
def keep (map : PathMap) (kept : InAddr → PathCacheRoute → Prop)
    [∀ dest route, Decidable (kept dest route)] : PathMap :=
  fun dest route => if kept dest route then map dest route else none

/-- A route to a destination that may be chosen: it is valid, none is cheaper, and none of
the same cost lasts longer. -/
structure Best (map : PathMap) (now : SimTime) (dest : InAddr) (route : PathCacheRoute)
    (entry : PathEntry) : Prop where
  holds : map.Holds now dest route entry
  valid : entry.status = valid
  least : ∀ route' entry', map.Holds now dest route' entry' → entry'.status = Dsr.valid →
    entry.cost route < entry'.cost route' ∨
      entry.cost route = entry'.cost route' ∧ entry'.expires ≤ entry.expires

theorem Holds.earlier {map : PathMap} {now time : SimTime} {dest : InAddr}
    {route : PathCacheRoute} {entry : PathEntry} (holds : map.Holds time dest route entry)
    (later : now ≤ time) : map.Holds now dest route entry :=
  ⟨holds.1, later.trans_lt holds.2⟩

/-- What an operation does to the map, and what it may return. -/
inductive Step (now : SimTime) (map : PathMap) : PathOp → PathAnswer → PathMap → Prop where
  | setPath (dest : InAddr) (route : PathCacheRoute) (costVect : PathCacheCost) (cost : ℚ)
      (status : Int) (timeout : Nat) :
      Step now map (.setPath dest route costVect cost status timeout) .done
        (map.write dest route (some ⟨costVect, status, now + usecs timeout⟩))
  | setPathStatus (dest : InAddr) (route : PathCacheRoute) (status : Int) :
      Step now map (.setPathStatus dest route status) .done
        (map.change now dest route fun entry => { entry with status := status })
  | setPathsTimer (dest : InAddr) (route : PathCacheRoute) (timeout : Nat) :
      Step now map (.setPathsTimer dest route timeout) .done
        (if timeout = 0 then map
          else map.change now dest route fun entry =>
            { entry with expires := now + usecs timeout })
  | deleteAddress (dest : InAddr) :
      Step now map (.deleteAddress dest) .done (map.keep fun dest' _ => dest' ≠ dest)
  | erasePathWithNode (dest : InAddr) :
      Step now map (.erasePathWithNode dest) .done
        (map.keep fun dest' route => dest' ≠ dest ∧ dest ∉ route)
  | purgePathCache : Step now map .purgePathCache .done map
  | noPaths (dest : InAddr) (absent : ∀ route entry, ¬map.Holds now dest route entry) :
      Step now map (.getPaths dest) (.found none) map
  | paths (dest : InAddr) (found : List (PathCacheRoute × PathCacheCost))
      (nonempty : found ≠ []) (once : (found.map Prod.fst).Nodup)
      (same : ∀ route costVect, (route, costVect) ∈ found ↔
        ∃ entry, map.Holds now dest route entry ∧ entry.costVect = costVect) :
      Step now map (.getPaths dest) (.found (some found)) map
  | noChoice (dest : InAddr) (timeout : Nat)
      (invalid : ∀ route entry, map.Holds now dest route entry → entry.status ≠ valid) :
      Step now map (.getPathCosVect dest timeout) (.chosen none) map
  | choice (dest : InAddr) (timeout : Nat) (route : PathCacheRoute) (entry : PathEntry)
      (best : map.Best now dest route entry) :
      Step now map (.getPathCosVect dest timeout)
        (.chosen (some (route, entry.costVect, entry.cost route)))
        (if timeout = 0 then map
          else map.change now dest route fun entry =>
            { entry with expires := now + usecs timeout })

/-- A run of operations on the map. -/
inductive Run : SimTime → PathMap → List (SimTime × PathOp × PathAnswer) → SimTime → PathMap →
    Prop where
  | stop (now : SimTime) (map : PathMap) : Run now map [] now map
  | step {now time last : SimTime} {map map₁ map' : PathMap} {op : PathOp} {answer : PathAnswer}
      {events : List (SimTime × PathOp × PathAnswer)} (later : now ≤ time)
      (first : Step time map op answer map₁) (rest : Run time map₁ events last map') :
      Run now map ((time, op, answer) :: events) last map'

section

variable {now time last : SimTime} {map map' : PathMap} {op : PathOp} {answer : PathAnswer}
  {dest : InAddr} {route : PathCacheRoute}

/-- Only `setPath` makes an entry that does not exist. -/
theorem Step.absent (step : map.Step now op answer map')
    (gone : ∀ entry, ¬map.Holds now dest route entry) (unset : ¬op.Sets dest route) :
    ∀ entry, ¬map'.Holds now dest route entry := by
  have changed : ∀ (dest' : InAddr) (route' : PathCacheRoute) (update : PathEntry → PathEntry),
      ∀ entry, ¬(map.change now dest' route' update).Holds now dest route entry := by
    intro dest' route' update entry present
    unfold Holds change write at present
    split at present
    · next same =>
        obtain ⟨old, stored, updated⟩ := Option.bind_eq_some_iff.mp present.1
        split at updated
        · next live => exact gone old ⟨same.1 ▸ same.2 ▸ stored, live⟩
        · cases updated
    · exact gone entry present
  have kept : ∀ (kept : InAddr → PathCacheRoute → Prop)
      [∀ dest route, Decidable (kept dest route)],
      ∀ entry, ¬(map.keep kept).Holds now dest route entry := by
    intro kept _ entry present
    unfold Holds keep at present
    split at present
    · exact gone entry present
    · cases present.1
  cases step with
  | setPath dest' route' costVect cost status timeout =>
      intro entry present
      unfold Holds write at present
      split at present
      · next same => exact unset ⟨same.1.symm, same.2.symm⟩
      · exact gone entry present
  | setPathStatus dest' route' status => exact changed _ _ _
  | setPathsTimer dest' route' timeout =>
      split
      · exact gone
      · exact changed _ _ _
  | deleteAddress dest' => exact kept _
  | erasePathWithNode dest' => exact kept _
  | purgePathCache => exact gone
  | noPaths dest' absent => exact gone
  | paths dest' found nonempty once same => exact gone
  | noChoice dest' timeout invalid => exact gone
  | choice dest' timeout route' entry best =>
      split
      · exact gone
      · exact changed _ _ _

theorem Step.holds_returned (step : map.Step now op answer map') (asks : op.Asks dest)
    (returned : answer.Returns route) : ∃ entry, map.Holds now dest route entry := by
  cases step with
  | paths dest' found nonempty once same =>
      cases asks
      obtain ⟨⟨route', costVect⟩, member, rfl⟩ := List.mem_map.mp returned
      obtain ⟨entry, present, _⟩ := (same route' costVect).mp member
      exact ⟨entry, present⟩
  | choice dest' timeout route' entry best =>
      cases asks
      cases returned
      exact ⟨entry, best.holds⟩
  | _ => first | exact absurd asks id | exact absurd returned id

theorem Run.not_returned {events : List (SimTime × PathOp × PathAnswer)}
    (run : Run now map events last map') (gone : ∀ entry, ¬map.Holds now dest route entry)
    (unset : ∀ event ∈ events, ¬event.2.1.Sets dest route) :
    ∀ event ∈ events, event.2.1.Asks dest → ¬event.2.2.Returns route := by
  induction run with
  | stop => exact fun event member => absurd member List.not_mem_nil
  | step later first rest ih =>
      have gone' := fun entry present => gone entry (Holds.earlier present later)
      intro event member asks returned
      cases List.mem_cons.mp member with
      | inl here =>
          subst here
          obtain ⟨entry, present⟩ := first.holds_returned asks returned
          exact gone' entry present
      | inr after =>
          exact ih (first.absent gone' (unset _ List.mem_cons_self))
            (fun event member => unset event (List.mem_cons_of_mem _ member)) event after asks
            returned

end

end PathMap

/-! ## Changing the paths to a destination -/

def Path.entry (path : Path) : PathEntry where
  costVect := path.vectorCost
  status := path.status
  expires := path.expires

namespace PathsCache

section

variable {now : SimTime} {route : PathCacheRoute} {update : Path → Path} {stored : List Path}
  {path new : Path}

theorem routes_updateAmong (keeps : ∀ path, (update path).route = path.route) :
    ((updateAmong now route update stored).map Path.route).Sublist (stored.map Path.route) := by
  induction stored with
  | nil => exact .slnil
  | cons old rest ih =>
      unfold updateAmong
      split
      · rw [List.map_cons, List.map_cons, keeps]
      · split
        · exact ih.cons _
        · exact ih.cons_cons _

theorem mem_unless_expired {old : Path} {others : List Path} (live : now < path.expires) :
    (path ∈ if old.expires ≤ now then others else old :: others) ↔ path = old ∨ path ∈ others := by
  split
  · next expired =>
    have different : path ≠ old := by
      intro same
      exact absurd live (not_lt.mpr (same ▸ expired))
    simp [different]
  · exact List.mem_cons

theorem mem_updateAmong (unique : (stored.map Path.route).Nodup) (live : now < path.expires) :
    path ∈ updateAmong now route update stored ↔
      (path ∈ stored ∧ path.route ≠ route) ∨
        ∃ old ∈ stored, old.route = route ∧ path = update old := by
  induction stored with
  | nil => simp [updateAmong]
  | cons old rest ih =>
      rw [List.map_cons, List.nodup_cons] at unique
      unfold updateAmong
      by_cases here : route = old.route
      · have others : ∀ other ∈ rest, other.route ≠ route := by
          intro other member same
          exact unique.1 (List.mem_map.mpr ⟨other, member, same.trans here⟩)
        rw [if_pos here, List.mem_cons]
        constructor
        · intro member
          cases member with
          | inl updated => exact .inr ⟨old, List.mem_cons_self, here.symm, updated⟩
          | inr later => exact .inl ⟨List.mem_cons_of_mem _ later, others path later⟩
        · intro either
          cases either with
          | inl kept =>
              cases List.mem_cons.mp kept.1 with
              | inl first => exact absurd (first ▸ here.symm) kept.2
              | inr later => exact .inr later
          | inr updated =>
              obtain ⟨other, member, same, rfl⟩ := updated
              cases List.mem_cons.mp member with
              | inl first => exact .inl (first ▸ rfl)
              | inr later => exact absurd same (others other later)
      · have others : path ∈ updateAmong now route update rest ↔
            (path ∈ rest ∧ path.route ≠ route) ∨
              ∃ other ∈ rest, other.route = route ∧ path = update other := ih unique.2
        have first : (∃ other ∈ old :: rest, other.route = route ∧ path = update other) ↔
            ∃ other ∈ rest, other.route = route ∧ path = update other := by
          simp [Ne.symm here]
        rw [if_neg here, first, mem_unless_expired live, others, List.mem_cons]
        constructor
        · intro member
          cases member with
          | inl first => exact .inl ⟨.inl first, first ▸ Ne.symm here⟩
          | inr later => exact later.imp (fun kept => ⟨.inr kept.1, kept.2⟩) id
        · intro either
          cases either with
          | inl kept => exact kept.1.imp id fun later => .inl ⟨later, kept.2⟩
          | inr updated => exact .inr (.inr updated)

theorem mem_setPathAmong_live (unique : (stored.map Path.route).Nodup)
    (live : now < path.expires) :
    path ∈ setPathAmong now new stored ↔ path = new ∨ path ∈ stored ∧ path.route ≠ new.route := by
  induction stored with
  | nil => simp [setPathAmong]
  | cons old rest ih =>
      rw [List.map_cons, List.nodup_cons] at unique
      unfold setPathAmong
      by_cases here : new.route = old.route
      · have others : path ∈ rest → path.route ≠ new.route := by
          intro member same
          exact unique.1 (List.mem_map.mpr ⟨path, member, same.trans here⟩)
        rw [if_pos here, List.mem_cons]
        constructor
        · intro member
          exact member.imp id fun later => ⟨List.mem_cons_of_mem _ later, others later⟩
        · intro either
          refine either.imp id fun kept => ?_
          cases List.mem_cons.mp kept.1 with
          | inl first => exact absurd (first ▸ here.symm) kept.2
          | inr later => exact later
      · have others := ih unique.2
        rw [if_neg here, mem_unless_expired live, others, List.mem_cons]
        constructor
        · intro member
          cases member with
          | inl first => exact .inr ⟨.inl first, first ▸ Ne.symm here⟩
          | inr later => exact later.imp id fun kept => ⟨.inr kept.1, kept.2⟩
        · intro either
          cases either with
          | inl same => exact .inr (.inl same)
          | inr kept => exact kept.1.imp id fun later => .inr ⟨later, kept.2⟩

theorem routes_setPathAmong (unique : (stored.map Path.route).Nodup) :
    ((setPathAmong now new stored).map Path.route).Nodup := by
  induction stored with
  | nil => exact List.nodup_singleton _
  | cons old rest ih =>
      rw [List.map_cons, List.nodup_cons] at unique
      unfold setPathAmong
      by_cases here : new.route = old.route
      · rw [if_pos here, List.map_cons, here]
        exact List.nodup_cons.mpr unique
      · rw [if_neg here]
        by_cases expired : old.expires ≤ now
        · rw [if_pos expired]
          exact ih unique.2
        · rw [if_neg expired, List.map_cons, List.nodup_cons]
          refine ⟨?_, ih unique.2⟩
          intro member
          obtain ⟨other, among, same⟩ := List.mem_map.mp member
          cases mem_setPathAmong among with
          | inl set => exact here (set ▸ same)
          | inr later => exact unique.1 (List.mem_map.mpr ⟨other, later, same⟩)

end

/-- The cache holds the entries of the map that exist at a time, each once, and expired
ones besides. -/
structure Represents (now : SimTime) (cache : PathsCache) (map : PathMap) : Prop where
  unique : ∀ dest, ((cache.paths dest).map Path.route).Nodup
  same : ∀ dest route entry, now < entry.expires →
    ((∃ path ∈ cache.paths dest, path.route = route ∧ path.entry = entry) ↔
      map dest route = some entry)

namespace Represents

variable {now time : SimTime} {cache cache' : PathsCache} {map map' : PathMap} {dest : InAddr}
  {route : PathCacheRoute}

theorem later (represents : Represents now cache map) (passes : now ≤ time) :
    Represents time cache map :=
  ⟨represents.unique, fun dest route entry live =>
    represents.same dest route entry (passes.trans_lt live)⟩

theorem holds_iff (represents : Represents now cache map) {entry : PathEntry} :
    map.Holds now dest route entry ↔
      ∃ path ∈ cache.paths dest, path.route = route ∧ path.entry = entry ∧ now < path.expires := by
  constructor
  · intro holds
    obtain ⟨path, member, here, rfl⟩ :=
      (represents.same dest route entry holds.2).mpr holds.1
    exact ⟨path, member, here, rfl, holds.2⟩
  · intro stored
    obtain ⟨path, member, here, rfl, live⟩ := stored
    exact ⟨(represents.same dest route path.entry live).mp ⟨path, member, here, rfl⟩, live⟩

theorem write_dest (represents : Represents now cache map)
    (others : ∀ key, key ≠ dest → cache'.paths key = cache.paths key)
    (others' : ∀ key, key ≠ dest → map' key = map key)
    (unique : ((cache'.paths dest).map Path.route).Nodup)
    (same : ∀ route entry, now < entry.expires →
      ((∃ path ∈ cache'.paths dest, path.route = route ∧ path.entry = entry) ↔
        map' dest route = some entry)) : Represents now cache' map' := by
  constructor
  · intro key
    by_cases here : key = dest
    · exact here ▸ unique
    · rw [others key here]
      exact represents.unique key
  · intro key route entry live
    by_cases here : key = dest
    · subst here
      exact same route entry live
    · rw [others key here, others' key here]
      exact represents.same key route entry live

theorem setPath (represents : Represents now cache map) (dest : InAddr) (route : PathCacheRoute)
    (costVect : PathCacheCost) (cost : ℚ) (status : Int) (timeout : Nat) :
    Represents now (cache.setPath now dest route costVect cost status timeout)
      (map.write dest route (some ⟨costVect, status, now + usecs timeout⟩)) := by
  let new : Path :=
    { status := status, cost := cost, expires := now + usecs timeout, route := route,
      vectorCost := costVect }
  have unique := represents.unique dest
  have stored : (cache.setPath now dest route costVect cost status timeout).paths dest =
      setPathAmong now new (cache.paths dest) := paths_insert
  refine represents.write_dest (fun key other => paths_setPath_ne other) ?_ ?_ ?_
  · intro key other
    funext route'
    simp [PathMap.write, other]
  · rw [stored]
    exact routes_setPathAmong unique
  · intro route' entry live
    rw [stored]
    constructor
    · intro found
      obtain ⟨path, member, here, rfl⟩ := found
      cases (mem_setPathAmong_live unique live).mp member with
      | inl set =>
          subst set
          simp [PathMap.write, ← here, new, Path.entry]
      | inr kept =>
          have other : route' ≠ route := here ▸ kept.2
          rw [PathMap.write, if_neg fun both => other both.2]
          exact (represents.same dest route' path.entry live).mp ⟨path, kept.1, here, rfl⟩
    · intro written
      by_cases same : route' = route
      · rw [PathMap.write, if_pos ⟨rfl, same⟩] at written
        cases written
        exact ⟨new, (mem_setPathAmong_live unique live).mpr (.inl rfl), same.symm, rfl⟩
      · rw [PathMap.write, if_neg fun both => same both.2] at written
        obtain ⟨path, member, here, rfl⟩ := (represents.same dest route' entry live).mpr written
        exact ⟨path, (mem_setPathAmong_live unique live).mpr (.inr ⟨member, here ▸ same⟩), here,
          rfl⟩

theorem updatePath (represents : Represents now cache map) {update : Path → Path}
    {change : PathEntry → PathEntry} (keeps : ∀ path, (update path).route = path.route)
    (entries : ∀ path, (update path).entry = change path.entry)
    (spared : ∀ old ∈ cache.paths dest, old.route = route → now < (update old).expires →
      now < old.expires) :
    Represents now (cache.updatePath now dest route update)
      (map.change now dest route change) := by
  have unique := represents.unique dest
  refine represents.write_dest (fun key other => paths_updatePath_ne other) ?_ ?_ ?_
  · intro key other
    funext route'
    simp [PathMap.change, PathMap.write, other]
  · rw [paths_updatePath]
    exact unique.sublist (routes_updateAmong keeps)
  · intro route' entry live
    rw [paths_updatePath]
    by_cases same : route' = route
    · subst same
      rw [PathMap.change, PathMap.write, if_pos ⟨rfl, rfl⟩, Option.bind_eq_some_iff]
      constructor
      · intro found
        obtain ⟨path, member, here, rfl⟩ := found
        cases (mem_updateAmong unique live).mp member with
        | inl kept => exact absurd here kept.2
        | inr updated =>
            obtain ⟨old, among, there, rfl⟩ := updated
            have lives : now < old.entry.expires := spared old among there live
            refine ⟨old.entry,
              (represents.same dest route' old.entry lives).mp ⟨old, among, there, rfl⟩, ?_⟩
            rw [if_pos lives, entries]
      · intro changed
        obtain ⟨entry', stored, here⟩ := changed
        by_cases lives : now < entry'.expires
        · rw [if_pos lives] at here
          cases here
          obtain ⟨old, among, there, rfl⟩ := (represents.same dest route' entry' lives).mpr stored
          have lives' : now < (update old).entry.expires := by
            rw [entries]
            exact live
          exact ⟨update old, (mem_updateAmong unique lives').mpr (.inr ⟨old, among, there, rfl⟩),
            (keeps old).trans there, entries old⟩
        · rw [if_neg lives] at here
          cases here
    · rw [PathMap.change, PathMap.write, if_neg fun both => same both.2]
      constructor
      · intro found
        obtain ⟨path, member, here, rfl⟩ := found
        cases (mem_updateAmong unique live).mp member with
        | inl kept =>
            exact (represents.same dest route' path.entry live).mp ⟨path, kept.1, here, rfl⟩
        | inr updated =>
            obtain ⟨old, among, there, rfl⟩ := updated
            exact absurd (here.symm.trans ((keeps old).trans there)) same
      · intro stored
        obtain ⟨path, member, here, rfl⟩ := (represents.same dest route' entry live).mpr stored
        exact ⟨path, (mem_updateAmong unique live).mpr (.inl ⟨member, here ▸ same⟩), here, rfl⟩

theorem filtered (represents : Represents now cache map) (kept : InAddr → Path → Bool)
    (keptRoute : InAddr → PathCacheRoute → Prop)
    (scanned : ∀ key, cache'.paths key = (cache.paths key).filter (kept key))
    (agree : ∀ key path, now < path.expires → (kept key path = true ↔ keptRoute key path.route))
    (restricted : ∀ key route, (keptRoute key route → map' key route = map key route) ∧
      (¬keptRoute key route → map' key route = none)) : Represents now cache' map' := by
  constructor
  · intro key
    rw [scanned]
    exact (represents.unique key).sublist (List.filter_sublist.map Path.route)
  · intro key route entry live
    rw [scanned]
    have stored := represents.same key route entry live
    by_cases keeps : keptRoute key route
    · rw [(restricted key route).1 keeps, ← stored]
      constructor
      · intro found
        obtain ⟨path, member, here⟩ := found
        exact ⟨path, List.mem_of_mem_filter member, here⟩
      · intro found
        obtain ⟨path, member, here, rfl⟩ := found
        have passes : kept key path = true := (agree key path live).mpr (here ▸ keeps)
        exact ⟨path, List.mem_filter.mpr ⟨member, passes⟩, here, rfl⟩
    · rw [(restricted key route).2 keeps]
      constructor
      · intro found
        obtain ⟨path, member, here, rfl⟩ := found
        exact absurd (here ▸ (agree key path live).mp (List.mem_filter.mp member).2) keeps
      · exact nofun

theorem congr (represents : Represents now cache map)
    (same : ∀ key, cache'.paths key = cache.paths key) : Represents now cache' map := by
  constructor
  · intro key
    rw [same]
    exact represents.unique key
  · intro key
    rw [same]
    exact represents.same key

theorem dropExpired (represents : Represents now cache map)
    (others : ∀ key, key ≠ dest → cache'.paths key = cache.paths key)
    (live : cache'.paths dest = (cache.paths dest).filter fun path => now < path.expires) :
    Represents now cache' map := by
  refine represents.write_dest others (fun _ _ => rfl) ?_ ?_
  · rw [live]
    exact (represents.unique dest).sublist (List.filter_sublist.map Path.route)
  · intro route entry lives
    rw [live, ← represents.same dest route entry lives]
    constructor
    · intro found
      obtain ⟨path, member, here⟩ := found
      exact ⟨path, List.mem_of_mem_filter member, here⟩
    · intro found
      obtain ⟨path, member, here, rfl⟩ := found
      have passes : decide (now < path.expires) = true := decide_eq_true lives
      exact ⟨path, List.mem_filter.mpr ⟨member, passes⟩, here, rfl⟩

end Represents

/-! ## Choosing a path -/

def chosenAt (entry : Path × Nat) : Choice where
  position := entry.2
  route := entry.1.route
  costVect := entry.1.vectorCost
  cost := costPath entry.1
  expire := entry.1.expires

def ChosenAmong (seen : List (Path × Nat)) : Option Choice → Prop
  | none => ∀ entry ∈ seen, entry.1.status ≠ valid
  | some best => ∃ entry ∈ seen, entry.1.status = valid ∧ best = chosenAt entry ∧
      ∀ other ∈ seen, other.1.status = valid → costPath entry.1 < costPath other.1 ∨
        costPath entry.1 = costPath other.1 ∧ other.1.expires ≤ entry.1.expires

theorem exists_position {path : Path} {live : List Path} (member : path ∈ live) :
    ∃ position, (path, position) ∈ live.zipIdx := by
  obtain ⟨position, here⟩ := List.mem_iff_getElem?.mp member
  exact ⟨position, List.mk_mem_zipIdx_iff_getElem?.mpr here⟩

def choose (live : List Path) : Option Choice :=
  live.zipIdx.foldl (fun chosen entry => choosePath chosen entry.2 entry.1) none

theorem getPathCosVect_live {now : SimTime} {cache : PathsCache} {dest : InAddr}
    {stored live : List Path} {timeout : Nat} (found : cache.lookup dest = some stored)
    (filtered : (stored.filter fun path => now < path.expires) = live) (nonempty : live ≠ []) :
    cache.getPathCosVect now dest timeout =
      match choose live with
      | none => (cache.insert dest live, none)
      | some best =>
          (cache.insert dest
            (if timeout > 0 then
              live.modify best.position fun path => { path with expires := now + usecs timeout }
            else live),
            some (best.route, best.costVect, best.cost)) := by
  cases live with
  | nil => exact absurd rfl nonempty
  | cons first rest =>
      simp only [getPathCosVect, found, filtered]
      rfl

theorem chosenAmong_choosePath {seen : List (Path × Nat)} {chosen : Option Choice}
    (entry : Path × Nat) (among : ChosenAmong seen chosen) :
    ChosenAmong (seen ++ [entry]) (choosePath chosen entry.2 entry.1) := by
  unfold choosePath
  by_cases usable : entry.1.status = valid
  · rw [if_pos usable]
    have last : entry ∈ seen ++ [entry] := List.mem_append_right seen List.mem_cons_self
    cases chosen with
    | none =>
        refine ⟨entry, last, usable, rfl, ?_⟩
        intro other member status
        cases List.mem_append.mp member with
        | inl earlier => exact absurd status (among other earlier)
        | inr final =>
            rw [List.mem_singleton.mp final]
            exact .inr ⟨rfl, le_refl _⟩
    | some best =>
        obtain ⟨old, member, status, rfl, least⟩ := among
        change ChosenAmong _ (if costPath entry.1 < costPath old.1 ∨
          costPath old.1 = costPath entry.1 ∧ old.1.expires < entry.1.expires then
            some (chosenAt entry) else some (chosenAt old))
        by_cases better : costPath entry.1 < costPath old.1 ∨
            costPath old.1 = costPath entry.1 ∧ old.1.expires < entry.1.expires
        · rw [if_pos better]
          refine ⟨entry, last, usable, rfl, ?_⟩
          intro other among usable'
          cases List.mem_append.mp among with
          | inl earlier =>
              have versus := least other earlier usable'
              cases better with
              | inl cheaper =>
                  cases versus with
                  | inl less => exact .inl (cheaper.trans less)
                  | inr equal => exact .inl (cheaper.trans_eq equal.1)
              | inr longer =>
                  cases versus with
                  | inl less => exact .inl (longer.1 ▸ less)
                  | inr equal =>
                      exact .inr ⟨longer.1.symm.trans equal.1, equal.2.trans longer.2.le⟩
          | inr final =>
              rw [List.mem_singleton.mp final]
              exact .inr ⟨rfl, le_refl _⟩
        · rw [if_neg better]
          refine ⟨old, List.mem_append_left _ member, status, rfl, ?_⟩
          intro other among usable'
          cases List.mem_append.mp among with
          | inl earlier => exact least other earlier usable'
          | inr final =>
              rw [List.mem_singleton.mp final]
              rw [not_or, not_lt, not_and, not_lt] at better
              cases lt_or_eq_of_le better.1 with
              | inl less => exact .inl less
              | inr equal => exact .inr ⟨equal, better.2 equal⟩
  · rw [if_neg usable]
    cases chosen with
    | none =>
        intro other member
        cases List.mem_append.mp member with
        | inl earlier => exact among other earlier
        | inr final => rwa [List.mem_singleton.mp final]
    | some best =>
        obtain ⟨old, member, status, same, least⟩ := among
        refine ⟨old, List.mem_append_left _ member, status, same, ?_⟩
        intro other among usable'
        cases List.mem_append.mp among with
        | inl earlier => exact least other earlier usable'
        | inr final => exact absurd (List.mem_singleton.mp final ▸ usable') usable

theorem chosenAmong_choose (live : List Path) : ChosenAmong live.zipIdx (choose live) :=
  foldl_seen _ ChosenAmong (fun _ member => absurd member List.not_mem_nil)
    fun _ entry _ _ among => chosenAmong_choosePath entry among

theorem modify_eq_updateAmong {now : SimTime} {update : Path → Path} {path : Path}
    {live : List Path} {position : Nat} (unique : (live.map Path.route).Nodup)
    (alive : ∀ other ∈ live, now < other.expires) (here : live[position]? = some path) :
    live.modify position update = updateAmong now path.route update live := by
  induction live generalizing position with
  | nil => cases here
  | cons first rest ih =>
      rw [List.map_cons, List.nodup_cons] at unique
      unfold updateAmong
      cases position with
      | zero =>
          cases here
          rw [if_pos rfl]
          rfl
      | succ position =>
          have later : rest[position]? = some path := here
          have other : path.route ≠ first.route := by
            intro same
            exact unique.1 (List.mem_map.mpr ⟨path, List.mem_of_getElem? later, same⟩)
          rw [if_neg other, if_neg (not_le.mpr (alive first List.mem_cons_self)),
            List.modify_succ_cons,
            ih unique.2 (fun other member => alive other (List.mem_cons_of_mem _ member)) later]

/-! ## Each operation -/

/-- `setPathsTimer` does not come across a stored path that has expired. -/
def Spared (now : SimTime) (cache : PathsCache) : PathOp → Prop
  | .setPathsTimer dest route timeout =>
      0 < timeout → ∀ path ∈ cache.paths dest, path.route = route → now < path.expires
  | _ => True

namespace Represents

variable {now : SimTime} {cache : PathsCache} {map : PathMap} {dest : InAddr}

theorem getPaths (represents : Represents now cache map) (dest : InAddr) :
    map.Step now (.getPaths dest) (.found (cache.getPaths now dest).2) map := by
  have unique := represents.unique dest
  have holds : ∀ route entry, map.Holds now dest route entry ↔
      ∃ path ∈ cache.paths dest, path.route = route ∧ path.entry = entry ∧ now < path.expires :=
    fun route entry => represents.holds_iff
  cases found : cache.lookup dest with
  | none =>
      rw [PathsCache.getPaths, found]
      have empty : cache.paths dest = [] := by simp [paths, found]
      refine .noPaths dest fun route entry present => ?_
      obtain ⟨path, member, _⟩ := (holds route entry).mp present
      rw [empty] at member
      cases member
  | some stored =>
      have same : cache.paths dest = stored := by simp [paths, found]
      rw [same] at holds unique
      cases filtered : stored.filter fun path => now < path.expires with
      | nil =>
          simp only [PathsCache.getPaths, found, filtered]
          refine .noPaths dest fun route entry present => ?_
          obtain ⟨path, member, _, _, live⟩ := (holds route entry).mp present
          exact List.filter_eq_nil_iff.mp filtered path member (decide_eq_true live)
      | cons first rest =>
          have members : ∀ path, path ∈ first :: rest ↔ path ∈ stored ∧ now < path.expires := by
            intro path
            rw [← filtered, List.mem_filter, decide_eq_true_iff]
          have routes : ((first :: rest).map Path.route).Nodup := by
            rw [← filtered]
            exact unique.sublist (List.filter_sublist.map Path.route)
          simp only [PathsCache.getPaths, found, filtered]
          apply PathMap.Step.paths
          · intro empty
            cases empty
          · rw [List.map_map]
            exact routes
          · intro route costVect
            constructor
            · intro member
              obtain ⟨path, among, pair⟩ := List.mem_map.mp member
              cases pair
              have live := (members path).mp among
              exact ⟨path.entry, (holds _ _).mpr ⟨path, live.1, rfl, rfl, live.2⟩, rfl⟩
            · intro stored
              obtain ⟨entry, present, rfl⟩ := stored
              obtain ⟨path, member, rfl, rfl, live⟩ := (holds _ _).mp present
              exact List.mem_map.mpr ⟨path, (members path).mpr ⟨member, live⟩, rfl⟩

theorem getPathCosVect (represents : Represents now cache map) (dest : InAddr) (timeout : Nat) :
    ∃ map', map.Step now (.getPathCosVect dest timeout)
        (.chosen (cache.getPathCosVect now dest timeout).2) map' ∧
      Represents now (cache.getPathCosVect now dest timeout).1 map' := by
  have holds : ∀ route entry, map.Holds now dest route entry ↔
      ∃ path ∈ cache.paths dest, path.route = route ∧ path.entry = entry ∧ now < path.expires :=
    fun route entry => represents.holds_iff
  cases found : cache.lookup dest with
  | none =>
      have empty : cache.paths dest = [] := by simp [paths, found]
      simp only [PathsCache.getPathCosVect, found]
      refine ⟨map, .noChoice dest timeout fun route entry present => ?_, represents⟩
      obtain ⟨path, member, _⟩ := (holds route entry).mp present
      rw [empty] at member
      cases member
  | some stored =>
      have same : cache.paths dest = stored := by simp [paths, found]
      rw [same] at holds
      cases filtered : stored.filter fun path => now < path.expires with
      | nil =>
          simp only [PathsCache.getPathCosVect, found, filtered]
          refine ⟨map, .noChoice dest timeout fun route entry present => ?_, ?_⟩
          · obtain ⟨path, member, _, _, live⟩ := (holds route entry).mp present
            exact absurd (decide_eq_true live) (List.filter_eq_nil_iff.mp filtered path member)
          · apply represents.dropExpired fun key other => paths_erase_ne other
            rw [same, filtered, paths_erase]
      | cons first rest =>
          have nonempty : first :: rest ≠ [] := List.cons_ne_nil first rest
          generalize first :: rest = live at filtered nonempty
          have members : ∀ path, path ∈ live ↔ path ∈ stored ∧ now < path.expires := by
            intro path
            rw [← filtered, List.mem_filter, decide_eq_true_iff]
          have written : Represents now (cache.insert dest live) map := by
            apply represents.dropExpired fun key other => paths_insert_ne other
            rw [same, filtered, paths_insert]
          have unique : (live.map Path.route).Nodup := by
            have routes := written.unique dest
            rwa [paths_insert] at routes
          rw [getPathCosVect_live found filtered nonempty]
          have among := chosenAmong_choose live
          cases chosen : choose live with
          | none =>
              rw [chosen] at among
              refine ⟨map, .noChoice dest timeout fun route entry present => ?_, written⟩
              obtain ⟨path, member, _, rfl, lives⟩ := (holds route entry).mp present
              obtain ⟨position, here⟩ := exists_position ((members path).mpr ⟨member, lives⟩)
              exact among _ here
          | some best =>
              rw [chosen] at among
              obtain ⟨⟨path, position⟩, member, usable, rfl, least⟩ := among
              have here : live[position]? = some path :=
                List.mk_mem_zipIdx_iff_getElem?.mp member
              have lives : path ∈ stored ∧ now < path.expires :=
                (members path).mp (List.mem_of_getElem? here)
              have best : map.Best now dest path.route path.entry := by
                refine ⟨(holds _ _).mpr ⟨path, lives.1, rfl, rfl, lives.2⟩, usable, ?_⟩
                intro route' entry' present usable'
                obtain ⟨other, among, rfl, rfl, live'⟩ := (holds _ _).mp present
                obtain ⟨position', there⟩ := exists_position ((members other).mpr ⟨among, live'⟩)
                exact least _ there usable'
              refine ⟨_, .choice dest timeout path.route path.entry best, ?_⟩
              by_cases refreshes : timeout > 0
              · have changed : live.modify position
                    (fun path => { path with expires := now + usecs timeout }) =
                    updateAmong now path.route
                      (fun path => { path with expires := now + usecs timeout }) live :=
                  modify_eq_updateAmong unique (fun other member => ((members other).mp member).2)
                    here
                have spared : ∀ old ∈ paths (cache.insert dest live) dest,
                    old.route = path.route → now < now + usecs timeout → now < old.expires := by
                  intro old among _ _
                  rw [paths_insert] at among
                  exact ((members old).mp among).2
                have updated : Represents now
                    (PathsCache.updatePath now (cache.insert dest live) dest path.route
                      fun path => { path with expires := now + usecs timeout })
                    (map.change now dest path.route
                      fun entry => { entry with expires := now + usecs timeout }) :=
                  Represents.updatePath written (fun _ => rfl) (fun _ => rfl) spared
                simp only [chosenAt, if_pos refreshes, if_neg refreshes.ne', changed]
                apply updated.congr
                intro key
                by_cases same : key = dest
                · subst same
                  rw [paths_insert, paths_updatePath, paths_insert]
                · rw [paths_insert_ne same, paths_updatePath_ne same, paths_insert_ne same]
              · have zero : timeout = 0 := Nat.eq_zero_of_not_pos refreshes
                subst zero
                exact written

theorem perform (represents : Represents now cache map) (op : PathOp)
    (spared : Spared now cache op) :
    ∃ map', map.Step now op (cache.perform now op).2 map' ∧
      Represents now (cache.perform now op).1 map' := by
  cases op with
  | setPath dest route costVect cost status timeout =>
      exact ⟨_, .setPath dest route costVect cost status timeout,
        represents.setPath dest route costVect cost status timeout⟩
  | setPathStatus dest route status =>
      exact ⟨_, .setPathStatus dest route status,
        represents.updatePath (fun _ => rfl) (fun _ => rfl) fun _ _ _ live => live⟩
  | setPathsTimer dest route timeout =>
      refine ⟨_, .setPathsTimer dest route timeout, ?_⟩
      simp only [PathsCache.perform, PathsCache.setPathsTimer]
      by_cases zero : timeout = 0
      · rw [if_pos zero, if_pos zero]
        exact represents
      · rw [if_neg zero, if_neg zero]
        have unexpired : ∀ old ∈ cache.paths dest, old.route = route → now < old.expires :=
          spared (Nat.pos_of_ne_zero zero)
        exact represents.updatePath (fun _ => rfl) (fun _ => rfl)
          fun old member same _ => unexpired old member same
  | deleteAddress dest =>
      refine ⟨_, .deleteAddress dest, ?_⟩
      apply represents.filtered (fun key _ => key ≠ dest) (fun key _ => key ≠ dest)
      · intro key
        by_cases same : key = dest
        · subst same
          simp [PathsCache.perform, PathsCache.deleteAddress]
        · simp [PathsCache.perform, PathsCache.deleteAddress, same]
      · simp
      · intro key route
        exact ⟨fun kept => if_pos kept, fun dropped => if_neg dropped⟩
  | erasePathWithNode dest =>
      refine ⟨_, .erasePathWithNode dest, ?_⟩
      apply represents.filtered
        (fun key path => key ≠ dest ∧ now < path.expires ∧ dest ∉ path.route)
        (fun key route => key ≠ dest ∧ dest ∉ route)
      · intro key
        by_cases same : key = dest
        · subst same
          simp [PathsCache.perform, PathsCache.erasePathWithNode, PathsCache.deleteAddress]
        · simp [PathsCache.perform, PathsCache.erasePathWithNode, PathsCache.deleteAddress, same]
      · intro key path live
        simp [live]
      · intro key route
        exact ⟨fun kept => if_pos kept, fun dropped => if_neg dropped⟩
  | purgePathCache =>
      refine ⟨_, .purgePathCache, ?_⟩
      apply represents.filtered (fun _ path => now < path.expires) (fun _ _ => True)
      · exact fun key => paths_keepPaths _
      · intro key path live
        simp [live]
      · simp
  | getPaths dest =>
      exact ⟨_, represents.getPaths dest,
        represents.dropExpired (fun key other => paths_getPaths_ne other) paths_getPaths⟩
  | getPathCosVect dest timeout => exact represents.getPathCosVect dest timeout

end Represents

theorem represents_empty (now : SimTime) : Represents now ∅ fun _ _ => none := by
  constructor
  · exact fun _ => List.nodup_nil
  · intro dest route entry _
    simp [paths]

theorem Represents.run {now last : SimTime} {cache cache' : PathsCache} {map : PathMap}
    {events : List (SimTime × PathOp × PathAnswer)} (represents : Represents now cache map)
    (run : PathRun Spared now cache events last cache') :
    ∃ map', map.Run now events last map' ∧ Represents last cache' map' := by
  induction run generalizing map with
  | stop now cache => exact ⟨map, .stop now map, represents⟩
  | @step now time last cache cache' op events later spared rest ih =>
      obtain ⟨map₁, first, after⟩ := (represents.later later).perform op spared
      obtain ⟨map', remaining, ended⟩ := ih after
      exact ⟨map', .step later first remaining, ended⟩

/-- The path cache is a map with expiry, as long as no expired path is brought back: what
its operations return is what the map returns, and a path that has expired is not returned
until it is set anew. -/
theorem represents_run {start now : SimTime} {cache : PathsCache}
    {events : List (SimTime × PathOp × PathAnswer)}
    (run : PathRun Spared start ∅ events now cache) :
    (∃ map, PathMap.Run start (fun _ _ => none) events now map ∧ Represents now cache map) ∧
      ∀ (time last : SimTime) (cache' : PathsCache) (dest : InAddr) (route : PathCacheRoute)
        (events' : List (SimTime × PathOp × PathAnswer)), now ≤ time →
        PathRun Spared time cache events' last cache' →
        (∀ path ∈ cache.paths dest, path.route = route → path.expires ≤ time) →
        (∀ event ∈ events', ¬event.2.1.Sets dest route) →
        ∀ event ∈ events', event.2.1.Asks dest → ¬event.2.2.Returns route := by
  obtain ⟨map, ran, represents⟩ := (represents_empty start).run run
  refine ⟨⟨map, ran, represents⟩, ?_⟩
  intro time last cache' dest route events' later continues expired unset
  have represents' := represents.later later
  obtain ⟨map', ran', _⟩ := represents'.run continues
  apply ran'.not_returned _ unset
  intro entry present
  obtain ⟨path, member, same, _, live⟩ := represents'.holds_iff.mp present
  exact absurd live (not_lt.mpr (expired path member same))

/-- A path that is stored, has its time extended and is returned, until it expires. -/
theorem represents_run_extended :
    let events : List (SimTime × PathOp × PathAnswer) :=
      [(0, .setPath 2 [3] [] 2 valid 10, .done), (usecs 5, .setPathsTimer 2 [3] 20, .done),
        (usecs 12, .getPaths 2, .found (some [([3], [])]))]
    (∃ map, PathMap.Run 0 (fun _ _ => none) events (usecs 12) map) ∧
      ∀ event ∈ [((usecs 25, .getPaths 2, .found none) : SimTime × PathOp × PathAnswer)],
        event.2.1.Asks 2 → ¬event.2.2.Returns [3] := by
  have run : PathRun Spared 0 ∅
      [(0, .setPath 2 [3] [] 2 valid 10, .done), (usecs 5, .setPathsTimer 2 [3] 20, .done),
        (usecs 12, .getPaths 2, .found (some [([3], [])]))] (usecs 12) _ :=
    .step (le_refl (0 : SimTime)) trivial
      (.step (by decide : (0 : SimTime) ≤ usecs 5) (fun _ => by decide)
        (.step (by decide : usecs 5 ≤ usecs 12) trivial (.stop _ _)))
  have whole := represents_run run
  obtain ⟨map, ran, _⟩ := whole.1
  refine ⟨⟨map, ran⟩, ?_⟩
  exact whole.2 (usecs 25) (usecs 25) _ 2 [3] _ (by decide)
    (.step (le_refl (usecs 25)) trivial (.stop _ _)) (by decide) (by simp [PathOp.Sets])

/-- `setPathsTimer` brings back a path that has expired, which the map does not. -/
theorem not_represents_run :
    ∃ events last cache, PathRun (fun _ _ _ => True) 0 ∅ events last cache ∧
      ¬∃ map, PathMap.Run 0 (fun _ _ => none) events last map := by
  refine ⟨[(0, .setPath 2 [] [] 1 valid 1, .done), (usecs 5, .setPathsTimer 2 [] 10, .done),
    (usecs 6, .getPaths 2, .found (some [([], [])]))], usecs 6, _,
    .step (by decide) trivial (.step (by decide) trivial (.step (by decide) trivial
      (.stop _ _))), ?_⟩
  intro simulated
  obtain ⟨map, ran⟩ := simulated
  cases ran with
  | step _ first rest =>
      cases first with
      | setPath =>
          cases rest with
          | step _ second rest =>
              have later : PathMap.Run (usecs 5) _ _ (usecs 6) map :=
                .step (le_refl (usecs 5)) second rest
              have gone : ∀ entry, ¬PathMap.Holds
                  (PathMap.write (fun _ _ => none) 2 [] (some ⟨[], valid, 0 + usecs 1⟩)) (usecs 5)
                  2 [] entry := by
                intro entry present
                cases present.1
                exact absurd present.2 (by decide)
              exact later.not_returned gone (by simp [PathOp.Sets]) _
                (List.mem_cons_of_mem _ List.mem_cons_self) rfl (by simp [PathAnswer.Returns])

end PathsCache

end SyncFanet.Dsr
