import SyncFanet.Dsr.LearnedPaths
import SyncFanet.Dsr.LinkCache
import SyncFanet.Dsr.PathStore

/-!
# Forgetting a broken link

`ph_srt_delete_link_map` takes a link out of the path cache and out of the link cache. The
scan of the paths compares them with one end of the link at a time, and the scan of the
links ends at the first direction that it finds.
-/

set_option autoImplicit false

namespace SyncFanet.Dsr

/-! ## The operation -/

/-- The path cache and the link cache of `DsrDataBase`. -/
structure DataBase where
  paths : PathsCache
  links : LinkCache

/-- `ph_srt_delete_link_map`. The root of the data base is the own address. -/
def DataBase.phSrtDeleteLinkMap (myaddr : InAddr) (now : SimTime) (data : DataBase)
    (src1 src2 : InAddr) : DataBase where
  paths := data.paths.erasePathWithLink myaddr now src1 src2 (src1 = myaddr) true
  links := data.links.deleteEdge src1 src2 true

/-! ## What it is for -/

/-- The nodes of a cached path, from this one to the destination. -/
def wholeRoute (myaddr dest : InAddr) (route : PathCacheRoute) : List InAddr :=
  myaddr :: (route ++ [dest])

/-- The route runs over a link, in one of its directions. -/
def UsesLink (a b : InAddr) (nodes : List InAddr) : Prop :=
  [a, b] <:+: nodes ∨ [b, a] <:+: nodes

/-- The edge is a direction of the link. -/
def IsLink (a b origin : InAddr) (edge : Edge) : Prop :=
  origin = a ∧ edge.lastNode = b ∨ origin = b ∧ edge.lastNode = a

/-- A link is forgotten, and nothing else. -/
structure ForgetsLink (myaddr : InAddr) (now : SimTime) (a b : InAddr) (before after : DataBase) :
    Prop where
  noPath : ∀ dest, ∀ path ∈ after.paths.paths dest, ¬UsesLink a b (wholeRoute myaddr dest path.route)
  noEdge : ∀ origin, ∀ edge ∈ after.links.links origin, ¬IsLink a b origin edge
  otherPaths : ∀ dest, ∀ path ∈ before.paths.paths dest, now < path.expires →
    ¬UsesLink a b (wholeRoute myaddr dest path.route) → path ∈ after.paths.paths dest
  otherEdges : ∀ origin, ∀ edge ∈ before.links.links origin, ¬IsLink a b origin edge →
    edge ∈ after.links.links origin

/-! ## Searching a route -/

variable {myaddr dest a b : InAddr} {now : SimTime} {route : PathCacheRoute} {path : Path}
  {cache : PathsCache}

theorem searchLink_iff : PathsCache.searchLink a b route = true ↔ a ∈ route := by
  unfold PathsCache.searchLink
  induction route with
  | nil => simp
  | cons first rest ih =>
      have prefixed : ([a, b].take 1).isPrefixOf (first :: rest) = true ↔ a = first := by
        simp
      rw [List.tails_cons, List.any_cons, Bool.or_eq_true, ih, prefixed, List.mem_cons]

/-- What a path is erased for: the first hop, where the link is from this node, and else
any of the two nodes as a relay. -/
def Erased (myaddr a b dest : InAddr) (route : PathCacheRoute) : Prop :=
  if a = myaddr then (route ++ [dest]).head? = some b else a ∈ route ∨ b ∈ route

theorem erasesPath_iff :
    PathsCache.erasesPath a b false true dest route = true ↔ a ∈ route ∨ b ∈ route := by
  unfold PathsCache.erasesPath
  simp only [Bool.false_eq_true, false_and, false_or, true_and, decide_eq_true_iff, searchLink_iff]
  constructor
  · intro erased
    cases erased with
    | inl last => exact .inl (List.mem_of_getLast? last.2)
    | inr rest =>
        cases rest with
        | inl among => exact .inl among
        | inr reverse =>
            cases reverse with
            | inl last => exact .inr (List.mem_of_getLast? last.2)
            | inr among => exact .inr among
  · intro among
    cases among with
    | inl first => exact .inr (.inl first)
    | inr second => exact .inr (.inr (.inr second))

theorem mem_eraseFirstLink : path ∈ (cache.eraseFirstLink now b).paths dest ↔
    path ∈ cache.paths dest ∧ now < path.expires ∧ (path.route ++ [dest]).head? ≠ some b := by
  have first : (path.route ++ [dest]).head? = some b ↔
      path.route = [] ∧ dest = b ∨ path.route.head? = some b := by
    cases path.route with
    | nil => simp
    | cons first rest => simp
  have direct : path ∈ (cache.eraseDirect now b).paths dest ∧ now < path.expires ↔
      path ∈ cache.paths dest ∧ now < path.expires ∧ ¬(path.route = [] ∧ dest = b) := by
    by_cases same : dest = b
    · subst same
      rw [PathsCache.paths_eraseDirect, List.mem_filter, decide_eq_true_iff]
      simp only [and_true]
      exact ⟨fun kept => ⟨kept.1.1, kept.2, kept.1.2.2⟩,
        fun kept => ⟨⟨kept.1, kept.2.1, kept.2.2⟩, kept.2.1⟩⟩
    · rw [PathsCache.paths_eraseDirect_ne same]
      simp [same]
  unfold PathsCache.eraseFirstLink
  rw [PathsCache.paths_keepPaths, List.mem_filter, decide_eq_true_iff, ← and_assoc, direct, ne_eq,
    ne_eq, first, not_or, and_assoc, and_assoc]

theorem mem_erasePathWithLink :
    path ∈ (cache.erasePathWithLink myaddr now a b (a = myaddr) true).paths dest ↔
      path ∈ cache.paths dest ∧ now < path.expires ∧ ¬Erased myaddr a b dest path.route := by
  unfold PathsCache.erasePathWithLink Erased
  by_cases here : a = myaddr
  · rw [if_pos here.symm, if_pos here]
    exact mem_eraseFirstLink
  · rw [if_neg (Ne.symm here), if_neg here, PathsCache.paths_keepPaths, List.mem_filter,
      decide_eq_false here, decide_eq_true_iff, erasesPath_iff]

/-! ## Removing an edge -/

theorem eraseP_avoids_iff {α : Type} (found : α → Bool) (items : List α) :
    (∀ item ∈ items.eraseP found, ¬found item = true) ↔ items.countP found ≤ 1 := by
  induction items with
  | nil => simp
  | cons first rest ih =>
      by_cases here : found first = true
      · rw [List.eraseP_cons_of_pos here, List.countP_cons_of_pos here]
        have none : rest.countP found + 1 ≤ 1 ↔ rest.countP found = 0 := by omega
        rw [none, List.countP_eq_zero]
      · rw [List.eraseP_cons_of_neg here, List.countP_cons_of_neg here, List.forall_mem_cons, ih]
        exact and_iff_right here

namespace LinkCache

variable {links : LinkCache}

/-- How many edges there are in the two directions of a link. -/
def linkCount (links : LinkCache) (a b : InAddr) : Nat :=
  (links.links a).countP (fun edge => edge.lastNode = b) +
    (links.links b).countP fun edge => edge.lastNode = a

@[simp] theorem links_eraseEdge (origin last : InAddr) :
    (links.eraseEdge origin last).links origin =
      (links.links origin).eraseP fun edge => edge.lastNode = last := by
  simp [LinkCache.links, eraseEdge]

theorem links_eraseEdge_ne {origin last key : InAddr} (other : key ≠ origin) :
    (links.eraseEdge origin last).links key = links.links key := by
  simp only [LinkCache.links, eraseEdge, Finmap.lookup_insert_of_ne _ other]

/-- What `deleteEdge` does in its three cases. -/
theorem deleteEdge_cases (links : LinkCache) (a b : InAddr) :
    (0 < (links.links a).countP (fun edge => edge.lastNode = b) ∧
        links.deleteEdge a b true = links.eraseEdge a b) ∨
      ((links.links a).countP (fun edge => edge.lastNode = b) = 0 ∧
        0 < (links.links b).countP (fun edge => edge.lastNode = a) ∧
        links.deleteEdge a b true = links.eraseEdge b a) ∨
      (links.linkCount a b = 0 ∧ ∀ key, (links.deleteEdge a b true).links key = links.links key) := by
  have any_iff : ∀ origin last : InAddr,
      ((links.links origin).any fun edge => edge.lastNode = last) = true ↔
        0 < (links.links origin).countP fun edge => edge.lastNode = last := by
    intro origin last
    rw [List.any_eq_true, List.countP_pos_iff]
  unfold deleteEdge linkCount
  split
  · next empty =>
      have none : ∀ key, links.links key = [] := by simp [LinkCache.links, empty]
      exact .inr (.inr ⟨by simp [none], fun _ => rfl⟩)
  · split
    · next present => exact .inl ⟨(any_iff a b).mp present, rfl⟩
    · next absent =>
        have zero := Nat.eq_zero_of_not_pos (mt (any_iff a b).mpr absent)
        split
        · next present => exact .inr (.inl ⟨zero, (any_iff b a).mp present.2, rfl⟩)
        · next absent' =>
            have zero' := Nat.eq_zero_of_not_pos
              (mt (any_iff b a).mpr fun present => absent' ⟨rfl, present⟩)
            exact .inr (.inr ⟨by rw [zero, zero'], fun _ => rfl⟩)

theorem mem_deleteEdge {origin : InAddr} {edge : Edge} (stored : edge ∈ links.links origin)
    (other : ¬IsLink a b origin edge) : edge ∈ (links.deleteEdge a b true).links origin := by
  have erased : ∀ origin' last, (origin = origin' → edge.lastNode ≠ last) →
      edge ∈ (links.eraseEdge origin' last).links origin := by
    intro origin' last differs
    by_cases same : origin = origin'
    · subst same
      rw [links_eraseEdge]
      have kept : edge ∈ (links.links origin).eraseP (fun edge => edge.lastNode = last) ↔
          edge ∈ links.links origin := by
        apply List.mem_eraseP_of_neg
        simpa using differs rfl
      exact kept.mpr stored
    · rwa [links_eraseEdge_ne same]
  rcases deleteEdge_cases links a b with ⟨_, deleted⟩ | ⟨_, _, deleted⟩ | ⟨_, unchanged⟩
  · rw [deleted]
    exact erased a b fun start last => other (.inl ⟨start, last⟩)
  · rw [deleted]
    exact erased b a fun start last => other (.inr ⟨start, last⟩)
  · rwa [unchanged]

theorem noEdge_iff (distinct : a ≠ b) :
    (∀ origin, ∀ edge ∈ (links.deleteEdge a b true).links origin, ¬IsLink a b origin edge) ↔
      links.linkCount a b ≤ 1 := by
  have ends : ∀ cache : LinkCache,
      (∀ origin, ∀ edge ∈ cache.links origin, ¬IsLink a b origin edge) ↔
        (∀ edge ∈ cache.links a, ¬decide (edge.lastNode = b) = true) ∧
          ∀ edge ∈ cache.links b, ¬decide (edge.lastNode = a) = true := by
    intro cache
    simp only [decide_eq_true_iff]
    constructor
    · intro none
      exact ⟨fun edge member last => none a edge member (.inl ⟨rfl, last⟩),
        fun edge member last => none b edge member (.inr ⟨rfl, last⟩)⟩
    · intro none origin edge member link
      cases link with
      | inl forward => exact none.1 edge (forward.1 ▸ member) forward.2
      | inr reverse => exact none.2 edge (reverse.1 ▸ member) reverse.2
  rw [ends]
  unfold linkCount
  rcases deleteEdge_cases links a b with
    ⟨present, deleted⟩ | ⟨absent, present, deleted⟩ | ⟨zero, unchanged⟩
  · rw [deleted, links_eraseEdge, links_eraseEdge_ne distinct.symm, eraseP_avoids_iff,
      ← List.countP_eq_zero]
    omega
  · rw [deleted, links_eraseEdge, links_eraseEdge_ne distinct, eraseP_avoids_iff,
      ← List.countP_eq_zero]
    omega
  · unfold linkCount at zero
    rw [unchanged, unchanged, ← List.countP_eq_zero, ← List.countP_eq_zero]
    omega

end LinkCache

/-! ## When the link is forgotten -/

/-- Every path that has not expired and that runs over the link starts with it, where it is
a link from this node, and else runs through one of its nodes, as no other path does. -/
def Separable (myaddr : InAddr) (now : SimTime) (a b : InAddr) (cache : PathsCache) : Prop :=
  ∀ dest, ∀ path ∈ cache.paths dest, now < path.expires →
    if a = myaddr then
      UsesLink a b (wholeRoute myaddr dest path.route) → (path.route ++ [dest]).head? = some b
    else
      UsesLink a b (wholeRoute myaddr dest path.route) ↔ a ∈ path.route ∨ b ∈ path.route

theorem separable_iff : Separable myaddr now a b cache ↔
    ∀ dest, ∀ path ∈ cache.paths dest, now < path.expires →
      (UsesLink a b (wholeRoute myaddr dest path.route) ↔ Erased myaddr a b dest path.route) := by
  unfold Separable Erased
  apply forall_congr'
  intro dest
  apply forall₃_congr
  intro path _ _
  by_cases here : a = myaddr
  · subst here
    simp only [if_true]
    constructor
    · intro starts
      refine ⟨starts, fun first => ?_⟩
      obtain ⟨rest, split⟩ := List.head?_eq_some_iff.mp first
      exact .inl ⟨[], rest, by rw [wholeRoute, split]; rfl⟩
    · exact fun same => same.mp
  · simp only [if_neg here]

/-- A link is forgotten, and nothing else, where one edge at most stands for it and the
paths that run over it can be told by one of its nodes. -/
theorem forgetsLink_iff (myaddr : InAddr) (now : SimTime) (data : DataBase) (a b : InAddr)
    (distinct : a ≠ b) :
    ForgetsLink myaddr now a b data (data.phSrtDeleteLinkMap myaddr now a b) ↔
      Separable myaddr now a b data.paths ∧ data.links.linkCount a b ≤ 1 := by
  have kept : ∀ dest path,
      path ∈ (data.phSrtDeleteLinkMap myaddr now a b).paths.paths dest ↔
        path ∈ data.paths.paths dest ∧ now < path.expires ∧
          ¬Erased myaddr a b dest path.route := fun _ _ => mem_erasePathWithLink
  rw [separable_iff]
  constructor
  · intro forgets
    refine ⟨?_, (LinkCache.noEdge_iff distinct).mp forgets.noEdge⟩
    intro dest path member live
    constructor
    · intro uses
      by_contra unerased
      exact forgets.noPath dest path ((kept dest path).mpr ⟨member, live, unerased⟩) uses
    · intro erased
      by_contra unused
      exact ((kept dest path).mp (forgets.otherPaths dest path member live unused)).2.2 erased
  · intro condition
    constructor
    · intro dest path member uses
      have stays := (kept dest path).mp member
      exact stays.2.2 ((condition.1 dest path stays.1 stays.2.1).mp uses)
    · exact (LinkCache.noEdge_iff distinct).mpr condition.2
    · intro dest path member live unused
      exact (kept dest path).mpr ⟨member, live, mt (condition.1 dest path member live).mpr unused⟩
    · exact fun origin edge stored other => LinkCache.mem_deleteEdge stored other

/-- One path over a link between two relays, and an edge for one direction of it. -/
theorem forgetsLink_relays :
    let data : DataBase :=
      { paths := PathsCache.setPath 0 ∅ 4 [2, 3] [] 3 valid 10
        links := LinkCache.addEdge 0 { linkArray := ∅, routeMap := ∅ } 2 3 1 10 }
    2 ≠ 3 ∧ ForgetsLink 1 0 2 3 data (data.phSrtDeleteLinkMap 1 0 2 3) := by
  refine ⟨by decide, (forgetsLink_iff 1 0 _ 2 3 (by decide)).mpr ⟨?_, by decide⟩⟩
  intro dest path member live
  cases PathsCache.mem_paths_setPath member with
  | inl old => simp [PathsCache.paths] at old
  | inr set =>
      rw [if_neg (by decide), set.1, set.2]
      unfold UsesLink wholeRoute
      decide

/-- A path through one end of the link is erased, although it runs over another link of
this end, and an edge is left where there is one for each direction. -/
theorem not_forgetsLink :
    let data : DataBase :=
      { paths := PathsCache.setPath 0 ∅ 4 [2, 3] [] 3 valid 10
        links := LinkCache.phAddLinkMap 0 { linkArray := ∅, routeMap := ∅ } 2 5 10 }
    ¬ForgetsLink 1 0 2 5 data (data.phSrtDeleteLinkMap 1 0 2 5) := by
  intro data forgets
  have kept := forgets.otherPaths 4
    { status := valid, cost := 3, expires := usecs 10, route := [2, 3], vectorCost := [] }
    (by decide) (by decide) (by unfold UsesLink wholeRoute; decide)
  exact absurd kept (by decide)

end SyncFanet.Dsr
