import SyncFanet.Olsr.RtableComputation

/-!
# What each pass of the routing table computation stores

The 1-hop pass stores an entry for every address of a linked symmetric neighbor,
the 2-hop pass replaces nothing that it reads, and a layer only adds entries for
addresses that had none.
-/

set_option autoImplicit false

namespace SyncFanet.Olsr

open Rtable (notMeasured)

variable {addr : NsAddr} {now : Int}

/-! ## Symmetric neighbors -/

def linkEntry (link : LinkTuple) : RtEntry where
  destAddr := link.nbIfaceAddr
  nextAddr := link.nbIfaceAddr
  ifaceAddr := link.localIfaceAddr
  dist := 1
  localIfaceIndex := link.localIfaceIndex
  route := []
  quality := notMeasured
  delay := notMeasured

def mainEntry (nb : NbTuple) (lt : LinkTuple) : RtEntry where
  destAddr := nb.nbMainAddr
  nextAddr := lt.nbIfaceAddr
  ifaceAddr := lt.localIfaceAddr
  dist := 1
  localIfaceIndex := lt.localIfaceIndex
  route := []
  quality := notMeasured
  delay := notMeasured

theorem mem_linksOf {state : State} {nb : NbTuple} {link : LinkTuple} :
    link ∈ linksOf state now nb ↔
      link ∈ state.linkset ∧ state.getMainAddr link.nbIfaceAddr = nb.nbMainAddr ∧
        now ≤ link.time := by
  simp [linksOf]

theorem lookup_addLinkEntry (rtable : Rtable) (link : LinkTuple) (addr : NsAddr) :
    (addLinkEntry rtable link).lookup addr =
      if addr = link.nbIfaceAddr then some (linkEntry link) else rtable.lookup addr := by
  exact Rtable.lookup_store rtable (linkEntry link) addr

theorem lookup_addMainEntry (rtable : Rtable) (nb : NbTuple) (lt : LinkTuple)
    (addr : NsAddr) :
    (addMainEntry rtable nb lt).lookup addr =
      if addr = nb.nbMainAddr then some (mainEntry nb lt) else rtable.lookup addr := by
  exact Rtable.lookup_store rtable (mainEntry nb lt) addr

theorem lookup_linkEntries (links : List LinkTuple) (rtable : Rtable) (addr : NsAddr) :
    (∃ link ∈ links, link.nbIfaceAddr = addr ∧
      (links.foldl addLinkEntry rtable).lookup addr = some (linkEntry link)) ∨
    ((∀ link ∈ links, link.nbIfaceAddr ≠ addr) ∧
      (links.foldl addLinkEntry rtable).lookup addr = rtable.lookup addr) := by
  induction links generalizing rtable with
  | nil => exact .inr ⟨by simp, rfl⟩
  | cons head tail ih =>
      simp only [List.foldl_cons]
      rcases ih (addLinkEntry rtable head) with ⟨link, member, same, found⟩ | ⟨others, found⟩
      · exact .inl ⟨link, by simp [member], same, found⟩
      · rw [lookup_addLinkEntry] at found
        by_cases here : addr = head.nbIfaceAddr
        · rw [if_pos here] at found
          exact .inl ⟨head, by simp, here.symm, found⟩
        · rw [if_neg here] at found
          refine .inr ⟨?_, found⟩
          intro link member
          rcases List.mem_cons.mp member with rfl | member
          · exact fun same => here same.symm
          · exact others link member

theorem lookup_addNeighborEntries (state : State) (now : Int) (rtable : Rtable)
    (nb : NbTuple) (addr : NsAddr) :
    (nb.status = .sym ∧ ∃ link ∈ linksOf state now nb, link.nbIfaceAddr = addr ∧
      (addNeighborEntries state now rtable nb).lookup addr = some (linkEntry link)) ∨
    (nb.status = .sym ∧ nb.nbMainAddr = addr ∧
      (∀ link ∈ linksOf state now nb, link.nbIfaceAddr ≠ addr) ∧
      ∃ lt ∈ linksOf state now nb,
        (addNeighborEntries state now rtable nb).lookup addr = some (mainEntry nb lt)) ∨
    ((nb.status = .sym → (∀ link ∈ linksOf state now nb, link.nbIfaceAddr ≠ addr) ∧
        (nb.nbMainAddr = addr → linksOf state now nb = [])) ∧
      (addNeighborEntries state now rtable nb).lookup addr = rtable.lookup addr) := by
  cases status : nb.status with
  | notSym =>
      refine .inr (.inr ⟨fun sym => by simp at sym, ?_⟩)
      simp [addNeighborEntries, status]
  | sym =>
      simp only [addNeighborEntries, status, if_true, true_and, forall_const]
      have linked := lookup_linkEntries (linksOf state now nb) rtable addr
      cases direct : (linksOf state now nb).any fun link =>
          decide (link.nbIfaceAddr = nb.nbMainAddr) with
      | true =>
          simp only [if_true]
          rcases linked with found | ⟨others, kept⟩
          · exact .inl found
          · refine .inr (.inr ⟨⟨others, ?_⟩, kept⟩)
            rintro rfl
            obtain ⟨link, member, same⟩ := List.any_eq_true.mp direct
            exact absurd (of_decide_eq_true same) (others link member)
      | false =>
          have indirect : ∀ link ∈ linksOf state now nb, link.nbIfaceAddr ≠ nb.nbMainAddr := by
            intro link member same
            rw [List.any_eq_false] at direct
            exact direct link member (by simpa using same)
          simp only [Bool.false_eq_true, if_false]
          cases last : (linksOf state now nb).getLast? with
          | none =>
              have empty := List.getLast?_eq_none_iff.mp last
              rw [empty] at linked ⊢
              exact .inr (.inr ⟨⟨by simp, fun _ => rfl⟩, rfl⟩)
          | some lt =>
              have member := List.mem_of_getLast? last
              simp only [lookup_addMainEntry]
              by_cases main : addr = nb.nbMainAddr
              · subst main
                exact .inr (.inl ⟨rfl, indirect, lt, member, by simp⟩)
              · simp only [main, if_false]
                rcases linked with found | ⟨others, kept⟩
                · exact .inl found
                · exact .inr (.inr ⟨⟨others, fun same => absurd same.symm main⟩, kept⟩)

/-- An address of a symmetric neighbor with an unexpired link: the address of
such a link, or the neighbor's main address. -/
def OneHop (state : State) (now : Int) (addr : NsAddr) : Prop :=
  ∃ nb ∈ state.nbset, nb.status = .sym ∧
    ∃ link ∈ linksOf state now nb, link.nbIfaceAddr = addr ∨ nb.nbMainAddr = addr

def NeighborEntry (state : State) (now : Int) (entry : RtEntry) : Prop :=
  ∃ nb ∈ state.nbset, nb.status = .sym ∧ ∃ link ∈ linksOf state now nb,
    entry = linkEntry link ∨ entry = mainEntry nb link

theorem neighborPass_found {state : State} {entry : RtEntry}
    (found : (neighborPass state now).lookup addr = some entry) :
    NeighborEntry state now entry := by
  have pass : ∀ entry, (neighborPass state now).lookup addr = some entry →
      NeighborEntry state now entry := by
    refine foldl_keeps (addNeighborEntries state now)
      (fun rtable => ∀ entry, Rtable.lookup rtable addr = some entry →
        NeighborEntry state now entry) (by simp) ?_
    intro nb rtable member holds entry found
    rcases lookup_addNeighborEntries state now rtable nb addr with
      ⟨sym, link, included, _, stored⟩ | ⟨sym, _, _, lt, included, stored⟩ | ⟨_, kept⟩
    · rw [stored] at found
      exact ⟨nb, member, sym, link, included, .inl (Option.some.inj found).symm⟩
    · rw [stored] at found
      exact ⟨nb, member, sym, lt, included, .inr (Option.some.inj found).symm⟩
    · rw [kept] at found
      exact holds entry found
  exact pass entry found

theorem neighborPass_isSome_of_oneHop {state : State} (oneHop : OneHop state now addr) :
    ((neighborPass state now).lookup addr).isSome := by
  have pass : ∀ nb ∈ state.nbset, nb.status = .sym → ∀ link ∈ linksOf state now nb,
      link.nbIfaceAddr = addr ∨ nb.nbMainAddr = addr →
        ((neighborPass state now).lookup addr).isSome := by
    refine foldl_seen (addNeighborEntries state now)
      (fun seen rtable => ∀ nb ∈ seen, nb.status = .sym → ∀ link ∈ linksOf state now nb,
        link.nbIfaceAddr = addr ∨ nb.nbMainAddr = addr →
          (Rtable.lookup rtable addr).isSome) (by simp) ?_
    intro seen current rtable _ holds nb among sym link included names
    rcases lookup_addNeighborEntries state now rtable current addr with
      ⟨_, _, _, _, stored⟩ | ⟨_, _, _, _, _, stored⟩ | ⟨untouched, kept⟩
    · simp [stored]
    · simp [stored]
    · rw [kept]
      rcases List.mem_append.mp among with old | last
      · exact holds nb old sym link included names
      · have same : nb = current := by simpa using last
        subst same
        obtain ⟨others, unlinked⟩ := untouched sym
        rcases names with onLink | onMain
        · exact absurd onLink (others link included)
        · simp [unlinked onMain] at included
  obtain ⟨nb, member, sym, link, included, names⟩ := oneHop
  exact pass nb member sym link included names

theorem neighborPass_isSome_iff (state : State) (now : Int) (addr : NsAddr) :
    ((neighborPass state now).lookup addr).isSome ↔ OneHop state now addr := by
  constructor
  · intro present
    obtain ⟨entry, found⟩ := Option.isSome_iff_exists.mp present
    obtain ⟨nb, member, sym, link, included, rfl | rfl⟩ := neighborPass_found found
    · exact ⟨nb, member, sym, link, included, .inl (Rtable.lookup_dest found)⟩
    · exact ⟨nb, member, sym, link, included, .inr (Rtable.lookup_dest found)⟩
  · exact neighborPass_isSome_of_oneHop

/-! ## 2-hop neighbors -/

def SymNeighbor (state : State) (addr : NsAddr) : Prop :=
  ∃ nb ∈ state.nbset, nb.nbMainAddr = addr ∧ nb.status = .sym

theorem findSymNbTuple_eq_none {state : State} :
    state.findSymNbTuple addr = none ↔ ¬ SymNeighbor state addr := by
  simp [State.findSymNbTuple, SymNeighbor]

theorem findSymNbTuple_some {state : State} {nb : NbTuple}
    (found : state.findSymNbTuple addr = some nb) :
    nb ∈ state.nbset ∧ nb.nbMainAddr = addr ∧ nb.status = .sym :=
  ⟨List.mem_of_find?_eq_some found, by simpa using List.find?_some found⟩

theorem inN2_iff {state : State} {hop : Nb2hopTuple} :
    inN2 state hop = true ↔
      SymNeighbor state hop.nbMainAddr ∧
      (∀ nb ∈ state.nbset, nb.nbMainAddr = hop.nbMainAddr → nb.willingness ≠ willNever) ∧
      ¬ SymNeighbor state hop.nb2hopAddr := by
  have willing : state.findNbTupleWilling hop.nbMainAddr willNever = none ↔
      ∀ nb ∈ state.nbset, nb.nbMainAddr = hop.nbMainAddr → nb.willingness ≠ willNever := by
    simp [State.findNbTupleWilling]
  rw [← willing, ← findSymNbTuple_eq_none]
  unfold inN2
  cases found : state.findSymNbTuple hop.nbMainAddr with
  | none => simp [findSymNbTuple_eq_none.mp found]
  | some nb =>
      have sym : SymNeighbor state hop.nbMainAddr := ⟨nb, findSymNbTuple_some found⟩
      cases never : state.findNbTupleWilling hop.nbMainAddr willNever with
      | some other => simp
      | none => simp [sym]

def twoHopEntry (addr : NsAddr) (via : RtEntry) : RtEntry where
  destAddr := addr
  nextAddr := via.nextAddr
  ifaceAddr := via.ifaceAddr
  dist := 2
  localIfaceIndex := via.localIfaceIndex
  route := [via.nextAddr]
  quality := notMeasured
  delay := notMeasured

theorem addTwoHopEntry_cases {state : State} {rtable rtable' : Rtable} {hop : Nb2hopTuple}
    (ran : addTwoHopEntry state rtable hop = .ok rtable') :
    (inN2 state hop = false ∧ rtable' = rtable) ∨
    (inN2 state hop = true ∧ ∃ via, rtable.lookup hop.nbMainAddr = some via ∧
      ((betterAlternative state rtable hop = false ∧ rtable' = rtable) ∨
        rtable' = rtable.store (twoHopEntry hop.nb2hopAddr via))) := by
  unfold addTwoHopEntry at ran
  cases qualifies : inN2 state hop with
  | false =>
      simp only [qualifies, Bool.false_eq_true, if_false, Except.ok.injEq] at ran
      exact .inl ⟨rfl, ran.symm⟩
  | true =>
      simp only [qualifies, if_true] at ran
      cases found : rtable.lookup hop.nbMainAddr with
      | none => simp [found] at ran
      | some via =>
          simp only [found] at ran
          cases better : betterAlternative state rtable hop with
          | false =>
              simp only [better, Bool.false_eq_true, if_false, Except.ok.injEq] at ran
              exact .inr ⟨rfl, via, rfl, .inl ⟨rfl, ran.symm⟩⟩
          | true =>
              simp only [better, if_true, Except.ok.injEq] at ran
              exact .inr ⟨rfl, via, rfl, .inr ran.symm⟩

/-- The table after some of the 2-hop tuples: their 2-hop addresses have an entry
through the 1-hop entry of a neighbor, everything else is as it was. -/
structure TwoHopTable (state : State) (base : Rtable) (seen : List Nb2hopTuple)
    (rtable : Rtable) : Prop where
  reached : ∀ hop ∈ seen, inN2 state hop = true → ∃ other ∈ seen,
    inN2 state other = true ∧ other.nb2hopAddr = hop.nb2hopAddr ∧
    ∃ via, base.lookup other.nbMainAddr = some via ∧
      rtable.lookup hop.nb2hopAddr = some (twoHopEntry hop.nb2hopAddr via)
  kept : ∀ addr, (∀ hop ∈ seen, inN2 state hop = true → hop.nb2hopAddr ≠ addr) →
    rtable.lookup addr = base.lookup addr
  asserted : ∀ hop ∈ seen, inN2 state hop = true → (base.lookup hop.nbMainAddr).isSome

namespace TwoHopTable

variable {state : State} {base rtable : Rtable} {seen : List Nb2hopTuple}

theorem lookup_symNeighbor (holds : TwoHopTable state base seen rtable) {addr : NsAddr}
    (sym : SymNeighbor state addr) : rtable.lookup addr = base.lookup addr := by
  apply holds.kept
  rintro hop _ qualifies rfl
  exact (inN2_iff.mp qualifies).2.2 sym

theorem skip (holds : TwoHopTable state base seen rtable) {hop : Nb2hopTuple}
    (fails : inN2 state hop = false) : TwoHopTable state base (seen ++ [hop]) rtable := by
  have among : ∀ other ∈ seen ++ [hop], inN2 state other = true → other ∈ seen := by
    intro other member qualifies
    rcases List.mem_append.mp member with old | last
    · exact old
    · have same : other = hop := by simpa using last
      rw [same, fails] at qualifies
      cases qualifies
  constructor
  · intro other member qualifies
    obtain ⟨source, included, rest⟩ :=
      holds.reached other (among other member qualifies) qualifies
    exact ⟨source, by simp [included], rest⟩
  · intro addr others
    exact holds.kept addr fun other member => others other (by simp [member])
  · intro other member qualifies
    exact holds.asserted other (among other member qualifies) qualifies

theorem leave (holds : TwoHopTable state base seen rtable) {hop before : Nb2hopTuple}
    (member : before ∈ seen) (qualifies : inN2 state before = true)
    (same : before.nb2hopAddr = hop.nb2hopAddr)
    (entry : (base.lookup hop.nbMainAddr).isSome) :
    TwoHopTable state base (seen ++ [hop]) rtable := by
  constructor
  · intro other among qualifies'
    rcases List.mem_append.mp among with old | last
    · obtain ⟨source, included, rest⟩ := holds.reached other old qualifies'
      exact ⟨source, by simp [included], rest⟩
    · have equal : other = hop := by simpa using last
      subst equal
      obtain ⟨source, included, qualifies'', target, via, found, stored⟩ :=
        holds.reached before member qualifies
      rw [same] at target stored
      exact ⟨source, by simp [included], qualifies'', target, via, found, stored⟩
  · intro addr others
    exact holds.kept addr fun other included => others other (by simp [included])
  · intro other among qualifies'
    rcases List.mem_append.mp among with old | last
    · exact holds.asserted other old qualifies'
    · have equal : other = hop := by simpa using last
      exact equal ▸ entry

theorem replace (holds : TwoHopTable state base seen rtable) {hop : Nb2hopTuple}
    (qualifies : inN2 state hop = true) {via : RtEntry}
    (found : rtable.lookup hop.nbMainAddr = some via) :
    TwoHopTable state base (seen ++ [hop])
      (rtable.store (twoHopEntry hop.nb2hopAddr via)) := by
  have based : base.lookup hop.nbMainAddr = some via := by
    rw [← holds.lookup_symNeighbor (inN2_iff.mp qualifies).1]
    exact found
  constructor
  · intro other among qualifies'
    by_cases same : other.nb2hopAddr = hop.nb2hopAddr
    · refine ⟨hop, by simp, qualifies, same.symm, via, based, ?_⟩
      rw [same]
      exact Rtable.lookup_store_self rtable (twoHopEntry hop.nb2hopAddr via)
    · rcases List.mem_append.mp among with old | last
      · obtain ⟨source, included, qualifies'', target, via', found', stored⟩ :=
          holds.reached other old qualifies'
        refine ⟨source, by simp [included], qualifies'', target, via', found', ?_⟩
        rw [Rtable.lookup_store_ne rtable _ same]
        exact stored
      · have equal : other = hop := by simpa using last
        exact absurd (congrArg Nb2hopTuple.nb2hopAddr equal) same
  · intro addr others
    have different : addr ≠ hop.nb2hopAddr :=
      fun equal => others hop (by simp) qualifies equal.symm
    rw [Rtable.lookup_store_ne rtable _ different]
    exact holds.kept addr fun other included => others other (by simp [included])
  · intro other among qualifies'
    rcases List.mem_append.mp among with old | last
    · exact holds.asserted other old qualifies'
    · have equal : other = hop := by simpa using last
      rw [equal, based]
      rfl

end TwoHopTable

theorem TwoHopTable.step {state : State} {seen : List Nb2hopTuple} {rtable rtable' : Rtable}
    {hop : Nb2hopTuple} (holds : TwoHopTable state (neighborPass state now) seen rtable)
    (ran : addTwoHopEntry state rtable hop = .ok rtable') :
    TwoHopTable state (neighborPass state now) (seen ++ [hop]) rtable' := by
  rcases addTwoHopEntry_cases ran with
    ⟨fails, rfl⟩ | ⟨qualifies, via, found, ⟨worse, rfl⟩ | rfl⟩
  · exact holds.skip fails
  · have twoHop := (inN2_iff.mp qualifies).2.2
    have based : ((neighborPass state now).lookup hop.nbMainAddr).isSome := by
      rw [← holds.lookup_symNeighbor (inN2_iff.mp qualifies).1, found]
      rfl
    by_cases before : ∃ other ∈ seen, inN2 state other = true ∧
        other.nb2hopAddr = hop.nb2hopAddr
    · obtain ⟨other, member, qualifies', same⟩ := before
      exact holds.leave member qualifies' same based
    · push Not at before
      have kept := holds.kept hop.nb2hopAddr before
      -- The entry left in place is a 1-hop entry whose next hop is no symmetric neighbor.
      unfold betterAlternative at worse
      cases old : rtable'.lookup hop.nb2hopAddr with
      | none => simp [old] at worse
      | some entry2hop =>
          rw [old] at kept
          obtain ⟨nb, member, sym, link, included, rfl | rfl⟩ :=
            neighborPass_found kept.symm
          · have dest : link.nbIfaceAddr = hop.nb2hopAddr := Rtable.lookup_dest old
            have unknown := findSymNbTuple_eq_none.mpr twoHop
            simp [old, linkEntry, dest, unknown] at worse
          · exact absurd ⟨nb, member, Rtable.lookup_dest old, sym⟩ twoHop
  · exact holds.replace qualifies found

theorem twoHopPass_spec {state : State} {rtable : Rtable}
    (ran : twoHopPass state (neighborPass state now) = .ok rtable) :
    TwoHopTable state (neighborPass state now) state.nb2hopset rtable := by
  refine foldlM_seen ran (TwoHopTable state (neighborPass state now))
    ⟨by simp, fun _ _ => rfl, by simp⟩ ?_
  intro seen hop acc acc' _ holds stepped
  exact holds.step stepped

/-- The assertion of the 2-hop pass holds exactly when every tuple of N2 has a
neighbor with an unexpired link. -/
theorem twoHopPass_ok_iff (state : State) (now : Int) :
    (∃ rtable, twoHopPass state (neighborPass state now) = .ok rtable) ↔
      ∀ hop ∈ state.nb2hopset, inN2 state hop = true → OneHop state now hop.nbMainAddr := by
  constructor
  · rintro ⟨rtable, ran⟩ hop member qualifies
    exact (neighborPass_isSome_iff _ _ _).mp
      ((twoHopPass_spec ran).asserted hop member qualifies)
  · intro linked
    have total : ∃ rtable, twoHopPass state (neighborPass state now) = .ok rtable ∧
        ∃ seen, TwoHopTable state (neighborPass state now) seen rtable := by
      refine foldlM_total (addTwoHopEntry state)
        (fun rtable => ∃ seen, TwoHopTable state (neighborPass state now) seen rtable)
        ⟨[], by simp, fun _ _ => rfl, by simp⟩ ?_
      rintro hop rtable member ⟨seen, holds⟩
      have ok : ∃ rtable', addTwoHopEntry state rtable hop = .ok rtable' := by
        unfold addTwoHopEntry
        cases qualifies : inN2 state hop with
        | false => exact ⟨rtable, by simp⟩
        | true =>
            have present := neighborPass_isSome_of_oneHop (linked hop member qualifies)
            rw [← holds.lookup_symNeighbor (inN2_iff.mp qualifies).1] at present
            obtain ⟨via, found⟩ := Option.isSome_iff_exists.mp present
            simp only [if_true, found]
            split <;> exact ⟨_, rfl⟩
      obtain ⟨rtable', stepped⟩ := ok
      exact ⟨rtable', stepped, seen ++ [hop], holds.step stepped⟩
    obtain ⟨rtable, ran, _⟩ := total
    exact ⟨rtable, ran⟩

end SyncFanet.Olsr
