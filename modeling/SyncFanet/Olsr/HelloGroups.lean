import Mathlib.Algebra.Group.Action.Defs
import Mathlib.Data.List.Range
import SyncFanet.Olsr.MessageArrays

/-!
# The groups of a HELLO

How `send_hello` fills its message: the array of the groups with their arrays of addresses,
the counters beside them and the map from link codes to groups. The addresses are written
from link tuples, and a slot remembers which one.
-/

set_option autoImplicit false

namespace SyncFanet.Olsr

/-! ## Filling the message -/

/-- An `OLSR_hello_msg`, with the link tuple that each address was written from. -/
structure LinkGroup (Link : Type) where
  linkCode : Nat
  linkMsgSize : Nat
  count : Nat
  nbIfaceAddrs : Nat → Option Link

/-- An `OLSR_hello` that is filled, with `linkcodes_count`. -/
structure HelloArrays (Link : Type) where
  count : Nat
  helloMsgs : Nat → LinkGroup Link
  linkcodesCount : Nat → Option Nat

section

variable {Link : Type}

def LinkGroup.size (addrSize : Nat) (group : LinkGroup Link) : Nat :=
  helloMsgHdrSize + group.count * addrSize

def LinkGroup.write (addrSize : Nat) (link : Link) (group : LinkGroup Link) : LinkGroup Link :=
  let group := { group with
    nbIfaceAddrs := Function.update group.nbIfaceAddrs group.count (some link)
    count := group.count + 1 }
  { group with linkMsgSize := group.size addrSize % 2 ^ 16 }

def HelloArrays.size (addrSize : Nat) (hello : HelloArrays Link) : Nat :=
  helloHdrSize + ((List.range hello.count).map fun p => (hello.helloMsgs p).size addrSize).sum

/-- The `msg_size` of the message, of 16 bits. -/
def HelloArrays.msgSize (addrSize : Nat) (hello : HelloArrays Link) : Nat :=
  (msgHdrSize addrSize + hello.size addrSize) % 2 ^ 16

/-- The message after its constructor and `count = 0`. -/
def blankHello : HelloArrays Link where
  count := 0
  helloMsgs := fun _ => { linkCode := 0, linkMsgSize := 0, count := 0, nbIfaceAddrs := fun _ => none }
  linkcodesCount := fun _ => none

namespace HelloArrays

variable {spec : Link → Option Nat}

/-- A new group, at the end of the array. -/
def newGroup (linkCode : Nat) (hello : HelloArrays Link) : HelloArrays Link where
  count := hello.count + 1
  helloMsgs := Function.update hello.helloMsgs hello.count
    { hello.helloMsgs hello.count with linkCode := linkCode, count := 0 }
  linkcodesCount := Function.update hello.linkcodesCount linkCode (some hello.count)

/-- The group of a link code, which is allocated if there is none. -/
def findGroup (linkCode : Nat) (hello : HelloArrays Link) :
    Except Fault (Nat × HelloArrays Link) :=
  match hello.linkcodesCount linkCode with
  | some pos => .ok (pos, hello)
  | none =>
      if hello.count < maxHellos then .ok (hello.count, hello.newGroup linkCode)
      else .error (.assertFailed "count >= 0 && count < OLSR_MAX_HELLOS")

def writeAddr (addrSize : Nat) (link : Link) (count : Nat) (hello : HelloArrays Link) :
    HelloArrays Link :=
  { hello with
    helloMsgs := Function.update hello.helloMsgs count
      ((hello.helloMsgs count).write addrSize link) }

/-- A round of the loop, for a link tuple that is advertised. -/
def writeLink (addrSize linkCode : Nat) (link : Link) (hello : HelloArrays Link) :
    Except Fault (HelloArrays Link) :=
  (hello.findGroup linkCode).bind fun (count, hello) =>
    if maxHellos ≤ count then .error (.assertFailed "count >= 0 && count < OLSR_MAX_HELLOS")
    else if maxAddrs ≤ (hello.helloMsgs count).count then
      .error (.assertFailed "i >= 0 && i < OLSR_MAX_ADDRS")
    else .ok (hello.writeAddr addrSize link count)

/-- The loop of `send_hello` over the link tuples, which leaves out those that get no link
code. -/
def fill (addrSize : Nat) (codeOf : Link → Option Nat) (links : List Link) :
    Except Fault (HelloArrays Link) :=
  links.foldlM (fun hello link =>
    match codeOf link with
    | none => .ok hello
    | some linkCode => hello.writeLink addrSize linkCode link) blankHello

/-! ## What the message lists -/

/-- The link tuples with a link code. -/
def linksWith (codeOf : Link → Option Nat) (linkCode : Nat) (links : List Link) : List Link :=
  links.filter fun link => codeOf link = some linkCode

/-- Every link tuple with a link code is in the group of this code and nowhere else, nothing
else is in a group, and the counters and sizes are those of the contents. -/
structure ListsExactly (addrSize : Nat) (codeOf : Link → Option Nat) (links : List Link)
    (hello : HelloArrays Link) : Prop where
  distinct : ∀ p < hello.count, ∀ q < hello.count,
    (hello.helloMsgs p).linkCode = (hello.helloMsgs q).linkCode → p = q
  complete : ∀ link ∈ links, ∀ linkCode, codeOf link = some linkCode →
    ∃ p < hello.count, (hello.helloMsgs p).linkCode = linkCode
  contents : ∀ p < hello.count, ∀ i, (hello.helloMsgs p).nbIfaceAddrs i =
    (linksWith codeOf (hello.helloMsgs p).linkCode links)[i]?
  counts : ∀ p < hello.count,
    (hello.helloMsgs p).count = (linksWith codeOf (hello.helloMsgs p).linkCode links).length
  linkMsgSizes : ∀ p < hello.count,
    (hello.helloMsgs p).linkMsgSize = (hello.helloMsgs p).size addrSize
  msgSize : hello.msgSize addrSize = msgHdrSize addrSize + hello.size addrSize

structure Filled (addrSize : Nat) (codeOf : Link → Option Nat) (seen : List Link)
    (hello : HelloArrays Link) : Prop where
  mapped : ∀ linkCode p, hello.linkcodesCount linkCode = some p ↔
    p < hello.count ∧ (hello.helloMsgs p).linkCode = linkCode
  listed : ∀ linkCode, linksWith codeOf linkCode seen ≠ [] ↔
    (hello.linkcodesCount linkCode).isSome
  contents : ∀ p < hello.count, ∀ i, (hello.helloMsgs p).nbIfaceAddrs i =
    (linksWith codeOf (hello.helloMsgs p).linkCode seen)[i]?
  counts : ∀ p < hello.count,
    (hello.helloMsgs p).count = (linksWith codeOf (hello.helloMsgs p).linkCode seen).length
  linkMsgSizes : ∀ p < hello.count,
    (hello.helloMsgs p).linkMsgSize = (hello.helloMsgs p).size addrSize % 2 ^ 16
  blank : ∀ p, hello.count ≤ p → (hello.helloMsgs p).nbIfaceAddrs = fun _ => none

variable {addrSize linkCode p : Nat} {codeOf : Link → Option Nat} {seen links : List Link}
  {link : Link} {hello after : HelloArrays Link}

theorem linksWith_append (linkCode : Nat) (seen : List Link) (link : Link) :
    linksWith codeOf linkCode (seen ++ [link]) =
      linksWith codeOf linkCode seen ++ if codeOf link = some linkCode then [link] else [] := by
  simp only [linksWith, List.filter_append, List.filter_cons, List.filter_nil, decide_eq_true_eq]

theorem filled_blank : Filled addrSize codeOf [] (blankHello : HelloArrays Link) where
  mapped _ _ := ⟨nofun, fun inside => absurd inside.1 (Nat.not_lt_zero _)⟩
  listed _ := ⟨fun some => absurd rfl some, nofun⟩
  contents _ inside := absurd inside (Nat.not_lt_zero _)
  counts _ inside := absurd inside (Nat.not_lt_zero _)
  linkMsgSizes _ inside := absurd inside (Nat.not_lt_zero _)
  blank _ _ := rfl

theorem Filled.skip (filled : Filled addrSize codeOf seen hello) (none : codeOf link = none) :
    Filled addrSize codeOf (seen ++ [link]) hello := by
  have same (linkCode : Nat) :
      linksWith codeOf linkCode (seen ++ [link]) = linksWith codeOf linkCode seen := by
    rw [linksWith_append, none, if_neg nofun, List.append_nil]
  refine ⟨filled.mapped, ?_, ?_, ?_, filled.linkMsgSizes, filled.blank⟩
  · simpa only [same] using filled.listed
  · simpa only [same] using filled.contents
  · simpa only [same] using filled.counts

structure Prepared (addrSize : Nat) (codeOf : Link → Option Nat) (seen : List Link)
    (linkCode p : Nat) (hello : HelloArrays Link) : Prop where
  found : hello.linkcodesCount linkCode = some p
  mapped : ∀ linkCode p, hello.linkcodesCount linkCode = some p ↔
    p < hello.count ∧ (hello.helloMsgs p).linkCode = linkCode
  listed : ∀ other ≠ linkCode, linksWith codeOf other seen ≠ [] ↔
    (hello.linkcodesCount other).isSome
  contents : ∀ p < hello.count, ∀ i, (hello.helloMsgs p).nbIfaceAddrs i =
    (linksWith codeOf (hello.helloMsgs p).linkCode seen)[i]?
  counts : ∀ p < hello.count,
    (hello.helloMsgs p).count = (linksWith codeOf (hello.helloMsgs p).linkCode seen).length
  linkMsgSizes : ∀ q < hello.count, q ≠ p →
    (hello.helloMsgs q).linkMsgSize = (hello.helloMsgs q).size addrSize % 2 ^ 16
  blank : ∀ p, hello.count ≤ p → (hello.helloMsgs p).nbIfaceAddrs = fun _ => none

theorem Filled.findGroup (filled : Filled addrSize codeOf seen hello)
    (ran : hello.findGroup linkCode = .ok (p, after)) :
    Prepared addrSize codeOf seen linkCode p after := by
  unfold HelloArrays.findGroup at ran
  cases known : hello.linkcodesCount linkCode with
  | some pos =>
      rw [known] at ran
      cases ran
      exact ⟨known, filled.mapped, fun other _ => filled.listed other, filled.contents,
        filled.counts, fun q inside _ => filled.linkMsgSizes q inside, filled.blank⟩
  | none =>
      simp only [known] at ran
      split at ran
      · cases ran
        -- The group that is added has no link tuple yet.
        have unseen : linksWith codeOf linkCode seen = [] := by
          by_contra some
          have stored := (filled.listed linkCode).mp some
          rw [known] at stored
          cases stored
        have older (q : Nat) (inside : q < hello.count) :
            (hello.newGroup linkCode).helloMsgs q = hello.helloMsgs q :=
          Function.update_of_ne (Nat.ne_of_lt inside) _ _
        have last : (hello.newGroup linkCode).helloMsgs hello.count =
            { hello.helloMsgs hello.count with linkCode := linkCode, count := 0 } :=
          Function.update_self ..
        refine ⟨Function.update_self .., ?_, ?_, ?_, ?_, ?_, ?_⟩
        · intro other q
          by_cases here : other = linkCode
          · rw [here]
            constructor
            · intro stored
              cases (Function.update_self ..).symm.trans stored
              exact ⟨Nat.lt_succ_self _, by rw [last]⟩
            · rintro ⟨inside, code⟩
              rcases Nat.lt_or_eq_of_le (Nat.le_of_lt_succ inside) with earlier | rfl
              · rw [older q earlier] at code
                have stored := (filled.mapped linkCode q).mpr ⟨earlier, code⟩
                rw [known] at stored
                cases stored
              · exact Function.update_self ..
          · have kept : (hello.newGroup linkCode).linkcodesCount other =
                hello.linkcodesCount other := Function.update_of_ne here _ _
            rw [kept, filled.mapped]
            constructor
            · rintro ⟨inside, code⟩
              exact ⟨Nat.lt_succ_of_lt inside, by rw [older q inside]; exact code⟩
            · rintro ⟨inside, code⟩
              rcases Nat.lt_or_eq_of_le (Nat.le_of_lt_succ inside) with earlier | rfl
              · exact ⟨earlier, by rw [older q earlier] at code; exact code⟩
              · rw [last] at code
                exact absurd code.symm here
        · intro other different
          rw [filled.listed]
          exact iff_of_eq (congrArg (fun found => Option.isSome found = true)
            (Function.update_of_ne different _ _).symm)
        · intro q inside i
          rcases Nat.lt_or_eq_of_le (Nat.le_of_lt_succ inside) with earlier | rfl
          · rw [older q earlier]
            exact filled.contents q earlier i
          · rw [last, unseen]
            exact congrFun (filled.blank _ (Nat.le_refl _)) i
        · intro q inside
          rcases Nat.lt_or_eq_of_le (Nat.le_of_lt_succ inside) with earlier | rfl
          · rw [older q earlier]
            exact filled.counts q earlier
          · rw [last, unseen]
            rfl
        · intro q inside different
          have earlier : q < hello.count :=
            Nat.lt_of_le_of_ne (Nat.le_of_lt_succ inside) different
          rw [older q earlier]
          exact filled.linkMsgSizes q earlier
        · intro q beyond
          have later : q ≠ hello.count := Nat.ne_of_gt (Nat.lt_of_succ_le beyond)
          have same : (hello.newGroup linkCode).helloMsgs q = hello.helloMsgs q :=
            Function.update_of_ne later _ _
          rw [same]
          exact filled.blank q (Nat.le_of_succ_le beyond)
      · cases ran

theorem linkCode_writeAddr (addrSize : Nat) (link : Link) (p q : Nat)
    (hello : HelloArrays Link) :
    ((hello.writeAddr addrSize link p).helloMsgs q).linkCode = (hello.helloMsgs q).linkCode := by
  unfold HelloArrays.writeAddr
  by_cases here : q = p
  · rw [here]
    dsimp only
    rw [Function.update_self]
    rfl
  · dsimp only
    rw [Function.update_of_ne here]

theorem Prepared.writeAddr (prepared : Prepared addrSize codeOf seen linkCode p hello)
    (code : codeOf link = some linkCode) :
    Filled addrSize codeOf (seen ++ [link]) (hello.writeAddr addrSize link p) := by
  obtain ⟨inside, same⟩ := (prepared.mapped linkCode p).mp prepared.found
  have others (q : Nat) (different : q ≠ p) :
      (hello.writeAddr addrSize link p).helloMsgs q = hello.helloMsgs q :=
    Function.update_of_ne different _ _
  have written : (hello.writeAddr addrSize link p).helloMsgs p =
      (hello.helloMsgs p).write addrSize link := Function.update_self ..
  have codes := fun q => linkCode_writeAddr addrSize link p q hello
  have grown : linksWith codeOf linkCode (seen ++ [link]) =
      linksWith codeOf linkCode seen ++ [link] := by
    rw [linksWith_append, code, if_pos rfl]
  have kept (other : Nat) (different : other ≠ linkCode) :
      linksWith codeOf other (seen ++ [link]) = linksWith codeOf other seen := by
    rw [linksWith_append, code, if_neg (fun here => different (Option.some.inj here).symm),
      List.append_nil]
  have apart (q : Nat) (within : q < hello.count) (different : q ≠ p) :
      (hello.helloMsgs q).linkCode ≠ linkCode := by
    intro here
    have stored := (prepared.mapped linkCode q).mpr ⟨within, here⟩
    cases prepared.found.symm.trans stored
    exact different rfl
  refine ⟨?_, ?_, ?_, ?_, ?_, ?_⟩
  · intro other q
    rw [codes]
    exact prepared.mapped other q
  · intro other
    by_cases here : other = linkCode
    · rw [here, grown]
      have stored : (hello.linkcodesCount linkCode).isSome := by
        rw [prepared.found]
        rfl
      exact iff_of_true (List.append_ne_nil_of_right_ne_nil _ (List.cons_ne_nil _ _)) stored
    · rw [kept other here]
      exact prepared.listed other here
  · intro q within i
    rw [codes]
    by_cases here : q = p
    · subst here
      have old := prepared.contents q inside
      have counts := prepared.counts q inside
      rw [same] at old counts ⊢
      rw [grown, written, List.getElem?_append]
      dsimp only [LinkGroup.write]
      rw [counts]
      by_cases last : i = (linksWith codeOf linkCode seen).length
      · rw [last, Function.update_self, if_neg (Nat.lt_irrefl _), Nat.sub_self]
        rfl
      · rw [Function.update_of_ne last, old]
        split
        · rfl
        · next beyond =>
          rw [List.getElem?_eq_none (Nat.le_of_not_lt beyond), List.getElem?_eq_none]
          rw [List.length_singleton]
          omega
    · rw [others q here, kept _ (apart q within here)]
      exact prepared.contents q within i
  · intro q within
    rw [codes]
    by_cases here : q = p
    · subst here
      rw [written, same, grown, List.length_append, List.length_singleton, ← same,
        ← prepared.counts q inside]
      rfl
    · rw [others q here, kept _ (apart q within here)]
      exact prepared.counts q within
  · intro q within
    by_cases here : q = p
    · subst here
      rw [written]
      rfl
    · rw [others q here]
      exact prepared.linkMsgSizes q within here
  · intro q beyond
    have later : q ≠ p := fun here => Nat.not_lt.mpr beyond (here ▸ inside)
    rw [others q later]
    exact prepared.blank q beyond

theorem Filled.writeLink (filled : Filled addrSize codeOf seen hello)
    (code : codeOf link = some linkCode)
    (ran : hello.writeLink addrSize linkCode link = .ok after) :
    Filled addrSize codeOf (seen ++ [link]) after := by
  obtain ⟨⟨count, prepared⟩, found, ran⟩ := bind_ok.mp ran
  dsimp only at ran
  split at ran
  · cases ran
  · split at ran
    · cases ran
    · cases ran
      exact (filled.findGroup found).writeAddr code

theorem fill_filled (ran : fill addrSize codeOf links = .ok hello) :
    Filled addrSize codeOf links hello := by
  refine foldlM_seen ran (Filled addrSize codeOf) filled_blank ?_
  intro seen link acc acc' _ filled ran
  cases code : codeOf link with
  | none =>
      simp only [code] at ran
      cases ran
      exact filled.skip code
  | some linkCode =>
      simp only [code] at ran
      exact filled.writeLink code ran

/-! ## The arrays suffice -/

theorem Filled.mem_code (filled : Filled addrSize codeOf seen hello) (inside : p < hello.count) :
    ∃ link ∈ seen, codeOf link = some (hello.helloMsgs p).linkCode := by
  have stored := (filled.mapped _ p).mpr ⟨inside, rfl⟩
  have some := (filled.listed _).mpr (Option.isSome_of_eq_some stored)
  obtain ⟨link, member⟩ := List.exists_mem_of_ne_nil _ some
  exact ⟨link, (List.mem_filter.mp member).1, of_decide_eq_true (List.mem_filter.mp member).2⟩

theorem Filled.distinct (filled : Filled addrSize codeOf seen hello) {q : Nat}
    (first : p < hello.count) (second : q < hello.count)
    (same : (hello.helloMsgs p).linkCode = (hello.helloMsgs q).linkCode) : p = q := by
  have left := (filled.mapped _ p).mpr ⟨first, rfl⟩
  have right := (filled.mapped _ q).mpr ⟨second, same.symm⟩
  exact Option.some.inj (left.symm.trans right)

theorem Filled.count_le (filled : Filled addrSize codeOf seen hello)
    (known : ∀ link ∈ seen, ∀ linkCode, codeOf link = some linkCode → linkCode ∈ linkCodes) :
    hello.count ≤ 9 := by
  have distinct : ((List.range hello.count).map fun p => (hello.helloMsgs p).linkCode).Nodup := by
    refine List.Nodup.map_on ?_ List.nodup_range
    intro p first q second same
    exact filled.distinct (List.mem_range.mp first) (List.mem_range.mp second) same
  have among : ∀ linkCode ∈ (List.range hello.count).map fun p => (hello.helloMsgs p).linkCode,
      linkCode ∈ linkCodes := by
    intro linkCode member
    obtain ⟨p, inside, rfl⟩ := List.mem_map.mp member
    obtain ⟨link, listed, code⟩ := filled.mem_code (List.mem_range.mp inside)
    exact known link listed _ code
  have few := (distinct.subperm among).length_le
  simpa [linkCodes] using few

theorem Filled.writeLink_total (filled : Filled addrSize codeOf seen hello)
    (known : ∀ link ∈ seen, ∀ linkCode, codeOf link = some linkCode → linkCode ∈ linkCodes)
    (room : (linksWith codeOf linkCode seen).length < maxAddrs) :
    ∃ after, hello.writeLink addrSize linkCode link = .ok after := by
  have few := filled.count_le known
  obtain ⟨count, prepared, found, inside⟩ : ∃ count prepared,
      hello.findGroup linkCode = .ok (count, prepared) ∧ count < maxHellos := by
    unfold HelloArrays.findGroup
    cases stored : hello.linkcodesCount linkCode with
    | some pos =>
        have within := ((filled.mapped linkCode pos).mp stored).1
        exact ⟨pos, hello, rfl, by unfold maxHellos; omega⟩
    | none =>
        have spare : hello.count < maxHellos := by
          unfold maxHellos
          omega
        exact ⟨hello.count, hello.newGroup linkCode, if_pos spare, spare⟩
  have ready := filled.findGroup found
  obtain ⟨within, code⟩ := (ready.mapped linkCode count).mp ready.found
  have counts := ready.counts count within
  rw [code] at counts
  refine ⟨prepared.writeAddr addrSize link count, ?_⟩
  rw [HelloArrays.writeLink, found]
  dsimp only [Except.bind]
  rw [if_neg (Nat.not_le.mpr inside), if_neg (Nat.not_le.mpr (counts.trans_lt room))]

/-- At most as many link tuples with a link code as addresses in a group. -/
def Few (codeOf : Link → Option Nat) (links : List Link) : Prop :=
  ∀ linkCode, (linksWith codeOf linkCode links).length ≤ maxAddrs

theorem fill_total (addrSize : Nat)
    (known : ∀ link ∈ links, ∀ linkCode, codeOf link = some linkCode → linkCode ∈ linkCodes)
    (few : Few codeOf links) : ∃ hello, fill addrSize codeOf links = .ok hello := by
  have total : ∃ hello : HelloArrays Link, fill addrSize codeOf links = .ok hello ∧
      Filled addrSize codeOf links hello := by
    refine foldlM_total_split _ (Filled addrSize codeOf) filled_blank ?_
    intro seen link rest acc split filled
    cases code : codeOf link with
    | none => exact ⟨acc, rfl, filled.skip code⟩
    | some linkCode =>
        have room : (linksWith codeOf linkCode seen).length < maxAddrs := by
          have bound := few linkCode
          rw [split, linksWith, List.filter_append, List.length_append, List.filter_cons,
            if_pos (decide_eq_true code), List.length_cons] at bound
          unfold linksWith
          omega
        have knownSeen : ∀ link ∈ seen, ∀ linkCode, codeOf link = some linkCode →
            linkCode ∈ linkCodes := by
          intro other member
          exact known other (split ▸ List.mem_append_left _ member)
        obtain ⟨after, ran⟩ := filled.writeLink_total knownSeen room
        exact ⟨after, ran, filled.writeLink code ran⟩
  obtain ⟨hello, ran, -⟩ := total
  exact ⟨hello, ran⟩

/-! ## Exactly the links -/

theorem Filled.size_le (filled : Filled addrSize codeOf links hello) (few : Few codeOf links)
    (small : addrSize ≤ 16) (inside : p < hello.count) :
    (hello.helloMsgs p).size addrSize ≤ 1028 := by
  have count : (hello.helloMsgs p).count ≤ 64 := by
    rw [filled.counts p inside]
    exact few _
  have product : (hello.helloMsgs p).count * addrSize ≤ 64 * 16 := Nat.mul_le_mul count small
  unfold LinkGroup.size helloMsgHdrSize
  omega

theorem Filled.exact (filled : Filled addrSize codeOf links hello)
    (known : ∀ link ∈ links, ∀ linkCode, codeOf link = some linkCode → linkCode ∈ linkCodes)
    (few : Few codeOf links) (small : addrSize ≤ 16) :
    ListsExactly addrSize codeOf links hello := by
  refine ⟨fun p first q second => filled.distinct first second, ?_, filled.contents,
    filled.counts, ?_, ?_⟩
  · intro link listed linkCode code
    have some : linksWith codeOf linkCode links ≠ [] :=
      List.ne_nil_of_mem (List.mem_filter.mpr ⟨listed, decide_eq_true code⟩)
    obtain ⟨p, stored⟩ := Option.isSome_iff_exists.mp ((filled.listed linkCode).mp some)
    exact ⟨p, (filled.mapped linkCode p).mp stored⟩
  · intro p inside
    rw [filled.linkMsgSizes p inside]
    exact Nat.mod_eq_of_lt ((filled.size_le few small inside).trans_lt (by decide))
  · have total := List.sum_le_card_nsmul
      ((List.range hello.count).map fun p => (hello.helloMsgs p).size addrSize) 1028 (by
        intro size member
        obtain ⟨p, inside, rfl⟩ := List.mem_map.mp member
        exact filled.size_le few small (List.mem_range.mp inside))
    rw [List.length_map, List.length_range, smul_eq_mul] at total
    have count := filled.count_le known
    have whole : msgHdrSize addrSize + hello.size addrSize < 2 ^ 16 := by
      unfold msgHdrSize HelloArrays.size helloHdrSize
      omega
    exact Nat.mod_eq_of_lt whole

theorem linksWith_congr (same : ∀ link ∈ links, codeOf link = spec link) (linkCode : Nat) :
    linksWith codeOf linkCode links = linksWith spec linkCode links :=
  List.filter_congr fun link listed => by rw [same link listed]

theorem ListsExactly.congr (exact : ListsExactly addrSize codeOf links hello)
    (same : ∀ link ∈ links, codeOf link = spec link) :
    ListsExactly addrSize spec links hello where
  distinct := exact.distinct
  complete link listed linkCode code := exact.complete link listed linkCode
    ((same link listed).trans code)
  contents p inside i := by rw [← linksWith_congr same, exact.contents p inside i]
  counts p inside := by rw [← linksWith_congr same, exact.counts p inside]
  linkMsgSizes := exact.linkMsgSizes
  msgSize := exact.msgSize

theorem Filled.same_code (filled : Filled addrSize codeOf links hello)
    (exact : ListsExactly addrSize spec links hello) : ∀ link ∈ links, codeOf link = spec link := by
  have same (p : Nat) (inside : p < hello.count) :
      linksWith codeOf (hello.helloMsgs p).linkCode links =
        linksWith spec (hello.helloMsgs p).linkCode links :=
    List.ext_getElem? fun i =>
      (filled.contents p inside i).symm.trans (exact.contents p inside i)
  intro link listed
  cases code : codeOf link with
  | some linkCode =>
      have member : link ∈ linksWith codeOf linkCode links :=
        List.mem_filter.mpr ⟨listed, decide_eq_true code⟩
      obtain ⟨p, stored⟩ := Option.isSome_iff_exists.mp
        ((filled.listed linkCode).mp (List.ne_nil_of_mem member))
      obtain ⟨inside, here⟩ := (filled.mapped linkCode p).mp stored
      rw [← here, same p inside, here] at member
      exact (of_decide_eq_true (List.mem_filter.mp member).2).symm
  | none =>
      cases other : spec link with
      | none => rfl
      | some linkCode =>
          obtain ⟨p, inside, here⟩ := exact.complete link listed linkCode other
          have member : link ∈ linksWith spec (hello.helloMsgs p).linkCode links :=
            List.mem_filter.mpr ⟨listed, decide_eq_true (here ▸ other)⟩
          rw [← same p inside] at member
          have known := of_decide_eq_true (List.mem_filter.mp member).2
          rw [code] at known
          cases known

/-! ## The groups as lists -/

def groups (address : Link → NsAddr) (hello : HelloArrays Link) : List HelloMsg :=
  (List.range hello.count).map fun p =>
    { linkCode := (hello.helloMsgs p).linkCode
      nbIfaceAddrs := (List.range (hello.helloMsgs p).count).filterMap fun i =>
        ((hello.helloMsgs p).nbIfaceAddrs i).map address }

def groupWith (codeOf : Link → Option Nat) (address : Link → NsAddr) (links : List Link)
    (linkCode : Nat) : HelloMsg where
  linkCode := linkCode
  nbIfaceAddrs := (linksWith codeOf linkCode links).map address

variable {address : Link → NsAddr}

theorem filterMap_range_getElem? {Item Value : Type} (items : List Item) (f : Item → Value) :
    ((List.range items.length).filterMap fun i => items[i]?.map f) = items.map f := by
  induction items using List.reverseRecOn with
  | nil => rfl
  | append_singleton items item ih =>
      rw [List.length_append, List.length_singleton, List.range_succ, List.filterMap_append,
        List.map_append]
      congr 1
      · rw [← ih]
        refine List.filterMap_congr fun i member => ?_
        rw [List.getElem?_append_left (List.mem_range.mp member)]
      · simp

theorem Filled.groups_eq (filled : Filled addrSize codeOf seen hello) :
    hello.groups address = (List.range hello.count).map fun p =>
      groupWith codeOf address seen (hello.helloMsgs p).linkCode := by
  refine List.map_congr_left fun p member => ?_
  have inside := List.mem_range.mp member
  simp only [groupWith, filled.contents p inside, filled.counts p inside,
    filterMap_range_getElem?]

theorem addToGroup_new {groups : List HelloMsg} {linkCode : Nat} (ifaceAddr : NsAddr)
    (new : ∀ group ∈ groups, group.linkCode ≠ linkCode) :
    addToGroup linkCode ifaceAddr groups =
      groups ++ [{ linkCode := linkCode, nbIfaceAddrs := [ifaceAddr] }] := by
  induction groups with
  | nil => rfl
  | cons group rest ih =>
      rw [addToGroup, if_neg (new group List.mem_cons_self),
        ih fun other member => new other (List.mem_cons_of_mem group member)]
      rfl

theorem addToGroup_map {positions : List Nat} (group : Nat → HelloMsg) {linkCode p : Nat}
    (ifaceAddr : NsAddr) (distinct : positions.Nodup) (member : p ∈ positions)
    (only : ∀ q ∈ positions, (group q).linkCode = linkCode ↔ q = p) :
    addToGroup linkCode ifaceAddr (positions.map group) = positions.map fun q =>
      if q = p then { group q with nbIfaceAddrs := (group q).nbIfaceAddrs ++ [ifaceAddr] }
      else group q := by
  induction positions with
  | nil => cases member
  | cons q rest ih =>
      obtain ⟨fresh, distinct⟩ := List.nodup_cons.mp distinct
      rw [List.map_cons, List.map_cons, addToGroup]
      by_cases here : q = p
      · have apart : ∀ other ∈ rest, other ≠ p := by
          rintro other later rfl
          exact fresh (here ▸ later)
        rw [if_pos ((only q List.mem_cons_self).mpr here), if_pos here]
        refine congrArg _ (List.map_congr_left fun other later => ?_)
        rw [if_neg (apart other later)]
      · have later : p ∈ rest := (List.mem_cons.mp member).resolve_left (Ne.symm here)
        rw [if_neg (fun code => here ((only q List.mem_cons_self).mp code)), if_neg here,
          ih distinct later fun other among => only other (List.mem_cons_of_mem q among)]

theorem Filled.groups_writeLink (filled : Filled addrSize codeOf seen hello)
    (code : codeOf link = some linkCode)
    (ran : hello.writeLink addrSize linkCode link = .ok after) :
    after.groups address = addToGroup linkCode (address link) (hello.groups address) := by
  have next := filled.writeLink code ran
  rw [next.groups_eq, filled.groups_eq]
  have grows (other : Nat) : groupWith codeOf address (seen ++ [link]) other =
      if other = linkCode then
        { groupWith codeOf address seen other with
          nbIfaceAddrs := (groupWith codeOf address seen other).nbIfaceAddrs ++ [address link] }
      else groupWith codeOf address seen other := by
    unfold groupWith
    rw [linksWith_append, code]
    by_cases here : other = linkCode
    · simp [here]
    · simp [here, Ne.symm here]
  obtain ⟨⟨count, prepared⟩, found, ran⟩ := bind_ok.mp ran
  dsimp only at ran
  split at ran
  · cases ran
  split at ran
  · cases ran
  cases ran
  simp only [linkCode_writeAddr, grows]
  unfold HelloArrays.findGroup at found
  cases known : hello.linkcodesCount linkCode with
  | some pos =>
      simp only [known] at found
      cases found
      obtain ⟨inside, same⟩ := (filled.mapped linkCode count).mp known
      have only : ∀ q ∈ List.range hello.count,
          (hello.helloMsgs q).linkCode = linkCode ↔ q = count := by
        intro q member
        constructor
        · exact fun code => filled.distinct (List.mem_range.mp member) inside (code.trans same.symm)
        · rintro rfl
          exact same
      have added := addToGroup_map
        (fun q => groupWith codeOf address seen (hello.helloMsgs q).linkCode) (address link)
        List.nodup_range (List.mem_range.mpr inside) only
      rw [added]
      refine List.map_congr_left fun q member => ?_
      simp only [only q member]
  | none =>
      simp only [known] at found
      split at found
      · cases found
        have unseen : linksWith codeOf linkCode seen = [] := by
          by_contra some
          have stored := (filled.listed linkCode).mp some
          rw [known] at stored
          cases stored
        have other : ∀ q < hello.count, (hello.helloMsgs q).linkCode ≠ linkCode := by
          intro q inside here
          have stored := (filled.mapped linkCode q).mpr ⟨inside, here⟩
          rw [known] at stored
          cases stored
        have older : ∀ q < hello.count,
            ((hello.newGroup linkCode).helloMsgs q).linkCode = (hello.helloMsgs q).linkCode :=
          fun q inside => congrArg LinkGroup.linkCode
            (Function.update_of_ne (Nat.ne_of_lt inside) _ hello.helloMsgs)
        have last : ((hello.newGroup linkCode).helloMsgs hello.count).linkCode = linkCode :=
          congrArg LinkGroup.linkCode (Function.update_self hello.count _ hello.helloMsgs)
        have size : ((hello.newGroup linkCode).writeAddr addrSize link hello.count).count =
            hello.count + 1 := rfl
        rw [size, List.range_succ, List.map_append, List.map_singleton, last, if_pos rfl,
          addToGroup_new (address link) (by
            intro group member
            obtain ⟨q, inside, rfl⟩ := List.mem_map.mp member
            exact other q (List.mem_range.mp inside))]
        congr 1
        · refine List.map_congr_left fun q member => ?_
          rw [older q (List.mem_range.mp member), if_neg (other q (List.mem_range.mp member))]
        · simp [groupWith, unseen]
      · cases found

theorem groups_fill (ran : fill addrSize codeOf links = .ok hello) :
    hello.groups address =
      groupAll (links.filterMap fun link => (codeOf link).map fun code => (code, address link))
        [] := by
  have loop := foldlM_seen ran
    (fun seen hello => Filled addrSize codeOf seen hello ∧ hello.groups address =
      groupAll (seen.filterMap fun link => (codeOf link).map fun code => (code, address link)) [])
    ⟨filled_blank, rfl⟩ ?_
  · exact loop.2
  · rintro seen link acc acc' _ ⟨filled, same⟩ ran
    cases code : codeOf link with
    | none =>
        simp only [code] at ran
        cases ran
        refine ⟨filled.skip code, ?_⟩
        simp [same, code]
    | some linkCode =>
        simp only [code] at ran
        refine ⟨filled.writeLink code ran, ?_⟩
        rw [filled.groups_writeLink code ran, same]
        simp [groupAll, code]

end HelloArrays

end

/-! ## `OLSR::send_hello` -/

section

variable {config : Config} {now : Int} {state : State}

/-- The link code of a link tuple of any interface of the node, while its time is not over and
the neighbor is known. -/
def helloLinkCode (config : Config) (now : Int) (state : State) (link : LinkTuple) : Option Nat :=
  if state.getMainAddr link.localIfaceAddr = config.raAddr ∧ link.time ≥ now then
    (helloNbType state link).map fun nbType =>
      (helloLinkType config now link &&& 0x03) ||| ((nbType <<< 2) &&& 0x0f)
  else none

/-- The HELLO that `OLSR::send_hello` fills. -/
def fillHello (config : Config) (now : Int) (state : State) :
    Except Fault (HelloArrays LinkTuple) :=
  HelloArrays.fill config.addrSize (helloLinkCode config now state) state.linkset

theorem helloLinkCode_known {link : LinkTuple} {linkCode : Nat}
    (code : helloLinkCode config now state link = some linkCode) : linkCode ∈ linkCodes := by
  unfold helloLinkCode at code
  split at code
  · obtain ⟨nbType, known, rfl⟩ := Option.map_eq_some_iff.mp code
    exact linkCode_known known
  · cases code

/-- The groups of the message are those of `sendHello`. -/
theorem groups_fillHello {hello : HelloArrays LinkTuple}
    (ran : fillHello config now state = .ok hello) :
    hello.groups LinkTuple.nbIfaceAddr =
      state.linkset.foldl (advertiseLink config now state) [] := by
  rw [helloGroups_eq, HelloArrays.groups_fill ran, advertisements]
  congr 1
  refine List.filterMap_congr fun link _ => ?_
  unfold helloLinkCode advertised
  split
  · cases helloNbType state link <;> rfl
  · rfl

end

end SyncFanet.Olsr
