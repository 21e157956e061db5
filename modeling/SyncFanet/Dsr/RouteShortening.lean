import SyncFanet.Dsr.BufferRuns
import SyncFanet.Dsr.MalformedRoutes

/-!
# Automatic route shortening

A node that overhears a packet before it is its turn would answer with the route that leaves out
the nodes in between. `tap` takes the options of the packet only after they are cleared, so that
`dsr_srt_opt_recv` sees no overheard route.
-/

set_option autoImplicit false

namespace SyncFanet.Dsr

/-- A request of `dsr_rrep_send`: the route back and the route that is advertised. -/
def Call.rrep? : Call → Option (DsrSrt × DsrSrt)
  | .rrepSend back cut => some (back, cut)
  | _ => none

theorem learnLinks_quiet {now : SimTime} {node : Node} {srt : DsrSrt} {prvHop : InAddr}
    {learned : Node × List Call}
    (learns : learnLinks now node srt prvHop = .ok learned) :
    learned.2.filterMap Call.rrep? = [] := by
  obtain ⟨after, -, same⟩ := bind_ok.mp learns
  cases same
  refine List.filterMap_eq_nil_iff.mpr fun call member => ?_
  obtain ⟨addr, -, among⟩ := List.mem_flatMap.mp member
  rcases List.mem_cons.mp among with rfl | among
  · rfl
  · rw [List.mem_singleton.mp among]
    rfl

namespace Host

/-- The packet of a loop-free route is heard from the previous hop by a node that comes after the
intended next hop, and that has not lately answered for the previous hop. -/
structure Overhears (host : Host) (p : DSRPkt) (opt : DsrSrtOpt) (prvHop : InAddr) : Prop where
  routed : .srt opt ∈ p.dsrOptions.flatten
  fits : opt.length = dsrAddressSize * opt.addrs.length + 2
  distinct : (p.src :: opt.addrs ++ [p.dst]).Nodup
  unfinished : 1 ≤ opt.sleft
  left : opt.sleft ≤ opt.addrs.length
  previous : (p.src :: opt.addrs)[opt.addrs.length - opt.sleft]? = some prvHop
  remaining : host.node.myaddr ∈ opt.addrs.drop (opt.addrs.length - opt.sleft) ++ [p.dst]
  unintended : (opt.addrs ++ [p.dst])[opt.addrs.length - opt.sleft]? ≠ some host.node.myaddr
  pending : (p.src, prvHop) ∉ host.node.gratRrep

/-- One reply is sent. It advertises the route without the nodes between the previous hop and this
one, and goes over the part of that up to this node backwards. -/
def ShortensRoute (outside : Outside) (config : RreqConfig) (host : Host) (p : DSRPkt)
    (opt : DsrSrtOpt) (prvHop : InAddr) : Prop :=
  ∃ after back cut fate before between behind,
    host.processDsr outside config true p = .ok (after, [(back, cut)], fate) ∧
      p.src :: opt.addrs ++ [p.dst] =
        before ++ prvHop :: (between ++ host.node.myaddr :: behind) ∧
      cut.nodes = before ++ prvHop :: host.node.myaddr :: behind ∧
      back.nodes = (before ++ [prvHop, host.node.myaddr]).reverse

theorem not_replies_overheard (outside : Outside) (config : RreqConfig) (host : Host) (p : DSRPkt)
    {after : Host} {replies : List (DsrSrt × DsrSrt)} {fate : Fate}
    (ran : host.processDsr outside config true p = .ok (after, replies, fate)) : replies = [] := by
  rw [processDsr_overheard] at ran
  cases ran
  rfl

/-- No node shortens the route of any packet that it overhears. -/
theorem not_shortensRoute (outside : Outside) (config : RreqConfig) (host : Host) (p : DSRPkt)
    (opt : DsrSrtOpt) (prvHop : InAddr) :
    ¬ host.ShortensRoute outside config p opt prvHop := by
  rintro ⟨after, back, cut, fate, -, -, -, ran, -⟩
  cases not_replies_overheard outside config host p ran

/-- The node 3. -/
def laterHost : Host :=
  { emptyHost false with node := { (emptyHost false).node with myaddr := 3 } }

/-- A packet on its way from the node 1 to the first relay 2, over 3 to 4. -/
def passingPacket : DSRPkt where
  src := 1
  dst := 4
  nextAddress := some 2
  ttl := 60
  payloadLen := 512
  dsrOptions := [[.srt (routedOpt 2)]]
  costVector := []

/-- The second relay hears the source, and does not answer with the route over itself alone. -/
theorem not_shortensRoute_laterRelay :
    laterHost.Overhears passingPacket (routedOpt 2) 1 ∧
      ¬ laterHost.ShortensRoute atStart defaultRreqs passingPacket (routedOpt 2) 1 := by
  refine ⟨⟨by decide, by decide, by decide, by decide, by decide, by decide, by decide,
    by decide, List.not_mem_nil⟩, ?_⟩
  rintro ⟨after, back, cut, fate, -, -, -, ran, -⟩
  cases not_replies_overheard atStart defaultRreqs laterHost passingPacket ran

end Host

end SyncFanet.Dsr
