/-
  File:      Gem5Sc/Network/Events.lean
  Subject:   EVERY EVENT IS A CHAIN OF SMALL STEPS.

  One lemma for each function of the ports and modules, from `recv` up to the whole event
  (`step_smallSteps`). A `send` or `recv` that answers true takes the packet out of the hand of its
  caller, one that answers false leaves it there.

  `Ready` is what the code relies on and does not check: a channel holds packets of its own number,
  and a response that waits to be sent has been issued and knows its request. Every chain of small
  steps keeps it (`Network/Traffic.lean`).
-/
import Gem5Sc.Network.SmallSteps

namespace Gem5Sc

open Relation

/-! ## 1. The ports -/

namespace UpstreamPort

/-- A channel with the same contents. -/
theorem channels_setVc_same (u : UpstreamPort) {v : Nat} (hv : v < u.inputVcs.length) {x : InputVC}
    (hb : x.buffer = (u.vc v).buffer) (hc : x.capacity = (u.vc v).capacity) :
    (u.setVc v x).channels = u.channels := by
  have hlen : v < u.channels.length := by rw [u.channels_length]; exact hv
  have hget : u.channels[v] = ⟨x.buffer, x.capacity⟩ := by
    rw [hb, hc, ← u.channels_getD v]
    simp [hlen]
  rw [u.channels_setVc, ← hget, List.set_getElem_self]

end UpstreamPort

namespace DownstreamPort

theorem channels_setVc_same (d : DownstreamPort) {v : Nat} (hv : v < d.outputVcs.length)
    {x : OutputVC} (hb : x.buffer = (d.vc v).buffer) (hc : x.capacity = (d.vc v).capacity) :
    (d.setVc v x).channels = d.channels := by
  have hlen : v < d.channels.length := by rw [d.channels_length]; exact hv
  have hget : d.channels[v] = ⟨x.buffer, x.capacity⟩ := by
    rw [hb, hc, ← d.channels_getD v]
    simp [hlen]
  rw [d.channels_setVc, ← hget, List.set_getElem_self]

end DownstreamPort

/-- A module that keeps no queue of requests, or an empty one. -/
def Module.Unqueued : Module → Prop
  | .crossbar m => m.reqQueue = []
  | .arbiter m => m.reqQueue = []
  | _ => True

namespace Network

/-- The hand of a caller before a `send` or `recv` with this answer. -/
def given (ok : Bool) (p : PacketId) (hand : Multiset PacketId) : Multiset PacketId :=
  if ok then p ::ₘ hand else hand

variable (n : Network) (hand : Multiset PacketId) (now : UInt64)

/-- `recv` of an upstream port. -/
theorem recvReqAt_carries (b j : Nat) (p : PacketId) :
    Carries ⟨n, given (Fabric.recvReqAt now b j p n.world).1 p hand⟩
      ⟨n.put (Fabric.recvReqAt now b j p n.world).2, hand⟩ := by
  unfold Fabric.recvReqAt
  split
  · exact .refl
  · next u hu =>
      have h1 : ∀ hand', Carries ⟨n, hand'⟩
          ⟨{ n with heap := n.heap.setDstCycle p now }, hand'⟩ :=
        fun _ => .single (.heap (.arrive p now))
      have h2 : ∀ hand', Carries ⟨n, hand'⟩
          ⟨{ n with heap := (n.heap.setDstCycle p now).setDstCycle p now }, hand'⟩ :=
        fun _ => (h1 _).tail (.heap (.arrive p now))
      cases hv : validVc (n.heap.packet p).vcId u.inputVcs.length with
      | false =>
          simp only [world, UpstreamPort.recv_invalid now hv]
          exact ((h1 hand).tail (.heap (.delete p))).tail (.up hu (.of_eq rfl))
      | true =>
          have hlt := validVc_toNat hv
          cases hf : (u.vc (n.heap.packet p).vcId.toNat).full with
          | true =>
              simp only [world, UpstreamPort.recv_full now hv hf]
              refine ((h2 hand).tail (.heap (.delete p))).tail (.up hu (.of_eq ?_))
              exact UpstreamPort.channels_setVc_same (u.received now p n.heap) hlt rfl rfl
          | false =>
              simp only [world, UpstreamPort.recv_enqueued now hv hf]
              refine (h2 _).tail (.up hu ?_)
              have hroom : (u.vc (n.heap.packet p).vcId.toNat).buffer.length <
                  (u.vc (n.heap.packet p).vcId.toNat).capacity := by
                simpa [InputVC.full] using hf
              have hget := u.channels_getD (n.heap.packet p).vcId.toNat
              have hpush : Rewrites ((n.heap.setDstCycle p now).setDstCycle p now) u.channels _
                  (p ::ₘ hand) hand := .push (v := (n.heap.packet p).vcId.toNat) (p := p)
                (by rw [u.channels_length]; exact hlt) (by rw [hget]; exact hroom)
                (by simp only [Heap.setDstCycle_vcId, validVc_cast hv])
              rw [hget] at hpush
              exact ((u.received now p n.heap).channels_setVc _ _).symm ▸ hpush

theorem recvReqAt_down (b j : Nat) (p : PacketId) (w : Heap × Fabric) (a : Nat) :
    ((Fabric.recvReqAt now b j p w).2.2.inst a).down = (w.2.inst a).down := by
  unfold Fabric.recvReqAt
  split
  · rfl
  · exact Fabric.down_setUp _ _ _ _ _

/-- What a `sendReq` on port `i` of module `a` has come to is a chain of small steps. -/
def Sent (a i : Nat) (p : PacketId) (r : Bool × DownstreamPort × (Heap × Fabric)) : Prop :=
  Carries ⟨n, given r.1 p hand⟩ ⟨n.put (r.2.2.1, r.2.2.2.setDown a i r.2.1), hand⟩

/-- The end of `sendReq`: the packet is queued, or dropped. -/
theorem sent_enqueueOrDrop {a i v : Nat} {d d₀ : DownstreamPort} {p : PacketId}
    (hd : (n.fabric.inst a).down[i]? = some d₀) (hc : d.channels = d₀.channels)
    (hv : v < d.outputVcs.length) (hvc : (n.heap.packet p).vcId = v) :
    Sent n hand a i p (d.enqueueOrDrop v p n.world) := by
  cases hf : (d.vc v).full with
  | true =>
      rw [DownstreamPort.enqueueOrDrop_of_full hf]
      have hsame := d.channels_setVc_same hv (x := (d.vc v).countDropped) rfl rfl
      exact (ReflTransGen.single (.heap (.delete p))).tail
        (Carry.down (n := { n with heap := n.heap.delete p }) hd (.of_eq (hsame.trans hc)))
  | false =>
      rw [DownstreamPort.enqueueOrDrop_of_not_full hf]
      have hroom : (d.vc v).buffer.length < (d.vc v).capacity := by
        simpa [OutputVC.full] using hf
      have hget := d.channels_getD v
      have hpush : Queues n.heap d.channels _ (p ::ₘ hand) hand := .push (v := v) (p := p)
        (by rw [d.channels_length]; exact hv) (by rw [hget]; exact hroom) hvc
      have hset := d.channels_setVc v ((d.vc v).push p)
      rw [hget] at hpush
      rw [OutputVC.push_buffer] at hset
      exact .single (Carry.down hd (by rw [← hc, hset]; exact hpush))

/-- `sendReq` of a downstream port. -/
theorem sent_sendReq {a i : Nat} {d : DownstreamPort} (p : PacketId)
    (hd : (n.fabric.inst a).down[i]? = some d) :
    Sent n hand a i p (d.sendReq (n.fabric.downPeer now a i) p n.world) := by
  cases hv : validVc (n.heap.packet p).vcId d.outputVcs.length with
  | false =>
      rw [DownstreamPort.sendReq_invalid hv]
      exact (ReflTransGen.single (.heap (.delete p))).tail
        (Carry.down (n := { n with heap := n.heap.delete p }) hd (.of_eq rfl))
  | true =>
      have hlt := validVc_toNat hv
      have hvc : (n.heap.packet p).vcId = ((n.heap.packet p).vcId.toNat : Int) :=
        (validVc_cast hv).symm
      by_cases hb : (d.vc (n.heap.packet p).vcId.toNat).buffer = []
      · rw [DownstreamPort.sendReq_direct hv hb]
        cases hp : n.fabric.downPair a i with
        | none =>
            -- a null `pair` refuses
            rw [Fabric.downPeer, hp]
            exact sent_enqueueOrDrop n hand (d := d.counted p n.heap) hd rfl hlt hvc
        | some x =>
            have hpeer : n.fabric.downPeer now a i = some (Fabric.recvReqAt now x.1 x.2) := by
              rw [Fabric.downPeer, hp, Option.map_some]
            rw [hpeer]
            have hrecv := fun hand => recvReqAt_carries n hand now x.1 x.2 p
            have hdown :
                ((Fabric.recvReqAt now x.1 x.2 p n.world).2.2.inst a).down[i]? = some d := by
              rw [recvReqAt_down]
              exact hd
            rw [SimplePort.send]
            split
            · next hok =>
                rw [hok] at hrecv
                exact (hrecv hand).tail (Carry.down (n := n.put _) (d := d) hdown (.of_eq rfl))
            · next hno =>
                rw [Bool.eq_false_iff.mpr hno] at hrecv
                have hvc' := ((hrecv hand).field Packet.vcId (fun _ _ => rfl) p).trans hvc
                exact (hrecv _).trans (sent_enqueueOrDrop (n.put _) hand
                  (d := d.counted p n.heap) hdown rfl hlt hvc')
      · rw [DownstreamPort.sendReq_queued hv hb]
        exact sent_enqueueOrDrop n hand hd rfl hlt hvc

theorem sendReqAt_carries (a i : Nat) (p : PacketId) :
    Carries ⟨n, given (Fabric.sendReqAt now a i p n.world).1 p hand⟩
      ⟨n.put (Fabric.sendReqAt now a i p n.world).2, hand⟩ := by
  unfold Fabric.sendReqAt
  split
  · exact .refl
  · next d hd => exact sent_sendReq n hand now p hd

/-- The packets of a row of channels have the numbers of their channels. -/
def Sorted (h : Heap) (cs : List Channel) : Prop :=
  ∀ v, ∀ p ∈ (cs.getD v default).buffer, (h.packet p).vcId = v

/-- `trySend` on a channel that holds its own packets: the head goes to the end of the channel or
    stays where it is. -/
theorem trySend_carries {a i k : Nat} {d : DownstreamPort} (peer : Peer Fabric) (g : Fabric)
    (hd : (n.fabric.inst a).down[i]? = some d) (hk : k < d.outputVcs.length)
    (hs : Sorted n.heap d.channels) :
    ∃ h d', (d.trySend peer k (n.heap, g)).2 = (d', (h, g)) ∧
      d'.outputVcs.length = d.outputVcs.length ∧ Sorted h d'.channels ∧
      Carries ⟨n, hand⟩ ⟨n.put (h, n.fabric.setDown a i d'), hand⟩ := by
  cases hb : (d.vc k).buffer with
  | nil =>
      rw [DownstreamPort.trySend_nil hb]
      refine ⟨n.heap, d, rfl, rfl, hs, ?_⟩
      rw [Fabric.setDown_self _ _ _ _ hd]
      exact .refl
  | cons p rest =>
      have hget := d.channels_getD k
      have hvc : (n.heap.packet p).vcId = k :=
        hs k p (by rw [hget, hb]; exact List.mem_cons_self)
      have hdel : Carries ⟨n, hand⟩ ⟨{ n with heap := n.heap.delete p }, hand⟩ :=
        .single (.heap (.delete p))
      rw [DownstreamPort.trySend_cons hk hb hvc]
      cases hf : (d.vc k).full with
      | true =>
          have hsame := d.channels_setVc_same hk (x := (d.vc k).countDropped) rfl rfl
          refine ⟨_, _, rfl, d.setVc_length k _, hsame.symm ▸ hs, ?_⟩
          exact hdel.tail (Carry.down (n := { n with heap := n.heap.delete p }) hd (.of_eq hsame))
      | false =>
          have hset := d.channels_setVc k ((d.vc k).push p).popForwarded
          have htail : ((d.vc k).push p).popForwarded.buffer = rest ++ [p] := by
            rw [OutputVC.popForwarded_buffer, OutputVC.push_buffer, hb]
            rfl
          have hrot : Queues (n.heap.delete p) d.channels
              (d.setVc k ((d.vc k).push p).popForwarded).channels hand hand := by
            have hhead : (d.channels.getD k default).buffer = p :: rest := by rw [hget, hb]
            have hrot : Queues (n.heap.delete p) d.channels _ hand hand :=
              .rotate (by rw [d.channels_length]; exact hk) hhead
            rw [hset, htail]
            rw [hget] at hrot
            exact hrot
          refine ⟨_, _, rfl, d.setVc_length k _, fun v r hr => ?_, ?_⟩
          · rcases hrot.channel v r hr with hr | hr
            · exact hs v r hr
            · exact hr
          · exact hdel.tail (Carry.down (n := { n with heap := n.heap.delete p }) hd hrot)

/-- The loop of `DownstreamPort::tick`. -/
theorem tickLoop_carries {a i : Nat} (peer : Peer Fabric) (g : Fabric) (ks : List Nat) (n : Network)
    (d : DownstreamPort) (hd : (n.fabric.inst a).down[i]? = some d)
    (hks : ∀ k ∈ ks, k < d.outputVcs.length) (hs : Sorted n.heap d.channels) :
    ∃ h d', ks.foldl (fun s k => (s.1.trySend peer k s.2).2) (d, (n.heap, g)) = (d', (h, g)) ∧
      Carries ⟨n, hand⟩ ⟨n.put (h, n.fabric.setDown a i d'), hand⟩ := by
  induction ks generalizing n d with
  | nil =>
      refine ⟨n.heap, d, rfl, ?_⟩
      rw [Fabric.setDown_self _ _ _ _ hd]
      exact .refl
  | cons k ks ih =>
      obtain ⟨h, d₁, hstep, hlen, hs₁, hc⟩ :=
        trySend_carries n hand peer g hd (hks k List.mem_cons_self) hs
      have hks₁ : ∀ k ∈ ks, k < d₁.outputVcs.length := fun k hk => by
        rw [hlen]
        exact hks k (List.mem_cons_of_mem _ hk)
      obtain ⟨h', d', hloop, hc'⟩ := ih (n.put (h, n.fabric.setDown a i d₁)) d₁
        (Fabric.down_setDown_self _ _ _ _ hd) hks₁ hs₁
      refine ⟨h', d', by rw [List.foldl_cons, hstep]; exact hloop, hc.trans ?_⟩
      have hset := Fabric.setDown_setDown n.fabric a i d₁ d'
      rw [← hset]
      exact hc'

/-- `tick` of a downstream port. -/
theorem tickDownAt_steps (a i : Nat)
    (hs : ∀ d, (n.fabric.inst a).down[i]? = some d → Sorted n.heap d.channels) :
    Works ⟨n, hand⟩ ⟨n.put (Fabric.tickDownAt now a i n.world), hand⟩ := by
  unfold Fabric.tickDownAt
  split
  · exact .refl
  · next d hd =>
      have hnote : Work ⟨n, hand⟩ ⟨{ n with fabric :=
          { n.fabric with log := n.fabric.log ++ d.heads.map (.attempt now a i) } }, hand⟩ :=
        .note rfl rfl ⟨rfl, rfl⟩
      obtain ⟨h, d', hloop, hc⟩ := tickLoop_carries hand (n.fabric.downPeer now a i)
        { n.fabric with log := n.fabric.log ++ d.heads.map (.attempt now a i) }
        (List.range d.outputVcs.length) { n with fabric :=
          { n.fabric with log := n.fabric.log ++ d.heads.map (.attempt now a i) } } d hd
        (fun k hk => List.mem_range.mp hk) (hs d hd)
      have htick : d.tick (n.world.2.downPeer now a i) (n.world.1,
          { n.world.2 with log := n.world.2.log ++ d.heads.map (.attempt now a i) }) =
          (d', (h, { n.fabric with log := n.fabric.log ++ d.heads.map (.attempt now a i) })) :=
        hloop
      simp only [htick]
      exact .head hnote hc.works

/-! ## 2. The tick of a module -/

/-- **A request is made and sent.** What is left to do is for the module. -/
theorem issue_turns {a k : Nat} (t : Payload) (pkt : Packet) (hreq : pkt.isRequest = true)
    (horig : pkt.originalReq = none) (hvc : pkt.vcId = 0) {r : Bool × (Heap × Fabric)}
    (hr : r = Fabric.sendReqAt now a k n.heap.nextPacket
      ((n.heap.newRequest t pkt).2, n.fabric)) :
    Turns ⟨n, hand⟩ ⟨n.put r.2, hand⟩ ∧
      (r.1 = true → n.heap.nextPacket ∈ (Config.mk (n.put r.2) hand).requests) ∧
      (∀ b, (r.2.2.inst b).mod = (n.fabric.inst b).mod) ∧
      r.2.1.address n.heap.nextPacket = t.address := by
  subst hr
  have hsend := sendReqAt_carries { n with heap := (n.heap.newRequest t pkt).2 } hand now a k
    n.heap.nextPacket
  have hkept := hsend.carried
  have hissue := fun b => (Turn.issue t pkt b hreq horig hvc : Turn ⟨n, hand⟩ _)
  refine ⟨?_, fun hok => ?_, hkept.mod, ?_⟩
  · cases hok : (Fabric.sendReqAt now a k n.heap.nextPacket
        ((n.heap.newRequest t pkt).2, n.fabric)).1 with
    | true =>
        have hgiven := hissue true
        simp only [if_true, Multiset.singleton_add] at hgiven
        rw [world, hok] at hsend
        exact .head hgiven hsend.turns
    | false =>
        have hgiven := hissue false
        simp only [Bool.false_eq_true, if_false, zero_add] at hgiven
        rw [world, hok] at hsend
        exact .head hgiven hsend.turns
  · have hall := hkept.requests
    rw [world, hok] at hall
    have hmem : n.heap.nextPacket ∈ (given true n.heap.nextPacket hand) :=
      Multiset.mem_cons_self _ _
    exact (congrArg (n.heap.nextPacket ∈ ·) hall).mpr (Multiset.mem_add.mpr (Or.inl hmem))
  · have hpay : ((n.heap.newRequest t pkt).2.packet n.heap.nextPacket).payload =
        some n.heap.nextPayload := by rw [Heap.newRequest_packet_self]
    have haddr : (n.heap.newRequest t pkt).2.address n.heap.nextPacket = t.address := by
      rw [Heap.address, hpay]
      simp [Heap.newRequest, Heap.newPayload, Heap.new]
    rw [← haddr]
    exact hkept.heap.address (Nat.lt_succ_self _) hpay (Nat.lt_succ_self _)

/-- The network when the code of module `a` has come to `r`. -/
def after (a : Nat) (r : Module × (Heap × Fabric)) : Network :=
  n.put (r.2.1, r.2.2.setMod a r.1)

variable {a : Nat}

variable {n hand now}

/-- A module that stays as it is. -/
theorem after_self {m : Module} {w : Heap × Fabric} (hm : (w.2.inst a).mod = m) :
    n.after a (m, w) = n.put w := by
  have hself : w.2.setMod a m = w.2 := Fabric.setMod_self _ _ _ hm
  rw [after, hself]

theorem turns_after {c : Config} {m : Module} {w : Heap × Fabric}
    (hc : Turns c ⟨n.put w, hand⟩) (hm : (w.2.inst a).mod = m) :
    Turns c ⟨n.after a (m, w), hand⟩ :=
  (after_self hm).symm ▸ hc

theorem steps_after {c : Config} {m : Module} {w : Heap × Fabric}
    (hc : Works c ⟨n.put w, hand⟩) (hm : (w.2.inst a).mod = m) :
    Works c ⟨n.after a (m, w), hand⟩ :=
  (after_self hm).symm ▸ hc

theorem cpu_tick_turns {m : CPUSim} (hm : (n.fabric.inst a).mod = .cpu m) (d : Draw) :
    Turns ⟨n, hand⟩
      ⟨n.after a ((Module.cpu m).tick (Fabric.context a now n.fabric) d n.world), hand⟩ := by
  simp only [Module.tick, CPUSim.tick]
  split
  · exact turns_after .refl hm
  · split
    · next hgo =>
        obtain ⟨hturns, hmem, hmod, haddr⟩ := issue_turns n hand now (a := a)
          (k := m.nextAddr.toNat % (Fabric.context a now n.fabric).downstream)
          { command := .read, address := m.nextAddr, dataLength := 4 }
          { srcCycle := now, type := .reqRead, vcId := 0 } rfl rfl rfl rfl
        have hm' := (hmod a).trans hm
        split
        · next hok => exact hturns.tail (Turn.track (n := n.put _) hm' hgo.1 (hmem hok) haddr)
        · exact turns_after (hturns.tail (.carry (.heap (.delete n.heap.nextPacket)))) hm'
    · exact turns_after .refl hm

theorem tryForward_turns {m : CacheSim} (hm : (n.fabric.inst a).mod = .cache m) :
    Turns ⟨n, hand⟩ ⟨n.after a (.cache (m.tryForward (Fabric.context a now n.fabric) n.world).2.1,
      (m.tryForward (Fabric.context a now n.fabric) n.world).2.2), hand⟩ := by
  unfold CacheSim.tryForward
  split
  · exact turns_after .refl hm
  · next p rest hb =>
      split
      · exact turns_after .refl hm
      · next i hi =>
          have hsend := sendReqAt_carries n hand now a i p
          simp only
          split
          · next hok =>
              have hok : (Fabric.sendReqAt now a i p n.world).1 = true := hok
              rw [hok] at hsend
              have hsent := hsend.setMod a (.cache { m with reqBuffer := rest })
              exact .head (.forward hm hb) hsent.turns
          · next hno =>
              have hno : (Fabric.sendReqAt now a i p n.world).1 = false := Bool.eq_false_iff.mpr hno
              have hm' := (hsend.carried.mod a).trans hm
              rw [hno] at hsend
              exact turns_after hsend.turns hm'

/-- A generator, whatever has become of its fields. -/
theorem generator_after {c : Config} {m : TrafficGenerator} {w : Heap × Fabric}
    (hc : Turns c ⟨n.put w, hand⟩) (hm : (w.2.inst a).mod = .trafficGen m)
    (m' : TrafficGenerator) : Turns c ⟨n.after a (.trafficGen m', w), hand⟩ :=
  hc.tail (Turn.generator (n := n.put w) hm)

theorem issueRequest_turns {m : TrafficGenerator} (hm : (n.fabric.inst a).mod = .trafficGen m)
    (d : Draw) : Turns ⟨n, hand⟩ ⟨n.after a
      (.trafficGen (m.issueRequest (Fabric.context a now n.fabric) d n.world).1,
        (m.issueRequest (Fabric.context a now n.fabric) d n.world).2), hand⟩ := by
  unfold TrafficGenerator.issueRequest
  split
  · exact generator_after (.single (.carry (.heap (.blank {})))) hm _
  · next addr isWrite m' _ =>
      obtain ⟨hturns, -, hmod, -⟩ := issue_turns n hand now (a := a) (k := 0)
        { command := if isWrite then .write else .read, address := addr, dataLength := 4 }
        { srcCycle := now, type := if isWrite then .reqWrite else .reqRead }
        (by cases isWrite <;> rfl) rfl rfl rfl
      have hm' := (hmod a).trans hm
      have hdrop := hturns.tail (.carry (.heap (.delete n.heap.nextPacket)))
      exact iteInduction
        (motive := fun r : TrafficGenerator × (Heap × Fabric) =>
          Turns ⟨n, hand⟩ ⟨n.after a (.trafficGen r.1, r.2), hand⟩)
        (fun _ => generator_after hturns hm' m')
        (fun _ => generator_after (w := (_, _)) hdrop hm' m')

theorem generator_tick_turns {m : TrafficGenerator} (hm : (n.fabric.inst a).mod = .trafficGen m)
    (d : Draw) : Turns ⟨n, hand⟩
      ⟨n.after a ((Module.trafficGen m).tick (Fabric.context a now n.fabric) d n.world), hand⟩ := by
  simp only [Module.tick, TrafficGenerator.tick]
  split
  · exact issueRequest_turns hm d
  · exact turns_after .refl hm

/-- **The tick of a module.** -/
theorem module_tick_turns {m : Module} (hm : (n.fabric.inst a).mod = m) (hq : m.Unqueued)
    (d : Draw) : Turns ⟨n, hand⟩
      ⟨n.after a (m.tick (Fabric.context a now n.fabric) d n.world), hand⟩ := by
  cases m with
  | cpu m => exact cpu_tick_turns hm d
  | cache m => exact tryForward_turns hm
  | memory => exact turns_after .refl hm
  | crossbar m =>
      have hidle : m.tick (Fabric.context a now n.fabric) n.world = (m, n.world) := by
        unfold Crossbar.tick
        rw [show m.reqQueue = [] from hq]
      simp only [Module.tick, hidle]
      exact turns_after .refl hm
  | arbiter m =>
      have hidle : m.tick (Fabric.context a now n.fabric) n.world = (m, n.world) := by
        unfold Arbiter.tick
        rw [show m.reqQueue = [] from hq]
      simp only [Module.tick, hidle]
      exact turns_after .refl hm
  | router => exact turns_after .refl hm
  | trafficGen m => exact generator_tick_turns hm d

/-- With what is noted of it. -/
theorem tickModule_turns (n : Network) (hand : Multiset PacketId) (now : UInt64) {a : Nat}
    (hq : (n.fabric.inst a).mod.Unqueued) :
    Turns ⟨n, hand⟩ ⟨n.put (Fabric.tickModule now a n.world), hand⟩ := by
  have hnote : Turn ⟨n, hand⟩ ⟨{ n with fabric :=
      { n.fabric.record now a with drawn := n.fabric.drawn + 1 } }, hand⟩ :=
    .note rfl rfl ⟨rfl, rfl⟩
  obtain ⟨f, hf⟩ : ∃ f : Fabric, f = { n.fabric.record now a with drawn := n.fabric.drawn + 1 } :=
    ⟨_, rfl⟩
  have htick : Turns ⟨{ n with fabric := f }, hand⟩ ⟨Network.after { n with fabric := f } a
      ((f.inst a).mod.tick (Fabric.context a now f) (n.fabric.draw n.fabric.drawn) (n.heap, f)),
      hand⟩ := module_tick_turns rfl (hf ▸ hq) _
  rw [hf] at htick
  exact .head hnote htick

end Network

/-! ## 3. The tick of an upstream port -/

/-- The request is answered after `delay` cycles and deleted. -/
def Module.respond {ρ : Type} (c : Context ρ) (p : PacketId) (srcId : Nat) (delay : UInt64)
    (w : Heap × ρ) : Heap × ρ :=
  let h := w.1.setResponseOk p
  let x := h.newResp c.now p (h.packet p).vcId
  (x.2.delete p, c.schedule (.respond srcId x.1) delay w.2)

/-- **What a request comes to**: it is deleted and refused, answered, or kept by a cache. -/
theorem Module.handleUpstreamRequest_cases {ρ : Type} (c : Context ρ) (m : Module) (p : PacketId)
    (srcId : Nat) (w : Heap × ρ) :
    m.handleUpstreamRequest c p srcId w = (false, m, (w.1.delete p, w.2)) ∨
    (m.Responds ∧ ∃ delay,
      m.handleUpstreamRequest c p srcId w = (true, m, Module.respond c p srcId delay w)) ∨
    (∃ x : CacheSim, m = .cache x ∧ x.full = false ∧ m.handleUpstreamRequest c p srcId w =
      (true, .cache { x with reqBuffer := x.reqBuffer ++ [p] },
        (w.1, c.schedule .tryForward 1 w.2))) := by
  cases m with
  | cache x =>
      cases hf : x.full with
      | true =>
          refine Or.inl ?_
          rw [Module.handleUpstreamRequest, CacheSim.handleUpstreamRequest_full hf]
      | false =>
          cases hh : CacheSim.hit w.1 p with
          | true =>
              refine Or.inr (Or.inl ⟨trivial, 1, ?_⟩)
              rw [Module.handleUpstreamRequest, CacheSim.handleUpstreamRequest_hit hf hh]
              rfl
          | false =>
              refine Or.inr (Or.inr ⟨x, rfl, hf, ?_⟩)
              rw [Module.handleUpstreamRequest, CacheSim.handleUpstreamRequest_miss hf hh]
  | memory => exact Or.inr (Or.inl ⟨trivial, 100, rfl⟩)
  | cpu m => exact Or.inl rfl
  | crossbar m => exact Or.inl rfl
  | arbiter m => exact Or.inl rfl
  | router => exact Or.inl rfl
  | trafficGen m => exact Or.inl rfl

namespace Network

variable (n : Network) (hand : Multiset PacketId) (now : UInt64) {a : Nat}

/-- A response is made and scheduled, and the request deleted. -/
theorem respond_steps {p : PacketId} (hm : (n.fabric.inst a).mod.Responds)
    (hp : p < n.heap.nextPacket) (srcId : Nat) (delay : UInt64) {c : Context Fabric}
    (hc : c.schedule = Fabric.schedule a) :
    Works ⟨n, p ::ₘ hand⟩ ⟨n.put (Module.respond c p srcId delay n.world), hand⟩ := by
  have hok : Work ⟨n, p ::ₘ hand⟩ ⟨{ n with heap := n.heap.setResponseOk p }, p ::ₘ hand⟩ :=
    .carry (.heap (.ok p))
  have hp' : p < (n.heap.setResponseOk p).nextPacket := by
    rw [Heap.setResponseOk_nextPacket]
    exact hp
  have hanswer : Work ⟨{ n with heap := n.heap.setResponseOk p }, p ::ₘ hand⟩ _ :=
    .answer srcId c.now delay hm hp'
  rw [Module.respond, hc]
  exact (ReflTransGen.head hok (.single hanswer)).tail (.carry (.heap (.delete p)))

/-- What `tick` of upstream port `j` of module `a` offers a request to. -/
def offered (now : UInt64) (a j : Nat) : Handler Fabric := fun p id label w =>
  Fabric.ownerRequest a now p id label
    (w.1, { w.2 with log := w.2.log ++ [.offer now a j p] })

/-- The packets of a port have been issued. -/
def Issued (h : Heap) (cs : List Channel) : Prop :=
  ∀ v, ∀ p ∈ (cs.getD v default).buffer, p < h.nextPacket

/-- A popped channel holds nothing new. -/
theorem mem_pop {u : UpstreamPort} {i v : Nat} {r : PacketId} (hi : i < u.inputVcs.length)
    (hr : r ∈ ((u.setVc i (u.vc i).pop).channels.getD v default).buffer) :
    r ∈ (u.channels.getD v default).buffer := by
  rw [UpstreamPort.channels_getD] at hr ⊢
  by_cases hv : i = v
  · subst hv
    rw [UpstreamPort.setVc_vc_self hi, InputVC.pop_buffer] at hr
    exact List.mem_of_mem_tail hr
  · rwa [UpstreamPort.setVc_vc_ne u hv] at hr

/-- The head of a channel is taken out. -/
theorem pop_carries {j i : Nat} {u u₀ : UpstreamPort} {h : Heap} {g : Fabric} {p : PacketId}
    {rest : List PacketId} (hup : (g.inst a).up[j]? = some u₀) (hi : i < u.inputVcs.length)
    (hb : (u.vc i).buffer = p :: rest) :
    Carry ⟨n.put (h, g.setUp a j u), hand⟩
      ⟨n.put (h, g.setUp a j (u.setVc i (u.vc i).pop)), p ::ₘ hand⟩ := by
  have hget := u.channels_getD i
  have hhead : (u.channels.getD i default).buffer = p :: rest := by rw [hget, hb]
  have hrow : Rewrites h u.channels _ hand (p ::ₘ hand) :=
    .pop (by rw [u.channels_length]; exact hi) hhead
  have hset := u.channels_setVc i (u.vc i).pop
  rw [InputVC.pop_buffer, InputVC.pop_capacity, hb, List.tail_cons] at hset
  rw [hget, ← hset] at hrow
  have hcarry := Carry.up (n := n.put (h, g.setUp a j u)) (Fabric.up_setUp_self _ _ _ u hup) hrow
  rw [show (n.put (h, g.setUp a j u)).fabric.setUp a j (u.setVc i (u.vc i).pop) =
    g.setUp a j (u.setVc i (u.vc i).pop) from Fabric.setUp_setUp _ _ _ _ _] at hcarry
  exact hcarry

/-- A request in the hand goes into the buffer of a cache, which arms its event. -/
theorem keep_steps {p : PacketId} {x : CacheSim} (hm : (n.fabric.inst a).mod = .cache x)
    (hfull : x.full = false) :
    Works ⟨n, p ::ₘ hand⟩ ⟨n.put (n.heap,
      (n.fabric.setMod a (.cache { x with reqBuffer := x.reqBuffer ++ [p] })).schedule a
        .tryForward 1), hand⟩ := by
  have hkeep : Work ⟨n, p ::ₘ hand⟩ _ := .keep hm hfull
  have harm : Work ⟨n.put (n.heap, n.fabric.setMod a
    (.cache { x with reqBuffer := x.reqBuffer ++ [p] })), hand⟩ _ := .arm a 1
  exact .head hkeep (.single harm)

/-- **One round of the loop of `UpstreamPort::tick`.** The loop works on the port and the rest of
    the system; the port is written back at the end. -/
theorem tickVc_steps {j i : Nat} {u u₀ : UpstreamPort} {h : Heap} {g : Fabric}
    (hg : (g.inst a).up[j]? = some u₀) (hi : i < u.inputVcs.length) (hiss : Issued h u.channels) :
    ∃ u' h' g', UpstreamPort.tickVc (offered now a j) (u, (h, g)) i = (u', (h', g')) ∧
      u'.inputVcs.length = u.inputVcs.length ∧ (g'.inst a).up[j]? = some u₀ ∧
      Issued h' u'.channels ∧
      Works ⟨n.put (h, g.setUp a j u), hand⟩ ⟨n.put (h', g'.setUp a j u'), hand⟩ := by
  cases hb : (u.vc i).buffer with
  | nil => exact ⟨u, h, g, by rw [UpstreamPort.tickVc, hb], rfl, hg, hiss, .refl⟩
  | cons p rest =>
      obtain ⟨g₁, hg₁⟩ : ∃ g₁ : Fabric, g₁ = { g with log := g.log ++ [.offer now a j p] } :=
        ⟨_, rfl⟩
      have hp : p < h.nextPacket :=
        hiss i p (by rw [u.channels_getD i, hb]; exact List.mem_cons_self)
      have hup : (g₁.inst a).up[j]? = some u₀ := hg₁ ▸ hg
      have hnote : Work ⟨n.put (h, g.setUp a j u), hand⟩
          ⟨n.put (h, g₁.setUp a j u), hand⟩ := by
        rw [hg₁]
        exact .note rfl rfl ⟨rfl, rfl⟩
      -- the head is taken out first: the answer true is the only one that does so
      have hpop : Work ⟨n.put (h, g₁.setUp a j u), hand⟩
          ⟨n.put (h, g₁.setUp a j (u.setVc i (u.vc i).pop)), p ::ₘ hand⟩ :=
        .carry (pop_carries n hand hup hi hb)
      have hvalue : UpstreamPort.tickVc (offered now a j) (u, (h, g)) i =
          let r := (g₁.inst a).mod.handleUpstreamRequest (Fabric.inert a now g₁) p u.id (h, g₁)
          if r.1 then (u.setVc i (u.vc i).pop, (r.2.2.1, r.2.2.2.setMod a r.2.1))
          else (u, (r.2.2.1, r.2.2.2.setMod a r.2.1)) := by
        rw [UpstreamPort.tickVc, hb, hg₁]
        rfl
      rcases Module.handleUpstreamRequest_cases (Fabric.inert a now g₁) (g₁.inst a).mod p u.id
        (h, g₁) with hR | ⟨hanswers, delay, hR⟩ | ⟨x, hx, hfull, hR⟩
      · -- refused
        rw [hR] at hvalue
        have hself : g₁.setMod a (g₁.inst a).mod = g₁ := Fabric.setMod_self _ _ _ rfl
        refine ⟨u, h.delete p, g₁, ?_, rfl, hup, hiss, ?_⟩
        · rw [hvalue]
          simp only [Bool.false_eq_true, if_false, hself]
        · exact .head hnote (.single (.carry (.heap (.delete p))))
      · -- answered
        rw [hR] at hvalue
        obtain ⟨r, hr⟩ : ∃ r : Heap × Fabric,
            r = Module.respond (Fabric.inert a now g₁) p u.id delay (h, g₁) := ⟨_, rfl⟩
        have hself : r.2.setMod a (g₁.inst a).mod = r.2 := by
          rw [hr]
          exact Fabric.setMod_self _ _ _ rfl
        have hnext : r.1.nextPacket = h.nextPacket + 1 := by
          rw [hr]
          simp [Module.respond, Heap.newResp]
        have hresp := respond_steps (n.put (h, g₁.setUp a j (u.setVc i (u.vc i).pop))) hand
          (a := a) (by rw [← Fabric.mod_setUp g₁ a a j] at hanswers; exact hanswers)
          hp u.id delay (c := Fabric.inert a now g₁) rfl
        refine ⟨u.setVc i (u.vc i).pop, r.1, r.2, ?_, u.setVc_length i _, hr ▸ hup,
          fun v q hq => ?_, .head hnote (.head hpop (hr ▸ hresp))⟩
        · rw [hvalue, ← hr]
          simp only [if_true, hself]
        · have hlt : q < h.nextPacket := hiss v q (mem_pop hi hq)
          exact Nat.lt_of_lt_of_eq (Nat.lt_succ_of_lt hlt) hnext.symm
      · -- kept
        rw [hR] at hvalue
        have hmod : ((g₁.setUp a j (u.setVc i (u.vc i).pop)).inst a).mod = .cache x := by
          rw [Fabric.mod_setUp]
          exact hx
        have hkeep := keep_steps (n.put (h, g₁.setUp a j (u.setVc i (u.vc i).pop))) hand (p := p)
          hmod hfull
        have hcomm : (n.put (h, g₁.setUp a j (u.setVc i (u.vc i).pop))).fabric.setMod a
            (.cache { x with reqBuffer := x.reqBuffer ++ [p] }) = _ :=
          Fabric.setMod_setUp_comm g₁ a a j _ (u.setVc i (u.vc i).pop)
        rw [hcomm] at hkeep
        refine ⟨u.setVc i (u.vc i).pop, h,
          (g₁.setMod a (.cache { x with reqBuffer := x.reqBuffer ++ [p] })).schedule a
            .tryForward 1,
          ?_, u.setVc_length i _, ?_, fun v q hq => hiss v q (mem_pop hi hq),
          .head hnote (.head hpop hkeep)⟩
        · rw [hvalue]
          rfl
        · show ((g₁.setMod a _).inst a).up[j]? = some u₀
          rw [Fabric.up_setMod]
          exact hup

/-- The loop of `UpstreamPort::tick`. -/
theorem tickUpLoop_steps {j : Nat} {u₀ : UpstreamPort} (is : List Nat) {u : UpstreamPort} {h : Heap}
    {g : Fabric} (hg : (g.inst a).up[j]? = some u₀) (his : ∀ i ∈ is, i < u.inputVcs.length)
    (hiss : Issued h u.channels) :
    ∃ u' h' g', is.foldl (UpstreamPort.tickVc (offered now a j)) (u, (h, g)) = (u', (h', g')) ∧
      Works ⟨n.put (h, g.setUp a j u), hand⟩ ⟨n.put (h', g'.setUp a j u'), hand⟩ := by
  induction is generalizing u h g with
  | nil => exact ⟨u, h, g, rfl, .refl⟩
  | cons i is ih =>
      obtain ⟨u₁, h₁, g₁, hstep, hlen, hg₁, hiss₁, hm⟩ :=
        tickVc_steps n hand now hg (his i List.mem_cons_self) hiss
      have his₁ : ∀ i ∈ is, i < u₁.inputVcs.length := fun i hi => by
        rw [hlen]
        exact his i (List.mem_cons_of_mem _ hi)
      obtain ⟨u', h', g', hloop, hm'⟩ := ih hg₁ his₁ hiss₁
      exact ⟨u', h', g', by rw [List.foldl_cons, hstep]; exact hloop, hm.trans hm'⟩

/-- `tick` of an upstream port. -/
theorem tickUpAt_steps (j : Nat)
    (hiss : ∀ u, (n.fabric.inst a).up[j]? = some u → Issued n.heap u.channels) :
    Works ⟨n, hand⟩ ⟨n.put (Fabric.tickUpAt now a j n.world), hand⟩ := by
  unfold Fabric.tickUpAt
  split
  · exact .refl
  · next u hu =>
      have hu : (n.fabric.inst a).up[j]? = some u := hu
      obtain ⟨u', h', g', hloop, hm⟩ := tickUpLoop_steps n hand now
        (List.range u.inputVcs.length) hu (fun i hi => List.mem_range.mp hi) (hiss u hu)
      have htick : u.tick (offered now a j) n.world = (u', (h', g')) := hloop
      have hself : n.put (n.heap, n.fabric.setUp a j u) = n := by
        rw [Fabric.setUp_self _ _ _ _ hu]
        rfl
      rw [hself] at hm
      show Works ⟨n, hand⟩ ⟨n.put ((u.tick (offered now a j) n.world).2.1,
        (u.tick (offered now a j) n.world).2.2.setUp a j (u.tick (offered now a j) n.world).1), hand⟩
      rw [htick]
      exact hm

end Network

/-! ## 4. A `LambdaEvent` -/

/-- **What a response comes to**: a cache answers its own requester, a CPU strikes the address off,
    and every module but a cache deletes it and does no more. -/
theorem Module.handleDownstreamResponse_cases {ρ : Type} (c : Context ρ) (m : Module) (p : PacketId)
    (srcId : Nat) (w : Heap × ρ) {r : PacketId} (horig : (w.1.packet p).originalReq = some r) :
    (∃ x, m = .cache x ∧ m.handleDownstreamResponse c p srcId w =
      (true, m, (((w.1.newResp c.now r (w.1.packet p).vcId).2.delete p).delete r,
        c.schedule (.respond (srcId % c.upstream) w.1.nextPacket) 1 w.2))) ∨
    (∃ x, m = .cpu x ∧ m.handleDownstreamResponse c p srcId w =
      (true, .cpu (x.erase (w.1.address r)), (w.1.delete p, w.2))) ∨
    (∃ ok, m.handleDownstreamResponse c p srcId w = (ok, m, (w.1.delete p, w.2))) := by
  cases m with
  | cache x =>
      refine Or.inl ⟨x, rfl, ?_⟩
      rw [Module.handleDownstreamResponse, CacheSim.handleDownstreamResponse, horig]
      rfl
  | cpu x =>
      rw [Module.handleDownstreamResponse, CPUSim.handleDownstreamResponse, horig]
      split
      · exact Or.inr (Or.inl ⟨x, rfl, rfl⟩)
      · exact Or.inr (Or.inr ⟨false, rfl⟩)
  | memory => exact Or.inr (Or.inr ⟨false, rfl⟩)
  | crossbar m => exact Or.inr (Or.inr ⟨false, rfl⟩)
  | arbiter m => exact Or.inr (Or.inr ⟨false, rfl⟩)
  | router => exact Or.inr (Or.inr ⟨false, rfl⟩)
  | trafficGen m => exact Or.inr (Or.inr ⟨false, rfl⟩)

namespace Network

variable (n : Network) (hand : Multiset PacketId) (now : UInt64) {a : Nat}

/-- What a response leaves alone: the modules that answer, and the upstream ports. -/
structure Undisturbed (f f' : Fabric) : Prop where
  mod : ∀ c, (f.inst c).mod.Responds → (f'.inst c).mod = (f.inst c).mod
  up : ∀ c, (f'.inst c).up = (f.inst c).up

/-- The handler of a response, which is in hand with its request. -/
theorem ownerResponse_steps {b : Nat} {p r : PacketId} (hp : p < n.heap.nextPacket)
    (horig : (n.heap.packet p).originalReq = some r) (id : Nat) (label : String) :
    Works ⟨n, r ::ₘ hand⟩ ⟨n.put (Fabric.ownerResponse b now p id label n.world).2, hand⟩ ∧
      Undisturbed n.fabric (Fabric.ownerResponse b now p id label n.world).2.2 ∧
      ∀ c, ((Fabric.ownerResponse b now p id label n.world).2.2.inst c).down =
        (n.fabric.inst c).down := by
  have hfinish : Work ⟨n, r ::ₘ hand⟩ ⟨n, hand⟩ := .finish ⟨p, hp, horig⟩
  unfold Fabric.ownerResponse
  rcases Module.handleDownstreamResponse_cases (Fabric.inert b now n.fabric)
    (n.fabric.inst b).mod p id n.world horig with ⟨x, hx, hR⟩ | ⟨x, hx, hR⟩ | ⟨ok, hR⟩
  · -- a cache
    simp only [world] at hR ⊢
    rw [hR]
    have hm : (n.fabric.inst b).mod.Responds := by rw [hx]; trivial
    have hanswer : Work ⟨n, r ::ₘ hand⟩ _ :=
      .answer (id % (n.fabric.inst b).up.length) now 1 hm hp
    have hself : (Fabric.schedule b (.respond (id % (n.fabric.inst b).up.length)
        n.heap.nextPacket) 1 n.fabric).setMod b (n.fabric.inst b).mod =
        Fabric.schedule b (.respond (id % (n.fabric.inst b).up.length) n.heap.nextPacket) 1
          n.fabric := Fabric.setMod_self _ _ _ rfl
    have hall : Works ⟨n, r ::ₘ hand⟩ ⟨n.put
        (((n.heap.newResp now r (n.heap.packet p).vcId).2.delete p).delete r,
          Fabric.schedule b (.respond (id % (n.fabric.inst b).up.length) n.heap.nextPacket) 1
            n.fabric), hand⟩ :=
      ((ReflTransGen.single hanswer).tail (.carry (.heap (.delete p)))).tail
        (.carry (.heap (.delete r)))
    have hmod : ∀ c, ((Fabric.setMod (Fabric.schedule b (.respond
        (id % (n.fabric.inst b).up.length) n.heap.nextPacket) 1 n.fabric) b
        (n.fabric.inst b).mod).inst c).mod = (n.fabric.inst c).mod := fun c => by
      rw [hself]
      rfl
    rw [← hself] at hall
    exact ⟨hall, ⟨fun c _ => hmod c, fun c => Fabric.up_setMod _ _ _ _⟩,
      fun c => Fabric.down_setMod _ _ _ _⟩
  · -- a CPU
    simp only [world] at hR ⊢
    rw [hR]
    refine ⟨?_, ⟨fun c hc => ?_, fun c => Fabric.up_setMod _ _ _ _⟩,
      fun c => Fabric.down_setMod _ _ _ _⟩
    · exact (ReflTransGen.head hfinish (.single (.carry (.heap (.delete p))))).tail
        (Work.untrack (n := { n with heap := n.heap.delete p }) hx (n.heap.address r))
    · rw [Fabric.mod_setMod, if_neg]
      rintro ⟨rfl, -⟩
      rw [hx] at hc
      exact hc
  · simp only [world] at hR ⊢
    rw [hR]
    have hself : n.fabric.setMod b (n.fabric.inst b).mod = n.fabric := Fabric.setMod_self _ _ _ rfl
    have hall : Works ⟨n, r ::ₘ hand⟩ ⟨n.put (n.heap.delete p, n.fabric), hand⟩ :=
      .head hfinish (.single (.carry (.heap (.delete p))))
    rw [← hself] at hall
    exact ⟨hall, ⟨fun c _ => congrArg (fun f : Fabric => (f.inst c).mod) hself,
      fun c => Fabric.up_setMod _ _ _ _⟩, fun c => Fabric.down_setMod _ _ _ _⟩

/-- `recv` of a downstream port. -/
theorem recvRespAt_steps {p r : PacketId} (hp : p < n.heap.nextPacket)
    (horig : (n.heap.packet p).originalReq = some r) (b i : Nat) :
    Works ⟨n, r ::ₘ hand⟩ ⟨n.put (Fabric.recvRespAt now b i p n.world).2, hand⟩ ∧
      Undisturbed n.fabric (Fabric.recvRespAt now b i p n.world).2.2 := by
  unfold Fabric.recvRespAt
  split
  · exact ⟨.single (.finish ⟨p, hp, horig⟩), ⟨fun _ _ => rfl, fun _ => rfl⟩⟩
  · next d hd =>
      have horig' : ((n.heap.setDstCycle p now).packet p).originalReq = some r :=
        (n.heap.setDstCycle_field p p now Packet.originalReq fun _ _ => rfl).trans horig
      have harrive : Work ⟨n, r ::ₘ hand⟩
          ⟨{ n with heap := n.heap.setDstCycle p now }, r ::ₘ hand⟩ :=
        .carry (.heap (.arrive p now))
      obtain ⟨hsteps, hkept, hdown⟩ := ownerResponse_steps
        { n with heap := n.heap.setDstCycle p now } hand now (b := b) hp horig' d.id d.label
      have hd' : ((Fabric.ownerResponse b now p d.id d.label
          (n.heap.setDstCycle p now, n.fabric)).2.2.inst b).down[i]? = some d := by
        have hsame := hdown b
        simp only [world] at hsame
        rw [hsame]
        exact hd
      have hrow : Queues (Fabric.ownerResponse b now p d.id d.label
          (n.heap.setDstCycle p now, n.fabric)).2.1 d.channels (DownstreamPort.channels { d with
          toMasterPort := (d.toMasterPort.recv (Fabric.ownerResponse b now) now d.id d.label p
            n.world).2.1 }) hand hand := .of_eq rfl
      have hlast := Carry.down (n := n.put (Fabric.ownerResponse b now p d.id d.label
        (n.heap.setDstCycle p now, n.fabric)).2) hd' hrow
      refine ⟨(ReflTransGen.head harrive hsteps).tail (.carry hlast), fun c hc => ?_, fun c => ?_⟩
      · exact (Fabric.mod_setDown _ _ _ _ _).trans (hkept.mod c hc)
      · exact (Fabric.up_setDown _ _ _ _ _).trans (hkept.up c)

/-- `sendResp` of an upstream port: the request of the response is no longer in hand. -/
theorem sendRespAt_steps {p r : PacketId} (hp : p < n.heap.nextPacket)
    (horig : (n.heap.packet p).originalReq = some r) (j : Nat) :
    Works ⟨n, r ::ₘ hand⟩ ⟨n.put (Fabric.sendRespAt now a j p n.world).2, hand⟩ ∧
      ∀ c, (n.fabric.inst c).mod.Responds →
        ((Fabric.sendRespAt now a j p n.world).2.2.inst c).mod = (n.fabric.inst c).mod := by
  have hfinish : Work ⟨n, r ::ₘ hand⟩ ⟨n, hand⟩ := .finish ⟨p, hp, horig⟩
  unfold Fabric.sendRespAt
  split
  · exact ⟨.single hfinish, fun _ _ => rfl⟩
  · next u hu =>
      have hu : (n.fabric.inst a).up[j]? = some u := hu
      cases hpair : n.fabric.upPair a j with
      | none =>
          have hpeer : n.world.2.upPeer now a j = none := by
            simp only [Fabric.upPeer, world, hpair, Option.map_none]
          rw [hpeer]
          exact ⟨(ReflTransGen.single hfinish).tail (.carry (Carry.up hu (.of_eq rfl))),
            fun c _ => Fabric.mod_setUp _ _ _ _ _⟩
      | some x =>
          have hpeer : n.world.2.upPeer now a j = some (Fabric.recvRespAt now x.1 x.2) := by
            simp only [Fabric.upPeer, world, hpair, Option.map_some]
          rw [hpeer]
          obtain ⟨hsteps, hkept⟩ := recvRespAt_steps n hand now hp horig x.1 x.2
          have hu' : ((Fabric.recvRespAt now x.1 x.2 p n.world).2.2.inst a).up[j]? = some u := by
            rw [hkept.up a]
            exact hu
          exact ⟨hsteps.tail (.carry (Carry.up (n := n.put _) hu' (.of_eq rfl))),
            fun c hc => (Fabric.mod_setUp _ _ _ _ _).trans (hkept.mod c hc)⟩

/-- **The body of a `LambdaEvent`**, with the request it answers in hand. -/
theorem runLambda_steps (e : Deferred)
    (hresp : ∀ j p, e = .respond j p → p < n.heap.nextPacket ∧
      (n.heap.packet p).originalReq.isSome ∧ (n.fabric.inst a).mod.Responds) :
    Works ⟨n, owed n.heap {(a, e)} + hand⟩
      ⟨n.put (Fabric.runLambda now a e n.world), hand⟩ := by
  cases e with
  | respond j p =>
      obtain ⟨hp, hsome, hm⟩ := hresp j p rfl
      obtain ⟨r, hr⟩ := Option.isSome_iff_exists.mp hsome
      have howed : owed n.heap {(a, Deferred.respond j p)} = {r} := by
        exact Multiset.filterMap_cons_some (fun e : Nat × Deferred => e.2.request n.heap)
          (a, Deferred.respond j p) 0 hr
      obtain ⟨hsteps, hmod⟩ := sendRespAt_steps n hand now (a := a) hp hr j
      rw [howed, Multiset.singleton_add]
      exact steps_after hsteps (hmod a hm)
  | tryForward =>
      have howed : owed n.heap {(a, Deferred.tryForward)} = 0 := rfl
      rw [howed, zero_add]
      cases hm : (n.fabric.inst a).mod with
      | cache x =>
          have hrun : n.put (Fabric.runLambda now a .tryForward n.world) = n.after a
              (.cache (x.tryForward (Fabric.context a now n.fabric) n.world).2.1,
                (x.tryForward (Fabric.context a now n.fabric) n.world).2.2) := by
            simp only [Fabric.runLambda, world, hm]
            rfl
          rw [hrun]
          exact (tryForward_turns hm).works
      | _ =>
          -- only a cache has a `tryForward`
          simp only [Fabric.runLambda, world, hm]
          exact steps_after .refl hm

/-! ## 5. The whole event -/

/-- What the code relies on. -/
structure Ready (n : Network) : Prop where
  unqueued : ∀ a, (n.fabric.inst a).mod.Unqueued
  input : ∀ (a j : Nat) (u : UpstreamPort), (n.fabric.inst a).up[j]? = some u →
    Issued n.heap u.channels
  output : ∀ (a i : Nat) (d : DownstreamPort), (n.fabric.inst a).down[i]? = some d →
    Sorted n.heap d.channels
  response : ∀ a j p, (a, Deferred.respond j p) ∈ n.pending → p < n.heap.nextPacket ∧
    (n.heap.packet p).originalReq.isSome ∧ (n.fabric.inst a).mod.Responds

theorem resetAllStats_work (a : Nat) :
    Work ⟨n, hand⟩ ⟨{ n with fabric := n.fabric.resetAllStats a }, hand⟩ := by
  refine .note (Fabric.map_setInst n.fabric a Instance.contents ?_) rfl ⟨rfl, rfl⟩
  simp only [Instance.contents, List.map_map]
  rfl

/-- **EVERY EVENT IS A CHAIN OF SMALL STEPS.** -/
theorem step_smallSteps {n : Network} (hn : n.Ready) (act : Action) :
    SmallSteps ⟨n, 0⟩ ⟨n.step act, 0⟩ := by
  cases act with
  | tick now a =>
      exact (tickModule_turns n 0 now (hn.unqueued a)).works.smallSteps.tail .settle
  | tickUp now a j => exact (tickUpAt_steps n 0 now j (hn.input a j)).smallSteps.tail .settle
  | tickDown now a i => exact (tickDownAt_steps n 0 now a i (hn.output a i)).smallSteps.tail .settle
  | fire now a e =>
      by_cases he : (a, e) ∈ n.pending
      · have hrun := runLambda_steps { n with pending := n.pending.erase (a, e) } 0 now
          (a := a) e (fun j p hj => hn.response a j p (hj ▸ he))
        rw [step, if_pos he]
        exact (ReflTransGen.head (.fire he) hrun.smallSteps).tail .settle
      · rw [step, if_neg he]
  | resetStats a => exact .single (.work (resetAllStats_work n 0 a))

end Network

end Gem5Sc
