/-
  File:      Gem5Sc/Network/Traffic.lean
  Subject:   WHAT IS UNDER WAY: every packet in the network is what its place says it is.

  The handlers read through `pkt->payload` and `pkt->original_req` without a check. `Typed` says why
  that is safe in every order of events: what stands in a channel or a miss buffer is a request with
  a payload; what waits to be sent is a response, and its request has been issued before it and has
  the same payload. Only channel 0 of any port ever holds anything.

  The invariant is proved once for each kind of small step (`SmallStep.typed`). Along the way
  `SmallStep.requests` says what a small step does to the requests as a whole: it makes one, lets go
  of one that has been answered, or neither.
-/
import Gem5Sc.Network.Events

namespace Gem5Sc

/-! ## 1. Packets -/

namespace Heap

/-- An issued request. -/
structure Requested (h : Heap) (r : PacketId) : Prop where
  lt : r < h.nextPacket
  type : (h.packet r).isRequest = true

/-- A packet is a request, or a response to an issued request with the payload of the request. -/
structure Sane (h : Heap) (p : PacketId) : Prop where
  payload : ∃ q < h.nextPayload, (h.packet p).payload = some q
  vcId : (h.packet p).vcId = 0
  kind : ((h.packet p).isRequest = true ∧ (h.packet p).originalReq = none) ∨
    ((h.packet p).isResponse = true ∧ ∃ r < p, (h.packet p).originalReq = some r ∧
      (h.packet r).isRequest = true ∧ (h.packet r).payload = (h.packet p).payload)

/-- An issued response. -/
structure Responded (h : Heap) (p : PacketId) : Prop where
  lt : p < h.nextPacket
  type : (h.packet p).isResponse = true

variable {h h' : Heap} {p r : PacketId}

theorem Requested.mono (hr : h.Requested r) (he : Keeps h h') : h'.Requested r where
  lt := Nat.lt_of_lt_of_le hr.lt he.nextPacket
  type := (he.field Packet.isRequest (fun _ _ => rfl) hr.lt).trans hr.type

theorem Responded.mono (hr : h.Responded p) (he : Keeps h h') : h'.Responded p where
  lt := Nat.lt_of_lt_of_le hr.lt he.nextPacket
  type := (he.field Packet.isResponse (fun _ _ => rfl) hr.lt).trans hr.type

theorem Sane.mono (hs : h.Sane p) (hp : p < h.nextPacket) (he : Keeps h h') : h'.Sane p where
  payload := by
    obtain ⟨q, hq, hpay⟩ := hs.payload
    exact ⟨q, Nat.lt_of_lt_of_le hq he.nextPayload,
      (he.field Packet.payload (fun _ _ => rfl) hp).trans hpay⟩
  vcId := (he.field Packet.vcId (fun _ _ => rfl) hp).trans hs.vcId
  kind := by
    have horig := he.field Packet.originalReq (fun _ _ => rfl) hp
    rcases hs.kind with ⟨hreq, hnone⟩ | ⟨hresp, r, hr, hsome, hreq, hpay⟩
    · exact Or.inl ⟨(he.field Packet.isRequest (fun _ _ => rfl) hp).trans hreq, horig.trans hnone⟩
    · have hr' : r < h.nextPacket := Nat.lt_trans hr hp
      refine Or.inr ⟨(he.field Packet.isResponse (fun _ _ => rfl) hp).trans hresp, r, hr,
        horig.trans hsome, (he.field Packet.isRequest (fun _ _ => rfl) hr').trans hreq, ?_⟩
      rw [he.field Packet.payload (fun _ _ => rfl) hr', he.field Packet.payload (fun _ _ => rfl) hp,
        hpay]

/-- A response knows its request. -/
theorem Sane.original (hs : h.Sane p) (hp : (h.packet p).isResponse = true) :
    ∃ r < p, (h.packet p).originalReq = some r ∧ (h.packet r).isRequest = true ∧
      (h.packet r).payload = (h.packet p).payload := by
  rcases hs.kind with ⟨hreq, -⟩ | ⟨-, hr⟩
  · cases ht : (h.packet p).type <;> simp [Packet.isRequest, Packet.isResponse, ht] at hreq hp
  · exact hr

/-- Every issued packet is sane. -/
def Typed (h : Heap) : Prop := ∀ p < h.nextPacket, h.Sane p

theorem Typed.touch (ht : h.Typed) (hh : Touch h h') : h'.Typed := fun p hp => by
  rw [hh.nextPacket] at hp
  exact (ht p hp).mono hp hh.keeps

/-- A new packet next to sane ones. -/
theorem Typed.new (ht : h.Typed) {x : Packet} (hx : (h.new x).2.Sane h.nextPacket) :
    (h.new x).2.Typed := fun p hp => by
  rcases Nat.lt_succ_iff_lt_or_eq.mp hp with hp | rfl
  · exact (ht p hp).mono hp (new_keeps h x)
  · exact hx

theorem Typed.newRequest (ht : h.Typed) {t : Payload} {pkt : Packet}
    (hreq : pkt.isRequest = true) (horig : pkt.originalReq = none) (hvc : pkt.vcId = 0) :
    (h.newRequest t pkt).2.Typed := by
  refine Typed.new (ht.touch (.blank t)) ?_
  have hself : ((h.newRequest t pkt).2.packet h.nextPacket) =
      { pkt with payload := some h.nextPayload } := newRequest_packet_self h t pkt
  exact ⟨⟨h.nextPayload, Nat.lt_succ_self _, congrArg Packet.payload hself⟩,
    (congrArg Packet.vcId hself).trans hvc,
    Or.inl ⟨(congrArg Packet.isRequest hself).trans hreq,
      (congrArg Packet.originalReq hself).trans horig⟩⟩

theorem Typed.newResp (ht : h.Typed) {now : UInt64} (hr : h.Requested r) {vcId : Int}
    (hvc : vcId = 0) : (h.newResp now r vcId).2.Typed := by
  refine ht.new ?_
  have hself := new_packet_self h { payload := (h.packet r).payload, srcCycle := now, type := .resp,
                                    originalReq := some r, vcId := vcId }
  have hreq := new_packet_of_lt h { payload := (h.packet r).payload, srcCycle := now, type := .resp,
                                    originalReq := some r, vcId := vcId } hr.lt
  obtain ⟨q, hq, hpay⟩ := (ht r hr.lt).payload
  exact ⟨⟨q, hq, (congrArg Packet.payload hself).trans hpay⟩, (congrArg Packet.vcId hself).trans hvc,
    Or.inr ⟨congrArg Packet.isResponse hself, r, hr.lt, congrArg Packet.originalReq hself,
      (congrArg Packet.isRequest hreq).trans hr.type,
      (congrArg Packet.payload hreq).trans (congrArg Packet.payload hself).symm⟩⟩

end Heap

/-! ## 2. The contents of the system -/

theorem mem_sum_of_mem {α : Type} {g : α → Multiset PacketId} {l : List α} {x : α} {p : PacketId}
    (hx : x ∈ l) (hp : p ∈ g x) : p ∈ (l.map g).sum := by
  induction l with
  | nil => exact absurd hx List.not_mem_nil
  | cons y l ih =>
      rw [List.map_cons, List.sum_cons, Multiset.mem_add]
      rcases List.mem_cons.mp hx with rfl | hx
      · exact Or.inl hp
      · exact Or.inr (ih hx)

/-- The rows of channels of an instance. -/
def Instance.rows (x : Instance) : List (List Channel) :=
  x.up.map UpstreamPort.channels ++ x.down.map DownstreamPort.channels

/-- The channels of a new instance are empty. -/
theorem Instance.Fresh.rows_empty {x : Instance} (hx : x.Fresh) {cs : List Channel}
    (hcs : cs ∈ x.rows) : ∀ c ∈ cs, c.buffer = [] := by
  rcases List.mem_append.mp hcs with hcs | hcs
  · obtain ⟨u, hu, rfl⟩ := List.mem_map.mp hcs
    exact hx.input u hu
  · obtain ⟨d, hd, rfl⟩ := List.mem_map.mp hcs
    exact hx.output d hd

namespace Fabric

variable {f f' : Fabric} {a : Nat} {p : PacketId}

/-- What an instance holds, the system holds. -/
theorem mem_held (hp : p ∈ (f.inst a).held) : p ∈ f.held := by
  by_cases ha : a < f.insts.length
  · refine mem_sum_of_mem (x := f.inst a) ?_ hp
    simp [inst, ha]
  · rw [inst_of_length_le f a (Nat.le_of_not_lt ha)] at hp
    exact absurd hp (Multiset.notMem_zero p)

/-- What stands in a channel, the system holds. -/
theorem mem_held_row {cs : List Channel} (hcs : cs ∈ (f.inst a).rows) {v : Nat}
    (hp : p ∈ (cs.getD v default).buffer) : p ∈ f.held := by
  have hrow : p ∈ Channel.held cs := by
    have hv : v < cs.length := by
      by_contra hv
      rw [List.getD_eq_getElem?_getD, List.getElem?_eq_none (Nat.le_of_not_lt hv)] at hp
      exact absurd hp List.not_mem_nil
    refine mem_sum_of_mem (x := cs.getD v default) ?_ hp
    simp [hv]
  refine mem_held (a := a) ?_
  rcases List.mem_append.mp hcs with hcs | hcs
  · obtain ⟨u, hu, rfl⟩ := List.mem_map.mp hcs
    exact Multiset.mem_add.mpr (Or.inl (Multiset.mem_add.mpr (Or.inr (mem_sum_of_mem hu hrow))))
  · obtain ⟨d, hd, rfl⟩ := List.mem_map.mp hcs
    exact Multiset.mem_add.mpr (Or.inr (mem_sum_of_mem hd hrow))

/-- Systems with the same contents have them at the same places. -/
theorem contents_inst (hf : f'.insts.map Instance.contents = f.insts.map Instance.contents)
    (a : Nat) : (f'.inst a).contents = (f.inst a).contents := by
  have hget := congrArg (fun l : List (Module × List (List Channel) × List (List Channel)) =>
    l.getD a (default : Instance).contents) hf
  simpa only [inst, List.getD_eq_getElem?_getD, List.getElem?_map, Option.getD_map] using hget

theorem contents_mod (hf : f'.insts.map Instance.contents = f.insts.map Instance.contents)
    (a : Nat) :
    (f'.inst a).mod = (f.inst a).mod :=
  congrArg Prod.fst (contents_inst hf a)

theorem contents_rows (hf : f'.insts.map Instance.contents = f.insts.map Instance.contents)
    (a : Nat) : (f'.inst a).rows = (f.inst a).rows :=
  congrArg (fun x : Module × List (List Channel) × List (List Channel) => x.2.1 ++ x.2.2)
    (contents_inst hf a)

/-- And hold the same requests. -/
theorem contents_held (hf : f'.insts.map Instance.contents = f.insts.map Instance.contents) :
    f'.held = f.held := by
  have hx : Instance.held = (fun x : Module × List (List Channel) × List (List Channel) =>
      x.1.held + (x.2.1.map Channel.held).sum + (x.2.2.map Channel.held).sum) ∘
        Instance.contents := by
    funext x
    simp only [Instance.held, Instance.contents, Function.comp, List.map_map]
    rfl
  rw [held, held, hx, ← List.map_map, hf, List.map_map]

/-- A row of an instance after a write to an upstream port is an old one or that of the port. -/
theorem rows_setUp {j b : Nat} {u : UpstreamPort} {cs : List Channel}
    (hcs : cs ∈ ((f.setUp a j u).inst b).rows) :
    cs ∈ (f.inst b).rows ∨ (b = a ∧ cs = u.channels) := by
  rw [Instance.rows, down_setUp, up_setUp] at hcs
  rcases List.mem_append.mp hcs with hcs | hcs
  · split at hcs
    · next hb =>
        rw [List.map_set] at hcs
        rcases List.mem_or_eq_of_mem_set hcs with hcs | rfl
        · exact Or.inl (List.mem_append.mpr (Or.inl hcs))
        · exact Or.inr ⟨hb, rfl⟩
    · exact Or.inl (List.mem_append.mpr (Or.inl hcs))
  · exact Or.inl (List.mem_append.mpr (Or.inr hcs))

theorem rows_setDown {i b : Nat} {d : DownstreamPort} {cs : List Channel}
    (hcs : cs ∈ ((f.setDown a i d).inst b).rows) :
    cs ∈ (f.inst b).rows ∨ (b = a ∧ cs = d.channels) := by
  rw [Instance.rows, up_setDown, down_setDown] at hcs
  rcases List.mem_append.mp hcs with hcs | hcs
  · exact Or.inl (List.mem_append.mpr (Or.inl hcs))
  · split at hcs
    · next hb =>
        rw [List.map_set] at hcs
        rcases List.mem_or_eq_of_mem_set hcs with hcs | rfl
        · exact Or.inl (List.mem_append.mpr (Or.inr hcs))
        · exact Or.inr ⟨hb, rfl⟩
    · exact Or.inl (List.mem_append.mpr (Or.inr hcs))

theorem rows_of_up {j : Nat} {u : UpstreamPort} (hu : (f.inst a).up[j]? = some u) :
    u.channels ∈ (f.inst a).rows :=
  List.mem_append.mpr (Or.inl (List.mem_map_of_mem (List.mem_of_getElem? hu)))

theorem rows_of_down {i : Nat} {d : DownstreamPort} (hd : (f.inst a).down[i]? = some d) :
    d.channels ∈ (f.inst a).rows :=
  List.mem_append.mpr (Or.inr (List.mem_map_of_mem (List.mem_of_getElem? hd)))

theorem rows_setMod {m : Module} (b : Nat) : ((f.setMod a m).inst b).rows = (f.inst b).rows := by
  rw [Instance.rows, up_setMod, down_setMod]
  rfl

end Fabric

/-! ## 3. What a small step does to the requests -/

namespace Network

@[simp] theorem scheduled_mk (h : Heap) (f : Fabric) (s : Multiset (Nat × Deferred)) :
    scheduled ⟨h, f, s⟩ = s + (Fabric.lambdas f.calls : Multiset (Nat × Deferred)) := rfl

theorem lambdas_schedule (a : Nat) (e : Deferred) (delay : UInt64) (f : Fabric) :
    (Fabric.lambdas (f.schedule a e delay).calls : Multiset (Nat × Deferred)) =
      (Fabric.lambdas f.calls : Multiset (Nat × Deferred)) + {(a, e)} := by
  rw [Fabric.lambdas, Fabric.schedule, List.filterMap_append, ← Multiset.coe_add]
  rfl

theorem settle_scheduled (n : Network) : n.settle.scheduled = n.scheduled :=
  add_zero n.scheduled

theorem settle_requests (n : Network) : n.settle.requests = n.requests := by
  rw [requests, settle_scheduled]
  rfl

end Network

/-- Nothing issued is rewritten by a turn. -/
theorem Turn.keeps {c c' : Config} (ht : Turn c c') : c.net.heap.Keeps c'.net.heap := by
  cases ht with
  | carry hc => exact (Carries.carried (.single hc)).heap
  | issue t pkt b hreq horig hvc => exact Heap.newRequest_keeps _ t pkt
  | _ => exact .refl _

/-- Nor by any other code. -/
theorem Work.keeps {c c' : Config} (hw : Work c c') : c.net.heap.Keeps c'.net.heap := by
  cases hw with
  | turn ht => exact ht.keeps
  | answer j now delay hm hp => exact Heap.newResp_keeps _ now _ _
  | _ => exact .refl _

theorem SmallStep.keeps {c c' : Config} (hm : SmallStep c c') : c.net.heap.Keeps c'.net.heap := by
  cases hm with
  | work hw => exact hw.keeps
  | _ => exact .refl _

/-- The responses that wait to be sent have been issued. -/
def Config.Pending (c : Config) : Prop :=
  ∀ a j p, (a, Deferred.respond j p) ∈ c.net.scheduled → p < c.net.heap.nextPacket

/-- A heap with one more packet owes the same. -/
theorem owed_new {h : Heap} {s : Multiset (Nat × Deferred)} (x : Packet)
    (hs : ∀ a j p, (a, Deferred.respond j p) ∈ s → p < h.nextPacket) :
    owed (h.new x).2 s = owed h s := by
  refine owed_congr fun e he => ?_
  obtain ⟨a, e⟩ := e
  cases e with
  | respond j p =>
      show ((h.new x).2.packet p).originalReq = (h.packet p).originalReq
      rw [Heap.new_packet_of_lt h x (hs a j p he)]
  | tryForward => rfl

/-- **What a small step does to the requests**: nothing, or it makes the next one, or it lets go of
    one that has been answered. -/
inductive RequestStep (c c' : Config) : Prop where
  | same (h : c'.requests = c.requests)
  | made (h : c'.requests = c.net.heap.nextPacket ::ₘ c.requests)
      (hnew : c'.net.heap.Requested c.net.heap.nextPacket)
  | done (r : PacketId) (h : c.requests = r ::ₘ c'.requests) (hr : c.net.heap.Answered r)

/-- A write to a module that keeps what the hand gives. -/
theorem requests_setMod {n : Network} {hand hand' : Multiset PacketId} {a : Nat} {m : Module}
    (ha : a < n.fabric.insts.length)
    (hbal : hand' + m.held = hand + (n.fabric.inst a).mod.held) :
    (Config.mk { n with fabric := n.fabric.setMod a m } hand').requests =
      (Config.mk n hand).requests := by
  show hand' + ((n.fabric.setMod a m).held + owed _ _) = hand + (n.fabric.held + owed _ _)
  rw [← add_assoc, ← add_assoc, Fabric.held_setMod ha hbal]
  rfl

/-- A module other than a memory is in the list. -/
theorem lt_of_mod {f : Fabric} {a : Nat} {m : Module} (hm : (f.inst a).mod = m)
    (hne : m ≠ .memory) : a < f.insts.length := by
  by_contra ha
  rw [Fabric.inst_of_length_le f a (Nat.le_of_not_lt ha)] at hm
  exact hne hm.symm

/-- **A turn makes requests and lets go of none.** -/
theorem Turn.requests {c c' : Config} (ht : Turn c c') (hp : c.Pending) :
    c'.requests = c.requests ∨ (c'.requests = c.net.heap.nextPacket ::ₘ c.requests ∧
      c'.net.heap.Requested c.net.heap.nextPacket) := by
  cases ht with
  | carry hc => exact Or.inl hc.requests
  | note hf hcalls hpairs =>
      refine Or.inl ?_
      simp only [Config.requests, Network.requests, Network.scheduled, Fabric.contents_held hf,
        hcalls]
  | @issue n hand t pkt b hreq horig hvc =>
      have howed : owed (n.heap.newRequest t pkt).2 n.scheduled = owed n.heap n.scheduled :=
        (owed_new _ fun a j p he => hp a j p he).trans
          (owed_congr fun e _ => (Heap.Touch.blank t).request e.2)
      cases b with
      | true =>
          have hself : (n.heap.newRequest t pkt).2.packet n.heap.nextPacket = _ :=
            Heap.newRequest_packet_self n.heap t pkt
          refine Or.inr ⟨?_, Nat.lt_succ_self _, (congrArg Packet.isRequest hself).trans hreq⟩
          show _ + hand + (n.fabric.held + owed _ n.scheduled) = _
          rw [howed, if_pos rfl, add_assoc, Multiset.singleton_add]
          rfl
      | false =>
          refine Or.inl ?_
          show _ + hand + (n.fabric.held + owed _ n.scheduled) = _
          rw [howed, if_neg Bool.false_ne_true, zero_add]
          rfl
  | @forward n hand a m p rest hm hb =>
      refine Or.inl (requests_setMod (lt_of_mod hm (by simp)) ?_)
      rw [hm]
      show p ::ₘ hand + (rest : Multiset PacketId) = hand + (m.reqBuffer : Multiset PacketId)
      rw [hb, ← Multiset.cons_coe, Multiset.cons_add, Multiset.add_cons]
  | track hm hlt hp haddr =>
      exact Or.inl (requests_setMod (lt_of_mod hm (by simp)) (by rw [hm]; rfl))
  | generator hm =>
      exact Or.inl (requests_setMod (lt_of_mod hm (by simp)) (by rw [hm]; rfl))

theorem Work.requests {c c' : Config} (hw : Work c c') (hp : c.Pending) :
    RequestStep c c' := by
  cases hw with
  | turn ht =>
      rcases ht.requests hp with h | ⟨h, hnew⟩
      · exact .same h
      · exact .made h hnew
  | @arm n hand a delay =>
      refine .same ?_
      show hand + (n.fabric.held + owed _ (n.pending + _)) = _
      rw [Network.lambdas_schedule, ← add_assoc n.pending, owed_add]
      show hand + (n.fabric.held + (owed _ _ + 0)) = _
      rw [add_zero]
      rfl
  | @keep n hand a m p hm hroom =>
      refine .same (requests_setMod (lt_of_mod hm (by simp)) ?_)
      rw [hm]
      show hand + ((m.reqBuffer ++ [p] : List PacketId) : Multiset PacketId) = _
      rw [← Multiset.coe_add, Multiset.coe_singleton, ← add_assoc, add_comm, ← add_assoc,
        Multiset.singleton_add]
      rfl
  | untrack hm addr =>
      exact .same (requests_setMod (lt_of_mod hm (by simp)) (by rw [hm]; rfl))
  | @answer n hand req p a j now delay hm hlt =>
      refine .same ?_
      have hself := Heap.new_packet_self n.heap
        { payload := (n.heap.packet req).payload, srcCycle := now, type := .resp,
          originalReq := some req, vcId := (n.heap.packet p).vcId }
      have hnew : owed (n.heap.newResp now req (n.heap.packet p).vcId).2
          {(a, Deferred.respond j n.heap.nextPacket)} = {req} :=
        Multiset.filterMap_cons_some (fun e : Nat × Deferred => e.2.request _)
          (a, Deferred.respond j n.heap.nextPacket) 0 (congrArg Packet.originalReq hself)
      show hand + (n.fabric.held + owed _ (n.pending + _)) = _
      rw [Network.lambdas_schedule, ← add_assoc n.pending, owed_add, hnew]
      have hold : owed (n.heap.newResp now req (n.heap.packet p).vcId).2 n.scheduled =
          owed n.heap n.scheduled := owed_new _ hp
      show hand + (n.fabric.held + (owed _ n.scheduled + {req})) =
        req ::ₘ hand + (n.fabric.held + owed _ n.scheduled)
      rw [hold, ← Multiset.singleton_add]
      ac_rfl
  | @finish n hand r hr => exact .done r (Multiset.cons_add _ _ _) hr

theorem SmallStep.requests {c c' : Config} (hm : SmallStep c c') (hp : c.Pending) :
    RequestStep c c' := by
  cases hm with
  | work hw => exact hw.requests hp
  | @settle n hand =>
      refine .same ?_
      show hand + (n.fabric.held + owed _ n.settle.scheduled) = _
      rw [Network.settle_scheduled]
      rfl
  | @fire n hand a e he =>
      refine .same ?_
      have hsplit : owed n.heap n.scheduled = owed n.heap {(a, e)} +
          owed n.heap (n.pending.erase (a, e) + (Fabric.lambdas n.fabric.calls : Multiset _)) := by
        rw [← owed_add, ← add_assoc, Multiset.singleton_add, Multiset.cons_erase he]
        rfl
      show _ + hand + (n.fabric.held + owed _ _) = hand + (n.fabric.held + owed _ n.scheduled)
      rw [hsplit]
      show _ + hand + (n.fabric.held + owed _ (n.pending.erase (a, e) + _)) = _
      ac_rfl

/-! ## 4. The invariant -/

/-- **Every packet is what its place says it is.** -/
structure Config.Typed (c : Config) : Prop where
  heap : c.net.heap.Typed
  /-- What is in a channel, in a miss buffer or owed is an issued request. -/
  request : ∀ r ∈ c.requests, c.net.heap.Requested r
  /-- What waits to be sent is an issued response, and it waits at a cache or a memory. -/
  response : ∀ a j p, (a, Deferred.respond j p) ∈ c.net.scheduled →
    c.net.heap.Responded p ∧ (c.net.fabric.inst a).mod.Responds
  /-- Packets stand in the channel of their number. -/
  rows : ∀ a, ∀ cs ∈ (c.net.fabric.inst a).rows, Network.Sorted c.net.heap cs
  /-- A CPU knows its requests by their addresses. -/
  inflight : ∀ (a : Nat) (m : CPUSim), (c.net.fabric.inst a).mod = .cpu m →
    ∀ e ∈ m.inflightReqs, c.net.heap.Requested e.2 ∧ c.net.heap.address e.2 = e.1
  unqueued : ∀ a, (c.net.fabric.inst a).mod.Unqueued

namespace Config.Typed

variable {c c' : Config}

theorem pending (ht : c.Typed) : c.Pending := fun a j p he => (ht.response a j p he).1.lt

theorem request_step (ht : c.Typed) (hs : RequestStep c c') (he : c.net.heap.Keeps c'.net.heap) :
    ∀ r ∈ c'.requests, c'.net.heap.Requested r := by
  intro r hr
  cases hs with
  | same h =>
      rw [h] at hr
      exact (ht.request r hr).mono he
  | made h hnew =>
      rw [h] at hr
      rcases Multiset.mem_cons.mp hr with rfl | hr
      · exact hnew
      · exact (ht.request r hr).mono he
  | done r' h _ => exact (ht.request r (by rw [h]; exact Multiset.mem_cons_of_mem hr)).mono he

/-- A packet in a channel has been issued. -/
theorem issued (ht : c.Typed) {a : Nat} {cs : List Channel}
    (hcs : cs ∈ (c.net.fabric.inst a).rows) : Network.Issued c.net.heap cs := by
  intro v p hp
  have hheld : p ∈ c.requests :=
    Multiset.mem_add.mpr (Or.inr (Multiset.mem_add.mpr (Or.inl (Fabric.mem_held_row hcs hp))))
  exact (ht.request p hheld).lt

theorem sorted_mono (ht : c.Typed) {h : Heap} (he : c.net.heap.Keeps h) {a : Nat}
    {cs : List Channel} (hcs : cs ∈ (c.net.fabric.inst a).rows) : Network.Sorted h cs :=
  fun v p hp => (he.field Packet.vcId (fun _ _ => rfl) (ht.issued hcs v p hp)).trans
    (ht.rows a cs hcs v p hp)

theorem inflight_mono (ht : c.Typed) {h : Heap} (he : c.net.heap.Keeps h) {a : Nat} {m : CPUSim}
    (hm : (c.net.fabric.inst a).mod = .cpu m) {e : UInt64 × PacketId} (hmem : e ∈ m.inflightReqs) :
    h.Requested e.2 ∧ h.address e.2 = e.1 := by
  obtain ⟨hreq, haddr⟩ := ht.inflight a m hm e hmem
  obtain ⟨q, hq, hpay⟩ := (ht.heap e.2 hreq.lt).payload
  exact ⟨hreq.mono he, (he.address hreq.lt hpay hq).trans haddr⟩

/-- The modules are as they were. -/
theorem frame (ht : c.Typed) (hs : RequestStep c c') (he : c.net.heap.Keeps c'.net.heap)
    (hheap : c'.net.heap.Typed)
    (hmod : ∀ a, (c'.net.fabric.inst a).mod = (c.net.fabric.inst a).mod)
    (hrows : ∀ a, ∀ cs ∈ (c'.net.fabric.inst a).rows, Network.Sorted c'.net.heap cs)
    (hresp : ∀ a j p, (a, Deferred.respond j p) ∈ c'.net.scheduled →
      c'.net.heap.Responded p ∧ (c.net.fabric.inst a).mod.Responds) : c'.Typed where
  heap := hheap
  request := ht.request_step hs he
  response a j p hp := by
    rw [hmod a]
    exact hresp a j p hp
  rows := hrows
  inflight a m hm e hmem := ht.inflight_mono he ((hmod a).symm.trans hm) hmem
  unqueued a := by
    rw [hmod a]
    exact ht.unqueued a

/-- What waited to be sent before. -/
theorem response_mono (ht : c.Typed) {h : Heap} (he : c.net.heap.Keeps h) {a j : Nat}
    {p : PacketId} (hp : (a, Deferred.respond j p) ∈ c.net.scheduled) :
    h.Responded p ∧ (c.net.fabric.inst a).mod.Responds :=
  ⟨(ht.response a j p hp).1.mono he, (ht.response a j p hp).2⟩

/-- A module has been written to. -/
theorem write {n : Network} {hand hand' : Multiset PacketId} {a : Nat} {m : Module}
    (ht : (Config.mk n hand).Typed) (hs : RequestStep ⟨n, hand⟩
      ⟨{ n with fabric := n.fabric.setMod a m }, hand'⟩)
    (hresp : (n.fabric.inst a).mod.Responds → m.Responds) (hunq : m.Unqueued)
    (hcpu : ∀ x, m = .cpu x → ∀ e ∈ x.inflightReqs,
      n.heap.Requested e.2 ∧ n.heap.address e.2 = e.1) :
    (Config.mk { n with fabric := n.fabric.setMod a m } hand').Typed where
  heap := ht.heap
  request := ht.request_step hs (.refl _)
  response b j p hp := by
    obtain ⟨hp, hb⟩ := ht.response b j p hp
    refine ⟨hp, ?_⟩
    show ((n.fabric.setMod a m).inst b).mod.Responds
    rw [Fabric.mod_setMod]
    split
    · next h => exact hresp (h.1 ▸ hb)
    · exact hb
  rows b cs hcs := ht.rows b cs (by rwa [← Fabric.rows_setMod (f := n.fabric) (a := a) (m := m)])
  inflight b x hx e hmem := by
    have hx : ((n.fabric.setMod a m).inst b).mod = .cpu x := hx
    rw [Fabric.mod_setMod] at hx
    split at hx
    · exact hcpu x hx e hmem
    · exact ht.inflight b x hx e hmem
  unqueued b := by
    show ((n.fabric.setMod a m).inst b).mod.Unqueued
    rw [Fabric.mod_setMod]
    split
    · exact hunq
    · exact ht.unqueued b

end Config.Typed

theorem Carry.typed {c c' : Config} (hc : Carry c c') (ht : c.Typed) : c'.Typed := by
  have hs := (Work.carry hc).requests ht.pending
  have he := (Carries.carried (.single hc)).heap
  cases hc with
  | heap hh =>
      exact ht.frame hs he (ht.heap.touch hh) (fun _ => rfl) (fun _ _ => ht.sorted_mono he)
        (fun _ _ _ => ht.response_mono he)
  | up hu hw =>
      refine ht.frame hs he ht.heap (fun b => Fabric.mod_setUp _ _ _ _ _) (fun b cs hcs => ?_)
        (fun _ _ _ => ht.response_mono he)
      rcases Fabric.rows_setUp hcs with hcs | ⟨rfl, rfl⟩
      · exact ht.rows b cs hcs
      · intro v p hp
        rcases hw.channel v p hp with hp | hp
        · exact ht.rows _ _ (Fabric.rows_of_up hu) v p hp
        · exact hp
  | down hd hw =>
      refine ht.frame hs he ht.heap (fun b => Fabric.mod_setDown _ _ _ _ _) (fun b cs hcs => ?_)
        (fun _ _ _ => ht.response_mono he)
      rcases Fabric.rows_setDown hcs with hcs | ⟨rfl, rfl⟩
      · exact ht.rows b cs hcs
      · intro v p hp
        rcases hw.channel v p hp with hp | hp
        · exact ht.rows _ _ (Fabric.rows_of_down hd) v p hp
        · exact hp

/-- A `LambdaEvent` that waits after a `schedule` call. -/
theorem mem_scheduled_schedule {n : Network} {h : Heap} {a b : Nat} {e e' : Deferred}
    {delay : UInt64} (he : (b, e') ∈ Network.scheduled
      { n with heap := h, fabric := n.fabric.schedule a e delay }) :
    (b, e') ∈ n.scheduled ∨ (b = a ∧ e' = e) := by
  rw [Network.scheduled_mk, Network.lambdas_schedule, ← add_assoc] at he
  rcases Multiset.mem_add.mp he with he | he
  · exact Or.inl he
  · exact Or.inr (Prod.mk.inj (Multiset.mem_singleton.mp he))

theorem Turn.typed {c c' : Config} (hu : Turn c c') (ht : c.Typed) : c'.Typed := by
  have hs := (Work.turn hu).requests ht.pending
  have he := hu.keeps
  cases hu with
  | carry hc => exact hc.typed ht
  | @note n hand f hf hcalls hpairs =>
      refine ht.frame hs he ht.heap (Fabric.contents_mod hf) (fun b cs hcs => ?_)
        (fun b j p hp => ?_)
      · exact ht.rows b cs (by rw [← Fabric.contents_rows hf b]; exact hcs)
      · rw [Network.scheduled_mk, hcalls] at hp
        exact ht.response b j p hp
  | issue t pkt b hreq horig hvc =>
      exact ht.frame hs he (ht.heap.newRequest hreq horig hvc) (fun _ => rfl)
        (fun _ _ => ht.sorted_mono he) (fun _ _ _ => ht.response_mono he)
  | forward hm hb => exact ht.write hs (fun _ => trivial) trivial (fun _ hx => by cases hx)
  | @track n hand a m p hm hlt hp haddr =>
      refine ht.write hs (fun h => by rw [hm] at h; exact h) trivial (fun x hx e hmem => ?_)
      obtain rfl := Module.cpu.inj hx
      rcases List.mem_cons.mp hmem with rfl | hmem
      · exact ⟨ht.request p hp, haddr⟩
      · exact ht.inflight a m hm e (List.mem_filter.mp hmem).1
  | generator hm =>
      exact ht.write hs (fun h => by rw [hm] at h; exact h) trivial (fun _ hx => by cases hx)

theorem Work.typed {c c' : Config} (hw : Work c c') (ht : c.Typed) : c'.Typed := by
  have hs := hw.requests ht.pending
  have he := hw.keeps
  cases hw with
  | turn hu => exact hu.typed ht
  | arm a delay =>
      refine ht.frame hs he ht.heap (fun _ => rfl) (fun _ _ => ht.sorted_mono he)
        fun b j p hp => ?_
      rcases mem_scheduled_schedule hp with hp | ⟨-, hp⟩
      · exact ht.response b j p hp
      · cases hp
  | keep hm hroom => exact ht.write hs (fun _ => trivial) trivial (fun _ hx => by cases hx)
  | @untrack n hand a m hm addr =>
      refine ht.write hs (fun h => by rw [hm] at h; exact h) trivial (fun x hx e hmem => ?_)
      obtain rfl := Module.cpu.inj hx
      exact ht.inflight a m hm e (List.mem_filter.mp hmem).1
  | @answer n hand req p a j now delay hm hlt =>
      have hreq := ht.request req (Multiset.mem_add.mpr (Or.inl (Multiset.mem_cons_self _ _)))
      refine ht.frame hs he (ht.heap.newResp hreq (ht.heap p hlt).vcId) (fun _ => rfl)
        (fun _ _ => ht.sorted_mono he) (fun b i q hq => ?_)
      rcases mem_scheduled_schedule hq with hq | ⟨rfl, hnew⟩
      · exact ht.response_mono he hq
      · obtain ⟨rfl, rfl⟩ := Deferred.respond.inj hnew
        exact ⟨⟨Nat.lt_succ_self _, congrArg Packet.isResponse (Heap.new_packet_self n.heap _)⟩, hm⟩
  | finish hr =>
      exact ht.frame hs he ht.heap (fun _ => rfl) (fun _ _ => ht.sorted_mono he)
        (fun _ _ _ => ht.response_mono he)

/-- **Every small step keeps it.** -/
theorem SmallStep.typed {c c' : Config} (hm : SmallStep c c') (ht : c.Typed) : c'.Typed := by
  have hs := hm.requests ht.pending
  have he := hm.keeps
  cases hm with
  | work hw => exact hw.typed ht
  | @settle n hand =>
      refine ht.frame hs he ht.heap (fun _ => rfl) (fun _ _ => ht.sorted_mono he)
        fun b j p hp => ?_
      rw [Network.settle_scheduled] at hp
      exact ht.response b j p hp
  | @fire n hand a e hmem =>
      refine ht.frame hs he ht.heap (fun _ => rfl) (fun _ _ => ht.sorted_mono he)
        fun b j p hp => ?_
      refine ht.response b j p ?_
      rcases Multiset.mem_add.mp hp with hp | hp
      · exact Multiset.mem_add.mpr (Or.inl (Multiset.mem_of_mem_erase hp))
      · exact Multiset.mem_add.mpr (Or.inr hp)

theorem SmallSteps.typed {c c' : Config} (hm : SmallSteps c c') (ht : c.Typed) : c'.Typed := by
  induction hm with
  | refl => exact ht
  | tail _ h ih => exact h.typed ih

theorem SmallSteps.keeps {c c' : Config} (hm : SmallSteps c c') : c.net.heap.Keeps c'.net.heap := by
  induction hm with
  | refl => exact .refl _
  | tail _ h ih => exact ih.trans h.keeps

/-! ## 5. Every run -/

namespace Network

/-- Between two events nothing is in hand. -/
def Typed (n : Network) : Prop := (Config.mk n 0).Typed

theorem Typed.ready {n : Network} (ht : n.Typed) : n.Ready where
  unqueued := ht.unqueued
  input _ _ _ hu := Config.Typed.issued ht (Fabric.rows_of_up hu)
  output a _ _ hd := ht.rows a _ (Fabric.rows_of_down hd)
  response a j p hp := by
    obtain ⟨hresp, hm⟩ := ht.response a j p (Multiset.mem_add.mpr (Or.inl hp))
    obtain ⟨r, -, horig, -⟩ := (ht.heap p hresp.lt).original hresp.type
    exact ⟨hresp.lt, by rw [horig]; rfl, hm⟩

theorem Typed.step {n : Network} (ht : n.Typed) (act : Action) : (n.step act).Typed :=
  (step_smallSteps ht.ready act).typed ht

theorem sum_eq_zero {α : Type} {g : α → Multiset PacketId} {l : List α} (h : ∀ x ∈ l, g x = 0) :
    (l.map g).sum = 0 :=
  List.sum_eq_zero (List.forall_mem_map.mpr h)

theorem held_of_empty {cs : List Channel} (hcs : ∀ c ∈ cs, c.buffer = []) : Channel.held cs = 0 :=
  sum_eq_zero fun c hc => by rw [hcs c hc]; rfl

theorem held_of_fresh {m : Module} (hm : m.Fresh) : m.held = 0 := by
  cases m with
  | cache x => exact congrArg _ (show x.reqBuffer = [] from hm)
  | crossbar x => exact congrArg (fun l : List (PacketId × Nat) => 
      ((l.map Prod.fst : List PacketId) : Multiset PacketId)) hm
  | arbiter x => exact congrArg (fun l : List (PacketId × Nat) => 
      ((l.map Prod.fst : List PacketId) : Multiset PacketId)) hm
  | _ => rfl

/-- A new system holds nothing. -/
theorem start_requests {f : Fabric} (hf : f.Fresh) : (start f).requests = 0 := by
  have hheld : f.held = 0 := by
    refine sum_eq_zero fun x hx => ?_
    obtain ⟨a, ha, rfl⟩ := List.getElem_of_mem hx
    have hinst : f.insts[a] = f.inst a := by simp [Fabric.inst, ha]
    rw [hinst, Instance.held, held_of_fresh (hf.inst a).mod,
      sum_eq_zero fun u hu => held_of_empty ((hf.inst a).input u hu),
      sum_eq_zero fun d hd => held_of_empty ((hf.inst a).output d hd)]
    rfl
  show f.held + owed _ (0 + (Fabric.lambdas f.calls : Multiset _)) = 0
  rw [hheld, hf.calls]
  rfl

theorem typed_start {f : Fabric} (hf : f.Fresh) : (start f).Typed where
  heap p hp := absurd hp (Nat.not_lt_zero p)
  request r hr := by
    rw [Config.requests, start_requests hf] at hr
    exact absurd hr (Multiset.notMem_zero r)
  response a j p hp := by
    have hnone : (start f).scheduled = 0 := by
      show 0 + (Fabric.lambdas f.calls : Multiset (Nat × Deferred)) = 0
      rw [hf.calls]
      rfl
    rw [hnone] at hp
    exact absurd hp (Multiset.notMem_zero _)
  rows a cs hcs v p hp := by
    have hempty := (hf.inst a).rows_empty hcs
    by_cases hv : v < cs.length
    · rw [List.getD_eq_getElem?_getD, List.getElem?_eq_getElem hv, Option.getD_some,
        hempty _ (List.getElem_mem hv)] at hp
      exact absurd hp List.not_mem_nil
    · rw [List.getD_eq_getElem?_getD, List.getElem?_eq_none (Nat.le_of_not_lt hv)] at hp
      exact absurd hp List.not_mem_nil
  inflight a m hm e he := by
    have hnone : m.inflightReqs = [] := by
      have hfresh := (hf.inst a).mod
      rw [show (f.inst a).mod = .cpu m from hm] at hfresh
      exact hfresh
    rw [hnone] at he
    exact absurd he List.not_mem_nil
  unqueued a := by
    have hfresh := (hf.inst a).mod
    show (f.inst a).mod.Unqueued
    cases hm : (f.inst a).mod with
    | crossbar m =>
        rw [hm] at hfresh
        exact hfresh
    | arbiter m =>
        rw [hm] at hfresh
        exact hfresh
    | _ => trivial

/-- **THE TRAFFIC IS TYPED.** In every system of new modules, with any ports, pairs and random
    numbers, and after every sequence of ticks, port ticks, `LambdaEvent`s and resets in any order
    and in any cycles: what is in a channel or a miss buffer is an issued request with a payload,
    standing in the channel of its number; what waits to be sent is a response, its request has
    been issued before it and has the same payload, and its module is a cache or a memory; a CPU
    knows each outstanding request by its address. -/
theorem traffic_typed (f : Fabric) (hf : f.Fresh) (acts : List Action) :
    (Library.run step (start f) acts).Typed :=
  Library.run_invariant (typed_start hf) (fun _ act ht => ht.step act) acts

/-- The CPU asks, the cache answers, the response arrives. -/
theorem traffic_typed_chain : (Library.run step (start .chain)
    [.tick 1 0, .tickUp 2 1 0, .fire 3 1 (.respond 0 1)]).Typed :=
  traffic_typed .chain Fabric.chain_fresh _

end Network

end Gem5Sc