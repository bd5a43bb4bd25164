/-
  File:      Gem5Sc/Network/Custody.lean
  Subject:   WHO HAS THE REQUEST: no request is in two places, none that a CPU waits for is lost,
             and no CPU gets two responses to one request.

  The requests of a network are a multiset (`Network.requests`); that it has no duplicates and what
  leaves it are theorems about every order of events:

  * `requests_nodup` -- every request is at one place at most;
  * `outstanding_kept` -- a request that a CPU counts as outstanding is at exactly one place, or a
    response to it has been made;
  * `Spent` -- an issued request that is at no place; it never comes back (`Spent.step`);
  * `delivered_once` -- so in a run at most one event hands a response to it to a CPU.
-/
import Gem5Sc.Network.Traffic

namespace Gem5Sc

/-! ## 1. One place at a time -/

theorem RequestStep.nodup {c c' : Config} (hs : RequestStep c c') (ht : c.Typed)
    (hn : c.requests.Nodup) : c'.requests.Nodup := by
  cases hs with
  | same h => rwa [h]
  | made h hnew =>
      rw [h, Multiset.nodup_cons]
      exact ⟨fun hmem => Nat.lt_irrefl _ (ht.request _ hmem).lt, hn⟩
  | done r h hr =>
      rw [h, Multiset.nodup_cons] at hn
      exact hn.2

/-- A request that a CPU waits for is at some place, or has been answered. -/
def Config.Kept (c : Config) : Prop :=
  ∀ (a : Nat) (m : CPUSim), (c.net.fabric.inst a).mod = .cpu m → ∀ e ∈ m.inflightReqs,
    e.2 ∈ c.requests ∨ c.net.heap.Answered e.2

theorem RequestStep.kept {c c' : Config} {r : PacketId} (hs : RequestStep c c')
    (he : c.net.heap.Keeps c'.net.heap) (hr : r ∈ c.requests ∨ c.net.heap.Answered r) :
    r ∈ c'.requests ∨ c'.net.heap.Answered r := by
  rcases hr with hr | hr
  · cases hs with
    | same h => exact Or.inl (h ▸ hr)
    | made h _ => exact Or.inl (h ▸ Multiset.mem_cons_of_mem hr)
    | done r' h ha =>
        rw [h] at hr
        rcases Multiset.mem_cons.mp hr with rfl | hr
        · exact Or.inr (ha.mono he)
        · exact Or.inl hr
  · exact Or.inr (hr.mono he)

/-- A CPU after a write to a module. -/
theorem Fabric.cpu_setMod {f : Fabric} {a b : Nat} {x : Module} {m : CPUSim}
    (hm : ((f.setMod b x).inst a).mod = .cpu m) :
    (f.inst a).mod = .cpu m ∨ (b = a ∧ x = .cpu m) := by
  rw [mod_setMod] at hm
  split at hm
  · next h => exact Or.inr ⟨h.1.symm, hm⟩
  · exact Or.inl hm

/-- What a turn leaves in the table of a CPU was there, or is in the network. -/
theorem Turn.inflight {c c' : Config} (ht : Turn c c') {a : Nat} {m' : CPUSim}
    (hm' : (c'.net.fabric.inst a).mod = .cpu m') {e : UInt64 × PacketId}
    (he : e ∈ m'.inflightReqs) :
    (∃ m : CPUSim, (c.net.fabric.inst a).mod = .cpu m ∧ e ∈ m.inflightReqs) ∨
      e.2 ∈ c.requests := by
  cases ht with
  | carry hc => exact Or.inl ⟨m', ((Carries.carried (.single hc)).mod a).symm.trans hm', he⟩
  | note hf hcalls hpairs => exact Or.inl ⟨m', (Fabric.contents_mod hf a).symm.trans hm', he⟩
  | @forward n hand b x p rest hm hb =>
      rcases Fabric.cpu_setMod hm' with h | ⟨-, h⟩
      · exact Or.inl ⟨m', h, he⟩
      · cases h
  | @generator n hand b x x' hm =>
      rcases Fabric.cpu_setMod hm' with h | ⟨-, h⟩
      · exact Or.inl ⟨m', h, he⟩
      · cases h
  | @track n hand b x p hm hlt hp haddr =>
      rcases Fabric.cpu_setMod hm' with h | ⟨rfl, h⟩
      · exact Or.inl ⟨m', h, he⟩
      · obtain rfl := Module.cpu.inj h
        rcases List.mem_cons.mp he with rfl | he
        · exact Or.inr hp
        · exact Or.inl ⟨x, hm, (List.mem_filter.mp he).1⟩
  | _ => exact Or.inl ⟨m', hm', he⟩

theorem Work.inflight {c c' : Config} (hw : Work c c') {a : Nat} {m' : CPUSim}
    (hm' : (c'.net.fabric.inst a).mod = .cpu m') {e : UInt64 × PacketId}
    (he : e ∈ m'.inflightReqs) :
    (∃ m : CPUSim, (c.net.fabric.inst a).mod = .cpu m ∧ e ∈ m.inflightReqs) ∨
      e.2 ∈ c.requests := by
  cases hw with
  | turn ht => exact ht.inflight hm' he
  | @keep n hand b x p hm hroom =>
      rcases Fabric.cpu_setMod hm' with h | ⟨-, h⟩
      · exact Or.inl ⟨m', h, he⟩
      · cases h
  | @untrack n hand b x hm addr =>
      rcases Fabric.cpu_setMod hm' with h | ⟨rfl, h⟩
      · exact Or.inl ⟨m', h, he⟩
      · obtain rfl := Module.cpu.inj h
        exact Or.inl ⟨x, hm, (List.mem_filter.mp he).1⟩
  | _ => exact Or.inl ⟨m', hm', he⟩

theorem SmallStep.inflight {c c' : Config} (hm : SmallStep c c') {a : Nat} {m' : CPUSim}
    (hm' : (c'.net.fabric.inst a).mod = .cpu m') {e : UInt64 × PacketId}
    (he : e ∈ m'.inflightReqs) :
    (∃ m : CPUSim, (c.net.fabric.inst a).mod = .cpu m ∧ e ∈ m.inflightReqs) ∨
      e.2 ∈ c.requests := by
  cases hm with
  | work hw => exact hw.inflight hm' he
  | _ => exact Or.inl ⟨m', hm', he⟩

/-- What the custody of requests rests on. -/
structure Config.Custody (c : Config) : Prop where
  typed : c.Typed
  nodup : c.requests.Nodup
  kept : c.Kept

theorem SmallStep.custody {c c' : Config} (hm : SmallStep c c') (hc : c.Custody) : c'.Custody := by
  have hs := hm.requests hc.typed.pending
  refine ⟨hm.typed hc.typed, hs.nodup hc.typed hc.nodup, fun a m' hm' e he => ?_⟩
  rcases hm.inflight hm' he with ⟨m, hm₀, he₀⟩ | hreq
  · exact hs.kept hm.keeps (hc.kept a m hm₀ e he₀)
  · exact hs.kept hm.keeps (Or.inl hreq)

theorem SmallSteps.custody {c c' : Config} (hm : SmallSteps c c') (hc : c.Custody) :
    c'.Custody := by
  induction hm with
  | refl => exact hc
  | tail _ h ih => exact h.custody ih

namespace Network

/-- Between two events. -/
def Custody (n : Network) : Prop := (Config.mk n 0).Custody

theorem bare_requests (n : Network) : (Config.mk n 0).requests = n.requests := zero_add _

theorem Custody.typed {n : Network} (hc : n.Custody) : n.Typed := Config.Custody.typed hc

theorem Custody.step {n : Network} (hc : n.Custody) (act : Action) : (n.step act).Custody :=
  (step_smallSteps hc.typed.ready act).custody hc

theorem custody_start {f : Fabric} (hf : f.Fresh) : (start f).Custody where
  typed := typed_start hf
  nodup := by
    rw [bare_requests, start_requests hf]
    exact Multiset.nodup_zero
  kept a m hm e he := by
    have hnone := (hf.inst a).mod
    rw [show (f.inst a).mod = .cpu m from hm] at hnone
    rw [show m.inflightReqs = [] from hnone] at he
    exact absurd he List.not_mem_nil

theorem custody_run {f : Fabric} (hf : f.Fresh) (acts : List Action) :
    (Library.run step (start f) acts).Custody :=
  Library.run_invariant (custody_start hf) (fun _ act hc => hc.step act) acts

/-- **ONE PLACE AT A TIME.** In every system of new modules and after every sequence of events in
    any order, no request is held twice: not in two channels, not in a channel and a miss buffer,
    and not in one of these while a response to it waits to be sent. -/
theorem requests_nodup (f : Fabric) (hf : f.Fresh) (acts : List Action) :
    (Library.run step (start f) acts).requests.Nodup := by
  have hn := (custody_run hf acts).nodup
  rwa [bare_requests] at hn

theorem requests_nodup_chain :
    (Library.run step (start .chain) [.tick 1 0, .tick 2 0, .tickUp 3 1 0]).requests.Nodup :=
  requests_nodup .chain Fabric.chain_fresh _

/-- **NO OUTSTANDING REQUEST IS LOST.** A request in the table of a CPU is at exactly one place of
    the network, or a response to it has been made. -/
theorem outstanding_kept (f : Fabric) (hf : f.Fresh) (acts : List Action) (a : Nat) (m : CPUSim)
    (hm : ((Library.run step (start f) acts).fabric.inst a).mod = .cpu m)
    (e : UInt64 × PacketId) (he : e ∈ m.inflightReqs) :
    (Library.run step (start f) acts).requests.count e.2 = 1 ∨
      (Library.run step (start f) acts).heap.Answered e.2 := by
  have hc := custody_run hf acts
  have hkept := hc.kept a m hm e he
  rw [bare_requests] at hkept
  rcases hkept with hmem | hans
  · have hn := hc.nodup
    rw [bare_requests] at hn
    exact Or.inl (Multiset.count_eq_one_of_mem hn hmem)
  · exact Or.inr hans

/-- The first request of a CPU, to address `0x1000`. -/
theorem outstanding_kept_chain :
    (Library.run step (start .chain) [.tick 1 0]).requests.count 0 = 1 ∨
      (Library.run step (start .chain) [.tick 1 0]).heap.Answered 0 :=
  outstanding_kept .chain Fabric.chain_fresh [.tick 1 0] 0
    { inflightReqs := [(0x1000, 0)], nextAddr := 0x1004 } rfl (0x1000, 0) (List.mem_singleton_self _)

/-! ## 2. At most one response -/

/-- The request whose response this event hands to a CPU. -/
def delivers (n : Network) : Action → Option PacketId
  | .fire _ a (.respond j p) =>
      if (a, Deferred.respond j p) ∈ n.pending then
        match (n.fabric.inst a).up[j]?, n.fabric.upPair a j with
        | some _, some (b, i) =>
            match (n.fabric.inst b).down[i]?, (n.fabric.inst b).mod with
            | some _, .cpu _ => (n.heap.packet p).originalReq
            | _, _ => none
        | _, _ => none
      else none
  | _ => none

/-- What has to be the case for that. -/
theorem delivers_cases {n : Network} {act : Action} {r : PacketId} (h : n.delivers act = some r) :
    ∃ now a j p u b i d m, act = .fire now a (.respond j p) ∧
      (a, Deferred.respond j p) ∈ n.pending ∧ (n.fabric.inst a).up[j]? = some u ∧
      n.fabric.upPair a j = some (b, i) ∧ (n.fabric.inst b).down[i]? = some d ∧
      (n.fabric.inst b).mod = .cpu m ∧ (n.heap.packet p).originalReq = some r := by
  unfold delivers at h
  split at h
  · next now a j p =>
      split at h
      · next hmem =>
          split at h
          · next u b i hu hpair =>
              split at h
              · next d m hd hm =>
                  exact ⟨now, a, j, p, u, b, i, d, m, rfl, hmem, hu, hpair, hd, hm, h⟩
              · cases h
          · cases h
      · cases h
  · cases h

/-- **A response handed to a CPU**: the packet is deleted, the address struck off, and no request
    changes its place. -/
theorem runLambda_cpu {h : Heap} {f : Fabric} (now : UInt64) {a j b i : Nat} {p r : PacketId}
    {u : UpstreamPort} {d : DownstreamPort} {m : CPUSim} (hu : (f.inst a).up[j]? = some u)
    (hpair : f.upPair a j = some (b, i)) (hd : (f.inst b).down[i]? = some d)
    (hm : (f.inst b).mod = .cpu m) (hresp : (h.packet p).isResponse = true)
    (horig : (h.packet p).originalReq = some r) (hne : a ≠ b) :
    (Fabric.runLambda now a (.respond j p) (h, f)).1 = (h.setDstCycle p now).delete p ∧
      (Fabric.runLambda now a (.respond j p) (h, f)).2.calls = f.calls ∧
      (Fabric.runLambda now a (.respond j p) (h, f)).2.held = f.held := by
  have hresp' : ((h.setDstCycle p now).packet p).isResponse = true :=
    (h.setDstCycle_field p p now Packet.isResponse fun _ _ => rfl).trans hresp
  have horig' : ((h.setDstCycle p now).packet p).originalReq = some r :=
    (h.setDstCycle_field p p now Packet.originalReq fun _ _ => rfl).trans horig
  obtain ⟨x, hx⟩ : ∃ x, x = m.erase ((h.setDstCycle p now).address r) := ⟨_, rfl⟩
  have howner : Fabric.ownerResponse b now p d.id d.label (h.setDstCycle p now, f) =
      (true, ((h.setDstCycle p now).delete p, f.setMod b (.cpu x))) := by
    simp only [Fabric.ownerResponse, hm, Module.handleDownstreamResponse,
      CPUSim.handleDownstreamResponse, if_pos hresp', horig', hx]
  obtain ⟨d', hd', hrecv⟩ : ∃ d' : DownstreamPort, d'.channels = d.channels ∧
      (Fabric.recvRespAt now b i p (h, f)).2 =
        ((h.setDstCycle p now).delete p, (f.setMod b (.cpu x)).setDown b i d') := by
    refine ⟨{ d with toMasterPort := (d.toMasterPort.recv (Fabric.ownerResponse b now) now d.id
      d.label p (h, f)).2.1 }, rfl, ?_⟩
    simp only [Fabric.recvRespAt, hd, MasterPort.recv, howner]
  obtain ⟨u', hu', hsend⟩ : ∃ u' : UpstreamPort, u'.channels = u.channels ∧
      (Fabric.sendRespAt now a j p (h, f)).2 = ((h.setDstCycle p now).delete p,
        ((f.setMod b (.cpu x)).setDown b i d').setUp a j u') := by
    refine ⟨{ u with toSlavePort := (u.toSlavePort.sendResp (f.upPeer now a j) p (h, f)).2.1 },
      rfl, ?_⟩
    simp only [Fabric.sendRespAt, hu, SlavePort.sendResp, SimplePort.send, Fabric.upPeer, hpair,
      Option.map_some, hrecv]
  have hmod : ((((f.setMod b (.cpu x)).setDown b i d').setUp a j u').inst a).mod =
      (f.inst a).mod := by
    rw [Fabric.mod_setUp, Fabric.mod_setDown, Fabric.mod_setMod, if_neg fun hab => hne hab.1]
  have hrun : Fabric.runLambda now a (.respond j p) (h, f) = ((h.setDstCycle p now).delete p,
      ((f.setMod b (.cpu x)).setDown b i d').setUp a j u') := by
    show ((Fabric.sendRespAt now a j p (h, f)).2.1,
      (Fabric.sendRespAt now a j p (h, f)).2.2.setMod a (f.inst a).mod) = _
    rw [hsend, Fabric.setMod_self _ _ _ hmod]
  rw [hrun]
  refine ⟨rfl, rfl, ?_⟩
  have hb := Fabric.lt_of_down f b i hd
  have h1 : 0 + (f.setMod b (.cpu x)).held = 0 + f.held :=
    Fabric.held_setMod hb (by rw [hm]; rfl)
  have h2 : 0 + ((f.setMod b (.cpu x)).setDown b i d').held = 0 + (f.setMod b (.cpu x)).held :=
    Fabric.held_setDown (by rw [Fabric.down_setMod]; exact hd) (by rw [hd'])
  have h3 : 0 + (((f.setMod b (.cpu x)).setDown b i d').setUp a j u').held =
      0 + ((f.setMod b (.cpu x)).setDown b i d').held :=
    Fabric.held_setUp (by rw [Fabric.up_setDown, Fabric.up_setMod]; exact hu) (by rw [hu'])
  simp only [zero_add] at h1 h2 h3
  exact h3.trans (h2.trans h1)

/-- A request that has been issued and is at no place. -/
def Spent (r : PacketId) (n : Network) : Prop := r < n.heap.nextPacket ∧ r ∉ n.requests

/-- **What is spent stays spent**, in every step. -/
theorem SmallSteps.spent {c c' : Config} {r : PacketId} (hm : SmallSteps c c') (ht : c.Typed)
    (hlt : r < c.net.heap.nextPacket) (hr : r ∉ c.requests) :
    r < c'.net.heap.nextPacket ∧ r ∉ c'.requests := by
  induction hm with
  | refl => exact ⟨hlt, hr⟩
  | @tail c₁ c₂ hm h ih =>
      have ht₁ := SmallSteps.typed hm ht
      refine ⟨Nat.lt_of_lt_of_le ih.1 h.keeps.nextPacket, fun hmem => ?_⟩
      cases h.requests ht₁.pending with
      | same hs => exact ih.2 (hs ▸ hmem)
      | made hs _ =>
          rw [hs] at hmem
          rcases Multiset.mem_cons.mp hmem with rfl | hmem
          · exact Nat.lt_irrefl _ ih.1
          · exact ih.2 hmem
      | done r' hs _ => exact ih.2 (hs ▸ Multiset.mem_cons_of_mem hmem)

theorem Spent.step {n : Network} {r : PacketId} (hs : Spent r n) (ht : n.Typed) (act : Action) :
    Spent r (n.step act) := by
  obtain ⟨hlt, hr⟩ := hs
  rw [← bare_requests] at hr
  have hafter := SmallSteps.spent (step_smallSteps ht.ready act) ht hlt hr
  rw [bare_requests] at hafter
  exact hafter

/-- The requests, an event taken out of the pending ones. -/
theorem owed_erase {n : Network} {a j : Nat} {p r : PacketId}
    (he : (a, Deferred.respond j p) ∈ n.pending) (horig : (n.heap.packet p).originalReq = some r) :
    owed n.heap n.scheduled = r ::ₘ owed n.heap (n.pending.erase (a, .respond j p) +
      (Fabric.lambdas n.fabric.calls : Multiset (Nat × Deferred))) := by
  have hall : n.scheduled = (a, Deferred.respond j p) ::ₘ (n.pending.erase (a, .respond j p) +
      (Fabric.lambdas n.fabric.calls : Multiset (Nat × Deferred))) := by
    rw [← Multiset.cons_add, Multiset.cons_erase he]
    rfl
  rw [hall]
  exact Multiset.filterMap_cons_some (fun e : Nat × Deferred => e.2.request n.heap)
    (a, Deferred.respond j p) _ horig

/-- **A delivered response spends its request.** -/
theorem delivers_spent {n : Network} {act : Action} {r : PacketId} (hc : n.Custody)
    (h : n.delivers act = some r) : r ∈ n.requests ∧ Spent r (n.step act) := by
  obtain ⟨now, a, j, p, u, b, i, d, m, rfl, hmem, hu, hpair, hd, hm, horig⟩ := delivers_cases h
  obtain ⟨hresp, hanswers⟩ := hc.typed.response a j p (Multiset.mem_add.mpr (Or.inl hmem))
  have hne : a ≠ b := by
    rintro rfl
    have hcpu : (n.fabric.inst a).mod.Responds := hanswers
    rw [hm] at hcpu
    exact hcpu
  obtain ⟨hheap, hcalls, hheld⟩ := runLambda_cpu now hu hpair hd hm hresp.type horig hne
  have hafter : n.requests = r ::ₘ (n.step (.fire now a (.respond j p))).requests := by
    have hsame : owed ((n.heap.setDstCycle p now).delete p) (n.pending.erase (a, .respond j p) +
        (Fabric.lambdas n.fabric.calls : Multiset (Nat × Deferred))) = owed n.heap
        (n.pending.erase (a, .respond j p) + (Fabric.lambdas n.fabric.calls : Multiset _)) :=
      owed_congr fun e _ => (Heap.Touch.delete p).request e.2 |>.trans
        ((Heap.Touch.arrive p now).request e.2)
    rw [step, if_pos hmem, settle_requests]
    show n.fabric.held + owed n.heap n.scheduled = r ::ₘ
      ((Fabric.runLambda now a (.respond j p) (n.heap, n.fabric)).2.held +
        owed (Fabric.runLambda now a (.respond j p) (n.heap, n.fabric)).1
          (n.pending.erase (a, .respond j p) +
            (Fabric.lambdas (Fabric.runLambda now a (.respond j p) (n.heap, n.fabric)).2.calls :
              Multiset (Nat × Deferred))))
    rw [hheap, hcalls, hheld, hsame, owed_erase hmem horig, Multiset.add_cons]
  have hn := hc.nodup
  rw [bare_requests, hafter, Multiset.nodup_cons] at hn
  obtain ⟨r', hlt, horig', -⟩ := (hc.typed.heap p hresp.lt).original hresp.type
  have hr : r' = r := Option.some.inj (horig'.symm.trans horig)
  refine ⟨by rw [hafter]; exact Multiset.mem_cons_self _ _, ?_, hn.1⟩
  have hnext := (step_smallSteps hc.typed.ready (.fire now a (.respond j p))).keeps.nextPacket
  exact Nat.lt_of_lt_of_le (hr ▸ Nat.lt_trans hlt hresp.lt) hnext

/-- A delivery spends its request, and nothing brings it back. -/
theorem count_delivers_le_one {n : Network} (hc : n.Custody) (acts : List Action) (r : PacketId) :
    Library.count step (fun n act => n.delivers act == some r) n acts ≤ 1 := by
  refine Library.count_le_one (I := Custody) (D := Spent r) (fun n act hc => hc.step act)
    (fun n act hc hs => hs.step hc.typed act) (fun n act hc h => ?_) hc acts
  obtain ⟨hmem, hspent⟩ := delivers_spent hc (eq_of_beq h)
  exact ⟨fun hs => hs.2 hmem, hspent⟩

/-- **AT MOST ONE RESPONSE.** In every run of every system of new modules, events in any order, at
    most one event hands a response to a given request to a CPU. -/
theorem delivered_once (f : Fabric) (hf : f.Fresh) (acts : List Action) (r : PacketId) :
    Library.count step (fun n act => n.delivers act == some r) (start f) acts ≤ 1 :=
  count_delivers_le_one (custody_start hf) acts r

/-- The second `LambdaEvent` with the same response is none. -/
theorem delivered_once_chain : Library.count step (fun n act => n.delivers act == some 0)
    (start .chain) [.tick 1 0, .tickUp 2 1 0, .fire 3 1 (.respond 0 1), .fire 3 1 (.respond 0 1)] ≤ 1 :=
  delivered_once .chain Fabric.chain_fresh _ 0

example : Library.count step (fun n act => n.delivers act == some 0) (start .chain)
    [.tick 1 0, .tickUp 2 1 0, .fire 3 1 (.respond 0 1)] = 1 := by decide

end Network

end Gem5Sc
