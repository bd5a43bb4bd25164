/-
  File:      Gem5Sc/Modules/Retry.lean
  Subject:   WHO HAS A REQUEST THAT THE OWNER OF AN UPSTREAM PORT REFUSES: the runs of the port.

  The `tick` of the port offers the head of every channel to the owner, and keeps it at the head
  when the owner refuses. But an owner that refuses, a cache whose miss queue is full or a class
  with the default handler, has deleted the packet. The next `tick` offers it again.

  In one `tick` the miss queue fills as the channels are gone through, so whether channel `i` is
  taken depends on how many heads before it miss (`missesBefore`). The loop lemma goes through the
  channels until the first refusal (`loop_cases`), and a run keeps every refused request
  retryable exactly when there is none (`kept_iff_taken`).
-/
import Gem5Sc.Library.Runs
import Gem5Sc.Modules.Calls

namespace Gem5Sc

/-! ## 1. The packets in a port -/

namespace UpstreamPort

/-- The packets in the input channels. -/
def waiting (u : UpstreamPort) : List PacketId := u.inputVcs.flatMap InputVC.buffer

theorem count_waiting_setVc {u : UpstreamPort} {i : Nat} (hi : i < u.inputVcs.length) (x : InputVC)
    (p : PacketId) : (u.setVc i x).waiting.count p + (u.vc i).buffer.count p =
      u.waiting.count p + x.buffer.count p := by
  have hvc : u.vc i = u.inputVcs[i] := by
    simp [vc, hi]
  have hold : u.waiting = (u.inputVcs.take i).flatMap InputVC.buffer ++
      ((u.vc i).buffer ++ (u.inputVcs.drop (i + 1)).flatMap InputVC.buffer) := by
    rw [hvc, ← List.flatMap_cons, List.getElem_cons_drop, ← List.flatMap_append,
      List.take_append_drop]
    rfl
  have hnew : (u.setVc i x).waiting = (u.inputVcs.take i).flatMap InputVC.buffer ++
      (x.buffer ++ (u.inputVcs.drop (i + 1)).flatMap InputVC.buffer) := by
    show (u.inputVcs.set i x).flatMap InputVC.buffer = _
    rw [List.set_eq_take_append_cons_drop, if_pos hi, List.flatMap_append, List.flatMap_cons]
  rw [hold, hnew]
  simp only [List.count_append]
  omega

theorem mem_waiting {u : UpstreamPort} {i : Nat} {p : PacketId} (hp : p ∈ (u.vc i).buffer) :
    p ∈ u.waiting := by
  by_cases hi : i < u.inputVcs.length
  · have hvc : u.vc i = u.inputVcs[i] := by
      simp [vc, hi]
    rw [hvc] at hp
    exact List.mem_flatMap.mpr ⟨_, List.getElem_mem hi, hp⟩
  · rw [vc_of_length_le (Nat.le_of_not_lt hi)] at hp
    exact absurd hp List.not_mem_nil

theorem waiting_create (id : Nat) (inSizes priorities : List Nat) (label : String) :
    (create id inSizes priorities label).waiting = [] := by
  refine List.flatMap_eq_nil_iff.mpr fun x hx => ?_
  obtain ⟨i, hi, rfl⟩ := List.mem_mapIdx.mp hx
  rfl

end UpstreamPort

/-! ## 2. A port and its owner -/

/-- A request that the owner has refused: the heap and the owner's state after the call, and the
    owner's state before it. -/
structure RefusedRequest where
  packet : PacketId
  heap : Heap
  before : Module
  after : Module

/-- The owner of the port, with what is around it. -/
structure PortOwner where
  module : Module
  around : Around := {}
  refusals : List RefusedRequest := []

structure RetryRun where
  heap : Heap := {}
  port : UpstreamPort
  owner : PortOwner

namespace RetryRun

/-- `owner->handleUpstreamRequest(pkt, id, label)`, through the `SimObject` interface. -/
def handled (now : UInt64) (p : PacketId) (id : Nat) (h : Heap) (o : PortOwner) :
    Bool × Module × (Heap × Around) :=
  o.module.handleUpstreamRequest (Around.context now 1 0 { accept := true }) p id (h, o.around)

/-- The call, with a note of a refusal. -/
def offer (now : UInt64) : Handler PortOwner := fun p id _ w =>
  let r := handled now p id w.1 w.2
  (r.1, (r.2.2.1,
    { module := r.2.1
      around := r.2.2.2
      refusals :=
        if r.1 then w.2.refusals
        else w.2.refusals ++ [⟨p, r.2.2.1, w.2.module, r.2.1⟩] }))

/-- The surroundings of the owner's other functions; their sends are taken. -/
def outward (now : UInt64) (downstream : Nat) : Context Around :=
  { Around.context now 1 downstream { accept := true } with
    sendReq := fun _ p w => (true, Around.hand p w) }

inductive Action where
  /-- A packet arrives at the port. -/
  | recv (now : UInt64) (x : Packet)
  | tick (now : UInt64)
  /-- The owner forwards the head of its miss queue. -/
  | forward (now : UInt64) (downstream : Nat)
  /-- The `k`-th pending event of the owner runs. -/
  | fire (now : UInt64) (downstream : Nat) (k : Nat)
  | other (ops : List PeerOp)

variable (s : RetryRun)

/-- Put back what a function of the owner has returned. -/
def owned (r : Module × (Heap × Around)) : RetryRun :=
  { s with heap := r.2.1, owner := { s.owner with module := r.1, around := r.2.2 } }

def step : Action → RetryRun
  | .recv now x =>
      let y := s.heap.new x
      let r := s.port.recv now y.1 y.2
      { s with heap := r.2.2, port := r.2.1 }
  | .tick now =>
      let r := s.port.tick (offer now) (s.heap, s.owner)
      { heap := r.2.1, port := r.1, owner := r.2.2 }
  | .forward now downstream =>
      s.owned (s.owner.module.runDeferred (outward now downstream) .tryForward
        (s.heap, s.owner.around))
  | .fire now downstream k =>
      match s.owner.around.events[k]? with
      | none => s
      | some e => s.owned (s.owner.module.runDeferred (outward now downstream) e
          (s.heap, s.owner.around.pop k))
  | .other ops => s.owned (s.owner.module, Around.performAll ops (s.heap, s.owner.around))

/-- **Retryable.** No refusal has released the packet or changed the owner, and every head that the
    next `tick` offers is alive. -/
structure Kept : Prop where
  refusals : ∀ e ∈ s.owner.refusals, e.packet ∉ e.heap.released ∧ e.after = e.before
  heads : ∀ i p rest, (s.port.vc i).buffer = p :: rest → p ∉ s.heap.released

end RetryRun

/-- The owner takes a request when it has queued `k` more. -/
def Module.takes (m : Module) (k : Nat) : Prop :=
  match m with
  | .cache m => m.reqBuffer.length + k < CacheSim.maxBuffer
  | .memory => True
  | _ => False

/-- What a head adds to the miss queue when the owner is a cache. -/
def missOf (h : Heap) : List PacketId → Nat
  | [] => 0
  | p :: _ => if CacheSim.hit h p then 0 else 1

/-- The heads before channel `i` that are no hits. -/
def missesBefore (h : Heap) (u : UpstreamPort) : Nat → Nat
  | 0 => 0
  | i + 1 => missesBefore h u i + missOf h (u.vc i).buffer

namespace RetryRun

/-- Channel `i` is empty, or its head is taken when the channels before it have had their turn. -/
def Served (s : RetryRun) (i : Nat) : Prop :=
  (s.port.vc i).buffer ≠ [] → s.owner.module.takes (missesBefore s.heap s.port i)

/-- Every request a `tick` offers is taken. -/
def Taken (s : RetryRun) : Action → Prop
  | .tick _ => ∀ i < s.port.inputVcs.length, s.Served i
  | _ => True

end RetryRun

/-! ## 3. One offer -/

/-- Every packet that `h` has issued has the same address in `h'`. -/
structure Heap.SameAddress (h h' : Heap) : Prop where
  next : h.nextPacket ≤ h'.nextPacket
  address : ∀ p < h.nextPacket, h'.address p = h.address p

namespace Heap

theorem SameAddress.trans {h₁ h₂ h₃ : Heap} (h12 : SameAddress h₁ h₂) (h23 : SameAddress h₂ h₃) :
    SameAddress h₁ h₃ :=
  ⟨Nat.le_trans h12.next h23.next, fun p hp =>
    (h23.address p (Nat.lt_of_lt_of_le hp h12.next)).trans (h12.address p hp)⟩

theorem SameAddress.hit {h h' : Heap} (hs : SameAddress h h') {p : PacketId}
    (hp : p < h.nextPacket) : CacheSim.hit h' p = CacheSim.hit h p := by
  unfold CacheSim.hit
  rw [hs.address p hp]

theorem setResponseOk_address (h : Heap) (p r : PacketId) :
    (h.setResponseOk p).address r = h.address r := by
  unfold address
  rw [setResponseOk_packet]
  cases (h.packet r).payload with
  | none => rfl
  | some q =>
      dsimp only
      unfold setResponseOk
      split
      · next q' hq' =>
          by_cases hq : q = q'
          · subst hq
            simp [setStatus]
          · simp [setStatus, hq]
      · rfl

/-- The answer of a memory and of a hit writes no address. -/
theorem sameAddress_respond (h : Heap) (p : PacketId) (now : UInt64) (vcId : Int) :
    SameAddress h (((h.setResponseOk p).newResp now p vcId).2.delete p) := by
  refine ⟨?_, fun r hr => ?_⟩
  · show h.nextPacket ≤ (h.setResponseOk p).nextPacket + 1
    rw [setResponseOk_nextPacket]
    exact Nat.le_succ _
  · rw [← setResponseOk_address h p r]
    have hlt : r < (h.setResponseOk p).nextPacket := by
      rw [setResponseOk_nextPacket]
      exact hr
    show address ((h.setResponseOk p).new _).2 r = _
    unfold address
    rw [new_packet_of_lt _ _ hlt]
    rfl

end Heap

namespace RetryRun

variable {now : UInt64} {p : PacketId} {id : Nat} {label : String} {h : Heap} {o : PortOwner}
  {l : List PacketId}

/-- What an offer leaves when the owner takes the packet. -/
structure Offered (p : PacketId) (l : List PacketId) (h : Heap) (o : PortOwner)
    (r : Bool × (Heap × PortOwner)) : Prop where
  yes : r.1 = true
  holds : r.2.2.module.Holds l (r.2.1, r.2.2.around)
  refusals : r.2.2.refusals = o.refusals
  address : h.SameAddress r.2.1
  takes : ∀ k, r.2.2.module.takes k ↔ o.module.takes (missOf h [p] + k)

theorem full_eq_false {m : CacheSim} (ht : (Module.cache m).takes 0) : m.full = false := by
  refine decide_eq_false fun hge => ?_
  have hlt : m.reqBuffer.length + 0 < CacheSim.maxBuffer := ht
  omega

theorem full_eq_true {m : CacheSim} (ht : ¬ (Module.cache m).takes 0) : m.full = true := by
  refine decide_eq_true ?_
  have hlt : ¬ m.reqBuffer.length + 0 < CacheSim.maxBuffer := ht
  omega

/-- What the handler does to the packet and the queue is what the offer does. -/
theorem Offered.of_handled {r : Bool × Module × (Heap × Around)} (hr : handled now p id h o = r)
    (yes : r.1 = true) (holds : r.2.1.Holds l r.2.2) (address : h.SameAddress r.2.2.1)
    (takes : ∀ k, r.2.1.takes k ↔ o.module.takes (missOf h [p] + k)) :
    Offered p l h o (offer now p id label (h, o)) := by
  subst hr
  refine ⟨yes, holds, ?_, address, takes⟩
  show (if (handled now p id h o).1 then _ else _) = o.refusals
  rw [if_pos yes]

/-- **An offer that is taken.** -/
theorem offered_of_takes (now : UInt64) (id : Nat) (label : String) (ht : o.module.takes 0)
    (hh : o.module.Holds (p :: l) (h, o.around)) :
    Offered p l h o (offer now p id label (h, o)) := by
  obtain ⟨m, x, refusals⟩ := o
  cases m with
  | cache m =>
      have hf := full_eq_false ht
      let c : Context Around := Around.context now 1 0 { accept := true }
      have hholds : Module.Holds (.cache (m.handleUpstreamRequest c p id (h, x)).2.1) l
          (m.handleUpstreamRequest c p id (h, x)).2.2 := Module.holds_cacheRequest hh id
      cases hhit : CacheSim.hit h p with
      | true =>
          have hzero : missOf h [p] = 0 := if_pos hhit
          rw [CacheSim.handleUpstreamRequest_hit (w := (h, x)) hf hhit] at hholds
          refine Offered.of_handled (r := (true, .cache m, _)) ?_ rfl hholds
            (h.sameAddress_respond p now _) fun k => ?_
          · show (_, Module.cache _, _) = _
            rw [CacheSim.handleUpstreamRequest_hit (w := (h, x)) hf hhit]
          · rw [hzero, Nat.zero_add]
      | false =>
          have hone : missOf h [p] = 1 := if_neg (Bool.eq_false_iff.mp hhit)
          rw [CacheSim.handleUpstreamRequest_miss (w := (h, x)) hf hhit] at hholds
          refine Offered.of_handled
            (r := (true, .cache { m with reqBuffer := m.reqBuffer ++ [p] }, _)) ?_ rfl hholds
            ⟨Nat.le_refl _, fun _ _ => rfl⟩ fun k => ?_
          · show (_, Module.cache _, _) = _
            rw [CacheSim.handleUpstreamRequest_miss (w := (h, x)) hf hhit]
          · show (m.reqBuffer ++ [p]).length + k < _ ↔ m.reqBuffer.length + (missOf h [p] + k) < _
            rw [hone, List.length_append, Nat.add_assoc]
            rfl
  | memory =>
      exact Offered.of_handled rfl rfl ((hh.answer now _).respond id)
        (h.sameAddress_respond p now _) fun _ => Iff.rfl
  | cpu _ | trafficGen _ | crossbar _ | arbiter _ | router => exact ht.elim

/-- A refusal that has released its packet. -/
def Broken (o : PortOwner) : Prop := ∃ e ∈ o.refusals, e.packet ∈ e.heap.released

/-- **An offer that is refused.** -/
theorem broken_of_not_takes (label : String) (ht : ¬ o.module.takes 0) :
    Broken (offer now p id label (h, o)).2.2 := by
  have hr : handled now p id h o = (false, o.module, (h.delete p, o.around)) := by
    obtain ⟨m, x, refusals⟩ := o
    cases m with
    | cache m =>
        show (_, Module.cache _, _) = _
        rw [CacheSim.handleUpstreamRequest_full (full_eq_true ht)]
    | memory => exact absurd trivial ht
    | cpu _ | trafficGen _ | crossbar _ | arbiter _ | router => rfl
  refine ⟨⟨p, h.delete p, o.module, o.module⟩, ?_, List.mem_cons_self⟩
  show _ ∈ if (handled now p id h o).1 then _ else _
  rw [hr]
  exact List.mem_append_right _ (List.mem_singleton_self _)

/-- A refusal stays noted. -/
theorem Broken.noted (hb : Broken o) (label : String) :
    Broken (offer now p id label (h, o)).2.2 := by
  obtain ⟨e, he, hrel⟩ := hb
  refine ⟨e, ?_, hrel⟩
  show e ∈ if (handled now p id h o).1 then _ else _
  split
  · exact he
  · exact List.mem_append_left _ he

/-! ## 4. A `tick` -/

variable {s : RetryRun}

/-- The state of the loop of `UpstreamPort::tick` after `k` rounds. -/
def round (now : UInt64) (s : RetryRun) (k : Nat) : UpstreamPort × (Heap × PortOwner) :=
  (List.range k).foldl (UpstreamPort.tickVc (offer now)) (s.port, (s.heap, s.owner))

theorem round_succ (now : UInt64) (s : RetryRun) (k : Nat) :
    s.round now (k + 1) = UpstreamPort.tickVc (offer now) (s.round now k) k := by
  unfold round
  rw [List.range_succ, List.foldl_append]
  rfl

/-- What the runs keep as long as every request is taken. -/
structure Inv (s : RetryRun) : Prop where
  holds : s.owner.module.Holds s.port.waiting (s.heap, s.owner.around)
  refusals : s.owner.refusals = []

/-- The loop has taken every head so far, and has not been at channel `k` or later. -/
structure Loop (s : RetryRun) (k : Nat) (x : UpstreamPort × (Heap × PortOwner)) : Prop where
  length : x.1.inputVcs.length = s.port.inputVcs.length
  later : ∀ j, k ≤ j → x.1.vc j = s.port.vc j
  inv : Inv ⟨x.2.1, x.1, x.2.2⟩
  address : s.heap.SameAddress x.2.1
  takes : ∀ j, x.2.2.module.takes j ↔ s.owner.module.takes (missesBefore s.heap s.port k + j)

/-- The head of a channel in the module's hands, the rest of the port's packets in the channels. -/
theorem holds_head {m : Module} {u : UpstreamPort} {w : Heap × Around} (hh : m.Holds u.waiting w)
    {k : Nat} {rest : List PacketId} (hb : (u.vc k).buffer = p :: rest) :
    m.Holds (p :: (u.setVc k (u.vc k).pop).waiting) w := by
  have hk : k < u.inputVcs.length := by
    by_contra hk
    rw [UpstreamPort.vc_of_length_le (Nat.le_of_not_lt hk)] at hb
    cases hb
  refine ⟨hh.owns.mono fun r => ?_, hh.silent⟩
  have hcount := UpstreamPort.count_waiting_setVc hk (u.vc k).pop r
  rw [InputVC.pop_buffer, hb, List.tail_cons, List.count_cons] at hcount
  simp only [List.count_append, List.count_cons, List.cons_append]
  omega

/-- A round whose head, if there is one, is taken. -/
theorem Loop.succ {k : Nat} {x : UpstreamPort × (Heap × PortOwner)} (hI : Inv s) (hl : Loop s k x)
    (hs : s.Served k) : Loop s (k + 1) (UpstreamPort.tickVc (offer now) x k) := by
  unfold UpstreamPort.tickVc
  have hk := hl.later k (Nat.le_refl k)
  cases hb : (x.1.vc k).buffer with
  | nil =>
      have hmiss : missesBefore s.heap s.port (k + 1) = missesBefore s.heap s.port k := by
        show _ + missOf _ _ = _
        rw [← hk, hb]
        rfl
      exact ⟨hl.length, fun j hj => hl.later j (Nat.le_of_succ_le hj), hl.inv, hl.address,
        hmiss ▸ hl.takes⟩
  | cons p rest =>
      have hhead : (s.port.vc k).buffer = p :: rest := hk ▸ hb
      have htakes : x.2.2.module.takes 0 :=
        (hl.takes 0).mpr (hs (hhead ▸ List.cons_ne_nil p rest))
      have hoff := offered_of_takes now x.1.id x.1.label htakes (holds_head hl.inv.holds hb)
      have hp : p < s.heap.nextPacket := hI.holds.owns.lt (List.mem_append_left _
        (List.mem_append_left _ (UpstreamPort.mem_waiting (hhead ▸ List.mem_cons_self))))
      have hmiss : missesBefore s.heap s.port (k + 1) =
          missesBefore s.heap s.port k + missOf x.2.1 [p] := by
        show missesBefore s.heap s.port k + missOf s.heap (s.port.vc k).buffer =
          missesBefore s.heap s.port k + if CacheSim.hit x.2.1 p then 0 else 1
        rw [hhead, hl.address.hit hp]
        rfl
      dsimp only
      rw [if_pos hoff.yes]
      refine ⟨(UpstreamPort.setVc_length _ _ _).trans hl.length, fun j hj => ?_,
        ⟨hoff.holds, hoff.refusals.trans hl.inv.refusals⟩, hl.address.trans hoff.address,
        fun j => ?_⟩
      · rw [UpstreamPort.setVc_vc_ne _ (Nat.ne_of_lt hj)]
        exact hl.later j (Nat.le_of_succ_le hj)
      · rw [hmiss, Nat.add_assoc]
        exact (hoff.takes j).trans (hl.takes _)

/-- A round whose head is refused. -/
theorem Loop.broken {k : Nat} {x : UpstreamPort × (Heap × PortOwner)} (hl : Loop s k x)
    (hs : ¬ s.Served k) : Broken (UpstreamPort.tickVc (offer now) x k).2.2 := by
  obtain ⟨hne, htakes⟩ := Classical.not_imp.mp hs
  rw [← hl.later k (Nat.le_refl k)] at hne
  obtain ⟨p, rest, hb⟩ := List.exists_cons_of_ne_nil hne
  have hno : ¬ x.2.2.module.takes 0 := fun h => htakes ((hl.takes 0).mp h)
  unfold UpstreamPort.tickVc
  rw [hb]
  dsimp only
  split
  · exact broken_of_not_takes x.1.label hno
  · exact broken_of_not_takes x.1.label hno

theorem Broken.tickVc {x : UpstreamPort × (Heap × PortOwner)} (hb : Broken x.2.2) (k : Nat) :
    Broken (UpstreamPort.tickVc (offer now) x k).2.2 := by
  unfold UpstreamPort.tickVc
  split
  · exact hb
  · dsimp only
    split
    · exact hb.noted x.1.label
    · exact hb.noted x.1.label

/-- **The loop**, up to the first refusal and after it. -/
theorem loop_cases (hI : Inv s) (now : UInt64) (k : Nat) :
    (∀ i < k, s.Served i) ∧ Loop s k (s.round now k) ∨
      (∃ i < k, ¬ s.Served i) ∧ Broken (s.round now k).2.2 := by
  induction k with
  | zero =>
      refine Or.inl ⟨fun i hi => absurd hi (Nat.not_lt_zero i), rfl, fun _ _ => rfl, hI,
        ⟨Nat.le_refl _, fun _ _ => rfl⟩, fun j => ?_⟩
      show _ ↔ s.owner.module.takes (0 + j)
      rw [Nat.zero_add]
      exact Iff.rfl
  | succ k ih =>
      rw [round_succ]
      rcases ih with ⟨hall, hl⟩ | ⟨⟨i, hi, hs⟩, hb⟩
      · by_cases hs : s.Served k
        · refine Or.inl ⟨fun i hi => ?_, hl.succ hI hs⟩
          rcases Nat.lt_succ_iff_lt_or_eq.mp hi with hlt | rfl
          · exact hall i hlt
          · exact hs
        · exact Or.inr ⟨⟨k, Nat.lt_succ_self k, hs⟩, hl.broken hs⟩
      · exact Or.inr ⟨⟨i, Nat.lt_succ_of_lt hi, hs⟩, hb.tickVc k⟩

/-! ## 5. Every run -/

theorem Inv.kept (hI : Inv s) : Kept s where
  refusals e he := by
    rw [hI.refusals] at he
    exact absurd he List.not_mem_nil
  heads i p rest hb := hI.holds.owns.alive (List.mem_append_left _ (List.mem_append_left _
    (UpstreamPort.mem_waiting (hb ▸ List.mem_cons_self))))

theorem Broken.not_kept (hb : Broken s.owner) : ¬ Kept s := by
  obtain ⟨e, he, hrel⟩ := hb
  exact fun hk => (hk.refusals e he).1 hrel

/-- A packet that arrives is in its channel, or deleted. -/
theorem inv_recv (hI : Inv s) (now : UInt64) (x : Packet) : Inv (s.step (.recv now x)) := by
  refine ⟨?_, hI.refusals⟩
  rw [step]
  let h := (s.heap.new x).2.setDstCycle s.heap.nextPacket now
  let u := s.port.received now s.heap.nextPacket (s.heap.new x).2
  have ho : h.Owns (s.heap.nextPacket :: ((u.waiting ++
      (s.owner.module.queue ++ s.owner.around.responses)) ++ s.owner.around.held)) :=
    (hI.holds.owns.new x).congr rfl rfl
  show s.owner.module.Holds (u.recvReq now s.heap.nextPacket h).2.1.waiting
    ((u.recvReq now s.heap.nextPacket h).2.2, s.owner.around)
  cases hv : validVc (h.packet s.heap.nextPacket).vcId u.inputVcs.length with
  | false =>
      rw [UpstreamPort.recvReq_invalid now hv]
      exact ⟨ho.delete, hI.holds.silent⟩
  | true =>
      have hlt := validVc_toNat hv
      have ho' : (h.setDstCycle s.heap.nextPacket now).Owns _ := ho.congr rfl rfl
      cases hf : (u.vc (h.packet s.heap.nextPacket).vcId.toNat).full with
      | true =>
          rw [UpstreamPort.recvReq_full now hv hf]
          refine ⟨Heap.Owns.delete (ho'.mono fun r => ?_), hI.holds.silent⟩
          have hcount := UpstreamPort.count_waiting_setVc hlt
            (u.vc (h.packet s.heap.nextPacket).vcId.toNat).countDropped r
          rw [InputVC.countDropped_buffer] at hcount
          simp only [List.count_append, List.count_cons]
          omega
      | false =>
          rw [UpstreamPort.recvReq_enqueued now hv hf]
          refine ⟨ho'.mono fun r => ?_, hI.holds.silent⟩
          have hcount := UpstreamPort.count_waiting_setVc hlt
            ((u.vc (h.packet s.heap.nextPacket).vcId.toNat).push s.heap.nextPacket) r
          rw [InputVC.push_buffer, List.count_append, List.count_cons, List.count_nil] at hcount
          simp only [List.count_append, List.count_cons]
          omega

/-- What the owner sends is no longer in its hands. -/
theorem holds_tryForward {m : Module} {w : Heap × Around} (hh : m.Holds l w) (now : UInt64)
    (n : Nat) : (m.runDeferred (outward now n) .tryForward w).1.Holds l
      (m.runDeferred (outward now n) .tryForward w).2 := by
  cases m with
  | cache m =>
      have hsent : Module.Holds (.cache (m.tryForward (outward now n) w).2.1) l
          (m.tryForward (outward now n) w).2.2 := by
        unfold CacheSim.tryForward
        cases hq : m.reqBuffer with
        | nil => exact hh
        | cons p rest =>
            dsimp only
            split
            · exact hh
            · have htake : Module.Holds (.cache { m with reqBuffer := rest }) (p :: l) w :=
                hh.take hq
              exact htake.hand []
      exact hsent
  | cpu _ | memory | crossbar _ | arbiter _ | router | trafficGen _ => exact hh

theorem inv_step (hI : Inv s) (act : Action) (hT : Taken s act) : Inv (s.step act) := by
  cases act with
  | recv now x => exact inv_recv hI now x
  | tick now =>
      rcases loop_cases hI now s.port.inputVcs.length with ⟨-, hl⟩ | ⟨⟨i, hi, hs⟩, -⟩
      · exact hl.inv
      · exact absurd (hT i hi) hs
  | forward now n => exact ⟨holds_tryForward hI.holds now n, hI.refusals⟩
  | fire now n k =>
      rw [step]
      split
      · exact hI
      · next e hk =>
          refine ⟨?_, hI.refusals⟩
          cases e with
          | respond j p => exact (hI.holds.pop_respond hk).hand []
          | tryForward => exact holds_tryForward (hI.holds.pop_tryForward hk) now n
  | other ops =>
      obtain ⟨h1, h2⟩ := Around.performAll_owns ops hI.holds.owns
      exact ⟨Module.Holds.after h1 h2 hI.holds.silent, hI.refusals⟩

theorem not_kept_of_not_taken (hI : Inv s) (act : Action) (hT : ¬ Taken s act) :
    ¬ Kept (s.step act) := by
  cases act with
  | tick now =>
      rcases loop_cases hI now s.port.inputVcs.length with ⟨hall, -⟩ | ⟨-, hb⟩
      · exact absurd hall hT
      · exact hb.not_kept
  | recv _ _ | forward _ _ | fire _ _ _ | other _ => exact absurd trivial hT

/-- An owner with `k` requests in its queue, and an upstream port that nothing has reached yet. -/
def start (m : Module) (k id : Nat) (inSizes priorities : List Nat) (label : String) :
    RetryRun where
  heap := { nextPacket := k }
  port := UpstreamPort.create id inSizes priorities label
  owner := { module := m }

/-- **A REFUSED REQUEST STAYS RETRYABLE.** For every owner with any number of requests in its
    queue, every upstream port and every run: no refusal releases the packet or changes the owner,
    and every head that the next `tick` offers is alive, in every state of the run, if and only if
    every `tick` of the run finds room for each head it offers. -/
theorem kept_iff_taken (m : Module) (k : Nat) (hm : m.queue = List.range k) (id : Nat)
    (inSizes priorities : List Nat) (label : String) (acts : List Action) :
    Library.Everywhere step Kept (start m k id inSizes priorities label) acts ↔
      Library.Along step Taken (start m k id inSizes priorities label) acts := by
  refine Library.everywhere_iff_along (I := Inv) ⟨⟨?_, rfl⟩, rfl⟩ (fun _ h => h.kept)
    (fun _ act h hT => inv_step h act hT) (fun _ act h hT => not_kept_of_not_taken h act hT)
  show ({ nextPacket := k } : Heap).Owns
    (((UpstreamPort.create id inSizes priorities label).waiting ++ (m.queue ++ [])) ++ [])
  rw [UpstreamPort.waiting_create, hm, List.nil_append, List.append_nil, List.append_nil]
  refine ⟨fun p => ?_, fun p hp => ?_⟩
  · exact List.nodup_iff_count_le_one.mp List.nodup_range p
  · exact List.count_eq_zero.mpr fun h => Nat.not_lt_of_le hp (List.mem_range.mp h)

/-- A cache with four requests in its queue, behind a port of one channel. -/
def fullCache : RetryRun := start (.cache { reqBuffer := List.range 4 }) 4 0 [1] [] ""

/-- A request arrives. -/
def twoTicks : List Action :=
  [.other [.newPayload { address := 1 }], .recv 0 { payload := some 0 }, .tick 1, .tick 2]

theorem kept_iff_taken_twoTicks :
    Library.Everywhere step Kept fullCache twoTicks ↔ Library.Along step Taken fullCache twoTicks :=
  kept_iff_taken (.cache { reqBuffer := List.range 4 }) 4 rfl 0 [1] [] "" twoTicks

/-- The fifth request is refused and released, stays at the head of its channel, and the next tick
    offers it again and releases it a second time. -/
theorem twoTicks_not_kept :
    ((Library.run step fullCache (twoTicks.take 3)).port.vc 0).buffer = [4] ∧
      (Library.run step fullCache (twoTicks.take 3)).heap.released = [4] ∧
      (Library.run step fullCache twoTicks).heap.released = [4, 4] ∧
      ¬ Library.Everywhere step Kept fullCache twoTicks := by
  refine ⟨by decide, by decide, by decide, fun h => ?_⟩
  have hlast := Library.everywhere_iff_prefix.mp h twoTicks (List.prefix_refl _)
  exact absurd (hlast.heads 0 4 [] (by decide)) (by decide)

end RetryRun

end Gem5Sc
