/-
  File:      Gem5Sc/Modules/Inflight.lean
  Subject:   THE OUTSTANDING REQUESTS OF A CPU: `inflight_reqs` holds exactly the addresses of the
             requests that have been sent and not answered.

  The table is keyed by address, and an answer finds its key by reading the address of the request
  it points back to. So two things have to hold besides: no two requests have one address
  (`addr_inj`), and nobody changes the address of a request. The second is what the rest of the
  system respects: whatever it does to the store is a sequence of `HeapOp`s (`Extends`).

  A refused request is deleted and its address is used again, so the `n`-th request that is sent
  has the address `0x1000 + 4 * n`, whatever has been refused before it (`Inv.addresses`).
-/
import Gem5Sc.Modules
import Gem5Sc.Library.Runs
import Mathlib.Algebra.Order.Ring.Int
import Mathlib.Data.List.Nodup
import Mathlib.Data.List.Perm.Subperm

namespace Gem5Sc

/-! ## 1. What the program does to the store -/

/-- An operation on the store. -/
inductive HeapOp where
  | new (p : Packet)
  | newPayload (t : Payload)
  | delete (p : PacketId)
  | setDstCycle (p : PacketId) (now : UInt64)
  | setStatus (q : PayloadId) (st : TlmStatus)
  deriving Repr

namespace Heap

def apply (h : Heap) : HeapOp → Heap
  | .new p => (h.new p).2
  | .newPayload t => (h.newPayload t).2
  | .delete p => h.delete p
  | .setDstCycle p now => h.setDstCycle p now
  | .setStatus q st => h.setStatus q st

def applyAll (h : Heap) (ops : List HeapOp) : Heap := ops.foldl apply h

/-- What was issued in `h` keeps its payload, and that payload its address. -/
structure Extends (h h' : Heap) : Prop where
  next : h.nextPacket ≤ h'.nextPacket
  nextPayload : h.nextPayload ≤ h'.nextPayload
  payload : ∀ p, p < h.nextPacket → (h'.packet p).payload = (h.packet p).payload
  address : ∀ q, q < h.nextPayload → (h'.payload q).address = (h.payload q).address

theorem Extends.refl (h : Heap) : Extends h h :=
  ⟨Nat.le_refl _, Nat.le_refl _, fun _ _ => rfl, fun _ _ => rfl⟩

theorem Extends.trans {h₁ h₂ h₃ : Heap} (h12 : Extends h₁ h₂) (h23 : Extends h₂ h₃) :
    Extends h₁ h₃ where
  next := Nat.le_trans h12.next h23.next
  nextPayload := Nat.le_trans h12.nextPayload h23.nextPayload
  payload p hp := (h23.payload p (Nat.lt_of_lt_of_le hp h12.next)).trans (h12.payload p hp)
  address q hq := (h23.address q (Nat.lt_of_lt_of_le hq h12.nextPayload)).trans (h12.address q hq)

theorem extends_apply (h : Heap) (op : HeapOp) : Extends h (h.apply op) := by
  cases op with
  | new p =>
      exact ⟨Nat.le_succ _, Nat.le_refl _, fun r hr => by rw [apply, new_packet_of_lt h p hr],
        fun _ _ => rfl⟩
  | newPayload t =>
      refine ⟨Nat.le_refl _, Nat.le_succ _, fun _ _ => rfl, fun q hq => ?_⟩
      show (Function.update h.payload h.nextPayload t q).address = _
      rw [Function.update_of_ne (Nat.ne_of_lt hq)]
  | delete p => exact ⟨Nat.le_refl _, Nat.le_refl _, fun _ _ => rfl, fun _ _ => rfl⟩
  | setDstCycle p now =>
      refine ⟨Nat.le_refl _, Nat.le_refl _, fun r _ => ?_, fun _ _ => rfl⟩
      show (Function.update h.packet p _ r).payload = _
      by_cases hr : r = p
      · subst hr
        rw [Function.update_self]
      · rw [Function.update_of_ne hr]
  | setStatus q st =>
      refine ⟨Nat.le_refl _, Nat.le_refl _, fun _ _ => rfl, fun r _ => ?_⟩
      show (Function.update h.payload q _ r).address = _
      by_cases hr : r = q
      · subst hr
        rw [Function.update_self]
      · rw [Function.update_of_ne hr]

theorem extends_applyAll (h : Heap) (ops : List HeapOp) : Extends h (h.applyAll ops) := by
  induction ops generalizing h with
  | nil => exact Extends.refl h
  | cons op ops ih => exact (extends_apply h op).trans (ih (h.apply op))

/-- `p` is a packet that has been issued with a payload. -/
def Loaded (h : Heap) (p : PacketId) : Prop :=
  p < h.nextPacket ∧ ∃ q, (h.packet p).payload = some q ∧ q < h.nextPayload

theorem Extends.loaded {h h' : Heap} (he : Extends h h') {p : PacketId} (hp : h.Loaded p) :
    h'.Loaded p := by
  obtain ⟨hlt, q, hq, hqlt⟩ := hp
  exact ⟨Nat.lt_of_lt_of_le hlt he.next, q, (he.payload p hlt).trans hq,
    Nat.lt_of_lt_of_le hqlt he.nextPayload⟩

theorem Extends.address_eq {h h' : Heap} (he : Extends h h') {p : PacketId} (hp : h.Loaded p) :
    h'.address p = h.address p := by
  obtain ⟨hlt, q, hq, hqlt⟩ := hp
  unfold Heap.address
  rw [he.payload p hlt, hq]
  exact he.address q hqlt

theorem extends_newRequest (h : Heap) (t : Payload) (pkt : Packet) :
    Extends h (h.newRequest t pkt).2 :=
  (extends_apply h (.newPayload t)).trans (extends_apply (h.newPayload t).2 (.new _))

theorem loaded_newRequest (h : Heap) (t : Payload) (pkt : Packet) :
    (h.newRequest t pkt).2.Loaded h.nextPacket :=
  ⟨Nat.lt_succ_self _, h.nextPayload, by rw [newRequest_packet_self], Nat.lt_succ_self _⟩

theorem address_newRequest (h : Heap) (t : Payload) (pkt : Packet) :
    (h.newRequest t pkt).2.address h.nextPacket = t.address := by
  unfold Heap.address
  rw [newRequest_packet_self]
  show (Function.update h.payload h.nextPayload t h.nextPayload).address = _
  rw [Function.update_self]

end Heap

/-! ## 2. The table -/

namespace CPUSim

/-- The keys of `inflight_reqs`. -/
def keys (m : CPUSim) : List UInt64 := m.inflightReqs.map Prod.fst

theorem mem_keys_erase {m : CPUSim} {a b : UInt64} :
    b ∈ (m.erase a).keys ↔ b ∈ m.keys ∧ b ≠ a := by
  simp [keys, erase]

theorem keys_erase_sublist (m : CPUSim) (a : UInt64) : (m.erase a).keys.Sublist m.keys :=
  List.Sublist.map _ List.filter_sublist

end CPUSim

/-! ## 3. A CPU and the rest of the system -/

/-- A CPU with the history of its requests. -/
structure CpuRun where
  heap : Heap := {}
  cpu : CPUSim := {}
  /-- The requests for which `sendReq` returned true. -/
  sent : List PacketId := []
  /-- The requests a response to which has been handled. -/
  answered : List PacketId := []

namespace CpuRun

/-- `n` downstream ports; `sendReq` answers `accept`, and the rest of the system does `ops`. -/
def outside (n : Nat) (now : UInt64) (accept : Bool) (ops : List HeapOp) :
    Context (List PacketId) where
  now := now
  upstream := 0
  downstream := n
  sendReq _ p w := (accept, (w.1.applyAll ops, if accept then w.2 ++ [p] else w.2))
  sendResp _ _ w := (false, w)
  tickUpstream _ w := w
  tickDownstream _ w := w
  schedule _ _ x := x

inductive Action where
  | tick (n : Nat) (now : UInt64) (rand : Nat) (accept : Bool) (ops : List HeapOp)
  /-- A response to the `k`-th request that was sent. -/
  | respond (k : Nat) (resp : Packet)
  /-- Anything the rest of the system does. -/
  | other (ops : List HeapOp)

def step (s : CpuRun) : Action → CpuRun
  | .tick n now rand accept ops =>
      let r := s.cpu.tick (outside n now accept ops) rand (s.heap, s.sent)
      { s with heap := r.2.1, cpu := r.1, sent := r.2.2 }
  | .respond k resp =>
      match s.sent[k]? with
      | none => s
      | some req =>
          let x := s.heap.new { resp with type := .resp, originalReq := some req }
          let r := s.cpu.handleDownstreamResponse x.1 (x.2, s.sent)
          { s with heap := r.2.2.1, cpu := r.2.1, answered := s.answered ++ [req] }
  | .other ops => { s with heap := s.heap.applyAll ops }

/-- The requests that have been sent and not answered. -/
def outstanding (s : CpuRun) : List PacketId := s.sent.filter fun p => p ∉ s.answered

/-- **Tracked exactly.** -/
structure Tracked (s : CpuRun) : Prop where
  exact : ∀ a, a ∈ s.cpu.keys ↔ ∃ p ∈ s.outstanding, s.heap.address p = a
  distinct : (s.sent.map s.heap.address).Nodup
  bound : s.outstanding.length ≤ 4

theorem mem_outstanding {s : CpuRun} {p : PacketId} :
    p ∈ s.outstanding ↔ p ∈ s.sent ∧ p ∉ s.answered := by
  simp [outstanding]

/-! ## 4. The invariant -/

/-- The address of the `n`-th request that is sent. -/
def addr (n : Nat) : UInt64 := UInt64.ofNat (0x1000 + 4 * n)

theorem addr_succ (n : Nat) : addr n + 4 = addr (n + 1) := by
  unfold addr
  rw [show 0x1000 + 4 * (n + 1) = 0x1000 + 4 * n + 4 from by omega, UInt64.ofNat_add _ 4]
  rfl

/-- Below `2^62` the addresses do not repeat. -/
theorem addr_inj {i j : Nat} (hi : i < 2 ^ 62) (hj : j < 2 ^ 62) (h : addr i = addr j) : i = j := by
  have hn := congrArg UInt64.toNat h
  unfold addr at hn
  rw [UInt64.toNat_ofNat', UInt64.toNat_ofNat'] at hn
  omega

theorem addr_nodup {n : Nat} (hn : n ≤ 2 ^ 62) : ((List.range n).map addr).Nodup := by
  refine List.Nodup.map_on (fun i hi j hj h => ?_) List.nodup_range
  exact addr_inj (Nat.lt_of_lt_of_le (List.mem_range.mp hi) hn)
    (Nat.lt_of_lt_of_le (List.mem_range.mp hj) hn) h

/-- What every run keeps while the addresses do not repeat. -/
structure Inv (s : CpuRun) : Prop where
  loaded : ∀ p ∈ s.sent, s.heap.Loaded p
  asked : ∀ p ∈ s.answered, p ∈ s.sent
  addresses : s.sent.map s.heap.address = (List.range s.sent.length).map addr
  nextAddr : s.cpu.nextAddr = addr s.sent.length
  keysNodup : s.cpu.keys.Nodup
  keysBound : s.cpu.keys.length ≤ 4
  exact : ∀ a, a ∈ s.cpu.keys ↔ ∃ p ∈ s.sent, p ∉ s.answered ∧ s.heap.address p = a

theorem Inv.nodup {s : CpuRun} (hI : Inv s) (hn : s.sent.length ≤ 2 ^ 62) :
    (s.sent.map s.heap.address).Nodup := by
  rw [hI.addresses]
  exact addr_nodup hn

theorem Inv.tracked {s : CpuRun} (hI : Inv s) (hn : s.sent.length ≤ 2 ^ 62) : Tracked s := by
  have hnodup := hI.nodup hn
  refine ⟨fun a => ?_, hnodup, ?_⟩
  · rw [hI.exact]
    simp only [mem_outstanding, and_assoc]
  · have hout : (s.outstanding.map s.heap.address).Nodup :=
      List.Nodup.sublist (List.Sublist.map _ List.filter_sublist) hnodup
    have hsub : s.outstanding.map s.heap.address ⊆ s.cpu.keys := by
      intro a ha
      obtain ⟨p, hp, hpa⟩ := List.mem_map.mp ha
      obtain ⟨h1, h2⟩ := mem_outstanding.mp hp
      exact (hI.exact a).mpr ⟨p, h1, h2, hpa⟩
    have hlen := (List.subperm_of_subset hout hsub).length_le
    rw [List.length_map] at hlen
    exact Nat.le_trans hlen hI.keysBound

/-- A step that changes the store only. -/
theorem Inv.extend {s : CpuRun} (hI : Inv s) {h : Heap} (he : s.heap.Extends h) :
    Inv { s with heap := h } := by
  have haddr : ∀ p ∈ s.sent, h.address p = s.heap.address p := fun p hp =>
    he.address_eq (hI.loaded p hp)
  refine ⟨fun p hp => he.loaded (hI.loaded p hp), hI.asked, ?_, hI.nextAddr, hI.keysNodup,
    hI.keysBound, fun a => ?_⟩
  · exact (List.map_congr_left haddr).trans hI.addresses
  · rw [hI.exact]
    refine exists_congr fun p => and_congr_right fun hp => ?_
    show _ ↔ p ∉ s.answered ∧ h.address p = a
    rw [haddr p hp]

/-- The address of the next request is in nobody's use. -/
theorem Inv.fresh {s : CpuRun} (hI : Inv s) (hn : s.sent.length < 2 ^ 62) :
    s.cpu.nextAddr ∉ s.cpu.keys := by
  intro h
  obtain ⟨p, hp, -, ha⟩ := (hI.exact _).mp h
  have hmem : s.heap.address p ∈ s.sent.map s.heap.address := List.mem_map_of_mem hp
  rw [hI.addresses, ha, hI.nextAddr] at hmem
  obtain ⟨i, hi, hia⟩ := List.mem_map.mp hmem
  have hlt := List.mem_range.mp hi
  exact Nat.ne_of_lt hlt (addr_inj (Nat.lt_trans hlt hn) hn hia)

/-- A request that has been sent. -/
theorem Inv.send {s : CpuRun} (hI : Inv s) (hn : s.sent.length < 2 ^ 62) {h : Heap} {p : PacketId}
    (he : s.heap.Extends h) (hp : h.Loaded p) (ha : h.address p = s.cpu.nextAddr)
    (hnew : p ∉ s.sent) (hroom : s.cpu.keys.length < 4) :
    Inv { s with heap := h, sent := s.sent ++ [p],
                 cpu :=
                  { s.cpu.insert s.cpu.nextAddr p with nextAddr := s.cpu.nextAddr + 4 } } := by
  obtain ⟨h1, h0, h2, h3, h4, h5, h6⟩ := hI.extend he
  have hfresh := hI.fresh hn
  have hkeys : ∀ b, b ∈ (s.cpu.erase s.cpu.nextAddr).keys ↔ b ∈ s.cpu.keys := by
    intro b
    rw [CPUSim.mem_keys_erase]
    exact ⟨And.left, fun hb => ⟨hb, fun e => hfresh (e ▸ hb)⟩⟩
  have hsub := CPUSim.keys_erase_sublist s.cpu s.cpu.nextAddr
  refine ⟨fun q hq => ?_, fun q hq => List.mem_append_left _ (h0 q hq), ?_, ?_, ?_, ?_,
    fun a => ?_⟩
  · rcases List.mem_append.mp hq with hq | hq
    · exact h1 q hq
    · rw [List.mem_singleton.mp hq]
      exact hp
  · show (s.sent ++ [p]).map h.address = (List.range (s.sent ++ [p]).length).map addr
    rw [List.map_append, List.length_append, List.length_singleton, List.range_succ,
      List.map_append]
    exact congrArg₂ (· ++ ·) h2 (by rw [List.map_singleton, List.map_singleton, ha, hI.nextAddr])
  · show s.cpu.nextAddr + 4 = addr (s.sent ++ [p]).length
    rw [List.length_append, List.length_singleton, hI.nextAddr, addr_succ]
  · show (s.cpu.nextAddr :: (s.cpu.erase s.cpu.nextAddr).keys).Nodup
    exact List.nodup_cons.mpr ⟨fun hb => hfresh ((hkeys _).mp hb), h4.sublist hsub⟩
  · show (s.cpu.nextAddr :: (s.cpu.erase s.cpu.nextAddr).keys).length ≤ 4
    rw [List.length_cons]
    exact Nat.lt_of_le_of_lt hsub.length_le hroom
  · show a ∈ s.cpu.nextAddr :: (s.cpu.erase s.cpu.nextAddr).keys ↔ _
    rw [List.mem_cons, hkeys, h6]
    constructor
    · rintro (rfl | ⟨q, hq, hqa, e⟩)
      · exact ⟨p, List.mem_append_right _ (List.mem_singleton_self _), fun hp => hnew (h0 p hp), ha⟩
      · exact ⟨q, List.mem_append_left _ hq, hqa, e⟩
    · intro ⟨q, hq, hqa, e⟩
      rcases List.mem_append.mp hq with hq | hq
      · exact Or.inr ⟨q, hq, hqa, e⟩
      · rw [List.mem_singleton.mp hq] at e
        exact Or.inl (e.symm.trans ha)

/-- A response that has been handled. -/
theorem Inv.answer {s : CpuRun} (hI : Inv s) (hn : s.sent.length ≤ 2 ^ 62) {req : PacketId}
    (hreq : req ∈ s.sent) :
    Inv { s with cpu := s.cpu.erase (s.heap.address req), answered := s.answered ++ [req] } := by
  have hsub := CPUSim.keys_erase_sublist s.cpu (s.heap.address req)
  -- another request has another address
  have hother : ∀ p ∈ s.sent, s.heap.address p = s.heap.address req → p = req := fun p hp =>
    List.inj_on_of_nodup_map (hI.nodup hn) hp hreq
  refine ⟨hI.loaded, fun p hp => ?_, hI.addresses, hI.nextAddr, hI.keysNodup.sublist hsub,
    Nat.le_trans hsub.length_le hI.keysBound, fun a => ?_⟩
  · rcases List.mem_append.mp hp with hp | hp
    · exact hI.asked p hp
    · rw [List.mem_singleton.mp hp]
      exact hreq
  · rw [CPUSim.mem_keys_erase, hI.exact]
    constructor
    · rintro ⟨⟨p, hp, hpa, rfl⟩, hne⟩
      refine ⟨p, hp, fun h => ?_, rfl⟩
      rcases List.mem_append.mp h with h | h
      · exact hpa h
      · exact hne (by rw [List.mem_singleton.mp h])
    · rintro ⟨p, hp, hpa, rfl⟩
      refine ⟨⟨p, hp, fun h => hpa (List.mem_append_left _ h), rfl⟩, fun e => hpa ?_⟩
      rw [hother p hp e]
      exact List.mem_append_right _ (List.mem_singleton_self _)

/-! ## 5. Every run -/

theorem sent_step (s : CpuRun) (a : Action) : s.sent <+: (s.step a).sent := by
  cases a with
  | tick n now rand accept ops =>
      simp only [step, CPUSim.tick]
      split
      · exact List.prefix_refl _
      · split
        · cases accept with
          | false => exact List.prefix_refl _
          | true => exact List.prefix_append _ _
        · exact List.prefix_refl _
  | respond k resp =>
      simp only [step]
      split <;> exact List.prefix_refl _
  | other ops => exact List.prefix_refl _

theorem inv_step {s : CpuRun} (hI : Inv s) (a : Action) (hn : s.sent.length < 2 ^ 62) :
    Inv (s.step a) := by
  cases a with
  | tick n now rand accept ops =>
      simp only [step, CPUSim.tick]
      split
      · exact hI
      · split
        · next hroom =>
            let t : Payload := { command := .read, address := s.cpu.nextAddr, dataLength := 4 }
            let pkt : Packet := { srcCycle := now, type := .reqRead, vcId := 0 }
            have hnew := s.heap.extends_newRequest t pkt
            have hops := Heap.extends_applyAll (s.heap.newRequest t pkt).2 ops
            have hload := s.heap.loaded_newRequest t pkt
            cases accept with
            | false => exact hI.extend ((hnew.trans hops).trans (Heap.extends_apply _ (.delete _)))
            | true =>
                refine hI.send hn (hnew.trans hops) (hops.loaded hload) ?_ (fun h => ?_) ?_
                · exact (hops.address_eq hload).trans (s.heap.address_newRequest t pkt)
                · exact Nat.lt_irrefl _ (hI.loaded _ h).1
                · unfold CPUSim.keys
                  rw [List.length_map]
                  exact hroom.1
        · exact hI
  | respond k resp =>
      simp only [step]
      split
      · exact hI
      · next req hk =>
          have hreq : req ∈ s.sent := List.mem_of_getElem? hk
          let x : Packet := { resp with type := .resp, originalReq := some req }
          have hnew : s.heap.Extends (s.heap.new x).2 := Heap.extends_apply s.heap (.new x)
          have hself : (s.heap.new x).2.packet (s.heap.new x).1 = x := s.heap.new_packet_self x
          have haddr := hnew.address_eq (hI.loaded req hreq)
          have hdel := hnew.trans (Heap.extends_apply (s.heap.new x).2 (.delete (s.heap.new x).1))
          have hresp : ((s.heap.new x).2.packet (s.heap.new x).1).isResponse = true := by
            rw [hself]
            rfl
          have horig : ((s.heap.new x).2.packet (s.heap.new x).1).originalReq = some req := by
            rw [hself]
          simp only [CPUSim.handleDownstreamResponse]
          rw [if_pos hresp, horig]
          have h := (hI.extend hdel).answer (Nat.le_of_lt hn) hreq
          rw [hdel.address_eq (hI.loaded req hreq)] at h
          show Inv { s with
            heap := (s.heap.new x).2.delete (s.heap.new x).1,
            cpu := s.cpu.erase ((s.heap.new x).2.address req),
            answered := s.answered ++ [req] }
          rw [haddr]
          exact h
  | other ops => exact hI.extend (Heap.extends_applyAll s.heap ops)

theorem inv_start : Inv {} where
  loaded _ hp := absurd hp List.not_mem_nil
  asked _ hp := absurd hp List.not_mem_nil
  addresses := rfl
  nextAddr := rfl
  keysNodup := List.nodup_nil
  keysBound := Nat.zero_le _
  exact a := by
    constructor
    · exact fun h => absurd h List.not_mem_nil
    · rintro ⟨p, hp, -⟩
      exact absurd hp List.not_mem_nil

theorem sent_run (s : CpuRun) (acts : List Action) : s.sent <+: (Library.run step s acts).sent :=
  Library.run_invariant (I := fun t => s.sent <+: t.sent) (List.prefix_refl _)
    (fun t a h => h.trans (sent_step t a)) acts

/-- **OUTSTANDING REQUESTS ARE TRACKED EXACTLY.** In every state of every run of a CPU that sends
    fewer than `2^62` requests, with any random numbers, any number of ports, any answers of
    `sendReq`, and responses to what it has sent in any order and any number of times: the keys of
    `inflight_reqs` are the addresses of the requests that have been sent and not answered, no two
    requests have one address, and at most four are outstanding. -/
theorem tracked_exactly (acts : List Action)
    (hn : (Library.run step {} acts).sent.length < 2 ^ 62) :
    Library.Everywhere step Tracked {} acts := by
  have hinv : ∀ bs : List Action, ∀ s : CpuRun, Inv s →
      (Library.run step s bs).sent.length < 2 ^ 62 → Library.Everywhere step Tracked s bs := by
    intro bs
    induction bs with
    | nil => exact fun s hI h => hI.tracked (Nat.le_of_lt h)
    | cons a bs ih =>
        intro s hI h
        have hs : s.sent.length < 2 ^ 62 :=
          Nat.lt_of_le_of_lt (sent_run s (a :: bs)).length_le h
        exact ⟨hI.tracked (Nat.le_of_lt hs), ih (s.step a) (inv_step hI a hs) h⟩
  exact hinv acts {} inv_start hn

/-- Two requests are sent, with a refused one between them, and the first is answered twice. -/
theorem tracked_exactly_twoReads :
    let acts : List Action :=
      [.tick 2 0 0 true [], .tick 2 1 20 false [.delete 1], .tick 2 2 0 true [],
        .respond 0 {}, .respond 0 {}]
    (Library.run step {} acts).sent.length < 2 ^ 62 ∧
      Library.Everywhere step Tracked {} acts :=
  ⟨by decide, tracked_exactly _ (by decide)⟩

end CpuRun

end Gem5Sc
