/-
  File:      Gem5Sc/Network/Storage.lean
  Subject:   HOW MUCH IS HELD, AND THAT NOTHING ISSUED IS REWRITTEN.

  No channel ever holds more than its capacity, no cache more than its miss buffer, no CPU waits for
  more than four requests, in any order of events. The room of a system does not change while it
  runs (`SmallStep.room`), so the number of stored requests is bounded once and for all
  (`storage_bounded`).

  `issued_kept` is about the packets themselves: what is issued keeps its fields for ever.
-/
import Gem5Sc.Network.Traffic

namespace Gem5Sc

/-! ## 1. The room of a system -/

/-- The sum of the capacities of a row. -/
def Channel.room (cs : List Channel) : Nat := (cs.map Channel.capacity).sum

/-- How many requests a module may keep. -/
def Module.room : Module → Nat
  | .cache _ => CacheSim.maxBuffer
  | _ => 0

def Instance.room (x : Instance) : Nat :=
  x.mod.room + (x.up.map fun u => Channel.room u.channels).sum +
    (x.down.map fun d => Channel.room d.channels).sum

/-- How many requests the channels and miss buffers of a system may hold. -/
def Fabric.room (f : Fabric) : Nat := (f.insts.map Instance.room).sum

/-- The capacities of the channels of an instance. -/
def Instance.shape (x : Instance) : List (List Nat) × List (List Nat) :=
  (x.up.map fun u => u.channels.map Channel.capacity,
    x.down.map fun d => d.channels.map Channel.capacity)

theorem Instance.room_congr {x y : Instance} (hm : x.mod.room = y.mod.room)
    (hs : x.shape = y.shape) : x.room = y.room := by
  have hx : ∀ x : Instance, x.room = x.mod.room + (x.shape.1.map List.sum).sum +
      (x.shape.2.map List.sum).sum := fun x => by
    simp only [room, shape, List.map_map]
    rfl
  rw [hx, hx, hm, hs]

/-- A row is rewritten within its capacities. -/
theorem Rewrites.within {h : Heap} {cs cs' : List Channel} {hand hand' : Multiset PacketId}
    (hw : Rewrites h cs cs' hand hand')
    (hcs : ∀ v, (cs.getD v default).buffer.length ≤ (cs.getD v default).capacity) (v : Nat) :
    (cs'.getD v default).buffer.length ≤ (cs'.getD v default).capacity := by
  have hcap : (cs'.getD v default).capacity = (cs.getD v default).capacity := by
    have hget := congrArg (fun l : List Nat => l.getD v (default : Channel).capacity) hw.capacity
    simpa only [List.getD_eq_getElem?_getD, List.getElem?_map, Option.getD_map] using hget
  rw [hcap]
  exact (hw.room v).trans (max_le (hcs v) (Nat.le_refl _))

/-- A row of channels that hold what they may. -/
def Channel.Within (cs : List Channel) : Prop :=
  ∀ v, (cs.getD v default).buffer.length ≤ (cs.getD v default).capacity

/-- Nothing holds more than it may. -/
structure Fabric.Stored (f : Fabric) : Prop where
  row : ∀ a, ∀ cs ∈ (f.inst a).rows, Channel.Within cs
  cache : ∀ (a : Nat) (m : CacheSim), (f.inst a).mod = .cache m →
    m.reqBuffer.length ≤ CacheSim.maxBuffer
  cpu : ∀ (a : Nat) (m : CPUSim), (f.inst a).mod = .cpu m → m.inflightReqs.length ≤ 4

namespace Fabric.Stored

variable {f f' : Fabric}

/-- The contents of the modules and the rows decide. -/
theorem congr (hs : f.Stored) (hmod : ∀ a, (f'.inst a).mod = (f.inst a).mod)
    (hrow : ∀ a, ∀ cs ∈ (f'.inst a).rows, Channel.Within cs) : f'.Stored where
  row := hrow
  cache a m hm := hs.cache a m ((hmod a).symm.trans hm)
  cpu a m hm := hs.cpu a m ((hmod a).symm.trans hm)

/-- A module has been written to. -/
theorem write (hs : f.Stored) {a : Nat} {m : Module}
    (hcache : ∀ x, m = .cache x → x.reqBuffer.length ≤ CacheSim.maxBuffer)
    (hcpu : ∀ x, m = .cpu x → x.inflightReqs.length ≤ 4) : (f.setMod a m).Stored where
  row b cs hcs := hs.row b cs (by rwa [← rows_setMod (f := f) (a := a) (m := m)])
  cache b x hx := by
    rw [mod_setMod] at hx
    split at hx
    · exact hcache x hx
    · exact hs.cache b x hx
  cpu b x hx := by
    rw [mod_setMod] at hx
    split at hx
    · exact hcpu x hx
    · exact hs.cpu b x hx

end Fabric.Stored

theorem Carry.stored {c c' : Config} (hc : Carry c c') (hs : c.net.fabric.Stored) :
    c'.net.fabric.Stored := by
  cases hc with
  | heap hh => exact hs
  | up hu hw =>
      refine hs.congr (fun b => Fabric.mod_setUp _ _ _ _ _) fun b cs hcs => ?_
      rcases Fabric.rows_setUp hcs with hcs | ⟨rfl, rfl⟩
      · exact hs.row b cs hcs
      · exact hw.within (hs.row _ _ (Fabric.rows_of_up hu))
  | down hd hw =>
      refine hs.congr (fun b => Fabric.mod_setDown _ _ _ _ _) fun b cs hcs => ?_
      rcases Fabric.rows_setDown hcs with hcs | ⟨rfl, rfl⟩
      · exact hs.row b cs hcs
      · exact hw.within (hs.row _ _ (Fabric.rows_of_down hd))

theorem Turn.stored {c c' : Config} (ht : Turn c c') (hs : c.net.fabric.Stored) :
    c'.net.fabric.Stored := by
  cases ht with
  | carry hc => exact hc.stored hs
  | note hf hcalls hpairs =>
      exact hs.congr (Fabric.contents_mod hf) fun b cs hcs =>
        hs.row b cs (by rw [← Fabric.contents_rows hf b]; exact hcs)
  | issue t pkt b hreq horig hvc => exact hs
  | @forward n hand a m p rest hm hb =>
      refine hs.write (fun x hx => ?_) fun x hx => by cases hx
      obtain rfl := Module.cache.inj hx
      have hle := hs.cache a m hm
      rw [hb, List.length_cons] at hle
      exact Nat.le_of_succ_le hle
  | @track n hand a m p hm hlt hp haddr =>
      refine hs.write (fun x hx => by cases hx) fun x hx => ?_
      obtain rfl := Module.cpu.inj hx
      have hle : (m.inflightReqs.filter fun e => e.1 ≠ m.nextAddr).length ≤
          m.inflightReqs.length := List.length_filter_le _ _
      show (m.inflightReqs.filter fun e => e.1 ≠ m.nextAddr).length + 1 ≤ 4
      omega
  | generator hm => exact hs.write (fun x hx => by cases hx) fun x hx => by cases hx

theorem Work.stored {c c' : Config} (hw : Work c c') (hs : c.net.fabric.Stored) :
    c'.net.fabric.Stored := by
  cases hw with
  | turn ht => exact ht.stored hs
  | arm a delay => exact hs.congr (fun _ => rfl) hs.row
  | @keep n hand a m p hm hroom =>
      refine hs.write (fun x hx => ?_) fun x hx => by cases hx
      obtain rfl := Module.cache.inj hx
      have hlt : m.reqBuffer.length < CacheSim.maxBuffer := by
        simpa [CacheSim.full] using hroom
      rw [List.length_append, List.length_singleton]
      exact hlt
  | @untrack n hand a m hm addr =>
      refine hs.write (fun x hx => by cases hx) fun x hx => ?_
      obtain rfl := Module.cpu.inj hx
      exact (List.length_filter_le _ _).trans (hs.cpu a m hm)
  | answer j now delay hm hp => exact hs.congr (fun _ => rfl) hs.row
  | _ => exact hs

/-- **Every small step keeps the bounds.** -/
theorem SmallStep.stored {c c' : Config} (hm : SmallStep c c') (hs : c.net.fabric.Stored) :
    c'.net.fabric.Stored := by
  cases hm with
  | work hw => exact hw.stored hs
  | settle => exact hs.congr (fun _ => rfl) hs.row
  | fire he => exact hs

/-! ## 2. The room stays -/

theorem Fabric.room_setInst {f : Fabric} {a : Nat} {x : Instance}
    (hx : x.room = (f.inst a).room) : (f.setInst a x).room = f.room :=
  congrArg List.sum (map_setInst f a Instance.room hx)

theorem Carry.room {c c' : Config} (hc : Carry c c') : c'.net.fabric.room = c.net.fabric.room := by
  cases hc with
  | heap hh => rfl
  | @up n hand hand' a j u u' hu hw =>
      refine Fabric.room_setInst (Instance.room_congr rfl (Prod.ext ?_ rfl))
      exact Library.map_set_same (fun u : UpstreamPort => u.channels.map Channel.capacity) hu
        hw.capacity
  | @down n hand hand' a i d d' hd hw =>
      refine Fabric.room_setInst (Instance.room_congr rfl (Prod.ext rfl ?_))
      exact Library.map_set_same (fun d : DownstreamPort => d.channels.map Channel.capacity) hd
        hw.capacity

/-- A write to a module that does not become another one. -/
theorem Fabric.room_setMod {f : Fabric} {a : Nat} {m m' : Module} (hm : (f.inst a).mod = m)
    (hroom : m'.room = m.room) : (f.setMod a m').room = f.room := by
  refine room_setInst (Instance.room_congr ?_ rfl)
  rw [hm]
  exact hroom

theorem Turn.room {c c' : Config} (ht : Turn c c') : c'.net.fabric.room = c.net.fabric.room := by
  cases ht with
  | carry hc => exact hc.room
  | note hf hcalls hpairs =>
      have hroom : Instance.room = (fun x : Module × List (List Channel) × List (List Channel) =>
          x.1.room + (x.2.1.map Channel.room).sum + (x.2.2.map Channel.room).sum) ∘
            Instance.contents := by
        funext x
        simp only [Instance.room, Instance.contents, Function.comp, List.map_map]
        rfl
      rw [Fabric.room, Fabric.room, hroom, ← List.map_map, hf, List.map_map]
  | forward hm hb => exact Fabric.room_setMod hm rfl
  | track hm hlt hp haddr => exact Fabric.room_setMod hm rfl
  | generator hm => exact Fabric.room_setMod hm rfl
  | issue t pkt b hreq horig hvc => rfl

/-- **Every small step leaves the room of the system alone.** -/
theorem SmallStep.room {c c' : Config} (hm : SmallStep c c') :
    c'.net.fabric.room = c.net.fabric.room := by
  cases hm with
  | work hw =>
      cases hw with
      | turn ht => exact ht.room
      | keep hm hroom => exact Fabric.room_setMod hm rfl
      | untrack hm addr => exact Fabric.room_setMod hm rfl
      | _ => rfl
  | _ => rfl

/-! ## 3. What fits -/

theorem card_sum_le {α : Type} {g : α → Multiset PacketId} {k : α → Nat} {l : List α}
    (h : ∀ x ∈ l, (g x).card ≤ k x) : (l.map g).sum.card ≤ (l.map k).sum := by
  induction l with
  | nil => exact Nat.le_refl _
  | cons x l ih =>
      rw [List.map_cons, List.sum_cons, List.map_cons, List.sum_cons, Multiset.card_add]
      exact Nat.add_le_add (h x List.mem_cons_self) (ih fun y hy => h y (List.mem_cons_of_mem x hy))

theorem Channel.Within.card {cs : List Channel} (hcs : Channel.Within cs) :
    (Channel.held cs).card ≤ Channel.room cs := by
  refine card_sum_le fun c hc => ?_
  obtain ⟨v, hv, rfl⟩ := List.getElem_of_mem hc
  have hle := hcs v
  rw [List.getD_eq_getElem?_getD, List.getElem?_eq_getElem hv] at hle
  exact hle

theorem Fabric.Stored.card {f : Fabric} (hs : f.Stored) (hq : ∀ a, (f.inst a).mod.Unqueued) :
    f.held.card ≤ f.room := by
  refine card_sum_le fun x hx => ?_
  obtain ⟨a, ha, rfl⟩ := List.getElem_of_mem hx
  have hinst : f.insts[a] = f.inst a := by simp [inst, ha]
  rw [hinst, Instance.held, Instance.room, Multiset.card_add, Multiset.card_add]
  have hmod : (f.inst a).mod.held.card ≤ (f.inst a).mod.room := by
    have hqa := hq a
    cases hm : (f.inst a).mod with
    | cache m => exact hs.cache a m hm
    | crossbar m =>
        rw [hm] at hqa
        rw [Module.held, show m.reqQueue = [] from hqa]
        exact Nat.le_refl _
    | arbiter m =>
        rw [hm] at hqa
        rw [Module.held, show m.reqQueue = [] from hqa]
        exact Nat.le_refl _
    | _ => exact Nat.le_refl _
  have hup : ((f.inst a).up.map fun u => Channel.held u.channels).sum.card ≤
      ((f.inst a).up.map fun u => Channel.room u.channels).sum :=
    card_sum_le fun u hu => (hs.row a u.channels
      (List.mem_append.mpr (Or.inl (List.mem_map_of_mem hu)))).card
  have hdown : ((f.inst a).down.map fun d => Channel.held d.channels).sum.card ≤
      ((f.inst a).down.map fun d => Channel.room d.channels).sum :=
    card_sum_le fun d hd => (hs.row a d.channels
      (List.mem_append.mpr (Or.inr (List.mem_map_of_mem hd)))).card
  omega

namespace Network

/-- The bounds of a system that started with this room. -/
structure Bounded (room : Nat) (n : Network) : Prop where
  typed : n.Typed
  stored : n.fabric.Stored
  room_eq : n.fabric.room = room

theorem Bounded.step {room : Nat} {n : Network} (hb : n.Bounded room) (act : Action) :
    (n.step act).Bounded room := by
  have hm := step_smallSteps hb.typed.ready act
  have hkept : ∀ {c c' : Config}, SmallSteps c c' → c.net.fabric.Stored →
      c'.net.fabric.Stored ∧ c'.net.fabric.room = c.net.fabric.room := by
    intro c c' hm hs
    induction hm with
    | refl => exact ⟨hs, rfl⟩
    | tail _ h ih => exact ⟨h.stored ih.1, h.room.trans ih.2⟩
  obtain ⟨hs, hroom⟩ := hkept hm hb.stored
  exact ⟨hb.typed.step act, hs, hroom.trans hb.room_eq⟩

theorem bounded_start {f : Fabric} (hf : f.Fresh) : (start f).Bounded f.room := by
  refine ⟨typed_start hf, ⟨fun a cs hcs v => ?_, fun a m hm => ?_, fun a m hm => ?_⟩, rfl⟩
  · have hempty : ∀ c ∈ cs, c.buffer = [] := (hf.inst a).rows_empty hcs
    by_cases hv : v < cs.length
    · rw [List.getD_eq_getElem?_getD, List.getElem?_eq_getElem hv, Option.getD_some,
        hempty _ (List.getElem_mem hv)]
      exact Nat.zero_le _
    · rw [List.getD_eq_getElem?_getD, List.getElem?_eq_none (Nat.le_of_not_lt hv)]
      exact Nat.le_refl _
  · have hfresh := (hf.inst a).mod
    rw [show (f.inst a).mod = .cache m from hm] at hfresh
    rw [show m.reqBuffer = [] from hfresh]
    exact Nat.zero_le _
  · have hfresh := (hf.inst a).mod
    rw [show (f.inst a).mod = .cpu m from hm] at hfresh
    rw [show m.inflightReqs = [] from hfresh]
    exact Nat.zero_le _

/-- **STORAGE IS BOUNDED.** In every system of new modules and after every sequence of events in
    any order: no channel holds more than its capacity, no cache more than four misses, no CPU
    waits for more than four requests, and all that is stored fits into the room the system has
    had from the start. -/
theorem storage_bounded (f : Fabric) (hf : f.Fresh) (acts : List Action) :
    (Library.run step (start f) acts).fabric.Stored ∧
      (Library.run step (start f) acts).fabric.held.card ≤ f.room := by
  have hb : (Library.run step (start f) acts).Bounded f.room :=
    Library.run_invariant (bounded_start hf) (fun _ act hb => hb.step act) acts
  have hcard := hb.stored.card hb.typed.unqueued
  rw [hb.room_eq] at hcard
  exact ⟨hb.stored, hcard⟩

theorem storage_bounded_chain :
    (Library.run step (start .chain) [.tick 1 0, .tick 2 0, .tick 3 0]).fabric.held.card ≤ 12 :=
  (storage_bounded .chain Fabric.chain_fresh _).2

/-- **WHAT IS ISSUED STAYS AS IT IS.** From any moment of a run on, no event in any order changes a
    field of an issued packet other than `dst_cycle`, or an attribute of an issued payload other
    than the response status. -/
theorem issued_kept (f : Fabric) (hf : f.Fresh) (acts rest : List Action) :
    (Library.run step (start f) acts).heap.Keeps
      (Library.run step (start f) (acts ++ rest)).heap := by
  have ht : (Library.run step (start f) acts).Typed :=
    Library.run_invariant (typed_start hf) (fun _ act ht => ht.step act) acts
  rw [Library.run, Library.run, List.foldl_append]
  have hall : ∀ (rest : List Action) (n : Network), n.Typed →
      n.heap.Keeps (rest.foldl step n).heap := by
    intro rest
    induction rest with
    | nil => exact fun _ _ => .refl _
    | cons act rest ih =>
        exact fun n ht => (step_smallSteps ht.ready act).keeps.trans (ih _ (ht.step act))
  exact hall rest _ ht

theorem issued_kept_chain : (Library.run step (start .chain) [.tick 1 0]).heap.Keeps
    (Library.run step (start .chain) [.tick 1 0, .tickUp 2 1 0]).heap :=
  issued_kept .chain Fabric.chain_fresh [.tick 1 0] [.tickUp 2 1 0]

end Network

end Gem5Sc
