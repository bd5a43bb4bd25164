/-
  File:      Gem5Sc/Network/Delivered.lean
  Subject:   NO RESPONSE IS LOST: every response is sent exactly once, and what has reached a memory
             is answered to its CPU exactly once.

  A response and the `LambdaEvent` that sends it are made together, and what code does later takes
  no event out of the queue (`Work.adds`). So a response waits until its event gets its turn, and
  since no request is owed twice, it then waits no longer (`sends_waits`). The rule of tokens makes
  of that: sent once, or still waiting (`response_sent_once`).

  With `answered_in_turn` this gives the way of a request from the channel of a memory back to its
  CPU (`delivered_exactly_once`).
-/
import Gem5Sc.Network.Custody
import Gem5Sc.Network.Served

namespace Gem5Sc

/-! ## 1. What waits to be sent -/

/-- From one moment to a later one: what waits stays, what comes in is new, and a response that is
    made waits. -/
structure Config.Adds (c c' : Config) : Prop where
  nextPacket : c.net.heap.nextPacket ≤ c'.net.heap.nextPacket
  scheduled : c.net.scheduled ≤ c'.net.scheduled
  new : ∀ a j p, (a, Deferred.respond j p) ∈ c'.net.scheduled →
    (a, Deferred.respond j p) ∈ c.net.scheduled ∨ c.net.heap.nextPacket ≤ p
  made : ∀ p, c'.net.heap.Responded p →
    c.net.heap.Responded p ∨ ∃ a j, (a, Deferred.respond j p) ∈ c'.net.scheduled

namespace Config.Adds

theorem refl (c : Config) : Adds c c where
  nextPacket := Nat.le_refl _
  scheduled := le_refl _
  new _ _ _ h := Or.inl h
  made _ h := Or.inl h

theorem trans {c₁ c₂ c₃ : Config} (h12 : Adds c₁ c₂) (h23 : Adds c₂ c₃) : Adds c₁ c₃ where
  nextPacket := h12.nextPacket.trans h23.nextPacket
  scheduled := h12.scheduled.trans h23.scheduled
  new a j p h := by
    rcases h23.new a j p h with h | hp
    · exact h12.new a j p h
    · exact Or.inr (h12.nextPacket.trans hp)
  made p h := by
    rcases h23.made p h with h | h
    · rcases h12.made p h with h | ⟨a, j, h⟩
      · exact Or.inl h
      · exact Or.inr ⟨a, j, Multiset.mem_of_le h23.scheduled h⟩
    · exact Or.inr h

/-- The same events wait, and no response is made. -/
theorem of_eq {c c' : Config} (hnext : c.net.heap.nextPacket ≤ c'.net.heap.nextPacket)
    (hs : c'.net.scheduled = c.net.scheduled)
    (hmade : ∀ p, c'.net.heap.Responded p → c.net.heap.Responded p) : Adds c c' where
  nextPacket := hnext
  scheduled := hs.ge
  new _ _ _ h := Or.inl (hs ▸ h)
  made p h := Or.inl (hmade p h)

end Config.Adds

theorem Heap.Touch.responded {h h' : Heap} (ht : h.Touch h') {p : PacketId}
    (hp : h'.Responded p) : h.Responded p where
  lt := ht.nextPacket ▸ hp.lt
  type := (ht.field Packet.isResponse (fun _ _ => rfl) p).symm.trans hp.type

/-- The packet made last is the only one that was not there before. -/
theorem Heap.Responded.of_new {h : Heap} {x : Packet} {p : PacketId}
    (hp : (h.new x).2.Responded p) : h.Responded p ∨ (p = h.nextPacket ∧ x.isResponse = true) := by
  rcases Nat.lt_succ_iff_lt_or_eq.mp hp.lt with hlt | rfl
  · refine Or.inl ⟨hlt, ?_⟩
    have htype := hp.type
    rwa [new_packet_of_lt h x hlt] at htype
  · refine Or.inr ⟨rfl, ?_⟩
    have htype := hp.type
    rwa [new_packet_self h x] at htype

theorem Turn.adds {c c' : Config} (ht : Turn c c') : c.Adds c' := by
  cases ht with
  | carry hc =>
      cases hc with
      | heap hh => exact .of_eq hh.nextPacket.ge rfl fun p hp => hh.responded hp
      | up hu hw => exact .of_eq (Nat.le_refl _) rfl fun _ hp => hp
      | down hd hw => exact .of_eq (Nat.le_refl _) rfl fun _ hp => hp
  | @note n hand f hf hcalls hpairs =>
      refine .of_eq (Nat.le_refl _) ?_ fun _ hp => hp
      simp only [Network.scheduled, hcalls]
  | @issue n hand t pkt b hreq horig hvc =>
      refine .of_eq (Nat.le_succ _) rfl fun p hp => ?_
      rcases Heap.Responded.of_new hp with hp | ⟨-, hresp⟩
      · exact (Heap.Touch.blank t).responded hp
      · -- it is a request
        exfalso
        have hresp : pkt.isResponse = true := hresp
        cases htype : pkt.type <;> simp [Packet.isRequest, Packet.isResponse, htype] at hreq hresp
  | forward hm hb => exact .of_eq (Nat.le_refl _) rfl fun _ hp => hp
  | track hm hlt hp haddr => exact .of_eq (Nat.le_refl _) rfl fun _ hp => hp
  | generator hm => exact .of_eq (Nat.le_refl _) rfl fun _ hp => hp

theorem scheduled_schedule (n : Network) (h : Heap) (a : Nat) (e : Deferred) (delay : UInt64) :
    Network.scheduled { n with heap := h, fabric := n.fabric.schedule a e delay } =
      n.scheduled + {(a, e)} := by
  rw [Network.scheduled_mk, Network.lambdas_schedule, ← add_assoc]
  rfl

/-- **Code makes responses together with their events**, and takes no event out of the queue. -/
theorem Work.adds {c c' : Config} (hw : Work c c') : c.Adds c' := by
  cases hw with
  | turn ht => exact ht.adds
  | @arm n hand a delay =>
      refine ⟨Nat.le_refl _, ?_, fun b j p h => ?_, fun _ hp => Or.inl hp⟩
      · exact (scheduled_schedule n n.heap a _ delay).symm ▸ Multiset.le_add_right _ _
      · rcases mem_scheduled_schedule h with h | ⟨-, h⟩
        · exact Or.inl h
        · cases h
  | @answer n hand req p a j now delay hm hp =>
      have hwaits : (a, Deferred.respond j n.heap.nextPacket) ∈ Network.scheduled
          { n with heap := (n.heap.newResp now req (n.heap.packet p).vcId).2
                   fabric := n.fabric.schedule a (.respond j n.heap.nextPacket) delay } := by
        rw [scheduled_schedule]
        exact Multiset.mem_add.mpr (Or.inr (Multiset.mem_singleton_self _))
      refine ⟨Nat.le_succ _, ?_, fun b i q h => ?_, fun q hq => ?_⟩
      · exact (scheduled_schedule n _ a _ delay).symm ▸ Multiset.le_add_right _ _
      · rcases mem_scheduled_schedule h with h | ⟨-, h⟩
        · exact Or.inl h
        · exact Or.inr (Deferred.respond.inj h).2.ge
      · rcases Heap.Responded.of_new hq with hq | ⟨rfl, -⟩
        · exact Or.inl hq
        · exact Or.inr ⟨a, j, hwaits⟩
  | keep hm hroom => exact .of_eq (Nat.le_refl _) rfl fun _ hp => hp
  | untrack hm addr => exact .of_eq (Nat.le_refl _) rfl fun _ hp => hp
  | finish hr => exact .of_eq (Nat.le_refl _) rfl fun _ hp => hp

theorem Works.adds {c c' : Config} (hw : Works c c') : c.Adds c' := by
  induction hw with
  | refl => exact .refl _
  | tail _ h ih => exact ih.trans h.adds

namespace Network

/-- The network when the event has been taken out of the queue. -/
def taken (n : Network) : Action → Network
  | .fire _ a e => if (a, e) ∈ n.pending then { n with pending := n.pending.erase (a, e) } else n
  | _ => n

theorem settle_adds (c : Config) {n : Network} {hand : Multiset PacketId}
    (h : c.Adds ⟨n, hand⟩) : c.Adds ⟨n.settle, hand⟩ :=
  h.trans (.of_eq (Nat.le_refl _) (settle_scheduled n) fun _ hp => hp)

/-- **After the turn of its own event, nothing else is taken out.** -/
theorem step_adds {n : Network} (hn : n.Ready) (act : Action) :
    ∃ hand, Config.Adds ⟨n.taken act, hand⟩ ⟨n.step act, 0⟩ := by
  cases act with
  | tick now a => exact ⟨0, settle_adds _ (tickModule_turns n 0 now (hn.unqueued a)).works.adds⟩
  | tickUp now a j => exact ⟨0, settle_adds _ (tickUpAt_steps n 0 now j (hn.input a j)).adds⟩
  | tickDown now a i => exact ⟨0, settle_adds _ (tickDownAt_steps n 0 now a i (hn.output a i)).adds⟩
  | fire now a e =>
      by_cases he : (a, e) ∈ n.pending
      · have hrun := runLambda_steps { n with pending := n.pending.erase (a, e) } 0 now
          (a := a) e (fun j p hj => hn.response a j p (hj ▸ he))
        rw [step, if_pos he, taken, if_pos he]
        exact ⟨_, settle_adds _ hrun.adds⟩
      · rw [step, if_neg he, taken, if_neg he]
        exact ⟨0, .refl _⟩
  | resetStats a => exact ⟨0, (resetAllStats_work n 0 a).adds⟩

/-! ## 2. Every response is sent once -/

/-- The response that an event sends. -/
def sends (n : Network) : Action → Option PacketId
  | .fire _ a (.respond j p) => if (a, Deferred.respond j p) ∈ n.pending then some p else none
  | _ => none

theorem sends_cases {n : Network} {act : Action} {p : PacketId} (h : n.sends act = some p) :
    ∃ now a j, act = .fire now a (.respond j p) ∧ (a, Deferred.respond j p) ∈ n.pending := by
  unfold sends at h
  split at h
  · next now a j q =>
      split at h
      · next hmem =>
          obtain rfl := Option.some.inj h
          exact ⟨now, a, j, rfl, hmem⟩
      · cases h
  · cases h

/-- The response waits for the event that sends it. -/
def Waits (n : Network) (p : PacketId) : Prop := ∃ a j, (a, Deferred.respond j p) ∈ n.scheduled

theorem Waits.responded {n : Network} {p : PacketId} (hn : n.Typed) (hw : n.Waits p) :
    n.heap.Responded p := by
  obtain ⟨a, j, h⟩ := hw
  exact (hn.response a j p h).1

/-- An event that sends another response leaves this one waiting. -/
theorem Waits.taken {n : Network} {p : PacketId} (hw : n.Waits p) {act : Action}
    (hact : n.sends act ≠ some p) : (n.taken act).Waits p := by
  obtain ⟨a, j, h⟩ := hw
  refine ⟨a, j, ?_⟩
  unfold Network.taken
  split
  · next now b e =>
      split
      · next he =>
          have hne : (a, Deferred.respond j p) ≠ (b, e) := by
            rintro heq
            obtain ⟨rfl, rfl⟩ := Prod.mk.inj heq
            exact hact (by rw [sends, if_pos he])
          rcases Multiset.mem_add.mp h with h | h
          · exact Multiset.mem_add.mpr (Or.inl ((Multiset.mem_erase_of_ne hne).mpr h))
          · exact Multiset.mem_add.mpr (Or.inr h)
      · exact h
  · exact h

theorem Waits.of_taken {n : Network} {p : PacketId} {act : Action} (hw : (n.taken act).Waits p) :
    n.Waits p := by
  obtain ⟨a, j, h⟩ := hw
  refine ⟨a, j, ?_⟩
  unfold Network.taken at h
  split at h
  · split at h
    · rcases Multiset.mem_add.mp h with h | h
      · exact Multiset.mem_add.mpr (Or.inl (Multiset.mem_of_mem_erase h))
      · exact Multiset.mem_add.mpr (Or.inr h)
    · exact h
  · exact h

theorem taken_heap (n : Network) (act : Action) : (n.taken act).heap = n.heap := by
  unfold taken
  split
  · split <;> rfl
  · rfl

theorem Waits.step {n : Network} {p : PacketId} (hn : n.Ready) (hw : n.Waits p) {act : Action}
    (hact : n.sends act ≠ some p) : (n.step act).Waits p := by
  obtain ⟨hand, hadds⟩ := step_adds hn act
  obtain ⟨a, j, h⟩ := hw.taken hact
  exact ⟨a, j, Multiset.mem_of_le hadds.scheduled h⟩

/-- What waits after an event has waited before it, unless it is new. -/
theorem Waits.of_step {n : Network} {p : PacketId} (hn : n.Ready) {act : Action}
    (hw : (n.step act).Waits p) : (n.taken act).Waits p ∨ n.heap.nextPacket ≤ p := by
  obtain ⟨hand, hadds⟩ := step_adds hn act
  obtain ⟨a, j, h⟩ := hw
  rcases hadds.new a j p h with h | h
  · exact Or.inl ⟨a, j, h⟩
  · exact Or.inr (taken_heap n act ▸ h)

theorem Waits.of_made {n : Network} {p : PacketId} (hn : n.Ready) {act : Action}
    (hp : (n.step act).heap.Responded p) : n.heap.Responded p ∨ (n.step act).Waits p := by
  obtain ⟨hand, hadds⟩ := step_adds hn act
  rcases hadds.made p hp with h | h
  · exact Or.inl (taken_heap n act ▸ h)
  · exact Or.inr h

/-- **A response that is sent has waited, and waits no longer**: its request is owed only once. -/
theorem sends_waits {n : Network} (hc : n.Custody) {act : Action} {p : PacketId}
    (h : n.sends act = some p) : n.Waits p ∧ ¬ (n.step act).Waits p := by
  obtain ⟨now, a, j, rfl, hmem⟩ := sends_cases h
  have hwaits : n.Waits p := ⟨a, j, Multiset.mem_add.mpr (Or.inl hmem)⟩
  refine ⟨hwaits, fun hafter => ?_⟩
  have hresp := hwaits.responded hc.typed
  rcases hafter.of_step hc.typed.ready with ⟨b, i, hrest⟩ | hnew
  · obtain ⟨r, -, horig, -⟩ := (hc.typed.heap p hresp.lt).original hresp.type
    rw [taken, if_pos hmem] at hrest
    have htwice : r ∈ owed n.heap (n.pending.erase (a, .respond j p) +
        (Fabric.lambdas n.fabric.calls : Multiset (Nat × Deferred))) :=
      (Multiset.mem_filterMap _ _).mpr ⟨_, hrest, horig⟩
    have hn := hc.nodup
    rw [bare_requests, Network.requests, owed_erase hmem horig] at hn
    exact (Multiset.nodup_cons.mp (Multiset.nodup_add.mp hn).2.1).1 htwice
  · exact Nat.lt_irrefl _ (Nat.lt_of_lt_of_le hresp.lt hnew)

theorem token (p : PacketId) : Library.Token step Custody (fun n => n.heap.Responded p)
    (fun n => n.Waits p) (fun n act => n.sends act == some p) where
  invariant _ act hc := hc.step act
  made _ hc hw := hw.responded hc.typed
  made_step _ act hc hp := hp.mono (step_smallSteps hc.typed.ready act).keeps
  there _ _ hc hp := Waits.of_made hc.typed.ready hp
  kept _ _ hc hw h := hw.step hc.typed.ready (fun hs => by simp [hs] at h)
  taken _ _ hc h := sends_waits hc (eq_of_beq h)
  gone _ _ hc hp hno hw := by
    rcases hw.of_step hc.typed.ready with hw | hnew
    · exact hno hw.of_taken
    · exact Nat.lt_irrefl _ (Nat.lt_of_lt_of_le hp.lt hnew)

/-- **NO RESPONSE IS LOST.** In every run of every system of new modules, events in any order, every
    response that has been made either still waits for its `LambdaEvent`, or exactly one event of
    the run has sent it. -/
theorem response_sent_once (f : Fabric) (hf : f.Fresh) (acts : List Action) (p : PacketId)
    (hp : (Library.run step (start f) acts).heap.Responded p) :
    ((Library.run step (start f) acts).Waits p ∧
        Library.count step (fun n act => n.sends act == some p) (start f) acts = 0) ∨
      (¬ (Library.run step (start f) acts).Waits p ∧
        Library.count step (fun n act => n.sends act == some p) (start f) acts = 1) :=
  (token p).once (custody_start hf) (fun h => Nat.not_lt_zero p h.lt) hp

/-- The response of the cache, before and after it has been sent. -/
theorem response_sent_once_chain :
    ((Library.run step (start .chain) [.tick 1 0, .tickUp 2 1 0]).Waits 1 ∧
        Library.count step (fun n act => n.sends act == some 1) (start .chain)
          [.tick 1 0, .tickUp 2 1 0] = 0) ∨
      (¬ (Library.run step (start .chain) [.tick 1 0, .tickUp 2 1 0]).Waits 1 ∧
        Library.count step (fun n act => n.sends act == some 1) (start .chain)
          [.tick 1 0, .tickUp 2 1 0] = 1) :=
  response_sent_once .chain Fabric.chain_fresh [.tick 1 0, .tickUp 2 1 0] 1 ⟨by decide, by decide⟩

end Network

/-! ## 3. From the memory to the CPU -/

/-- Every upstream port of the module has its place as its number, and is bound to a port of a
    CPU. -/
def Fabric.ServesCpus (f : Fabric) (a : Nat) : Prop :=
  ∀ j u, (f.inst a).up[j]? = some u → u.id = j ∧ ∃ b i, f.upPair a j = some (b, i) ∧
    i < (f.inst b).down.length ∧ ∃ m, (f.inst b).mod = .cpu m

theorem Fabric.ids_setUp {f : Fabric} {b j : Nat} {u u' : UpstreamPort}
    (hu : (f.inst b).up[j]? = some u) (hid : u'.id = u.id) (a : Nat) :
    ((f.setUp b j u').inst a).up.map (·.id) = (f.inst a).up.map (·.id) := by
  rw [up_setUp]
  split
  · next h =>
      subst h
      exact Library.map_set_same (fun u : UpstreamPort => u.id) hu hid
  · rfl

theorem Fabric.inflow_ids (a : Nat) (ids : List Nat) :
    Inflow fun f => (f.inst a).up.map (·.id) = ids where
  mod f b m hf := (congrArg (List.map (·.id)) (up_setMod f b a m)).trans hf
  down f b i d hf := (congrArg (List.map (·.id)) (up_setDown f b a i d)).trans hf
  schedule _ _ _ _ hf := hf
  note _ _ _ _ hf := hf
  log _ _ hf := hf
  up _ _ _ _ _ hu hid _ hf := (ids_setUp hu hid a).trans hf

namespace Network

/-- **No event changes the number of a port.** -/
theorem step_ids (n : Network) (a : Nat) (act : Action) :
    ((n.step act).fabric.inst a).up.map (·.id) = (n.fabric.inst a).up.map (·.id) := by
  have hJ := Fabric.inflow_ids a ((n.fabric.inst a).up.map (·.id))
  cases act with
  | tick now b => exact Fabric.tickModule_inflow hJ n.world rfl
  | tickDown now b i => exact Fabric.tickDownAt_inflow hJ i n.world rfl
  | fire now b e =>
      rw [step]
      split
      · exact Fabric.runLambda_inflow hJ e n.world rfl
      · rfl
  | resetStats b =>
      show ((n.fabric.resetAllStats b).inst a).up.map (·.id) = _
      rw [Fabric.resetAllStats, Fabric.inst_setInst]
      split
      · next h =>
          rw [h.1, List.map_map]
          rfl
      · rfl
  | tickUp now b k =>
      show ((Fabric.tickUpAt now b k n.world).2.inst a).up.map (·.id) = _
      unfold Fabric.tickUpAt
      split
      · rfl
      · next u hu =>
          have hkeep := @UpstreamPort.tick_keeps Fabric (fun f => (f.inst b).up =
              (n.fabric.inst b).up) (offered now b k) (fun p id label w hw =>
            Fabric.offered_quiet (Fabric.quiet_up _) k p id label w hw) u n.world rfl
          have hids := @UpstreamPort.tick_keeps Fabric (fun f => (f.inst a).up.map (·.id) =
              (n.fabric.inst a).up.map (·.id)) (offered now b k) (fun p id label w hw =>
            Fabric.offered_quiet hJ.toQuiet k p id label w hw) u n.world rfl
          refine (Fabric.ids_setUp (u := u) ?_ (u.tick_id _ _) a).trans hids
          exact (congrArg (fun us : List UpstreamPort => us[k]?) hkeep).trans hu

/-- A port that is there stays there. -/
theorem up_step {n : Network} (hn : n.Ready) (act : Action) {a j : Nat} {u : UpstreamPort}
    (hu : (n.fabric.inst a).up[j]? = some u) : j < ((n.step act).fabric.inst a).up.length := by
  rw [((Fabric.of_plan (step_smallSteps hn act).plan).2 a).1]
  exact (List.getElem?_eq_some_iff.mp hu).1

theorem servesCpus_step {n : Network} {a : Nat} (hs : n.fabric.ServesCpus a) (hn : n.Ready)
    (act : Action) : (n.step act).fabric.ServesCpus a := by
  intro j u' hu'
  have hsteps := step_smallSteps hn act
  obtain ⟨⟨-, hup⟩, hports⟩ := Fabric.of_plan hsteps.plan
  have hid := congrArg (fun ids : List Nat => ids[j]?) (step_ids n a act)
  simp only [List.getElem?_map, hu', Option.map_some] at hid
  obtain ⟨u, hu, hid⟩ := Option.map_eq_some_iff.mp hid.symm
  obtain ⟨hplace, b, i, hpair, hi, hcpu⟩ := hs j u hu
  exact ⟨hid.symm.trans hplace, b, i, (congrFun (congrFun hup a) j).trans hpair,
    (hports b).2.symm ▸ hi, hsteps.lasting Module.lasting_cpu hcpu⟩

theorem taken_pending_le (n : Network) (act : Action) :
    (n.taken act).pending ≤ (n.step act).pending := by
  cases act with
  | fire now a e =>
      rw [taken, step]
      split
      · exact Multiset.le_add_right _ _
      · exact le_refl _
  | resetStats a => exact le_refl _
  | _ => exact Multiset.le_add_right _ _

/-- Module `a` is a memory that serves CPUs. -/
structure Serving (a : Nat) (n : Network) : Prop where
  custody : n.Custody
  memory : (n.fabric.inst a).mod = .memory
  serves : n.fabric.ServesCpus a

theorem Serving.ready {a : Nat} {n : Network} (hn : n.Serving a) : n.Ready := hn.custody.typed.ready

theorem Serving.step {a : Nat} {n : Network} (hn : n.Serving a) (act : Action) :
    (n.step act).Serving a where
  custody := hn.custody.step act
  memory := (step_smallSteps hn.ready act).lasting Module.lasting_memory hn.memory
  serves := servesCpus_step hn.serves hn.ready act

/-- A response waits to be sent through one of the ports of the module. -/
def Returning (a : Nat) (r : PacketId) (n : Network) : Prop :=
  ∃ j u, (n.fabric.inst a).up[j]? = some u ∧ n.Owes a j r

/-- **Only its delivery ends the waiting.** -/
theorem Returning.step {n : Network} {a : Nat} {r : PacketId} (hr : n.Returning a r)
    (hn : n.Serving a) {act : Action} (hact : n.delivers act ≠ some r) :
    (n.step act).Returning a r := by
  obtain ⟨j, u, hu, q, hq, hmem, horig⟩ := hr
  have hkeeps := (step_smallSteps hn.ready act).keeps
  have hport := up_step hn.ready act hu
  have hstays : (a, Deferred.respond j q) ∈ (n.taken act).pending := by
    unfold taken
    split
    · next now b e =>
        split
        · refine (Multiset.mem_erase_of_ne fun heq => hact ?_).mpr hmem
          obtain ⟨rfl, rfl⟩ := Prod.mk.inj heq
          -- its own event, which hands the response to the CPU
          obtain ⟨-, b, i, hpair, hi, m, hcpu⟩ := hn.serves j u hu
          have hd : (n.fabric.inst b).down[i]? = some ((n.fabric.inst b).down.get ⟨i, hi⟩) :=
            List.getElem?_eq_getElem hi
          simp only [delivers, if_pos hmem, hu, hpair, hd, hcpu, horig]
        · exact hmem
    · exact hmem
  refine ⟨j, _, List.getElem?_eq_getElem hport, q, Nat.lt_of_lt_of_le hq hkeeps.nextPacket,
    Multiset.mem_of_le (taken_pending_le n act) hstays, ?_⟩
  exact (hkeeps.field Packet.originalReq (fun _ _ => rfl) hq).trans horig

/-- **EXACTLY ONE RESPONSE.** In every system of new modules, whatever else happens and in whatever
    order: a request that stands in an input channel of a memory whose ports lead to CPUs, behind
    `l` others, has been answered to its CPU exactly once when its port has been ticked more than
    `l.length` times and no `LambdaEvent` of the memory waits. -/
theorem delivered_exactly_once (f : Fabric) (hf : f.Fresh) (acts rest : List Action)
    (a j v : Nat) (l l' : List PacketId) (r : PacketId) (hm : (f.inst a).mod = .memory)
    (hserves : f.ServesCpus a)
    (hin : (Library.run step (start f) acts).fabric.input a j v = l ++ r :: l')
    (hturns : l.length < rest.countP (Action.ticksUp a j))
    (hdone : ∀ e, (a, e) ∉ (Library.run step (start f) (acts ++ rest)).pending) :
    Library.count step (fun n act => n.delivers act == some r) (start f) (acts ++ rest) = 1 := by
  have hstart : (start f).Serving a := ⟨custody_start hf, hm, hserves⟩
  have hmid : (Library.run step (start f) acts).Serving a :=
    Library.run_invariant hstart (fun _ act hn => hn.step act) acts
  refine Nat.le_antisymm (count_delivers_le_one hstart.custody _ r) ?_
  rw [Library.count_append]
  refine Nat.le_add_left_of_le (Library.count_pos_of_turns (I := Serving a) (A := Returning a r)
    (W := InTurn a j v r) (fun _ act hn => hn.step act) (fun n act hn hr hact => ?_)
    (fun k n act hn hw hact => hw.wait hn.custody.typed hact) (fun k n act hn hw hact => ?_) hmid
    ⟨hmid.memory, l, l', hin, Nat.le_refl _⟩ hturns ?_)
  · exact hr.step hn (fun h => by simp [h] at hact)
  · rcases hw.turn hn.custody.typed hact with ⟨u, hu, howes⟩ | hw'
    · have hj := up_step hn.ready act hu
      exact Or.inl ⟨j, _, List.getElem?_eq_getElem hj, (hn.serves j u hu).1 ▸ howes⟩
    · exact Or.inr hw'
  · rintro ⟨i, u, -, q, -, hmem, -⟩
    refine hdone (.respond i q) ?_
    rw [Library.run, List.foldl_append]
    exact hmem

/-- Both requests of the CPU; the second one behind the first. -/
theorem delivered_exactly_once_cpuMem :
    Library.count step (fun n act => n.delivers act == some 1) (start .direct)
      ([.tick 1 0, .tick 2 0] ++ [.tickUp 3 1 0, .fire 4 1 (.respond 0 2), .tickUp 5 1 0,
        .fire 6 1 (.respond 0 3)]) = 1 := by
  have hserves : Fabric.direct.ServesCpus 1 := by
    intro j u hu
    cases j with
    | zero => exact ⟨congrArg UpstreamPort.id (Option.some.inj hu).symm, 0, 0, rfl, by decide, _, rfl⟩
    | succ j => cases hu
  have hdone : (Library.run step (start .direct)
      ([.tick 1 0, .tick 2 0] ++ [.tickUp 3 1 0, .fire 4 1 (.respond 0 2), .tickUp 5 1 0,
        .fire 6 1 (.respond 0 3)])).pending = 0 := by decide
  exact delivered_exactly_once .direct Fabric.direct_fresh [.tick 1 0, .tick 2 0] _ 1 0 0 [0] [] 1
    rfl hserves rfl (by decide) (fun e => by rw [hdone]; exact Multiset.notMem_zero _)

end Network

end Gem5Sc
