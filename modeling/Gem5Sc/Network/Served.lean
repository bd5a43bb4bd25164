/-
  File:      Gem5Sc/Network/Served.lean
  Subject:   A MEMORY ANSWERS IN TURN.

  The channels of an upstream port only grow at their ends until the port is ticked
  (`step_prefix`). A tick takes the head of every channel to the owner, and a memory answers it
  (`tickUpAt_memory`). So a request with `k` others in front of it is answered when the port has
  been ticked `k + 1` times, whatever happens between the ticks (`answered_in_turn`).
-/
import Gem5Sc.Network.Traffic

namespace Gem5Sc

/-- A CPU at a memory. -/
def Fabric.direct : Fabric where
  insts :=
    [{ name := "cpu", mod := .cpu {}, down := [DownstreamPort.create 0 [2] [] "mem"] },
     { name := "mem", mod := .memory, up := [UpstreamPort.create 0 [2] [] "cpu"] }]
  downPair a i := if a = 0 ∧ i = 0 then some (1, 0) else none
  upPair a j := if a = 1 ∧ j = 0 then some (0, 0) else none

theorem Fabric.direct_fresh : Fabric.direct.Fresh where
  insts := by
    have hdown := fun d (hd : d ∈ [DownstreamPort.create 0 [2] [] "mem"]) =>
      List.mem_singleton.mp hd ▸ DownstreamPort.create_channels 0 [2] [] "mem"
    have hup := fun u (hu : u ∈ [UpstreamPort.create 0 [2] [] "cpu"]) =>
      List.mem_singleton.mp hu ▸ UpstreamPort.create_channels 0 [2] [] "cpu"
    intro x hx
    rcases List.mem_cons.mp hx with rfl | hx
    · exact ⟨rfl, fun _ h => absurd h List.not_mem_nil, hdown⟩
    · obtain rfl := List.mem_singleton.mp hx
      exact ⟨trivial, hup, fun _ h => absurd h List.not_mem_nil⟩
  calls := rfl

/-- What stands in input channel `v` of upstream port `j` of module `a`. -/
def Fabric.input (f : Fabric) (a j v : Nat) : List PacketId :=
  match (f.inst a).up[j]? with
  | some u => (u.vc v).buffer
  | none => []

/-! ## 1. What leaves the upstream ports alone -/

/-- What the owner keeps of the caller's state, the tick of an upstream port keeps. -/
theorem UpstreamPort.tick_keeps {ρ : Type} {J : ρ → Prop} {handle : Handler ρ}
    (hhandle : ∀ p id label (w : Heap × ρ), J w.2 → J (handle p id label w).2.2) (u : UpstreamPort)
    (w : Heap × ρ) (hw : J w.2) : J (u.tick handle w).2.2 := by
  refine List.foldlRecOn (motive := fun s : UpstreamPort × (Heap × ρ) => J s.2.2)
    (List.range u.inputVcs.length) (tickVc handle) hw fun s hs i _ => ?_
  unfold tickVc
  split
  · exact hs
  · dsimp only
    split <;> exact hhandle _ _ _ _ hs

/-- No packet changes the number of a port. -/
theorem UpstreamPort.recv_id (u : UpstreamPort) (now : UInt64) (p : PacketId) (h : Heap) :
    (u.recv now p h).2.1.id = u.id := by
  rw [recv, recvReq]
  split
  · dsimp only
    split <;> rfl
  · rfl

theorem UpstreamPort.tick_id {ρ : Type} (handle : Handler ρ) (u : UpstreamPort) (w : Heap × ρ) :
    (u.tick handle w).1.id = u.id := by
  refine List.foldlRecOn (motive := fun s : UpstreamPort × (Heap × ρ) => s.1.id = u.id)
    (List.range u.inputVcs.length) (tickVc handle) rfl fun s hs i _ => ?_
  unfold tickVc
  split
  · exact hs
  · dsimp only
    split <;> exact hs

namespace Fabric

/-- A property that does not look at the upstream ports, or only at what has been in them. -/
structure Quiet (J : Fabric → Prop) : Prop where
  mod : ∀ f a m, J f → J (f.setMod a m)
  down : ∀ f a i d, J f → J (f.setDown a i d)
  schedule : ∀ f a e delay, J f → J (schedule a e delay f)
  note : ∀ f now a n, J f → J { f.record now a with drawn := n }
  log : ∀ f l, J f → J { f with log := l }

/-- And no channel gets shorter, or other packets at its front, and no port another number. -/
structure Inflow (J : Fabric → Prop) : Prop extends Quiet J where
  up : ∀ f b j u u', (f.inst b).up[j]? = some u → u'.id = u.id →
    (∀ v, (u.vc v).buffer <+: (u'.vc v).buffer) → J f → J (f.setUp b j u')

section Keeps

variable {J : Fabric → Prop} {now : UInt64} {a : Nat}

theorem ownerResponse_quiet (hJ : Quiet J) (b : Nat) (p : PacketId) (id : Nat) (label : String)
    (w : Heap × Fabric) (hw : J w.2) : J (ownerResponse b now p id label w).2.2 :=
  hJ.mod _ _ _ (Module.handleDownstreamResponse_keeps (c := inert b now w.2)
    (fun e r hr => hJ.schedule r b e 1 hr) (w.2.inst b).mod p id w hw)

theorem recvRespAt_quiet (hJ : Quiet J) (b i : Nat) (p : PacketId) (w : Heap × Fabric)
    (hw : J w.2) : J (recvRespAt now b i p w).2.2 := by
  unfold recvRespAt
  split
  · exact hw
  · next d _ =>
      exact hJ.down _ _ _ _ (ownerResponse_quiet hJ b p d.id d.label (w.1.setDstCycle p now, w.2) hw)

theorem send_quiet (hJ : Quiet J) (f : Fabric) (j : Nat) (p : PacketId) (w : Heap × Fabric)
    (hw : J w.2) : J (SimplePort.send (f.upPeer now a j) p w).2.2 := by
  unfold SimplePort.send
  split
  · next recv hrecv =>
      obtain ⟨x, -, rfl⟩ := Option.map_eq_some_iff.mp hrecv
      exact recvRespAt_quiet hJ x.1 x.2 p w hw
  · exact hw

/-- The upstream ports of a module do not change. -/
theorem quiet_up (us : List UpstreamPort) : Quiet fun f => (f.inst a).up = us where
  mod f b m hf := (up_setMod f b a m).trans hf
  down f b i d hf := (up_setDown f b a i d).trans hf
  schedule _ _ _ _ hf := hf
  note _ _ _ _ hf := hf
  log _ _ hf := hf

theorem recvReqAt_inflow (hJ : Inflow J) (b j : Nat) (p : PacketId) (w : Heap × Fabric)
    (hw : J w.2) : J (recvReqAt now b j p w).2.2 := by
  unfold recvReqAt
  split
  · exact hw
  · next u hu =>
      refine hJ.up _ _ _ u _ hu (u.recv_id now p w.1) (fun v => ?_) hw
      cases hacc : u.accepts (w.1.packet p).vcId with
      | false =>
          obtain ⟨-, -, hbuf, -⟩ := UpstreamPort.recv_refused now hacc
          exact hbuf v ▸ List.prefix_refl _
      | true =>
          obtain ⟨-, -, hbuf, -⟩ := UpstreamPort.recv_accepted now hacc
          rw [hbuf v]
          split
          · exact List.prefix_append _ _
          · exact List.prefix_refl _

theorem downPeer_inflow (hJ : Inflow J) (f : Fabric) (i : Nat)
    {recv : PacketId → Heap × Fabric → Bool × (Heap × Fabric)}
    (hrecv : f.downPeer now a i = some recv) (p : PacketId) (w : Heap × Fabric) (hw : J w.2) :
    J (recv p w).2.2 := by
  obtain ⟨x, -, rfl⟩ := Option.map_eq_some_iff.mp hrecv
  exact recvReqAt_inflow hJ x.1 x.2 p w hw

theorem sendReqAt_inflow (hJ : Inflow J) (i : Nat) (p : PacketId) (w : Heap × Fabric)
    (hw : J w.2) : J (sendReqAt now a i p w).2.2 := by
  unfold sendReqAt
  split
  · exact hw
  · next d _ =>
      exact hJ.down _ _ _ _ (DownstreamPort.sendReq_keeps
        (fun recv hrecv p x hx => downPeer_inflow hJ w.2 i hrecv p x hx) d p w hw)

theorem sendRespAt_inflow (hJ : Inflow J) (j : Nat) (p : PacketId) (w : Heap × Fabric)
    (hw : J w.2) : J (sendRespAt now a j p w).2.2 := by
  unfold sendRespAt
  split
  · exact hw
  · next u hu =>
      refine hJ.up _ _ _ u _ ?_ rfl (fun v => List.prefix_refl _)
        (send_quiet hJ.toQuiet w.2 j p w hw)
      exact (congrArg (fun us : List UpstreamPort => us[j]?)
        (send_quiet (quiet_up (w.2.inst a).up) w.2 j p w rfl)).trans hu

theorem tickModule_inflow (hJ : Inflow J) (w : Heap × Fabric) (hw : J w.2) :
    J (tickModule now a w).2 :=
  hJ.mod _ _ _ (Module.tick_keeps (fun i p w => sendReqAt_inflow hJ i p w) _ _
    (w.1, { w.2.record now a with drawn := w.2.drawn + 1 }) (hJ.note _ _ _ _ hw))

theorem runLambda_inflow (hJ : Inflow J) (e : Deferred) (w : Heap × Fabric) (hw : J w.2) :
    J (runLambda now a e w).2 :=
  hJ.mod _ _ _ (Module.runDeferred_keeps (c := context a now w.2)
    (fun i p w => sendReqAt_inflow hJ i p w) (fun j p w => sendRespAt_inflow hJ j p w)
    (w.2.inst a).mod e w hw)

theorem tickDownAt_inflow (hJ : Inflow J) (i : Nat) (w : Heap × Fabric) (hw : J w.2) :
    J (tickDownAt now a i w).2 := by
  unfold tickDownAt
  split
  · exact hw
  · next d _ =>
      exact hJ.down _ _ _ _ (DownstreamPort.tick_keeps
        (fun recv hrecv p x hx => downPeer_inflow hJ w.2 i hrecv p x hx) d _ (hJ.log _ _ hw))

/-- What an upstream port offers its owner. -/
theorem offered_quiet (hJ : Quiet J) (j : Nat) (p : PacketId) (id : Nat) (label : String)
    (w : Heap × Fabric) (hw : J w.2) : J (Network.offered now a j p id label w).2.2 := by
  refine hJ.mod _ _ _ ?_
  have hlog : J { w.2 with log := w.2.log ++ [.offer now a j p] } := hJ.log _ _ hw
  rcases Module.handleUpstreamRequest_cases
      (inert a now { w.2 with log := w.2.log ++ [.offer now a j p] })
      (Fabric.inst { w.2 with log := w.2.log ++ [.offer now a j p] } a).mod p id
      (w.1, { w.2 with log := w.2.log ++ [.offer now a j p] }) with
    h | ⟨-, delay, h⟩ | ⟨x, -, -, h⟩
  · exact h ▸ hlog
  · rw [h]
    exact hJ.schedule _ _ _ _ hlog
  · rw [h]
    exact hJ.schedule _ _ _ _ hlog

end Keeps

end Fabric

/-! ## 2. Between two ticks of a port -/

theorem Fabric.input_congr {f f' : Fabric} {a : Nat} (h : (f'.inst a).up = (f.inst a).up)
    (j v : Nat) : f'.input a j v = f.input a j v := by
  rw [input, input, h]

/-- **A channel keeps its front** in every event but the tick of its own port. -/
theorem Fabric.inflow_prefix (l : List PacketId) (a j v : Nat) :
    Inflow fun f => l <+: f.input a j v where
  mod f b m hf := (input_congr (up_setMod f b a m) j v).symm ▸ hf
  down f b i d hf := (input_congr (up_setDown f b a i d) j v).symm ▸ hf
  schedule _ _ _ _ hf := hf
  note _ _ _ _ hf := hf
  log _ _ hf := hf
  up f b k u u' hu _ hgrows hf := by
    by_cases hab : a = b ∧ j = k
    · obtain ⟨rfl, rfl⟩ := hab
      have hnew := up_setUp_self f a j u' hu
      simp only [input, hu, hnew] at hf ⊢
      exact hf.trans (hgrows v)
    · have hsame : ((f.setUp b k u').inst a).up[j]? = (f.inst a).up[j]? := by
        rw [up_setUp]
        by_cases hb : a = b
        · rw [if_pos hb, List.getElem?_set_ne fun hk => hab ⟨hb, hk.symm⟩]
        · rw [if_neg hb]
      simp only [input, hsame] at hf ⊢
      exact hf

namespace Network

variable {a : Nat}

theorem step_prefix {n : Network} {l : List PacketId} {j v : Nat} (act : Action)
    (hl : l <+: n.fabric.input a j v) (hact : ∀ now, act ≠ .tickUp now a j) :
    l <+: (n.step act).fabric.input a j v := by
  have hJ := Fabric.inflow_prefix l a j v
  cases act with
  | tick now b => exact Fabric.tickModule_inflow hJ n.world hl
  | tickDown now b i => exact Fabric.tickDownAt_inflow hJ i n.world hl
  | resetStats b =>
      have hsame : (n.fabric.resetAllStats b).input a j v = n.fabric.input a j v := by
        simp only [Fabric.input, Fabric.resetAllStats, Fabric.inst_setInst]
        by_cases hb : a = b ∧ b < n.fabric.insts.length
        · rw [if_pos hb, hb.1, List.getElem?_map]
          cases (n.fabric.inst b).up[j]? <;> rfl
        · rw [if_neg hb]
      exact hsame ▸ hl
  | fire now b e =>
      rw [step]
      split
      · exact Fabric.runLambda_inflow hJ e n.world hl
      · exact hl
  | tickUp now b k =>
      -- another port: its owner does not touch the upstream ports
      have hother : ∀ (f : Fabric) (u : UpstreamPort), l <+: f.input a j v →
          l <+: (f.setUp b k u).input a j v := by
        intro f u hf
        have hsame : ((f.setUp b k u).inst a).up[j]? = (f.inst a).up[j]? := by
          rw [Fabric.up_setUp]
          by_cases hb : a = b
          · subst hb
            rw [if_pos rfl, List.getElem?_set_ne]
            rintro rfl
            exact hact now rfl
          · rw [if_neg hb]
        simp only [Fabric.input, hsame] at hf ⊢
        exact hf
      show l <+: (Fabric.tickUpAt now b k n.world).2.input a j v
      unfold Fabric.tickUpAt
      split
      · exact hl
      · next u _ =>
          exact hother _ _ (@UpstreamPort.tick_keeps Fabric (fun f => l <+: f.input a j v)
            (offered now b k)
            (fun p id label w hw => Fabric.offered_quiet hJ.toQuiet k p id label w hw) u n.world hl)

/-! ## 3. The tick of a memory's port -/

/-- A response to `r` has been made, and module `a` is about to send it through port `id`. -/
def Owed (a id : Nat) (r : PacketId) (w : Heap × Fabric) : Prop :=
  ∃ q < w.1.nextPacket, (a, Deferred.respond id q) ∈ Fabric.lambdas w.2.calls ∧
    (w.1.packet q).originalReq = some r

theorem Owed.mono {id : Nat} {r : PacketId} {w w' : Heap × Fabric} (ho : Owed a id r w)
    (hk : w.1.Keeps w'.1) (hcalls : w.2.calls <+: w'.2.calls) : Owed a id r w' := by
  obtain ⟨q, hq, hmem, horig⟩ := ho
  exact ⟨q, Nat.lt_of_lt_of_le hq hk.nextPacket, (hcalls.filterMap _).mem hmem,
    (hk.field Packet.originalReq (fun _ _ => rfl) hq).trans horig⟩

/-- **One channel**: the head is answered. -/
theorem tickVc_memory (now : UInt64) (j : Nat) (h : Heap) {i : Nat} {u : UpstreamPort} {g : Fabric}
    {p : PacketId} {rest : List PacketId} (hm : (g.inst a).mod = .memory)
    (hb : (u.vc i).buffer = p :: rest) :
    ∃ h' g', UpstreamPort.tickVc (offered now a j) (u, (h, g)) i =
        (u.setVc i (u.vc i).pop, (h', g')) ∧
      (g'.inst a).mod = .memory ∧ h.Keeps h' ∧ g.calls <+: g'.calls ∧ Owed a u.id p (h', g') := by
  obtain ⟨g₁, hg₁⟩ : ∃ g₁ : Fabric, g₁ = { g with log := g.log ++ [.offer now a j p] } := ⟨_, rfl⟩
  have hm₁ : (g₁.inst a).mod = .memory := hg₁ ▸ hm
  obtain ⟨h₁, hh₁⟩ : ∃ h₁ : Heap, h₁ = h.setResponseOk p := ⟨_, rfl⟩
  have hvalue : UpstreamPort.tickVc (offered now a j) (u, (h, g)) i =
      (u.setVc i (u.vc i).pop, ((h₁.newResp now p (h₁.packet p).vcId).2.delete p,
        (Fabric.schedule a (.respond u.id h₁.nextPacket) 100 g₁).setMod a .memory)) := by
    rw [UpstreamPort.tickVc, hb]
    show (if (offered now a j p u.id u.label (h, g)).1 then _ else _) = _
    have hoff : offered now a j p u.id u.label (h, g) =
        (true, ((h₁.newResp now p (h₁.packet p).vcId).2.delete p,
          (Fabric.schedule a (.respond u.id h₁.nextPacket) 100 g₁).setMod a .memory)) := by
      show Fabric.ownerRequest a now p u.id u.label (h, { g with log := _ }) = _
      rw [← hg₁, Fabric.ownerRequest]
      simp only [hm₁, hh₁]
      rfl
    rw [hoff]
    rfl
  refine ⟨_, _, hvalue, ?_, ?_, ?_, h₁.nextPacket, Nat.lt_succ_self _, ?_, ?_⟩
  · have hsched : ((Fabric.schedule a (.respond u.id h₁.nextPacket) 100 g₁).inst a).mod =
        .memory := hm₁
    rw [Fabric.setMod_self _ _ _ hsched]
    exact hm₁
  · have hok : h.Keeps h₁ := hh₁ ▸ (Heap.Touch.ok p).keeps
    exact (hok.trans (Heap.newResp_keeps h₁ now p _)).trans (Heap.Touch.delete p).keeps
  · exact ⟨[(.lambda a (.respond u.id h₁.nextPacket), 100)], by rw [hg₁]; rfl⟩
  · exact List.mem_filterMap.mpr ⟨_, List.mem_append_right _ (List.mem_singleton_self _), rfl⟩
  · exact congrArg Packet.originalReq (Heap.new_packet_self h₁ _)

/-- **The whole port**: every channel gives its head, and the heads are answered. -/
theorem tickLoop_memory (now : UInt64) (j : Nat) (is : List Nat) (hnd : is.Nodup)
    {u : UpstreamPort} (h : Heap) {g : Fabric} (his : ∀ i ∈ is, i < u.inputVcs.length)
    (hm : (g.inst a).mod = .memory) :
    ∃ u' h' g', is.foldl (UpstreamPort.tickVc (offered now a j)) (u, (h, g)) = (u', (h', g')) ∧
      (∀ v, (u'.vc v).buffer = if v ∈ is then (u.vc v).buffer.tail else (u.vc v).buffer) ∧
      (h.Keeps h' ∧ g.calls <+: g'.calls) ∧
      ∀ v ∈ is, ∀ p, (u.vc v).buffer.head? = some p → Owed a u.id p (h', g') := by
  induction is generalizing u h g with
  | nil =>
      exact ⟨u, h, g, rfl, fun v => (if_neg List.not_mem_nil).symm,
        ⟨.refl h, List.prefix_refl _⟩, fun v hv => absurd hv List.not_mem_nil⟩
  | cons i is ih =>
      obtain ⟨hi, hnd⟩ := List.nodup_cons.mp hnd
      have hrest : ∀ k ∈ is, k < u.inputVcs.length := fun k hk => his k (List.mem_cons_of_mem i hk)
      cases hb : (u.vc i).buffer with
      | nil =>
          obtain ⟨u', h', g', hloop, hbuf, hkeeps, hans⟩ := ih hnd h hrest hm
          have hstep : UpstreamPort.tickVc (offered now a j) (u, (h, g)) i = (u, (h, g)) := by
            rw [UpstreamPort.tickVc, hb]
          refine ⟨u', h', g', by rw [List.foldl_cons, hstep, hloop], fun v => ?_, hkeeps,
            fun v hv p hp => ?_⟩
          · rw [hbuf v]
            by_cases hv : v = i
            · subst hv
              simp [hb]
            · simp [hv]
          · rcases List.mem_cons.mp hv with rfl | hv
            · rw [hb] at hp
              cases hp
            · exact hans v hv p hp
      | cons q rest =>
          obtain ⟨h₁, g₁, hstep, hm₁, hkeeps₁, hcalls₁, hans₁⟩ :=
            tickVc_memory now j h hm hb
          have hlt := his i List.mem_cons_self
          have hlen : ∀ k ∈ is, k < (u.setVc i (u.vc i).pop).inputVcs.length := fun k hk => by
            rw [UpstreamPort.setVc_length]
            exact hrest k hk
          obtain ⟨u', h', g', hloop, hbuf, ⟨hkeeps, hcalls⟩, hans⟩ := ih hnd h₁ hlen hm₁
          have hother : ∀ v ≠ i, (u.setVc i (u.vc i).pop).vc v = u.vc v :=
            fun v hv => UpstreamPort.setVc_vc_ne u (Ne.symm hv) _
          refine ⟨u', h', g', by rw [List.foldl_cons, hstep, hloop], fun v => ?_,
            ⟨hkeeps₁.trans hkeeps, hcalls₁.trans hcalls⟩, fun v hv p hp => ?_⟩
          · rw [hbuf v]
            by_cases hv : v = i
            · subst hv
              rw [if_neg hi, if_pos List.mem_cons_self, UpstreamPort.setVc_vc_self hlt,
                InputVC.pop_buffer]
            · rw [hother v hv]
              simp [hv]
          · by_cases hvi : v = i
            · subst hvi
              rw [hb] at hp
              exact Option.some.inj hp ▸ hans₁.mono hkeeps hcalls
            · refine hans v ((List.mem_cons.mp hv).resolve_left hvi) p ?_
              rw [hother v hvi]
              exact hp

/-- A response to `r` waits to be sent through port `id` of module `a`. -/
def Owes (n : Network) (a id : Nat) (r : PacketId) : Prop :=
  ∃ q < n.heap.nextPacket, (a, Deferred.respond id q) ∈ n.pending ∧
    (n.heap.packet q).originalReq = some r

theorem Owes.answered {n : Network} {id : Nat} {r : PacketId} (ho : n.Owes a id r) :
    n.heap.Answered r := by
  obtain ⟨q, hq, -, horig⟩ := ho
  exact ⟨q, hq, horig⟩

/-- While a port is ticked, the owner leaves its ports alone. -/
theorem tick_offered_up (n : Network) (now : UInt64) (a j : Nat) (u : UpstreamPort) :
    ((u.tick (offered now a j) n.world).2.2.inst a).up = (n.fabric.inst a).up :=
  @UpstreamPort.tick_keeps Fabric (fun f => (f.inst a).up = (n.fabric.inst a).up)
    (offered now a j) (fun p id label w hw =>
      Fabric.offered_quiet (Fabric.quiet_up _) j p id label w hw) u n.world rfl

/-- **A tick of a memory's port.** -/
theorem tickUpAt_memory {n : Network} (now : UInt64) (j v : Nat)
    (hm : (n.fabric.inst a).mod = .memory) :
    (n.step (.tickUp now a j)).fabric.input a j v = (n.fabric.input a j v).tail ∧
      ∀ p, (n.fabric.input a j v).head? = some p →
        ∃ u, (n.fabric.inst a).up[j]? = some u ∧ (n.step (.tickUp now a j)).Owes a u.id p := by
  show (Fabric.tickUpAt now a j n.world).2.input a j v = _ ∧
    ∀ p, _ → ∃ u : UpstreamPort, _ ∧
      (n.put (Fabric.tickUpAt now a j n.world)).settle.Owes a u.id p
  unfold Fabric.tickUpAt
  split
  · next hnone =>
      have hempty : n.fabric.input a j v = [] := by
        unfold Fabric.input
        rw [show (n.fabric.inst a).up[j]? = none from hnone]
      rw [show n.world.2.input a j v = [] from hempty, hempty]
      exact ⟨rfl, fun p hp => by cases hp⟩
  · next u hu =>
      have hu : (n.fabric.inst a).up[j]? = some u := hu
      obtain ⟨u', h', g', hloop, hbuf, -, hans⟩ := tickLoop_memory now j
        (List.range u.inputVcs.length) List.nodup_range (u := u) n.heap
        (fun i hi => List.mem_range.mp hi) hm
      have htick : u.tick (offered now a j) n.world = (u', (h', g')) := hloop
      have hup : (g'.inst a).up = (n.fabric.inst a).up := by
        rw [← tick_offered_up n now a j u, htick]
      show ((u.tick (offered now a j) n.world).2.2.setUp a j
        (u.tick (offered now a j) n.world).1).input a j v = _ ∧
        ∀ p, _ → ∃ u₁ : UpstreamPort, _ ∧ (n.put ((u.tick (offered now a j) n.world).2.1,
          (u.tick (offered now a j) n.world).2.2.setUp a j
            (u.tick (offered now a j) n.world).1)).settle.Owes a u₁.id p
      rw [htick]
      have hu' : (g'.inst a).up[j]? = some u := by rw [hup]; exact hu
      have hin : n.fabric.input a j v = (u.vc v).buffer := by rw [Fabric.input, hu]
      have hin' : (g'.setUp a j u').input a j v = (u'.vc v).buffer := by
        rw [Fabric.input, Fabric.up_setUp_self _ _ _ _ hu']
      rw [hin, hin', hbuf v]
      by_cases hv : v ∈ List.range u.inputVcs.length
      · refine ⟨if_pos hv, fun p hp => ⟨u, hu, ?_⟩⟩
        obtain ⟨q, hq, hmem, horig⟩ := hans v hv p hp
        exact ⟨q, hq, Multiset.mem_add.mpr (Or.inr hmem), horig⟩
      · -- a channel the port does not have is empty
        have hnone : (u.vc v).buffer = [] := by
          rw [UpstreamPort.vc_of_length_le (Nat.le_of_not_lt fun h => hv (List.mem_range.mpr h))]
          rfl
        rw [hnone]
        exact ⟨by simp, fun p hp => by cases hp⟩

end Network

/-! ## 4. Every run -/

/-- A property of modules that no tick, request or response of theirs takes away. -/
structure Module.Lasting (J : Module → Prop) : Prop where
  cpu : ∀ m m', J (.cpu m) → J (.cpu m')
  cache : ∀ m m', J (.cache m) → J (.cache m')
  trafficGen : ∀ m m', J (.trafficGen m) → J (.trafficGen m')

theorem Module.lasting_memory : Lasting fun m => m = .memory where
  cpu _ _ h := by cases h
  cache _ _ h := by cases h
  trafficGen _ _ h := by cases h

theorem Module.lasting_cpu : Lasting fun m => ∃ x, m = .cpu x where
  cpu _ m' _ := ⟨m', rfl⟩
  cache _ _ h := by obtain ⟨x, h⟩ := h; cases h
  trafficGen _ _ h := by obtain ⟨x, h⟩ := h; cases h

section Lasting

variable {J : Module → Prop}

/-- A write of another module of the same kind. -/
theorem Fabric.lasting_setMod {f : Fabric} {a b : Nat} {x y : Module} (hb : (f.inst b).mod = x)
    (hxy : J x → J y) (hm : J (f.inst a).mod) : J ((f.setMod b y).inst a).mod := by
  rw [mod_setMod]
  split
  · next h =>
      obtain ⟨rfl, -⟩ := h
      exact hxy (hb ▸ hm)
  · exact hm

variable (hJ : Module.Lasting J)

include hJ

/-- **What a module is, it stays.** -/
theorem SmallStep.lasting {c c' : Config} (hs : SmallStep c c') {a : Nat}
    (hm : J (c.net.fabric.inst a).mod) : J (c'.net.fabric.inst a).mod := by
  cases hs with
  | work hw =>
      cases hw with
      | turn ht =>
          cases ht with
          | carry hc => exact ((Carries.carried (.single hc)).mod a).symm ▸ hm
          | note hf hcalls hpairs => exact (Fabric.contents_mod hf a).symm ▸ hm
          | issue t pkt b hreq horig hvc => exact hm
          | forward hb _ => exact Fabric.lasting_setMod hb (hJ.cache _ _) hm
          | track hb _ _ _ => exact Fabric.lasting_setMod hb (hJ.cpu _ _) hm
          | generator hb => exact Fabric.lasting_setMod hb (hJ.trafficGen _ _) hm
      | keep hb _ => exact Fabric.lasting_setMod hb (hJ.cache _ _) hm
      | untrack hb _ => exact Fabric.lasting_setMod hb (hJ.cpu _ _) hm
      | _ => exact hm
  | _ => exact hm

theorem SmallSteps.lasting {c c' : Config} (hs : SmallSteps c c') {a : Nat}
    (hm : J (c.net.fabric.inst a).mod) : J (c'.net.fabric.inst a).mod := by
  induction hs with
  | refl => exact hm
  | tail _ h ih => exact h.lasting hJ ih

end Lasting

namespace Network

/-- A tick of this upstream port. -/
def Action.ticksUp (a j : Nat) : Action → Bool
  | .tickUp _ b k => b = a ∧ k = j
  | _ => false

theorem Action.ticksUp_eq {a j : Nat} {act : Action} (h : act.ticksUp a j = true) :
    ∃ now, act = .tickUp now a j := by
  unfold ticksUp at h
  split at h
  · next now b k =>
      obtain ⟨rfl, rfl⟩ := of_decide_eq_true h
      exact ⟨now, rfl⟩
  · cases h

theorem Action.ne_tickUp {a j : Nat} {act : Action} (h : act.ticksUp a j = false) (now : UInt64) :
    act ≠ .tickUp now a j := by
  rintro rfl
  simp [ticksUp] at h

/-- The request has at most `k` others in front of it at a memory. -/
def InTurn (a j v : Nat) (r : PacketId) (k : Nat) (n : Network) : Prop :=
  (n.fabric.inst a).mod = .memory ∧ ∃ l l', n.fabric.input a j v = l ++ r :: l' ∧ l.length ≤ k

theorem InTurn.wait {a j v k : Nat} {r : PacketId} {n : Network} {act : Action}
    (hw : InTurn a j v r k n) (hn : n.Typed) (hact : act.ticksUp a j = false) :
    InTurn a j v r k (n.step act) := by
  obtain ⟨hm, l, l', hin, hk⟩ := hw
  have hfront : l ++ [r] <+: n.fabric.input a j v := ⟨l', by rw [hin]; simp⟩
  obtain ⟨t, ht⟩ := step_prefix act hfront (Action.ne_tickUp hact)
  exact ⟨(step_smallSteps hn.ready act).lasting Module.lasting_memory hm, l, t,
    by rw [← ht]; simp, hk⟩

/-- **A turn**: the request is answered, or has one less in front of it. -/
theorem InTurn.turn {a j v k : Nat} {r : PacketId} {n : Network} {act : Action}
    (hw : InTurn a j v r k n) (hn : n.Typed) (hact : act.ticksUp a j = true) :
    (∃ u, (n.fabric.inst a).up[j]? = some u ∧ (n.step act).Owes a u.id r) ∨
      ∃ k', k = k' + 1 ∧ InTurn a j v r k' (n.step act) := by
  obtain ⟨now, rfl⟩ := Action.ticksUp_eq hact
  obtain ⟨hm, l, l', hin, hk⟩ := hw
  obtain ⟨htail, hhead⟩ := tickUpAt_memory now j v hm
  rw [hin] at htail hhead
  cases l with
  | nil => exact Or.inl (hhead r rfl)
  | cons p l =>
      obtain ⟨k', rfl⟩ : ∃ k', k = k' + 1 := Nat.exists_eq_add_one_of_ne_zero
        (Nat.ne_of_gt (Nat.lt_of_lt_of_le (Nat.zero_lt_succ _) hk))
      exact Or.inr ⟨k', rfl, (step_smallSteps hn.ready _).lasting Module.lasting_memory hm, l, l',
        htail, Nat.le_of_succ_le_succ hk⟩

/-- **A MEMORY ANSWERS IN TURN.** In every system of new modules, whenever a request stands in an
    input channel of a memory behind `l` others: as soon as its port has been ticked more than
    `l.length` times, a response to it has been made, whatever else has happened in between and in
    whatever order. -/
theorem answered_in_turn (f : Fabric) (hf : f.Fresh) (acts rest : List Action) (a j v : Nat)
    (l l' : List PacketId) (r : PacketId)
    (hm : ((Library.run step (start f) acts).fabric.inst a).mod = .memory)
    (hin : (Library.run step (start f) acts).fabric.input a j v = l ++ r :: l')
    (hturns : l.length < rest.countP (Action.ticksUp a j)) :
    (Library.run step (start f) (acts ++ rest)).heap.Answered r := by
  have ht : (Library.run step (start f) acts).Typed :=
    Library.run_invariant (typed_start hf) (fun _ act ht => ht.step act) acts
  rw [Library.run, List.foldl_append]
  refine Library.reached_of_turns (I := Typed) (G := fun n => n.heap.Answered r)
    (W := InTurn a j v r) (fun n act hn => hn.step act)
    (fun n act hn hans => hans.mono (step_smallSteps hn.ready act).keeps)
    (fun k n act hn hw hact => hw.wait hn hact) (fun k n act hn hw hact => ?_) ht
    ⟨hm, l, l', hin, Nat.le_refl _⟩ hturns
  rcases hw.turn hn hact with ⟨u, -, howes⟩ | hw'
  · exact Or.inl howes.answered
  · exact Or.inr hw'

/-- A CPU at a memory: its second request, with the first in front of it. -/
theorem answered_in_turn_cpuMem : (Library.run step (start .direct)
    ([.tick 1 0, .tick 2 0] ++ [.tickUp 3 1 0, .resetStats 1, .tickUp 4 1 0])).heap.Answered 1 :=
  answered_in_turn .direct Fabric.direct_fresh [.tick 1 0, .tick 2 0] _ 1 0 0 [0] [] 1 rfl rfl
    (by decide)

end Network

end Gem5Sc
