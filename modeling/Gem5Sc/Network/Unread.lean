/-
  File:      Gem5Sc/Network/Unread.lean
  Subject:   THE TRAFFIC DEPENDS ON THE ORDER OF THE EVENTS ALONE: not on the cycles in which they
             happen, not on the statistics, and not on when these are reset.

  `Network.bare` leaves out what is only written: the cycles of the packets, the statistics and
  delays of the ports, the counters of the channels, and what is noted for the reader. Each event
  does the same to networks that are the same without these (`step_of_bare`), whatever the cycle,
  and a reset does nothing to them (`bare_resetAllStats`). So two runs that differ in the cycles and
  the resets only have the same traffic (`traffic_of_order`).
-/
import Gem5Sc.Network.Bare

namespace Gem5Sc

/-! ## 1. Bare systems -/

/-- The module with bare ports. -/
def Instance.bare (x : Instance) : Instance :=
  { x with up := x.up.map UpstreamPort.bare, down := x.down.map DownstreamPort.bare }

namespace Fabric

/-- The system with bare ports, and without the notes. -/
def bare (f : Fabric) : Fabric :=
  { f with insts := f.insts.map Instance.bare, log := [], ticked := [] }

variable {f f' : Fabric}

theorem inst_bare (f : Fabric) (a : Nat) : f.bare.inst a = (f.inst a).bare := by
  simp only [inst, bare, List.getD_eq_getElem?_getD, List.getElem?_map]
  cases f.insts[a]? <;> rfl

theorem inst_of_bare (hf : f'.bare = f.bare) (a : Nat) : (f'.inst a).bare = (f.inst a).bare := by
  rw [← inst_bare, hf, inst_bare]

theorem mod_of_bare (hf : f'.bare = f.bare) (a : Nat) : (f'.inst a).mod = (f.inst a).mod := by
  show (f'.inst a).bare.mod = (f.inst a).bare.mod
  rw [inst_of_bare hf]

theorem up_of_bare (hf : f'.bare = f.bare) (a : Nat) :
    (f'.inst a).up.map UpstreamPort.bare = (f.inst a).up.map UpstreamPort.bare :=
  congrArg Instance.up (inst_of_bare hf a)

theorem up_length_of_bare (hf : f'.bare = f.bare) (a : Nat) :
    (f'.inst a).up.length = (f.inst a).up.length := by
  simpa using congrArg List.length (up_of_bare hf a)

theorem down_of_bare (hf : f'.bare = f.bare) (a : Nat) :
    (f'.inst a).down.map DownstreamPort.bare = (f.inst a).down.map DownstreamPort.bare :=
  congrArg Instance.down (inst_of_bare hf a)

theorem down_length_of_bare (hf : f'.bare = f.bare) (a : Nat) :
    (f'.inst a).down.length = (f.inst a).down.length := by
  simpa using congrArg List.length (down_of_bare hf a)

theorem setInst_of_bare (hf : f'.bare = f.bare) (a : Nat) {x x' : Instance}
    (hx : x'.bare = x.bare) : (f'.setInst a x').bare = (f.setInst a x).bare := by
  have hcomm : ∀ (f : Fabric) (x : Instance),
      (f.setInst a x).bare = { f.bare with insts := f.bare.insts.set a x.bare } := fun f x =>
    congrArg (fun l => { f.bare with insts := l }) List.map_set
  rw [hcomm, hcomm, hf, hx]

theorem setMod_of_bare (hf : f'.bare = f.bare) (a : Nat) {m m' : Module} (hm : m' = m) :
    (f'.setMod a m').bare = (f.setMod a m).bare := by
  refine setInst_of_bare hf a ?_
  show { (f'.inst a).bare with mod := m' } = { (f.inst a).bare with mod := m }
  rw [inst_of_bare hf, hm]

theorem setUp_of_bare (hf : f'.bare = f.bare) (a j : Nat) {u u' : UpstreamPort}
    (hu : u'.bare = u.bare) : (f'.setUp a j u').bare = (f.setUp a j u).bare := by
  refine setInst_of_bare hf a ?_
  have hup : ((f'.inst a).up.set j u').map UpstreamPort.bare =
      ((f.inst a).up.set j u).map UpstreamPort.bare := by
    rw [List.map_set, List.map_set, up_of_bare hf, hu]
  show { (f'.inst a).bare with up := ((f'.inst a).up.set j u').map UpstreamPort.bare } =
    { (f.inst a).bare with up := ((f.inst a).up.set j u).map UpstreamPort.bare }
  rw [inst_of_bare hf, hup]

theorem setDown_of_bare (hf : f'.bare = f.bare) (a i : Nat) {d d' : DownstreamPort}
    (hd : d'.bare = d.bare) : (f'.setDown a i d').bare = (f.setDown a i d).bare := by
  refine setInst_of_bare hf a ?_
  have hdown : ((f'.inst a).down.set i d').map DownstreamPort.bare =
      ((f.inst a).down.set i d).map DownstreamPort.bare := by
    rw [List.map_set, List.map_set, down_of_bare hf, hd]
  show { (f'.inst a).bare with down := ((f'.inst a).down.set i d').map DownstreamPort.bare } =
    { (f.inst a).bare with down := ((f.inst a).down.set i d).map DownstreamPort.bare }
  rw [inst_of_bare hf, hdown]

theorem calls_of_bare (hf : f'.bare = f.bare) : f'.calls = f.calls :=  by
  show f'.bare.calls = f.bare.calls
  rw [hf]

theorem schedule_of_bare (hf : f'.bare = f.bare) (a : Nat) (e : Deferred) (delay : UInt64) :
    (schedule a e delay f').bare = (schedule a e delay f).bare := by
  show schedule a e delay f'.bare = schedule a e delay f.bare
  rw [hf]

theorem downPair_of_bare (hf : f'.bare = f.bare) : f'.downPair = f.downPair := by
  show f'.bare.downPair = f.bare.downPair
  rw [hf]

theorem upPair_of_bare (hf : f'.bare = f.bare) : f'.upPair = f.upPair := by
  show f'.bare.upPair = f.bare.upPair
  rw [hf]

/-- A port that is there is there in the other system, and the same. -/
theorem getElem?_up_of_bare (hf : f'.bare = f.bare) (a j : Nat) :
    ((f'.inst a).up[j]? = none ∧ (f.inst a).up[j]? = none) ∨
      ∃ u u', (f'.inst a).up[j]? = some u' ∧ (f.inst a).up[j]? = some u ∧ u'.bare = u.bare := by
  have h := congrArg (fun us => us[j]?) (up_of_bare hf a)
  simp only [List.getElem?_map] at h
  cases hu : (f.inst a).up[j]? with
  | none =>
      rw [hu, Option.map_none, Option.map_eq_none_iff] at h
      exact Or.inl ⟨h, rfl⟩
  | some u =>
      rw [hu, Option.map_some, Option.map_eq_some_iff] at h
      obtain ⟨u', hu', hbare⟩ := h
      exact Or.inr ⟨u, u', hu', rfl, hbare⟩

theorem getElem?_down_of_bare (hf : f'.bare = f.bare) (a i : Nat) :
    ((f'.inst a).down[i]? = none ∧ (f.inst a).down[i]? = none) ∨
      ∃ d d', (f'.inst a).down[i]? = some d' ∧ (f.inst a).down[i]? = some d ∧
        d'.bare = d.bare := by
  have h := congrArg (fun ds => ds[i]?) (down_of_bare hf a)
  simp only [List.getElem?_map] at h
  cases hd : (f.inst a).down[i]? with
  | none =>
      rw [hd, Option.map_none, Option.map_eq_none_iff] at h
      exact Or.inl ⟨h, rfl⟩
  | some d =>
      rw [hd, Option.map_some, Option.map_eq_some_iff] at h
      obtain ⟨d', hd', hbare⟩ := h
      exact Or.inr ⟨d, d', hd', rfl, hbare⟩

/-! ## 2. Ports in a system -/

section Events

variable {w w' : Heap × Fabric} (now now' : UInt64)

theorem recvReqAt_of_bare (hw : SameWorld bare w w') (b j : Nat) (p : PacketId) :
    SameAnswer bare (recvReqAt now b j p w) (recvReqAt now' b j p w') := by
  unfold recvReqAt
  rcases getElem?_up_of_bare hw.rest b j with ⟨hu', hu⟩ | ⟨u, u', hu', hu, hbare⟩
  · rw [hu', hu]
    exact ⟨rfl, hw⟩
  · obtain ⟨hans, hport, hheap⟩ := UpstreamPort.recv_of_bare hbare hw.heap now now' p
    rw [hu', hu]
    exact ⟨hans, hheap, setUp_of_bare hw.rest b j hport⟩

/-- A handler sees ports that do nothing. -/
theorem inert_of_bare {f f' : Fabric} (hf : f'.bare = f.bare) (a : Nat) :
    SameContext bare (inert a now f) (inert a now' f') where
  upstream := up_length_of_bare hf a
  downstream := down_length_of_bare hf a
  sendReq _ _ _ _ hw := ⟨rfl, hw⟩
  sendResp _ _ _ _ hw := ⟨rfl, hw⟩
  schedule e t _ _ hr := schedule_of_bare hr a e t

theorem ownerRequest_of_bare (a : Nat) :
    SameHandler bare (ownerRequest a now) (ownerRequest a now') := by
  intro p id label w w' hw
  have h := Module.handleUpstreamRequest_of_bare (inert_of_bare now now' hw.rest a) hw
    (w.2.inst a).mod p id
  unfold ownerRequest
  rw [mod_of_bare hw.rest]
  exact ⟨h.answer, h.effect.world.heap, setMod_of_bare h.effect.world.rest a h.effect.object⟩

theorem ownerResponse_of_bare (a : Nat) :
    SameHandler bare (ownerResponse a now) (ownerResponse a now') := by
  intro p id label w w' hw
  have h := Module.handleDownstreamResponse_of_bare (inert_of_bare now now' hw.rest a) hw
    (w.2.inst a).mod p id
  unfold ownerResponse
  rw [mod_of_bare hw.rest]
  exact ⟨h.answer, h.effect.world.heap, setMod_of_bare h.effect.world.rest a h.effect.object⟩

theorem recvRespAt_of_bare (hw : SameWorld bare w w') (b i : Nat) (p : PacketId) :
    SameAnswer bare (recvRespAt now b i p w) (recvRespAt now' b i p w') := by
  unfold recvRespAt
  rcases getElem?_down_of_bare hw.rest b i with ⟨hd', hd⟩ | ⟨d, d', hd', hd, hbare⟩
  · rw [hd', hd]
    exact ⟨rfl, hw⟩
  · have hstamp : SameWorld bare (w.1.setDstCycle p now, w.2) (w'.1.setDstCycle p now', w'.2) :=
      ⟨Heap.setDstCycle_of_bare hw.heap p now now', hw.rest⟩
    have hans : SameAnswer bare (ownerResponse b now p d.id d.label (w.1.setDstCycle p now, w.2))
        (ownerResponse b now' p d'.id d'.label (w'.1.setDstCycle p now', w'.2)) := by
      rw [DownstreamPort.id_of_bare hbare, DownstreamPort.label_of_bare hbare]
      exact ownerResponse_of_bare now now' b p d.id d.label _ _ hstamp
    rw [hd', hd]
    exact ⟨hans.answer, hans.world.heap, setDown_of_bare hans.world.rest b i hbare⟩

theorem downPeer_of_bare {f f' : Fabric} (hf : f'.bare = f.bare) (a i : Nat) :
    SamePeer bare (f.downPeer now a i) (f'.downPeer now' a i) := by
  intro p w w' hw
  rw [downPeer, downPeer, downPair_of_bare hf]
  cases f.downPair a i with
  | none => exact ⟨rfl, hw⟩
  | some x => exact recvReqAt_of_bare now now' hw x.1 x.2 p

theorem upPeer_of_bare {f f' : Fabric} (hf : f'.bare = f.bare) (a j : Nat) :
    SamePeer bare (f.upPeer now a j) (f'.upPeer now' a j) := by
  intro p w w' hw
  rw [upPeer, upPeer, upPair_of_bare hf]
  cases f.upPair a j with
  | none => exact ⟨rfl, hw⟩
  | some x => exact recvRespAt_of_bare now now' hw x.1 x.2 p

theorem sendReqAt_of_bare (hw : SameWorld bare w w') (a i : Nat) (p : PacketId) :
    SameAnswer bare (sendReqAt now a i p w) (sendReqAt now' a i p w') := by
  unfold sendReqAt
  rcases getElem?_down_of_bare hw.rest a i with ⟨hd', hd⟩ | ⟨d, d', hd', hd, hbare⟩
  · rw [hd', hd]
    exact ⟨rfl, hw⟩
  · have hres := DownstreamPort.sendReq_of_bare (downPeer_of_bare now now' hw.rest a i) hbare hw p
    rw [hd', hd]
    exact ⟨hres.answer, hres.effect.world.heap,
      setDown_of_bare hres.effect.world.rest a i hres.effect.object⟩

theorem sendRespAt_of_bare (hw : SameWorld bare w w') (a j : Nat) (p : PacketId) :
    SameAnswer bare (sendRespAt now a j p w) (sendRespAt now' a j p w') := by
  unfold sendRespAt
  rcases getElem?_up_of_bare hw.rest a j with ⟨hu', hu⟩ | ⟨u, u', hu', hu, hbare⟩
  · rw [hu', hu]
    exact ⟨rfl, hw⟩
  · have hans := upPeer_of_bare now now' hw.rest a j p w w' hw
    rw [hu', hu]
    exact ⟨hans.answer, hans.world.heap, setUp_of_bare hans.world.rest a j hbare⟩

theorem context_of_bare {f f' : Fabric} (hf : f'.bare = f.bare) (a : Nat) :
    SameContext bare (context a now f) (context a now' f') where
  upstream := up_length_of_bare hf a
  downstream := down_length_of_bare hf a
  sendReq i p _ _ hw := sendReqAt_of_bare now now' hw a i p
  sendResp j p _ _ hw := sendRespAt_of_bare now now' hw a j p
  schedule e t _ _ hr := schedule_of_bare hr a e t

/-! ## 3. Events -/

theorem tickUpAt_of_bare (hw : SameWorld bare w w') (a j : Nat) :
    SameWorld bare (tickUpAt now a j w) (tickUpAt now' a j w') := by
  unfold tickUpAt
  rcases getElem?_up_of_bare hw.rest a j with ⟨hu', hu⟩ | ⟨u, u', hu', hu, hbare⟩
  · rw [hu', hu]
    exact hw
  · have hhandle : SameHandler bare
        (fun p id label w => ownerRequest a now p id label
          (w.1, { w.2 with log := w.2.log ++ [.offer now a j p] }))
        (fun p id label w => ownerRequest a now' p id label
          (w.1, { w.2 with log := w.2.log ++ [.offer now' a j p] })) :=
      fun p id label _ _ hw => ownerRequest_of_bare now now' a p id label _ _ ⟨hw.heap, hw.rest⟩
    have heff := UpstreamPort.tick_of_bare hhandle hbare hw
    rw [hu', hu]
    exact ⟨heff.world.heap, setUp_of_bare heff.world.rest a j heff.object⟩

theorem tickDownAt_of_bare (hw : SameWorld bare w w') (a i : Nat) :
    SameWorld bare (tickDownAt now a i w) (tickDownAt now' a i w') := by
  unfold tickDownAt
  rcases getElem?_down_of_bare hw.rest a i with ⟨hd', hd⟩ | ⟨d, d', hd', hd, hbare⟩
  · rw [hd', hd]
    exact hw
  · have hnoted : SameWorld bare
        (w.1, { w.2 with log := w.2.log ++ d.heads.map (.attempt now a i) })
        (w'.1, { w'.2 with log := w'.2.log ++ d'.heads.map (.attempt now' a i) }) :=
      ⟨hw.heap, hw.rest⟩
    have heff := DownstreamPort.tick_of_bare (downPeer_of_bare now now' hw.rest a i) hbare hnoted
    rw [hd', hd]
    exact ⟨heff.world.heap, setDown_of_bare heff.world.rest a i heff.object⟩

theorem tickModule_of_bare (hw : SameWorld bare w w') (a : Nat) :
    SameWorld bare (tickModule now a w) (tickModule now' a w') := by
  have hnoted : SameWorld bare (w.1, { w.2.record now a with drawn := w.2.drawn + 1 })
      (w'.1, { w'.2.record now' a with drawn := w'.2.drawn + 1 }) :=
    ⟨hw.heap, congrArg (fun f : Fabric => { f with drawn := f.drawn + 1 }) hw.rest⟩
  have heff := Module.tick_of_bare (context_of_bare now now' hnoted.rest a) hnoted
    (w.2.draw w.2.drawn) (w.2.inst a).mod
  have hdraw : (w'.2.record now' a).draw w'.2.drawn = w.2.draw w.2.drawn := by
    show w'.2.bare.draw w'.2.bare.drawn = w.2.bare.draw w.2.bare.drawn
    rw [hw.rest]
  have hmod : ({ w'.2.record now' a with drawn := w'.2.drawn + 1 }.inst a).mod =
    (w.2.inst a).mod := mod_of_bare hw.rest a
  unfold tickModule
  dsimp only
  rw [hmod, hdraw]
  exact ⟨heff.world.heap, setMod_of_bare heff.world.rest a heff.object⟩

theorem runLambda_of_bare (hw : SameWorld bare w w') (a : Nat) (e : Deferred) :
    SameWorld bare (runLambda now a e w) (runLambda now' a e w') := by
  have heff := Module.runDeferred_of_bare (context_of_bare now now' hw.rest a) hw
    (w.2.inst a).mod e
  unfold runLambda
  rw [mod_of_bare hw.rest]
  exact ⟨heff.world.heap, setMod_of_bare heff.world.rest a heff.object⟩

/-- A reset of the statistics. -/
theorem bare_resetAllStats (f : Fabric) (a : Nat) : (f.resetAllStats a).bare = f.bare := by
  have hinst : ({ f.inst a with
      up := (f.inst a).up.map fun p => { p with stats := p.stats.reset }
      down := (f.inst a).down.map fun p => { p with stats := p.stats.reset } } : Instance).bare =
      (f.inst a).bare := by
    simp only [Instance.bare, List.map_map]
    rfl
  calc (f.resetAllStats a).bare = (f.setInst a (f.inst a)).bare := setInst_of_bare rfl a hinst
    _ = f.bare := by rw [setInst_self]

end Events

end Fabric

/-! ## 4. Runs -/

namespace Network

/-- The network without what is only written. -/
def bare (n : Network) : Network := { n with heap := n.heap.bare, fabric := n.fabric.bare }

/-- What an action looks like without a clock. A reset of the statistics is not seen. -/
def Action.untimed : Action → Option Action
  | .tick _ a => some (.tick 0 a)
  | .tickUp _ a j => some (.tickUp 0 a j)
  | .tickDown _ a i => some (.tickDown 0 a i)
  | .fire _ a e => some (.fire 0 a e)
  | .resetStats _ => none

variable {n n' : Network}

theorem world_of_bare (hn : n'.bare = n.bare) : SameWorld Fabric.bare n.world n'.world :=
  ⟨congrArg Network.heap hn, congrArg Network.fabric hn⟩

theorem pending_of_bare (hn : n'.bare = n.bare) : n'.pending = n.pending := by
  show n'.bare.pending = n.bare.pending
  rw [hn]

/-- An event that does the same adds the same events. -/
theorem settle_of_bare {w w' : Heap × Fabric} (hw : SameWorld Fabric.bare w w')
    {s s' : Multiset (Nat × Deferred)} (hs : s' = s) :
    (({ n' with pending := s' }.put w').settle).bare =
      (({ n with pending := s }.put w).settle).bare := by
  have hcalls : w'.2.calls = w.2.calls := Fabric.calls_of_bare hw.rest
  have hfabric :
      ({ w'.2 with calls := [] } : Fabric).bare = ({ w.2 with calls := [] } : Fabric).bare :=
    congrArg (fun f : Fabric => { f with calls := [] }) hw.rest
  subst hs
  show Network.mk w'.1.bare ({ w'.2 with calls := [] } : Fabric).bare
      (s' + (Fabric.lambdas w'.2.calls : Multiset (Nat × Deferred))) =
    Network.mk w.1.bare ({ w.2 with calls := [] } : Fabric).bare
      (s' + (Fabric.lambdas w.2.calls : Multiset (Nat × Deferred)))
  rw [hw.heap, hfabric, hcalls]

/-- **An event does the same in every cycle**, to networks that are the same but for what is only
    written. -/
theorem step_of_bare (hn : n'.bare = n.bare) {act act' : Action} {x : Action}
    (hact : act.untimed = some x) (hact' : act'.untimed = some x) :
    (n'.step act').bare = (n.step act).bare := by
  have hw := world_of_bare hn
  have hpending := pending_of_bare hn
  cases act with
  | resetStats a => cases hact
  | tick now a =>
      cases hact
      cases act' with
      | tick now' a' =>
          cases hact'
          exact settle_of_bare (Fabric.tickModule_of_bare now now' hw a) hpending
      | _ => cases hact'
  | tickUp now a j =>
      cases hact
      cases act' with
      | tickUp now' a' j' =>
          cases hact'
          exact settle_of_bare (Fabric.tickUpAt_of_bare now now' hw a j) hpending
      | _ => cases hact'
  | tickDown now a i =>
      cases hact
      cases act' with
      | tickDown now' a' i' =>
          cases hact'
          exact settle_of_bare (Fabric.tickDownAt_of_bare now now' hw a i) hpending
      | _ => cases hact'
  | fire now a e =>
      cases hact
      cases act' with
      | fire now' a' e' =>
          cases hact'
          have hrun := Fabric.runLambda_of_bare now now' hw a e
          rw [step, step, hpending]
          split
          · exact settle_of_bare hrun rfl
          · exact hn
      | _ => cases hact'

/-- **THE TRAFFIC IS A FUNCTION OF THE ORDER OF THE EVENTS.** Two runs of the same system in which
    the same events happen in the same order -- in whatever cycles, with whatever resets of the
    statistics in between, and from states that may differ in the statistics, the counters, the
    delays and the cycles of the packets -- end with the same packets in the same places, the same
    state of every module and the same events that wait. -/
theorem traffic_of_order (hn : n'.bare = n.bare) (acts acts' : List Action)
    (hacts : acts'.filterMap Action.untimed = acts.filterMap Action.untimed) :
    (Library.run step n' acts').bare = (Library.run step n acts).bare := by
  refine Library.view_run (fun n act hact => ?_) (fun n n' act act' hn hact hsame => ?_) hn hacts
  · cases act with
    | resetStats a => exact congrArg (Network.mk _ · _) (Fabric.bare_resetAllStats n.fabric a)
    | _ => cases hact
  · obtain ⟨x, hx⟩ := Option.ne_none_iff_exists'.mp hact
    exact step_of_bare hn hx (hsame.trans hx)

/-- A request in three cycles or in two, with the statistics reset or not. -/
theorem traffic_of_order_chain :
    (Library.run step (start .chain) [.tick 1 0, .tickUp 1 1 0, .fire 2 1 (.respond 0 1)]).bare =
      (Library.run step (start .chain) [.resetStats 1, .tick 1 0, .tickUp 5 1 0, .resetStats 0,
        .fire 9 1 (.respond 0 1)]).bare :=
  traffic_of_order rfl _ _ rfl

end Network

end Gem5Sc
