/-
  File:      Gem5Sc/Network/Configured.lean
  Subject:   FROM THE CONFIGURATION TO THE TRAFFIC: the system that `instantiateAll` has built, and
             what holds in every run of it.

  `World.fabric` is the system of a world: its objects with their ports, and between the ports the
  pairs they have been bound by last. A world that `instantiateAll` reaches has sound ports
  (`Changes.sound`) and pairs that join existing ports (`Changes.wired`); so its system starts
  empty (`fabric_fresh`), every `send` on a bound port reaches a port (`fabric_linked`), and no
  event changes that (`SmallStep.plan`). What the other modules prove of runs from an empty system
  is therefore true of every configuration (`configured_run`).
-/
import Gem5Sc.Library.KeyedList
import Gem5Sc.ModuleFactory.Changes
import Gem5Sc.PortManager.Sound
import Gem5Sc.Network.Custody
import Gem5Sc.Network.Storage

namespace Gem5Sc

/-! ## 1. What the factory leaves behind -/

/-- The constructor of a class leaves its ports sound. -/
def ClassInfo.Sound (c : ClassInfo) : Prop := ∀ pm, c.ports = some pm → pm.Sound

structure Registries.Sound (r : Registries) : Prop where
  object : ∀ type c, r.objects.lookup type = some c → c.Sound
  module : ∀ type c, r.modules.lookup type = some c → c.Sound

/-- What a plugin registers has sound ports as well. -/
def Platform.Sound (P : Platform) : Prop :=
  ∀ path r, Registries.Sound r → (P.loadPlugin path r).2.Sound

namespace World

/-- All ports are sound. -/
structure Sound (w : World) : Prop where
  ports : ∀ s ∈ w.objects, ∀ pm, s.ports = some pm → pm.Sound
  registries : w.registries.Sound

/-- An object is added. -/
theorem Sound.append {w : World} (hw : w.Sound) {s : SimObject}
    (hs : ∀ pm, s.ports = some pm → pm.Sound) :
    ∀ x ∈ w.objects ++ [s], ∀ pm, x.ports = some pm → pm.Sound := by
  intro x hx
  rcases List.mem_append.mp hx with hx | hx
  · exact hw.ports x hx
  · rw [List.mem_singleton.mp hx]
    exact hs

/-- The ports of an object change by a function that keeps them sound. -/
theorem Sound.modify {w : World} (hw : w.Sound) (o : ObjId) {g : SimObject → SimObject}
    {k : PortManager → PortManager} (hk : ∀ pm : PortManager, pm.Sound → (k pm).Sound)
    (hg : ∀ s, (g s).ports = s.ports.map k) :
    ∀ x ∈ w.objects.modify o g, ∀ pm, x.ports = some pm → pm.Sound := by
  intro x hx pm hpm
  obtain ⟨i, hi⟩ := List.getElem?_of_mem hx
  rw [List.getElem?_modify] at hi
  obtain ⟨s, hs, rfl⟩ := Option.map_eq_some_iff.mp hi
  have hmem := List.mem_of_getElem? hs
  split at hpm
  · rw [hg] at hpm
    obtain ⟨pm₀, hpm₀, rfl⟩ := Option.map_eq_some_iff.mp hpm
    exact hk pm₀ (hw.ports s hmem pm₀ hpm₀)
  · exact hw.ports s hmem pm hpm

variable {P : Platform} {w w' : World}

theorem Change.sound (hP : P.Sound) (h : Change P w w') (hw : w.Sound) : w'.Sound := by
  cases h with
  | newObject name hc => exact ⟨hw.append (hw.registries.object _ _ hc), hw.registries⟩
  | newModule name hc => exact ⟨hw.append (hw.registries.module _ _ hc), hw.registries⟩
  | write o hg =>
      refine ⟨?_, hw.registries⟩
      cases hg with
      | layout l => exact hw.modify o (fun _ h => h) fun s => Option.map_id'.symm
      | simModule m => exact hw.modify o (fun _ h => h) fun s => Option.map_id'.symm
      | addPort info =>
          refine hw.modify o (fun pm hpm => ?_) fun s => rfl
          unfold PortManager.addPort
          split
          · exact hpm.addUpstreamPort _ _ _
          · exact hpm.addDownstreamPort _ _ _
  | plugin path => exact ⟨hw.ports, hP path _ hw.registries⟩
  | groups g => exact ⟨hw.ports, hw.registries⟩
  | pair latency hs hd =>
      exact ⟨hw.modify _ (fun pm hpm => hpm.setDelay _ latency) fun s => rfl, hw.registries⟩
  | built r => exact ⟨hw.ports, hw.registries⟩

theorem Changes.sound (hP : P.Sound) (h : Changes P w w') (hw : w.Sound) : w'.Sound := by
  induction h with
  | refl => exact hw
  | tail _ h ih => exact h.sound hP ih

/-! ## 2. The system -/

/-- The system of a world. `make` is the module behind an object, as its constructor leaves it. -/
def fabric (w : World) (make : SimObject → Module) (draw : Nat → Draw) : Fabric where
  insts := w.objects.map fun s =>
    { name := s.name, mod := make s, up := s.ports.elim [] PortManager.upstreamPorts,
      down := s.ports.elim [] PortManager.downstreamPorts }
  downPair a i :=
    match (Wiring.wire w.constructions).target (.downstream ⟨a, i⟩) with
    | some (.upstream q) => some (q.obj, q.index)
    | _ => none
  upPair a j :=
    match (Wiring.wire w.constructions).target (.upstream ⟨a, j⟩) with
    | some (.downstream q) => some (q.obj, q.index)
    | _ => none
  draw := draw

variable {make : SimObject → Module} {draw : Nat → Draw}

/-- **A new system is empty.** -/
theorem fabric_fresh (hw : w.Sound) (hmake : ∀ s, (make s).Fresh) :
    (w.fabric make draw).Fresh where
  insts x hx := by
    obtain ⟨s, hs, rfl⟩ := List.mem_map.mp hx
    refine ⟨hmake s, fun u hu c hc => ?_, fun d hd c hc => ?_⟩
    · obtain ⟨vc, hvc, rfl⟩ := List.mem_map.mp hc
      cases hports : s.ports with
      | none => simp [hports] at hu
      | some pm => exact (hw.ports s hs pm hports).input u (by simpa [hports] using hu) vc hvc
    · obtain ⟨vc, hvc, rfl⟩ := List.mem_map.mp hc
      cases hports : s.ports with
      | none => simp [hports] at hd
      | some pm => exact (hw.ports s hs pm hports).output d (by simpa [hports] using hd) vc hvc
  calls := rfl

end World

/-- Two ports that are joined exist. -/
structure Fabric.Linked (f : Fabric) : Prop where
  down : ∀ a i b j, f.downPair a i = some (b, j) →
    i < (f.inst a).down.length ∧ j < (f.inst b).up.length
  up : ∀ b j a i, f.upPair b j = some (a, i) →
    j < (f.inst b).up.length ∧ i < (f.inst a).down.length

namespace World

variable {w : World} {make : SimObject → Module} {draw : Nat → Draw}

theorem fabric_down {p : PortRef} (hp : w.HasDownstream p) :
    p.index < ((w.fabric make draw).inst p.obj).down.length := by
  obtain ⟨s, pm, hs, hpm, hlt⟩ := hp
  have hinst : ((w.fabric make draw).inst p.obj).down = pm.downstreamPorts := by
    simp [Fabric.inst, fabric, hs, hpm]
  rw [hinst]
  exact hlt

theorem fabric_up {p : PortRef} (hp : w.HasUpstream p) :
    p.index < ((w.fabric make draw).inst p.obj).up.length := by
  obtain ⟨s, pm, hs, hpm, hlt⟩ := hp
  have hinst : ((w.fabric make draw).inst p.obj).up = pm.upstreamPorts := by
    simp [Fabric.inst, fabric, hs, hpm]
  rw [hinst]
  exact hlt

/-- Ports that reach each other belong to one `PortPair`. -/
theorem mem_pairs_of_target {p q : PortRef}
    (h : (Wiring.wire w.constructions).target (.downstream p) = some (.upstream q) ∨
      (Wiring.wire w.constructions).target (.upstream q) = some (.downstream p)) :
    (p, q) ∈ w.pairs := by
  have hmem : ∀ x y : AnyPort, (Wiring.wire w.constructions).target x = some y →
      ∃ c ∈ w.constructions, Wiring.Joins c x y := by
    intro x y hxy
    obtain ⟨before, c, after, hcs, hj, -⟩ := (Wiring.target_wire _ x y).mp hxy
    exact ⟨c, by rw [hcs]; exact List.mem_append_right _ List.mem_cons_self, hj⟩
  have hjoin : ∃ c ∈ w.constructions, Wiring.Joins c (.downstream p) (.upstream q) := by
    rcases h with h | h
    · exact hmem _ _ h
    · obtain ⟨c, hc, hj⟩ := hmem _ _ h
      exact ⟨c, hc, hj.symm⟩
  obtain ⟨c, hc, hj⟩ := hjoin
  obtain ⟨x, hx, rfl⟩ := List.mem_map.mp hc
  rcases hj with ⟨h1, h2⟩ | ⟨h1, -⟩
  · obtain rfl := AnyPort.downstream.inj h1
    obtain rfl := AnyPort.upstream.inj h2
    exact hx
  · cases h1

/-- **Every `send` on a bound port reaches a port.** -/
theorem fabric_linked (hw : w.Wired) : (w.fabric make draw).Linked where
  down a i b j h := by
    have hpair : ((⟨a, i⟩, ⟨b, j⟩) : PortRef × PortRef) ∈ w.pairs := by
      refine mem_pairs_of_target (Or.inl ?_)
      simp only [fabric] at h
      split at h
      · next q hq =>
          obtain ⟨rfl, rfl⟩ := Prod.mk.inj (Option.some.inj h)
          exact hq
      · cases h
    exact ⟨fabric_down (hw _ hpair).1, fabric_up (hw _ hpair).2⟩
  up b j a i h := by
    have hpair : ((⟨a, i⟩, ⟨b, j⟩) : PortRef × PortRef) ∈ w.pairs := by
      refine mem_pairs_of_target (Or.inr ?_)
      simp only [fabric] at h
      split at h
      · next q hq =>
          obtain ⟨rfl, rfl⟩ := Prod.mk.inj (Option.some.inj h)
          exact hq
      · cases h
    exact ⟨fabric_up (hw _ hpair).2, fabric_down (hw _ hpair).1⟩

end World

/-- Whether a port is there depends on the plan alone. -/
theorem Fabric.Linked.congr {f f' : Fabric} (hf : f.Linked) (hplan : f'.plan = f.plan) :
    f'.Linked := by
  obtain ⟨hpairs, hports⟩ := Fabric.of_plan hplan
  refine ⟨fun a i b j h => ?_, fun b j a i h => ?_⟩
  · rw [(hports a).2, (hports b).1]
    exact hf.down a i b j (hpairs.1 ▸ h)
  · rw [(hports a).2, (hports b).1]
    exact hf.up b j a i (hpairs.2 ▸ h)

/-! ## 3. Every configuration, every run -/

/-- **THE PORTS OF A CONFIGURED SYSTEM.** If the constructors of the registered classes use their
    port managers by the methods of `PortManager` alone, then after a completed `instantiateAll`,
    at every nesting depth: the id of a port is its index, a label leads to the last port that was
    created with it, and every channel is empty. -/
theorem instantiateAll_sound {P : Platform} (hP : P.Sound) (fuel : Nat) (f : FactoryId)
    (config : Json) {w w' : World} (hw : w.Sound)
    (h : instantiateAll P fuel f config w = .ok w') : w'.Sound :=
  (instantiateAll_changes h).sound hP hw

/-- **A CONFIGURED SYSTEM WORKS ON.** In every system that `instantiateAll` builds, of any modules
    as their constructors leave them and after every sequence of events in any order: requests are
    kept and held once, nothing holds more than it may, and every pair joins two ports. -/
theorem configured_run {P : Platform} (hP : P.Sound) {fuel : Nat} {f : FactoryId} {config : Json}
    {w w' : World} (hw : w.Sound) (hwired : w.Wired)
    (h : instantiateAll P fuel f config w = .ok w') {make : SimObject → Module}
    (hmake : ∀ s, (make s).Fresh) (draw : Nat → Draw) (acts : List Network.Action) :
    (Library.run Network.step (.start (w'.fabric make draw)) acts).Custody ∧
      (Library.run Network.step (.start (w'.fabric make draw)) acts).fabric.Stored ∧
      (Library.run Network.step (.start (w'.fabric make draw)) acts).fabric.Linked := by
  have hchanges := instantiateAll_changes h
  have hfresh : (w'.fabric make draw).Fresh := World.fabric_fresh (hchanges.sound hP hw) hmake
  have hlinked : (w'.fabric make draw).Linked := World.fabric_linked (hchanges.wired hwired)
  have hstored := Library.run_invariant (Network.bounded_start hfresh)
    (fun _ act hb => hb.step act) acts
  refine ⟨Network.custody_run hfresh acts, hstored.stored, hlinked.congr ?_⟩
  refine (Library.run_invariant (I := fun n => Network.Custody n ∧
    n.fabric.plan = (w'.fabric make draw).plan) ⟨Network.custody_start hfresh, rfl⟩
    (fun n act hn => ⟨hn.1.step act, ?_⟩) acts).2
  exact (Network.step_smallSteps hn.1.typed.ready act).plan.trans hn.2

theorem ofFiles_sound (files : List (String × Json)) : (Platform.ofFiles files).Sound :=
  fun _ _ hr => hr

theorem linkWorld_sound : linkWorld.Sound := by
  have hclass : ∀ (type : String) (c : ClassInfo),
      linkWorld.registries.objects.lookup type = some c → c.Sound := by
    intro type c hc pm hpm
    have hmem := Library.mem_of_lookup hc
    rcases List.mem_cons.mp hmem with h | h
    · rw [(Prod.mk.inj h).2] at hpm
      exact Option.some.inj hpm ▸ .empty
    · rw [(Prod.mk.inj (List.mem_singleton.mp h)).2] at hpm
      exact Option.some.inj hpm ▸ .empty
  exact ⟨fun s hs => absurd hs List.not_mem_nil, hclass, fun _ _ hc => by cases hc⟩

/-- The classes of the example: a source is a CPU, a sink a memory. -/
def moduleOf (s : SimObject) : Module := if s.type = "Source" then .cpu {} else .memory

theorem moduleOf_fresh (s : SimObject) : (moduleOf s).Fresh := by
  unfold moduleOf
  split
  · rfl
  · trivial

theorem instantiateAll_sound_oneLink :
    ∃ w', instantiateAll linkPlatform 1 0 (.str "link.json") linkWorld = .ok w' ∧ w'.Sound :=
  ⟨_, rfl, instantiateAll_sound (P := linkPlatform) (ofFiles_sound _) 1 0 (.str "link.json")
    linkWorld_sound rfl⟩

/-- The two CPUs with one memory; the first one asks. -/
theorem configured_run_fanIn :
    ∃ w', instantiateAll (Platform.ofFiles [("fan_in.json", fanIn)]) 1 0 (.str "fan_in.json")
        linkWorld = .ok w' ∧
      (Library.run Network.step (.start (w'.fabric moduleOf fun _ => default))
        [.tick 1 0, .tickUp 2 2 1]).Custody := by
  have hret : (instantiateAll (Platform.ofFiles [("fan_in.json", fanIn)]) 1 0 (.str "fan_in.json")
      linkWorld).toOption.isSome = true := by decide
  cases hw : instantiateAll (Platform.ofFiles [("fan_in.json", fanIn)]) 1 0 (.str "fan_in.json")
      linkWorld with
  | error e =>
      rw [hw] at hret
      cases hret
  | ok w' =>
      exact ⟨w', rfl, (configured_run (ofFiles_sound _) linkWorld_sound
        (fun x hx => absurd hx List.not_mem_nil) hw moduleOf_fresh _ _).1⟩

end Gem5Sc
