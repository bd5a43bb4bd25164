/-
  File:      Gem5Sc/ModuleFactory/PortCreation.lean
  Subject:   WHICH PORT A CONNECTION CREATES on a plain instance.

  What is meant: an end `M.p` gives `M` one port labelled `p` in its direction, with the configured
  capacities (one of 4 when none are configured) and the configured priorities (its number for a
  channel that has none), `PlainEnd.Created`.

  What the code does: the list of capacities starts with the default and the configured ones are
  pushed behind it, a plain upstream port gets no priorities, an object that has not been asked
  for its port manager gets no port, and the internal path of an exposed port can name `M.p` as
  well. `PlainEnd.Fits` is what is left.
-/
import Gem5Sc.ModuleFactory.Patterns

namespace Gem5Sc

/-! ## 1. Specs -/

/-- A spec with a dot is determined by its two parts. -/
theorem toList_of_snd {spec : String} (h : (parsePortSpec spec).2 ≠ "") :
    spec.toList = (parsePortSpec spec).1.toList ++ '.' :: (parsePortSpec spec).2.toList := by
  unfold parsePortSpec at h ⊢
  split at h
  · exact absurd rfl h
  · next c rest hdrop =>
      have hc : c = '.' := by
        have hhead := List.head?_dropWhile_not (· ≠ '.') spec.toList
        rw [hdrop] at hhead
        simpa using hhead
      subst hc
      show spec.toList = (String.ofList _).toList ++ '.' :: (String.ofList rest).toList
      rw [String.toList_ofList, String.toList_ofList, ← hdrop]
      exact List.takeWhile_append_dropWhile.symm

theorem parsePortSpec_injective {spec spec' : String} (h : (parsePortSpec spec).2 ≠ "")
    (heq : parsePortSpec spec' = parsePortSpec spec) : spec' = spec := by
  have h' : (parsePortSpec spec').2 ≠ "" := heq ▸ h
  apply String.toList_inj.mp
  rw [toList_of_snd h, toList_of_snd h', heq]

/-! ## 2. The ports of an object with one label -/

/-- Capacity and priority of the channels a constructor of a port makes. -/
def vcShapes (sizes priorities : List Nat) : List (Nat × Nat) :=
  sizes.mapIdx fun i cap => (cap, priorities.getD i i)

/-- The channels of a port. -/
def UpstreamPort.vcShapes (u : UpstreamPort) : List (Nat × Nat) :=
  u.inputVcs.map fun vc => (vc.capacity, vc.priority)

/-- The channels of a port. -/
def DownstreamPort.vcShapes (d : DownstreamPort) : List (Nat × Nat) :=
  d.outputVcs.map fun vc => (vc.capacity, vc.priority)

theorem UpstreamPort.vcShapes_create (id : Nat) (sizes priorities : List Nat) (label : String) :
    (UpstreamPort.create id sizes priorities label).vcShapes =
      Gem5Sc.vcShapes sizes priorities := by
  unfold UpstreamPort.vcShapes UpstreamPort.create Gem5Sc.vcShapes
  apply List.ext_getElem <;> simp

theorem DownstreamPort.vcShapes_create (id : Nat) (sizes priorities : List Nat) (label : String) :
    (DownstreamPort.create id sizes priorities label).vcShapes =
      Gem5Sc.vcShapes sizes priorities := by
  unfold DownstreamPort.vcShapes DownstreamPort.create Gem5Sc.vcShapes
  apply List.ext_getElem <;> simp

theorem UpstreamPort.label_create (id : Nat) (sizes priorities : List Nat) (label : String) :
    (UpstreamPort.create id sizes priorities label).label = label := rfl

theorem DownstreamPort.label_create (id : Nat) (sizes priorities : List Nat) (label : String) :
    (DownstreamPort.create id sizes priorities label).label = label := rfl

/-- The ports of one direction with a label, by their channels. -/
def PortManager.portsLabelled (pm : PortManager) (isUpstream : Bool) (label : String) :
    List (List (Nat × Nat)) :=
  if isUpstream then (pm.upstreamPorts.filter (·.label = label)).map UpstreamPort.vcShapes
  else (pm.downstreamPorts.filter (·.label = label)).map DownstreamPort.vcShapes

/-- The same for an object; there are none without a port manager. -/
def World.portsLabelled (w : World) (isUpstream : Bool) (o : ObjId) (label : String) :
    List (List (Nat × Nat)) :=
  ((w.objects[o]?).bind SimObject.ports).elim [] fun pm => pm.portsLabelled isUpstream label

/-- The creation is for this direction, owner and label. -/
def PortCreationInfo.isFor (info : PortCreationInfo) (isUpstream : Bool) (owner label : String) :
    Bool :=
  info.isUpstream == isUpstream && info.ownerName == owner && info.portName == label

/-- The ports some creations make for one direction, owner and label. -/
def portsFor (isUpstream : Bool) (owner label : String) (infos : List PortCreationInfo) :
    List (List (Nat × Nat)) :=
  (infos.filter (·.isFor isUpstream owner label)).map fun info =>
    vcShapes info.bufferSizes info.priorities

/-- One more port of a manager. -/
theorem PortManager.portsLabelled_addPort (info : PortCreationInfo) (pm : PortManager)
    (isUpstream : Bool) (label : String) :
    (PortManager.addPort info pm).portsLabelled isUpstream label =
      pm.portsLabelled isUpstream label ++
        if info.isUpstream == isUpstream && info.portName == label then
          [vcShapes info.bufferSizes info.priorities] else [] := by
  unfold PortManager.addPort PortManager.portsLabelled
  cases info.isUpstream <;> cases isUpstream
  · by_cases hl : info.portName = label
    · simp [PortManager.addDownstreamPort, DownstreamPort.label_create,
        DownstreamPort.vcShapes_create, hl]
    · simp [PortManager.addDownstreamPort, DownstreamPort.label_create, hl]
  · simp [PortManager.addDownstreamPort]
  · simp [PortManager.addUpstreamPort]
  · by_cases hl : info.portName = label
    · simp [PortManager.addUpstreamPort, UpstreamPort.label_create,
        UpstreamPort.vcShapes_create, hl]
    · simp [PortManager.addUpstreamPort, UpstreamPort.label_create, hl]

/-! ## 3. A list of creations -/

section Creations

variable {objs : List (String × ObjId)} {owner : String} {o : ObjId}
  (howner : objs.lookup owner = some o) (honly : ∀ name, objs.lookup name = some o → name = owner)

include howner honly

/-- **One creation** adds its port to the owner's. -/
theorem portsLabelled_createPort {w : World} (hw : w.hasPortManager o = true)
    (info : PortCreationInfo) (isUpstream : Bool) (label : String) :
    (createPort objs w info).portsLabelled isUpstream o label =
      w.portsLabelled isUpstream o label ++
        if info.isFor isUpstream owner label then
          [vcShapes info.bufferSizes info.priorities] else [] := by
  obtain ⟨pm, hpm⟩ := Option.isSome_iff_exists.mp hw
  obtain ⟨s, hs, hp⟩ := Option.bind_eq_some_iff.mp hpm
  unfold World.portsLabelled PortCreationInfo.isFor
  rw [objects_createPort, hs]
  simp only [Option.map_some, Option.bind_some]
  by_cases h : info.ownerName = owner
  · rw [h, if_pos howner]
    simp only [hp, Option.map_some, Option.elim_some, PortManager.portsLabelled_addPort,
      beq_self_eq_true, Bool.and_true]
  · rw [if_neg fun hl => h (honly _ hl)]
    simp [h]

/-- **Step 5**: the ports of an object with a port manager are those it had and one for each
    creation for it. -/
theorem portsLabelled_foldl {w : World} (hw : w.hasPortManager o = true)
    (infos : List PortCreationInfo) (isUpstream : Bool) (label : String) :
    (infos.foldl (createPort objs) w).portsLabelled isUpstream o label =
      w.portsLabelled isUpstream o label ++ portsFor isUpstream owner label infos := by
  induction infos generalizing w with
  | nil => simp [portsFor]
  | cons info infos ih =>
      have hw' : (createPort objs w info).hasPortManager o = true := by
        rw [hasPortManager_createPort]
        exact hw
      rw [List.foldl_cons, ih hw', portsLabelled_createPort howner honly hw]
      cases hf : info.isFor isUpstream owner label with
      | true => simp [portsFor, hf]
      | false => simp [portsFor, hf]

end Creations

/-- Without a port manager there is no port. -/
theorem portsLabelled_of_not_hasPortManager {w : World} {o : ObjId}
    (h : w.hasPortManager o = false) (isUpstream : Bool) (label : String) :
    w.portsLabelled isUpstream o label = [] := by
  unfold World.portsLabelled
  unfold World.hasPortManager at h
  rw [Option.not_isSome_iff_eq_none.mp (Bool.eq_false_iff.mp h)]
  rfl

/-! ## 4. What one end of a connection creates -/

/-- The member of a connection that names an end, and the one with its buffer sizes. -/
def endKey (isUpstream : Bool) : String := if isUpstream then "dst" else "src"

def sizesKey (isUpstream : Bool) : String :=
  if isUpstream then "input_buffer_sizes" else "output_buffer_sizes"

/-- A creation is for the direction of the end it comes from. -/
theorem filter_endpointPort {b : Build} {conn : Json} {spec key : String} {d : Bool}
    {infos : List PortCreationInfo} (h : endpointPort b conn spec key d = .ok infos)
    {isUpstream : Bool} (hne : d ≠ isUpstream) (owner label : String) :
    infos.filter (·.isFor isUpstream owner label) = [] := by
  refine List.filter_eq_nil_iff.mpr fun info hi hfor => hne ?_
  rw [← (mem_endpointPort h info hi).1]
  unfold PortCreationInfo.isFor at hfor
  simp only [Bool.and_eq_true, beq_iff_eq] at hfor
  exact hfor.1.1

/-- The creations of a connection in one direction are those of its end in that direction. -/
theorem filter_portCreations {b : Build} {conn : Json} {infos : List PortCreationInfo}
    (h : portCreations b conn = .ok infos) (hboth : conn.contains "src" ∧ conn.contains "dst")
    (isUpstream : Bool) :
    ∃ spec ends, conn.stringAt (endKey isUpstream) = .ok spec ∧
      endpointPort b conn spec (sizesKey isUpstream) isUpstream = .ok ends ∧
      ∀ owner label, infos.filter (·.isFor isUpstream owner label) =
        ends.filter (·.isFor isUpstream owner label) := by
  unfold portCreations at h
  rw [if_pos hboth] at h
  obtain ⟨src, hsrc, h⟩ := Library.bind_eq_ok.mp h
  obtain ⟨dst, hdst, h⟩ := Library.bind_eq_ok.mp h
  obtain ⟨latency, _, h⟩ := Library.bind_eq_ok.mp h
  obtain ⟨down, hdown, h⟩ := Library.bind_eq_ok.mp h
  obtain ⟨up, hup, h⟩ := Library.bind_eq_ok.mp h
  cases h
  cases isUpstream with
  | true =>
      refine ⟨dst, up, hdst, hup, fun owner label => ?_⟩
      rw [List.filter_append, filter_endpointPort hdown (by decide), List.nil_append]
  | false =>
      refine ⟨src, down, hsrc, hdown, fun owner label => ?_⟩
      rw [List.filter_append, filter_endpointPort hup (by decide), List.append_nil]

/-- The four ways an end can go. -/
inductive EndCreations (b : Build) (conn : Json) (spec key : String) (isUpstream : Bool) :
    List PortCreationInfo → Prop where
  | noLabel (hlabel : (parsePortSpec spec).2 = "") : EndCreations b conn spec key isUpstream []
  | undeclared {ptr : ObjId} {s : SimModule} (hlabel : (parsePortSpec spec).2 ≠ "")
      (hptr : b.moduleInstances.lookup (parsePortSpec spec).1 = some (some ptr))
      (hs : b.world.simModuleOf ptr = some s)
      (hpath : s.findInternalPath (parsePortSpec spec).2 = "") :
      EndCreations b conn spec key isUpstream []
  | exposed {ptr : ObjId} {s : SimModule} (sizes priorities : List Nat)
      (hlabel : (parsePortSpec spec).2 ≠ "")
      (hptr : b.moduleInstances.lookup (parsePortSpec spec).1 = some (some ptr))
      (hs : b.world.simModuleOf ptr = some s)
      (hpath : s.findInternalPath (parsePortSpec spec).2 ≠ "") :
      EndCreations b conn spec key isUpstream
        [⟨(parsePortSpec (s.findInternalPath (parsePortSpec spec).2)).1,
          (parsePortSpec (s.findInternalPath (parsePortSpec spec).2)).2, 4 :: sizes, priorities,
          isUpstream⟩]
  | plain (sizes priorities : List Nat) (hlabel : (parsePortSpec spec).2 ≠ "")
      (hplain : b.moduleInstances.lookup (parsePortSpec spec).1 = none)
      (hsizes : (conn.elemsIf key).mapM Json.asSize = .ok sizes)
      (hpriorities : (if isUpstream then .ok [] else vcPriorities conn) = .ok priorities) :
      EndCreations b conn spec key isUpstream
        [⟨(parsePortSpec spec).1, (parsePortSpec spec).2, 4 :: sizes, priorities, isUpstream⟩]

theorem endCreations_of_endpointPort {b : Build} {conn : Json} {spec key : String}
    {isUpstream : Bool} {infos : List PortCreationInfo}
    (h : endpointPort b conn spec key isUpstream = .ok infos) :
    EndCreations b conn spec key isUpstream infos := by
  have hsizes : ∀ sizes, bufferSizes conn key = .ok sizes →
      ∃ configured, (conn.elemsIf key).mapM Json.asSize = .ok configured ∧
        sizes = 4 :: configured := by
    intro sizes hs
    obtain ⟨configured, hc, hs⟩ := Library.bind_eq_ok.mp hs
    cases hs
    exact ⟨configured, hc, rfl⟩
  unfold endpointPort at h
  dsimp only at h
  split at h
  · next hlabel =>
      cases h
      exact EndCreations.noLabel hlabel
  · next hlabel =>
      split at h
      · next ptr hptr =>
          obtain ⟨path, hpath, h⟩ := Library.bind_eq_ok.mp h
          unfold findInternalPath at hpath
          split at hpath
          · next s hs =>
              obtain ⟨o, rfl, hs⟩ := Option.bind_eq_some_iff.mp hs
              cases hpath
              split at h
              · next hempty =>
                  cases h
                  exact EndCreations.undeclared hlabel hptr hs hempty
              · next hne =>
                  obtain ⟨sizes, hsz, h⟩ := Library.bind_eq_ok.mp h
                  obtain ⟨priorities, _, h⟩ := Library.bind_eq_ok.mp h
                  obtain ⟨configured, _, rfl⟩ := hsizes sizes hsz
                  cases h
                  exact EndCreations.exposed configured priorities hlabel hptr hs hne
          · cases hpath
      · next hplain =>
          obtain ⟨sizes, hsz, h⟩ := Library.bind_eq_ok.mp h
          obtain ⟨configured, hc, rfl⟩ := hsizes sizes hsz
          cases isUpstream with
          | true =>
              cases h
              exact EndCreations.plain configured [] hlabel hplain hc rfl
          | false =>
              obtain ⟨priorities, hpri, h⟩ := Library.bind_eq_ok.mp h
              cases h
              exact EndCreations.plain configured priorities hlabel hplain hc hpri

/-- An end of the connection is an exposed port whose internal path is `owner.label`. -/
structure LeadsTo (b : Build) (conn : Json) (isUpstream : Bool) (owner label : String) : Prop where
  both : conn.contains "src" ∧ conn.contains "dst"
  exposed : ∃ spec ptr s, conn.stringAt (endKey isUpstream) = .ok spec ∧
    (parsePortSpec spec).2 ≠ "" ∧
    b.moduleInstances.lookup (parsePortSpec spec).1 = some (some ptr) ∧
    b.world.simModuleOf ptr = some s ∧ s.findInternalPath (parsePortSpec spec).2 ≠ "" ∧
    parsePortSpec (s.findInternalPath (parsePortSpec spec).2) = (owner, label)

theorem isFor_iff {info : PortCreationInfo} {isUpstream : Bool} {owner label : String} :
    info.isFor isUpstream owner label = true ↔
      info.isUpstream = isUpstream ∧ info.ownerName = owner ∧ info.portName = label := by
  unfold PortCreationInfo.isFor
  simp only [Bool.and_eq_true, beq_iff_eq, and_assoc]

theorem filter_singleton_eq_nil_iff {isUpstream : Bool} {owner' label' owner label : String}
    {sizes priorities : List Nat} :
    [(⟨owner', label', sizes, priorities, isUpstream⟩ : PortCreationInfo)].filter
        (·.isFor isUpstream owner label) = [] ↔ (owner', label') ≠ (owner, label) := by
  rw [List.filter_eq_nil_iff, List.forall_mem_singleton, isFor_iff, ne_eq, Prod.mk.injEq]
  exact not_congr (and_iff_right rfl)

/-- Where an end leads, once its spec is known. -/
theorem leadsTo_iff {b : Build} {conn : Json} {isUpstream : Bool} {owner label spec : String}
    (hboth : conn.contains "src" ∧ conn.contains "dst")
    (hspec : conn.stringAt (endKey isUpstream) = .ok spec) :
    LeadsTo b conn isUpstream owner label ↔ ∃ ptr s, (parsePortSpec spec).2 ≠ "" ∧
      b.moduleInstances.lookup (parsePortSpec spec).1 = some (some ptr) ∧
      b.world.simModuleOf ptr = some s ∧ s.findInternalPath (parsePortSpec spec).2 ≠ "" ∧
      parsePortSpec (s.findInternalPath (parsePortSpec spec).2) = (owner, label) := by
  constructor
  · rintro ⟨-, spec', ptr, s, hspec', h⟩
    rw [hspec] at hspec'
    cases hspec'
    exact ⟨ptr, s, h⟩
  · intro ⟨ptr, s, h⟩
    exact ⟨hboth, spec, ptr, s, hspec, h⟩

/-- An end with another name creates `owner.label` only as an exposed port that leads there. -/
theorem EndCreations.filter_eq_nil_iff {b : Build} {conn : Json} {spec key owner label : String}
    {isUpstream : Bool} {ends : List PortCreationInfo}
    (h : EndCreations b conn spec key isUpstream ends)
    (hother : parsePortSpec spec ≠ (owner, label)) :
    ends.filter (·.isFor isUpstream owner label) = [] ↔
      ¬ ∃ ptr s, (parsePortSpec spec).2 ≠ "" ∧
        b.moduleInstances.lookup (parsePortSpec spec).1 = some (some ptr) ∧
        b.world.simModuleOf ptr = some s ∧ s.findInternalPath (parsePortSpec spec).2 ≠ "" ∧
        parsePortSpec (s.findInternalPath (parsePortSpec spec).2) = (owner, label) := by
  cases h with
  | noLabel hlabel => exact iff_of_true rfl fun ⟨_, _, hlabel', _⟩ => hlabel' hlabel
  | undeclared hlabel hptr hs hpath =>
      refine iff_of_true rfl ?_
      rintro ⟨ptr', s', -, hptr', hs', hpath', -⟩
      rw [hptr] at hptr'
      cases hptr'
      rw [hs] at hs'
      cases hs'
      exact hpath' hpath
  | exposed sizes priorities hlabel hptr hs hpath =>
      rw [filter_singleton_eq_nil_iff]
      refine not_congr ⟨fun heq => ⟨_, _, hlabel, hptr, hs, hpath, heq⟩, ?_⟩
      rintro ⟨ptr', s', -, hptr', hs', -, heq⟩
      rw [hptr] at hptr'
      cases hptr'
      rw [hs] at hs'
      cases hs'
      exact heq
  | plain sizes priorities hlabel hplain =>
      rw [filter_singleton_eq_nil_iff]
      refine iff_of_true hother ?_
      rintro ⟨ptr', s', -, hptr', -⟩
      rw [hplain] at hptr'
      cases hptr'

/-- **A connection that does not name the end** creates a port for it only through an exposed
    port. -/
theorem filter_portCreations_eq_nil_iff {b : Build} {conn : Json} {infos : List PortCreationInfo}
    (h : portCreations b conn = .ok infos) {isUpstream : Bool} {full : String}
    (hfull : (parsePortSpec full).2 ≠ "") (hne : conn.stringAt (endKey isUpstream) ≠ .ok full) :
    infos.filter (·.isFor isUpstream (parsePortSpec full).1 (parsePortSpec full).2) = [] ↔
      ¬ LeadsTo b conn isUpstream (parsePortSpec full).1 (parsePortSpec full).2 := by
  by_cases hboth : conn.contains "src" ∧ conn.contains "dst"
  · obtain ⟨spec, ends, hspec, hends, hfilter⟩ := filter_portCreations h hboth isUpstream
    have hother : parsePortSpec spec ≠ parsePortSpec full := by
      intro heq
      rw [parsePortSpec_injective hfull heq] at hspec
      exact hne hspec
    rw [hfilter, leadsTo_iff hboth hspec]
    exact (endCreations_of_endpointPort hends).filter_eq_nil_iff hother
  · unfold portCreations at h
    rw [if_neg hboth] at h
    cases h
    exact iff_of_true rfl fun hl => hboth hl.both

/-! ## 5. The exact condition -/

/-- An end `M.p` of a connection, with `M` a created instance that is no SimModule, in the state
    before the ports. -/
structure PlainEnd (final : Json) (b : Build) where
  before : List Json
  conn : Json
  after : List Json
  connections : final.elemsAt "connections" = .ok (before ++ conn :: after)
  both : conn.contains "src" ∧ conn.contains "dst"
  isUpstream : Bool
  full : String
  full_eq : conn.stringAt (endKey isUpstream) = .ok full
  /-- No other connection has the endpoint. -/
  unique : ∀ conn' ∈ before ++ after, ∀ key ∈ ["src", "dst"], conn'.stringAt key ≠ .ok full
  obj : ObjId
  instance_eq : b.objectInstances.lookup (parsePortSpec full).1 = some obj
  plain : b.moduleInstances.lookup (parsePortSpec full).1 = none
  label_ne : (parsePortSpec full).2 ≠ ""
  /-- What the connection gives. -/
  sizes : List Nat
  sizes_eq : (conn.elemsIf (sizesKey isUpstream)).mapM Json.asSize = .ok sizes
  priorities : List Nat
  priorities_eq : vcPriorities conn = .ok priorities

namespace PlainEnd

variable {final : Json} {b : Build} (e : PlainEnd final b)

def owner : String := (parsePortSpec e.full).1

def label : String := (parsePortSpec e.full).2

/-- The channels the port is meant to have. -/
def wanted : List (Nat × Nat) :=
  vcShapes (if e.sizes = [] then [4] else e.sizes) e.priorities

/-- There is one port with the label, and it has the wanted channels. -/
def Created (w : World) : Prop := w.portsLabelled e.isUpstream e.obj e.label = [e.wanted]

/-- The cases in which the code does what is meant. -/
structure Fits : Prop where
  manager : b.world.hasPortManager e.obj = true
  fresh : b.world.portsLabelled e.isUpstream e.obj e.label = []
  notExposed : ∀ conn' ∈ e.before ++ e.after, ¬ LeadsTo b conn' e.isUpstream e.owner e.label
  sizes : e.sizes = []
  priorities : e.isUpstream = true → e.priorities.getD 0 0 = 0

/-- The channels the code makes. -/
def made : List (Nat × Nat) := vcShapes (4 :: e.sizes) (if e.isUpstream then [] else e.priorities)

theorem made_eq_wanted_iff :
    e.made = e.wanted ↔ e.sizes = [] ∧ (e.isUpstream = true → e.priorities.getD 0 0 = 0) := by
  have hlen : ∀ sizes priorities, (vcShapes sizes priorities).length = sizes.length := by
    intro sizes priorities
    exact List.length_mapIdx
  unfold made wanted
  by_cases hs : e.sizes = []
  · rw [hs, if_pos rfl, and_iff_right rfl]
    cases e.isUpstream with
    | true =>
        show [(4, 0)] = [(4, e.priorities.getD 0 0)] ↔ _
        rw [List.singleton_inj, Prod.mk.injEq, and_iff_right rfl]
        exact ⟨fun h _ => h.symm, fun h => (h rfl).symm⟩
    | false => exact iff_of_true rfl fun h => absurd h (by decide)
  · rw [if_neg hs]
    refine iff_of_false (fun h => ?_) fun h => hs h.1
    have h := congrArg List.length h
    rw [hlen, hlen, List.length_cons] at h
    omega

/-- The connection of the end makes one port for it. -/
theorem portsFor_own {infos : List PortCreationInfo} (h : portCreations b e.conn = .ok infos) :
    portsFor e.isUpstream e.owner e.label infos = [e.made] := by
  obtain ⟨spec, ends, hspec, hends, hfilter⟩ := filter_portCreations h e.both e.isUpstream
  rw [e.full_eq, Except.ok.injEq] at hspec
  subst hspec
  unfold portsFor
  rw [hfilter]
  cases endCreations_of_endpointPort hends with
  | noLabel hlabel => exact absurd hlabel e.label_ne
  | undeclared _ hptr _ _ =>
      rw [e.plain] at hptr
      cases hptr
  | exposed _ _ _ hptr _ _ =>
      rw [e.plain] at hptr
      cases hptr
  | plain sizes priorities _ _ hsizes hpriorities =>
      have hfor : PortCreationInfo.isFor ⟨(parsePortSpec e.full).1, (parsePortSpec e.full).2,
          4 :: sizes, priorities, e.isUpstream⟩ e.isUpstream e.owner e.label = true :=
        isFor_iff.mpr ⟨rfl, rfl, rfl⟩
      rw [e.sizes_eq, Except.ok.injEq] at hsizes
      subst hsizes
      simp only [List.filter_cons, hfor, if_true, List.filter_nil, List.map_cons, List.map_nil,
        List.singleton_inj]
      unfold made
      cases hd : e.isUpstream with
      | true =>
          rw [hd] at hpriorities
          cases hpriorities
          rfl
      | false =>
          rw [hd, e.priorities_eq] at hpriorities
          cases hpriorities
          rfl

/-- Other connections make a port for it only through an exposed port. -/
theorem portsFor_others {conns : List Json} (hsub : ∀ c ∈ conns, c ∈ e.before ++ e.after)
    {all : List (List PortCreationInfo)} (hall : conns.mapM (portCreations b) = .ok all) :
    portsFor e.isUpstream e.owner e.label all.flatten = [] ↔
      ∀ c ∈ conns, ¬ LeadsTo b c e.isUpstream e.owner e.label := by
  have hkey : endKey e.isUpstream ∈ ["src", "dst"] := by
    cases e.isUpstream <;> decide
  have hone : ∀ c ∈ conns, ∀ infos, portCreations b c = .ok infos →
      (infos.filter (·.isFor e.isUpstream e.owner e.label) = [] ↔
        ¬ LeadsTo b c e.isUpstream e.owner e.label) := fun c hc infos h =>
    filter_portCreations_eq_nil_iff h e.label_ne (e.unique c (hsub c hc) _ hkey)
  unfold portsFor
  rw [List.map_eq_nil_iff, List.filter_flatten, List.flatten_eq_nil_iff, List.forall_mem_map,
    Library.forall_mapM_ok (p := fun infos =>
      infos.filter (·.isFor e.isUpstream e.owner e.label) = []) hall]
  refine ⟨fun h c hc => ?_, fun h c hc infos hinfos => (hone c hc infos hinfos).mpr (h c hc)⟩
  obtain ⟨infos, hinfos⟩ := Library.exists_of_mapM_ok hall c hc
  exact (hone c hc infos hinfos).mp (h c hc infos hinfos)

theorem append_cons_eq_singleton {α : Type} {l₁ l₂ : List α} {x y : α} :
    l₁ ++ x :: l₂ = [y] ↔ l₁ = [] ∧ l₂ = [] ∧ x = y := by
  cases l₁ with
  | nil => simp [and_comm]
  | cons z l₁ => simp

/-- The ports made for the end, from all connections. -/
theorem portsFor_all {all : List (List PortCreationInfo)}
    (hall : (e.before ++ e.conn :: e.after).mapM (portCreations b) = .ok all) :
    ∃ before after : List (List (Nat × Nat)),
      portsFor e.isUpstream e.owner e.label all.flatten = before ++ e.made :: after ∧
      (before = [] ∧ after = [] ↔
        ∀ c ∈ e.before ++ e.after, ¬ LeadsTo b c e.isUpstream e.owner e.label) := by
  rw [List.mapM_append] at hall
  obtain ⟨xs, hxs, hall⟩ := Library.bind_eq_ok.mp hall
  obtain ⟨zs, hzs, hall⟩ := Library.bind_eq_ok.mp hall
  cases hall
  rw [List.mapM_cons] at hzs
  obtain ⟨own, hown, hzs⟩ := Library.bind_eq_ok.mp hzs
  obtain ⟨ys, hys, hzs⟩ := Library.bind_eq_ok.mp hzs
  cases hzs
  have hsplit : portsFor e.isUpstream e.owner e.label (xs ++ own :: ys).flatten =
      portsFor e.isUpstream e.owner e.label xs.flatten ++
        (portsFor e.isUpstream e.owner e.label own ++
          portsFor e.isUpstream e.owner e.label ys.flatten) := by
    unfold portsFor
    rw [List.flatten_append, List.flatten_cons, List.filter_append, List.filter_append,
      List.map_append, List.map_append]
  rw [e.portsFor_own hown] at hsplit
  refine ⟨portsFor e.isUpstream e.owner e.label xs.flatten,
    portsFor e.isUpstream e.owner e.label ys.flatten, hsplit, ?_⟩
  rw [e.portsFor_others (fun c hc => List.mem_append_left _ hc) hxs,
    e.portsFor_others (fun c hc => List.mem_append_right _ hc) hys, List.forall_mem_append]

/-- **PORT CREATION.** For every configuration whose modules could be instantiated and whose ports
    could be created, and every end `M.p` of a connection, with `M` a plain instance: `M` gets one
    port `p` with the configured channels if and only if `M` has a port manager and no port `p`
    yet, no exposed port leads to `M.p`, no buffer sizes are configured, and no first priority
    other than 0 is configured for a destination. -/
theorem created_iff_fits {P : Platform} {fuel : Nat} {w : World} {b' : Build}
    (hmods : prepareModules P (instantiateAll P fuel) final w = .ok b)
    (hports : createPorts final b = .ok b') : e.Created b'.world ↔ e.Fits := by
  obtain ⟨n, hnum, -⟩ := prepareModules_numbers hmods
  have honly : ∀ name, b.objectInstances.lookup name = some e.obj → name = e.owner :=
    fun name h => hnum.injective name e.owner e.obj h e.instance_eq
  obtain ⟨conns, hconns, h⟩ := Library.bind_eq_ok.mp hports
  obtain ⟨all, hall, h⟩ := Library.bind_eq_ok.mp h
  cases h
  rw [e.connections, Except.ok.injEq] at hconns
  subst hconns
  unfold Created
  cases hpm : b.world.hasPortManager e.obj with
  | false =>
      have hpm' : (all.flatten.foldl (createPort b.objectInstances) b.world).hasPortManager e.obj =
          false := by
        rw [← hpm]
        exact (createPorts_keeps hports).2.2.1 e.obj
      rw [portsLabelled_of_not_hasPortManager hpm']
      refine iff_of_false (fun h => nomatch h) fun h => ?_
      have hman := h.manager
      rw [hpm] at hman
      cases hman
  | true =>
      obtain ⟨before, after, hmade, hothers⟩ := e.portsFor_all hall
      have hown : b.objectInstances.lookup e.owner = some e.obj := e.instance_eq
      rw [portsLabelled_foldl hown honly hpm, hmade, ← List.append_assoc,
        append_cons_eq_singleton, List.append_eq_nil_iff, e.made_eq_wanted_iff]
      constructor
      · intro ⟨⟨hfresh, hbefore⟩, hafter, hsizes, hpriorities⟩
        exact ⟨hpm, hfresh, hothers.mp ⟨hbefore, hafter⟩, hsizes, hpriorities⟩
      · intro h
        obtain ⟨hbefore, hafter⟩ := hothers.mpr h.notExposed
        exact ⟨⟨h.fresh, hbefore⟩, hafter, h.sizes, h.priorities⟩

end PlainEnd

/-! ## 6. Two channels -/

/-- `cpu.out` to `mem.in` with two channels. -/
def twoChannels : Json :=
  .obj [("dst", .str "mem.in"), ("input_buffer_sizes", .arr [.num 8, .num 4]), ("latency", .num 3),
        ("output_buffer_sizes", .arr [.num 8, .num 4]), ("src", .str "cpu.out"),
        ("vc_priorities", .arr [.num 0, .num 2])]

def twoChannelsConfig : Json :=
  .obj [("connections", .arr [twoChannels]),
        ("modules", .arr [.obj [("name", .str "cpu"), ("type", .str "Source")],
                          .obj [("name", .str "mem"), ("type", .str "Sink")]])]

/-- The state before the ports. -/
def twoChannelsStart : Build :=
  match prepareModules linkPlatform (instantiateAll linkPlatform 0) twoChannelsConfig linkWorld with
  | .ok b => b
  | .error _ => { world := linkWorld }

/-- The state after them. -/
def twoChannelsPorts : Build :=
  match createPorts twoChannelsConfig twoChannelsStart with
  | .ok b => b
  | .error _ => { world := linkWorld }

def cpuOut : PlainEnd twoChannelsConfig twoChannelsStart where
  before := []
  conn := twoChannels
  after := []
  connections := rfl
  both := by decide
  isUpstream := false
  full := "cpu.out"
  full_eq := by decide
  unique _ h := nomatch h
  obj := 0
  instance_eq := by decide
  plain := by decide
  label_ne := by decide
  sizes := [8, 4]
  sizes_eq := by decide
  priorities := [0, 2]
  priorities_eq := by decide

theorem cpuOut_created_iff : cpuOut.Created twoChannelsPorts.world ↔ cpuOut.Fits := by
  have hmods : prepareModules linkPlatform (instantiateAll linkPlatform 0) twoChannelsConfig
      linkWorld = .ok twoChannelsStart := rfl
  exact cpuOut.created_iff_fits hmods rfl

/-- Capacities 8 and 4 are asked for with priorities 0 and 2, and `cpu` gets the three capacities
    4, 8 and 4. -/
theorem cpuOut_not_created :
    prepareModules linkPlatform (instantiateAll linkPlatform 0) twoChannelsConfig linkWorld =
        .ok twoChannelsStart ∧
      createPorts twoChannelsConfig twoChannelsStart = .ok twoChannelsPorts ∧
      cpuOut.wanted = [(8, 0), (4, 2)] ∧
      twoChannelsPorts.world.portsLabelled false 0 "out" = [[(4, 0), (8, 2), (4, 2)]] ∧
      ¬ cpuOut.Created twoChannelsPorts.world := by
  refine ⟨rfl, rfl, by decide, by decide, ?_⟩
  show twoChannelsPorts.world.portsLabelled false 0 "out" ≠ [[(8, 0), (4, 2)]]
  decide

end Gem5Sc
