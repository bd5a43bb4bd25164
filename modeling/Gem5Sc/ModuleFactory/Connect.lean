/-
  File:      Gem5Sc/ModuleFactory/Connect.lean
  Subject:   What the connection step builds for a point-to-point connection.

  * `connectFrom_eq`: the two loops build the product of the ports found for the source names and
    the ports found for the destination names.
  * `select_of_isPlain`: a spec without wildcard, regex or group syntax stands for the instances it
    matches as a pattern, not for itself. The source asks `Wildcard::match("*", spec)`, which has
    the pattern `*` and the string `spec`, and so holds of every spec of one line.
  * `linked_iff`: the declared link is built exactly when those instances lead to its two ports.
-/
import Gem5Sc.ModuleFactory.Stable
import Mathlib.Data.List.ProdSigma
import Mathlib.Data.List.ReduceOption
import Mathlib.Data.List.TakeWhile

namespace Gem5Sc

/-! ## 1. What the loops leave alone -/

/-- Every lookup of the connection step answers the same. -/
structure SameLookups (b b' : Build) : Prop where
  objectInstances : b'.objectInstances = b.objectInstances
  moduleInstances : b'.moduleInstances = b.moduleInstances
  simModuleOf : ∀ o, b'.world.simModuleOf o = b.world.simModuleOf o
  downstreamPort : ∀ objs name label,
    b'.world.downstreamPort objs name label = b.world.downstreamPort objs name label
  upstreamPort : ∀ objs name label,
    b'.world.upstreamPort objs name label = b.world.upstreamPort objs name label

theorem SameLookups.refl (b : Build) : SameLookups b b :=
  ⟨rfl, rfl, fun _ => rfl, fun _ _ _ => rfl, fun _ _ _ => rfl⟩

theorem SameLookups.trans {b₁ b₂ b₃ : Build} (h₁ : SameLookups b₁ b₂) (h₂ : SameLookups b₂ b₃) :
    SameLookups b₁ b₃ where
  objectInstances := h₂.objectInstances.trans h₁.objectInstances
  moduleInstances := h₂.moduleInstances.trans h₁.moduleInstances
  simModuleOf o := (h₂.simModuleOf o).trans (h₁.simModuleOf o)
  downstreamPort objs name label :=
    (h₂.downstreamPort objs name label).trans (h₁.downstreamPort objs name label)
  upstreamPort objs name label :=
    (h₂.upstreamPort objs name label).trans (h₁.upstreamPort objs name label)

/-- One `PortPair`. -/
def Build.pair (b : Build) (latency : Int) (src dst : PortRef) : Build :=
  { b with world := b.world.pair latency src dst }

/-- The `PortPair`s of one source port. -/
def Build.pairAll (b : Build) (latency : Int) (src : PortRef) (dsts : List PortRef) : Build :=
  dsts.foldl (fun b dst => b.pair latency src dst) b

/-- The object behind a number, after a `PortPair`. -/
theorem objects_pair (w : World) (latency : Int) (src dst : PortRef) (o : ObjId) :
    (w.pair latency src dst).objects[o]? = (w.objects[o]?).map fun s =>
      if src.obj = o then { s with ports := s.ports.map (·.setDelay src.index latency) } else s := by
  show (w.objects.modify src.obj _)[o]? = _
  rw [List.getElem?_modify]
  by_cases h : src.obj = o
  · simp only [if_pos h]
    rfl
  · simp only [if_neg h]
    rfl

theorem portOf_pair (w : World) (latency : Int) (src dst : PortRef)
    {find : PortManager → String → Option Nat}
    (hfind : ∀ pm i d label, find (pm.setDelay i d) label = find pm label)
    (objs : List (String × ObjId)) (name label : String) :
    (w.pair latency src dst).portOf objs find name label = w.portOf objs find name label := by
  unfold World.portOf
  cases objs.lookup name with
  | none => rfl
  | some o =>
      show (((w.pair latency src dst).objects[o]?).bind _) = ((w.objects[o]?).bind _)
      rw [objects_pair]
      cases w.objects[o]? with
      | none => rfl
      | some s =>
          simp only [Option.map_some, Option.bind_some]
          split
          · cases s.ports with
            | none => rfl
            | some pm =>
                show (find (pm.setDelay src.index latency) label).bind _ = (find pm label).bind _
                rw [hfind]
          · rfl

theorem sameLookups_pair (b : Build) (latency : Int) (src dst : PortRef) :
    SameLookups b (b.pair latency src dst) where
  objectInstances := rfl
  moduleInstances := rfl
  simModuleOf o := by
    show ((b.world.pair latency src dst).objects[o]?).bind _ = (b.world.objects[o]?).bind _
    rw [objects_pair]
    cases b.world.objects[o]? with
    | none => rfl
    | some s =>
        simp only [Option.map_some, Option.bind_some]
        split <;> rfl
  downstreamPort := portOf_pair b.world latency src dst fun _ _ _ _ => rfl
  upstreamPort := portOf_pair b.world latency src dst fun _ _ _ _ => rfl

theorem sameLookups_pairAll (b : Build) (latency : Int) (src : PortRef) (dsts : List PortRef) :
    SameLookups b (b.pairAll latency src dsts) := by
  induction dsts generalizing b with
  | nil => exact SameLookups.refl b
  | cons dst dsts ih => exact (sameLookups_pair b latency src dst).trans (ih _)

theorem findInternalPath_eq {b b' : Build} (h : SameLookups b b') (ptr : Option ObjId)
    (label : String) : findInternalPath b'.world ptr label = findInternalPath b.world ptr label := by
  have hs : b'.world.simModuleOf = b.world.simModuleOf := funext h.simModuleOf
  rw [findInternalPath, findInternalPath, hs]

theorem findPort_eq {b b' : Build} (h : SameLookups b b')
    {find find' : String → String → Option PortRef}
    (hf : ∀ name label, find' name label = find name label) (full : String) :
    findPort b' find' full = findPort b find full := by
  obtain rfl : find' = find := funext fun name => funext fun label => hf name label
  simp only [findPort, h.moduleInstances, findInternalPath_eq h]

/-- The source port a full name leads to. -/
def Build.srcPort (b : Build) : String → Except ConfigError (Option PortRef) :=
  findPort b (b.world.downstreamPort b.objectInstances)

/-- The destination port a full name leads to. -/
def Build.dstPort (b : Build) : String → Except ConfigError (Option PortRef) :=
  findPort b (b.world.upstreamPort b.objectInstances)

theorem srcPort_eq {b b' : Build} (h : SameLookups b b') : b'.srcPort = b.srcPort := by
  funext full
  refine findPort_eq h (fun name label => ?_) full
  rw [h.objectInstances]
  exact h.downstreamPort _ name label

theorem dstPort_eq {b b' : Build} (h : SameLookups b b') : b'.dstPort = b.dstPort := by
  funext full
  refine findPort_eq h (fun name label => ?_) full
  rw [h.objectInstances]
  exact h.upstreamPort _ name label

/-! ## 2. What the loops build -/

/-- The ports a list of names leads to. -/
def foundPorts (find : String → Except ConfigError (Option PortRef)) (names : List String) :
    Except ConfigError (List PortRef) := do
  let ports ← names.mapM find
  return ports.reduceOption

theorem foundPorts_cons (find : String → Except ConfigError (Option PortRef)) (name : String)
    (names : List String) :
    foundPorts find (name :: names) = (do
      let p ← find name
      let ps ← foundPorts find names
      return p.toList ++ ps) := by
  unfold foundPorts
  rw [List.mapM_cons]
  cases find name with
  | error e => rfl
  | ok p =>
      cases names.mapM find with
      | error e => rfl
      | ok ps => cases p <;> rfl

/-- The inner loop pairs the source port with every destination it finds. -/
theorem connectTo_eq (b : Build) (latency : Int) (src : Option PortRef) (names : List String) :
    connectTo b latency src names =
      (foundPorts b.dstPort names).map fun ds =>
        src.elim b fun s => b.pairAll latency s ds := by
  induction names generalizing b with
  | nil => cases src <;> rfl
  | cons name names ih =>
      unfold connectTo at ih ⊢
      rw [List.foldlM_cons, foundPorts_cons]
      show ((b.dstPort name >>= _) >>= _) = _
      cases hd : b.dstPort name with
      | error e => rfl
      | ok d =>
          cases src with
          | none =>
              refine (ih b).trans ?_
              cases foundPorts b.dstPort names <;> rfl
          | some s =>
              cases d with
              | none =>
                  refine (ih b).trans ?_
                  cases foundPorts b.dstPort names <;> rfl
              | some d =>
                  refine (ih (b.pair latency s d)).trans ?_
                  rw [dstPort_eq (sameLookups_pair b latency s d)]
                  cases foundPorts b.dstPort names <;> rfl

/-- The `PortPair`s of several source ports. -/
def Build.pairProduct (b : Build) (latency : Int) (srcs dsts : List PortRef) : Build :=
  srcs.foldl (fun b src => b.pairAll latency src dsts) b

theorem pairs_pairAll (b : Build) (latency : Int) (src : PortRef) (dsts : List PortRef) :
    (b.pairAll latency src dsts).world.pairs = b.world.pairs ++ dsts.map (Prod.mk src) := by
  induction dsts generalizing b with
  | nil => exact (List.append_nil _).symm
  | cons dst dsts ih =>
      show ((b.pair latency src dst).pairAll latency src dsts).world.pairs = _
      rw [ih]
      exact List.append_assoc b.world.pairs [(src, dst)] _

theorem pairs_pairProduct (b : Build) (latency : Int) (srcs dsts : List PortRef) :
    (b.pairProduct latency srcs dsts).world.pairs = b.world.pairs ++ srcs ×ˢ dsts := by
  induction srcs generalizing b with
  | nil => exact (List.append_nil _).symm
  | cons src srcs ih =>
      show ((b.pairAll latency src dsts).pairProduct latency srcs dsts).world.pairs = _
      rw [ih, pairs_pairAll, List.append_assoc, List.product_cons]

/-- **The loops build the product** of the ports on both sides. -/
theorem connectFrom_eq {b : Build} (latency : Int) {dstNames : List String} {ds : List PortRef}
    (hd : foundPorts b.dstPort dstNames = .ok ds) (srcNames : List String) :
    connectFrom b latency srcNames dstNames =
      (foundPorts b.srcPort srcNames).map fun ss => b.pairProduct latency ss ds := by
  induction srcNames generalizing b with
  | nil => rfl
  | cons name names ih =>
      unfold connectFrom at ih ⊢
      rw [List.foldlM_cons, foundPorts_cons]
      show ((b.srcPort name >>= fun s => connectTo b latency s dstNames) >>= _) = _
      cases hs : b.srcPort name with
      | error e => rfl
      | ok s =>
          show (connectTo b latency s dstNames >>= _) = _
          rw [connectTo_eq, hd]
          cases s with
          | none =>
              refine (ih hd).trans ?_
              cases foundPorts b.srcPort names <;> rfl
          | some s =>
              have hl := sameLookups_pairAll b latency s ds
              refine (ih (b := b.pairAll latency s ds) ((dstPort_eq hl).symm ▸ hd)).trans ?_
              rw [srcPort_eq hl]
              cases foundPorts b.srcPort names <;> rfl

/-- Nothing is asked about the destinations only when there is no source name. -/
theorem foundPorts_of_connectFrom {b b' : Build} {latency : Int} {srcNames dstNames : List String}
    (h : connectFrom b latency srcNames dstNames = .ok b') :
    srcNames = [] ∧ b' = b ∨ ∃ ds, foundPorts b.dstPort dstNames = .ok ds := by
  cases srcNames with
  | nil =>
      cases h
      exact Or.inl ⟨rfl, rfl⟩
  | cons name names =>
      unfold connectFrom at h
      rw [List.foldlM_cons] at h
      obtain ⟨b1, h1, _⟩ := Library.bind_eq_ok.mp h
      obtain ⟨s, _, h1⟩ := Library.bind_eq_ok.mp h1
      rw [connectTo_eq] at h1
      cases hd : foundPorts b.dstPort dstNames with
      | error e => rw [hd] at h1; cases h1
      | ok ds => exact Or.inr ⟨ds, rfl⟩

/-- Connections leave every lookup of the next ones alone. -/
theorem sameLookups_foldlM {P : Platform} {b b' : Build} {conns : List Json}
    (h : conns.foldlM (connect P) b = .ok b') : SameLookups b b' := by
  have hpair : PairKept (SameLookups b) := fun c latency src dst hc =>
    hc.trans (sameLookups_pair c latency src dst)
  exact hpair.connections (SameLookups.refl b) h

/-! ## 3. Point-to-point connections -/

/-- The names of the created instances, in the order of the map. -/
def Build.names (P : Platform) (b : Build) : List String := (P.order b.objectInstances).map Prod.fst

/-- A connection `{src: "M.p", dst: "N.q", latency: d}` between two plain instances, at the start
    of the connection step. -/
structure PointToPoint (P : Platform) (b : Build) (conn : Json) where
  srcModule : String
  srcLabel : String
  dstModule : String
  dstLabel : String
  latency : Int
  excludeList : Json
  srcPort : PortRef
  dstPort : PortRef
  src_eq : conn.stringAt "src" = .ok (srcModule ++ "." ++ srcLabel)
  dst_eq : conn.stringAt "dst" = .ok (dstModule ++ "." ++ dstLabel)
  latency_eq : conn.valueInt "latency" 0 = .ok latency
  exclude_eq : conn.valueOr "exclude" (.arr []) = .ok excludeList
  src_isPlain : isPlain (srcModule ++ "." ++ srcLabel) = true
  dst_isPlain : isPlain (dstModule ++ "." ++ dstLabel) = true
  /-- No exclude pattern matches, neither a spec nor an instance. -/
  not_excluded : ∀ name ∈ (srcModule ++ "." ++ srcLabel) :: (dstModule ++ "." ++ dstLabel) ::
    b.objectInstances.map Prod.fst, isExcluded P.regex name excludeList.elems = .ok false
  /-- The instances are no SimModules. -/
  srcModule_plain : b.moduleInstances.lookup srcModule = none
  dstModule_plain : b.moduleInstances.lookup dstModule = none
  /-- They have the ports. -/
  srcPort_found : b.world.downstreamPort b.objectInstances srcModule srcLabel = some srcPort
  dstPort_found : b.world.upstreamPort b.objectInstances dstModule dstLabel = some dstPort

/-- The names a plain spec stands for: the instances it matches, when it has one line. -/
def Build.namesOf (P : Platform) (b : Build) (spec : String) : List String :=
  if isOneLine spec then (b.names P).filter fun name => Wildcard.isMatch P.regex spec name
  else [spec]

theorem mem_names {P : Platform} {b : Build} {name : String} :
    name ∈ b.names P ↔ name ∈ b.objectInstances.map Prod.fst :=
  ((P.order_perm b.objectInstances).map Prod.fst).mem_iff

/-- Selection and exclusion for a plain spec that is not excluded. -/
theorem filterExcluded_select {P : Platform} {b : Build} {groups : List (String × List String)}
    {excludeList : Json} (spec : String) (hs : isPlain spec = true)
    (he : ∀ name ∈ spec :: b.objectInstances.map Prod.fst,
      isExcluded P.regex name excludeList.elems = .ok false) :
    filterExcluded P.regex (select P.regex groups (b.names P) spec) excludeList =
      .ok (b.namesOf P spec) := by
  rw [select_of_isPlain P.regex groups _ hs]
  refine filterExcluded_eq_self fun name hn => he name ?_
  split at hn
  · exact List.mem_cons_of_mem spec (mem_names.mp (List.mem_filter.mp hn).1)
  · rw [List.mem_singleton.mp hn]
    exact List.mem_cons_self

theorem product_eq_singleton {α β : Type} {l₁ : List α} {l₂ : List β} {x : α} {y : β} :
    l₁ ×ˢ l₂ = [(x, y)] ↔ l₁ = [x] ∧ l₂ = [y] := by
  refine ⟨fun h => ?_, fun ⟨h₁, h₂⟩ => by rw [h₁, h₂]; rfl⟩
  cases l₁ with
  | nil => cases h
  | cons a l₁ =>
      cases l₂ with
      | nil =>
          rw [List.product_nil] at h
          cases h
      | cons c l₂ =>
          rw [List.product_cons, List.map_cons, List.cons_append, List.cons.injEq,
            List.append_eq_nil_iff, List.map_eq_nil_iff] at h
          obtain ⟨hxy, hl₂, hl₁⟩ := h
          cases hxy
          cases l₁ with
          | nil => exact ⟨rfl, by rw [hl₂]⟩
          | cons a' l₁ => cases hl₁

/-- The delay is set on a port that exists. -/
theorem delayOf_pair {w : World} {objs : List (String × ObjId)} {name label : String}
    {src : PortRef} (h : w.downstreamPort objs name label = some src) (latency : Int)
    (dst : PortRef) : (w.pair latency src dst).delayOf src = some latency := by
  unfold World.downstreamPort World.portOf at h
  obtain ⟨o, _, h⟩ := Option.bind_eq_some_iff.mp h
  obtain ⟨s, hs, h⟩ := Option.bind_eq_some_iff.mp h
  obtain ⟨pm, hpm, h⟩ := Option.bind_eq_some_iff.mp h
  obtain ⟨i, hi, h⟩ := Option.bind_eq_some_iff.mp h
  cases h
  have hlt := PortManager.getDownstreamPort_lt hi
  show ((w.pair latency ⟨o, i⟩ dst).objects[o]?).bind _ = _
  rw [objects_pair, hs]
  simp only [Option.map_some, Option.bind_some, if_true, hpm]
  show ((pm.downstreamPorts.modify i _)[i]?).bind _ = _
  rw [List.getElem?_modify_eq, List.getElem?_eq_getElem hlt]
  rfl

namespace PointToPoint

variable {P : Platform} {b₀ : Build} {conn : Json} (d : PointToPoint P b₀ conn)

def srcSpec : String := d.srcModule ++ "." ++ d.srcLabel

def dstSpec : String := d.dstModule ++ "." ++ d.dstLabel

/-- The connection step, in state `b`, builds one `PortPair` for the connection, between its two
    ports, and sets the delay. -/
def Linked (b : Build) : Prop :=
  ∃ b', connect P b conn = .ok b' ∧
    b'.world.pairs = b.world.pairs ++ [(d.srcPort, d.dstPort)] ∧
    b'.world.delayOf d.srcPort = some d.latency

/-- The names the two specs stand for lead to the two ports, and to no other port. -/
def Leads : Prop :=
  foundPorts b₀.srcPort (b₀.namesOf P d.srcSpec) = .ok [d.srcPort] ∧
  foundPorts b₀.dstPort (b₀.namesOf P d.dstSpec) = .ok [d.dstPort]

/-- The step for the connection, once the names are known. -/
theorem connect_eq {b : Build} (h : SameLookups b₀ b) :
    connect P b conn =
      connectFrom b d.latency (b₀.namesOf P d.srcSpec) (b₀.namesOf P d.dstSpec) := by
  have hn : (P.order b.objectInstances).map Prod.fst = b₀.names P := by
    rw [h.objectInstances]
    rfl
  have hsrc : ∀ name ∈ d.srcSpec :: b₀.objectInstances.map Prod.fst,
      isExcluded P.regex name d.excludeList.elems = .ok false := by
    intro name hm
    refine d.not_excluded name ?_
    rcases List.mem_cons.mp hm with rfl | hm
    · exact List.mem_cons_self
    · exact List.mem_cons_of_mem _ (List.mem_cons_of_mem _ hm)
  have hdst : ∀ name ∈ d.dstSpec :: b₀.objectInstances.map Prod.fst,
      isExcluded P.regex name d.excludeList.elems = .ok false :=
    fun name hm => d.not_excluded name (List.mem_cons_of_mem _ hm)
  unfold connect
  rw [if_pos ⟨Json.contains_of_stringAt d.src_eq, Json.contains_of_stringAt d.dst_eq⟩, d.src_eq,
    d.dst_eq, d.latency_eq, d.exclude_eq]
  show (filterExcluded P.regex (select P.regex b.world.groups
    ((P.order b.objectInstances).map Prod.fst) d.srcSpec) d.excludeList >>= _) = _
  rw [hn, filterExcluded_select d.srcSpec d.src_isPlain hsrc]
  show (filterExcluded P.regex (select P.regex b.world.groups (b₀.names P) d.dstSpec)
    d.excludeList >>= _) = _
  rw [filterExcluded_select d.dstSpec d.dst_isPlain hdst]
  rfl

variable {b : Build} (pre : List Json) (h : pre.foldlM (connect P) b₀ = .ok b)

include h

theorem leads_of_linked (hlink : d.Linked b) : d.Leads := by
  have hl := sameLookups_foldlM h
  obtain ⟨b', hb', hp, _⟩ := hlink
  rw [d.connect_eq hl] at hb'
  rcases foundPorts_of_connectFrom hb' with ⟨_, rfl⟩ | ⟨ds, hds⟩
  · -- no source name: nothing is built
    exact absurd (List.self_eq_append_right.mp hp) (List.cons_ne_nil _ _)
  · rw [connectFrom_eq d.latency hds] at hb'
    cases hss : foundPorts b.srcPort (b₀.namesOf P d.srcSpec) with
    | error e => rw [hss] at hb'; cases hb'
    | ok ss =>
        rw [hss] at hb'
        cases hb'
        rw [pairs_pairProduct] at hp
        obtain ⟨rfl, rfl⟩ := product_eq_singleton.mp (List.append_cancel_left hp)
        rw [srcPort_eq hl] at hss
        rw [dstPort_eq hl] at hds
        exact ⟨hss, hds⟩

theorem linked_of_leads (hlead : d.Leads) : d.Linked b := by
  have hl := sameLookups_foldlM h
  obtain ⟨hs, ht⟩ := hlead
  rw [← srcPort_eq hl] at hs
  rw [← dstPort_eq hl] at ht
  refine ⟨b.pair d.latency d.srcPort d.dstPort, ?_, rfl, ?_⟩
  · rw [d.connect_eq hl, connectFrom_eq d.latency ht, hs]
    rfl
  · have hfound : b.world.downstreamPort b₀.objectInstances d.srcModule d.srcLabel =
        some d.srcPort := by
      rw [hl.downstreamPort]
      exact d.srcPort_found
    exact delayOf_pair hfound d.latency d.dstPort

/-- **The declared link is built exactly when the instances that match its specs lead to its
    ports.** `pre` are the connections before it in the configuration. -/
theorem linked_iff : d.Linked b ↔ d.Leads :=
  ⟨d.leads_of_linked pre h, d.linked_of_leads pre h⟩

end PointToPoint

/-! ## 4. Instances without a dot in their names -/

theorem foundPorts_of_dotless {b : Build} {find : String → String → Option PortRef}
    {names : List String} (h : ∀ name ∈ names, '.' ∉ name.toList) :
    foundPorts (findPort b find) names = .ok [] := by
  induction names with
  | nil => rfl
  | cons name names ih =>
      have hd : name.toList.dropWhile (· ≠ '.') = [] := by
        rw [List.dropWhile_eq_nil_iff]
        intro c hc
        have hne : c ≠ '.' := fun e => h name List.mem_cons_self (e ▸ hc)
        exact decide_eq_true hne
      have hx : parsePortSpec name = (name, "") := by
        unfold parsePortSpec
        rw [hd]
      have hf : findPort b find name = .ok none := by
        unfold findPort
        rw [hx]
        rfl
      rw [foundPorts_cons, hf, ih fun n hn => h n (List.mem_cons_of_mem name hn)]
      rfl

/-- Where no instance has a dot in its name, a declared link of one line is not built. -/
theorem PointToPoint.not_linked {P : Platform} {b₀ b : Build} {conn : Json}
    (d : PointToPoint P b₀ conn) (pre : List Json) (h : pre.foldlM (connect P) b₀ = .ok b)
    (hone : isOneLine d.srcSpec = true)
    (hdot : ∀ name ∈ b₀.objectInstances.map Prod.fst, '.' ∉ name.toList) : ¬ d.Linked b := by
  intro hlink
  obtain ⟨hs, _⟩ := d.leads_of_linked pre h hlink
  unfold Build.namesOf Build.srcPort at hs
  rw [if_pos hone, foundPorts_of_dotless fun name hn =>
    hdot name (mem_names.mp (List.mem_filter.mp hn).1)] at hs
  cases hs

/-! ## 5. One link -/

/-- `cpu.out` to `mem.in`, latency 2. -/
def cpuToMem : Json := .obj [("dst", .str "mem.in"), ("latency", .num 2), ("src", .str "cpu.out")]

def oneLink : Json :=
  .obj [("connections", .arr [cpuToMem]),
        ("modules", .arr [.obj [("name", .str "cpu"), ("type", .str "Source")],
                          .obj [("name", .str "mem"), ("type", .str "Sink")]])]

/-- A factory, and two classes whose constructors ask for the port manager. -/
def linkWorld : World :=
  { factories := [[]]
    registries := { objects := [("Sink", { ports := some {} }), ("Source", { ports := some {} })] } }

def linkPlatform : Platform := Platform.ofFiles [("link.json", oneLink)]

/-- The state in which the connection step starts. -/
def linkStart : Build :=
  match prepare linkPlatform (instantiateAll linkPlatform 0) oneLink linkWorld with
  | .ok b => b
  | .error _ => { world := linkWorld }

theorem prepare_oneLink :
    prepare linkPlatform (instantiateAll linkPlatform 0) oneLink linkWorld = .ok linkStart := by
  rfl

/-- The connection is a declared link, with both ports there. -/
def cpuToMemLink : PointToPoint linkPlatform linkStart cpuToMem where
  srcModule := "cpu"
  srcLabel := "out"
  dstModule := "mem"
  dstLabel := "in"
  latency := 2
  excludeList := .arr []
  srcPort := ⟨0, 0⟩
  dstPort := ⟨1, 0⟩
  src_eq := by decide
  dst_eq := by decide
  latency_eq := by decide
  exclude_eq := by rfl
  src_isPlain := by decide
  dst_isPlain := by decide
  not_excluded _ _ := rfl
  srcModule_plain := by decide
  dstModule_plain := by decide
  srcPort_found := by decide
  dstPort_found := by decide

theorem cpuToMem_linked_iff : cpuToMemLink.Linked linkStart ↔ cpuToMemLink.Leads :=
  cpuToMemLink.linked_iff [] rfl

/-- `instantiateAll` succeeds on `oneLink`, and no link is built: `cpu.out` is taken for a pattern
    that neither `cpu` nor `mem` matches. -/
theorem cpuToMem_not_linked :
    prepare linkPlatform (instantiateAll linkPlatform 0) oneLink linkWorld = .ok linkStart ∧
    oneLink.elemsAt "connections" = .ok [cpuToMem] ∧ ¬ cpuToMemLink.Linked linkStart ∧
    (instantiateAll linkPlatform 1 0 (.str "link.json") linkWorld).toOption.map World.pairs =
      some [] := by
  have hone : isOneLine cpuToMemLink.srcSpec = true := by decide
  have hdot : ∀ name ∈ linkStart.objectInstances.map Prod.fst, '.' ∉ name.toList := by decide
  exact ⟨prepare_oneLink, rfl, cpuToMemLink.not_linked [] rfl hone hdot, by decide⟩

end Gem5Sc
