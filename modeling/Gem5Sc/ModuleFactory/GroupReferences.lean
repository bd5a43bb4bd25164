/-
  File:      Gem5Sc/ModuleFactory/GroupReferences.lean
  Subject:   WHICH INSTANCES A `group:G` REFERENCE STANDS FOR.

  A group is written in one of two forms: a list of members, or an object with the members and a
  placement, as the topology dumper reads it. A member is the name of an instance or a pattern.
  What is meant by `group:G`: every created instance that a member names or matches, once, unless
  it is excluded (`GroupReference.Covers`).

  What the code does: step 3 reads every group as a list of strings, so an object form throws
  (`defineGroups_object`), and step 6 takes the members as they are written, without a look at the
  instances (`endNames_group`). That is right when the members are a complete list of names
  (`GroupReference.Listed`).
-/
import Gem5Sc.Library.KeyedList
import Gem5Sc.ModuleFactory.Groups

namespace Gem5Sc

/-! ## 1. Exclusion by strings -/

/-- One of the patterns matches the name. -/
def excludes (R : RegexEngine) (patterns : List String) (name : String) : Bool :=
  patterns.any fun pattern => Wildcard.isMatch R pattern name ||
    (RegexMatcher.isRegexPattern pattern && RegexMatcher.isMatch R pattern name)

theorem isExcluded_strings (R : RegexEngine) (patterns : List String) (name : String) :
    isExcluded R name (patterns.map Json.str) = .ok (excludes R patterns name) := by
  induction patterns with
  | nil => rfl
  | cons pattern patterns ih =>
      show (if _ then _ else isExcluded R name (patterns.map Json.str)) = _
      rw [ih]
      unfold excludes
      rw [List.any_cons]
      split
      · next h =>
          rw [h]
          rfl
      · next h =>
          rw [Bool.eq_false_of_not_eq_true h]
          rfl

/-- Exclusion is a filter when the exclude list has strings in it. -/
theorem filterExcluded_strings (R : RegexEngine) (patterns candidates : List String) :
    filterExcluded R candidates (.arr (patterns.map Json.str)) =
      .ok (candidates.filter fun name => !excludes R patterns name) := by
  induction candidates with
  | nil => rfl
  | cons name rest ih =>
      rw [filterExcluded]
      show (isExcluded R name (patterns.map Json.str) >>= _) = _
      rw [isExcluded_strings, ih]
      cases h : excludes R patterns name with
      | false =>
          rw [List.filter_cons_of_pos (by simp [h])]
          rfl
      | true =>
          rw [List.filter_cons_of_neg (by simp [h])]
          rfl

/-! ## 2. The two forms of a group -/

/-- How a group is written, and its members. -/
inductive GroupForm : Json → List String → Prop where
  | array (members : List String) : GroupForm (.arr (members.map Json.str)) members
  | object {kvs : List (String × Json)} {members : List String} {placement : String}
      (hmembers : kvs.lookup "members" = some (.arr (members.map Json.str)))
      (hplacement : kvs.lookup "placement" = some (.str placement)) : GroupForm (.obj kvs) members

/-- The array form. -/
def Json.IsArray (j : Json) : Prop := ∃ xs, j = .arr xs

theorem mapM_asString_strings (members : List String) :
    (members.map Json.str).mapM Json.asString = .ok members := by
  induction members with
  | nil => rfl
  | cons m members ih =>
      rw [List.map_cons, List.mapM_cons, ih]
      rfl

theorem asString_error {j : Json} {e : ConfigError} (h : j.asString = .error e) :
    e = .typeError := by
  unfold Json.asString at h
  split at h <;> cases h
  rfl

/-- Reading strings throws nothing but `type_error`. -/
theorem mapM_asString_error {l : List Json} {e : ConfigError}
    (h : l.mapM Json.asString = .error e) : e = .typeError := by
  induction l with
  | nil => cases h
  | cons j l ih =>
      rw [List.mapM_cons] at h
      cases hj : j.asString with
      | error e' =>
          rw [hj] at h
          cases h
          exact asString_error hj
      | ok s =>
          rw [hj] at h
          cases hl : l.mapM Json.asString with
          | error e' =>
              rw [hl] at h
              cases h
              exact ih hl
          | ok ss =>
              rw [hl] at h
              cases h

/-- A list with an array in it is no list of strings. -/
theorem mapM_asString_of_array {l : List Json} {xs : List Json} (h : Json.arr xs ∈ l) :
    l.mapM Json.asString = .error .typeError := by
  induction l with
  | nil => exact absurd h List.not_mem_nil
  | cons j l ih =>
      rw [List.mapM_cons]
      rcases List.mem_cons.mp h with rfl | h
      · rfl
      · rw [ih h]
        cases hj : j.asString with
        | error e =>
            rw [asString_error hj]
            rfl
        | ok s => rfl

/-- What step 3 does for one group of the section. -/
def defineGroup (w : World) (g : String × Json) : Except ConfigError World := do
  let members ← g.2.elems.mapM Json.asString
  return { w with groups := setKey w.groups g.1 members }

theorem defineGroups_eq (final : Json) (w : World) :
    defineGroups final w = (groupItems final).foldlM defineGroup w := rfl

/-- The array form is read, the object form throws: its `members` are no string. -/
theorem defineGroup_array (w : World) (G : String) (members : List String) :
    defineGroup w (G, .arr (members.map Json.str)) =
      .ok { w with groups := setKey w.groups G members } := by
  show ((members.map Json.str).mapM Json.asString >>= _) = _
  rw [mapM_asString_strings]
  rfl

theorem defineGroup_object (w : World) (G : String) {kvs : List (String × Json)} {xs : List Json}
    (h : kvs.lookup "members" = some (.arr xs)) :
    defineGroup w (G, .obj kvs) = .error .typeError := by
  obtain ⟨before, after, rfl, -⟩ := List.lookup_eq_some_iff.mp h
  show (((before ++ ("members", Json.arr xs) :: after).map Prod.snd).mapM Json.asString >>= _) = _
  rw [mapM_asString_of_array]
  · rfl
  · rw [List.map_append, List.map_cons]
    exact List.mem_append_right _ List.mem_cons_self

/-! ## 3. References -/

/-- A connection one end of which is `group:G`, in a configuration with a well-formed section of
    groups that has `G`. -/
structure GroupReference (final conn : Json) (key : String) where
  groups : List (String × Json)
  groups_eq : final.field? "groups" = some (.obj groups)
  /-- The keys of an object are distinct. -/
  distinct : (groups.map Prod.fst).Nodup
  wellFormed : ∀ g ∈ groups, ∃ members, GroupForm g.2 members
  G : String
  definition : Json
  mem_groups : (G, definition) ∈ groups
  members : List String
  form : GroupForm definition members
  ref_eq : conn.stringAt key = .ok ("group:" ++ G)
  patterns : List String
  exclude_eq : conn.valueOr "exclude" (.arr []) = .ok (.arr (patterns.map Json.str))

namespace GroupReference

variable {final conn : Json} {key : String} (c : GroupReference final conn key)

/-- `name` is what the reference is meant to stand for: a created instance that a member names or
    matches and no exclude pattern matches. -/
def Meant (R : RegexEngine) (b : Build) (name : String) : Prop :=
  name ∈ b.objectInstances.map Prod.fst ∧ excludes R c.patterns name = false ∧
    ∃ m ∈ c.members, name = m ∨ Wildcard.isMatch R m name = true

/-- With the instances `b` created, the section is taken without an exception, and wherever `G` is
    still what the section made it, the reference stands for the meant instances, once each. -/
def Covers (P : Platform) (b : Build) : Prop :=
  ∃ w, defineGroups final b.world = .ok w ∧
    ∀ b' : Build, b'.objectInstances = b.objectInstances →
      b'.world.groups.lookup c.G = w.groups.lookup c.G →
      ∃ names, endNames P b' conn key = .ok names ∧ names.Nodup ∧
        ∀ name, name ∈ names ↔ c.Meant P.regex b name

/-- The members that no exclude pattern matches. -/
def kept (R : RegexEngine) : List String := c.members.filter fun m => !excludes R c.patterns m

/-- The groups are lists, and the members of `G` are a complete list of names: what is not
    excluded of them is created and distinct, and no instance is matched without being listed. -/
structure Listed (R : RegexEngine) (b : Build) : Prop where
  arrays : ∀ g ∈ c.groups, g.2.IsArray
  distinct : (c.kept R).Nodup
  created : ∀ m ∈ c.kept R, m ∈ b.objectInstances.map Prod.fst
  complete : ∀ name ∈ b.objectInstances.map Prod.fst, excludes R c.patterns name = false →
    (∃ m ∈ c.members, Wildcard.isMatch R m name = true) → name ∈ c.members

theorem groupItems_eq : groupItems final = c.groups := by
  unfold groupItems
  rw [c.groups_eq]
  rfl

/-- **An object form anywhere in the section ends step 3.** -/
theorem defineGroups_object (h : ∃ g ∈ c.groups, ¬ g.2.IsArray) (w : World) :
    defineGroups final w = .error .typeError := by
  rw [defineGroups_eq, c.groupItems_eq]
  refine Library.foldlM_eq_error (fun g hg w e he => ?_) ?_ w
  · cases hm : g.2.elems.mapM Json.asString with
    | error e' =>
        unfold defineGroup at he
        rw [hm] at he
        cases he
        exact mapM_asString_error hm
    | ok ms =>
        unfold defineGroup at he
        rw [hm] at he
        cases he
  · obtain ⟨⟨G, j⟩, hg, harr⟩ := h
    refine ⟨(G, j), hg, fun w => ?_⟩
    obtain ⟨members, hform⟩ := c.wellFormed (G, j) hg
    cases hform with
    | array members => exact absurd ⟨_, rfl⟩ harr
    | object hmembers _ => exact defineGroup_object w G hmembers

/-- Lists are taken, and leave the members of `G` in the table. -/
theorem defineGroups_arrays (h : ∀ g ∈ c.groups, g.2.IsArray) (w : World) :
    ∃ w', defineGroups final w = .ok w' ∧ w'.groups.lookup c.G = some c.members := by
  have hlist : ∀ g ∈ c.groups, ∃ members : List String, g.2 = .arr (members.map Json.str) := by
    intro g hg
    obtain ⟨xs, hxs⟩ := h g hg
    obtain ⟨members, hform⟩ := c.wellFormed g hg
    rw [hxs] at hform
    cases hform
    exact ⟨members, hxs⟩
  obtain ⟨w', hw'⟩ : ∃ w', (groupItems final).foldlM defineGroup w = .ok w' := by
    rw [c.groupItems_eq]
    refine Library.foldlM_succeeds (fun g hg w => ?_) w
    obtain ⟨G, j⟩ := g
    obtain ⟨members, hm⟩ := hlist (G, j) hg
    cases hm
    exact ⟨_, defineGroup_array w G members⟩
  refine ⟨w', hw', ?_⟩
  obtain ⟨-, defs, hdefs, hlookup⟩ := lookup_define c.G hw'
  have hone : (groupItems final).filter (·.1 = c.G) = [(c.G, c.definition)] := by
    rw [c.groupItems_eq]
    exact Library.filter_key_eq_singleton c.distinct c.mem_groups
  have hdef : c.definition.elems.mapM Json.asString = .ok c.members := by
    have hform := c.form
    obtain ⟨xs, hxs : c.definition = .arr xs⟩ := h (c.G, c.definition) c.mem_groups
    rw [hxs] at hform ⊢
    cases hform
    exact mapM_asString_strings c.members
  rw [hone, List.mapM_cons, hdef] at hdefs
  cases hdefs
  rw [hlookup]
  rfl

theorem isGroupReference_group (G : String) :
    ModuleGroup.isGroupReference ("group:" ++ G) = true := by
  unfold ModuleGroup.isGroupReference beginsWith
  rw [String.toList_append, List.isPrefixOf_iff_prefix]
  exact List.prefix_append _ _

theorem extractGroupName_group (G : String) :
    ModuleGroup.extractGroupName ("group:" ++ G) = G := by
  unfold ModuleGroup.extractGroupName
  rw [if_pos (isGroupReference_group G), String.toList_append,
    List.drop_left' (by decide), String.ofList_toList]

/-- **Step 6 takes the members as they are written**, whatever the instances are. -/
theorem endNames_group {P : Platform} {b' : Build}
    (h : b'.world.groups.lookup c.G = some c.members) :
    endNames P b' conn key = .ok (c.kept P.regex) := by
  unfold endNames
  rw [c.ref_eq, c.exclude_eq]
  show filterExcluded P.regex (select P.regex b'.world.groups (b'.names P) ("group:" ++ c.G))
    (.arr (c.patterns.map Json.str)) = _
  unfold select ModuleGroup.resolve
  rw [if_pos (isGroupReference_group c.G), if_pos (isGroupReference_group c.G),
    extractGroupName_group, h]
  exact filterExcluded_strings P.regex c.patterns c.members

theorem mem_kept {R : RegexEngine} {name : String} :
    name ∈ c.kept R ↔ name ∈ c.members ∧ excludes R c.patterns name = false := by
  simp [kept]

/-- The members as they are written are right exactly when they are a complete list of names. -/
theorem kept_iff_meant {R : RegexEngine} {b : Build} (harr : ∀ g ∈ c.groups, g.2.IsArray) :
    (c.kept R).Nodup ∧ (∀ name, name ∈ c.kept R ↔ c.Meant R b name) ↔ c.Listed R b := by
  constructor
  · intro ⟨hnodup, hall⟩
    refine ⟨harr, hnodup, fun m hm => ((hall m).mp hm).1, fun name hname hex hm => ?_⟩
    obtain ⟨m, hm, hmatch⟩ := hm
    exact (c.mem_kept.mp ((hall name).mpr ⟨hname, hex, m, hm, Or.inr hmatch⟩)).1
  · intro h
    refine ⟨h.distinct, fun name => ⟨fun hname => ?_, ?_⟩⟩
    · obtain ⟨hm, hex⟩ := c.mem_kept.mp hname
      exact ⟨h.created name hname, hex, name, hm, Or.inl rfl⟩
    · rintro ⟨hname, hex, m, hm, rfl | hmatch⟩
      · exact c.mem_kept.mpr ⟨hm, hex⟩
      · exact c.mem_kept.mpr ⟨h.complete name hname hex ⟨m, hm, hmatch⟩, hex⟩

theorem covers_iff_listed (P : Platform) (b : Build) : c.Covers P b ↔ c.Listed P.regex b := by
  constructor
  · intro ⟨w, hw, hnames⟩
    have harr : ∀ g ∈ c.groups, g.2.IsArray := by
      intro g hg
      by_contra hobj
      rw [c.defineGroups_object ⟨g, hg, hobj⟩ b.world] at hw
      cases hw
    obtain ⟨w', hw', hlookup⟩ := c.defineGroups_arrays harr b.world
    rw [hw, Except.ok.injEq] at hw'
    subst hw'
    obtain ⟨names, hn, hnodup, hmem⟩ := hnames { b with world := w } rfl rfl
    rw [c.endNames_group hlookup] at hn
    cases hn
    exact (c.kept_iff_meant harr).mp ⟨hnodup, hmem⟩
  · intro h
    obtain ⟨w, hw, hlookup⟩ := c.defineGroups_arrays h.arrays b.world
    refine ⟨w, hw, fun b' _ hb' => ?_⟩
    exact ⟨c.kept P.regex, c.endNames_group (hb'.trans hlookup), (c.kept_iff_meant h.arrays).mpr h⟩

/-- **GROUP REFERENCES.** For every configuration with a well-formed section of groups, and
    whatever instances step 2 has created for it: a reference to a group stands for the meant
    instances if and only if the groups are lists and the members of that group are a complete
    list of names. A group in the other form ends `instantiateAll` with `type_error`. -/
theorem covers_iff {P : Platform} {fuel : Nat} {f : FactoryId} {config : Json} {w w₁ : World}
    {b : Build} (hinclude : P.includeStep config = .ok final)
    (hload : loadPlugins P final w = .ok w₁)
    (hcreate : createInstances final { world := w₁ } = .ok b) :
    (c.Covers P b ↔ c.Listed P.regex b) ∧
      ((∃ g ∈ c.groups, ¬ g.2.IsArray) →
        instantiateAll P (fuel + 1) f config w = .error .typeError) := by
  refine ⟨c.covers_iff_listed P b, fun h => ?_⟩
  unfold instantiateAll prepare
  rw [hinclude]
  show ((loadPlugins P final w >>= _) >>= _) = _
  rw [hload]
  show ((createInstances final { world := w₁ } >>= _) >>= _) = _
  rw [hcreate]
  show ((defineGroups final b.world >>= _) >>= _) = _
  rw [c.defineGroups_object h]
  rfl

end GroupReference

/-! ## 4. Two routers -/

/-- From the group of all routers to a hub. -/
def routersToHub : Json := .obj [("dst", .str "hub"), ("src", .str "group:routers")]

/-- A hub and two routers, with the group of all routers in one of the two forms. -/
def routersConfig (routers : Json) : Json :=
  .obj [("connections", .arr [routersToHub]),
        ("groups", .obj [("routers", routers)]),
        ("modules", .arr [.obj [("name", .str "hub"), ("type", .str "Crossbar")],
                          .obj [("name", .str "router_0"), ("type", .str "Router")],
                          .obj [("name", .str "router_1"), ("type", .str "Router")]])]

def routersList : Json := .arr [.str "router_*"]

def routersGrid : Json := .obj [("members", routersList), ("placement", .str "grid")]

def routersPlatform : Platform :=
  Platform.ofFiles
    [("list.json", routersConfig routersList), ("grid.json", routersConfig routersGrid)]

def routersWorld : World :=
  { factories := [[]], registries := { objects := [("Crossbar", {}), ("Router", {})] } }

/-- The three instances. -/
def routersCreated (routers : Json) : Build :=
  match createInstances (routersConfig routers) { world := routersWorld } with
  | .ok b => b
  | .error _ => { world := routersWorld }

def routersReference : GroupReference (routersConfig routersList) routersToHub "src" where
  groups := [("routers", routersList)]
  groups_eq := rfl
  distinct := by decide
  wellFormed g hg := by
    rw [List.mem_singleton.mp hg]
    exact ⟨["router_*"], GroupForm.array ["router_*"]⟩
  G := "routers"
  definition := routersList
  mem_groups := List.mem_singleton.mpr rfl
  members := ["router_*"]
  form := GroupForm.array ["router_*"]
  ref_eq := by decide
  patterns := []
  exclude_eq := rfl

theorem routersReference_covers_iff :
    (routersReference.Covers routersPlatform (routersCreated routersList) ↔
      routersReference.Listed plainRegex (routersCreated routersList)) ∧
      ((∃ g ∈ routersReference.groups, ¬ g.2.IsArray) →
        instantiateAll routersPlatform 1 0 (.str "list.json") routersWorld =
          .error .typeError) := by
  have hload : loadPlugins routersPlatform (routersConfig routersList) routersWorld =
      .ok routersWorld := rfl
  exact routersReference.covers_iff rfl hload rfl

/-- `router_*` in a list stands for the name `router_*`, which no instance has; and the same member
    in the other form ends `instantiateAll`. -/
theorem routers_not_covered :
    (routersCreated routersList).objectInstances.map Prod.fst = ["router_1", "router_0", "hub"] ∧
      ¬ routersReference.Covers routersPlatform (routersCreated routersList) ∧
      instantiateAll routersPlatform 1 0 (.str "grid.json") routersWorld = .error .typeError := by
  refine ⟨by decide, fun h => ?_, by rfl⟩
  have hlisted := (routersReference.covers_iff_listed _ _).mp h
  have hcreated := hlisted.created "router_*" (routersReference.mem_kept.mpr ⟨by decide, by decide⟩)
  revert hcreated
  decide

end Gem5Sc
