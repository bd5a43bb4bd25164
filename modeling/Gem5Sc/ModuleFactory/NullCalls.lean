/-
  File:      Gem5Sc/ModuleFactory/NullCalls.lean
  Subject:   WHEN `instantiateAll` CALLS A MEMBER FUNCTION THROUGH A NULL POINTER.

  Two steps take the pointer behind a name and call through it without a look at it. Step 2 sets
  the layout of the object it has just created, or has not, when the type is unknown. Steps 5 and
  6 search the label of an end `M.p` through `module_instances[M]` whenever `M` has an entry there;
  step 4 has created one for every module with a `config`, a null pointer where `M` is no SimModule.

  `PointerUse` is such a use, with what the configuration and the registries have to say about the
  name (`PointerUse.Safe`). `Reached` are the uses a run comes to. A run ends in a null call exactly
  when it reaches a use that is not safe (`nullCall_iff`), at any nesting depth.
-/
import Gem5Sc.ModuleFactory.Exposed
import Gem5Sc.ModuleFactory.Pointers

namespace Gem5Sc

/-! ## 1. What throws something else -/

/-- The computation ends in no null call. -/
def NeverNull {α : Type} (x : Except ConfigError α) : Prop :=
  Library.Throws (· ≠ ConfigError.nullCall) x

theorem NeverNull.ne {α : Type} {x : Except ConfigError α} (h : NeverNull x) :
    x ≠ .error .nullCall := fun hx => h .nullCall hx rfl

/-- A sequence whose first part ends in no null call. -/
theorem NeverNull.bind_eq_nullCall {α β : Type} {x : Except ConfigError α}
    {f : α → Except ConfigError β} (hx : NeverNull x) :
    (x >>= f) = .error .nullCall ↔ ∃ a, x = .ok a ∧ f a = .error .nullCall := by
  rw [Library.bind_eq_error]
  exact or_iff_right hx.ne

theorem NeverNull.typeError {α : Type} : NeverNull (.error .typeError : Except ConfigError α) :=
  Library.Throws.error (by decide)

section Json

variable (j : Json) (k : String)

theorem neverNull_asString : NeverNull j.asString := by
  cases j with
  | str s => exact Library.Throws.ok s
  | _ => exact NeverNull.typeError

theorem neverNull_asInteger : NeverNull j.asInteger := by
  cases j with
  | num n => exact Library.Throws.ok n
  | bool b => exact Library.Throws.ok _
  | _ => exact NeverNull.typeError

theorem neverNull_asSize : NeverNull j.asSize := by
  cases j with
  | num n => exact Library.Throws.ok _
  | _ => exact NeverNull.typeError

theorem neverNull_stringAt : NeverNull (j.stringAt k) := by
  unfold Json.stringAt
  split
  · exact neverNull_asString _
  · exact NeverNull.typeError

theorem neverNull_valueOr (d : Json) : NeverNull (j.valueOr k d) := by
  cases j with
  | obj kvs => exact Library.Throws.ok _
  | _ => exact NeverNull.typeError

theorem neverNull_valueInt (d : Int) : NeverNull (j.valueInt k d) :=
  Library.Throws.bind (neverNull_valueOr j k _) fun v =>
    Library.Throws.bind (neverNull_asInteger v) fun _ => Library.Throws.ok _

theorem neverNull_valueString (d : String) : NeverNull (j.valueString k d) :=
  Library.Throws.bind (neverNull_valueOr j k _) fun v => neverNull_asString v

theorem neverNull_elemsAt : NeverNull (j.elemsAt k) := by
  cases j with
  | obj kvs => exact Library.Throws.ok _
  | null => exact Library.Throws.ok _
  | _ => exact NeverNull.typeError

theorem neverNull_bufferSizes : NeverNull (bufferSizes j k) :=
  Library.Throws.bind (Library.Throws.mapM fun x _ => neverNull_asSize x) fun _ =>
    Library.Throws.ok _

theorem neverNull_vcPriorities : NeverNull (vcPriorities j) :=
  Library.Throws.mapM fun x _ => neverNull_asSize x

end Json

theorem neverNull_loadPlugins (P : Platform) (final : Json) (w : World) :
    NeverNull (loadPlugins P final w) :=
  Library.Throws.foldlM (fun _ path _ =>
    Library.Throws.bind (neverNull_asString path) fun _ => Library.Throws.ok _) w

theorem neverNull_defineGroups (final : Json) (w : World) : NeverNull (defineGroups final w) :=
  Library.Throws.foldlM (fun _ _ _ =>
    Library.Throws.bind (Library.Throws.mapM fun x _ => neverNull_asString x) fun _ =>
      Library.Throws.ok _) w

theorem neverNull_parsePortConfigs (cfg : Json) (s : SimModule) :
    NeverNull (parsePortConfigs cfg s) := by
  have hitem : ∀ item, NeverNull (parsePortConfig item) := fun item =>
    Library.Throws.bind (neverNull_valueString item _ _) fun _ =>
      Library.Throws.bind (neverNull_valueString item _ _) fun _ => Library.Throws.ok _
  exact Library.Throws.bind (Library.Throws.mapM fun x _ => hitem x) fun _ =>
    Library.Throws.bind (Library.Throws.mapM fun x _ => hitem x) fun _ => Library.Throws.ok _

theorem neverNull_isExcluded (R : RegexEngine) (name : String) (es : List Json) :
    NeverNull (isExcluded R name es) := by
  induction es with
  | nil => exact Library.Throws.ok _
  | cons e es ih =>
      refine Library.Throws.bind (neverNull_asString e) fun pattern => ?_
      split
      · exact Library.Throws.ok _
      · exact ih

theorem neverNull_filterExcluded (R : RegexEngine) (candidates : List String) (excludeList : Json) :
    NeverNull (filterExcluded R candidates excludeList) := by
  induction candidates with
  | nil => exact Library.Throws.ok _
  | cons name rest ih =>
      exact Library.Throws.bind (neverNull_isExcluded R name _) fun _ =>
        Library.Throws.bind ih fun _ => Library.Throws.ok _

/-! ## 2. Where each step ends in a null call -/

/-- The entry asks for a layout, which step 2 sets on the object behind its name. -/
structure Placed (entry : Json) (name : String) : Prop where
  named : ∃ type, moduleEntry entry = some (name, type)
  placed : ∃ l x y, entry.field? "layout" = some l ∧ l.valueInt "x" (-1) = .ok x ∧
    l.valueInt "y" (-1) = .ok y ∧ x ≥ 0 ∧ y ≥ 0

theorem createInstance_nullCall {r : Registries} {entries : List Json} {b : Build} {entry : Json}
    (hb : Pointers r entries b) :
    createInstance b entry = .error .nullCall ↔
      ∃ name, Placed entry name ∧ ¬ Declared r.has (entries ++ [entry]) name := by
  constructor
  · intro h
    unfold createInstance at h
    split at h
    · obtain ⟨name, hname, h⟩ := (neverNull_stringAt entry "name").bind_eq_nullCall.mp h
      obtain ⟨type, htype, h⟩ := (neverNull_stringAt entry "type").bind_eq_nullCall.mp h
      have hentry := moduleEntry_eq_some hname htype
      split at h
      · cases h
      · next l hl =>
          obtain ⟨x, hx, h⟩ := (neverNull_valueInt l "x" (-1)).bind_eq_nullCall.mp h
          obtain ⟨y, hy, h⟩ := (neverNull_valueInt l "y" (-1)).bind_eq_nullCall.mp h
          split at h
          · next hxy =>
              refine ⟨name, ⟨⟨type, hentry⟩, l, x, y, hl, hx, hy, hxy⟩, ?_⟩
              unfold setLayout at h
              split at h
              · next hnone => exact ((newInstance_pointers hb hentry).objects name).mp hnone
              · cases h
          · cases h
    · cases h
  · intro ⟨name, ⟨⟨type, hentry⟩, l, x, y, hl, hx, hy, hxy⟩, hunknown⟩
    obtain ⟨hname, htype⟩ := stringAt_of_moduleEntry hentry
    have hnone := ((newInstance_pointers hb hentry).objects name).mpr hunknown
    unfold createInstance
    rw [if_pos ⟨Json.contains_of_stringAt hname, Json.contains_of_stringAt htype⟩, hname, htype]
    refine Library.bind_eq_error.mpr (Or.inr ⟨name, rfl, ?_⟩)
    refine Library.bind_eq_error.mpr (Or.inr ⟨type, rfl, ?_⟩)
    dsimp only
    rw [hl]
    refine Library.bind_eq_error.mpr (Or.inr ⟨x, hx, ?_⟩)
    refine Library.bind_eq_error.mpr (Or.inr ⟨y, hy, ?_⟩)
    rw [if_pos hxy, setLayout, hnone]

/-- The call that step 4 makes for the entry. -/
def NestedCall (P : Platform) (b : Build) (entry : Json) (f : FactoryId) (cfg : Json) : Prop :=
  ∃ config name file o s, entry.field? "config" = some config ∧ entry.stringAt "name" = .ok name ∧
    config.asString = .ok file ∧ b.moduleInstances.lookup name = some (some o) ∧
    b.world.simModuleOf o = some s ∧ s.internalFactory = f ∧ P.files file = some (some cfg)

theorem instantiateModule_nullCall {nested : FactoryId → Json → World → Except ConfigError World}
    {o : ObjId} {s : SimModule} {cfg : Json} {w : World} :
    instantiateModule nested o s cfg w = .error .nullCall ↔
      nested s.internalFactory cfg w = .error .nullCall := by
  refine ⟨fun h => ?_, fun h => Library.bind_eq_error.mpr (Or.inl h)⟩
  rcases Library.bind_eq_error.mp h with h | ⟨w', -, h⟩
  · exact h
  · obtain ⟨s', -, h⟩ := (neverNull_parsePortConfigs cfg s).bind_eq_nullCall.mp h
    cases h

theorem instantiateEntry_nullCall {P : Platform}
    {nested : FactoryId → Json → World → Except ConfigError World} {b : Build} {entry : Json} :
    instantiateEntry P nested b entry = .error .nullCall ↔
      ∃ f cfg, NestedCall P b entry f cfg ∧ nested f cfg b.world = .error .nullCall := by
  constructor
  · intro h
    unfold instantiateEntry at h
    split at h
    · cases h
    · next config hconfig =>
        obtain ⟨name, hname, h⟩ := (neverNull_stringAt entry "name").bind_eq_nullCall.mp h
        dsimp only at h
        rw [lookup_touchModule, if_pos rfl, Option.join_some, world_touchModule] at h
        split at h
        · cases h
        · next o ho =>
            obtain ⟨file, hfile, h⟩ := (neverNull_asString config).bind_eq_nullCall.mp h
            split at h
            · cases h
            · cases h
            · cases h
            · next cfg s hcfg hs =>
                rcases Library.bind_eq_error.mp h with h | ⟨w, -, h⟩
                · exact ⟨s.internalFactory, cfg,
                    ⟨config, name, file, o, s, hconfig, hname, hfile, Option.join_eq_some_iff.mp ho,
                      hs, rfl, hcfg⟩, instantiateModule_nullCall.mp h⟩
                · cases h
  · rintro ⟨f, cfg, ⟨config, name, file, o, s, hconfig, hname, hfile, ho, hs, rfl, hcfg⟩, hn⟩
    unfold instantiateEntry
    rw [hconfig]
    refine Library.bind_eq_error.mpr (Or.inr ⟨name, hname, ?_⟩)
    dsimp only
    rw [lookup_touchModule, if_pos rfl, Option.join_some, world_touchModule, ho]
    refine Library.bind_eq_error.mpr (Or.inr ⟨file, hfile, ?_⟩)
    rw [hcfg, hs]
    exact Library.bind_eq_error.mpr (Or.inl (instantiateModule_nullCall.mpr hn))

/-- The label of the spec is searched through a null pointer. -/
def Build.NullEnd (b : Build) (spec : String) : Prop :=
  (parsePortSpec spec).2 ≠ "" ∧ ∃ ptr, b.moduleInstances.lookup (parsePortSpec spec).1 = some ptr ∧
    ptr.bind b.world.simModuleOf = none

theorem findInternalPath_eq_error {w : World} {ptr : Option ObjId} {label : String}
    {e : ConfigError} :
    findInternalPath w ptr label = .error e ↔ e = .nullCall ∧ ptr.bind w.simModuleOf = none := by
  unfold findInternalPath
  split
  · next s hs => simp [hs]
  · next hnone => simp [hnone, eq_comm]

theorem endpointPort_nullCall {b : Build} {conn : Json} {spec key : String} {isUpstream : Bool} :
    endpointPort b conn spec key isUpstream = .error .nullCall ↔ b.NullEnd spec := by
  unfold endpointPort Build.NullEnd
  by_cases hlabel : (parsePortSpec spec).2 = ""
  · simp only [hlabel, if_true, ne_eq, not_true_eq_false, false_and, iff_false]
    exact nofun
  · simp only [hlabel, if_false, ne_eq, not_false_eq_true, true_and]
    cases b.moduleInstances.lookup (parsePortSpec spec).1 with
    | none =>
        refine iff_of_false ?_ (fun ⟨ptr, hptr, _⟩ => nomatch hptr)
        refine NeverNull.ne (Library.Throws.bind (neverNull_bufferSizes conn key) fun _ => ?_)
        split
        · exact Library.Throws.ok _
        · exact Library.Throws.bind (neverNull_vcPriorities conn) fun _ => Library.Throws.ok _
    | some ptr =>
        constructor
        · intro h
          rcases Library.bind_eq_error.mp h with h | ⟨path, -, h⟩
          · exact ⟨ptr, rfl, (findInternalPath_eq_error.mp h).2⟩
          · split at h
            · cases h
            · refine absurd h (NeverNull.ne ?_)
              exact Library.Throws.bind (neverNull_bufferSizes conn key) fun _ =>
                Library.Throws.bind (neverNull_vcPriorities conn) fun _ => Library.Throws.ok _
        · intro ⟨ptr', hptr, hnull⟩
          cases hptr
          exact Library.bind_eq_error.mpr (Or.inl (findInternalPath_eq_error.mpr ⟨rfl, hnull⟩))

theorem findPort_eq_error {b : Build} {find : String → String → Option PortRef} {full : String}
    {e : ConfigError} : findPort b find full = .error e ↔ e = .nullCall ∧ b.NullEnd full := by
  unfold findPort Build.NullEnd
  by_cases hlabel : (parsePortSpec full).2 = ""
  · simp only [hlabel, if_true, ne_eq, not_true_eq_false, false_and, and_false, iff_false]
    exact nofun
  · simp only [hlabel, if_false, ne_eq, not_false_eq_true, true_and]
    cases b.moduleInstances.lookup (parsePortSpec full).1 with
    | none => exact iff_of_false nofun fun ⟨_, ptr, hptr, _⟩ => nomatch hptr
    | some ptr =>
        constructor
        · intro h
          rcases Library.bind_eq_error.mp h with h | ⟨path, -, h⟩
          · obtain ⟨he, hnull⟩ := findInternalPath_eq_error.mp h
            exact ⟨he, ptr, rfl, hnull⟩
          · split at h <;> cases h
        · rintro ⟨rfl, ptr', hptr, hnull⟩
          cases hptr
          exact Library.bind_eq_error.mpr (Or.inl (findInternalPath_eq_error.mpr ⟨rfl, hnull⟩))

theorem foundPorts_eq_error {b : Build} {find : String → String → Option PortRef}
    {names : List String} {e : ConfigError} :
    foundPorts (findPort b find) names = .error e ↔
      e = .nullCall ∧ ∃ full ∈ names, b.NullEnd full := by
  have honly : ∀ full ∈ names, Library.Throws (· = .nullCall) (findPort b find full) :=
    fun full _ e he => (findPort_eq_error.mp he).1
  have hmap : foundPorts (findPort b find) names = .error e ↔
      names.mapM (findPort b find) = .error e := by
    unfold foundPorts
    rw [Library.bind_eq_error]
    exact or_iff_left (fun ⟨_, _, h⟩ => nomatch h)
  rw [hmap]
  constructor
  · intro h
    obtain rfl := Library.Throws.mapM honly e h
    obtain ⟨full, hfull, hnull⟩ := (Library.mapM_eq_error_of_only honly).mp h
    exact ⟨rfl, full, hfull, (findPort_eq_error.mp hnull).2⟩
  · rintro ⟨rfl, full, hfull, hnull⟩
    exact (Library.mapM_eq_error_of_only honly).mpr
      ⟨full, hfull, findPort_eq_error.mpr ⟨rfl, hnull⟩⟩

/-- Both loops together: the destinations are looked up when there is a source. -/
theorem connectFrom_nullCall {b : Build} {latency : Int} {srcNames dstNames : List String} :
    connectFrom b latency srcNames dstNames = .error .nullCall ↔
      ∃ full, (full ∈ srcNames ∨ srcNames ≠ [] ∧ full ∈ dstNames) ∧ b.NullEnd full := by
  cases hd : foundPorts b.dstPort dstNames with
  | ok ds =>
      have hdst : ∀ full ∈ dstNames, ¬ b.NullEnd full := fun full hfull hnull =>
        nomatch hd.symm.trans (foundPorts_eq_error.mpr ⟨rfl, full, hfull, hnull⟩)
      have hsrc : connectFrom b latency srcNames dstNames = .error .nullCall ↔
          foundPorts b.srcPort srcNames = .error .nullCall := by
        rw [connectFrom_eq latency hd]
        cases foundPorts b.srcPort srcNames with
        | error e =>
            constructor
            · intro h
              cases h
              rfl
            · intro h
              cases h
              rfl
        | ok ss => exact iff_of_false nofun nofun
      rw [hsrc]
      refine foundPorts_eq_error.trans ((and_iff_right rfl).trans ?_)
      constructor
      · intro ⟨full, hfull, hnull⟩
        exact ⟨full, Or.inl hfull, hnull⟩
      · rintro ⟨full, hfull | ⟨-, hfull⟩, hnull⟩
        · exact ⟨full, hfull, hnull⟩
        · exact absurd hnull (hdst full hfull)
  | error e =>
      obtain ⟨rfl, full, hfull, hnull⟩ := foundPorts_eq_error.mp hd
      cases srcNames with
      | nil =>
          refine iff_of_false nofun ?_
          rintro ⟨_, h | ⟨h, -⟩, -⟩
          · exact List.not_mem_nil h
          · exact h rfl
      | cons name names =>
          refine iff_of_true ?_ ⟨full, Or.inr ⟨List.cons_ne_nil _ _, hfull⟩, hnull⟩
          unfold connectFrom
          rw [List.foldlM_cons]
          refine Library.bind_eq_error.mpr (Or.inl ?_)
          cases hs : findPort b (b.world.downstreamPort b.objectInstances) name with
          | error e =>
              rw [(findPort_eq_error.mp hs).1]
              rfl
          | ok s =>
              show connectTo b latency s dstNames = _
              rw [connectTo_eq, hd]
              rfl

/-- The ends whose ports step 5 creates for a connection. -/
def PortEnd (b : Build) (conn : Json) (full : String) : Prop :=
  ∃ src dst latency, conn.stringAt "src" = .ok src ∧ conn.stringAt "dst" = .ok dst ∧
    conn.valueInt "latency" 0 = .ok latency ∧
    (full = src ∨
      full = dst ∧ ∃ infos, endpointPort b conn src "output_buffer_sizes" false = .ok infos)

theorem portCreations_nullCall {b : Build} {conn : Json} :
    portCreations b conn = .error .nullCall ↔ ∃ full, PortEnd b conn full ∧ b.NullEnd full := by
  constructor
  · intro h
    unfold portCreations at h
    split at h
    · obtain ⟨src, hsrc, h⟩ := (neverNull_stringAt conn "src").bind_eq_nullCall.mp h
      obtain ⟨dst, hdst, h⟩ := (neverNull_stringAt conn "dst").bind_eq_nullCall.mp h
      obtain ⟨latency, hlatency, h⟩ := (neverNull_valueInt conn "latency" 0).bind_eq_nullCall.mp h
      rcases Library.bind_eq_error.mp h with h | ⟨down, hdown, h⟩
      · exact ⟨src, ⟨src, dst, latency, hsrc, hdst, hlatency, Or.inl rfl⟩,
          endpointPort_nullCall.mp h⟩
      rcases Library.bind_eq_error.mp h with h | ⟨up, -, h⟩
      · exact ⟨dst, ⟨src, dst, latency, hsrc, hdst, hlatency, Or.inr ⟨rfl, down, hdown⟩⟩,
          endpointPort_nullCall.mp h⟩
      · cases h
    · cases h
  · intro ⟨full, ⟨src, dst, latency, hsrc, hdst, hlatency, hfull⟩, hnull⟩
    unfold portCreations
    rw [if_pos ⟨Json.contains_of_stringAt hsrc, Json.contains_of_stringAt hdst⟩]
    refine Library.bind_eq_error.mpr (Or.inr ⟨src, hsrc, ?_⟩)
    refine Library.bind_eq_error.mpr (Or.inr ⟨dst, hdst, ?_⟩)
    refine Library.bind_eq_error.mpr (Or.inr ⟨latency, hlatency, ?_⟩)
    rcases hfull with rfl | ⟨rfl, down, hdown⟩
    · exact Library.bind_eq_error.mpr (Or.inl (endpointPort_nullCall.mpr hnull))
    · refine Library.bind_eq_error.mpr (Or.inr ⟨down, hdown, ?_⟩)
      exact Library.bind_eq_error.mpr (Or.inl (endpointPort_nullCall.mpr hnull))

/-- The ends whose ports step 6 looks up for a connection. -/
def BoundEnd (P : Platform) (b : Build) (conn : Json) (full : String) : Prop :=
  ∃ src dst latency excludeList srcNames dstNames, conn.stringAt "src" = .ok src ∧
    conn.stringAt "dst" = .ok dst ∧ conn.valueInt "latency" 0 = .ok latency ∧
    conn.valueOr "exclude" (.arr []) = .ok excludeList ∧
    filterExcluded P.regex (select P.regex b.world.groups (b.names P) src) excludeList =
      .ok srcNames ∧
    filterExcluded P.regex (select P.regex b.world.groups (b.names P) dst) excludeList =
      .ok dstNames ∧
    (full ∈ srcNames ∨ srcNames ≠ [] ∧ full ∈ dstNames)

theorem connect_nullCall {P : Platform} {b : Build} {conn : Json} :
    connect P b conn = .error .nullCall ↔ ∃ full, BoundEnd P b conn full ∧ b.NullEnd full := by
  constructor
  · intro h
    unfold connect at h
    split at h
    · obtain ⟨src, hsrc, h⟩ := (neverNull_stringAt conn "src").bind_eq_nullCall.mp h
      obtain ⟨dst, hdst, h⟩ := (neverNull_stringAt conn "dst").bind_eq_nullCall.mp h
      obtain ⟨latency, hlatency, h⟩ := (neverNull_valueInt conn "latency" 0).bind_eq_nullCall.mp h
      obtain ⟨excludeList, hexclude, h⟩ :=
        (neverNull_valueOr conn "exclude" _).bind_eq_nullCall.mp h
      obtain ⟨srcNames, hs, h⟩ := (neverNull_filterExcluded _ _ _).bind_eq_nullCall.mp h
      obtain ⟨dstNames, hd, h⟩ := (neverNull_filterExcluded _ _ _).bind_eq_nullCall.mp h
      obtain ⟨full, hfull, hnull⟩ := connectFrom_nullCall.mp h
      exact ⟨full, ⟨src, dst, latency, excludeList, srcNames, dstNames, hsrc, hdst, hlatency,
        hexclude, hs, hd, hfull⟩, hnull⟩
    · cases h
  · intro ⟨full, ⟨src, dst, latency, excludeList, srcNames, dstNames, hsrc, hdst, hlatency,
      hexclude, hs, hd, hfull⟩, hnull⟩
    unfold connect
    rw [if_pos ⟨Json.contains_of_stringAt hsrc, Json.contains_of_stringAt hdst⟩]
    refine Library.bind_eq_error.mpr (Or.inr ⟨src, hsrc, ?_⟩)
    refine Library.bind_eq_error.mpr (Or.inr ⟨dst, hdst, ?_⟩)
    refine Library.bind_eq_error.mpr (Or.inr ⟨latency, hlatency, ?_⟩)
    refine Library.bind_eq_error.mpr (Or.inr ⟨excludeList, hexclude, ?_⟩)
    refine Library.bind_eq_error.mpr (Or.inr ⟨srcNames, hs, ?_⟩)
    refine Library.bind_eq_error.mpr (Or.inr ⟨dstNames, hd, ?_⟩)
    exact connectFrom_nullCall.mpr ⟨full, hfull, hnull⟩

/-! ### Each step over its list -/

theorem createInstances_nullCall {final : Json} {w : World} :
    createInstances final { world := w } = .error .nullCall ↔ ∃ before entry after b name,
      final.elemsAt "modules" = .ok (before ++ entry :: after) ∧
      before.foldlM createInstance { world := w } = .ok b ∧ Placed entry name ∧
      ¬ Declared w.registries.has (before ++ [entry]) name := by
  constructor
  · intro h
    obtain ⟨entries, hentries, h⟩ := (neverNull_elemsAt final "modules").bind_eq_nullCall.mp h
    obtain ⟨before, entry, after, b, rfl, hb, h⟩ := Library.foldlM_eq_error_iff.mp h
    have hpointers := foldlM_createInstance_pointers (pointers_start w) hb
    obtain ⟨name, hplaced, hunknown⟩ := (createInstance_nullCall hpointers).mp h
    exact ⟨before, entry, after, b, name, hentries, hb, hplaced, hunknown⟩
  · intro ⟨before, entry, after, b, name, hentries, hb, hplaced, hunknown⟩
    have hpointers := foldlM_createInstance_pointers (pointers_start w) hb
    refine Library.bind_eq_error.mpr (Or.inr ⟨_, hentries, ?_⟩)
    refine Library.foldlM_eq_error_iff.mpr ⟨before, entry, after, b, rfl, hb, ?_⟩
    exact (createInstance_nullCall hpointers).mpr ⟨name, hplaced, hunknown⟩

theorem instantiateModules_nullCall {P : Platform}
    {nested : FactoryId → Json → World → Except ConfigError World} {final : Json} {b : Build} :
    instantiateModules P nested final b = .error .nullCall ↔ ∃ before entry after b' g cfg,
      final.elemsAt "modules" = .ok (before ++ entry :: after) ∧
      before.foldlM (instantiateEntry P nested) b = .ok b' ∧ NestedCall P b' entry g cfg ∧
      nested g cfg b'.world = .error .nullCall := by
  constructor
  · intro h
    obtain ⟨entries, hentries, h⟩ := (neverNull_elemsAt final "modules").bind_eq_nullCall.mp h
    obtain ⟨before, entry, after, b', rfl, hb, h⟩ := Library.foldlM_eq_error_iff.mp h
    obtain ⟨g, cfg, hcall, hnested⟩ := instantiateEntry_nullCall.mp h
    exact ⟨before, entry, after, b', g, cfg, hentries, hb, hcall, hnested⟩
  · intro ⟨before, entry, after, b', g, cfg, hentries, hb, hcall, hnested⟩
    refine Library.bind_eq_error.mpr (Or.inr ⟨_, hentries, ?_⟩)
    refine Library.foldlM_eq_error_iff.mpr ⟨before, entry, after, b', rfl, hb, ?_⟩
    exact instantiateEntry_nullCall.mpr ⟨g, cfg, hcall, hnested⟩

theorem createPorts_nullCall {final : Json} {b : Build} :
    createPorts final b = .error .nullCall ↔ ∃ before conn after infos full,
      final.elemsAt "connections" = .ok (before ++ conn :: after) ∧
      before.mapM (portCreations b) = .ok infos ∧ PortEnd b conn full ∧ b.NullEnd full := by
  constructor
  · intro h
    obtain ⟨conns, hconns, h⟩ := (neverNull_elemsAt final "connections").bind_eq_nullCall.mp h
    rcases Library.bind_eq_error.mp h with h | ⟨infos, -, h⟩
    · obtain ⟨before, conn, after, infos, rfl, hb, h⟩ := Library.mapM_eq_error_iff.mp h
      obtain ⟨full, hfull, hnull⟩ := portCreations_nullCall.mp h
      exact ⟨before, conn, after, infos, full, hconns, hb, hfull, hnull⟩
    · cases h
  · intro ⟨before, conn, after, infos, full, hconns, hb, hfull, hnull⟩
    refine Library.bind_eq_error.mpr (Or.inr ⟨_, hconns, ?_⟩)
    refine Library.bind_eq_error.mpr (Or.inl ?_)
    refine Library.mapM_eq_error_iff.mpr ⟨before, conn, after, infos, rfl, hb, ?_⟩
    exact portCreations_nullCall.mpr ⟨full, hfull, hnull⟩

theorem connectAll_nullCall {P : Platform} {final : Json} {b : Build} :
    connectAll P final b = .error .nullCall ↔ ∃ before conn after b' full,
      final.elemsAt "connections" = .ok (before ++ conn :: after) ∧
      before.foldlM (connect P) b = .ok b' ∧ BoundEnd P b' conn full ∧ b'.NullEnd full := by
  constructor
  · intro h
    obtain ⟨conns, hconns, h⟩ := (neverNull_elemsAt final "connections").bind_eq_nullCall.mp h
    obtain ⟨before, conn, after, b', rfl, hb, h⟩ := Library.foldlM_eq_error_iff.mp h
    obtain ⟨full, hfull, hnull⟩ := connect_nullCall.mp h
    exact ⟨before, conn, after, b', full, hconns, hb, hfull, hnull⟩
  · intro ⟨before, conn, after, b', full, hconns, hb, hfull, hnull⟩
    refine Library.bind_eq_error.mpr (Or.inr ⟨_, hconns, ?_⟩)
    refine Library.foldlM_eq_error_iff.mpr ⟨before, conn, after, b', rfl, hb, ?_⟩
    exact connect_nullCall.mpr ⟨full, hfull, hnull⟩

/-! ## 3. The uses of a run -/

/-- A use of a pointer that the source does not look at first. `registries` and `entries` are
    those of the call; for a layout, the entries up to the one that asks for it. -/
inductive PointerUse where
  | layout (registries : Registries) (entries : List Json) (name : String)
  | endpoint (registries : Registries) (entries : List Json) (name : String)

/-- The pointer is none that is null: the object is there, and a module with a `config` is a
    SimModule. -/
def PointerUse.Safe : PointerUse → Prop
  | .layout r entries name => Declared r.has entries name
  | .endpoint r entries name => Configured entries name → Declared r.isModule entries name

variable (P : Platform)

/-- The uses that `instantiateAll` comes to, its own and those of the calls nested in it. -/
inductive Reached : Nat → FactoryId → Json → World → PointerUse → Prop
  | layout {fuel f config w w₁ before entry after b name}
      (plugins : loadPlugins P config w = .ok w₁)
      (modules : config.elemsAt "modules" = .ok (before ++ entry :: after))
      (created : before.foldlM createInstance { world := w₁ } = .ok b)
      (placed : Placed entry name) :
      Reached (fuel + 1) f config w (.layout w₁.registries (before ++ [entry]) name)
  | nested {fuel f config w w₁ b₁ w₂ before entry after b g cfg use}
      (plugins : loadPlugins P config w = .ok w₁)
      (created : createInstances config { world := w₁ } = .ok b₁)
      (groups : defineGroups config b₁.world = .ok w₂)
      (modules : config.elemsAt "modules" = .ok (before ++ entry :: after))
      (instantiated : before.foldlM (instantiateEntry P (instantiateAll P fuel))
        { b₁ with world := w₂ } = .ok b)
      (call : NestedCall P b entry g cfg) (reached : Reached fuel g cfg b.world use) :
      Reached (fuel + 1) f config w use
  | port {fuel f config w w₁ b entries before conn after infos full}
      (plugins : loadPlugins P config w = .ok w₁)
      (prepared : prepareModules P (instantiateAll P fuel) config w = .ok b)
      (modules : config.elemsAt "modules" = .ok entries)
      (connections : config.elemsAt "connections" = .ok (before ++ conn :: after))
      (ports : before.mapM (portCreations b) = .ok infos)
      (isEnd : PortEnd b conn full) (labelled : (parsePortSpec full).2 ≠ "") :
      Reached (fuel + 1) f config w (.endpoint w₁.registries entries (parsePortSpec full).1)
  | bind {fuel f config w w₁ b entries before conn after b' full}
      (plugins : loadPlugins P config w = .ok w₁)
      (prepared : prepare P (instantiateAll P fuel) config w = .ok b)
      (modules : config.elemsAt "modules" = .ok entries)
      (connections : config.elemsAt "connections" = .ok (before ++ conn :: after))
      (connected : before.foldlM (connect P) b = .ok b')
      (isEnd : BoundEnd P b' conn full) (labelled : (parsePortSpec full).2 ≠ "") :
      Reached (fuel + 1) f config w (.endpoint w₁.registries entries (parsePortSpec full).1)

variable {P}

/-- In a map after step 4, an end is null when its use is not safe. -/
theorem Touched.nullEnd_iff {r : Registries} {entries : List Json} {b : Build}
    (h : Touched r entries entries b) (spec : String) :
    b.NullEnd spec ↔ (parsePortSpec spec).2 ≠ "" ∧
      ¬ (PointerUse.endpoint r entries (parsePortSpec spec).1).Safe := by
  unfold Build.NullEnd PointerUse.Safe
  rw [Classical.not_imp]
  refine and_congr_right fun _ => ?_
  constructor
  · intro ⟨ptr, hptr, hnull⟩
    cases ptr with
    | none => exact ((h.null _).mp hptr).symm
    | some o =>
        have hreal := h.real _ o hptr
        rw [Option.bind_some] at hnull
        rw [hnull] at hreal
        cases hreal
  · intro ⟨hconf, hnot⟩
    exact ⟨none, (h.null _).mpr ⟨hnot, hconf⟩, rfl⟩

/-- Two builds with the same maps and SimModules. -/
theorem Touched.congr {r : Registries} {entries touched : List Json} {b b' : Build}
    (h : Touched r entries touched b) (hmod : b'.moduleInstances = b.moduleInstances)
    (hsim : ∀ o, b'.world.simModuleOf o = b.world.simModuleOf o) :
    Touched r entries touched b' := by
  refine ⟨fun name => ?_, fun name => ?_, fun name o ho => ?_⟩
  · rw [hmod]
    exact h.absent name
  · rw [hmod]
    exact h.null name
  · rw [hmod] at ho
    rw [hsim]
    exact h.real name o ho

/-- The map of SimModules that steps 5 and 6 search. -/
theorem prepareModules_touched {fuel : Nat} {final : Json} {w : World} {b : Build}
    (h : prepareModules P (instantiateAll P fuel) final w = .ok b) :
    ∃ w₁ entries, loadPlugins P final w = .ok w₁ ∧ final.elemsAt "modules" = .ok entries ∧
      Touched w₁.registries entries entries b := by
  obtain ⟨w₁, hplugins, h⟩ := Library.bind_eq_ok.mp h
  obtain ⟨b₁, hcreated, h⟩ := Library.bind_eq_ok.mp h
  obtain ⟨w₂, hgroups, h⟩ := Library.bind_eq_ok.mp h
  obtain ⟨entries, hentries, h⟩ := Library.bind_eq_ok.mp h
  obtain ⟨entries', hentries', hcreated⟩ := Library.bind_eq_ok.mp hcreated
  rw [hentries, Except.ok.injEq] at hentries'
  subst hentries'
  have hpointers := foldlM_createInstance_pointers (pointers_start w₁) hcreated
  have hgrouped := hpointers.touched fun o ho =>
    (stepKept_isSimModule o).defineGroups ho hgroups
  exact ⟨w₁, entries, hplugins, hentries, foldlM_instantiateEntry_touched hgrouped h⟩

/-- The same after the ports and some connections. -/
theorem touched_connected {fuel : Nat} {final : Json} {w : World} {b b' : Build}
    {conns : List Json} (h : prepare P (instantiateAll P fuel) final w = .ok b)
    (hconns : conns.foldlM (connect P) b = .ok b') :
    ∃ w₁ entries, loadPlugins P final w = .ok w₁ ∧ final.elemsAt "modules" = .ok entries ∧
      Touched w₁.registries entries entries b' := by
  rw [prepare_eq] at h
  obtain ⟨b₀, hb₀, hports⟩ := Library.bind_eq_ok.mp h
  obtain ⟨w₁, entries, hplugins, hentries, htouched⟩ := prepareModules_touched hb₀
  obtain ⟨-, hmod, -, hsim⟩ := createPorts_keeps hports
  have hsame := sameLookups_foldlM hconns
  exact ⟨w₁, entries, hplugins, hentries,
    (htouched.congr hmod hsim).congr hsame.moduleInstances hsame.simModuleOf⟩

/-- A null call comes from a use that is not safe. -/
theorem reached_of_nullCall (hP : P.includeStep = Except.ok) {fuel : Nat} {f : FactoryId}
    {config : Json} {w : World} (h : instantiateAll P fuel f config w = .error .nullCall) :
    ∃ use, Reached P fuel f config w use ∧ ¬ use.Safe := by
  induction fuel generalizing f config w with
  | zero => cases h
  | succ fuel ih =>
      rw [instantiateAll, hP] at h
      rcases Library.bind_eq_error.mp h with h | ⟨final, hfinal, h⟩
      · cases h
      cases hfinal
      rcases Library.bind_eq_error.mp h with hprep | ⟨b, hb, h⟩
      · rw [prepare_eq] at hprep
        rcases Library.bind_eq_error.mp hprep with hmods | ⟨b, hb, hports⟩
        · obtain ⟨w₁, hplugins, h⟩ := (neverNull_loadPlugins P config w).bind_eq_nullCall.mp hmods
          rcases Library.bind_eq_error.mp h with h | ⟨b₁, hcreated, h⟩
          · obtain ⟨before, entry, after, b, name, hentries, hb, hplaced, hunknown⟩ :=
              createInstances_nullCall.mp h
            exact ⟨_, .layout hplugins hentries hb hplaced, hunknown⟩
          obtain ⟨w₂, hgroups, h⟩ := (neverNull_defineGroups config b₁.world).bind_eq_nullCall.mp h
          obtain ⟨before, entry, after, b, g, cfg, hentries, hb, hcall, hnested⟩ :=
            instantiateModules_nullCall.mp h
          obtain ⟨use, hreached, hnot⟩ := ih hnested
          exact ⟨use, .nested hplugins hcreated hgroups hentries hb hcall hreached, hnot⟩
        · obtain ⟨w₁, entries, hplugins, hentries, htouched⟩ := prepareModules_touched hb
          obtain ⟨before, conn, after, infos, full, hconns, hinfos, hfull, hnull⟩ :=
            createPorts_nullCall.mp hports
          obtain ⟨hlabel, hnot⟩ := (htouched.nullEnd_iff full).mp hnull
          exact ⟨_, .port hplugins hb hentries hconns hinfos hfull hlabel, hnot⟩
      · rcases Library.bind_eq_error.mp h with h | ⟨b', -, h⟩
        · obtain ⟨before, conn, after, b', full, hconns, hconnected, hfull, hnull⟩ :=
            connectAll_nullCall.mp h
          obtain ⟨w₁, entries, hplugins, hentries, htouched⟩ := touched_connected hb hconnected
          obtain ⟨hlabel, hnot⟩ := (htouched.nullEnd_iff full).mp hnull
          exact ⟨_, .bind hplugins hb hentries hconns hconnected hfull hlabel, hnot⟩
        · cases h

/-- A use that is not safe ends in a null call. -/
theorem nullCall_of_reached (hP : P.includeStep = Except.ok) {fuel : Nat} {f : FactoryId}
    {config : Json} {w : World} {use : PointerUse} (h : Reached P fuel f config w use)
    (hnot : ¬ use.Safe) : instantiateAll P fuel f config w = .error .nullCall := by
  have hinclude : ∀ j, P.includeStep j = .ok j := fun j => congrFun hP j
  induction h with
  | layout plugins modules created placed =>
      refine Library.bind_eq_error.mpr
        (Or.inr ⟨_, hinclude _, Library.bind_eq_error.mpr (Or.inl ?_)⟩)
      refine Library.bind_eq_error.mpr (Or.inr ⟨_, plugins, Library.bind_eq_error.mpr (Or.inl ?_)⟩)
      exact createInstances_nullCall.mpr
        ⟨_, _, _, _, _, modules, created, placed, hnot⟩
  | nested plugins created groups modules instantiated call _ ih =>
      refine Library.bind_eq_error.mpr
        (Or.inr ⟨_, hinclude _, Library.bind_eq_error.mpr (Or.inl ?_)⟩)
      rw [prepare_eq]
      refine Library.bind_eq_error.mpr (Or.inl ?_)
      refine Library.bind_eq_error.mpr (Or.inr ⟨_, plugins, ?_⟩)
      refine Library.bind_eq_error.mpr (Or.inr ⟨_, created, ?_⟩)
      refine Library.bind_eq_error.mpr (Or.inr ⟨_, groups, ?_⟩)
      exact instantiateModules_nullCall.mpr
        ⟨_, _, _, _, _, _, modules, instantiated, call, ih hnot⟩
  | port plugins prepared modules connections ports isEnd labelled =>
      refine Library.bind_eq_error.mpr
        (Or.inr ⟨_, hinclude _, Library.bind_eq_error.mpr (Or.inl ?_)⟩)
      rw [prepare_eq]
      refine Library.bind_eq_error.mpr (Or.inr ⟨_, prepared, ?_⟩)
      obtain ⟨w₁, entries, hplugins, hentries, htouched⟩ := prepareModules_touched prepared
      cases plugins.symm.trans hplugins
      cases modules.symm.trans hentries
      exact createPorts_nullCall.mpr ⟨_, _, _, _, _, connections, ports, isEnd,
        (htouched.nullEnd_iff _).mpr ⟨labelled, hnot⟩⟩
  | bind plugins prepared modules connections connected isEnd labelled =>
      refine Library.bind_eq_error.mpr (Or.inr ⟨_, hinclude _, ?_⟩)
      refine Library.bind_eq_error.mpr (Or.inr ⟨_, prepared, Library.bind_eq_error.mpr (Or.inl ?_)⟩)
      obtain ⟨w₁, entries, hplugins, hentries, htouched⟩ := touched_connected prepared connected
      cases plugins.symm.trans hplugins
      cases modules.symm.trans hentries
      exact connectAll_nullCall.mpr ⟨_, _, _, _, _, connections, connected, isEnd,
        (htouched.nullEnd_iff _).mpr ⟨labelled, hnot⟩⟩

/-- **A run calls through no null pointer exactly when every use it comes to is safe.** -/
theorem nullCall_iff (hP : P.includeStep = Except.ok) (fuel : Nat) (f : FactoryId) (config : Json)
    (w : World) : instantiateAll P fuel f config w ≠ .error .nullCall ↔
      ∀ use, Reached P fuel f config w use → use.Safe := by
  constructor
  · intro h use hreached
    by_contra hnot
    exact h (nullCall_of_reached hP hreached hnot)
  · intro h hnull
    obtain ⟨use, hreached, hnot⟩ := reached_of_nullCall hP hnull
    exact hnot (h use hreached)

/-! ## 4. An unknown type, and a plain module with a `config` -/

/-- An instance of a type nobody registered, with a place in the layout. -/
def unplacedConfig : Json :=
  .obj [("connections", .arr []),
        ("modules", .arr [.obj [("layout", .obj [("x", .num 1), ("y", .num 2)]),
          ("name", .str "dram"), ("type", .str "DRAM")]])]

/-- A plain `Source` that names a configuration file, and a connection from it. -/
def plainConfig : Json :=
  .obj [("connections", .arr [.obj [("dst", .str "mem.in"), ("src", .str "cpu.out")]]),
        ("modules", .arr [
          .obj [("config", .str "inner.json"), ("name", .str "cpu"), ("type", .str "Source")],
          .obj [("name", .str "mem"), ("type", .str "Sink")]])]

theorem nullCall_iff_plainConfig :
    instantiateAll hierPlatform 2 0 plainConfig hierWorld ≠ .error .nullCall ↔
      ∀ use, Reached hierPlatform 2 0 plainConfig hierWorld use → use.Safe :=
  nullCall_iff rfl 2 0 plainConfig hierWorld

/-- The first sets the layout of an object that is not there. The second calls `findInternalPath`
    through the pointer that step 4 has put beside `cpu`. -/
theorem nullCall_plainConfig :
    instantiateAll hierPlatform 1 0 unplacedConfig hierWorld = .error .nullCall ∧
      instantiateAll hierPlatform 2 0 plainConfig hierWorld = .error .nullCall := by
  exact ⟨rfl, rfl⟩

end Gem5Sc
