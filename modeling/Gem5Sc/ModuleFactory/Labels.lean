/-
  File:      Gem5Sc/ModuleFactory/Labels.lean
  Subject:   THE LABELS OF A SIMMODULE: the index `internal_to_external_map` against the search
             `findInternalPath`, over every sequence of calls of `SimModule::instantiate`.

  `instantiate` hands its configuration to the inner factory first. What gets past that line is
  read by `parsePortConfigs`, which puts every complete entry into a list and into the map. The map
  keeps the last path of a label in the order of the calls; the search returns the first, all
  outputs before all inputs. `isExposedPort` asks the map, connections are resolved by the search.

  A call that throws leaves in the module what was read before (`instantiate`, `readPortConfigs`),
  so a module is followed through such calls as well. They are the functions of
  `ModuleFactory.lean`, but for that state (`instantiateModule_eq`).

  * `indexAgrees_iff` -- when index and search agree on a label, whatever the inner factory takes;
  * `index_agrees` -- with the program's own include step it takes the names of files only, which
    have no entries: they agree on every label.
-/
import Gem5Sc.ModuleFactory.Resolved
import Gem5Sc.Library.Index
import Gem5Sc.Library.Runs

namespace Gem5Sc

/-- `output_configs` or `input_configs`. -/
inductive ConfigSide where
  | output | input
  deriving DecidableEq, Repr

/-- A complete entry of one of the two lists. -/
structure Exposure where
  side : ConfigSide
  config : ExposedPortConfig
  deriving DecidableEq, Repr

/-! ## 1. The two loops -/

namespace SimModule

/-- `push_back(config)` and `internal_to_external_map[config.external_label] = ..`. -/
def expose (s : SimModule) (e : Exposure) : SimModule :=
  let map := setKey s.internalToExternalMap e.config.externalLabel e.config.internalPath
  match e.side with
  | .output =>
      { s with outputConfigs := s.outputConfigs ++ [e.config], internalToExternalMap := map }
  | .input =>
      { s with inputConfigs := s.inputConfigs ++ [e.config], internalToExternalMap := map }

/-- One loop of `parsePortConfigs`, with what it throws. -/
def readItems (side : ConfigSide) : List Json → SimModule → SimModule × Option ConfigError
  | [], s => (s, none)
  | item :: items, s =>
      match parsePortConfig item with
      | .error e => (s, some e)
      | .ok configs => readItems side items (configs.foldl (fun s c => s.expose ⟨side, c⟩) s)

/-- `SimModule::parsePortConfigs`, with the module as it leaves it. -/
def readPortConfigs (cfg : Json) (s : SimModule) : SimModule × Option ConfigError :=
  match readItems .output (cfg.elemsIf "outputs") s with
  | (s, none) => readItems .input (cfg.elemsIf "inputs") s
  | thrown => thrown

/-- `SimModule::instantiate`, with the module as it leaves it and what it throws. -/
def instantiate (P : Platform) (fuel : Nat) (cfg : Json) (w : World) (s : SimModule) :
    SimModule × Option ConfigError :=
  match instantiateAll P fuel s.internalFactory cfg w with
  | .error e => (s, some e)
  | .ok _ => s.readPortConfigs cfg

/-- `SimModule::isExposedPort`. -/
def isExposedPort (s : SimModule) (externalLabel : String) : Bool :=
  (s.internalToExternalMap.lookup externalLabel).isSome

end SimModule

/-- A call of `instantiate`: the configuration, and what the call finds around it. -/
structure InstantiateCall where
  cfg : Json
  platform : Platform
  world : World
  fuel : Nat

namespace InstantiateCall

/-- The same call with the program's own include step. -/
def own (c : InstantiateCall) : InstantiateCall := { c with platform := c.platform.own c.fuel }

/-- The inner factory completes its `instantiateAll`. -/
def reaches (factory : FactoryId) (c : InstantiateCall) : Bool :=
  match instantiateAll c.platform c.fuel factory c.cfg c.world with
  | .error _ => false
  | .ok _ => true

end InstantiateCall

/-- The module after a sequence of calls. -/
def SimModule.configured (s : SimModule) (calls : List InstantiateCall) : SimModule :=
  Library.run (fun s c => (s.instantiate c.platform c.fuel c.cfg c.world).1) s calls

/-- The configurations that come to `parsePortConfigs`. -/
def configsRead (factory : FactoryId) (calls : List InstantiateCall) : List Json :=
  (calls.filter (·.reaches factory)).map (·.cfg)

/-! ## 2. What a configuration adds -/

/-- The complete entries of a list, up to an item that throws. -/
def exposuresOf (side : ConfigSide) : List Json → List Exposure × Option ConfigError
  | [] => ([], none)
  | item :: items =>
      match parsePortConfig item with
      | .error e => ([], some e)
      | .ok configs =>
          let rest := exposuresOf side items
          (configs.map (⟨side, ·⟩) ++ rest.1, rest.2)

/-- Its outputs and then, unless one has thrown, its inputs. -/
def exposures (cfg : Json) : List Exposure × Option ConfigError :=
  match exposuresOf .output (cfg.elemsIf "outputs") with
  | (outputs, none) =>
      let inputs := exposuresOf .input (cfg.elemsIf "inputs")
      (outputs ++ inputs.1, inputs.2)
  | thrown => thrown

/-- The complete entries of all configurations, in the order in which they are put in. -/
def entryLog (cfgs : List Json) : List Exposure := cfgs.flatMap fun cfg => (exposures cfg).1

/-- The order in which the search goes through them. -/
def searchOrder (log : List Exposure) : List Exposure :=
  log.filter (·.side = .output) ++ log.filter (·.side = .input)

namespace SimModule

theorem readItems_eq (side : ConfigSide) (items : List Json) (s : SimModule) :
    s.readItems side items =
      ((exposuresOf side items).1.foldl expose s, (exposuresOf side items).2) := by
  induction items generalizing s with
  | nil => rfl
  | cons item items ih =>
      unfold readItems exposuresOf
      cases parsePortConfig item with
      | error e => rfl
      | ok configs =>
          show readItems side items _ = _
          rw [ih, List.foldl_append, List.foldl_map]

theorem readPortConfigs_eq (cfg : Json) (s : SimModule) :
    s.readPortConfigs cfg = ((exposures cfg).1.foldl expose s, (exposures cfg).2) := by
  unfold readPortConfigs exposures
  rw [readItems_eq]
  cases exposuresOf .output (cfg.elemsIf "outputs") with
  | mk outputs thrown =>
      cases thrown with
      | some e => rfl
      | none =>
          show readItems .input _ _ = _
          rw [readItems_eq, List.foldl_append]

theorem foldl_expose_internalFactory (log : List Exposure) (s : SimModule) :
    (log.foldl expose s).internalFactory = s.internalFactory := by
  induction log generalizing s with
  | nil => rfl
  | cons e log ih =>
      rw [List.foldl_cons, ih]
      obtain ⟨side, config⟩ := e
      cases side <;> rfl

/-- A call adds its entries, if it comes to them. -/
theorem instantiate_fst (c : InstantiateCall) (s : SimModule) :
    (s.instantiate c.platform c.fuel c.cfg c.world).1 =
      if c.reaches s.internalFactory then (exposures c.cfg).1.foldl expose s else s := by
  unfold instantiate InstantiateCall.reaches
  cases instantiateAll c.platform c.fuel s.internalFactory c.cfg c.world with
  | error e => rfl
  | ok w => exact congrArg Prod.fst (readPortConfigs_eq c.cfg s)

theorem configured_eq (s : SimModule) (calls : List InstantiateCall) :
    s.configured calls = (entryLog (configsRead s.internalFactory calls)).foldl expose s := by
  induction calls generalizing s with
  | nil => rfl
  | cons c calls ih =>
      show (s.instantiate c.platform c.fuel c.cfg c.world).1.configured calls = _
      rw [ih, instantiate_fst]
      unfold configsRead entryLog
      cases hc : c.reaches s.internalFactory with
      | false =>
          have hskip : ¬ c.reaches s.internalFactory = true := by simp [hc]
          rw [if_neg Bool.false_ne_true, List.filter_cons_of_neg hskip]
      | true =>
          rw [if_pos rfl, List.filter_cons_of_pos hc, foldl_expose_internalFactory, List.map_cons,
            List.flatMap_cons, List.foldl_append]

/-! ## 3. Calls that do not throw -/

theorem exposuresOf_ok (side : ConfigSide) {items : List Json}
    {configs : List (List ExposedPortConfig)} (h : items.mapM parsePortConfig = .ok configs) :
    exposuresOf side items = (configs.flatten.map (⟨side, ·⟩), none) := by
  induction items generalizing configs with
  | nil =>
      cases h
      rfl
  | cons item items ih =>
      rw [List.mapM_cons] at h
      obtain ⟨first, hfirst, h⟩ := Library.bind_eq_ok.mp h
      obtain ⟨rest, hrest, h⟩ := Library.bind_eq_ok.mp h
      cases h
      unfold exposuresOf
      rw [hfirst, ih hrest, List.flatten_cons, List.map_append]

theorem exposuresOf_error (side : ConfigSide) {items : List Json} {e : ConfigError}
    (h : items.mapM parsePortConfig = .error e) : ∃ es, exposuresOf side items = (es, some e) := by
  induction items with
  | nil => cases h
  | cons item items ih =>
      rw [List.mapM_cons] at h
      unfold exposuresOf
      rcases Library.bind_eq_error.mp h with hitem | ⟨configs, hitem, h⟩
      · rw [hitem]
        exact ⟨[], rfl⟩
      · rw [hitem]
        rcases Library.bind_eq_error.mp h with hrest | ⟨rest, hrest, h⟩
        · obtain ⟨es, hes⟩ := ih hrest
          exact ⟨configs.map (⟨side, ·⟩) ++ es, by rw [hes]⟩
        · cases h

/-- All entries of one list. -/
theorem foldl_expose (side : ConfigSide) (configs : List ExposedPortConfig) (s : SimModule) :
    (configs.map (⟨side, ·⟩)).foldl expose s =
      { s with
        outputConfigs := s.outputConfigs ++ if side = .output then configs else []
        inputConfigs := s.inputConfigs ++ if side = .input then configs else []
        internalToExternalMap := configs.foldl
          (fun m c => setKey m c.externalLabel c.internalPath) s.internalToExternalMap } := by
  induction configs generalizing s with
  | nil => cases side <;> simp
  | cons c configs ih =>
      rw [List.map_cons, List.foldl_cons, ih, List.foldl_cons]
      cases side <;> simp [expose]

/-- **The same function**, but for the state that an exception leaves. -/
theorem parsePortConfigs_eq (cfg : Json) (s : SimModule) :
    parsePortConfigs cfg s =
      match s.readPortConfigs cfg with
      | (s, none) => .ok s
      | (_, some e) => .error e := by
  rw [readPortConfigs_eq]
  unfold parsePortConfigs exposures
  cases hout : (cfg.elemsIf "outputs").mapM parsePortConfig with
  | error e =>
      obtain ⟨es, hes⟩ := exposuresOf_error .output hout
      rw [hes]
      rfl
  | ok outputs =>
      rw [exposuresOf_ok .output hout]
      cases hin : (cfg.elemsIf "inputs").mapM parsePortConfig with
      | error e =>
          obtain ⟨es, hes⟩ := exposuresOf_error .input hin
          rw [hes]
          rfl
      | ok inputs =>
          rw [exposuresOf_ok .input hin]
          show _ = Except.ok ((outputs.flatten.map _ ++ inputs.flatten.map _).foldl expose s)
          rw [List.foldl_append, foldl_expose, foldl_expose]
          show Except.ok _ = _
          simp

/-- **`instantiate` is the one of the construction**, but for the state that an exception leaves. -/
theorem instantiateModule_eq (P : Platform) (fuel : Nat) (o : ObjId) (cfg : Json) (w : World)
    (s : SimModule) :
    instantiateModule (instantiateAll P fuel) o s cfg w =
      match s.instantiate P fuel cfg w with
      | (_, some e) => .error e
      | (s', none) => (instantiateAll P fuel s.internalFactory cfg w).map fun w' =>
          w'.modifyObject o fun x => { x with simModule := some s' } := by
  unfold instantiateModule instantiate
  cases instantiateAll P fuel s.internalFactory cfg w with
  | error e => rfl
  | ok w' =>
      show (parsePortConfigs cfg s >>= _) = _
      rw [parsePortConfigs_eq]
      obtain ⟨s', thrown⟩ := s.readPortConfigs cfg
      cases thrown <;> rfl

/-! ## 4. The module as a log -/

/-- `output_configs` or `input_configs`. -/
def configs (s : SimModule) : ConfigSide → List ExposedPortConfig
  | .output => s.outputConfigs
  | .input => s.inputConfigs

theorem configs_expose (s : SimModule) (e : Exposure) (side : ConfigSide) :
    (s.expose e).configs side = s.configs side ++ if e.side = side then [e.config] else [] := by
  obtain ⟨own, config⟩ := e
  cases own <;> cases side <;> simp [expose, configs]

/-- Each list is its part of the log. -/
theorem configs_foldl (log : List Exposure) (s : SimModule) (side : ConfigSide) :
    (log.foldl expose s).configs side =
      s.configs side ++ (log.filter (·.side = side)).map Exposure.config := by
  induction log generalizing s with
  | nil => exact (List.append_nil _).symm
  | cons e log ih =>
      rw [List.foldl_cons, ih, configs_expose, List.append_assoc]
      by_cases hside : e.side = side <;> simp [hside]

/-- The map is the index of the log. -/
theorem internalToExternalMap_foldl (log : List Exposure) (s : SimModule) :
    (log.foldl expose s).internalToExternalMap =
      Library.fill setKey (·.config.externalLabel) (·.config.internalPath)
        s.internalToExternalMap log := by
  induction log generalizing s with
  | nil => rfl
  | cons e log ih =>
      rw [List.foldl_cons, ih]
      obtain ⟨side, config⟩ := e
      cases side <;> rfl

/-! ## 5. The index and the search -/

theorem lawfulIndex_setKey :
    Library.LawfulIndex (fun (m : List (String × String)) k => m.lookup k) setKey where
  get_self m k v := lookup_setKey_self m k v
  get_other m _ v _ h := lookup_setKey_of_ne m v h

/-- An incomplete entry is not read. -/
theorem path_ne_empty_of_exposuresOf {side : ConfigSide} {items : List Json} {e : Exposure}
    (he : e ∈ (exposuresOf side items).1) : e.config.internalPath ≠ "" := by
  induction items with
  | nil => exact absurd he List.not_mem_nil
  | cons item items ih =>
      unfold exposuresOf at he
      cases hitem : parsePortConfig item with
      | error thrown =>
          rw [hitem] at he
          exact absurd he List.not_mem_nil
      | ok configs =>
          rw [hitem] at he
          rcases List.mem_append.mp he with he | he
          · obtain ⟨c, hc, rfl⟩ := List.mem_map.mp he
            unfold parsePortConfig at hitem
            obtain ⟨internal, -, hitem⟩ := Library.bind_eq_ok.mp hitem
            obtain ⟨external, -, hitem⟩ := Library.bind_eq_ok.mp hitem
            cases hitem
            split at hc
            next hcomplete =>
              obtain rfl := List.mem_singleton.mp hc
              exact hcomplete.1
            · exact absurd hc List.not_mem_nil
          · exact ih he

theorem path_ne_empty {cfgs : List Json} {e : Exposure} (he : e ∈ entryLog cfgs) :
    e.config.internalPath ≠ "" := by
  obtain ⟨cfg, -, he⟩ := List.mem_flatMap.mp he
  unfold exposures at he
  cases hout : exposuresOf .output (cfg.elemsIf "outputs") with
  | mk outputs thrown =>
      have houtputs : ∀ e ∈ outputs, e.config.internalPath ≠ "" := fun e he =>
        path_ne_empty_of_exposuresOf (by rw [hout]; exact he)
      rw [hout] at he
      cases thrown with
      | some _ => exact houtputs e he
      | none =>
          rcases List.mem_append.mp he with he | he
          · exact houtputs e he
          · exact path_ne_empty_of_exposuresOf he

theorem searchOrder_perm (log : List Exposure) : (searchOrder log).Perm log := by
  have hside : log.filter (·.side = .input) = log.filter fun e => !decide (e.side = .output) := by
    refine List.filter_congr fun e _ => ?_
    cases e.side <;> rfl
  unfold searchOrder
  rw [hside]
  exact List.filter_append_perm _ log

/-- The module before its first configuration. -/
def fresh (factory : FactoryId) : SimModule := { internalFactory := factory }

/-- `findInternalPath` goes through the log in its own order. -/
theorem findInternalPath_configured (factory : FactoryId) (calls : List InstantiateCall)
    (label : String) :
    ((fresh factory).configured calls).findInternalPath label =
      (((searchOrder (entryLog (configsRead factory calls))).find?
        fun e => e.config.externalLabel = label).map (·.config.internalPath)).getD "" := by
  have hconfigs : ((fresh factory).configured calls).outputConfigs ++
      ((fresh factory).configured calls).inputConfigs =
        (searchOrder (entryLog (configsRead factory calls))).map Exposure.config := by
    rw [configured_eq]
    refine (congrArg₂ (· ++ ·) (configs_foldl _ _ .output) (configs_foldl _ _ .input)).trans ?_
    exact List.map_append.symm
  unfold findInternalPath
  rw [hconfigs, List.find?_map]
  show _ = ((List.find? ((fun c => decide (c.externalLabel = label)) ∘ Exposure.config) _).map
    _).getD ""
  cases List.find? ((fun c => decide (c.externalLabel = label)) ∘ Exposure.config)
      (searchOrder (entryLog (configsRead factory calls))) with
  | none => rfl
  | some e => rfl

theorem lookup_configured (factory : FactoryId) (calls : List InstantiateCall) (label : String) :
    ((fresh factory).configured calls).internalToExternalMap.lookup label =
      (Library.fill setKey (·.config.externalLabel) (·.config.internalPath) []
        (entryLog (configsRead factory calls))).lookup label := by
  rw [configured_eq, internalToExternalMap_foldl]
  rfl

theorem path_ne_empty_of_found {cfgs : List Json} {label : String} {e : Exposure}
    (hfind : (searchOrder (entryLog cfgs)).find? (fun e => e.config.externalLabel = label) =
      some e) : e.config.internalPath ≠ "" :=
  path_ne_empty ((searchOrder_perm _).mem_iff.mp (List.mem_of_find?_eq_some hfind))

/-- **Exposed is found**, whatever the configurations are. -/
theorem isExposedPort_iff_found (factory : FactoryId) (calls : List InstantiateCall)
    (label : String) :
    ((fresh factory).configured calls).isExposedPort label = true ↔
      ((fresh factory).configured calls).findInternalPath label ≠ "" := by
  unfold isExposedPort
  rw [lookup_configured, findInternalPath_configured,
    Library.isSome_get_fill_iff lawfulIndex_setKey List.lookup_nil (searchOrder_perm _)]
  cases hfind : (searchOrder (entryLog (configsRead factory calls))).find?
      fun e => e.config.externalLabel = label with
  | none =>
      show false = true ↔ "" ≠ ""
      simp only [Bool.false_eq_true, ne_eq, not_true_eq_false]
  | some e =>
      show true = true ↔ e.config.internalPath ≠ ""
      exact ⟨fun _ => path_ne_empty_of_found hfind, fun _ => rfl⟩

/-- The index agrees with the search for a label. -/
def IndexAgrees (s : SimModule) (label : String) : Prop :=
  (s.isExposedPort label = true ↔ s.findInternalPath label ≠ "") ∧
  (s.isExposedPort label = true →
    s.internalToExternalMap.lookup label = some (s.findInternalPath label))

/-- **When the label index agrees with the label search**, whatever include step the inner factory
    has: exactly when, of the complete entries with the label, the first one (outputs before
    inputs) and the one read last have the same internal path. -/
theorem indexAgrees_iff (factory : FactoryId) (calls : List InstantiateCall) (label : String) :
    ((fresh factory).configured calls).IndexAgrees label ↔ ∀ x y,
      Library.First (·.config.externalLabel = label)
        (searchOrder (entryLog (configsRead factory calls))) x →
      Library.Last (·.config.externalLabel = label) (entryLog (configsRead factory calls)) y →
        x.config.internalPath = y.config.internalPath := by
  have hfound := isExposedPort_iff_found factory calls label
  rw [← Library.get_fill_eq_search_iff lawfulIndex_setKey List.lookup_nil (searchOrder_perm _),
    ← lookup_configured factory]
  have hpath := findInternalPath_configured factory calls label
  unfold IndexAgrees
  cases hfind : (searchOrder (entryLog (configsRead factory calls))).find?
      fun e => e.config.externalLabel = label with
  | none =>
      rw [hfind] at hpath
      have hhidden : ¬ ((fresh factory).configured calls).isExposedPort label = true :=
        fun hexposed => hfound.mp hexposed hpath
      have hlookup : ((fresh factory).configured calls).internalToExternalMap.lookup label = none :=
        Option.not_isSome_iff_eq_none.mp hhidden
      exact ⟨fun _ => hlookup, fun _ => ⟨hfound, fun hexposed => absurd hexposed hhidden⟩⟩
  | some e =>
      rw [hfind] at hpath
      have hexposed : ((fresh factory).configured calls).isExposedPort label = true :=
        hfound.mpr fun hempty => path_ne_empty_of_found hfind (hpath.symm.trans hempty)
      have hentry : some (((fresh factory).configured calls).findInternalPath label) =
          some e.config.internalPath := congrArg some hpath
      exact ⟨fun hagrees => (hagrees.2 hexposed).trans hentry,
        fun hlookup => ⟨hfound, fun _ => hlookup.trans hentry.symm⟩⟩

/-- An output and an input with one label, if the loops come to read them: the search finds the
    output, the index has the input. -/
example :
    let cfg : Json := .obj [
      ("inputs", .arr [.obj [("internal", .str "cache.in"), ("external", .str "req")]]),
      ("outputs", .arr [.obj [("internal", .str "cache.out"), ("external", .str "req")]])]
    let s := ((fresh 0).readPortConfigs cfg).1
    s.findInternalPath "req" = "cache.out" ∧
      s.internalToExternalMap.lookup "req" = some "cache.in" := by decide

/-! ## 6. The program's own include step -/

/-- What the inner factory takes has no entries. -/
theorem entryLog_own (factory : FactoryId) (calls : List InstantiateCall) :
    entryLog (configsRead factory (calls.map InstantiateCall.own)) = [] := by
  refine List.flatMap_eq_nil_iff.mpr fun cfg hcfg => ?_
  obtain ⟨c, hc, rfl⟩ := List.mem_map.mp hcfg
  obtain ⟨hmem, hreach⟩ := List.mem_filter.mp hc
  obtain ⟨c, -, rfl⟩ := List.mem_map.mp hmem
  unfold InstantiateCall.reaches at hreach
  split at hreach
  · exact absurd hreach Bool.false_ne_true
  · next w hw =>
      obtain ⟨filename, hfile⟩ := instantiateAll_file hw
      rw [hfile]
      rfl

/-- **THE LABEL INDEX AND THE LABEL SEARCH.** For every SimModule, every sequence of internal
    configurations given to its `instantiate`, whatever files and whatever world each call finds
    and whether it throws or not, and every label: the label is exposed exactly when the search
    finds a path for it, and then the index has this path. -/
theorem index_agrees (factory : FactoryId) (calls : List InstantiateCall) (label : String) :
    ((fresh factory).configured (calls.map InstantiateCall.own)).IndexAgrees label := by
  refine (indexAgrees_iff factory _ label).mpr fun x y hx _ => ?_
  obtain ⟨-, before, after, hlog, -⟩ := hx
  rw [entryLog_own] at hlog
  exact absurd hlog.symm (by simp [searchOrder])

end SimModule

end Gem5Sc
