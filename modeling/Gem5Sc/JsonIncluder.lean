/-
  File:      Gem5Sc/JsonIncluder.lean
  Subject:   `JsonIncluder`: a configuration file with its includes merged into it.

  `loadAndInclude` and `processIncludes` call each other, on files as well as on what a file
  includes, so both have fuel. The members of an object stand in the order of their keys, as
  `std::map` keeps them.
-/
import Gem5Sc.Json

namespace Gem5Sc

namespace JsonIncluder

/-- What a file name leads to: `none` when the file cannot be opened, `some none` when what it
    holds is no JSON. -/
abbrev Files := String → Option (Option Json)

/-- `j[k] = v` for a member the object does not have yet. -/
def insertMember (kvs : List (String × Json)) (k : String) (v : Json) : List (String × Json) :=
  kvs.takeWhile (fun e => e.1 < k) ++ (k, v) :: kvs.dropWhile (fun e => e.1 < k)

/-- The included members that the node does not have itself, then without `include`. -/
def merge (kvs : List (String × Json)) (included : Json) : List (String × Json) :=
  (included.items.foldl (fun kvs e =>
    if (kvs.lookup e.1).isSome then kvs else insertMember kvs e.1 e.2) kvs).filter
      fun e => e.1 ≠ "include"

/-- `base_path.substr(0, base_path.find_last_of("/\\") + 1)`. -/
def dirOf (basePath : String) : String :=
  String.ofList (basePath.toList.reverse.dropWhile fun c => c ≠ '/' ∧ c ≠ '\\').reverse

mutual

/-- `JsonIncluder::loadAndInclude`. -/
def loadAndInclude (files : Files) : Nat → String → Except ConfigError Json
  | 0, _ => .error .outOfFuel
  | fuel + 1, filename =>
      match files filename with
      | none => .error .cannotOpen
      | some none => .error .parseError
      | some (some root) => processIncludes files fuel root filename

/-- `JsonIncluder::processIncludes`. -/
def processIncludes (files : Files) : Nat → Json → String → Except ConfigError Json
  | 0, _, _ => .error .outOfFuel
  | fuel + 1, .obj kvs, basePath => do
      let kvs ← match kvs.lookup "include" with
        | none => pure kvs
        | some file => do
            let file ← file.asString
            let included ← loadAndInclude files fuel (dirOf basePath ++ file)
            pure (merge kvs included)
      let kvs ← kvs.mapM fun e => do
        let v ← processIncludes files fuel e.2 basePath
        return (e.1, v)
      return .obj kvs
  | fuel + 1, .arr xs, basePath => do
      let xs ← xs.mapM fun x => processIncludes files fuel x basePath
      return .arr xs
  | _ + 1, node, _ => .ok node

end

/-- `JsonIncluder::loadAndInclude(config)` as `instantiateAll` calls it: the configuration is
    converted to the file name. -/
def includeStep (files : Files) (fuel : Nat) (config : Json) : Except ConfigError Json := do
  let filename ← config.asString
  loadAndInclude files fuel filename

end JsonIncluder

end Gem5Sc
