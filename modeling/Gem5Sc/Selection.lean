/-
  File:      Gem5Sc/Selection.lean
  Subject:   Which names an endpoint of a connection stands for: `Wildcard`, `RegexMatcher`,
             `filterExcluded`, `ModuleGroup` and `parsePortSpec`.

  `std::regex` is a parameter (`RegexEngine`). The one thing assumed of it is what ECMAScript says
  about `^.*$`: it matches every string without a line terminator, and no other.
-/
import Gem5Sc.Json

namespace Gem5Sc

/-- The line terminators of ECMAScript. -/
def isLineTerminator (c : Char) : Bool :=
  c == '\n' || c == '\r' || c == '\u2028' || c == '\u2029'

/-- The string has no line terminator. -/
def isOneLine (s : String) : Bool := s.toList.all fun c => !isLineTerminator c

/-- `std::regex`: `none` where its constructor throws, else what `regex_match` answers. -/
structure RegexEngine where
  compile : String → Option (String → Bool)
  dotStar : ∃ accepts, compile "^.*$" = some accepts ∧ ∀ s, accepts s = isOneLine s

/-- `s.rfind(pre, 0) == 0`. -/
def beginsWith (pre s : String) : Bool := pre.toList.isPrefixOf s.toList

/-! ## 1. Wildcards and regular expressions -/

namespace Wildcard

/-- The loop of `Wildcard::match`. The character behind a `*` is stepped over. -/
def translate : List Char → List Char
  | [] => []
  | ['*'] => ['.', '*']
  | '*' :: c :: cs => '.' :: '*' :: c :: translate cs
  | '?' :: cs => '.' :: translate cs
  | c :: cs => c :: translate cs

/-- The regular expression a wildcard pattern becomes. -/
def toRegex (pattern : String) : String :=
  String.ofList (translate ('^' :: pattern.toList) ++ ['$'])

/-- `Wildcard::match`. -/
def isMatch (R : RegexEngine) (pattern s : String) : Bool :=
  match R.compile (toRegex pattern) with
  | some accepts => accepts s
  | none => pattern == s

/-- The pattern `*` matches every string of one line. -/
theorem isMatch_star (R : RegexEngine) (s : String) : isMatch R "*" s = isOneLine s := by
  obtain ⟨accepts, hc, ha⟩ := R.dotStar
  have h : toRegex "*" = "^.*$" := by decide
  rw [isMatch, h, hc]
  exact ha s

end Wildcard

namespace RegexMatcher

/-- `RegexMatcher::isRegexPattern`. -/
def isRegexPattern (pattern : String) : Bool := beginsWith "regex:" pattern

/-- `RegexMatcher::extractRegex`. -/
def extractRegex (pattern : String) : String :=
  if isRegexPattern pattern then String.ofList (pattern.toList.drop 6) else ""

/-- `RegexMatcher::match`. -/
def isMatch (R : RegexEngine) (pattern s : String) : Bool :=
  if isRegexPattern pattern then
    match R.compile (extractRegex pattern) with
    | some accepts => accepts s
    | none => false
  else Wildcard.isMatch R pattern s

end RegexMatcher

/-! ## 2. Exclusion -/

/-- One name against the exclude list: the patterns in order, the first match ends the loop. -/
def isExcluded (R : RegexEngine) (name : String) : List Json → Except ConfigError Bool
  | [] => .ok false
  | e :: es => do
      let pattern ← e.asString
      if Wildcard.isMatch R pattern name ||
          (RegexMatcher.isRegexPattern pattern && RegexMatcher.isMatch R pattern name) then
        return true
      else isExcluded R name es

/-- `filterExcluded`. -/
def filterExcluded (R : RegexEngine) (candidates : List String) (excludeList : Json) :
    Except ConfigError (List String) :=
  match candidates with
  | [] => .ok []
  | name :: rest => do
      let excluded ← isExcluded R name excludeList.elems
      let kept ← filterExcluded R rest excludeList
      return if excluded then kept else name :: kept

/-! ## 3. Groups -/

/-- A map as an association list: the newest entry of a key first, older ones gone. -/
def setKey {α : Type} (l : List (String × α)) (k : String) (x : α) : List (String × α) :=
  (k, x) :: l.filter fun e => e.1 ≠ k

theorem lookup_setKey_self {α : Type} (l : List (String × α)) (k : String) (x : α) :
    (setKey l k x).lookup k = some x := List.lookup_cons_self

theorem lookup_filter_ne {α : Type} (l : List (String × α)) {k k' : String} (h : k' ≠ k) :
    (l.filter fun e => e.1 ≠ k).lookup k' = l.lookup k' := by
  induction l with
  | nil => rfl
  | cons e l ih =>
      by_cases he : e.1 = k
      · have hne : (k' == e.1) = false := beq_false_of_ne fun hk => h (hk.trans he)
        rw [List.filter_cons_of_neg (by simpa using he), ih, List.lookup_cons, hne]
      · rw [List.filter_cons_of_pos (by simpa using he), List.lookup_cons, List.lookup_cons, ih]

theorem lookup_setKey_of_ne {α : Type} (l : List (String × α)) {k k' : String} (x : α)
    (h : k' ≠ k) : (setKey l k x).lookup k' = l.lookup k' := by
  rw [setKey, List.lookup_cons, beq_false_of_ne h]
  exact lookup_filter_ne l h

namespace ModuleGroup

/-- `ModuleGroup::isGroupReference`. -/
def isGroupReference (s : String) : Bool := beginsWith "group:" s

/-- `ModuleGroup::extractGroupName`. -/
def extractGroupName (s : String) : String :=
  if isGroupReference s then String.ofList (s.toList.drop 6) else ""

/-- `ModuleGroup::resolve` over the table of groups. -/
def resolve (groups : List (String × List String)) (groupRef : String) : List String :=
  if isGroupReference groupRef then (groups.lookup (extractGroupName groupRef)).getD [] else []

end ModuleGroup

/-! ## 4. Endpoints -/

/-- `parsePortSpec`: split at the first dot. -/
def parsePortSpec (fullName : String) : String × String :=
  match fullName.toList.dropWhile (· ≠ '.') with
  | [] => (fullName, "")
  | _ :: rest => (String.ofList (fullName.toList.takeWhile (· ≠ '.')), String.ofList rest)

example : parsePortSpec "cpu.mem.side" = ("cpu", "mem.side") := by decide

/-- The names a spec stands for, before exclusion; `names` are the created instances. A spec is
    a pattern whenever it has one line: the source asks `Wildcard::match("*", spec)`. -/
def select (R : RegexEngine) (groups : List (String × List String)) (names : List String)
    (spec : String) : List String :=
  if ModuleGroup.isGroupReference spec then ModuleGroup.resolve groups spec
  else if RegexMatcher.isRegexPattern spec || Wildcard.isMatch R "*" spec then
    names.filter fun name => RegexMatcher.isMatch R spec name
  else [spec]

/-- A spec without wildcard, regex or group syntax. -/
def isPlain (spec : String) : Bool :=
  !ModuleGroup.isGroupReference spec && !RegexMatcher.isRegexPattern spec &&
    spec.toList.all fun c => c ≠ '*' ∧ c ≠ '?'

/-- **What a plain spec stands for**: the names it matches as a pattern, when it has one line. -/
theorem select_of_isPlain (R : RegexEngine) (groups : List (String × List String))
    (names : List String) {spec : String} (h : isPlain spec = true) :
    select R groups names spec =
      if isOneLine spec then names.filter fun name => Wildcard.isMatch R spec name else [spec] := by
  simp only [isPlain, Bool.and_eq_true, Bool.not_eq_true'] at h
  obtain ⟨⟨hg, hr⟩, _⟩ := h
  have hm : RegexMatcher.isMatch R spec = Wildcard.isMatch R spec := by
    funext name
    simp [RegexMatcher.isMatch, hr]
  simp [select, hg, hr, hm, Wildcard.isMatch_star]

/-- An exclude list that matches nothing removes nothing. -/
theorem filterExcluded_eq_self {R : RegexEngine} {candidates : List String} {excludeList : Json}
    (h : ∀ name ∈ candidates, isExcluded R name excludeList.elems = .ok false) :
    filterExcluded R candidates excludeList = .ok candidates := by
  induction candidates with
  | nil => rfl
  | cons name rest ih =>
      have hrest := ih fun n hn => h n (List.mem_cons_of_mem name hn)
      rw [filterExcluded, h name List.mem_cons_self, hrest]
      rfl

/-! ## 5. A fragment of `std::regex` -/

namespace PlainRegex

/-- One character against a literal or `.`. -/
def atom (p c : Char) : Bool := if p = '.' then !isLineTerminator c else p == c

/-- Any number of characters that match `p`, then `rest`. -/
def star (p : Char) (rest : List Char → Bool) : List Char → Bool
  | [] => rest []
  | c :: cs => rest (c :: cs) || (atom p c && star p rest cs)

/-- A whole string against literals, `.` and their repetitions. -/
def matches? : List Char → List Char → Bool
  | [], s => s.isEmpty
  | p :: '*' :: ps, s => star p (matches? ps) s
  | p :: ps, c :: cs => atom p c && matches? ps cs
  | _ :: _, [] => false

/-- The characters the fragment has no meaning for. -/
def isSpecial (c : Char) : Bool := c ∈ ['^', '$', '\\', '(', ')', '[', ']', '{', '}', '+', '?', '|']

/-- An expression `^..$` of literals, `.` and their repetitions. -/
def compile (pattern : String) : Option (String → Bool) :=
  match pattern.toList with
  | '^' :: rest =>
      if rest.getLast? = some '$' ∧ !rest.dropLast.any isSpecial then
        some fun s => matches? rest.dropLast s.toList
      else none
  | _ => none

theorem matches_dotStar (s : List Char) :
    matches? ['.', '*'] s = s.all fun c => !isLineTerminator c := by
  show star '.' (matches? []) s = _
  induction s with
  | nil => rfl
  | cons c cs ih =>
      show (false || (!isLineTerminator c && star '.' (matches? []) cs)) = _
      rw [ih, Bool.false_or, List.all_cons]

end PlainRegex

/-- The fragment without classes, groups, counts and escapes. -/
def plainRegex : RegexEngine where
  compile := PlainRegex.compile
  dotStar := ⟨fun s => PlainRegex.matches? ['.', '*'] s.toList, rfl,
    fun s => PlainRegex.matches_dotStar s.toList⟩

end Gem5Sc
