/-
  File:      Gem5Sc/Selection/Globs.lean
  Subject:   WHICH STRINGS A WILDCARD PATTERN MATCHES, against its reading as a glob.

  `Wildcard::match` turns the pattern into a regular expression, asks `std::regex`, and compares
  literally when that throws. Two things can go wrong. A character that has a meaning in a regular
  expression keeps it: a `.` matches any character. And the loop steps over the character behind a
  `*`, so that `*?` becomes `.*?`, which needs no character, and `**` becomes `.**`, which throws.

  `std::regex` is a parameter with what ECMAScript says (`RegexEngine.Ecma`). A pattern whose only
  special characters are wildcards and dots becomes a row of literals, `.`, `.*` and `.*?`, or
  throws (`simple_cases`); where it is no glob, the shortest word of the row shows it
  (`Reads.clean`). Any other special character costs the expression a letter, and its shortest
  word is no glob's (`simple_of_agrees`).
-/
import Gem5Sc.Selection.Trees
import Gem5Sc.Library.Row
import Mathlib.Data.List.Chain

namespace Gem5Sc

open Library (Term Row.Matches Row.accepts)

/-! ## 1. Globs -/

/-- The pattern read as a glob. -/
def Glob : List Char → List Char → Prop
  | [], s => s = []
  | '*' :: p, s => ∃ u v, s = u ++ v ∧ Glob p v
  | '?' :: p, s => ∃ c v, s = c :: v ∧ Glob p v
  | x :: p, s => ∃ v, s = x :: v ∧ Glob p v

/-- A character of a glob as a term. -/
def globTerm (x : Char) : Term Char :=
  if x = '*' then .many fun _ => true
  else if x = '?' then .one fun _ => true
  else .one (· == x)

theorem glob_iff (p s : List Char) : Glob p s ↔ Row.Matches (p.map globTerm) s := by
  induction p generalizing s with
  | nil => exact Iff.rfl
  | cons x p ih =>
      by_cases hstar : x = '*'
      · subst hstar
        refine exists_congr fun u => exists_congr fun v => and_congr_right fun _ => ?_
        rw [ih]
        exact (and_iff_right fun _ _ => rfl).symm
      by_cases hany : x = '?'
      · subst hany
        refine exists_congr fun c => exists_congr fun v => and_congr_right fun _ => ?_
        rw [ih]
        exact (and_iff_right rfl).symm
      · have hterm : globTerm x = .one (· == x) := by
          rw [globTerm, if_neg hstar, if_neg hany]
        rw [List.map_cons, hterm, Glob.eq_4 _ _ _ hstar hany]
        constructor
        · rintro ⟨v, rfl, hv⟩
          exact ⟨x, v, rfl, beq_self_eq_true x, (ih v).mp hv⟩
        · rintro ⟨c, v, rfl, hc, hv⟩
          obtain rfl := eq_of_beq hc
          exact ⟨v, rfl, (ih v).mpr hv⟩

/-! ## 2. Regular expressions -/

/-- A piece of a regular expression: a literal, `.`, `.*` or the lazy `.*?`. -/
inductive RegexTerm where
  | lit (c : Char) (h : isSyntax c = false)
  | dot
  | dotStar
  | dotStarLazy

namespace RegexTerm

def text : RegexTerm → List Char
  | .lit c _ => [c]
  | .dot => ['.']
  | .dotStar => ['.', '*']
  | .dotStarLazy => ['.', '*', '?']

/-- What the piece matches; a lazy repetition takes fewer characters first. -/
def term : RegexTerm → Term Char
  | .lit c _ => .one (· == c)
  | .dot => .one fun c => !isLineTerminator c
  | .dotStar | .dotStarLazy => .many fun c => !isLineTerminator c

/-- The piece that a character other than `*` becomes. -/
def ofChar (c : Char) : RegexTerm :=
  if h : isSyntax c = false then .lit c h else .dot

end RegexTerm

/-- The regular expression `^..$`. -/
def anchored (body : List Char) : String := String.ofList ('^' :: (body ++ ['$']))

/-- The expression has no assertion, count or back reference and nothing that begins with `(?`, and
    its `$` at the end is not escaped. -/
structure InScope (body : List Char) : Prop where
  chars : ∀ c ∈ body, c ≠ '^' ∧ c ≠ '$' ∧ c ≠ '{' ∧ c ≠ '}'
  pairs : body.IsChain fun a b =>
    (a = '\\' → b.isDigit = false ∧ b ≠ 'b' ∧ b ≠ 'B' ∧ b ≠ '*') ∧ (a = '(' → b ≠ '?')
  last : body.getLast? ≠ some '\\'

/-- **What ECMAScript says** of these pieces in a row, that nothing repeats a repetition, and that
    an accepted expression in scope is the text of a tree. -/
structure RegexEngine.Ecma (R : RegexEngine) : Prop where
  row : ∀ ts : List RegexTerm, ∃ accepts, R.compile (anchored (ts.flatMap RegexTerm.text)) =
    some accepts ∧ ∀ s, accepts s = true ↔ Row.Matches (ts.map RegexTerm.term) s.toList
  repeated : ∀ (ts : List RegexTerm) (rest : List Char),
    R.compile (anchored (ts.flatMap RegexTerm.text ++ '.' :: '*' :: '*' :: rest)) = none
  tree : ∀ (body : List Char) (accepts : String → Bool), InScope body →
    R.compile (anchored body) = some accepts →
      ∃ e : RegexTree, e.text = body ∧ ∀ s, accepts s = true ↔ s.toList ∈ e.lang

/-! ## 3. What a pattern becomes -/

/-- The characters of the pattern are wildcards, dots or no special characters. -/
def Simple (p : List Char) : Prop := ∀ c ∈ p, isSyntax c = true → c = '*' ∨ c = '?' ∨ c = '.'

namespace Wildcard

theorem translate_char {c : Char} (hc : c ≠ '*') (p : List Char) :
    translate (c :: p) = (if c = '?' then '.' else c) :: translate p := by
  by_cases hany : c = '?'
  · subst hany
    rfl
  · rw [if_neg hany, translate.eq_5 c p (fun h _ => hc h) (fun _ _ h _ => hc h) hany]

theorem toRegex_eq (pattern : String) : toRegex pattern = anchored (translate pattern.toList) := by
  unfold toRegex anchored
  rw [translate_char (by decide)]
  rfl

/-- The pieces that a pattern becomes, and what follows where it repeats a repetition. -/
inductive Reads : List Char → List RegexTerm → Option (List Char) → Prop where
  | nil : Reads [] [] none
  | last : Reads ['*'] [.dotStar] none
  | repeated (p) : Reads ('*' :: '*' :: p) [] (some (translate p))
  | lazy {p ts o} (hp : Reads p ts o) : Reads ('*' :: '?' :: p) (.dotStarLazy :: ts) o
  | star {c p ts o} (hc : c ≠ '*') (hc' : c ≠ '?') (hp : Reads p ts o) :
      Reads ('*' :: c :: p) (.dotStar :: .ofChar c :: ts) o
  | char {c p ts o} (hc : c ≠ '*') (hp : Reads p ts o) : Reads (c :: p) (.ofChar c :: ts) o

theorem exists_reads (p : List Char) : ∃ ts o, Reads p ts o := by
  induction p using translate.induct with
  | case1 => exact ⟨_, _, .nil⟩
  | case2 => exact ⟨_, _, .last⟩
  | case3 c cs ih =>
      obtain ⟨ts, o, h⟩ := ih
      by_cases hc : c = '*'
      · subst hc
        exact ⟨_, _, .repeated cs⟩
      by_cases hc' : c = '?'
      · subst hc'
        exact ⟨_, _, .lazy h⟩
      · exact ⟨_, _, .star hc hc' h⟩
  | case4 cs ih =>
      obtain ⟨ts, o, h⟩ := ih
      exact ⟨_, _, .char (by decide) h⟩
  | case5 c cs hlast hpair _ ih =>
      obtain ⟨ts, o, h⟩ := ih
      refine ⟨_, _, .char ?_ h⟩
      rintro rfl
      cases cs with
      | nil => exact hlast rfl rfl
      | cons d ds => exact hpair d ds rfl rfl

/-- What stands behind the pieces. -/
def behind : Option (List Char) → List Char
  | none => []
  | some rest => '.' :: '*' :: '*' :: rest

theorem text_ofChar {c : Char} (hc : c ≠ '*')
    (hs : isSyntax c = true → c = '*' ∨ c = '?' ∨ c = '.') :
    (RegexTerm.ofChar c).text = [if c = '?' then '.' else c] := by
  unfold RegexTerm.ofChar
  split
  · next h =>
      have hany : c ≠ '?' := fun hc => by rw [hc] at h; cases h
      rw [if_neg hany]
      rfl
  · next h =>
      rcases hs (Bool.not_eq_false _ ▸ h) with rfl | rfl | rfl
      · exact absurd rfl hc
      · rfl
      · rfl

/-- **What a simple pattern becomes.** -/
theorem Reads.translate_eq {p : List Char} {ts : List RegexTerm} {o : Option (List Char)}
    (h : Reads p ts o) (hp : Simple p) : translate p = ts.flatMap RegexTerm.text ++ behind o := by
  induction h with
  | nil => rfl
  | last => rfl
  | repeated p => rfl
  | lazy _ ih =>
      rw [translate, ih fun c hc => hp c (List.mem_cons_of_mem _ (List.mem_cons_of_mem _ hc))]
      rfl
  | @star c p ts o hc hc' _ ih =>
      have htext := text_ofChar hc (hp c (List.mem_cons_of_mem _ List.mem_cons_self))
      rw [if_neg hc'] at htext
      rw [translate, ih fun c hc => hp c (List.mem_cons_of_mem _ (List.mem_cons_of_mem _ hc)),
        List.flatMap_cons, List.flatMap_cons, htext]
      · rfl
  | @char c p ts o hc _ ih =>
      rw [translate_char hc, ih fun c hc => hp c (List.mem_cons_of_mem _ hc), List.flatMap_cons,
        text_ofChar hc (hp c List.mem_cons_self)]
      rfl

theorem Reads.star_mem {p : List Char} {ts : List RegexTerm} {rest : List Char}
    (h : Reads p ts (some rest)) : '*' ∈ p := by
  generalize ho : some rest = o at h
  induction h with
  | nil => cases ho
  | last => cases ho
  | repeated p => exact List.mem_cons_self
  | lazy _ _ => exact List.mem_cons_self
  | star _ _ _ _ => exact List.mem_cons_self
  | char _ _ ih => exact List.mem_cons_of_mem _ (ih ho)

/-! ## 4. Clean patterns -/

/-- No special characters besides the wildcards, and none of them right behind a `*`. -/
structure Clean (p : List Char) : Prop where
  plain : ∀ c ∈ p, isSyntax c = true → c = '*' ∨ c = '?'
  apart : p.IsChain fun a b => a = '*' → b ≠ '*' ∧ b ≠ '?'

theorem Clean.tail {c : Char} {p : List Char} (h : Clean (c :: p)) : Clean p :=
  ⟨fun d hd => h.plain d (List.mem_cons_of_mem c hd), h.apart.tail⟩

theorem agree_star : Library.Row.Agree (fun c => isLineTerminator c = false)
    RegexTerm.dotStar.term (globTerm '*') :=
  .many fun c hc => by rw [hc]; rfl

theorem agree_char {c : Char} (hc : c ≠ '*') (hs : isSyntax c = true → c = '*' ∨ c = '?') :
    Library.Row.Agree (fun c => isLineTerminator c = false) (RegexTerm.ofChar c).term
      (globTerm c) := by
  unfold RegexTerm.ofChar globTerm
  rw [if_neg hc]
  split
  · next h =>
      have hany : c ≠ '?' := fun hc => by rw [hc] at h; cases h
      rw [if_neg hany]
      exact .one fun _ _ => rfl
  · next h =>
      rw [if_pos ((hs (Bool.not_eq_false _ ▸ h)).resolve_left hc)]
      exact .one fun c hc => by rw [hc]; rfl

/-- A clean pattern becomes a row that agrees with the glob on strings of one line. -/
theorem Reads.agree {p : List Char} {ts : List RegexTerm} {o : Option (List Char)}
    (h : Reads p ts o) (hp : Clean p) : o = none ∧
      List.Forall₂ (Library.Row.Agree fun c => isLineTerminator c = false)
        (ts.map RegexTerm.term) (p.map globTerm) := by
  induction h with
  | nil => exact ⟨rfl, .nil⟩
  | last => exact ⟨rfl, .cons agree_star .nil⟩
  | repeated p => exact absurd rfl ((List.isChain_cons_cons.mp hp.apart).1 rfl).1
  | lazy _ _ => exact absurd rfl ((List.isChain_cons_cons.mp hp.apart).1 rfl).2
  | star hc _ _ ih =>
      obtain ⟨ho, hrest⟩ := ih hp.tail.tail
      have hchar := agree_char hc (hp.tail.plain _ List.mem_cons_self)
      exact ⟨ho, .cons agree_star (.cons hchar hrest)⟩
  | char hc _ ih =>
      obtain ⟨ho, hrest⟩ := ih hp.tail
      exact ⟨ho, .cons (agree_char hc (hp.plain _ List.mem_cons_self)) hrest⟩

/-! ## 5. Shortest words -/

/-- A shortest word of the pieces. -/
def word : List RegexTerm → List Char
  | [] => []
  | .lit c _ :: ts => c :: word ts
  | .dot :: ts => 'x' :: word ts
  | .dotStar :: ts => word ts
  | .dotStarLazy :: ts => word ts

theorem word_singles (ts : List RegexTerm) : List.Forall₂ (fun q c => q c = true)
    (Library.Row.singles (ts.map RegexTerm.term)) (word ts) := by
  induction ts with
  | nil => exact .nil
  | cons t ts ih =>
      cases t with
      | lit c _ => exact .cons (beq_self_eq_true c) ih
      | dot => exact .cons (by decide) ih
      | dotStar => exact ih
      | dotStarLazy => exact ih

/-- A shortest string of the glob. -/
def globWord (p : List Char) : List Char :=
  (p.filter (· ≠ '*')).map fun c => if isSyntax c then 'x' else c

theorem globWord_star (p : List Char) : globWord ('*' :: p) = globWord p := rfl

theorem globWord_char {c : Char} (hc : c ≠ '*') (p : List Char) :
    globWord (c :: p) = (if isSyntax c then 'x' else c) :: globWord p := by
  unfold globWord
  rw [List.filter_cons_of_pos (by simpa using hc), List.map_cons]

theorem word_ofChar (c : Char) (ts : List RegexTerm) :
    word (.ofChar c :: ts) = (if isSyntax c then 'x' else c) :: word ts := by
  unfold RegexTerm.ofChar
  split
  · next h =>
      rw [if_neg (by rw [h]; decide)]
      rfl
  · next h =>
      rw [if_pos (Bool.not_eq_false _ ▸ h)]
      rfl

/-- Nothing can be wrong behind a character that is no `*`. -/
theorem isChain_char {c : Char} (hc : c ≠ '*') {p : List Char}
    (hp : p.IsChain fun a b => a = '*' → b ≠ '*' ∧ b ≠ '?') :
    (c :: p).IsChain fun a b => a = '*' → b ≠ '*' ∧ b ≠ '?' :=
  hp.cons fun _ _ h => absurd h hc

/-- The word of the pieces is no longer than that of the glob, and as long only where no `?` has
    been lost. -/
theorem Reads.word_le {p : List Char} {ts : List RegexTerm} {o : Option (List Char)}
    (h : Reads p ts o) (ho : o = none) :
    (word ts).length ≤ (globWord p).length ∧ ((globWord p).length ≤ (word ts).length →
      word ts = globWord p ∧ p.IsChain fun a b => a = '*' → b ≠ '*' ∧ b ≠ '?') := by
  induction h with
  | nil => exact ⟨Nat.le_refl _, fun _ => ⟨rfl, .nil⟩⟩
  | last => exact ⟨Nat.le_refl _, fun _ => ⟨rfl, .singleton _⟩⟩
  | repeated p => cases ho
  | @lazy p ts o _ ih =>
      have hle := (ih ho).1
      have hlost : (globWord ('*' :: '?' :: p)).length = (globWord p).length + 1 := rfl
      have hword : word (.dotStarLazy :: ts) = word ts := rfl
      rw [hlost, hword]
      exact ⟨Nat.le_succ_of_le hle, fun h => absurd (Nat.le_trans h hle) (Nat.not_succ_le_self _)⟩
  | @star c p ts o hc hc' _ ih =>
      obtain ⟨hle, heq⟩ := ih ho
      have hword : word (.dotStar :: .ofChar c :: ts) = word (.ofChar c :: ts) := rfl
      rw [hword, word_ofChar, globWord_star, globWord_char hc, List.length_cons, List.length_cons]
      refine ⟨Nat.succ_le_succ hle, fun h => ?_⟩
      obtain ⟨hw, hchain⟩ := heq (Nat.le_of_succ_le_succ h)
      exact ⟨by rw [hw], List.isChain_cons_cons.mpr ⟨fun _ => ⟨hc, hc'⟩, isChain_char hc hchain⟩⟩
  | @char c p ts o hc _ ih =>
      obtain ⟨hle, heq⟩ := ih ho
      rw [word_ofChar, globWord_char hc, List.length_cons, List.length_cons]
      refine ⟨Nat.succ_le_succ hle, fun h => ?_⟩
      obtain ⟨hw, hchain⟩ := heq (Nat.le_of_succ_le_succ h)
      exact ⟨by rw [hw], isChain_char hc hchain⟩

theorem globTerm_char {c : Char} (hc : c ≠ '*') (hc' : c ≠ '?') : globTerm c = .one (· == c) := by
  rw [globTerm, if_neg hc, if_neg hc']

theorem singles_length (p : List Char) :
    (Library.Row.singles (p.map globTerm)).length = (globWord p).length := by
  induction p with
  | nil => rfl
  | cons c p ih =>
      by_cases hc : c = '*'
      · subst hc
        exact ih
      by_cases hc' : c = '?'
      · subst hc'
        exact congrArg (· + 1) ih
      · rw [List.map_cons, globTerm_char hc hc', globWord_char hc]
        exact congrArg (· + 1) ih

/-- A letter in the place of a special character tells it from a glob. -/
theorem plain_of_singles {p : List Char} (h : List.Forall₂ (fun q c => q c = true)
    (Library.Row.singles (p.map globTerm)) (globWord p)) :
    ∀ c ∈ p, isSyntax c = true → c = '*' ∨ c = '?' := by
  induction p with
  | nil => exact fun c hc => absurd hc List.not_mem_nil
  | cons d p ih =>
      by_cases hd : d = '*'
      · subst hd
        exact List.forall_mem_cons.mpr ⟨fun _ => Or.inl rfl, ih h⟩
      by_cases hd' : d = '?'
      · subst hd'
        cases h with
        | cons _ h => exact List.forall_mem_cons.mpr ⟨fun _ => Or.inr rfl, ih h⟩
      · rw [List.map_cons, globTerm_char hd hd', globWord_char hd] at h
        cases h with
        | cons hx h =>
            refine List.forall_mem_cons.mpr ⟨fun hs => ?_, ih h⟩
            rw [if_pos hs] at hx
            rw [← eq_of_beq hx] at hs
            cases hs

theorem Reads.mem_word {p : List Char} {ts : List RegexTerm} {o : Option (List Char)}
    (h : Reads p ts o) (ho : o = none) {c : Char} (hc : c ∈ word ts) : c = 'x' ∨ c ∈ p := by
  have hchar : ∀ d, c = (if isSyntax d then 'x' else d) → c = 'x' ∨ c = d := by
    intro d hd
    split at hd
    · exact Or.inl hd
    · exact Or.inr hd
  induction h with
  | nil => exact absurd hc List.not_mem_nil
  | last => exact absurd hc List.not_mem_nil
  | repeated p => cases ho
  | lazy _ ih =>
      exact (ih ho hc).imp_right fun h => List.mem_cons_of_mem _ (List.mem_cons_of_mem _ h)
  | @star d p ts o _ _ _ ih =>
      have hmem : c ∈ word (.ofChar d :: ts) := hc
      rw [word_ofChar] at hmem
      rcases List.mem_cons.mp hmem with hd | hmem
      · rcases hchar d hd with h | rfl
        · exact Or.inl h
        · exact Or.inr (List.mem_cons_of_mem _ List.mem_cons_self)
      · exact (ih ho hmem).imp_right fun h => List.mem_cons_of_mem _ (List.mem_cons_of_mem _ h)
  | @char d p ts o _ _ ih =>
      rw [word_ofChar] at hc
      rcases List.mem_cons.mp hc with hd | hmem
      · rcases hchar d hd with h | rfl
        · exact Or.inl h
        · exact Or.inr List.mem_cons_self
      · exact (ih ho hmem).imp_right fun h => List.mem_cons_of_mem _ h

/-- A glob that accepts the word of the pieces is clean. -/
theorem Reads.clean {p : List Char} {ts : List RegexTerm} (h : Reads p ts none)
    (hg : Glob p (word ts)) : Clean p := by
  have hm := (glob_iff p (word ts)).mp hg
  obtain ⟨hle, heq⟩ := h.word_le rfl
  have hlen := hm.length_le
  rw [singles_length] at hlen
  obtain ⟨hw, hchain⟩ := heq hlen
  have hsingles := hm.singles (by rw [singles_length, hw])
  rw [hw] at hsingles
  exact ⟨plain_of_singles hsingles, hchain⟩

/-! ## 6. Patterns with a line terminator, and literal comparison -/

/-- A literal of the glob is in every string it accepts. -/
theorem mem_of_glob {p s : List Char} (h : Glob p s) {c : Char} (hc : c ∈ p)
    (hs : isSyntax c = false) : c ∈ s := by
  have hterm : globTerm c = .one (· == c) :=
    globTerm_char (fun h => by rw [h] at hs; cases hs) fun h => by rw [h] at hs; cases hs
  obtain ⟨d, hd, hdc⟩ := ((glob_iff p s).mp h).exists_mem
    (hterm ▸ List.mem_map_of_mem hc : Term.one (· == c) ∈ p.map globTerm)
  rwa [← eq_of_beq hdc]

/-- The same for the pieces. -/
theorem Reads.mem {p : List Char} {ts : List RegexTerm} {o : Option (List Char)}
    (h : Reads p ts o) (ho : o = none) {c : Char} (hc : c ∈ p) (hs : isSyntax c = false) :
    RegexTerm.lit c hs ∈ ts := by
  have hof : RegexTerm.ofChar c = .lit c hs := dif_pos hs
  induction h with
  | nil => exact absurd hc List.not_mem_nil
  | last =>
      rw [List.mem_singleton.mp hc] at hs
      cases hs
  | repeated p => cases ho
  | lazy _ ih =>
      rcases List.mem_cons.mp hc with rfl | hc
      · cases hs
      rcases List.mem_cons.mp hc with rfl | hc
      · cases hs
      · exact List.mem_cons_of_mem _ (ih ho hc)
  | star _ _ _ ih =>
      rcases List.mem_cons.mp hc with rfl | hc
      · cases hs
      rcases List.mem_cons.mp hc with rfl | hc
      · exact List.mem_cons_of_mem _ (hof ▸ List.mem_cons_self)
      · exact List.mem_cons_of_mem _ (List.mem_cons_of_mem _ (ih ho hc))
  | char _ _ ih =>
      rcases List.mem_cons.mp hc with rfl | hc
      · exact hof ▸ List.mem_cons_self
      · exact List.mem_cons_of_mem _ (ih ho hc)

/-- A shortest string that the glob accepts, in the letters of the pattern. -/
def least (p : List Char) : List Char :=
  (p.filter (· ≠ '*')).map fun c => if c = '?' then 'x' else c

theorem mem_least {p : List Char} {c : Char} (hc : c ∈ least p) :
    (c = 'x' ∨ c ∈ p) ∧ c ≠ '*' ∧ c ≠ '?' := by
  obtain ⟨d, hd, rfl⟩ := List.mem_map.mp hc
  obtain ⟨hmem, hstar⟩ := List.mem_filter.mp hd
  by_cases hany : d = '?'
  · rw [if_pos hany]
    exact ⟨Or.inl rfl, by decide⟩
  · rw [if_neg hany]
    exact ⟨Or.inr hmem, by simpa using hstar, hany⟩

theorem glob_least (p : List Char) : Glob p (least p) := by
  unfold least
  induction p with
  | nil => rfl
  | cons c p ih =>
      by_cases hc : c = '*'
      · subst hc
        exact ⟨[], _, rfl, ih⟩
      by_cases hc' : c = '?'
      · subst hc'
        exact ⟨'x', _, rfl, ih⟩
      · rw [List.filter_cons_of_pos (by simpa using hc), List.map_cons, if_neg hc',
          Glob.eq_4 _ _ _ hc hc']
        exact ⟨_, rfl, ih⟩

/-- A glob without wildcards is its own only string. -/
theorem glob_of_plain {p : List Char} (hp : ∀ c ∈ p, c ≠ '*' ∧ c ≠ '?') (s : List Char) :
    Glob p s ↔ p = s := by
  induction p generalizing s with
  | nil => exact eq_comm
  | cons c p ih =>
      obtain ⟨⟨hc, hc'⟩, hp⟩ := List.forall_mem_cons.mp hp
      rw [Glob.eq_4 _ _ _ hc hc']
      constructor
      · rintro ⟨v, rfl, hv⟩
        rw [(ih hp v).mp hv]
      · rintro rfl
        exact ⟨p, rfl, (ih hp p).mpr rfl⟩

/-! ## 7. When a pattern is a glob -/

/-- On strings of one line the pattern matches what the glob does. -/
def Agrees (R : RegexEngine) (pattern : String) : Prop :=
  ∀ s, isOneLine s = true → (isMatch R pattern s = true ↔ Glob pattern.toList s.toList)

/-- `std::regex` throws, and the pattern is compared literally. -/
def Rejected (R : RegexEngine) (pattern : String) : Prop := R.compile (toRegex pattern) = none

/-- The pattern is clean; or it is compared literally and has no wildcard; or it has a line
    terminator, which no string of one line has. -/
def Meant (R : RegexEngine) (pattern : String) : Prop :=
  Clean pattern.toList ∨
    (Rejected R pattern ∧ ∀ c ∈ pattern.toList, c ≠ '*' ∧ c ≠ '?') ∨
    (isOneLine pattern = false ∧ (Simple pattern.toList ∨ Rejected R pattern))

variable {R : RegexEngine} {pattern : String}

theorem isSyntax_of_isLineTerminator {c : Char} (h : isLineTerminator c = true) :
    isSyntax c = false := by
  unfold isLineTerminator at h
  simp only [Bool.or_eq_true, beq_iff_eq] at h
  rcases h with ((rfl | rfl) | rfl) | rfl <;> decide

theorem exists_terminator {s : String} (h : isOneLine s = false) :
    ∃ c ∈ s.toList, isLineTerminator c = true := by
  simpa [isOneLine] using h

/-- No string of one line matches a glob with a line terminator. -/
theorem not_glob_of_terminator (h : isOneLine pattern = false) {s : String}
    (hs : isOneLine s = true) : ¬ Glob pattern.toList s.toList := by
  obtain ⟨c, hc, hterm⟩ := exists_terminator h
  intro hg
  have hmem := mem_of_glob hg hc (isSyntax_of_isLineTerminator hterm)
  have hno := List.all_eq_true.mp hs c hmem
  rw [hterm] at hno
  cases hno

theorem isMatch_of_rejected (h : Rejected R pattern) (s : String) :
    isMatch R pattern s = true ↔ pattern = s := by
  rw [isMatch, show R.compile (toRegex pattern) = none from h]
  exact beq_iff_eq

/-- What a simple pattern matches: what its pieces do, or itself. -/
theorem simple_cases (hE : R.Ecma) (hp : Simple pattern.toList) :
    (∃ ts, Reads pattern.toList ts none ∧ ∀ s, isMatch R pattern s = true ↔
      Row.Matches (ts.map RegexTerm.term) s.toList) ∨
    Rejected R pattern ∧ '*' ∈ pattern.toList ∧ ¬ Clean pattern.toList := by
  obtain ⟨ts, o, hr⟩ := exists_reads pattern.toList
  have htext := toRegex_eq pattern
  rw [hr.translate_eq hp] at htext
  cases o with
  | none =>
      obtain ⟨accepts, hc, ha⟩ := hE.row ts
      refine Or.inl ⟨ts, hr, fun s => ?_⟩
      rw [isMatch, htext, behind, List.append_nil, hc]
      exact ha s
  | some rest =>
      refine Or.inr ⟨?_, hr.star_mem, fun hclean => ?_⟩
      · rw [Rejected, htext]
        exact hE.repeated ts rest
      · cases (hr.agree hclean).1

theorem agrees_of_meant (hE : R.Ecma) (h : Meant R pattern) : Agrees R pattern := by
  intro s hs
  rcases h with hclean | ⟨hrej, hplain⟩ | ⟨hterm, hsimple⟩
  · have hp : Simple pattern.toList := fun c hc h => (hclean.plain c hc h).imp_right Or.inl
    rcases simple_cases hE hp with ⟨ts, hr, hm⟩ | ⟨-, -, hno⟩
    · rw [hm, glob_iff]
      exact Library.Row.Matches.congr (hr.agree hclean).2 fun c hc => by
        simpa using List.all_eq_true.mp hs c hc
    · exact absurd hclean hno
  · rw [isMatch_of_rejected hrej, glob_of_plain hplain, String.toList_inj]
  · refine iff_of_false (fun hm => ?_) (not_glob_of_terminator hterm hs)
    have hrej : ¬ Rejected R pattern := by
      intro hrej
      rw [(isMatch_of_rejected hrej s).mp hm, hs] at hterm
      cases hterm
    rcases simple_cases hE (hsimple.resolve_right hrej) with ⟨ts, hr, hm'⟩ | ⟨h, -⟩
    · obtain ⟨c, hc, hterm⟩ := exists_terminator hterm
      have hlit := List.mem_map_of_mem (f := RegexTerm.term)
        (hr.mem rfl hc (isSyntax_of_isLineTerminator hterm))
      obtain ⟨d, hd, hdc⟩ := ((hm' s).mp hm).exists_mem hlit
      have hno := List.all_eq_true.mp hs d hd
      rw [eq_of_beq hdc, hterm] at hno
      cases hno
    · exact hrej h

theorem isOneLine_of_letters {w : List Char} (hw : ∀ c ∈ w, isLineTerminator c = false) :
    isOneLine (String.ofList w) = true := by
  refine List.all_eq_true.mpr fun c hc => ?_
  rw [String.toList_ofList] at hc
  rw [hw c hc]
  rfl

/-- Letters of the pattern and the letter `x`. -/
theorem letters_of_isOneLine {w : List Char} (hone : isOneLine pattern = true)
    (hw : ∀ c ∈ w, c = 'x' ∨ c ∈ pattern.toList) : ∀ c ∈ w, isLineTerminator c = false := by
  intro c hc
  rcases hw c hc with rfl | hc
  · rfl
  · simpa using List.all_eq_true.mp hone c hc

/-- A letter in the place of a wildcard gives another string. -/
theorem plain_of_agrees_rejected (hrej : Rejected R pattern) (hone : isOneLine pattern = true)
    (h : Agrees R pattern) : ∀ c ∈ pattern.toList, c ≠ '*' ∧ c ≠ '?' := by
  have hg : Glob pattern.toList (String.ofList (least pattern.toList)).toList := by
    rw [String.toList_ofList]
    exact glob_least pattern.toList
  have hline := letters_of_isOneLine hone fun c hc => (mem_least (c := c) hc).1
  have hm := (h _ (isOneLine_of_letters hline)).mpr hg
  have heq : pattern.toList = least pattern.toList := by
    have heq := (isMatch_of_rejected hrej _).mp hm
    rw [← String.toList_inj, String.toList_ofList] at heq
    exact heq
  intro c hc
  rw [heq] at hc
  exact (mem_least hc).2

/-- No expression begins with a `*`. -/
theorem head_translate (p : List Char) : (translate p).head? ≠ some '*' := by
  cases p with
  | nil => exact fun h => nomatch h
  | cons c p =>
      by_cases hc : c = '*'
      · subst hc
        cases p <;> exact fun h => nomatch Option.some.inj h
      · rw [translate_char hc]
        intro h
        have h' : (if c = '?' then '.' else c) = '*' := Option.some.inj h
        split at h'
        · cases h'
        · exact hc h'

theorem weight_char {c : Char} (hc : c ≠ '*') (p : List Char) :
    weight (c :: translate p) = weight (translate p) + 1 := by
  by_cases hdot : c = '.'
  · rw [hdot, weight_dot (head_translate p)]
  · exact weight_cons hdot hc _

/-- The expression weighs as much as the glob's shortest string is long. -/
theorem weight_translate (p : List Char) : weight (translate p) = (globWord p).length := by
  induction p using translate.induct with
  | case1 => rfl
  | case2 => rfl
  | case3 c cs ih =>
      show weight (c :: translate cs) = (globWord (c :: cs)).length
      by_cases hc : c = '*'
      · rw [hc]
        exact ih
      · rw [weight_char hc, globWord_char hc, ih]
        rfl
  | case4 cs ih =>
      rw [globWord_char (by decide)]
      exact (weight_char (by decide) cs).trans (congrArg (· + 1) ih)
  | case5 c cs hlast hpair hany ih =>
      have hc : c ≠ '*' := by
        rintro rfl
        cases cs with
        | nil => exact hlast rfl rfl
        | cons d ds => exact hpair d ds rfl rfl
      rw [translate_char hc, if_neg hany, weight_char hc, globWord_char hc, ih]
      rfl

/-- The special characters are kept. -/
theorem mem_translate {p : List Char} {c : Char} (hc : c ∈ p) (hstar : c ≠ '*') (hany : c ≠ '?') :
    c ∈ translate p := by
  induction p using translate.induct with
  | case1 => exact hc
  | case2 => exact absurd (List.mem_singleton.mp hc) hstar
  | case3 d cs ih =>
      rcases List.mem_cons.mp hc with h | hc
      · exact absurd h hstar
      refine List.mem_cons_of_mem _ (List.mem_cons_of_mem _ ?_)
      rcases List.mem_cons.mp hc with rfl | hc
      · exact List.mem_cons_self
      · exact List.mem_cons_of_mem _ (ih hc)
  | case4 cs ih =>
      exact List.mem_cons_of_mem _ (ih ((List.mem_cons.mp hc).resolve_left hany))
  | case5 d cs hlast hpair hany' ih =>
      rw [translate.eq_5 d cs hlast hpair hany']
      rcases List.mem_cons.mp hc with rfl | hc
      · exact List.mem_cons_self
      · exact List.mem_cons_of_mem _ (ih hc)

/-- An operator makes the shortest word shorter than the glob's, or leaves no word. -/
theorem simple_of_agrees (hE : R.Ecma) (hone : isOneLine pattern = true)
    (hscope : InScope (translate pattern.toList)) (hrej : ¬ Rejected R pattern)
    (h : Agrees R pattern) : Simple pattern.toList := by
  intro c hc hs
  by_contra hno
  obtain ⟨hstar, hany, hdot⟩ : c ≠ '*' ∧ c ≠ '?' ∧ c ≠ '.' := by
    simpa only [not_or] using hno
  obtain ⟨accepts, hcompile⟩ := Option.ne_none_iff_exists'.mp hrej
  obtain ⟨e, htext, hlang⟩ := hE.tree _ accepts hscope (toRegex_eq pattern ▸ hcompile)
  have hmatch : ∀ s, isMatch R pattern s = true ↔ s.toList ∈ e.lang := by
    intro s
    rw [isMatch, hcompile]
    exact hlang s
  have hop : isOperator c = true := by
    simp only [isOperator, hs, Bool.true_and, Bool.and_eq_true, bne_iff_ne]
    exact ⟨hdot, hstar⟩
  obtain ⟨n, hshort, hlt⟩ := e.short_of_operator
    (P := fun c => isLineTerminator c = false) (htext ▸ mem_translate hc hstar hany) hop
  have hleast := letters_of_isOneLine hone fun d hd => (mem_least (c := d) hd).1
  have hsome := (h _ (isOneLine_of_letters hleast)).mpr
    (by rw [String.toList_ofList]; exact glob_least pattern.toList)
  rw [hmatch, String.toList_ofList] at hsome
  obtain ⟨w, hw, hline, hlen⟩ := hshort ⟨_, hsome, hleast⟩
  have hg := (h (String.ofList w) (isOneLine_of_letters hline)).mp
    ((hmatch _).mpr (by rw [String.toList_ofList]; exact hw))
  rw [String.toList_ofList, glob_iff] at hg
  have hle := hg.length_le
  rw [singles_length, ← weight_translate, ← htext] at hle
  omega

/-- The patterns for which the converse is proved: wildcards and dots only, or rejected, or of one
    line and in scope. -/
def Decided (R : RegexEngine) (pattern : String) : Prop :=
  Simple pattern.toList ∨ Rejected R pattern ∨
    (isOneLine pattern = true ∧ InScope (translate pattern.toList))

theorem meant_of_agrees (hE : R.Ecma) (hs : Decided R pattern) (h : Agrees R pattern) :
    Meant R pattern := by
  by_cases hrej : Rejected R pattern
  · cases hone : isOneLine pattern with
    | false => exact Or.inr (Or.inr ⟨hone, Or.inr hrej⟩)
    | true => exact Or.inr (Or.inl ⟨hrej, plain_of_agrees_rejected hrej hone h⟩)
  have hp : Simple pattern.toList := by
    rcases hs with hp | hrej' | ⟨hone, hscope⟩
    · exact hp
    · exact absurd hrej' hrej
    · exact simple_of_agrees hE hone hscope hrej h
  cases hone : isOneLine pattern with
  | false => exact Or.inr (Or.inr ⟨hone, Or.inl hp⟩)
  | true =>
      rcases simple_cases hE hp with ⟨ts, hr, hm⟩ | ⟨h, -⟩
      · have hword : Row.Matches (ts.map RegexTerm.term) (String.ofList (word ts)).toList := by
          rw [String.toList_ofList]
          exact Library.Row.Matches.of_singles (word_singles ts)
        have hline := letters_of_isOneLine hone fun _ hc => hr.mem_word rfl hc
        have hg := (h _ (isOneLine_of_letters hline)).mp ((hm _).mpr hword)
        rw [String.toList_ofList] at hg
        exact Or.inl (hr.clean hg)
      · exact absurd h hrej

/-- **WHICH PATTERNS ARE GLOBS.** A pattern that is meant matches what the glob does, on every
    string of one line. The other way round, a pattern whose special characters are wildcards and
    dots, or that `std::regex` rejects, or that is of one line and whose expression has no
    assertion, count or back reference, matches what the glob does only if it is meant.

    This leaves open the accepted patterns with an assertion, a count or a back reference, and
    those that have both a line terminator and an operator: `a+` and a line feed match no string of
    one line, as the glob does not, and are not meant. -/
theorem agrees_iff_meant (hE : R.Ecma) (pattern : String) :
    (Meant R pattern → Agrees R pattern) ∧
      (Decided R pattern → (Agrees R pattern ↔ Meant R pattern)) :=
  ⟨agrees_of_meant hE, fun hs => ⟨meant_of_agrees hE hs, agrees_of_meant hE⟩⟩

end Wildcard

/-! ## 8. A concrete engine -/

namespace RowRegex

/-- The pieces of a text. -/
def parse : List Char → Option (List RegexTerm)
  | [] => some []
  | '.' :: '*' :: '?' :: cs => (parse cs).map (.dotStarLazy :: ·)
  | '.' :: '*' :: cs => (parse cs).map (.dotStar :: ·)
  | '.' :: cs => (parse cs).map (.dot :: ·)
  | c :: cs => if h : isSyntax c = false then (parse cs).map (.lit c h :: ·) else none

/-- An expression `^..$` of these pieces. -/
def compile (pattern : String) : Option (String → Bool) :=
  match pattern.toList with
  | '^' :: rest =>
      if rest.getLast? = some '$' then
        (parse rest.dropLast).map fun ts s => Row.accepts (ts.map RegexTerm.term) s.toList
      else none
  | _ => none

/-- The text does not go on with a quantifier. -/
def Fresh (cs : List Char) : Prop := ∀ c ∈ cs.head?, c ≠ '*' ∧ c ≠ '?'

theorem fresh_text (t : RegexTerm) (cs : List Char) : Fresh (t.text ++ cs) := by
  intro c hc
  cases t with
  | lit d h =>
      obtain rfl : d = c := Option.some.inj hc
      refine ⟨fun hd => ?_, fun hd => ?_⟩
      · rw [hd] at h
        cases h
      · rw [hd] at h
        cases h
  | dot | dotStar | dotStarLazy =>
      obtain rfl : '.' = c := Option.some.inj hc
      decide

theorem parse_text_append (t : RegexTerm) {cs : List Char} (h : Fresh cs) :
    parse (t.text ++ cs) = (parse cs).map (t :: ·) := by
  cases t with
  | lit d hd =>
      have hdot : d ≠ '.' := fun h => by rw [h] at hd; cases hd
      show parse (d :: cs) = _
      rw [parse.eq_5 _ _ (fun _ h _ => hdot h) (fun _ h _ => hdot h) hdot, dif_pos hd]
  | dot =>
      cases cs with
      | nil => rfl
      | cons c cs =>
          have hc := (h c rfl).1
          show parse ('.' :: c :: cs) = _
          rw [parse.eq_4 _ (fun _ h => hc (List.cons.inj h).1) fun _ h => hc (List.cons.inj h).1]
  | dotStar =>
      cases cs with
      | nil => rfl
      | cons c cs =>
          have hc := (h c rfl).2
          show parse ('.' :: '*' :: c :: cs) = _
          rw [parse.eq_3 _ fun _ h => hc (List.cons.inj h).1]
  | dotStarLazy => rfl

theorem parse_row_append (ts : List RegexTerm) {cs : List Char} (h : Fresh cs) :
    parse (ts.flatMap RegexTerm.text ++ cs) = (parse cs).map (ts ++ ·) := by
  have hfresh : ∀ ts : List RegexTerm, Fresh (ts.flatMap RegexTerm.text ++ cs) := by
    intro ts
    cases ts with
    | nil => exact h
    | cons t ts =>
        rw [List.flatMap_cons, List.append_assoc]
        exact fresh_text t _
  induction ts with
  | nil => exact Option.map_id'.symm
  | cons t ts ih =>
      rw [List.flatMap_cons, List.append_assoc, parse_text_append t (hfresh ts), ih, Option.map_map]
      rfl

theorem compile_anchored (body : List Char) : compile (anchored body) =
    (parse body).map fun ts s => Row.accepts (ts.map RegexTerm.term) s.toList := by
  unfold compile anchored
  rw [String.toList_ofList]
  show (if (body ++ ['$']).getLast? = some '$' then _ else _) = _
  rw [if_pos List.getLast?_concat, List.dropLast_concat]

theorem text_of_parse {t : List Char} {ts : List RegexTerm} (h : parse t = some ts) :
    ts.flatMap RegexTerm.text = t := by
  induction t using parse.induct generalizing ts with
  | case1 =>
      cases h
      rfl
  | case2 t ih =>
      obtain ⟨us, hus, rfl⟩ := Option.map_eq_some_iff.mp h
      rw [List.flatMap_cons, ih hus]
      rfl
  | case3 t hno ih =>
      rw [parse.eq_3 t hno] at h
      obtain ⟨us, hus, rfl⟩ := Option.map_eq_some_iff.mp h
      rw [List.flatMap_cons, ih hus]
      rfl
  | case4 t hno hno' ih =>
      rw [parse.eq_4 t hno hno'] at h
      obtain ⟨us, hus, rfl⟩ := Option.map_eq_some_iff.mp h
      rw [List.flatMap_cons, ih hus]
      rfl
  | case5 c t hno hno' hdot hc ih =>
      rw [parse.eq_5 c t hno hno' hdot, dif_pos hc] at h
      obtain ⟨us, hus, rfl⟩ := Option.map_eq_some_iff.mp h
      rw [List.flatMap_cons, ih hus]
      rfl
  | case6 c t hno hno' hdot hc =>
      rw [parse.eq_5 c t hno hno' hdot, dif_neg hc] at h
      cases h

/-- The pieces as a tree. -/
def tree : List RegexTerm → RegexTree
  | [] => .empty
  | .lit c h :: ts => .atom (.lit c h) .once (tree ts)
  | .dot :: ts => .atom .dot .once (tree ts)
  | .dotStar :: ts => .atom .dot (.star false) (tree ts)
  | .dotStarLazy :: ts => .atom .dot (.star true) (tree ts)

theorem tree_text (ts : List RegexTerm) : (tree ts).text = ts.flatMap RegexTerm.text := by
  induction ts with
  | nil => rfl
  | cons t ts ih =>
      cases t <;> exact congrArg (_ ++ ·) ih

theorem mem_tree_lang (ts : List RegexTerm) (w : List Char) :
    w ∈ (tree ts).lang ↔ Row.Matches (ts.map RegexTerm.term) w := by
  induction ts generalizing w with
  | nil => exact Iff.rfl
  | cons t ts ih =>
      cases t with
      | lit _ _ | dot =>
          exact RegexAtom.mem_mul.trans (exists_congr fun c => exists_congr fun v =>
            and_congr_right fun _ => and_congr_right fun _ => ih v)
      | dotStar | dotStarLazy =>
          exact RegexAtom.mem_kstar_mul.trans (exists_congr fun u => exists_congr fun v =>
            and_congr_right fun _ => and_congr_right fun _ => ih v)

end RowRegex

/-- The rows, and nothing else. -/
def rowRegex : RegexEngine where
  compile := RowRegex.compile
  dotStar := by
    refine ⟨_, RowRegex.compile_anchored ['.', '*'], fun s => ?_⟩
    show Row.accepts [.many fun c => !isLineTerminator c] s.toList = _
    rw [Bool.eq_iff_iff, Library.Row.accepts_iff, isOneLine, List.all_eq_true]
    constructor
    · rintro ⟨u, v, hs, hu, rfl⟩
      rw [hs, List.append_nil]
      exact hu
    · exact fun h => ⟨s.toList, [], (List.append_nil _).symm, h, rfl⟩

theorem rowRegex_ecma : rowRegex.Ecma where
  row ts := by
    refine ⟨_, ?_, fun s => Library.Row.accepts_iff⟩
    have hparse : RowRegex.parse (ts.flatMap RegexTerm.text ++ []) = some (ts ++ []) :=
      RowRegex.parse_row_append ts fun _ hc => nomatch hc
    rw [List.append_nil, List.append_nil] at hparse
    show RowRegex.compile _ = _
    rw [RowRegex.compile_anchored, hparse]
    rfl
  repeated ts rest := by
    show RowRegex.compile _ = none
    rw [RowRegex.compile_anchored, RowRegex.parse_row_append ts]
    · rfl
    · intro c hc
      obtain rfl : '.' = c := Option.some.inj hc
      decide
  tree body accepts _ hc := by
    obtain ⟨ts, hparse, rfl⟩ : ∃ ts, RowRegex.parse body = some ts ∧
        (fun s : String => Row.accepts (ts.map RegexTerm.term) s.toList) = accepts :=
      Option.map_eq_some_iff.mp ((RowRegex.compile_anchored body).symm.trans hc)
    refine ⟨RowRegex.tree ts, (RowRegex.tree_text ts).trans (RowRegex.text_of_parse hparse),
      fun s => ?_⟩
    rw [Library.Row.accepts_iff, RowRegex.mem_tree_lang]

theorem forall_mem_of_all {Q : Char → Prop} [DecidablePred Q] {l : List Char}
    (h : (l.all fun c => decide (Q c)) = true) : ∀ c ∈ l, Q c :=
  fun c hc => of_decide_eq_true (List.all_eq_true.mp h c hc)

theorem agrees_iff_meant_memCtrl :
    Wildcard.Agrees rowRegex "cpu*" ∧ ¬ Wildcard.Agrees rowRegex "mem.ctrl" := by
  have hclean : Wildcard.Clean "cpu*".toList := ⟨forall_mem_of_all (by decide), by decide⟩
  have hsimple : Simple "mem.ctrl".toList := forall_mem_of_all (by decide)
  refine ⟨(Wildcard.agrees_iff_meant rowRegex_ecma "cpu*").1 (Or.inl hclean), fun h => ?_⟩
  rcases ((Wildcard.agrees_iff_meant rowRegex_ecma "mem.ctrl").2 (Or.inl hsimple)).mp h with
    hclean | ⟨hrej, -⟩ | ⟨hterm, -⟩
  · exact absurd (hclean.plain '.' (by decide) rfl) (by decide)
  · have haccepted : (rowRegex.compile (Wildcard.toRegex "mem.ctrl")).isSome = true := by decide
    rw [show rowRegex.compile (Wildcard.toRegex "mem.ctrl") = none from hrej] at haccepted
    cases haccepted
  · exact absurd hterm (by decide)

/-- The dot of the test's pattern matches the `x` of the test's string. -/
theorem memCtrl_not_glob : Wildcard.isMatch rowRegex "mem.ctrl" "memxctrl" = true ∧
    isOneLine "memxctrl" = true ∧ ¬ Glob "mem.ctrl".toList "memxctrl".toList := by
  refine ⟨by decide, by decide, fun h => ?_⟩
  exact absurd ((Wildcard.glob_of_plain (forall_mem_of_all (by decide)) _).mp h) (by decide)

example : Wildcard.isMatch rowRegex "*?" "" = true := by decide

example : Wildcard.isMatch rowRegex "**" "cpu" = false := by decide

end Gem5Sc
