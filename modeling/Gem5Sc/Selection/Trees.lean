/-
  File:      Gem5Sc/Selection/Trees.lean
  Subject:   REGULAR EXPRESSIONS AS TREES, and that every operator costs a letter.

  The part of ECMAScript's syntax whose meaning is a regular language: literals, `.`, escapes and
  classes, groups, alternatives and the quantifiers `*`, `+` and `?`, greedy or lazy. It leaves out
  assertions, counts and back references.

  The weight of a text is the number of its characters besides `*` and a `.` right before one. The
  shortest word of an expression has at most as many letters as the text weighs, and fewer where
  the text has an operator (`short_of_operator`).
-/
import Gem5Sc.Selection
import Gem5Sc.Library.Shortest

namespace Gem5Sc

open Library (Short)
open scoped Computability

/-! ## 1. Syntax and meaning -/

/-- The characters ECMAScript gives a meaning. -/
def isSyntax (c : Char) : Bool :=
  c ∈ ['^', '$', '\\', '.', '*', '+', '?', '(', ')', '[', ']', '{', '}', '|']

/-- The special characters besides `.` and `*`. -/
def isOperator (c : Char) : Bool := isSyntax c && c != '.' && c != '*'

/-- What matches one character. An escape is a backslash, a character and, in `\x41` or `\cA`, more
    of them. -/
inductive RegexAtom where
  | lit (c : Char) (h : isSyntax c = false)
  | dot
  | escape (c : Char) (t : List Char) (q : Char → Bool) (h : c ≠ '*' ∧ (c = '.' → t = []))
  | cls (t : List Char) (q : Char → Bool)

inductive Quantifier where
  | once
  | star (isLazy : Bool)
  | plus (isLazy : Bool)
  | opt (isLazy : Bool)

/-- An alternative, term by term; or two of them. -/
inductive RegexTree where
  | empty
  | atom (a : RegexAtom) (k : Quantifier) (rest : RegexTree)
  | group (e : RegexTree) (k : Quantifier) (rest : RegexTree)
  | alt (e f : RegexTree)

namespace RegexAtom

def text : RegexAtom → List Char
  | .lit c _ => [c]
  | .dot => ['.']
  | .escape c t _ _ => '\\' :: c :: t
  | .cls t _ => '[' :: (t ++ [']'])

/-- The characters it matches. -/
def test : RegexAtom → Char → Bool
  | .lit c _ => (· == c)
  | .dot => fun c => !isLineTerminator c
  | .escape _ _ q _ => q
  | .cls _ q => q

def lang (a : RegexAtom) : Language Char := fun w => ∃ c, w = [c] ∧ a.test c = true

theorem mem_mul {a : RegexAtom} {M : Language Char} {w : List Char} :
    w ∈ a.lang * M ↔ ∃ c v, w = c :: v ∧ a.test c = true ∧ v ∈ M := by
  rw [Language.mem_mul]
  constructor
  · rintro ⟨u, ⟨c, rfl, hc⟩, v, hv, rfl⟩
    exact ⟨c, v, rfl, hc, hv⟩
  · rintro ⟨c, v, rfl, hc, hv⟩
    exact ⟨[c], ⟨c, rfl, hc⟩, v, hv, rfl⟩

theorem mem_kstar {a : RegexAtom} {w : List Char} :
    w ∈ a.lang∗ ↔ ∀ c ∈ w, a.test c = true := by
  rw [Language.mem_kstar]
  constructor
  · rintro ⟨l, rfl, hl⟩ c hc
    obtain ⟨u, hu, hcu⟩ := List.mem_flatten.mp hc
    obtain ⟨d, rfl, hd⟩ := hl u hu
    rw [List.mem_singleton.mp hcu]
    exact hd
  · intro h
    refine ⟨w.map fun c => [c], ?_, fun u hu => ?_⟩
    · rw [← List.flatMap_def, List.flatMap_singleton']
    · obtain ⟨c, hc, rfl⟩ := List.mem_map.mp hu
      exact ⟨c, rfl, h c hc⟩

theorem mem_kstar_mul {a : RegexAtom} {M : Language Char} {w : List Char} :
    w ∈ a.lang∗ * M ↔ ∃ u v, w = u ++ v ∧ (∀ c ∈ u, a.test c = true) ∧ v ∈ M := by
  rw [Language.mem_mul]
  constructor
  · rintro ⟨u, hu, v, hv, rfl⟩
    exact ⟨u, v, rfl, mem_kstar.mp hu, hv⟩
  · rintro ⟨u, v, rfl, hu, hv⟩
    exact ⟨u, mem_kstar.mpr hu, v, hv, rfl⟩

end RegexAtom

namespace Quantifier

/-- The mark of a lazy quantifier. -/
def mark (isLazy : Bool) : List Char := if isLazy then ['?'] else []

def text : Quantifier → List Char
  | .once => []
  | .star l => '*' :: mark l
  | .plus l => '+' :: mark l
  | .opt l => '?' :: mark l

/-- A lazy quantifier tries fewer repetitions first and allows the same. -/
def lang (L : Language Char) : Quantifier → Language Char
  | .once => L
  | .star _ => L∗
  | .plus _ => L * L∗
  | .opt _ => L + 1

end Quantifier

namespace RegexTree

def text : RegexTree → List Char
  | .empty => []
  | .atom a k rest => a.text ++ k.text ++ rest.text
  | .group e k rest => '(' :: (e.text ++ [')']) ++ k.text ++ rest.text
  | .alt e f => e.text ++ '|' :: f.text

def lang : RegexTree → Language Char
  | .empty => 1
  | .atom a k rest => k.lang a.lang * rest.lang
  | .group e k rest => k.lang e.lang * rest.lang
  | .alt e f => e.lang + f.lang

end RegexTree

/-! ## 2. Weight -/

def weight : List Char → Nat
  | [] => 0
  | '.' :: '*' :: t => weight t
  | '*' :: t => weight t
  | _ :: t => weight t + 1

/-- What a text with an operator has to spare. -/
def penalty (t : List Char) : Nat := if t.any isOperator then 1 else 0

theorem weight_cons {c : Char} (hc : c ≠ '.') (hc' : c ≠ '*') (t : List Char) :
    weight (c :: t) = weight t + 1 :=
  weight.eq_4 c t (fun _ h _ => hc h) hc'

theorem weight_dot {t : List Char} (ht : t.head? ≠ some '*') :
    weight ('.' :: t) = weight t + 1 := by
  cases t with
  | nil => rfl
  | cons c t =>
      refine weight.eq_4 '.' (c :: t) (fun u _ h => ht ?_) (by decide)
      rw [h]
      rfl

theorem weight_operator {c : Char} (hc : isOperator c = true) (t : List Char) :
    weight (c :: t) = weight t + 1 := by
  simp only [isOperator, Bool.and_eq_true, bne_iff_ne] at hc
  exact weight_cons hc.1.2 hc.2 t

/-- Weights add up where the second text does not begin with a `*`. -/
theorem weight_append (t : List Char) {u : List Char} (hu : u.head? ≠ some '*') :
    weight (t ++ u) = weight t + weight u := by
  induction t using weight.induct with
  | case1 => exact (Nat.zero_add _).symm
  | case2 t ih => exact ih
  | case3 t ih => exact ih
  | case4 c t hpair hstar ih =>
      have hjoin : ∀ v, c = '.' → t ++ u = '*' :: v → False := by
        intro v hc hv
        cases t with
        | nil =>
            rw [List.nil_append] at hv
            exact hu (congrArg List.head? hv)
        | cons d t =>
            obtain ⟨rfl, -⟩ := List.cons.inj hv
            exact hpair t hc rfl
      rw [List.cons_append, weight.eq_4 c (t ++ u) hjoin hstar, weight.eq_4 c t hpair hstar, ih]
      exact Nat.add_right_comm _ _ _

theorem penalty_append (t u : List Char) : penalty (t ++ u) ≤ penalty t + penalty u := by
  unfold penalty
  rw [List.any_append]
  cases t.any isOperator <;> cases u.any isOperator <;> decide

/-! ## 3. Short words -/

variable {P : Char → Prop} {t u : List Char} {L M : Language Char}

/-- A text that weighs at least as much as its shortest word, and more where it has an operator. -/
def Measured (P : Char → Prop) (t : List Char) (L : Language Char) : Prop :=
  ∃ n, Short P n L ∧ n + penalty t ≤ weight t

theorem Measured.append (ht : Measured P t L) (hu : Measured P u M) (hfresh : u.head? ≠ some '*') :
    Measured P (t ++ u) (L * M) := by
  obtain ⟨n, hn, hnt⟩ := ht
  obtain ⟨m, hm, hmu⟩ := hu
  refine ⟨n + m, hn.mul hm, ?_⟩
  have hpenalty := penalty_append t u
  rw [weight_append t hfresh]
  omega

theorem penalty_le_one (t : List Char) : penalty t ≤ 1 := by
  unfold penalty
  split <;> decide

/-- An operator at the end. -/
theorem weight_concat (t : List Char) {c : Char} (hc : isOperator c = true) (u : List Char) :
    weight (t ++ c :: u) = weight t + weight u + 1 := by
  have hstar : (c :: u).head? ≠ some '*' := by
    intro h
    rw [Option.some.inj h] at hc
    cases hc
  rw [weight_append t hstar, weight_operator hc]
  rfl

/-- A text without an operator, or with one at its beginning. -/
def OperatorFirst (t : List Char) : Prop :=
  penalty t = 0 ∨ ∃ c u, t = c :: u ∧ isOperator c = true

theorem Measured.quantified (ht : Measured P t L) (hfirst : OperatorFirst t) (k : Quantifier) :
    Measured P (t ++ k.text) (k.lang L) := by
  obtain ⟨n, hn, hnt⟩ := ht
  cases k with
  | once =>
      rw [Quantifier.text, List.append_nil]
      exact ⟨n, hn, hnt⟩
  | star l =>
      refine ⟨0, Short.kstar, ?_⟩
      rw [Quantifier.text, Nat.zero_add]
      rcases hfirst with hzero | ⟨c, u, rfl, hc⟩
      · cases l with
        | false =>
            have hpenalty := penalty_append t ('*' :: Quantifier.mark false)
            have hmark : penalty ('*' :: Quantifier.mark false) = 0 := by decide
            omega
        | true =>
            have hpenalty := penalty_le_one (t ++ '*' :: Quantifier.mark true)
            have hweight := weight_concat (t ++ ['*']) (c := '?') (by decide) []
            rw [List.append_assoc] at hweight
            have hmark : t ++ '*' :: Quantifier.mark true = t ++ (['*'] ++ ['?']) := rfl
            rw [hmark] at hpenalty ⊢
            omega
      · have hpenalty := penalty_le_one (c :: u ++ '*' :: Quantifier.mark l)
        have hweight := weight_operator hc (u ++ '*' :: Quantifier.mark l)
        rw [List.cons_append] at hpenalty ⊢
        omega
  | plus l =>
      refine ⟨n + 0, hn.mul Short.kstar, ?_⟩
      rw [Quantifier.text, weight_concat t (by decide)]
      have hpenalty := penalty_le_one (t ++ '+' :: Quantifier.mark l)
      omega
  | opt l =>
      refine ⟨0, Short.of_nil_mem (Or.inr Language.nil_mem_one), ?_⟩
      rw [Quantifier.text, weight_concat t (by decide)]
      have hpenalty := penalty_le_one (t ++ '?' :: Quantifier.mark l)
      omega

theorem penalty_cons {c : Char} (hc : isOperator c = true) (t : List Char) :
    penalty (c :: t) = 1 := by
  unfold penalty
  rw [List.any_cons, hc, Bool.true_or, if_pos rfl]

theorem short_atom (a : RegexAtom) : Short P 1 a.lang := by
  refine Short.of_single ?_
  rintro w ⟨c, rfl, -⟩
  rfl

namespace RegexAtom

theorem measured (a : RegexAtom) : Measured P a.text a.lang := by
  refine ⟨1, short_atom a, ?_⟩
  cases a with
  | lit c h =>
      have hdot : c ≠ '.' := fun hc => by rw [hc] at h; cases h
      have hstar : c ≠ '*' := fun hc => by rw [hc] at h; cases h
      have hno : penalty [c] = 0 := by
        simp [penalty, isOperator, h]
      rw [text, hno, weight_cons hdot hstar]
      exact Nat.le_add_left _ _
  | dot => decide
  | escape c t q h =>
      have hone : 1 ≤ weight (c :: t) := by
        by_cases hdot : c = '.'
        · rw [hdot, h.2 hdot]
          decide
        · rw [weight_cons hdot h.1]
          exact Nat.le_add_left _ _
      rw [text, penalty_cons (by decide), weight_operator (by decide)]
      omega
  | cls t q =>
      rw [text, penalty_cons (by decide), weight_operator (by decide), weight_concat t (by decide)]
      omega

theorem operatorFirst (a : RegexAtom) : OperatorFirst a.text := by
  cases a with
  | lit c h => exact Or.inl (by simp [penalty, isOperator, h, text])
  | dot => exact Or.inl rfl
  | escape c t q h => exact Or.inr ⟨_, _, rfl, by decide⟩
  | cls t q => exact Or.inr ⟨_, _, rfl, by decide⟩

theorem fresh (a : RegexAtom) (t : List Char) : (a.text ++ t).head? ≠ some '*' := by
  cases a with
  | lit c h =>
      intro hc
      rw [Option.some.inj hc] at h
      cases h
  | dot | escape c t q h | cls t q => exact fun h => nomatch Option.some.inj h

end RegexAtom

namespace RegexTree

theorem fresh (e : RegexTree) (t : List Char) (ht : t.head? ≠ some '*') :
    (e.text ++ t).head? ≠ some '*' := by
  induction e generalizing t with
  | empty => exact ht
  | atom a k rest _ =>
      rw [text, List.append_assoc, List.append_assoc]
      exact a.fresh _
  | group e k rest _ _ => exact fun h => nomatch Option.some.inj h
  | alt e f ihe _ =>
      rw [text, List.append_assoc]
      exact ihe _ fun h => nomatch Option.some.inj h

theorem measured (e : RegexTree) : Measured P e.text e.lang := by
  induction e with
  | empty => exact ⟨0, Short.of_nil_mem Language.nil_mem_one, Nat.le_refl 0⟩
  | atom a k rest ih =>
      have hfresh := rest.fresh [] (by decide)
      rw [List.append_nil] at hfresh
      exact (a.measured.quantified a.operatorFirst k).append ih hfresh
  | group e k rest ih ihrest =>
      have hfresh := rest.fresh [] (by decide)
      rw [List.append_nil] at hfresh
      have hgroup : Measured P ('(' :: (e.text ++ [')'])) e.lang := by
        obtain ⟨n, hn, hle⟩ := ih
        refine ⟨n, hn, ?_⟩
        rw [penalty_cons (by decide), weight_operator (by decide), weight_concat _ (by decide)]
        omega
      exact (hgroup.quantified (Or.inr ⟨_, _, rfl, by decide⟩) k).append ihrest hfresh
  | alt e f ihe ihf =>
      obtain ⟨n, hn, hle⟩ := ihe
      obtain ⟨m, hm, hlf⟩ := ihf
      refine ⟨n + m, (hn.mono (Nat.le_add_right n m)).add (hm.mono (Nat.le_add_left m n)), ?_⟩
      have hpenalty := penalty_le_one (e.text ++ '|' :: f.text)
      rw [text, weight_concat _ (by decide)]
      omega

/-- **Every operator costs a letter.** -/
theorem short_of_operator (e : RegexTree) {c : Char} (hc : c ∈ e.text)
    (hop : isOperator c = true) : ∃ n, Short P n e.lang ∧ n < weight e.text := by
  obtain ⟨n, hn, hle⟩ := e.measured (P := P)
  have hpenalty : penalty e.text = 1 := by
    unfold penalty
    rw [if_pos (List.any_eq_true.mpr ⟨c, hc, hop⟩)]
  exact ⟨n, hn, by omega⟩

end RegexTree

end Gem5Sc
