import NestingRules.Proofs.Expression.Regex
import Mathlib.Logic.Function.Basic

/-!
# Expressions and their values

The expressions that tests are written in, as far as rules from relations need them: names,
literals, comparisons, and a few properties and methods of texts, lists of texts and patterns.
`Expr.eval?` is their meaning.  It has a value only where the operands are of the kinds that an
operator is made for, and so never depends on conversions between kinds.
-/

namespace NestingRules

namespace Expression

/-- The operators that compare. -/
inductive Comparison where
  | equal
  | differ
  | greater
  | atMost
  deriving DecidableEq, Repr

/-- The methods that are called with one value. -/
inductive Method where
  /-- Cut a text at each occurrence of a separator. -/
  | split
  /-- A pattern occurs in a text. -/
  | test
  deriving DecidableEq, Repr

/-- An expression without parts. -/
inductive Atom where
  | name (n : String)
  | text (s : String)
  | number (n : Nat)
  | boolean (b : Bool)
  | pattern (r : Regex)
  deriving DecidableEq, Repr

/-- An expression. -/
inductive Expr where
  | atom (a : Atom)
  /-- The number of texts in a list. -/
  | length (e : Expr)
  | call (m : Method) (e argument : Expr)
  /-- The texts of a list for which the body is true, in which `x` is the text. -/
  | filter (e : Expr) (x : String) (body : Expr)
  | compare (op : Comparison) (a b : Expr)
  deriving DecidableEq, Repr

/-- What an expression stands for. -/
inductive Value where
  | text (s : String)
  | number (n : Nat)
  | boolean (b : Bool)
  | texts (ss : List String)
  | pattern (r : Regex)
  deriving DecidableEq, Repr

/-- The value of each name that has one. -/
abbrev Environment := String → Option Value

/-- Two values of the same simple kind are equal; none if they are of no such kind. -/
def Value.equal? : Value → Value → Option Bool
  | text s, text t => some (s == t)
  | number m, number n => some (m == n)
  | boolean a, boolean b => some (a == b)
  | _, _ => none

/-- The result of a comparison. -/
def Comparison.result? : Comparison → Value → Value → Option Bool
  | equal, v, w => v.equal? w
  | differ, v, w => (v.equal? w).map (!·)
  | greater, .number m, .number n => some (n < m)
  | atMost, .number m, .number n => some (m ≤ n)
  | _, _, _ => none

/-- The parts of a text between the occurrences of a separator of one character; a text without any
is its only part. -/
def split? (s separator : String) : Option (List String) :=
  match separator.toList with
  | [c] => some ((s.toList.splitOn c).map String.ofList)
  | _ => none

/-- The result of a method. -/
def Method.result? : Method → Value → Value → Option Value
  | split, .text s, .text separator => (split? s separator).map .texts
  | test, .pattern r, .text s => some (.boolean (r.test s))
  | _, _, _ => none

/-- The texts for which `f` is true; none if `f` has no Boolean value for one of them. -/
def keep? (f : String → Option Value) : List String → Option (List String)
  | [] => some []
  | s :: ss =>
    match f s, keep? f ss with
    | some (.boolean b), some kept => some (if b then s :: kept else kept)
    | _, _ => none

/-- The value of an expression without parts. -/
def Atom.eval? (env : Environment) : Atom → Option Value
  | name n => env n
  | text s => some (.text s)
  | number n => some (.number n)
  | boolean b => some (.boolean b)
  | pattern r => some (.pattern r)

/-- The value of an expression. -/
def Expr.eval? (env : Environment) : Expr → Option Value
  | atom a => a.eval? env
  | length e =>
    match e.eval? env with
    | some (.texts ss) => some (.number ss.length)
    | _ => none
  | call m e argument =>
    match e.eval? env, argument.eval? env with
    | some v, some w => m.result? v w
    | _, _ => none
  | filter e x body =>
    match e.eval? env with
    | some (.texts ss) =>
      (keep? (fun s => body.eval? (Function.update env x (some (.text s)))) ss).map .texts
    | _ => none
  | compare op a b =>
    match a.eval? env, b.eval? env with
    | some v, some w => (op.result? v w).map .boolean
    | _, _ => none

theorem keep?_eq_filter {f : String → Option Value} {p : String → Bool} {ss : List String}
    (h : ∀ s ∈ ss, f s = some (.boolean (p s))) : keep? f ss = some (ss.filter p) := by
  induction ss with
  | nil => rfl
  | cons s ss ih =>
    have hs : f s = some (.boolean (p s)) := h s List.mem_cons_self
    have hss : keep? f ss = some (ss.filter p) := ih fun t ht => h t (List.mem_cons_of_mem s ht)
    simp only [keep?, hs, hss, List.filter_cons]

/-- Texts without the separator are the parts of the text that they are joined to; no texts at all
are joined to the empty text, which is its only part. -/
theorem split?_intercalate {separator : String} {c : Char} {ss : List String}
    (hc : separator.toList = [c]) (h : ∀ s ∈ ss, c ∉ s.toList) :
    split? (separator.intercalate ss) separator = some (if ss = [] then [""] else ss) := by
  unfold split?
  rw [hc]
  dsimp only
  rw [String.toList_intercalate, hc]
  split_ifs with hss
  · subst hss
    rfl
  · have hchars : ∀ cs ∈ ss.map String.toList, c ∉ cs := by
      simpa using h
    rw [List.splitOn_intercalate c hchars (by simpa using hss), List.map_map]
    simp [Function.comp_def]

end Expression

end NestingRules
