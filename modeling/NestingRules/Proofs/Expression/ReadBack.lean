import NestingRules.Proofs.Expression.Reader

/-!
# Reading back expressions

`Expr.print` writes an expression as its tokens one after the other.  An expression that is readable
(`Expr.isReadable`) is read back from what is written (`Expr.parse?_print`): tokens are cut where
they were put together, since no word follows another one (`Scans.tokens`), and each mark tells what
it opens or closes (`read_tokens`).  Hence the literals in what is written are the texts of the
expression (`literals?_print`).
-/

namespace NestingRules

namespace Expression

variable {a : Atom} {e : Expr} {c : Char} {cs acc rest : List Char} {ts : List Token}
  {stack : List Frame} {f : Frame} {k : Enclosed}

/-! ### Written expressions -/

/-- The written form of a token. -/
def Token.print : Token → List Char
  | atom a => a.print
  | mark m => m.print

/-- The written form of tokens. -/
def printTokens (ts : List Token) : List Char := ts.flatMap Token.print

/-- The atom is read back from what is written. -/
def Atom.isReadable : Atom → Bool
  | text s => s.toList.all Enclosed.text.admits
  | pattern r =>
    r.print.all Enclosed.pattern.admits && Enclosed.pattern.atom? r.print == some (pattern r)
  | a => a.print.all isWordChar && ofWord? a.print == some a

namespace Expr

/-- The tokens of an expression. -/
def tokens : Expr → List Token
  | atom a => [.atom a]
  | length e => e.tokens ++ [.mark .dot, .atom (.name Access.length.name)]
  | call m e a =>
    e.tokens ++ .mark .dot :: .atom (.name (Access.call m).name) :: .mark .opening ::
      (a.tokens ++ [.mark .closing])
  | filter e x body =>
    e.tokens ++ .mark .dot :: .atom (.name Access.filter.name) :: .mark .opening ::
      .atom (.name x) :: .mark .arrow :: (body.tokens ++ [.mark .closing])
  | compare op a b => a.tokens ++ .mark (.compare op) :: b.tokens

/-- The written form of an expression. -/
def print (e : Expr) : String := String.ofList (printTokens e.tokens)

/-- The operands of the expression are operands, and its atoms are readable. -/
def isReadable : Expr → Bool
  | atom a => a.isReadable
  | length e => e.isReceiver && e.isReadable
  | call _ e a => e.isReceiver && e.isReadable && a.isReadable
  | filter e x body => e.isReceiver && e.isReadable && (Atom.name x).isReadable && body.isReadable
  | compare _ a b => a.isOperand && a.isReadable && b.isOperand && b.isReadable

@[simp]
theorem print_atom (a : Atom) : (atom a).print = String.ofList a.print := by
  simp [print, tokens, printTokens, Token.print]

@[simp]
theorem print_length (e : Expr) : (length e).print = e.print ++ ".length" := by
  apply String.toList_inj.1
  simp [print, tokens, printTokens, Token.print, Mark.print, Atom.print, Access.name]

@[simp]
theorem print_call (m : Method) (e a : Expr) :
    (call m e a).print = e.print ++ ("." ++ m.name ++ "(" ++ a.print ++ ")") := by
  apply String.toList_inj.1
  simp [print, tokens, printTokens, Token.print, Mark.print, Atom.print, Access.name]

@[simp]
theorem print_filter (e : Expr) (x : String) (body : Expr) :
    (filter e x body).print = e.print ++ (".filter(" ++ x ++ " => " ++ body.print ++ ")") := by
  apply String.toList_inj.1
  simp [print, tokens, printTokens, Token.print, Mark.print, Atom.print, Access.name]

@[simp]
theorem print_compare (op : Comparison) (a b : Expr) :
    (compare op a b).print = a.print ++ (" " ++ String.ofList op.print ++ " " ++ b.print) := by
  apply String.toList_inj.1
  simp [print, tokens, printTokens, Token.print, Mark.print]

theorem isOperand_of_isReceiver (h : e.isReceiver = true) : e.isOperand = true := by
  cases e with
  | compare => exact h
  | atom | length | call | filter => rfl

theorem isReadable_compare {a b : Expr} (hoa : a.isOperand = true) (ha : a.isReadable = true)
    (hob : b.isOperand = true) (hb : b.isReadable = true) (op : Comparison) :
    (compare op a b).isReadable = true := by
  simp [isReadable, hoa, ha, hob, hb]

end Expr

/-! ### Cutting tokens -/

variable {p q : Pending}

theorem scan_cons (h : p.next? c = some ([], q)) : scan p (c :: cs) = scan q cs := by
  simp [scan, h]

theorem scan_mark (m : Mark) (cs : List Char) :
    scan .nothing (m.print ++ cs) = (scan .nothing cs).map (.mark m :: ·) := by
  cases m with
  | dot | opening | closing => rfl
  | arrow => exact (scan_cons rfl).trans ((scan_cons rfl).trans ((scan_cons rfl).trans rfl))
  | compare op =>
    cases op with
    | equal | differ | atMost =>
      exact (scan_cons rfl).trans ((scan_cons rfl).trans ((scan_cons rfl).trans rfl))
    | greater => exact (scan_cons rfl).trans ((scan_cons rfl).trans rfl)

/-- A literal is read up to the character that it began with. -/
theorem scan_enclosed (hcs : cs.all k.admits = true) (ha : k.atom? (acc ++ cs) = some a) :
    scan (.enclosed k acc) (cs ++ k.bound :: rest) = (scan .nothing rest).map (.atom a :: ·) := by
  induction cs generalizing acc with
  | nil =>
    rw [List.append_nil] at ha
    simp [scan, Pending.next?, ha]
  | cons c cs ih =>
    rw [List.all_cons, Bool.and_eq_true] at hcs
    have hbound : c ≠ k.bound := by
      rintro rfl
      simp [Enclosed.admits] at hcs
    have hnext : (Pending.enclosed k acc).next? c = some ([], .enclosed k (acc ++ [c])) := by
      simp [Pending.next?, hbound, hcs.1]
    rw [List.cons_append, scan_cons hnext]
    exact ih hcs.2 (by rwa [List.append_assoc])

theorem scan_restOfWord (hcs : cs.all isWordChar = true) (ha : Atom.ofWord? (acc ++ cs) = some a)
    (hrest : ∀ c ∈ rest.head?, isWordChar c = false) :
    scan (.word acc) (cs ++ rest) = (scan .nothing rest).map (.atom a :: ·) := by
  induction cs generalizing acc with
  | nil =>
    rw [List.append_nil] at ha
    cases rest with
    | nil => simp [scan, Pending.finish?, ha]
    | cons c rest =>
      have hc : isWordChar c = false := hrest c rfl
      have hnext : (Pending.word acc).next? c =
          (Pending.begin? c).map fun begun => (.atom a :: begun.1, begun.2) := by
        simp only [Pending.next?, hc, Bool.false_eq_true, ↓reduceIte, Pending.restart?,
          Pending.finish?, ha, Option.map_some]
        cases Pending.begin? c <;> rfl
      rw [List.nil_append, scan, scan, hnext, Pending.next?]
      cases Pending.begin? c with
      | none => rfl
      | some begun => simp [Function.comp_def]
  | cons c cs ih =>
    rw [List.all_cons, Bool.and_eq_true] at hcs
    have hnext : (Pending.word acc).next? c = some ([], .word (acc ++ [c])) := by
      simp [Pending.next?, hcs.1]
    rw [List.cons_append, scan_cons hnext]
    exact ih hcs.2 (by rwa [List.append_assoc])

theorem scan_word (hcs : cs.all isWordChar = true) (ha : Atom.ofWord? cs = some a)
    (hrest : ∀ c ∈ rest.head?, isWordChar c = false) :
    scan .nothing (cs ++ rest) = (scan .nothing rest).map (.atom a :: ·) := by
  cases cs with
  | nil => cases ha
  | cons c cs =>
    rw [List.all_cons, Bool.and_eq_true] at hcs
    have hnext : Pending.next? .nothing c = some ([], .word [c]) := by
      simp [Pending.next?, Pending.begin?, hcs.1]
    rw [List.cons_append, scan_cons hnext]
    exact scan_restOfWord hcs.2 ha hrest

theorem scan_atom (ha : a.isReadable = true) (hrest : ∀ c ∈ rest.head?, isWordChar c = false) :
    scan .nothing (a.print ++ rest) = (scan .nothing rest).map (.atom a :: ·) := by
  cases a with
  | text s =>
    have hs : Enclosed.text.atom? ([] ++ s.toList) = some (.text s) := by
      simp [Enclosed.atom?]
    rw [Atom.print, List.cons_append, List.append_assoc]
    exact (scan_cons rfl).trans (scan_enclosed ha hs)
  | pattern r =>
    simp only [Atom.isReadable, Bool.and_eq_true, beq_iff_eq] at ha
    rw [Atom.print, List.cons_append, List.append_assoc]
    exact (scan_cons rfl).trans (scan_enclosed ha.1 ha.2)
  | name | number | boolean =>
    simp only [Atom.isReadable, Bool.and_eq_true, beq_iff_eq] at ha
    exact scan_word ha.1 ha.2 hrest

/-- The tokens do not begin with an atom, so that a word in front of them ends there. -/
def EndsWord (ts : List Token) : Prop := ∀ t ∈ ts.head?, ∃ m, t = .mark m

theorem endsWord_mark {m : Mark} : EndsWord (.mark m :: ts) := by
  rintro t ⟨⟩
  exact ⟨m, rfl⟩

theorem EndsWord.isWordChar_eq_false (h : EndsWord ts) :
    ∀ c ∈ (printTokens ts).head?, isWordChar c = false := by
  cases ts with
  | nil =>
    intro c hc
    cases hc
  | cons t ts =>
    obtain ⟨m, rfl⟩ := h t rfl
    cases m <;> rintro c ⟨⟩ <;> rfl

/-- Tokens that are cut where they were put together. -/
def Scans (ts : List Token) : Prop := scan .nothing (printTokens ts) = some ts

theorem Scans.mark (h : Scans ts) (m : Mark) : Scans (.mark m :: ts) := by
  have hm : scan .nothing (m.print ++ printTokens ts) = some (.mark m :: ts) := by
    rw [scan_mark, h, Option.map_some]
  exact hm

theorem Scans.atom (h : Scans ts) (hends : EndsWord ts) (ha : a.isReadable = true) :
    Scans (.atom a :: ts) := by
  have hatom : scan .nothing (a.print ++ printTokens ts) = some (.atom a :: ts) := by
    rw [scan_atom ha hends.isWordChar_eq_false, h, Option.map_some]
  exact hatom

theorem Scans.access (h : Scans ts) (hends : EndsWord ts) (access : Access) :
    Scans (.mark .dot :: .atom (.name access.name) :: ts) := by
  have ha : (Atom.name access.name).isReadable = true := by
    cases access with
    | length | filter => decide
    | call m => cases m <;> decide
  exact (h.atom hends ha).mark .dot

/-- **The tokens of an expression are cut where they were put together.** -/
theorem Scans.tokens (h : Scans ts) (hends : EndsWord ts) (he : e.isReadable = true) :
    Scans (e.tokens ++ ts) := by
  induction e generalizing ts with
  | atom a => exact h.atom hends he
  | length e ih =>
    rw [Expr.isReadable, Bool.and_eq_true] at he
    rw [Expr.tokens, List.append_assoc]
    exact ih (h.access hends .length) endsWord_mark he.2
  | call m e a ihe iha =>
    simp only [Expr.isReadable, Bool.and_eq_true] at he
    have harg : Scans (a.tokens ++ .mark .closing :: ts) :=
      iha (h.mark .closing) endsWord_mark he.2
    have hcall := (harg.mark .opening).access endsWord_mark (.call m)
    have he := ihe hcall endsWord_mark he.1.2
    simpa [Expr.tokens] using he
  | filter e x body ihe ihbody =>
    simp only [Expr.isReadable, Bool.and_eq_true] at he
    have hbody : Scans (body.tokens ++ .mark .closing :: ts) :=
      ihbody (h.mark .closing) endsWord_mark he.2
    have hx := (hbody.mark .arrow).atom endsWord_mark he.1.2
    have hfilter := (hx.mark .opening).access endsWord_mark .filter
    have he := ihe hfilter endsWord_mark he.1.1.2
    simpa [Expr.tokens] using he
  | compare op a b iha ihb =>
    simp only [Expr.isReadable, Bool.and_eq_true] at he
    have hb : Scans (b.tokens ++ ts) := ihb h hends he.2
    have ha := iha (hb.mark (.compare op)) endsWord_mark he.1.1.2
    simpa [Expr.tokens] using ha

/-! ### Putting tokens together -/

/-- Nothing has been opened that ends without a mark. -/
def IsSettled (stack : List Frame) : Prop := stack.head?.any Frame.isComparison = false

/-- The tokens begin with the end of what has been opened. -/
def Closes (ts : List Token) : Prop := ∀ t ∈ ts.head?, t = .mark .closing

theorem isSettled_cons (hf : f.isComparison = false) : IsSettled (f :: stack) := hf

theorem closes_closing : Closes (.mark .closing :: ts) := by
  rintro t ⟨⟩
  rfl

theorem Access.ofName?_name (access : Access) : ofName? access.name = some access := by
  cases access with
  | length | filter => rfl
  | call m => cases m <;> rfl

theorem settle_of_isSettled (h : IsSettled stack) (e : Expr) : settle stack e = (stack, e) := by
  cases stack with
  | nil => rfl
  | cons f stack =>
    cases f with
    | compare => cases h
    | call | filter => rfl

theorem read_length (he : e.isReceiver = true) (stack : List Frame) (ts : List Token) :
    read stack (some e) (.mark .dot :: .atom (.name Access.length.name) :: ts) =
      read stack (some (.length e)) ts := by
  conv_lhs => unfold read
  simp only [he, ↓reduceIte, Access.ofName?_name]

theorem read_call (he : e.isReceiver = true) (m : Method) (stack : List Frame) (ts : List Token) :
    read stack (some e)
        (.mark .dot :: .atom (.name (Access.call m).name) :: .mark .opening :: ts) =
      read (.call m e :: stack) none ts := by
  conv_lhs => unfold read
  simp only [he, ↓reduceIte, Access.ofName?_name]

theorem read_filter (he : e.isReceiver = true) (x : String) (stack : List Frame)
    (ts : List Token) :
    read stack (some e)
        (.mark .dot :: .atom (.name Access.filter.name) :: .mark .opening :: .atom (.name x) ::
          .mark .arrow :: ts) =
      read (.filter e x :: stack) none ts := by
  conv_lhs => unfold read
  simp only [he, ↓reduceIte, Access.ofName?_name]

theorem read_closing (hf : f.isComparison = false) (e : Expr) (stack : List Frame)
    (ts : List Token) :
    read (f :: stack) (some e) (.mark .closing :: ts) = read stack (some (f.close e)) ts := by
  simp only [read, settle_of_isSettled (isSettled_cons hf), hf, Bool.false_eq_true, ↓reduceIte]

theorem read_comparison (hstack : IsSettled stack) (op : Comparison) (a : Expr) (ts : List Token) :
    read stack (some a) (.mark (.compare op) :: ts) = read (.compare op a :: stack) none ts := by
  unfold IsSettled at hstack
  simp only [read, hstack, Bool.false_eq_true, ↓reduceIte]

/-- A comparison ends where something is closed. -/
theorem read_settled (hstack : IsSettled stack) (hts : Closes ts) (op : Comparison) (a b : Expr) :
    read (.compare op a :: stack) (some b) ts = read stack (some (.compare op a b)) ts := by
  have hsettle : settle (.compare op a :: stack) b = settle stack (.compare op a b) := by
    rw [settle_of_isSettled hstack, settle]
  cases ts with
  | nil => simp only [read, hsettle]
  | cons t ts =>
    obtain rfl := hts t rfl
    simp only [read, hsettle]

/-- **The tokens of an expression are put together to it**: an operand anywhere, and a comparison
where it is all that stands in its parentheses. -/
theorem read_tokens (he : e.isReadable = true)
    (hplace : e.isOperand = true ∨ IsSettled stack ∧ Closes ts) :
    read stack none (e.tokens ++ ts) = read stack (some e) ts := by
  induction e generalizing stack ts with
  | atom a => rfl
  | length e ih =>
    simp only [Expr.isReadable, Bool.and_eq_true] at he
    have hoperand : e.isOperand = true := Expr.isOperand_of_isReceiver he.1
    rw [← read_length he.1, ← ih he.2 (.inl hoperand)]
    simp [Expr.tokens]
  | call m e a ihe iha =>
    simp only [Expr.isReadable, Bool.and_eq_true] at he
    obtain ⟨⟨hreceiver, he⟩, ha⟩ := he
    have hoperand : e.isOperand = true := Expr.isOperand_of_isReceiver hreceiver
    have harg : read (.call m e :: stack) none (a.tokens ++ .mark .closing :: ts) =
        read stack (some (.call m e a)) ts :=
      (iha ha (.inr ⟨isSettled_cons rfl, closes_closing⟩)).trans (read_closing rfl a stack ts)
    rw [← harg, ← read_call hreceiver, ← ihe he (.inl hoperand)]
    simp [Expr.tokens]
  | filter e x body ihe ihbody =>
    simp only [Expr.isReadable, Bool.and_eq_true] at he
    obtain ⟨⟨⟨hreceiver, he⟩, -⟩, hbody⟩ := he
    have hoperand : e.isOperand = true := Expr.isOperand_of_isReceiver hreceiver
    have hread : read (.filter e x :: stack) none (body.tokens ++ .mark .closing :: ts) =
        read stack (some (.filter e x body)) ts :=
      (ihbody hbody (.inr ⟨isSettled_cons rfl, closes_closing⟩)).trans
        (read_closing rfl body stack ts)
    rw [← hread, ← read_filter hreceiver, ← ihe he (.inl hoperand)]
    simp [Expr.tokens]
  | compare op a b iha ihb =>
    simp only [Expr.isReadable, Bool.and_eq_true] at he
    obtain ⟨⟨⟨hoa, ha⟩, hob⟩, hb⟩ := he
    obtain hoperand | ⟨hstack, hts⟩ := hplace
    · cases hoperand
    rw [← read_settled hstack hts, ← ihb hb (.inl hob), ← read_comparison hstack,
      ← iha ha (.inl hoa)]
    simp [Expr.tokens]

theorem scan_print (h : e.isReadable = true) : scan .nothing e.print.toList = some e.tokens := by
  have hscan : Scans (e.tokens ++ []) := Scans.tokens rfl (by rintro t ⟨⟩) h
  rw [List.append_nil] at hscan
  rw [Expr.print, String.toList_ofList]
  exact hscan

/-- **An expression is read back from what is written.** -/
theorem Expr.parse?_print (h : e.isReadable = true) : parse? e.print = some e := by
  have hread : read [] none (e.tokens ++ []) = some e :=
    read_tokens h (.inr ⟨rfl, by rintro t ⟨⟩⟩)
  rw [List.append_nil] at hread
  rw [parse?, scan_print h]
  exact hread

/-- What would need the precedence of operators is no expression. -/
example : Expr.parse? "a == b == c" = none := by decide

/-! ### Literals -/

/-- The text of a token that is the literal of one. -/
def Token.text? : Token → Option String
  | atom (.text s) => some s
  | _ => none

/-- The texts of literals in what is written, from left to right; none if it is not made of
tokens. -/
def literals? (s : String) : Option (List String) :=
  (scan .nothing s.toList).map fun ts => ts.filterMap Token.text?

/-- The texts in an expression, from left to right. -/
def Expr.texts : Expr → List String
  | atom (.text s) => [s]
  | atom _ => []
  | length e => e.texts
  | call _ e a => e.texts ++ a.texts
  | filter e _ body => e.texts ++ body.texts
  | compare _ a b => a.texts ++ b.texts

theorem Expr.filterMap_text?_tokens (e : Expr) : e.tokens.filterMap Token.text? = e.texts := by
  induction e with
  | atom a => cases a <;> rfl
  | length e ih => simp [tokens, texts, List.filterMap_cons, Token.text?, ih]
  | call m e a ihe iha => simp [tokens, texts, List.filterMap_cons, Token.text?, ihe, iha]
  | filter e x body ihe ihbody =>
    simp [tokens, texts, List.filterMap_cons, Token.text?, ihe, ihbody]
  | compare op a b iha ihb => simp [tokens, texts, List.filterMap_cons, Token.text?, iha, ihb]

theorem literals?_print (h : e.isReadable = true) : literals? e.print = some e.texts := by
  rw [literals?, scan_print h, Option.map_some, e.filterMap_text?_tokens]

end Expression

end NestingRules
