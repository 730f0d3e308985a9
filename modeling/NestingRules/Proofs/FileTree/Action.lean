import NestingRules.Proofs.FileTree.Writing

/-!
# Actions on a file tree

An action works on a file tree and on some state of its own.  `FileTree.Runs` says what it answers
and what becomes of the tree, whatever its own state is; `FileTree.Keeps` says what it answers from
every tree with a property that it keeps.  Actions one after the other are followed by `Runs.bind`
and `Keeps.bind`.
-/

namespace NestingRules

namespace FileTree

variable {σ α β : Type} {x : StateT σ (StateM FileTree) α} {f : α → StateT σ (StateM FileTree) β}
  {t t' t'' : FileTree} {a : α} {b : β} {path : String} {bytes : List UInt8}
  {P : FileTree → Prop} {opened : Opened} {s : σ}

/-- Whatever its own state is, the action answers `a` and takes the tree from `t` to `t'`. -/
def Runs (x : StateT σ (StateM FileTree) α) (t : FileTree) (a : α) (t' : FileTree) : Prop :=
  ∀ s, ∃ s', (x.run s).run t = ((a, s'), t')

theorem Runs.pure (a : α) (t : FileTree) :
    Runs (Pure.pure a : StateT σ (StateM FileTree) α) t a t :=
  fun s => ⟨s, rfl⟩

theorem Runs.bind (h : Runs x t a t') (h' : Runs (f a) t' b t'') : Runs (x >>= f) t b t'' := by
  intro s
  obtain ⟨s', hx⟩ := h s
  obtain ⟨s'', hf⟩ := h' s'
  refine ⟨s'', ?_⟩
  rw [StateT.run_bind, StateT.run_bind, hx]
  exact hf

theorem Runs.forM {γ : Type} {f : γ → StateT σ (StateM FileTree) Unit}
    (h : ∀ c, Runs (f c) t () t) (cs : List γ) : Runs (cs.forM f) t () t := by
  induction cs with
  | nil => exact .pure () t
  | cons c cs ih => exact (h c).bind ih

/-- Whatever its own state is, from a tree with the property `P` the action answers `a` and leaves a
tree with this property. -/
def Keeps (P : FileTree → Prop) (x : StateT σ (StateM FileTree) α) (a : α) : Prop :=
  ∀ s t, P t → ∃ s' t', (x.run s).run t = ((a, s'), t') ∧ P t'

theorem Keeps.pure (a : α) : Keeps P (Pure.pure a : StateT σ (StateM FileTree) α) a :=
  fun s t ht => ⟨s, t, rfl, ht⟩

theorem Keeps.bind (h : Keeps P x a) (h' : Keeps P (f a) b) : Keeps P (x >>= f) b := by
  intro s t ht
  obtain ⟨s', t', hx, ht'⟩ := h s t ht
  obtain ⟨s'', t'', hf, ht''⟩ := h' s' t' ht'
  refine ⟨s'', t'', ?_, ht''⟩
  rw [StateT.run_bind, StateT.run_bind, hx]
  exact hf

theorem Keeps.forM {γ : Type} {f : γ → StateT σ (StateM FileTree) Unit}
    (h : ∀ c, Keeps P (f c) ()) (cs : List γ) : Keeps P (cs.forM f) () := by
  induction cs with
  | nil => exact .pure ()
  | cons c cs ih => exact (h c).bind ih

/-- An action that leaves a tree as it is keeps the property of being this tree. -/
theorem Runs.keeps (h : Runs x t a t) : Keeps (· = t) x a := by
  rintro s u rfl
  obtain ⟨s', hx⟩ := h s
  exact ⟨s', u, hx, rfl⟩

theorem Keeps.runs (h : Keeps (· = t) x a) : Runs x t a t := by
  intro s
  obtain ⟨s', t', hx, rfl⟩ := h s t rfl
  exact ⟨s', hx⟩

/-! ### Operations -/

theorem keeps_read (h : ∀ t, P t → t.read path = opened) :
    Keeps P (access.lift.read path : StateT σ (StateM FileTree) Opened) opened := by
  intro s t ht
  refine ⟨s, t, ?_, ht⟩
  rw [← h t ht]
  rfl

theorem runs_write (h : t.write path bytes = .ok t') :
    Runs (access.lift.write path bytes : StateT σ (StateM FileTree) _) t (.ok ()) t' := by
  intro s
  refine ⟨s, ?_⟩
  change (match (change fun t => t.write path bytes) t with | (a, t) => ((a, s), t)) = _
  simp only [change, h]

theorem runs_write_error {e : FileError} (h : t.write path bytes = .error e) :
    Runs (access.lift.write path bytes : StateT σ (StateM FileTree) _) t (.error e) t := by
  intro s
  refine ⟨s, ?_⟩
  change (match (change fun t => t.write path bytes) t with | (a, t) => ((a, s), t)) = _
  simp only [change, h]

/-! ### Answers -/

/-- What an action answers, from a state of its own and a tree. -/
def answer (x : StateT σ (StateM FileTree) α) (s : σ) (t : FileTree) : α := ((x.run s).run t).1.1

theorem Keeps.answer_eq (h : Keeps P x a) (ht : P t) : answer x s t = a := by
  obtain ⟨s', t', hx, -⟩ := h s t ht
  rw [answer, hx]

theorem answer_bind (x : StateT σ (StateM FileTree) α) (f : α → StateT σ (StateM FileTree) β) (s : σ)
    (t : FileTree) : ∃ s' t', answer (x >>= f) s t = answer (f (answer x s t)) s' t' :=
  ⟨((x.run s).run t).1.2, ((x.run s).run t).2, rfl⟩

/-- If the first of two actions can fail, and a failure is passed on, then the two succeed only if
both do. -/
theorem exists_of_answer_bind_eq_ok {ε ε' γ : Type} {x : StateT σ (StateM FileTree) (Except ε α)}
    {f : Except ε α → StateT σ (StateM FileTree) (Except ε' γ)} {g : ε → ε'} {c : γ}
    (h : answer (x >>= f) s t = .ok c) (hf : ∀ e, f (.error e) = Pure.pure (.error (g e))) :
    ∃ a s' t', answer x s t = .ok a ∧ answer (f (.ok a)) s' t' = .ok c := by
  obtain ⟨s', t', hbind⟩ := answer_bind x f s t
  rw [hbind] at h
  cases hx : answer x s t with
  | error e =>
    rw [hx, hf] at h
    cases h
  | ok a =>
    rw [hx] at h
    exact ⟨a, s', t', rfl, h⟩

end FileTree

end NestingRules
