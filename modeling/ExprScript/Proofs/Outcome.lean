import Mathlib.Tactic.Common

/-!
# Outcomes of computations

Reading and evaluating are computations that change a state and may stop with an error, which
leaves the state as it is then.  Six properties of such computations are built up along their
sequences.

* `Respects I P x Q`: from a state in `I`, the computation `x` gives a result in `Q` or stops
  with an error in `P`, and leaves a state in `I` in either case.
* `Establishes x s Q I`: from the state `s`, the computation `x` gives a result that is in `Q` for
  the state it leaves, or stops with an error in a state in `I`.
* `Approximates deep x y`: where `x` does not stop with the error `deep`, it does what `y`
  does.
* `Matches S x y`: from states related by `S`, the computations `x` and `y` give the same result or
  stop with the same error, and leave states related by `S`.
* `Relates S E R x y`: as before, with results related by `R` and errors related by `E` in place of
  the same ones.
* `Mirrors deep E x y`: where neither stops with the error `deep`, the computations `x` and `y` give
  the same result or stop with errors related by `E`, and leave the same state.
-/

namespace ExprScript

variable {ε σ α β : Type}

/-! ### Sequences -/

theorem run_bind_of_ok
    {x : EStateM ε σ α} {f : α → EStateM ε σ β} {s mid : σ} {a : α}
    (h : x.run s = .ok a mid) :
  (x >>= f).run s = (f a).run mid
  := by
  change EStateM.bind x f s = f a mid
  unfold EStateM.run at h
  rw [EStateM.bind, h]

theorem run_bind_of_error
    {x : EStateM ε σ α} {f : α → EStateM ε σ β} {s mid : σ} {e : ε}
    (h : x.run s = .error e mid) :
  (x >>= f).run s = .error e mid
  := by
  change EStateM.bind x f s = .error e mid
  unfold EStateM.run at h
  rw [EStateM.bind, h]

/-- A sequence gives a result exactly when its first part does, and its second part does on
what the first leaves. -/
theorem bind_eq_ok_iff
    {x : EStateM ε σ α} {f : α → EStateM ε σ β} {s s' : σ} {b : β} :
  (x >>= f).run s = .ok b s' ↔ ∃ a mid, x.run s = .ok a mid ∧ (f a).run mid = .ok b s'
  := by
  cases hx : x.run s with
  | ok a mid =>
      rw [run_bind_of_ok hx]
      simp
  | error e mid =>
      rw [run_bind_of_error hx]
      simp

/-! ### States, errors and results -/

/-- From a state in `I`, the computation gives a result in `Q` or stops with an error in `P`,
and leaves a state in `I` in either case. -/
def Respects (I : σ → Prop) (P : ε → Prop) (x : EStateM ε σ α) (Q : α → Prop) : Prop :=
  ∀ s, I s → match x.run s with
    | .ok a s' => I s' ∧ Q a
    | .error e s' => I s' ∧ P e

theorem Respects.of_ok
    {I : σ → Prop} {P : ε → Prop} {x : EStateM ε σ α} {Q : α → Prop}
    (hx : Respects I P x Q) {s s' : σ} {a : α} (hs : I s) (h : x.run s = .ok a s') :
  I s' ∧ Q a
  := by
  have hres := hx s hs
  rw [h] at hres
  apply hres

theorem Respects.of_error
    {I : σ → Prop} {P : ε → Prop} {x : EStateM ε σ α} {Q : α → Prop}
    (hx : Respects I P x Q) {s s' : σ} {e : ε} (hs : I s) (h : x.run s = .error e s') :
  I s' ∧ P e
  := by
  have hres := hx s hs
  rw [h] at hres
  apply hres

theorem Respects.pure
    {I : σ → Prop} {P : ε → Prop} {Q : α → Prop} {a : α} (ha : Q a) :
  Respects I P (pure a) Q
  := fun _ hs => ⟨hs, ha⟩

theorem Respects.throw
    {I : σ → Prop} {P : ε → Prop} {Q : α → Prop} {e : ε} (he : P e) :
  Respects I P (throw e) Q
  := fun _ hs => ⟨hs, he⟩

/-- If `x` respects `Q`, and `f a` respects `R` for every `a` in `Q`, then `x` followed by `f`
respects `R`. -/
theorem Respects.bind
    {I : σ → Prop} {P : ε → Prop} {x : EStateM ε σ α} {f : α → EStateM ε σ β} {Q : α → Prop}
    {R : β → Prop} (hx : Respects I P x Q) (hf : ∀ a, Q a → Respects I P (f a) R) :
  Respects I P (x >>= f) R
  := by
  intro s hs
  cases hrun : x.run s with
  | ok a mid =>
      obtain ⟨hmid, ha⟩ := hx.of_ok hs hrun
      rw [run_bind_of_ok hrun]
      apply hf a ha mid hmid
  | error e mid =>
      rw [run_bind_of_error hrun]
      apply hx.of_error hs hrun

/-- From a state in `I` the computation leaves a state in `I`, whether it gives a result or stops
with an error. -/
abbrev Keeps (I : σ → Prop) (x : EStateM ε σ α) : Prop :=
  Respects I (fun _ => True) x (fun _ => True)

/-- If `x` keeps `I`, and every `f a` does, then so does `x` followed by `f`. -/
theorem Keeps.bind
    {I : σ → Prop} {x : EStateM ε σ α} {f : α → EStateM ε σ β} (hx : Keeps I x)
    (hf : ∀ a, Keeps I (f a)) :
  Keeps I (x >>= f)
  := Respects.bind hx (fun a _ => hf a)

/-- The state that a computation leaves, whether it gives a result or stops with an error. -/
def finalState (x : EStateM ε σ α) (s : σ) : σ :=
  match x.run s with
  | .ok _ s' => s'
  | .error _ s' => s'

theorem Keeps.finalState {I : σ → Prop} {x : EStateM ε σ α} (h : Keeps I x) {s : σ} (hs : I s) :
  I (finalState x s)
  := by
  unfold ExprScript.finalState
  split
  · next hrun => apply (h.of_ok hs hrun).1
  · next hrun => apply (h.of_error hs hrun).1

/-! ### Results in the states they come with -/

/-- From the state `s`, the computation gives a result that is in `Q` for the state it leaves, or
stops with an error in a state in `I`. -/
def Establishes (x : EStateM ε σ α) (s : σ) (Q : α → σ → Prop) (I : σ → Prop) : Prop :=
  match x.run s with
  | .ok a s' => Q a s'
  | .error _ s' => I s'

theorem Establishes.of_ok
    {x : EStateM ε σ α} {s s' : σ} {Q : α → σ → Prop} {I : σ → Prop} {a : α}
    (hx : Establishes x s Q I) (h : x.run s = .ok a s') :
  Q a s'
  := by
  rwa [Establishes, h] at hx

theorem Establishes.of_error
    {x : EStateM ε σ α} {s s' : σ} {Q : α → σ → Prop} {I : σ → Prop} {e : ε}
    (hx : Establishes x s Q I) (h : x.run s = .error e s') :
  I s'
  := by
  rwa [Establishes, h] at hx

theorem Establishes.pure {s : σ} {Q : α → σ → Prop} {I : σ → Prop} {a : α} (h : Q a s) :
  Establishes (pure a : EStateM ε σ α) s Q I
  := h

theorem Establishes.throw {s : σ} {Q : α → σ → Prop} {I : σ → Prop} {e : ε} (h : I s) :
  Establishes (throw e : EStateM ε σ α) s Q I
  := h

/-- If `x` establishes `Q`, and `f a` establishes `R` from every state that has `a` in `Q`, then `x`
followed by `f` establishes `R`. -/
theorem Establishes.bind
    {x : EStateM ε σ α} {f : α → EStateM ε σ β} {s : σ} {Q : α → σ → Prop} {R : β → σ → Prop}
    {I : σ → Prop} (hx : Establishes x s Q I) (hf : ∀ a s', Q a s' → Establishes (f a) s' R I) :
  Establishes (x >>= f) s R I
  := by
  cases hrun : x.run s with
  | ok a mid =>
      rw [Establishes, run_bind_of_ok hrun]
      apply hf a mid (hx.of_ok hrun)
  | error e mid =>
      rw [Establishes, run_bind_of_error hrun]
      apply hx.of_error hrun

/-- If the results in `Q` come with states in `I`, then the state left is in `I`. -/
theorem Establishes.finalState
    {x : EStateM ε σ α} {s : σ} {Q : α → σ → Prop} {I : σ → Prop} (hx : Establishes x s Q I)
    (hQ : ∀ {a s'}, Q a s' → I s') :
  I (finalState x s)
  := by
  unfold ExprScript.finalState
  split
  · next hrun => apply hQ (hx.of_ok hrun)
  · next hrun => apply hx.of_error hrun

/-! ### Running out of depth -/

/-- Where `x` does not stop with the error `deep`, it does what `y` does. -/
def Approximates (deep : ε) (x y : EStateM ε σ α) : Prop :=
  ∀ s, x.run s = y.run s ∨ ∃ s', x.run s = .error deep s'

theorem Approximates.refl (deep : ε) (x : EStateM ε σ α) :
  Approximates deep x x
  := fun _ => .inl rfl

theorem Approximates.of_throw (deep : ε) (y : EStateM ε σ α) :
  Approximates deep (throw deep) y
  := fun s => .inr ⟨s, rfl⟩

theorem Approximates.trans
    {deep : ε} {x y z : EStateM ε σ α} (hxy : Approximates deep x y)
    (hyz : Approximates deep y z) :
  Approximates deep x z
  := by
  intro s
  rcases hxy s with h | h
  · rw [h]
    apply hyz
  · exact .inr h

theorem Approximates.bind
    {deep : ε} {x y : EStateM ε σ α} {f g : α → EStateM ε σ β} (hxy : Approximates deep x y)
    (hfg : ∀ a, Approximates deep (f a) (g a)) :
  Approximates deep (x >>= f) (y >>= g)
  := by
  intro s
  rcases hxy s with h | ⟨s', h⟩
  · cases hy : y.run s with
    | ok a mid =>
        rw [run_bind_of_ok hy, run_bind_of_ok (h.trans hy)]
        apply hfg
    | error e mid =>
        left
        rw [run_bind_of_error hy, run_bind_of_error (h.trans hy)]
  · right
    use s'
    apply run_bind_of_error h

theorem Approximates.ite
    {deep : ε} {c : Prop} [Decidable c] {x x' y y' : EStateM ε σ α}
    (hx : Approximates deep x x') (hy : Approximates deep y y') :
  Approximates deep (if c then x else y) (if c then x' else y')
  := by
  split
  · apply hx
  · apply hy

/-! ### Related states -/

/-- The same result or the same error, with related states. -/
inductive SameOutcome (S : σ → σ → Prop) :
    EStateM.Result ε σ α → EStateM.Result ε σ α → Prop
  | ok {a : α} {s t : σ} : S s t → SameOutcome S (.ok a s) (.ok a t)
  | error {e : ε} {s t : σ} : S s t → SameOutcome S (.error e s) (.error e t)

theorem SameOutcome.mono
    {S T : σ → σ → Prop} (h : ∀ {s t}, S s t → T s t) {r r' : EStateM.Result ε σ α}
    (houtcome : SameOutcome S r r') :
  SameOutcome T r r'
  := by
  cases houtcome with
  | ok hst => apply SameOutcome.ok (h hst)
  | error hst => apply SameOutcome.error (h hst)

/-- From related states the computations give the same result or stop with the same error, and
leave related states. -/
def Matches (S : σ → σ → Prop) (x y : EStateM ε σ α) : Prop :=
  ∀ s t, S s t → SameOutcome S (x.run s) (y.run t)

/-- If `x` matches `y`, and `f a` matches `g a` for every `a`, then `x` followed by `f` matches `y`
followed by `g`. -/
theorem Matches.bind
    {S : σ → σ → Prop} {x y : EStateM ε σ α} {f g : α → EStateM ε σ β} (hxy : Matches S x y)
    (hfg : ∀ a, Matches S (f a) (g a)) :
  Matches S (x >>= f) (y >>= g)
  := by
  intro s t hst
  have houtcome := hxy s t hst
  generalize hx : x.run s = outcome at houtcome
  generalize hy : y.run t = outcome' at houtcome
  cases houtcome with
  | ok hst' =>
      rw [run_bind_of_ok hx, run_bind_of_ok hy]
      apply hfg _ _ _ hst'
  | error hst' =>
      rw [run_bind_of_error hx, run_bind_of_error hy]
      apply SameOutcome.error hst'

/-! ### Related results -/

/-- Related results or related errors, with related states. -/
inductive RelatedOutcome (S : σ → σ → Prop) (E : ε → ε → Prop) (R : α → β → Prop) :
    EStateM.Result ε σ α → EStateM.Result ε σ β → Prop
  | ok {a : α} {b : β} {s t : σ} : R a b → S s t → RelatedOutcome S E R (.ok a s) (.ok b t)
  | error {e f : ε} {s t : σ} : E e f → S s t → RelatedOutcome S E R (.error e s) (.error f t)

theorem RelatedOutcome.mono
    {S : σ → σ → Prop} {E F : ε → ε → Prop} {R : α → β → Prop} (h : ∀ {e f}, E e f → F e f)
    {r : EStateM.Result ε σ α} {r' : EStateM.Result ε σ β} (houtcome : RelatedOutcome S E R r r') :
  RelatedOutcome S F R r r'
  := by
  cases houtcome with
  | ok hab hst => apply RelatedOutcome.ok hab hst
  | error hef hst => apply RelatedOutcome.error (h hef) hst

/-- From related states the computations give related results or stop with related errors, and
leave related states. -/
def Relates (S : σ → σ → Prop) (E : ε → ε → Prop) (R : α → β → Prop)
    (x : EStateM ε σ α) (y : EStateM ε σ β) : Prop :=
  ∀ s t, S s t → RelatedOutcome S E R (x.run s) (y.run t)

theorem Relates.pure
    {S : σ → σ → Prop} {E : ε → ε → Prop} {R : α → β → Prop} {a : α} {b : β} (h : R a b) :
  Relates S E R (pure a) (pure b)
  := fun _ _ hst => .ok h hst

theorem Relates.throw
    {S : σ → σ → Prop} {E : ε → ε → Prop} {R : α → β → Prop} {e f : ε} (h : E e f) :
  Relates S E R (throw e) (throw f)
  := fun _ _ hst => .error h hst

/-- If `x` relates to `y` by `R`, and `f a` to `g b` by `R'` for `a` and `b` related by `R`, then
`x` followed by `f` relates to `y` followed by `g` by `R'`. -/
theorem Relates.bind
    {S : σ → σ → Prop} {E : ε → ε → Prop} {α' β' : Type} {R : α → β → Prop}
    {R' : α' → β' → Prop} {x : EStateM ε σ α} {y : EStateM ε σ β} {f : α → EStateM ε σ α'}
    {g : β → EStateM ε σ β'} (hxy : Relates S E R x y)
    (hfg : ∀ a b, R a b → Relates S E R' (f a) (g b)) :
  Relates S E R' (x >>= f) (y >>= g)
  := by
  intro s t hst
  have houtcome := hxy s t hst
  generalize hx : x.run s = outcome at houtcome
  generalize hy : y.run t = outcome' at houtcome
  cases houtcome with
  | ok hab hst' =>
      rw [run_bind_of_ok hx, run_bind_of_ok hy]
      apply hfg _ _ hab _ _ hst'
  | error hef hst' =>
      rw [run_bind_of_error hx, run_bind_of_error hy]
      apply RelatedOutcome.error hef hst'

/-- Where neither stops with the error `deep`, the computations give the same result or stop with
related errors, and leave the same state. -/
def Mirrors (deep : ε) (E : ε → ε → Prop) (x y : EStateM ε σ α) : Prop :=
  ∀ s, RelatedOutcome Eq E Eq (x.run s) (y.run s) ∨
    (∃ s', x.run s = .error deep s') ∨ ∃ s', y.run s = .error deep s'

theorem Mirrors.refl (deep : ε) {E : ε → ε → Prop} (hE : ∀ e, E e e) (x : EStateM ε σ α) :
  Mirrors deep E x x
  := by
  intro s
  left
  cases x.run s with
  | ok a s' => exact .ok rfl rfl
  | error e s' => exact .error (hE e) rfl

theorem Mirrors.of_throw_left (deep : ε) (E : ε → ε → Prop) (y : EStateM ε σ α) :
  Mirrors deep E (throw deep) y
  := fun s => .inr (.inl ⟨s, rfl⟩)

theorem Mirrors.of_throw_right (deep : ε) (E : ε → ε → Prop) (x : EStateM ε σ α) :
  Mirrors deep E x (throw deep)
  := fun s => .inr (.inr ⟨s, rfl⟩)

theorem Mirrors.throw {deep : ε} {E : ε → ε → Prop} {e f : ε} (h : E e f) :
  Mirrors deep E (throw e : EStateM ε σ α) (throw f)
  := fun _ => .inl (.error h rfl)

theorem Mirrors.bind
    {deep : ε} {E : ε → ε → Prop} {x y : EStateM ε σ α} {f g : α → EStateM ε σ β}
    (hxy : Mirrors deep E x y) (hfg : ∀ a, Mirrors deep E (f a) (g a)) :
  Mirrors deep E (x >>= f) (y >>= g)
  := by
  intro s
  rcases hxy s with houtcome | ⟨s', hx⟩ | ⟨s', hy⟩
  · generalize hx : x.run s = outcome at houtcome
    generalize hy : y.run s = outcome' at houtcome
    cases houtcome with
    | ok hab hst =>
        subst hab hst
        rw [run_bind_of_ok hx, run_bind_of_ok hy]
        apply hfg
    | error hef hst =>
        left
        rw [run_bind_of_error hx, run_bind_of_error hy]
        apply RelatedOutcome.error hef hst
  · exact .inr (.inl ⟨s', run_bind_of_error hx⟩)
  · exact .inr (.inr ⟨s', run_bind_of_error hy⟩)

/-- Computations that match are related by relations that hold of every result and every error with
itself. -/
theorem Matches.relates
    {S : σ → σ → Prop} {E : ε → ε → Prop} {R : α → α → Prop} (hE : ∀ e, E e e) (hR : ∀ a, R a a)
    {x y : EStateM ε σ α} (h : Matches S x y) :
  Relates S E R x y
  := by
  intro s t hst
  have houtcome := h s t hst
  generalize x.run s = outcome at houtcome ⊢
  generalize y.run t = outcome' at houtcome ⊢
  cases houtcome with
  | ok hst' => apply RelatedOutcome.ok (hR _) hst'
  | error hst' => apply RelatedOutcome.error (hE _) hst'

/-- If related results are the same and related errors are, then related computations match. -/
theorem Relates.matches
    {S : σ → σ → Prop} {E : ε → ε → Prop} {R : α → α → Prop} (hE : ∀ {e f}, E e f → e = f)
    (hR : ∀ {a b}, R a b → a = b) {x y : EStateM ε σ α} (h : Relates S E R x y) :
  Matches S x y
  := by
  intro s t hst
  have houtcome := h s t hst
  generalize x.run s = outcome at houtcome ⊢
  generalize y.run t = outcome' at houtcome ⊢
  cases houtcome with
  | ok hab hst' =>
      cases hR hab
      apply SameOutcome.ok hst'
  | error hef hst' =>
      cases hE hef
      apply SameOutcome.error hst'

/-- A computation that keeps `I` matches itself on the same state in `I`. -/
theorem Keeps.matches {I : σ → Prop} {x : EStateM ε σ α} (h : Keeps I x) :
  Matches (fun s t => s = t ∧ I s) x x
  := by
  rintro s _ ⟨rfl, hs⟩
  cases hx : x.run s with
  | ok a s' => apply SameOutcome.ok ⟨rfl, (h.of_ok hs hx).1⟩
  | error e s' => apply SameOutcome.error ⟨rfl, (h.of_error hs hx).1⟩

/-- A computation that matches itself on the same state in `I` keeps `I`. -/
theorem Matches.keeps
    {I : σ → Prop} {x : EStateM ε σ α} (h : Matches (fun s t => s = t ∧ I s) x x) :
  Keeps I x
  := by
  intro s hs
  have houtcome := h s s ⟨rfl, hs⟩
  generalize x.run s = outcome at houtcome
  cases houtcome with
  | ok hs' => exact ⟨hs'.2, trivial⟩
  | error hs' => exact ⟨hs'.2, trivial⟩

end ExprScript
