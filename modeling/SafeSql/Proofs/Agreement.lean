import SafeSql.Proofs.Actions

/-!
# Actions in two states

An action that ends alike in two states that are alike, and leaves states that are alike, may be
made in one in place of the other. What its steps do so, the action does. So it is with two actions
that take the same course, step by step, and differ in what is of no account.

## Main definitions

* `Action.Ends` — two actions end with one value, or with failures that stand for each other.
* `Action.Agrees` — an action ends alike in states that are alike.
* `Action.Parallel` — two actions end the same in states that are alike.

## Main statements

* `Action.Agrees.bind`, `Action.Agrees.ensuring`, `Action.Agrees.within` — steps that agree.
* `Action.Parallel.bind`, `Action.Parallel.ensuring`, `Action.Parallel.within` — steps of two
  actions side by side.
-/

namespace SafeSql.Action

variable {σ τ α β : Type} {F : Failure → Failure → Prop}

/-- Two actions end with one value, or with failures between which a relation holds. -/
inductive Ends (F : Failure → Failure → Prop) : Except Failure α → Except Failure α → Prop
  | value (a : α) : Ends F (.ok a) (.ok a)
  | failure {first second : Failure} (related : F first second) :
    Ends F (.error first) (.error second)

namespace Ends

theorem of_eq {first second : Except Failure α} (same : second = first)
    (related : ∀ failure, first = .error failure → F failure failure) : Ends F first second := by
  subst same
  cases second with
  | ok a => exact .value a
  | error failure => exact .failure (related failure rfl)

theorem mono {G : Failure → Failure → Prop} {first second : Except Failure α}
    (ends : Ends F first second) (weaker : ∀ f g, F f g → G f g) : Ends G first second := by
  cases ends with
  | value a => exact .value a
  | failure related => exact .failure (weaker _ _ related)

end Ends

/-- An action ends alike in states that are alike, and leaves states that are alike. -/
def Agrees (R : σ → σ → Prop) (F : Failure → Failure → Prop) (action : Action σ α) : Prop :=
  ∀ ⦃s t⦄, R s t → Ends F (reply action s) (reply action t) ∧ R (after action s) (after action t)

namespace Agrees

variable {R : σ → σ → Prop} {action : Action σ α} {f : α → Action σ β}

theorem pure (a : α) : Agrees R F (Pure.pure a : Action σ α) :=
  fun _ _ alike => ⟨.value a, alike⟩

theorem throw {failure : Failure} (related : F failure failure) :
    Agrees R F (MonadExcept.throw failure : Action σ α) :=
  fun _ _ alike => ⟨.failure related, alike⟩

theorem lift {result : Except Failure α}
    (related : ∀ failure, result = .error failure → F failure failure) :
    Agrees R F (Action.lift result : Action σ α) := by
  intro s t alike
  rw [reply_lift, reply_lift, after_lift, after_lift]
  exact ⟨.of_eq rfl related, alike⟩

theorem bind (first : Agrees R F action) (rest : ∀ a, Agrees R F (f a)) :
    Agrees R F (action >>= f) := by
  intro s t alike
  obtain ⟨ends, left⟩ := first alike
  rw [reply_bind, reply_bind, after_bind, after_bind]
  generalize reply action s = ended at ends
  generalize reply action t = ended' at ends
  cases ends with
  | value a => exact rest a left
  | failure related => exact ⟨.failure related, left⟩

/-- What an action does with the state is what it does with the parts that it reads. -/
theorem get_bind {f : σ → Action σ α}
    (each : ∀ s t, R s t →
      Ends F (reply (f s) s) (reply (f t) t) ∧ R (after (f s) s) (after (f t) t)) :
    Agrees R F (MonadState.get >>= f) :=
  fun s t alike => each s t alike

theorem ensuring {last : Action σ Unit} (first : Agrees R F action) (rest : Agrees R F last) :
    Agrees R F (action.ensuring last) := by
  intro s t alike
  obtain ⟨ends, left⟩ := first alike
  obtain ⟨ends', left'⟩ := rest left
  rw [reply_ensuring, reply_ensuring, after_ensuring, after_ensuring]
  refine ⟨?_, left'⟩
  generalize reply last (after action s) = ended at ends'
  generalize reply last (after action t) = ended' at ends'
  cases ends' with
  | value => exact ends
  | failure related => exact .failure related

theorem within {S : τ → τ → Prop} {G : Failure → Failure → Prop} {view : σ → τ} {put : σ → τ → σ}
    {inner : Action τ α} (agrees : Agrees S G inner) (viewed : ∀ s t, R s t → S (view s) (view t))
    (lifted : ∀ s t a b, R s t → S a b → R (put s a) (put t b)) (weaker : ∀ f g, G f g → F f g) :
    Agrees R F (inner.within view put) := by
  intro s t alike
  obtain ⟨ends, left⟩ := agrees (viewed s t alike)
  rw [reply_within, reply_within, after_within, after_within]
  exact ⟨ends.mono weaker, lifted s t _ _ alike left⟩

end Agrees

/-- Two actions end the same in states that are alike, and leave states that are alike. -/
def Parallel (R : σ → σ → Prop) (first second : Action σ α) : Prop :=
  ∀ ⦃s t⦄, R s t → reply first s = reply second t ∧ R (after first s) (after second t)

namespace Parallel

variable {R : σ → σ → Prop} {first second : Action σ α} {f g : α → Action σ β}

theorem pure (a : α) : Parallel R (Pure.pure a) (Pure.pure a : Action σ α) :=
  fun _ _ alike => ⟨rfl, alike⟩

theorem throw (failure : Failure) :
    Parallel R (MonadExcept.throw failure) (MonadExcept.throw failure : Action σ α) :=
  fun _ _ alike => ⟨rfl, alike⟩

theorem lift (result : Except Failure α) :
    Parallel R (Action.lift result) (Action.lift result : Action σ α) := by
  intro s t alike
  rw [reply_lift, reply_lift, after_lift, after_lift]
  exact ⟨rfl, alike⟩

theorem modify {f g : σ → σ} (each : ∀ s t, R s t → R (f s) (g t)) :
    Parallel R (modify f) (modify g : Action σ PUnit) :=
  fun s t alike => ⟨rfl, each s t alike⟩

theorem bind (begin : Parallel R first second) (rest : ∀ a, Parallel R (f a) (g a)) :
    Parallel R (first >>= f) (second >>= g) := by
  intro s t alike
  obtain ⟨same, left⟩ := begin alike
  rw [reply_bind, reply_bind, after_bind, after_bind, same]
  cases reply second t with
  | ok a => exact rest a left
  | error failure => exact ⟨rfl, left⟩

theorem ite (c : Prop) [Decidable c] {first' second' : Action σ α}
    (yes : Parallel R first second) (no : Parallel R first' second') :
    Parallel R (if c then first else first') (if c then second else second') := by
  split
  · exact yes
  · exact no

theorem get_bind {f g : σ → Action σ α} (each : ∀ s t, R s t → Parallel R (f s) (g t)) :
    Parallel R (get >>= f) (get >>= g) :=
  fun s t alike => each s t alike alike

theorem ensuring {last last' : Action σ Unit} (begin : Parallel R first second)
    (rest : Parallel R last last') :
    Parallel R (first.ensuring last) (second.ensuring last') := by
  intro s t alike
  obtain ⟨same, left⟩ := begin alike
  obtain ⟨same', left'⟩ := rest left
  rw [reply_ensuring, reply_ensuring, after_ensuring, after_ensuring, same, same']
  exact ⟨rfl, left'⟩

theorem within {S : τ → τ → Prop} {view : σ → τ} {put : σ → τ → σ} {inner inner' : Action τ α}
    (parallel : Parallel S inner inner') (viewed : ∀ s t, R s t → S (view s) (view t))
    (lifted : ∀ s t a b, R s t → S a b → R (put s a) (put t b)) :
    Parallel R (inner.within view put) (inner'.within view put) := by
  intro s t alike
  obtain ⟨same, left⟩ := parallel (viewed s t alike)
  rw [reply_within, reply_within, after_within, after_within]
  exact ⟨same, lifted s t _ _ alike left⟩

end Parallel

end SafeSql.Action
