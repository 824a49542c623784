import Mathlib.Order.Defs.Unbundled
import SafeSql.Proofs.Results
import SafeSql.World

/-!
# How actions end and what they leave

An action ends with a value or a failure and leaves a state. Both are functions of the state in
which it begins, and both can be read off the steps of the action.

## Main definitions

* `Action.reply`, `Action.after` — how an action ends, and the state that it leaves.
* `Action.Keeps` — an action changes the state in a certain way only, however it ends.

## Main statements

* `Action.reply_bind`, `Action.after_bind` — an action one step after another.
* `Action.Keeps.bind`, `Action.Keeps.ensuring`, `Action.Keeps.within` — what the steps of an action
  keep, the action keeps.
-/

namespace SafeSql.Action

variable {σ τ α β : Type}

/-- How an action ends: with a value or a failure. -/
def reply (action : Action σ α) (s : σ) : Except Failure α :=
  match action s with
  | .ok value _ => .ok value
  | .error failure _ => .error failure

/-- The state that an action leaves, however it ends. -/
def after (action : Action σ α) (s : σ) : σ :=
  match action s with
  | .ok _ state | .error _ state => state

theorem of_eq_ok {action : Action σ α} {s s' : σ} {a : α}
    (run : action s = EStateM.Result.ok a s') : reply action s = .ok a ∧ after action s = s' := by
  rw [reply, after, run]
  exact ⟨rfl, rfl⟩

theorem of_eq_error {action : Action σ α} {s s' : σ} {failure : Failure}
    (run : action s = EStateM.Result.error failure s') :
    reply action s = .error failure ∧ after action s = s' := by
  rw [reply, after, run]
  exact ⟨rfl, rfl⟩

theorem eq_ok_of_reply {action : Action σ α} {s : σ} {a : α} (ended : reply action s = .ok a) :
    action s = EStateM.Result.ok a (after action s) := by
  rw [reply] at ended
  rw [after]
  cases run : action s <;> rw [run] at ended <;> cases ended
  rfl

theorem eq_error_of_reply {action : Action σ α} {s : σ} {failure : Failure}
    (ended : reply action s = .error failure) :
    action s = EStateM.Result.error failure (after action s) := by
  rw [reply] at ended
  rw [after]
  cases run : action s <;> rw [run] at ended <;> cases ended
  rfl

section Laws

variable (action last : Action σ α) (f : α → Action σ β) (s : σ)

@[simp] theorem reply_pure (a : α) : reply (pure a : Action σ α) s = .ok a := rfl

@[simp] theorem after_pure (a : α) : after (pure a : Action σ α) s = s := rfl

@[simp] theorem reply_throw (failure : Failure) :
    reply (throw failure : Action σ α) s = .error failure := rfl

@[simp] theorem after_throw (failure : Failure) : after (throw failure : Action σ α) s = s := rfl

@[simp] theorem reply_get : reply (get : Action σ σ) s = .ok s := rfl

@[simp] theorem after_get : after (get : Action σ σ) s = s := rfl

@[simp] theorem reply_set (s' : σ) : reply (set s' : Action σ PUnit) s = .ok ⟨⟩ := rfl

@[simp] theorem after_set (s' : σ) : after (set s' : Action σ PUnit) s = s' := rfl

@[simp] theorem reply_modify (g : σ → σ) : reply (modify g : Action σ PUnit) s = .ok ⟨⟩ := rfl

@[simp] theorem after_modify (g : σ → σ) : after (modify g : Action σ PUnit) s = g s := rfl

@[simp] theorem reply_bind :
    reply (action >>= f) s =
      match reply action s with
      | .ok a => reply (f a) (after action s)
      | .error failure => .error failure := by
  simp only [reply, after, bind, EStateM.bind]
  cases action s <;> rfl

@[simp] theorem after_bind :
    after (action >>= f) s =
      match reply action s with
      | .ok a => after (f a) (after action s)
      | .error _ => after action s := by
  simp only [reply, after, bind, EStateM.bind]
  cases action s <;> rfl

@[simp] theorem reply_map (g : α → β) : reply (g <$> action) s = (reply action s).map g := by
  simp only [reply, Functor.map, EStateM.map]
  cases action s <;> rfl

@[simp] theorem after_map (g : α → β) : after (g <$> action) s = after action s := by
  simp only [after, Functor.map, EStateM.map]
  cases action s <;> rfl

@[simp] theorem reply_within (view : σ → τ) (put : σ → τ → σ) (inner : Action τ α) :
    reply (inner.within view put) s = reply inner (view s) := by
  simp only [reply, within]
  cases inner (view s) <;> rfl

@[simp] theorem after_within (view : σ → τ) (put : σ → τ → σ) (inner : Action τ α) :
    after (inner.within view put) s = put s (after inner (view s)) := by
  simp only [after, within]
  cases inner (view s) <;> rfl

@[simp] theorem reply_ensuring (last : Action σ Unit) :
    reply (action.ensuring last) s =
      match reply last (after action s) with
      | .ok () => reply action s
      | .error failure => .error failure := by
  simp only [reply, after, ensuring]
  cases action s with
  | ok a s' => dsimp only; cases last s' <;> rfl
  | error failure s' => dsimp only; cases last s' <;> rfl

@[simp] theorem after_ensuring (last : Action σ Unit) :
    after (action.ensuring last) s = after last (after action s) := by
  simp only [after, ensuring]
  cases action s with
  | ok a s' => dsimp only; cases last s' <;> rfl
  | error failure s' => dsimp only; cases last s' <;> rfl

@[simp] theorem reply_outcome : reply action.outcome s = .ok (reply action s) := by
  simp only [reply, outcome]
  cases action s <;> rfl

@[simp] theorem after_outcome : after action.outcome s = after action s := by
  simp only [after, outcome]
  cases action s <;> rfl

@[simp] theorem reply_lift (result : Except Failure α) :
    reply (lift result : Action σ α) s = result := by
  cases result <;> rfl

@[simp] theorem after_lift (result : Except Failure α) :
    after (lift result : Action σ α) s = s := by
  cases result <;> rfl

end Laws

theorem lift_bind_eq_ok {result : Except Failure α} {f : α → Action σ β} {s s' : σ} {b : β} :
    (lift result >>= f) s = EStateM.Result.ok b s' ↔
      ∃ a, result = .ok a ∧ f a s = EStateM.Result.ok b s' := by
  cases result with
  | ok a => exact ⟨fun run => ⟨a, rfl, run⟩, by rintro ⟨_, ⟨⟩, run⟩; exact run⟩
  | error failure => exact ⟨nofun, nofun⟩

@[simp] theorem reply_onWorld (action : Action World α) (s : σ × World) :
    reply action.onWorld s = reply action s.2 :=
  reply_within s _ _ action

@[simp] theorem after_onWorld (action : Action World α) (s : σ × World) :
    after action.onWorld s = (s.1, after action s.2) :=
  after_within s _ _ action

/-- An action keeps a relation when it holds between every state in which the action begins and
the state that the action leaves. -/
def Keeps (R : σ → σ → Prop) (action : Action σ α) : Prop :=
  ∀ s, R s (after action s)

namespace Keeps

variable {R : σ → σ → Prop} {action : Action σ α} {f : α → Action σ β}

theorem outcome (kept : Keeps R action) : Keeps R action.outcome := by
  intro s
  rw [after_outcome]
  exact kept s

/-- What an action does to a part of a state is what it does to the state. -/
theorem within {S : τ → τ → Prop} {view : σ → τ} {put : σ → τ → σ} {inner : Action τ α}
    (kept : Keeps S inner) (lifted : ∀ s t, S (view s) t → R s (put s t)) :
    Keeps R (inner.within view put) := by
  intro s
  rw [after_within]
  exact lifted s _ (kept _)

variable [IsPreorder σ R]

theorem of_after (same : ∀ s, after action s = s) : Keeps R action := by
  intro s
  rw [same s]
  exact refl_of R s

theorem pure (a : α) : Keeps R (Pure.pure a : Action σ α) :=
  of_after fun _ => rfl

theorem throw (failure : Failure) : Keeps R (MonadExcept.throw failure : Action σ α) :=
  of_after fun _ => rfl

theorem get : Keeps R (MonadState.get : Action σ σ) :=
  of_after fun _ => rfl

theorem lift (result : Except Failure α) : Keeps R (Action.lift result : Action σ α) :=
  of_after fun s => after_lift s result

theorem bind (first : Keeps R action) (rest : ∀ a, Keeps R (f a)) : Keeps R (action >>= f) := by
  intro s
  rw [after_bind]
  cases reply action s with
  | ok a => exact trans_of R (first s) (rest a _)
  | error failure => exact first s

theorem ensuring {last : Action σ Unit} (kept : Keeps R action) (lastKept : Keeps R last) :
    Keeps R (action.ensuring last) := by
  intro s
  rw [after_ensuring]
  exact trans_of R (kept s) (lastKept _)

end Keeps

end SafeSql.Action
