import Mathlib.Data.List.Forall2

/-!
# Results that may fail

Laws of `Except` for programs that pass a failure on and work on what succeeds.

## Main statements

* `Except.bind_eq_ok`, `Except.bind_eq_error` — when two steps succeed or fail.
* `Except.foldlM_eq_ok` — a list is gone through by steps that succeed.
* `Except.mapM_eq_ok` — a list is gone through when every element succeeds.
* `Except.mapM_eq_error` — else the first element that fails decides.
-/

namespace Except

variable {ε α β γ : Type}

@[simp] theorem ok_map (f : α → β) (a : α) : (Except.ok a : Except ε α).map f = .ok (f a) := rfl

@[simp] theorem error_map (f : α → β) (e : ε) :
    (Except.error e : Except ε α).map f = .error e := rfl

theorem map_map (x : Except ε α) (f : α → β) (g : β → γ) : (x.map f).map g = x.map (g ∘ f) := by
  cases x <;> rfl

theorem map_eq_ok {x : Except ε α} {f : α → β} {b : β} :
    x.map f = .ok b ↔ ∃ a, x = .ok a ∧ f a = b := by
  cases x <;> simp

@[simp] theorem functor_map (x : Except ε α) (f : α → β) : f <$> x = x.map f := rfl

@[simp] theorem pure_eq (a : α) : (pure a : Except ε α) = .ok a := rfl

@[simp] theorem throw_eq (e : ε) : (throw e : Except ε α) = .error e := rfl

@[simp] theorem ok_bind (a : α) (f : α → Except ε β) : (Except.ok a >>= f) = f a := rfl

@[simp] theorem error_bind (e : ε) (f : α → Except ε β) :
    ((Except.error e : Except ε α) >>= f) = .error e := rfl

theorem eq_ok_of_toOption {x : Except ε α} {a : α} (given : x.toOption = some a) : x = .ok a := by
  cases x with
  | ok b => exact congrArg Except.ok (Option.some.inj given)
  | error e => cases given

theorem exists_of_isSome {x : Except ε α} (given : x.toOption.isSome) : ∃ a, x = .ok a := by
  obtain ⟨a, some⟩ := Option.isSome_iff_exists.mp given
  exact ⟨a, eq_ok_of_toOption some⟩

theorem bind_eq_ok {x : Except ε α} {f : α → Except ε β} {b : β} :
    x >>= f = .ok b ↔ ∃ a, x = .ok a ∧ f a = .ok b := by
  cases x <;> simp

theorem bind_eq_error {x : Except ε α} {f : α → Except ε β} {e : ε} :
    x >>= f = .error e ↔ x = .error e ∨ ∃ a, x = .ok a ∧ f a = .error e := by
  cases x <;> simp

theorem foldlM_eq_ok {f : β → α → Except ε β} {g : β → α → β} {as : List α}
    (each : ∀ a ∈ as, ∀ b, f b a = .ok (g b a)) (b : β) : as.foldlM f b = .ok (as.foldl g b) := by
  induction as generalizing b with
  | nil => rfl
  | cons a as ih =>
    rw [List.foldlM_cons, each a List.mem_cons_self, ok_bind,
      ih fun a member => each a (List.mem_cons_of_mem _ member), List.foldl_cons]

theorem mapM_eq_ok {f : α → Except ε β} {as : List α} {bs : List β} :
    as.mapM f = .ok bs ↔ List.Forall₂ (fun a b => f a = .ok b) as bs := by
  induction as generalizing bs with
  | nil => cases bs <;> simp
  | cons a as ih =>
    rw [List.mapM_cons, bind_eq_ok]
    cases bs with
    | nil => simp [bind_eq_ok]
    | cons b bs => simp [bind_eq_ok, ih]

theorem eq_map_of_mapM_eq_ok {f : α → Except ε β} {g : α → β} {as : List α} {bs : List β}
    (each : ∀ a b, f a = .ok b → b = g a) (h : as.mapM f = .ok bs) : bs = as.map g := by
  have pairs := (mapM_eq_ok.1 h).imp each
  clear h
  induction pairs with
  | nil => rfl
  | cons first later ih => rw [first, ih, List.map_cons]

theorem mapM_eq_error {f : α → Except ε β} {as : List α} {e : ε} :
    as.mapM f = .error e ↔ ∃ before a after, as = before ++ a :: after ∧
      (∀ x ∈ before, ∃ b, f x = .ok b) ∧ f a = .error e := by
  constructor
  · intro h
    induction as with
    | nil => simp at h
    | cons a as ih =>
      rw [List.mapM_cons, bind_eq_error] at h
      obtain h | ⟨b, first, h⟩ := h
      · exact ⟨[], a, as, rfl, by simp, h⟩
      · obtain ⟨before, a', after, rfl, earlier, failed⟩ := ih (by simpa [bind_eq_error] using h)
        refine ⟨a :: before, a', after, rfl, ?_, failed⟩
        intro x member
        obtain rfl | member := List.mem_cons.1 member
        · exact ⟨b, first⟩
        · exact earlier x member
  · rintro ⟨before, a, after, rfl, earlier, failed⟩
    induction before with
    | nil => simp [failed]
    | cons x before ih =>
      obtain ⟨b, first⟩ := earlier x (by simp)
      have rest := ih fun y member => earlier y (by simp [member])
      simp only [List.cons_append, List.mapM_cons, first, rest, ok_bind, error_bind]

theorem exists_mapM_eq_ok {f : α → Except ε β} {as : List α} (each : ∀ a ∈ as, ∃ b, f a = .ok b) :
    ∃ bs, as.mapM f = .ok bs := by
  cases all : as.mapM f with
  | ok bs => exact ⟨bs, rfl⟩
  | error e =>
    obtain ⟨before, a, after, rfl, -, failed⟩ := mapM_eq_error.1 all
    obtain ⟨b, succeeded⟩ := each a (by simp)
    rw [succeeded] at failed
    contradiction

theorem exists_of_mem_mapM {f : α → Except ε β} {as : List α} {bs : List β}
    (all : as.mapM f = .ok bs) {b : β} (member : b ∈ bs) : ∃ a ∈ as, f a = .ok b := by
  have pairs := mapM_eq_ok.1 all
  clear all
  induction pairs with
  | nil => cases member
  | cons head _ ih =>
    obtain rfl | member := List.mem_cons.1 member
    · exact ⟨_, List.mem_cons_self, head⟩
    · obtain ⟨a, inside, found⟩ := ih member
      exact ⟨a, List.mem_cons_of_mem _ inside, found⟩

theorem mapM_congr {f f' : α → Except ε β} {as : List α} (each : ∀ a ∈ as, f a = f' a) :
    as.mapM f = as.mapM f' := by
  induction as with
  | nil => rfl
  | cons a as ih =>
    rw [List.mapM_cons, List.mapM_cons, each a List.mem_cons_self,
      ih fun b member => each b (List.mem_cons_of_mem _ member)]

theorem mapM_map (f : α → Except ε β) (g : β → γ) (as : List α) :
    as.mapM (fun a => (f a).map g) = (as.mapM f).map (List.map g) := by
  induction as with
  | nil => rfl
  | cons a as ih =>
    rw [List.mapM_cons, List.mapM_cons, ih]
    cases f a with
    | error e => rfl
    | ok b => cases as.mapM f <;> rfl

variable {ε' : Type} {g : ε → ε'}

/-- Steps that agree up to what is made of a failure do so one after another. -/
theorem bind_mapError_congr {x y : Except ε α} {f f' : α → Except ε β}
    (first : x.mapError g = y.mapError g) (later : ∀ a, (f a).mapError g = (f' a).mapError g) :
    (x >>= f).mapError g = (y >>= f').mapError g := by
  cases x with
  | error e =>
    cases y with
    | error e' => exact congrArg Except.error (Except.error.inj first)
    | ok b => cases first
  | ok a =>
    cases y with
    | error e' => cases first
    | ok b =>
      obtain rfl := Except.ok.inj first
      exact later a

theorem mapM_mapError_congr {f : α → Except ε β} {as bs : List α}
    (each : List.Forall₂ (fun a b => (f a).mapError g = (f b).mapError g) as bs) :
    (as.mapM f).mapError g = (bs.mapM f).mapError g := by
  induction each with
  | nil => rfl
  | cons head _ ih =>
    rw [List.mapM_cons, List.mapM_cons]
    exact bind_mapError_congr head fun b => bind_mapError_congr ih fun bs => rfl

end Except
