import Mathlib.Data.List.Forall2

/-!
# Computations that may refuse

When a chain of checks succeeds: each check of the chain does, in order. When it fails: some check does, and
all checks before that one succeed. The same holds of one check for each item of a list.
-/

namespace SeriesQuery.Outcome

variable {ε α β : Type}

theorem ok_bind {a : α} {k : α → Except ε β} : (Except.ok a >>= k) = k a := rfl

/-- A sequence succeeds if each of its steps does. -/
theorem bind_eq_ok_iff {x : Except ε α} {k : α → Except ε β} {b : β} :
    (x >>= k) = .ok b ↔ ∃ a, x = .ok a ∧ k a = .ok b := by
  cases x with
  | error e => exact ⟨nofun, nofun⟩
  | ok a => exact ⟨fun h => ⟨a, rfl, h⟩, fun ⟨_, ha, h⟩ => Except.ok.inj ha ▸ h⟩

/-- A sequence fails with the error of its first step that fails. -/
theorem bind_eq_error_iff {x : Except ε α} {k : α → Except ε β} {e : ε} :
    (x >>= k) = .error e ↔ x = .error e ∨ ∃ a, x = .ok a ∧ k a = .error e := by
  cases x with
  | error e' =>
      show Except.error e' = .error e ↔ _
      rw [Except.error.injEq, Except.error.injEq]
      exact ⟨.inl, fun h => h.resolve_right nofun⟩
  | ok a =>
      show k a = .error e ↔ _
      simp only [reduceCtorEq, false_or, Except.ok.injEq, exists_eq_left']

theorem pure_eq_ok_iff {a b : α} : (pure a : Except ε α) = .ok b ↔ a = b := by
  show Except.ok a = .ok b ↔ a = b
  rw [Except.ok.injEq]

/-- To rename errors leaves successes alone. -/
theorem mapError_eq_ok_iff {ε' : Type} {x : Except ε α} {f : ε → ε'} {a : α} :
    x.mapError f = .ok a ↔ x = .ok a := by
  cases x with
  | error e => exact ⟨nofun, nofun⟩
  | ok b =>
      show Except.ok b = .ok a ↔ _
      rw [Except.ok.injEq, Except.ok.injEq]

theorem toOption_eq_some_iff {x : Except ε α} {a : α} : x.toOption = some a ↔ x = .ok a := by
  cases x with
  | error e => exact ⟨nofun, nofun⟩
  | ok b =>
      show some b = some a ↔ _
      rw [Option.some.injEq, Except.ok.injEq]

/-- A check in front of the rest of a computation. -/
theorem unless_eq_ok_iff {p : Prop} [Decidable p] {e : ε} {k : Unit → Except ε β} {b : β} :
    (if p then (throw e >>= k) else k ()) = .ok b ↔ ¬ p ∧ k () = .ok b := by
  split
  · next hp => exact ⟨nofun, fun h => absurd hp h.1⟩
  · next hp => exact ⟨fun h => ⟨hp, h⟩, And.right⟩

/-- A check at the end of a computation. -/
theorem when_eq_ok_iff {p : Prop} [Decidable p] {e : ε} {a b : α} :
    (if p then pure a else throw e : Except ε α) = .ok b ↔ p ∧ a = b := by
  split
  · next hp => rw [pure_eq_ok_iff, and_iff_right hp]
  · next hp => exact ⟨nofun, fun h => absurd h.1 hp⟩

/-- A list of values that may each be missing, where `p` tells which are there and `g` what they are. -/
theorem mapM_eq_some_iff {f : α → Option β} {g : α → β} {p : α → Prop}
    (hf : ∀ a b, f a = some b ↔ p a ∧ g a = b) {as : List α} {bs : List β} :
    as.mapM f = some bs ↔ (∀ a ∈ as, p a) ∧ as.map g = bs := by
  induction as generalizing bs with
  | nil =>
      rw [List.mapM_nil]
      exact ⟨fun h => ⟨fun _ h' => absurd h' List.not_mem_nil, Option.some.inj h⟩, fun h => h.2 ▸ rfl⟩
  | cons a as ih =>
      simp only [List.mapM_cons, Option.bind_eq_bind, Option.bind_eq_some_iff, Option.pure_def,
        Option.some.injEq, hf, ih, List.forall_mem_cons, List.map_cons]
      constructor
      · rintro ⟨_, ⟨ha, rfl⟩, _, ⟨has, rfl⟩, rfl⟩
        exact ⟨⟨ha, has⟩, rfl⟩
      · rintro ⟨⟨ha, has⟩, rfl⟩
        exact ⟨_, ⟨ha, rfl⟩, _, ⟨has, rfl⟩, rfl⟩

/-- A pass over a list gives the list of what it gives for each element. -/
theorem mapM_eq_ok_iff {f : α → Except ε β} {as : List α} {bs : List β} :
    as.mapM f = .ok bs ↔ List.Forall₂ (fun a b => f a = .ok b) as bs := by
  induction as generalizing bs with
  | nil => rw [List.mapM_nil, pure_eq_ok_iff, List.forall₂_nil_left_iff, eq_comm]
  | cons a as ih =>
      simp only [List.mapM_cons, bind_eq_ok_iff, pure_eq_ok_iff, ih, List.forall₂_cons_left_iff]
      constructor
      · rintro ⟨b, hb, bs, hbs, rfl⟩
        exact ⟨b, bs, hb, hbs, rfl⟩
      · rintro ⟨b, bs, hb, hbs, rfl⟩
        exact ⟨b, hb, bs, hbs, rfl⟩

/-- A pass over a list succeeds if it does for each element. -/
theorem exists_mapM_eq_ok_iff {f : α → Except ε β} {as : List α} :
    (∃ bs, as.mapM f = .ok bs) ↔ ∀ a ∈ as, ∃ b, f a = .ok b := by
  induction as with
  | nil => exact iff_of_true ⟨[], rfl⟩ fun _ h => absurd h List.not_mem_nil
  | cons a as ih =>
      simp only [List.mapM_cons, bind_eq_ok_iff, pure_eq_ok_iff, List.forall_mem_cons, ← ih]
      constructor
      · rintro ⟨_, b, hb, bs, hbs, -⟩
        exact ⟨⟨b, hb⟩, bs, hbs⟩
      · rintro ⟨⟨b, hb⟩, bs, hbs⟩
        exact ⟨_, b, hb, bs, hbs, rfl⟩

/-- The first failure of a list is the failure of all: what stands before it succeeds, and what stands
behind it does not matter. -/
theorem mapM_eq_error_iff {f : α → Except ε β} {as : List α} {e : ε} :
    as.mapM f = .error e ↔ ∃ before a behind, as = before ++ a :: behind ∧
      (∀ b ∈ before, ∃ y, f b = .ok y) ∧ f a = .error e := by
  induction as with
  | nil =>
      rw [List.mapM_nil]
      refine ⟨nofun, ?_⟩
      rintro ⟨before, a, behind, h, -⟩
      exact absurd h (List.append_ne_nil_of_right_ne_nil before (List.cons_ne_nil a behind)).symm
  | cons a as ih =>
      have hpure : ∀ b, (as.mapM f >>= fun bs => pure (b :: bs)) = .error e ↔ as.mapM f = .error e := by
        intro b
        rw [bind_eq_error_iff, or_iff_left]
        rintro ⟨_, -, h⟩
        exact nomatch h
      simp only [List.mapM_cons, bind_eq_error_iff (x := f a), hpure, ih]
      constructor
      · rintro (ha | ⟨y, hy, before, b, behind, rfl, hbefore, hb⟩)
        · exact ⟨[], a, as, rfl, fun _ h => absurd h List.not_mem_nil, ha⟩
        · exact ⟨a :: before, b, behind, rfl, List.forall_mem_cons.2 ⟨⟨y, hy⟩, hbefore⟩, hb⟩
      · rintro ⟨before, b, behind, h, hbefore, hb⟩
        cases before with
        | nil =>
            obtain ⟨rfl, -⟩ := List.cons.inj h
            exact .inl hb
        | cons c before =>
            obtain ⟨rfl, rfl⟩ := List.cons.inj h
            obtain ⟨⟨y, hy⟩, hbefore⟩ := List.forall_mem_cons.1 hbefore
            exact .inr ⟨y, hy, before, b, behind, rfl, hbefore, hb⟩

end SeriesQuery.Outcome
