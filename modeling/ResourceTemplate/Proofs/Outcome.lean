/-
# Steps that may fail

A sequence of steps succeeds if each step does, and fails as the first step
that fails. Where the way in which the later steps fail does not depend on
what the first one gave, the failures can be told without the results.

Two sequences that are alike step by step are alike as a whole: both succeed,
with results that belong together, or both fail, be it in different ways.

Key definitions: `Outcome.failure?`, `Outcome.Alike`.
Key theorems: `Outcome.bind_eq_ok`, `Outcome.failure?_bind`,
`Outcome.failure?_mapM`, `Outcome.Alike.bind`.
-/

namespace ResourceTemplate
namespace Outcome

variable {ε α β γ δ : Type}

theorem bind_eq_ok {x : Except ε α} {f : α → Except ε β} {b : β} :
    (x >>= f) = .ok b ↔ ∃ a, x = .ok a ∧ f a = .ok b := by
  cases x with
  | error e => simp [bind, Except.bind]
  | ok a => simp [bind, Except.bind]

theorem return_eq_ok {a b : α} : (return a : Except ε α) = .ok b ↔ a = b := by
  simp [pure, Except.pure]

/-- A result can be computed by its decidable equality. -/
theorem eq_ok_of_toOption {x : Except ε α} {a : α} (h : x.toOption = some a) : x = .ok a := by
  cases x with
  | error e => exact absurd h (by simp [Except.toOption])
  | ok b => rw [Option.some.inj h]

/-- How a step fails, if it does. -/
def failure? : Except ε α → Option ε
  | .ok _ => none
  | .error e => some e

theorem failure?_eq_some_iff {x : Except ε α} {e : ε} : failure? x = some e ↔ x = .error e := by
  cases x <;> simp [failure?]

theorem failure?_eq_none_iff {x : Except ε α} : failure? x = none ↔ ∃ a, x = .ok a := by
  cases x <;> simp [failure?]

theorem failure?_return (a : α) : failure? (return a : Except ε α) = none := rfl

/-- A step and the rest fail as the step does, else as the rest does. -/
theorem failure?_bind {x : Except ε α} {f : α → Except ε β} {o : Option ε}
    (h : ∀ a, failure? (f a) = o) : failure? (x >>= f) = (failure? x).or o := by
  cases x with
  | error e => rfl
  | ok a => exact h a

/-- What is made of a result in the end does not fail. -/
theorem failure?_bind_return {x : Except ε α} (f : α → β) :
    failure? (do let a ← x; return f a) = failure? x := by
  rw [failure?_bind (fun a => failure?_return (f a)), Option.or_none]

/-! ### A step for each of several things -/

variable {f : α → Except ε β}

/-- Each result came of one of the things. -/
theorem exists_of_mem_mapM {b : β} : ∀ {as : List α} {bs : List β}, as.mapM f = .ok bs → b ∈ bs →
    ∃ a ∈ as, f a = .ok b
  | [], bs, h, hb => by
    obtain rfl : [] = bs := return_eq_ok.1 h
    exact absurd hb List.not_mem_nil
  | a :: as, bs, h, hb => by
    rw [List.mapM_cons] at h
    obtain ⟨b', hb', h⟩ := bind_eq_ok.1 h
    obtain ⟨rest, hrest, h⟩ := bind_eq_ok.1 h
    obtain rfl := return_eq_ok.1 h
    rcases List.mem_cons.1 hb with rfl | hb
    · exact ⟨a, List.mem_cons_self, hb'⟩
    · obtain ⟨a', ha', hfa'⟩ := exists_of_mem_mapM hrest hb
      exact ⟨a', List.mem_cons_of_mem _ ha', hfa'⟩

/-- The first thing that fails decides. -/
theorem failure?_mapM (f : α → Except ε β) : ∀ as : List α,
    failure? (as.mapM f) = as.findSome? fun a => failure? (f a)
  | [] => rfl
  | a :: as => by
    have hrest : ∀ b, failure? (do let bs ← as.mapM f; return b :: bs) =
        as.findSome? fun a => failure? (f a) := by
      intro b
      rw [failure?_bind_return, failure?_mapM f as]
    rw [List.mapM_cons, failure?_bind hrest, List.findSome?_cons]
    cases failure? (f a) with
    | none => rfl
    | some e => rfl

/-! ### Steps that are alike -/

/-- Whether two steps both succeed, with related results, or both fail. -/
inductive Alike (R : α → β → Prop) : Except ε α → Except ε β → Prop
  | ok {a : α} {b : β} (h : R a b) : Alike R (.ok a) (.ok b)
  | error (e e' : ε) : Alike R (.error e) (.error e')

variable {R R' : α → β → Prop} {x : Except ε α} {y : Except ε β}

theorem Alike.bind {S : γ → δ → Prop} {f : α → Except ε γ} {g : β → Except ε δ} (h : Alike R x y)
    (hfg : ∀ a b, x = .ok a → y = .ok b → R a b → Alike S (f a) (g b)) : Alike S (x >>= f) (y >>= g) := by
  cases h with
  | ok h => exact hfg _ _ rfl rfl h
  | error e e' => exact .error e e'

theorem Alike.mono (hR : ∀ a b, R a b → R' a b) (h : Alike R x y) : Alike R' x y := by
  cases h with
  | ok h => exact .ok (hR _ _ h)
  | error e e' => exact .error e e'

theorem alike_self {R : α → α → Prop} (hR : ∀ a, R a a) (x : Except ε α) : Alike R x x := by
  cases x with
  | ok a => exact .ok (hR a)
  | error e => exact .error e e

theorem Alike.eq_ok_iff (h : Alike R x y) : (∃ a, x = .ok a) ↔ ∃ b, y = .ok b := by
  cases h with
  | ok h => exact ⟨fun _ => ⟨_, rfl⟩, fun _ => ⟨_, rfl⟩⟩
  | error e e' => simp

theorem Alike.related {a : α} {b : β} (h : Alike R x y) (hx : x = .ok a) (hy : y = .ok b) : R a b := by
  cases h with
  | ok h =>
    obtain rfl := Except.ok.inj hx
    obtain rfl := Except.ok.inj hy
    exact h
  | error e e' => exact absurd hx (by simp)

end Outcome
end ResourceTemplate
