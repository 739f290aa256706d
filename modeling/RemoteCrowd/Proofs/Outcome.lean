/-!
What computations end with. A computation fails only with errors of a kind if every error
that it ends with is of this kind, and likewise for the values that it gives. Computations
put one after another end as their parts do, so both are shown for the primitive steps, and
for everything else by composition.
-/

namespace RemoteCrowd

variable {ε σ α β : Type} {Cause Other : ε → Prop} {Value : β → Prop}

/-- Every error of the result is of the given kind. -/
def FailsOnly (Cause : ε → Prop) (result : Except ε α) : Prop :=
  ∀ cause, result = .error cause → Cause cause

/-- Every error that the action ends with, in whatever state it starts, is of the given
kind. -/
def ThrowsOnly (Cause : ε → Prop) (action : EStateM ε σ α) : Prop :=
  ∀ before cause after, action.run before = .error cause after → Cause cause

/-- Every value that the action gives, in whatever state it starts, is of the given kind. -/
def GivesOnly (Value : α → Prop) (action : EStateM ε σ α) : Prop :=
  ∀ before value after, action.run before = .ok value after → Value value

/-- The state behind a computation, be it that it gave a value or that it failed. -/
def stateBehind : EStateM.Result ε σ α → σ
  | .ok _ after => after
  | .error _ after => after

/-- The action leaves the state alone, whether it gives a value or fails. -/
def Keeps (action : EStateM ε σ α) : Prop := ∀ before, stateBehind (action.run before) = before

namespace FailsOnly

theorem ok (value : α) : FailsOnly Cause (.ok value : Except ε α) := by
  intro cause failed
  cases failed

theorem error {cause : ε} (kind : Cause cause) :
    FailsOnly Cause (.error cause : Except ε α) := by
  intro thrown failed
  obtain rfl := Except.error.inj failed
  exact kind

theorem bind {first : Except ε α} {next : α → Except ε β}
    (fails : FailsOnly Cause first) (later : ∀ a, FailsOnly Cause (next a)) :
    FailsOnly Cause (first >>= next) := by
  intro cause failed
  cases first with
  | error thrown =>
    obtain rfl := Except.error.inj failed
    exact fails thrown rfl
  | ok value => exact later value cause failed

theorem mono {result : Except ε α} (fails : FailsOnly Cause result)
    (weaker : ∀ cause, Cause cause → Other cause) : FailsOnly Other result :=
  fun cause failed => weaker cause (fails cause failed)

end FailsOnly

namespace ThrowsOnly

theorem mono {action : EStateM ε σ α} (throws : ThrowsOnly Cause action)
    (weaker : ∀ cause, Cause cause → Other cause) : ThrowsOnly Other action := by
  intro before cause after failed
  exact weaker cause (throws before cause after failed)

theorem pure (value : α) : ThrowsOnly Cause (pure value : EStateM ε σ α) := by
  intro before cause after failed
  cases failed

theorem throw {cause : ε} (kind : Cause cause) :
    ThrowsOnly Cause (throw cause : EStateM ε σ α) := by
  intro before thrown after failed
  obtain ⟨rfl, -⟩ := EStateM.Result.error.inj failed
  exact kind

theorem bind {first : EStateM ε σ α} {next : α → EStateM ε σ β}
    (throws : ThrowsOnly Cause first) (later : ∀ a, ThrowsOnly Cause (next a)) :
    ThrowsOnly Cause (first >>= next) := by
  intro before cause after failed
  rw [EStateM.run_bind] at failed
  split at failed
  · next value mid _ => exact later value mid cause after failed
  · next thrown mid first =>
    obtain ⟨rfl, rfl⟩ := EStateM.Result.error.inj failed
    exact throws before _ _ first

end ThrowsOnly

namespace GivesOnly

theorem pure {value : β} (kind : Value value) :
    GivesOnly Value (pure value : EStateM ε σ β) := by
  intro before given after done
  obtain ⟨rfl, -⟩ := EStateM.Result.ok.inj done
  exact kind

/-- The last of several steps gives the value, from what the steps before it gave. -/
theorem after {first : EStateM ε σ α} {next : α → EStateM ε σ β} {Given : α → Prop}
    (given : GivesOnly Given first) (gives : ∀ a, Given a → GivesOnly Value (next a)) :
    GivesOnly Value (first >>= next) := by
  intro before value last done
  rw [EStateM.run_bind] at done
  split at done
  · next a mid begun => exact gives a (given before a mid begun) mid value last done
  · cases done

theorem bind {first : EStateM ε σ α} {next : α → EStateM ε σ β}
    (gives : ∀ a, GivesOnly Value (next a)) : GivesOnly Value (first >>= next) :=
  have given : GivesOnly (fun _ => True) first := fun _ _ _ _ => trivial
  given.after fun a _ => gives a

end GivesOnly

namespace Keeps

theorem pure (value : α) : Keeps (pure value : EStateM ε σ α) := fun _ => rfl

theorem throw (cause : ε) : Keeps (throw cause : EStateM ε σ α) := fun _ => rfl

theorem bind {first : EStateM ε σ α} {next : α → EStateM ε σ β} (keeps : Keeps first)
    (later : ∀ a, Keeps (next a)) : Keeps (first >>= next) := by
  intro before
  have kept := keeps before
  rw [EStateM.run_bind]
  cases ran : first.run before with
  | error cause mid =>
    rw [ran] at kept
    exact kept
  | ok value mid =>
    rw [ran] at kept
    obtain rfl : mid = before := kept
    exact later value mid

end Keeps

/-- What comes last and leaves the state alone is no matter to the state. -/
theorem stateBehind_bind {first : EStateM ε σ α} {next : α → EStateM ε σ β}
    (keeps : ∀ a, Keeps (next a)) (before : σ) :
    stateBehind ((first >>= next).run before) = stateBehind (first.run before) := by
  rw [EStateM.run_bind]
  cases first.run before with
  | error cause mid => rfl
  | ok value mid => exact keeps value mid

end RemoteCrowd
