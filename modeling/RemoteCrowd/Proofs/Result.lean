/-!
Results and look-ups: when a result that is made in several parts is a success, and what
looking a key up in a complete list finds.
-/

namespace RemoteCrowd

variable {α β ε : Type}

theorem bind_eq_ok_iff {first : Except ε α} {next : α → Except ε β} {value : β} :
    (first >>= next) = .ok value ↔ ∃ a, first = .ok a ∧ next a = .ok value := by
  cases first with
  | error cause => simp [bind, Except.bind]
  | ok given => simp [bind, Except.bind]

theorem pure_eq_ok_iff {given value : α} :
    (pure given : Except ε α) = .ok value ↔ given = value := by
  simp [pure, Except.pure]

/-- Looking a key up in a complete list of things with different keys. -/
theorem find?_key_eq_some_iff {α κ : Type} [BEq κ] [LawfulBEq κ] {all : List α} {key : α → κ}
    (complete : ∀ a, a ∈ all) (different : ∀ a b, key a = key b → a = b) {k : κ} {a : α} :
    (all.find? fun candidate => key candidate == k) = some a ↔ key a = k := by
  constructor
  · intro found
    simpa using List.find?_some found
  · rintro rfl
    cases found : all.find? fun candidate => key candidate == key a with
    | none =>
      have missing := List.find?_eq_none.mp found a (complete a)
      simp at missing
    | some other =>
      have same : key other = key a := by simpa using List.find?_some found
      rw [different other a same]

end RemoteCrowd
