/-!
# Computations that succeed

When a computation made of two succeeds, and with what, and what can be told from an answer that was
mapped.
-/

namespace LineagePorts

theorem Except.bind_eq_ok_iff {ε α β : Type} {x : Except ε α} {f : α → Except ε β} {b : β} :
    (x >>= f) = .ok b ↔ ∃ a, x = .ok a ∧ f a = .ok b := by
  cases x with
  | error e => exact ⟨fun h => (nomatch h), fun ⟨_, h, _⟩ => (nomatch h)⟩
  | ok a => exact ⟨fun h => ⟨a, rfl, h⟩, fun ⟨_, same, h⟩ => Except.ok.inj same ▸ h⟩

theorem Except.map_eq_ok_iff {ε α β : Type} {x : Except ε α} {f : α → β} {b : β} :
    x.map f = .ok b ↔ ∃ a, x = .ok a ∧ f a = b := by
  cases x with
  | error e => exact ⟨fun h => (nomatch h), fun ⟨_, h, _⟩ => (nomatch h)⟩
  | ok a =>
    refine ⟨fun h => ⟨a, rfl, Except.ok.inj h⟩, ?_⟩
    rintro ⟨a', same, rfl⟩
    rw [Except.ok.inj same, Except.map]

theorem Except.map_inj {ε α β : Type} {f : α → β} (injective : ∀ a b, f a = f b → a = b)
    {x y : Except ε α} (same : x.map f = y.map f) : x = y := by
  cases x with
  | error e =>
    cases y with
    | error e' => exact congrArg _ (Except.error.inj same)
    | ok b => cases same
  | ok a =>
    cases y with
    | error e => cases same
    | ok b => exact congrArg _ (injective a b (Except.ok.inj same))

theorem Except.isOk_iff {ε α : Type} {x : Except ε α} :
    Except.isOk x = true ↔ ∃ a, x = .ok a := by
  cases x with
  | error e => exact ⟨fun h => (nomatch h), fun ⟨_, h⟩ => (nomatch h)⟩
  | ok a => exact ⟨fun _ => ⟨a, rfl⟩, fun _ => rfl⟩

end LineagePorts
