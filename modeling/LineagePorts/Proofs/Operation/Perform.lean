import LineagePorts.Operation
import LineagePorts.Proofs.Store.Run

/-!
# Performing operations

What each way to build an operation does at a desk, so that an operation can be followed step by
step.
-/

namespace LineagePorts

namespace Operation

variable {ε ε' α β : Type}

theorem perform_bind (op : Operation ε α) (f : α → Operation ε β) (around : Surroundings)
    (desk : Desk) :
    (op >>= f).perform around desk =
      match op.perform around desk with
      | (.ok a, desk) => (f a).perform around desk
      | (.error e, desk) => (.error e, desk) := by
  show (ExceptT.bindCont (fun a => f a around) (op around desk).1) (op around desk).2 = _
  rw [perform]
  show _ = match op around desk with
    | (.ok a, desk) => (f a).perform around desk
    | (.error e, desk) => (.error e, desk)
  cases op around desk with
  | mk answer desk => cases answer <;> rfl

theorem perform_ofExcept (x : Except ε α) (around : Surroundings) (desk : Desk) :
    (ofExcept x).perform around desk = (x, desk) := by
  cases x <;> rfl

theorem perform_ask (question : Store → α) (around : Surroundings) (desk : Desk) :
    (ask question : Operation ε α).perform around desk = (.ok (question desk.store), desk) := rfl

theorem perform_mapError (f : ε → ε') (op : Operation ε α) (around : Surroundings) (desk : Desk) :
    (op.mapError f).perform around desk =
      ((op.perform around desk).1.mapError f, (op.perform around desk).2) := rfl

theorem perform_read (around : Surroundings) (desk : Desk) :
    (read : Operation ε Surroundings).perform around desk = (.ok around, desk) := rfl

theorem perform_modify (f : Desk → Desk) (around : Surroundings) (desk : Desk) :
    (modify f : Operation ε Unit).perform around desk = (.ok (), f desk) := rfl

theorem perform_resolve (user source : String) (around : Surroundings) (desk : Desk) :
    (resolve user source).perform around desk =
      ((around.registry.resolve user source).map (⟨·, source⟩),
        desk.record (.resolved user source (around.registry.resolve user source).toBool)) := by
  simp only [resolve, perform_bind, perform_read, perform_modify, perform_ofExcept]
  cases around.registry.resolve user source <;> rfl

theorem perform_change (who : Caller) (call : Store.Call)
    (act : Stamp → Store → Except Failure (α × Store)) (around : Surroundings) (desk : Desk) :
    (change who call act).perform around desk =
      ((desk.backend.commit (around.fault desk.calls) (act (around.stamp desk.calls))).1,
        { desk with
          backend := (desk.backend.commit (around.fault desk.calls)
            (act (around.stamp desk.calls))).2 }.record (.called who call)) := by
  show (ofExcept _ : Operation Failure α).perform around _ = _
  rw [perform_ofExcept]
  rfl

theorem perform_change_memory (who : Caller) (call : Store.Call)
    (act : Stamp → Store → Except Failure (α × Store)) (around : Surroundings) (s : Store)
    (trace : List Event) :
    (change who call act).perform around ⟨.memory s, trace⟩ =
      match act (around.stamp (trace.countP Event.isCall)) s with
      | .ok (a, next) => (.ok a, ⟨.memory next, trace ++ [.called who call]⟩)
      | .error e => (.error e, ⟨.memory s, trace ++ [.called who call]⟩) := by
  rw [perform_change]
  simp only [Desk.calls, Backend.commit, Desk.record]
  cases act (around.stamp (trace.countP Event.isCall)) s <;> rfl

end Operation

/-- The calls of a trace with their stamps, if the first of them is number `n`. -/
def Surroundings.issuedFrom (around : Surroundings) : Nat → List Event → List Issued
  | _, [] => []
  | n, .resolved _ _ _ :: events => around.issuedFrom n events
  | n, .called who call :: events => ⟨around.stamp n, who, call⟩ :: around.issuedFrom (n + 1) events

end LineagePorts
