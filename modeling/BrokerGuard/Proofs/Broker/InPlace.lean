import BrokerGuard.Configuration
/-!
# Processes in place — running configuration steps on a state

Startup and configuration answer new values.  To say that a failure leaves everything as it was, they are also written as
processes that work on a state step by step, where what was changed before a failure stays changed.  Here is how such a
process runs.
-/
namespace BrokerGuard

/-- A process that works on a state and may fail. -/
abbrev InPlace (σ α : Type) := ExceptT ConfigurationError (StateM σ) α

namespace InPlace

variable {σ α β ι : Type}

theorem run_bind (x : InPlace σ α) (f : α → InPlace σ β) (s : σ) :
    (x >>= f).run s =
      match x.run s with
      | (.ok a, s') => (f a).run s'
      | (.error e, s') => (.error e, s') := by
  have hbind : (x >>= f).run s = (ExceptT.bindCont f (x.run s).1) (x.run s).2 := rfl
  rw [hbind]
  rcases x.run s with ⟨_ | _, _⟩
  · rfl
  · rfl

theorem run_bind_of_ok {x : InPlace σ α} {s s' : σ} {a : α} (h : x.run s = (.ok a, s')) (f : α → InPlace σ β) :
    (x >>= f).run s = (f a).run s' := by
  rw [run_bind, h]

theorem run_bind_of_error {x : InPlace σ α} {s s' : σ} {e : ConfigurationError} (h : x.run s = (.error e, s'))
    (f : α → InPlace σ β) : (x >>= f).run s = (.error e, s') := by
  rw [run_bind, h]

theorem run_liftExcept (x : Except ConfigurationError α) (s : σ) : (liftExcept x : InPlace σ α).run s = (x, s) := by
  cases x with
  | error e => rfl
  | ok a => rfl

theorem run_forM_modify (f : ι → σ → σ) : ∀ (indices : List ι) (s : σ),
    (indices.forM fun i => (modify (f i) : InPlace σ PUnit)).run s = (.ok (), indices.foldl (fun s i => f i s) s)
  | [], _ => rfl
  | i :: indices, s => run_forM_modify f indices (f i s)

end InPlace
end BrokerGuard
