/-!
# Journal of messages

Derivations, evaluations and generations report what they did.  A computation
that reports is a `Journaled` value: its result together with the entries it
wrote, in order.  The result never depends on what was written before.
-/

namespace GrammaticalEvolution

/-- How much attention an entry asks for, most urgent first. -/
inductive Level where
  | error
  | warn
  | info
  | debug
  | trace
deriving DecidableEq, Repr

namespace Level

/-- The word an entry of this level starts with. -/
def name : Level → String
  | .error => "ERROR"
  | .warn => "WARN"
  | .info => "INFO"
  | .debug => "DEBUG"
  | .trace => "TRACE"

def rank : Level → Nat
  | .error => 1
  | .warn => 2
  | .info => 3
  | .debug => 4
  | .trace => 5

end Level

/-- One message, with the part of the library that wrote it. -/
structure Entry where
  level : Level
  target : String
  message : String
deriving DecidableEq, Repr

abbrev Journal := Array Entry

/-- A result and the entries written on the way to it. -/
structure Journaled (α : Type) where
  value : α
  journal : Journal

namespace Journaled

def note (level : Level) (target message : String) : Journaled Unit :=
  ⟨(), #[⟨level, target, message⟩]⟩

instance : Monad Journaled where
  pure value := ⟨value, #[]⟩
  bind first next :=
    let second := next first.value
    ⟨second.value, first.journal ++ second.journal⟩

@[simp] theorem value_pure {α : Type} (value : α) :
    (pure value : Journaled α).value = value := rfl

@[simp] theorem value_bind {α β : Type} (first : Journaled α)
    (next : α → Journaled β) :
    (first >>= next).value = (next first.value).value := rfl

@[simp] theorem value_map {α β : Type} (function : α → β)
    (computation : Journaled α) :
    (function <$> computation).value = function computation.value := rfl

@[simp] theorem value_note (level : Level) (target message : String) :
    (note level target message).value = () := rfl

@[simp] theorem journal_pure {α : Type} (value : α) :
    (pure value : Journaled α).journal = #[] := rfl

@[simp] theorem journal_bind {α β : Type} (first : Journaled α)
    (next : α → Journaled β) :
    (first >>= next).journal =
      first.journal ++ (next first.value).journal := rfl

instance : LawfulMonad Journaled := LawfulMonad.mk' Journaled
  (fun computation => by cases computation; simp [Functor.map])
  (fun value next => by simp [bind, pure])
  (fun computation first second => by simp [bind, Array.append_assoc])

end Journaled

end GrammaticalEvolution
