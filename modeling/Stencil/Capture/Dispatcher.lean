import Stencil.Capture.Scope

/-!
# Capture — Dispatcher

Handlers by the names of the captures they are called for. A handler sees the scope as it stands
when its capture has just been bound.
-/

namespace Stencil

/-- Handlers with answers of one type, at most one for a name. -/
structure Dispatcher (α : Type) where
  handlers : NameMap (Scope → α)

namespace Dispatcher

variable {α : Type}

/-- No handlers. -/
def empty : Dispatcher α := ⟨.empty⟩

/-- The dispatcher with a handler for a name, in place of the one it had. -/
def register (d : Dispatcher α) (name : String) (handler : Scope → α) : Dispatcher α :=
  ⟨d.handlers.insert name handler⟩

/-- Whether a name has a handler. -/
def handles (d : Dispatcher α) (name : String) : Bool := (d.handlers.get? name).isSome

/-- Whether no name has a handler. -/
def isEmpty (d : Dispatcher α) : Bool := d.handlers.toList.isEmpty

/-- The answer of the handler for a name, if it has one. -/
def dispatch (d : Dispatcher α) (name : String) (scope : Scope) : Option α :=
  (d.handlers.get? name).map (· scope)

/-- The dispatcher as text: the names that have handlers. -/
def render (d : Dispatcher α) : String :=
  "CaptureDispatcher \x7b handlers: [" ++ ", ".intercalate (d.handlers.names.map Text.quoted) ++
    "] \x7d"

end Dispatcher

end Stencil
