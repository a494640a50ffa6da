/-!
# `KeyTree.Event`: what is reported along the way

Some work reports events while it goes on: entries that are skipped, gates
that are opened, documents that are read. `Logged` pairs a result with the
events of the work that led to it, in order.

Entries that are skipped are reported only in development. So the events depend
on the build (`BuildMode`), and the result does not.
-/

set_option autoImplicit false

namespace KeyTree

/-- The two ways a document is written. -/
inductive DocumentFormat where
  | json
  | yaml
  deriving DecidableEq, Repr

/-- Something worth reporting. -/
inductive Event where
  /-- An absent entry was left out of a tree; `stem` is the joined path
  that its level's keys start with. -/
  | skippedAbsent (key stem : String)
  /-- An entry of a document is of no known shape. -/
  | skippedUnrecognized (path found : String)
  /-- A field of a gate entry means nothing. -/
  | ignoredField (path field : String)
  /-- The level behind a gate is compiled. -/
  | compilingGate (key stem : String)
  /-- A document has been read and is about to be understood. -/
  | loadingDocument (path : String) (format : DocumentFormat)
  /-- Source code has been generated. -/
  | generatedBuilders (root : String) (structs : Nat)
  deriving DecidableEq, Repr

/-- The two kinds of builds. -/
inductive BuildMode where
  | development
  | release
  deriving DecidableEq, Repr

namespace BuildMode

/-- The events of a build about what is skipped. -/
def diagnostics : BuildMode → List Event → List Event
  | development, events => events
  | release, _ => []

@[simp] theorem diagnostics_nil (mode : BuildMode) : mode.diagnostics [] = [] := by
  cases mode <;> rfl

theorem diagnostics_append (mode : BuildMode) (events others : List Event) :
    mode.diagnostics (events ++ others) = mode.diagnostics events ++ mode.diagnostics others := by
  cases mode <;> rfl

end BuildMode

/-- How much an event matters. -/
inductive Severity where
  | warning
  | detail
  deriving DecidableEq, Repr

namespace Event

/-- What is skipped or ignored deserves a warning. -/
def severity : Event → Severity
  | skippedAbsent _ _ | skippedUnrecognized _ _ | ignoredField _ _ => .warning
  | compilingGate _ _ | loadingDocument _ _ | generatedBuilders _ _ => .detail

/-- The text of an event, without what it is about. -/
def message : Event → String
  | skippedAbsent _ _ => "Skipping absent schema entry"
  | skippedUnrecognized _ _ => "Skipping unrecognized schema entry"
  | ignoredField _ _ => "Ignoring unknown field on parameterized entry"
  | compilingGate _ _ => "Compiling parameterized schema"
  | loadingDocument _ _ => "Loading key schema document"
  | generatedBuilders _ _ => "Generated key builders"

end Event

/-- A result, and the events on the way to it in a build. That is a build for
development where none is named. -/
structure Logged (α : Type) where
  events (mode : BuildMode := .development) : List Event
  result : α

namespace Logged

/-- Reports one event. -/
def note (event : Event) : Logged Unit := ⟨fun _ => [event], ()⟩

/-- Reports one event in development, and nothing in a release. -/
def noteInDevelopment (event : Event) : Logged Unit :=
  ⟨fun mode => mode.diagnostics [event], ()⟩

instance : Monad Logged where
  pure a := ⟨fun _ => [], a⟩
  bind x f := ⟨fun mode => x.events mode ++ (f x.result).events mode, (f x.result).result⟩

@[ext] theorem ext {α : Type} {x y : Logged α} (hevents : ∀ mode, x.events mode = y.events mode)
    (hresult : x.result = y.result) : x = y := by
  cases x
  cases y
  obtain rfl := funext hevents
  obtain rfl := hresult
  rfl

variable {α β : Type} (mode : BuildMode)

@[simp] theorem events_pure (a : α) : (pure a : Logged α).events mode = [] := rfl

@[simp] theorem result_pure (a : α) : (pure a : Logged α).result = a := rfl

@[simp] theorem events_bind (x : Logged α) (f : α → Logged β) :
    (x >>= f).events mode = x.events mode ++ (f x.result).events mode := rfl

@[simp] theorem result_bind (x : Logged α) (f : α → Logged β) :
    (x >>= f).result = (f x.result).result := rfl

@[simp] theorem events_note (event : Event) : (note event).events mode = [event] := rfl

@[simp] theorem events_noteInDevelopment (event : Event) :
    (noteInDevelopment event).events mode = mode.diagnostics [event] := rfl

instance : LawfulMonad Logged :=
  LawfulMonad.mk' Logged (fun x => by ext <;> simp [Functor.map])
    (fun _ _ => rfl) (fun x _ _ => by ext <;> simp [List.append_assoc])

@[simp] theorem events_map (f : α → β) (x : Logged α) :
    (f <$> x).events mode = x.events mode := by
  rw [map_eq_pure_bind, events_bind, events_pure, List.append_nil]

@[simp] theorem result_map (f : α → β) (x : Logged α) :
    (f <$> x).result = f x.result := rfl

end Logged

end KeyTree
