import EndpointResolution.Expr.Basic

/-!
Nested bindings of names, and the expressions known to be set. The type checker and the evaluator
share them: the one binds types, the other values.
-/
namespace EndpointResolution

universe u v

/-- One level of a scope. -/
structure Frame (α : Type u) where
  bindings : Fields α
  /-- The expressions known to be set. -/
  known : List Expr

/-- The frame without bindings. -/
def Frame.empty {α : Type u} : Frame α := ⟨[], []⟩

/-- Frames in one another. There is always one, the root, which is the innermost one if there are
no outer ones. -/
structure Scope (α : Type u) where
  inner : Frame α
  /-- The frames around the innermost one, from the nearest to the root. -/
  outer : List (Frame α)

namespace Scope

variable {α : Type u} {β : Type v}

/-- A root frame without bindings. -/
def empty : Scope α := ⟨.empty, []⟩

/-- The number of frames. -/
def depth (scope : Scope α) : Nat :=
  scope.outer.length + 1

/-- All frames, from the innermost one to the root. -/
def frames (scope : Scope α) : List (Frame α) :=
  scope.inner :: scope.outer

/-- Opens a frame. -/
def push (scope : Scope α) : Scope α :=
  ⟨.empty, scope.frames⟩

/-- Closes the innermost frame. The root cannot be closed. -/
def pop? (scope : Scope α) : Option (Scope α) :=
  match scope.outer with
  | [] => none
  | frame :: rest => some ⟨frame, rest⟩

/-- Closes the innermost frame, or leaves the scope as it is if that is the root. -/
def leave (scope : Scope α) : Scope α :=
  scope.pop?.getD scope

/-- Runs a step in a frame of its own, which is closed afterwards. -/
def within (step : Scope α → β × Scope α) (scope : Scope α) : β × Scope α :=
  let (result, after) := step scope.push
  (result, after.leave)

/-- Binds a name in the innermost frame. -/
def insert (name : String) (value : α) (scope : Scope α) : Scope α :=
  let inner := { scope.inner with bindings := Fields.insert name value scope.inner.bindings }
  { scope with inner := inner }

/-- Records in the innermost frame that an expression is set. -/
def know (expr : Expr) (scope : Scope α) : Scope α :=
  let inner := { scope.inner with known := expr :: scope.inner.known }
  { scope with inner := inner }

/-- What a name is bound to: the binding in the innermost frame that has one. -/
def resolve (name : String) (scope : Scope α) : Option α :=
  scope.frames.findSome? fun frame => Fields.get? name frame.bindings

/-- An expression like this one is known to be set. -/
def knows (expr : Expr) (scope : Scope α) : Bool :=
  scope.frames.any fun frame => frame.known.any expr.alike

@[simp] theorem pop?_push (scope : Scope α) : scope.push.pop? = some scope := rfl

@[simp] theorem leave_push (scope : Scope α) : scope.push.leave = scope := rfl

@[simp] theorem depth_push (scope : Scope α) : scope.push.depth = scope.depth + 1 := by
  simp [push, depth, frames]

@[simp] theorem depth_insert (name : String) (value : α) (scope : Scope α) :
    (scope.insert name value).depth = scope.depth := rfl

@[simp] theorem resolve_push (name : String) (scope : Scope α) :
    scope.push.resolve name = scope.resolve name := by
  simp [resolve, push, frames, Frame.empty, List.findSome?_cons]

@[simp] theorem knows_push (expr : Expr) (scope : Scope α) :
    scope.push.knows expr = scope.knows expr := by
  simp [knows, push, frames, Frame.empty]

@[simp] theorem resolve_insert_self (name : String) (value : α) (scope : Scope α) :
    (scope.insert name value).resolve name = some value := by
  simp [resolve, insert, frames]

theorem resolve_insert_of_ne {name other : String} (distinct : other ≠ name) (value : α)
    (scope : Scope α) : (scope.insert name value).resolve other = scope.resolve other := by
  simp [resolve, insert, frames, List.findSome?_cons, Fields.get?_insert_of_ne distinct]

theorem resolve_insert (name other : String) (value : α) (scope : Scope α) :
    (scope.insert name value).resolve other =
      if name = other then some value else scope.resolve other := by
  split
  next same => rw [same, resolve_insert_self]
  next distinct => rw [resolve_insert_of_ne (Ne.symm distinct)]

end Scope
end EndpointResolution
