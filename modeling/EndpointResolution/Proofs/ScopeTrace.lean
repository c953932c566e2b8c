import EndpointResolution.Proofs.Agreement
import EndpointResolution.Proofs.Frames
import Mathlib.Logic.Relation

/-!
Scopes by their histories. Of all that was done to a scope only what was done in frames that are
still open counts: once every frame that was closed is left out of the history, together with what
was done in it, a name has the value that was bound to it last, and what is known to be set is what
was recorded.
-/
namespace EndpointResolution.Scope

universe u

variable {α : Type u}

/-- What is done to a scope. -/
inductive Action (α : Type u) where
  | push
  | pop
  | insert (name : String) (value : α)
  | know (expr : Expr)

namespace Action

/-- The scope after an action. To close the root leaves it as it is. -/
def run (action : Action α) (scope : Scope α) : Scope α :=
  match action with
  | .push => scope.push
  | .pop => scope.leave
  | .insert name value => scope.insert name value
  | .know expr => scope.know expr

/-- The action is to close the root, which cannot be closed. -/
def fails : Action α → Scope α → Bool
  | .pop, scope => scope.pop?.isNone
  | _, _ => false

/-- The scope after actions in order. -/
def runAll (actions : List (Action α)) (scope : Scope α) : Scope α :=
  actions.foldl (fun reached action => action.run reached) scope

/-- None of the actions fails where its turn comes. -/
def Succeeds : List (Action α) → Scope α → Prop
  | [], _ => True
  | action :: rest, scope => action.fails scope = false ∧ Succeeds rest (action.run scope)

/-- The action neither opens nor closes a frame. -/
def isLocal : Action α → Bool
  | .insert _ _ => true
  | .know _ => true
  | _ => false

/-- The action opens a frame. -/
def opens : Action α → Bool
  | .push => true
  | _ => false

/-- The value that the action binds to a name, if it binds one. -/
def binds? (name : String) : Action α → Option α
  | .insert other value => if other = name then some value else none
  | _ => none

theorem runAll_cons (action : Action α) (rest : List (Action α)) (scope : Scope α) :
    runAll (action :: rest) scope = runAll rest (action.run scope) := rfl

theorem runAll_append (actions later : List (Action α)) (scope : Scope α) :
    runAll (actions ++ later) scope = runAll later (runAll actions scope) :=
  List.foldl_append

theorem succeeds_append {actions later : List (Action α)} {scope : Scope α} :
    Succeeds (actions ++ later) scope ↔
      Succeeds actions scope ∧ Succeeds later (runAll actions scope) := by
  induction actions generalizing scope with
  | nil => exact (true_and _).symm ▸ Iff.rfl
  | cons action rest ih =>
    rw [List.cons_append, Succeeds, Succeeds, ih, and_assoc]
    rfl

theorem fails_iff {action : Action α} {scope : Scope α} :
    action.fails scope = true ↔ action = .pop ∧ scope.depth = 1 := by
  obtain ⟨inner, outer⟩ := scope
  cases action <;> cases outer <;> simp [fails, pop?, depth]

theorem run_of_fails {action : Action α} {scope : Scope α} (failed : action.fails scope = true) :
    action.run scope = scope := by
  obtain ⟨inner, outer⟩ := scope
  cases action <;> cases outer <;> simp [fails, pop?] at failed
  rfl

theorem outer_runAll_of_isLocal {actions : List (Action α)}
    (each : ∀ action ∈ actions, action.isLocal = true) (scope : Scope α) :
    (runAll actions scope).outer = scope.outer := by
  induction actions generalizing scope with
  | nil => rfl
  | cons action rest ih =>
    obtain ⟨here, others⟩ := List.forall_mem_cons.mp each
    have kept : (action.run scope).outer = scope.outer := by
      cases action with
      | push => cases here
      | pop => cases here
      | insert name value => rfl
      | know expr => rfl
    exact (ih others (action.run scope)).trans kept

/-- The second list is the first without a frame that was opened and closed, and without what was
done in it. -/
inductive Forgets : List (Action α) → List (Action α) → Prop where
  | block (before : List (Action α)) {inside : List (Action α)} (after : List (Action α))
      (each : ∀ action ∈ inside, action.isLocal = true) :
      Forgets (before ++ .push :: (inside ++ .pop :: after)) (before ++ after)

/-- The second list is what remains of the first when all frames that were closed are left out. -/
structure Remains (actions rest : List (Action α)) : Prop where
  forgotten : Relation.ReflTransGen Forgets actions rest
  opened : .pop ∉ rest

/-- What was done in a frame that is closed again is undone. -/
theorem runAll_block {inside : List (Action α)}
    (each : ∀ action ∈ inside, action.isLocal = true) (after : List (Action α)) (scope : Scope α) :
    runAll (.push :: (inside ++ .pop :: after)) scope = runAll after scope := by
  have closed : (runAll inside scope.push).leave = scope :=
    leave_of_outer (outer_runAll_of_isLocal each scope.push)
  calc runAll (.push :: (inside ++ .pop :: after)) scope
      = runAll (inside ++ .pop :: after) scope.push := rfl
    _ = runAll after (runAll inside scope.push).leave := runAll_append _ _ _
    _ = runAll after scope := by rw [closed]

theorem runAll_of_forgets {actions rest : List (Action α)} (forgets : Forgets actions rest)
    (scope : Scope α) : runAll actions scope = runAll rest scope := by
  obtain ⟨before, after, each⟩ := forgets
  rw [runAll_append, runAll_append, runAll_block each]

theorem Remains.runAll_eq {actions rest : List (Action α)} (remains : Remains actions rest)
    (scope : Scope α) : runAll actions scope = runAll rest scope := by
  obtain ⟨forgotten, -⟩ := remains
  induction forgotten with
  | refl => rfl
  | tail _ forgets ih => rw [ih, runAll_of_forgets forgets]

theorem depth_run {action : Action α} (stays : action ≠ .pop) (scope : Scope α) :
    (action.run scope).depth = scope.depth + if action.opens then 1 else 0 := by
  cases action with
  | pop => exact absurd rfl stays
  | push => exact depth_push scope
  | insert name value => rfl
  | know expr => rfl

theorem resolve_run {action : Action α} (stays : action ≠ .pop) (scope : Scope α)
    (name : String) :
    (action.run scope).resolve name = (action.binds? name).or (scope.resolve name) := by
  cases action with
  | pop => exact absurd rfl stays
  | push => exact resolve_push name scope
  | insert other value =>
    rw [run, resolve_insert, binds?]
    split <;> rfl
  | know expr => rfl

theorem knows_run {action : Action α} (stays : action ≠ .pop) (scope : Scope α) (expr : Expr) :
    (action.run scope).knows expr = true ↔
      (∃ fact, .know fact = action ∧ expr.alike fact = true) ∨ scope.knows expr = true := by
  cases action with
  | pop => exact absurd rfl stays
  | push => simp [run]
  | insert other value => simp [run]
  | know other => simp [run]

section

variable {actions : List (Action α)} (opened : .pop ∉ actions) (scope : Scope α)
include opened

theorem depth_runAll : (runAll actions scope).depth = scope.depth + actions.countP opens := by
  induction actions generalizing scope with
  | nil => rfl
  | cons action rest ih =>
    obtain ⟨here, others⟩ := List.ne_and_not_mem_of_not_mem_cons opened
    have first := depth_run (Ne.symm here) scope
    have later := ih others (action.run scope)
    rw [runAll_cons, List.countP_cons]
    omega

theorem resolve_runAll (name : String) : (runAll actions scope).resolve name =
    (actions.reverse.findSome? (binds? name)).or (scope.resolve name) := by
  induction actions generalizing scope with
  | nil => rfl
  | cons action rest ih =>
    obtain ⟨here, others⟩ := List.ne_and_not_mem_of_not_mem_cons opened
    rw [runAll_cons, ih others, resolve_run (Ne.symm here), ← Option.or_assoc,
      List.reverse_cons, List.findSome?_append, List.findSome?_singleton]

theorem knows_runAll (expr : Expr) : (runAll actions scope).knows expr = true ↔
    (∃ fact, .know fact ∈ actions ∧ expr.alike fact = true) ∨ scope.knows expr = true := by
  induction actions generalizing scope with
  | nil => simp [runAll]
  | cons action rest ih =>
    obtain ⟨here, others⟩ := List.ne_and_not_mem_of_not_mem_cons opened
    rw [runAll_cons, ih others, knows_run (Ne.symm here), or_left_comm, ← or_assoc]
    simp only [List.mem_cons, or_and_right, exists_or]

end

theorem isLocal_of_not_mem {actions : List (Action α)} (unopened : .push ∉ actions)
    (unclosed : .pop ∉ actions) : ∀ action ∈ actions, action.isLocal = true := by
  intro action member
  cases action with
  | push => exact absurd member unopened
  | pop => exact absurd member unclosed
  | insert name value => rfl
  | know expr => rfl

/-- The first frame that is closed is the last one that was opened before. -/
theorem exists_block {actions : List (Action α)} (succeeds : Succeeds actions .empty)
    (closes : .pop ∈ actions) :
    ∃ before inside after, actions = before ++ .push :: (inside ++ .pop :: after) ∧
      ∀ action ∈ inside, action.isLocal = true := by
  obtain ⟨first, after, rfl, opened⟩ := List.eq_append_cons_of_mem closes
  have opens : .push ∈ first.reverse := by
    by_contra absent
    rw [List.mem_reverse] at absent
    have alone : (runAll first .empty : Scope α).depth = 1 := by
      rw [depth, outer_runAll_of_isLocal (isLocal_of_not_mem absent opened)]
      rfl
    have failed : Action.pop.fails (runAll first .empty : Scope α) = true :=
      fails_iff.mpr ⟨rfl, alone⟩
    rw [(succeeds_append.mp succeeds).2.1] at failed
    cases failed
  obtain ⟨inside, before, reversed, last⟩ := List.eq_append_cons_of_mem opens
  have whole : first = before.reverse ++ .push :: inside.reverse := by
    rw [← first.reverse_reverse, reversed]
    simp
  subst whole
  refine ⟨before.reverse, inside.reverse, after, by simp, isLocal_of_not_mem ?_ ?_⟩
  · rwa [List.mem_reverse]
  · exact fun member => opened (by simp [List.mem_reverse.mp member])

/-- What follows a frame that was closed succeeds without it. -/
theorem Succeeds.forget {before inside after : List (Action α)} {scope : Scope α}
    (each : ∀ action ∈ inside, action.isLocal = true)
    (succeeds : Succeeds (before ++ .push :: (inside ++ .pop :: after)) scope) :
    Succeeds (before ++ after) scope := by
  have cut : before ++ .push :: (inside ++ .pop :: after) =
      (before ++ .push :: (inside ++ [.pop])) ++ after := by simp
  rw [cut, succeeds_append] at succeeds
  obtain ⟨whole, later⟩ := succeeds
  rw [runAll_append, runAll_block each] at later
  exact succeeds_append.mpr ⟨(succeeds_append.mp whole).1, later⟩

/-- Closed frames can be left out until none is left. -/
theorem exists_remains (actions : List (Action α)) (succeeds : Succeeds actions .empty) :
    ∃ rest, Remains actions rest := by
  by_cases closes : .pop ∈ actions
  · obtain ⟨before, inside, after, whole, each⟩ := exists_block succeeds closes
    have shorter : (before ++ after).length < actions.length := by
      rw [whole]
      simp +arith
    have further : Succeeds (before ++ after) .empty := (whole ▸ succeeds).forget each
    have forgets : Forgets actions (before ++ after) := whole ▸ .block before after each
    obtain ⟨rest, remains⟩ := exists_remains (before ++ after) further
    exact ⟨rest, .head forgets remains.forgotten, remains.opened⟩
  · exact ⟨actions, .refl, closes⟩
termination_by actions.length

end Action

/-- Actions in order, some of them in a frame of their own that is closed after them. -/
inductive Script (α : Type u) where
  | step (action : Action α)
  | within (body : List (Script α))

namespace Script

mutual

/-- The scope after a script. -/
def run : Script α → Scope α → Scope α
  | .step action, scope => action.run scope
  | .within body, scope => (scope.within fun inner => ((), runAll body inner)).2

/-- The scope after scripts in order. -/
def runAll : List (Script α) → Scope α → Scope α
  | [], scope => scope
  | script :: rest, scope => runAll rest (run script scope)

end

mutual

/-- The actions of a script, where a frame of its own is opened and closed. -/
def trace : Script α → List (Action α)
  | .step action => [action]
  | .within body => .push :: (traceAll body ++ [.pop])

/-- The actions of scripts in order. -/
def traceAll : List (Script α) → List (Action α)
  | [] => []
  | script :: rest => trace script ++ traceAll rest

end

mutual

theorem run_eq : (script : Script α) → (scope : Scope α) →
    run script scope = Action.runAll (trace script) scope
  | .step action, scope => rfl
  | .within body, scope => by
    have inside := runAll_eq body scope.push
    calc run (.within body) scope = (runAll body scope.push).leave := by rw [run]; rfl
      _ = Action.runAll [.pop] (Action.runAll (traceAll body) scope.push) := by rw [inside]; rfl
      _ = Action.runAll (trace (.within body)) scope := by
        rw [trace, ← Action.runAll_append]; rfl

theorem runAll_eq : (scripts : List (Script α)) → (scope : Scope α) →
    runAll scripts scope = Action.runAll (traceAll scripts) scope
  | [], scope => rfl
  | script :: rest, scope => by
    rw [runAll, traceAll, Action.runAll_append, run_eq script, runAll_eq rest]

end

/-- Scopes follow their histories. If no frame is closed but those that were opened, there is a
history without the closed frames, and in any such history the last action that binds a name gives
its value, those that record facts give what is known, and those that open frames give the depth. To
close the root, which no frame is outside of, fails and changes nothing. -/
theorem lookup_follows_history (scripts : List (Script α))
    (succeeds : Action.Succeeds (traceAll scripts) .empty) :
    (∃ rest, Action.Remains (traceAll scripts) rest) ∧
    (∀ rest, Action.Remains (traceAll scripts) rest →
      (∀ name, (runAll scripts .empty).resolve name =
        rest.reverse.findSome? (Action.binds? name)) ∧
      (∀ expr, (runAll scripts .empty).knows expr = true ↔
        ∃ fact, .know fact ∈ rest ∧ expr.alike fact = true) ∧
      (runAll scripts .empty).depth = 1 + rest.countP Action.opens) ∧
    ∀ (action : Action α) (scope : Scope α), 1 ≤ scope.depth ∧
      (action.fails scope = true ↔ action = .pop ∧ scope.depth = 1) ∧
      (action.fails scope = true → action.run scope = scope) := by
  refine ⟨Action.exists_remains _ succeeds, ?_, ?_⟩
  · intro rest remains
    rw [runAll_eq, remains.runAll_eq]
    refine ⟨fun name => ?_, fun expr => ?_, Action.depth_runAll remains.opened .empty⟩
    · rw [Action.resolve_runAll remains.opened]
      exact Option.or_none
    · rw [Action.knows_runAll remains.opened]
      exact or_iff_left Bool.false_ne_true
  · intro action scope
    exact ⟨Nat.le_add_left 1 _, Action.fails_iff, Action.run_of_fails⟩

/-- A name is bound anew in a frame that is closed, with a frame in it, and another frame stays
open. -/
def nested : List (Script Nat) :=
  [.step (.insert "Region" 1),
    .within [.step (.insert "Region" 2), .step .push, .step (.know (.string "x")), .step .pop],
    .step .push, .step (.insert "Zone" 3)]

/-- The actions in the frames that `nested` leaves open. -/
def stillOpen : List (Action Nat) :=
  [.insert "Region" 1, .push, .insert "Zone" 3]

theorem lookup_follows_history_of_nested :
    Action.Succeeds (traceAll nested) .empty ∧ Action.Remains (traceAll nested) stillOpen ∧
      (runAll nested .empty).resolve "Region" = some 1 ∧
      (runAll nested .empty).knows (.string "x") = false ∧ (runAll nested .empty).depth = 2 := by
  have succeeds : Action.Succeeds (traceAll nested) .empty :=
    ⟨rfl, rfl, rfl, rfl, rfl, rfl, rfl, rfl, rfl, trivial⟩
  have inner : Action.Forgets (traceAll nested)
      [.insert "Region" 1, .push, .insert "Region" 2, .pop, .push, .insert "Zone" 3] :=
    .block [.insert "Region" 1, .push, .insert "Region" 2] [.pop, .push, .insert "Zone" 3]
      (List.forall_mem_singleton.mpr rfl)
  have around : Action.Forgets
      [.insert "Region" 1, .push, .insert "Region" 2, .pop, .push, .insert "Zone" 3] stillOpen :=
    .block [.insert "Region" 1] [.push, .insert "Zone" 3] (List.forall_mem_singleton.mpr rfl)
  have remains : Action.Remains (traceAll nested) stillOpen :=
    ⟨.head inner (.single around), by simp [stillOpen]⟩
  obtain ⟨names, facts, depth⟩ :=
    (lookup_follows_history nested succeeds).2.1 stillOpen remains
  refine ⟨succeeds, remains, names "Region", ?_, depth⟩
  refine Bool.eq_false_iff.mpr fun known => ?_
  obtain ⟨fact, recorded, -⟩ := (facts _).mp known
  simp [stillOpen] at recorded

end Script
end EndpointResolution.Scope
