import Mathlib.Data.List.Induction
import SqlSelect.Session

/-!
# Dialects in the course of a session

A session takes steps and goes through scopes, one after the other, in which it takes further
steps. At every point the dialect of a query can be read off what happened before: it is the
one last chosen for the query, or for the query it was made from, and else the default. The
default is the one last set; what a scope sets is gone with the scope.

## Implementation notes

The history of a query leads on to the query it was made from, at the time it was made, so it
is read from the latest step backwards. The body of a scope that is aborted consists of the
steps that were taken before.
-/

namespace SqlSelect

/-- What happens in a session outside of scopes. -/
inductive Action where
  | step (x : Step)
  /-- A scope with a default of its own, from entering it to leaving it. -/
  | scope (d : Dialect) (body : List Step) (exit : Exit)

namespace Action

/-- The steps that an action consists of. -/
def steps : Action → List Step
  | step x => [x]
  | scope _ body _ => body

/-- The step that an action is, unless it is a scope. -/
def step? : Action → Option Step
  | step x => some x
  | scope _ _ _ => none

end Action

/-- The dialect that an edit chooses. -/
def Edit.choice? : Edit → Option Dialect
  | .pin d => some d
  | _ => none

/-- The default that a step sets. -/
def Step.default? : Step → Option Dialect
  | .setDefault d => some d
  | _ => none

/-- The default last set in a course of steps, or the one from before. -/
def lastDefault (before : Dialect) (steps : List Step) : Dialect :=
  (steps.filterMap Step.default?).getLast?.getD before

theorem lastDefault_append (before : Dialect) (steps : List Step) (x : Step) :
    lastDefault before (steps ++ [x]) = x.default?.getD (lastDefault before steps) := by
  cases set : x.default? <;> simp [lastDefault, set]

namespace Session

/-- The session after steps, one after the other. -/
def performAll (s : Session) (steps : List Step) : Session :=
  steps.foldl after s

@[simp] theorem performAll_nil (s : Session) : s.performAll [] = s := rfl

@[simp] theorem performAll_append (s : Session) (xs ys : List Step) :
    s.performAll (xs ++ ys) = (s.performAll xs).performAll ys :=
  List.foldl_append

/-- The session after an action. -/
def act (s : Session) : Action → Session
  | .step x => s.after x
  | .scope d body exit => ((s.enter d).2.performAll body).leave (s.enter d).1 exit

/-- The session after actions, one after the other. -/
def run (s : Session) (actions : List Action) : Session :=
  actions.foldl act s

@[simp] theorem run_nil (s : Session) : s.run [] = s := rfl

theorem run_append_singleton (s : Session) (actions : List Action) (a : Action) :
    s.run (actions ++ [a]) = (s.run actions).act a := by
  rw [run, List.foldl_append]
  rfl

/-- The dialect last chosen for a name, in steps that are listed from the latest one
backwards. A query that was made from another one keeps the choice that held for that one. -/
def lastChoice (start : Session) : List Step → String → Option Dialect
  | [], name => (start.query name).pinned
  | .edit changed e :: earlier, name =>
    (if name = changed then e.choice? else none).or (lastChoice start earlier name)
  | .copy source target :: earlier, name | .count source target :: earlier, name =>
    lastChoice start earlier (if name = target then source else name)
  | .setDefault _ :: earlier, name => lastChoice start earlier name

end Session

/-- A point in the course of a session. -/
inductive Moment where
  /-- Outside of scopes, behind some actions. -/
  | between (done : List Action)
  /-- In a scope that was entered behind some actions, behind the first steps of its body. -/
  | inside (done : List Action) (d : Dialect) (body : List Step)

namespace Moment

/-- The session at a point of its course. -/
def session (start : Session) : Moment → Session
  | between done => start.run done
  | inside done d body => ((start.run done).enter d).2.performAll body

/-- Every step up to a point, in a scope or not. -/
def steps : Moment → List Step
  | between done => done.flatMap Action.steps
  | inside done _ body => done.flatMap Action.steps ++ body

/-- The default that the history of a session gives: the last one set, in the open scope or, when
there is none, outside of all scopes. -/
def lastDefault (start : Session) : Moment → Dialect
  | between done => SqlSelect.lastDefault start.default (done.filterMap Action.step?)
  | inside _ d body => SqlSelect.lastDefault d body

/-- The dialect that the history of a session gives to the query under a name. -/
def lastDialect (start : Session) (m : Moment) (name : String) : Dialect :=
  (start.lastChoice m.steps.reverse name).getD (m.lastDefault start)

end Moment

/-! ### Choices -/

namespace Query

/-- An edit that chooses no dialect keeps the choice. -/
theorem pinned_apply (q : Query) (e : Edit) : (q.apply e).pinned = e.choice?.or q.pinned := by
  cases e <;> rfl

theorem pinned_counting (q : Query) : q.counting.pinned = q.pinned := rfl

end Query

namespace Session

variable (s start : Session)

theorem query_store (target name : String) (q : Query) :
    (s.store target q).query name = if name = target then q else s.query name := rfl

/-- A step goes on from the choices that held before it. -/
theorem pinned_after {earlier : List Step}
    (before : ∀ name, (s.query name).pinned = start.lastChoice earlier name) (x : Step)
    (name : String) :
    ((s.after x).query name).pinned = start.lastChoice (x :: earlier) name := by
  cases x with
  | edit changed e =>
      rw [after_edit, query_store, lastChoice, ← before]
      by_cases own : name = changed
      · rw [if_pos own, if_pos own, Query.pinned_apply, own]
      · rw [if_neg own, if_neg own, Option.none_or]
  | copy source target =>
      rw [after, perform, query_store, lastChoice, ← before]
      split <;> rfl
  | count source target =>
      rw [after, perform, query_store, lastChoice, ← before]
      split
      · exact Query.pinned_counting _
      · rfl
  | setDefault d => exact before name

/-- After any steps a query has the choice that is found from the last of them backwards. -/
theorem pinned_performAll (steps : List Step) (name : String) :
    ((s.performAll steps).query name).pinned = s.lastChoice steps.reverse name := by
  induction steps using List.reverseRecOn generalizing name with
  | nil => rfl
  | append_singleton steps x ih =>
      rw [performAll_append, List.reverse_append]
      exact pinned_after (s.performAll steps) s ih x name

theorem query_enter (d : Dialect) : (s.enter d).2.query = s.query := rfl

theorem default_enter (d : Dialect) : (s.enter d).2.default = d :=
  default_setDefault s d

/-- What a step makes of the queries does not depend on the default. -/
theorem query_after_congr {s t : Session} (same : s.query = t.query) (x : Step) :
    (s.after x).query = (t.after x).query := by
  cases x with
  | edit name e =>
      funext other
      rw [after_edit, after_edit, query_store, query_store, same]
  | copy name target | count name target =>
      funext other
      rw [after, after, perform, perform, query_store, query_store, same]
  | setDefault d => exact same

theorem query_performAll_congr {s t : Session} (same : s.query = t.query) (steps : List Step) :
    (s.performAll steps).query = (t.performAll steps).query := by
  induction steps using List.reverseRecOn with
  | nil => exact same
  | append_singleton steps x ih =>
      rw [performAll_append, performAll_append]
      exact query_after_congr ih x

/-- Scopes leave their steps done. -/
theorem query_run (actions : List Action) :
    (s.run actions).query = (s.performAll (actions.flatMap Action.steps)).query := by
  induction actions using List.reverseRecOn with
  | nil => rfl
  | append_singleton actions a ih =>
      have same : ((s.run actions).act a).query = ((s.run actions).performAll a.steps).query := by
        cases a with
        | step x => rfl
        | scope d body exit =>
            rw [act, query_leave]
            exact query_performAll_congr (query_enter (s.run actions) d) body
      rw [run_append_singleton, same, query_performAll_congr ih, List.flatMap_append,
        List.flatMap_singleton, performAll_append]

/-! ### Defaults -/

theorem default_after (x : Step) : (s.after x).default = x.default?.getD s.default := by
  cases x with
  | setDefault d => exact default_setDefault s d
  | edit | copy | count => rfl

theorem default_performAll (steps : List Step) :
    (s.performAll steps).default = lastDefault s.default steps := by
  induction steps using List.reverseRecOn with
  | nil => rfl
  | append_singleton steps x ih =>
      rw [performAll_append, lastDefault_append, ← ih]
      exact default_after _ x

/-- However a scope is left, and whatever it set, the default is the one from before. -/
theorem default_act_scope (d : Dialect) (body : List Step) (exit : Exit) :
    (s.act (.scope d body exit)).default = s.default := by
  rw [act, default_leave]
  rfl

/-- Without its scopes a course of actions ends with the same default. -/
theorem default_run (actions : List Action) :
    (s.run actions).default = (s.performAll (actions.filterMap Action.step?)).default := by
  induction actions using List.reverseRecOn with
  | nil => rfl
  | append_singleton actions a ih =>
      rw [run_append_singleton, List.filterMap_append, performAll_append]
      cases a with
      | step x =>
          have last : (s.run actions).act (.step x) = (s.run actions).after x := rfl
          rw [last, default_after, ih]
          exact (default_after _ x).symm
      | scope d body exit =>
          rw [default_act_scope, ih]
          rfl

end Session

namespace Moment

variable (start : Session) (m : Moment)

theorem query_session :
    (m.session start).query = (start.performAll m.steps).query := by
  cases m with
  | between done => exact start.query_run done
  | inside done d body =>
      have entered : ((start.run done).enter d).2.query =
          (start.performAll (done.flatMap Action.steps)).query := by
        rw [Session.query_enter, Session.query_run]
      rw [steps, Session.performAll_append]
      exact Session.query_performAll_congr entered body

theorem default_session : (m.session start).default = m.lastDefault start := by
  cases m with
  | between done => rw [session, Session.default_run, Session.default_performAll, lastDefault]
  | inside done d body =>
      rw [session, Session.default_performAll, Session.default_enter, lastDefault]

theorem dialect_session (name : String) :
    (m.session start).dialect name = m.lastDialect start name := by
  rw [Session.dialect, Query.dialect, default_session, query_session,
    Session.pinned_performAll, lastDialect]

end Moment

namespace Session

/-- At every point of a session, in a scope or not, the dialect of a query is the one last
chosen for it, or for the query it was made from, and else the default; the default is the one
last set. Choosing a dialect and setting the default hand back the dialect that was in effect,
and a scope remembers the default from before. To leave a scope, in whatever way, restores
that default, so the default at the end is that of the session without its scopes. -/
theorem dialects_of_history (start : Session) :
    (∀ m : Moment,
      (∀ name, (m.session start).dialect name = m.lastDialect start name) ∧
      (m.session start).default = m.lastDefault start ∧
      (∀ name d, ((m.session start).perform (.edit name (.pin d))).1 =
        .dialect (m.lastDialect start name)) ∧
      (∀ d, ((m.session start).perform (.setDefault d)).1 =
        .dialect (m.lastDefault start))) ∧
    (∀ (done : List Action) (d : Dialect),
      ((start.run done).enter d).1.previous = (Moment.between done).lastDefault start ∧
      ∀ body exit, (start.run (done ++ [.scope d body exit])).default =
        (Moment.between done).lastDefault start) ∧
    ∀ actions : List Action,
      (start.run actions).default =
        (start.performAll (actions.filterMap Action.step?)).default := by
  refine ⟨fun m => ⟨m.dialect_session start, m.default_session start, ?_, ?_⟩, ?_,
    start.default_run⟩
  · intro name d
    rw [← m.dialect_session]
    rfl
  · intro d
    rw [← m.default_session]
    rfl
  · intro done d
    have entry : (start.run done).default = (Moment.between done).lastDefault start :=
      (Moment.between done).default_session start
    refine ⟨entry, fun body exit => ?_⟩
    rw [run_append_singleton, default_act_scope, entry]

example :
    let m := Moment.between
      [.scope .oracle [.edit "first" (.pin .sqlite), .setDefault .postgresql] .aborted,
        .step (.count "first" "second")]
    (m.session {}).dialect "second" = .sqlite ∧ (m.session {}).dialect "third" = .mysql := by
  decide +kernel

end Session

end SqlSelect
