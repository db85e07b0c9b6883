import GrammaticalEvolution.Evaluation

/-!
# What the limit on nested calls does

`Unlimited` evaluates by the same rules without a limit, and says how many
nested calls such an evaluation enters.  Arguments behind a literal head, or
behind an argument that fails, are never entered, so this number can be far
below the nesting of the expression.  A limited evaluation has the unlimited
outcome if the limit allows the calls that are entered, and exceeds the limit
otherwise.
-/

namespace GrammaticalEvolution

namespace Unlimited

section

variable (operations : OperationTable) (resolver : Resolver)

mutual

/-- The value of a call, however deeply calls are nested. -/
def call : List Expression → Except EvaluationFailure Value
  | [] => .error (.raised .emptyExpression)
  | .list items :: _ =>
      .error (.raised (.unresolvable
        ("non-invocable head " ++ (Expression.list items).display)))
  | .atom (.symbol name) :: rest => do
      let values ← arguments rest
      (Evaluator.ofOperations operations).apply resolver name values
  | .atom literal :: _ => .ok literal

def argument : Expression → Except EvaluationFailure Value
  | .list items => call items
  | .atom (.symbol name) =>
      ((Evaluator.ofOperations operations).nameValue resolver name).mapError
        .raised
  | .atom literal => .ok literal

def arguments : List Expression → Except EvaluationFailure (List Value)
  | [] => .ok []
  | expression :: rest => do
      let value ← argument expression
      let values ← arguments rest
      return value :: values

end

mutual

/-- How many nested calls are entered, the call itself included. -/
def callDepth : List Expression → Nat
  | .atom (.symbol _) :: rest => 1 + argumentsDepth rest
  | _ => 1

def argumentDepth : Expression → Nat
  | .list items => callDepth items
  | .atom _ => 0

/-- Arguments after one that fails are not entered. -/
def argumentsDepth : List Expression → Nat
  | [] => 0
  | expression :: rest =>
      match argument operations resolver expression with
      | .ok _ => max (argumentDepth expression) (argumentsDepth rest)
      | .error _ => argumentDepth expression

end

/-- How many nested calls are entered; a leaf is a call too. -/
def depth (expression : Expression) : Nat :=
  match expression with
  | .list items => callDepth operations resolver items
  | .atom value => callDepth operations resolver [.atom value]

def attempt (expression : Expression) : Except EvaluationFailure Value :=
  match expression with
  | .list items => call operations resolver items
  | .atom value => call operations resolver [.atom value]

/-- The outcome of an expression when nesting is not limited. -/
def outcome (expression : Expression) : Outcome :=
  (attempt operations resolver expression).mapError EvaluationFailure.error

end

/-! ### The calls that are entered -/

section Depth

variable {operations : OperationTable} {resolver : Resolver}

theorem callDepth_pos (items : List Expression) :
    0 < callDepth operations resolver items := by
  unfold callDepth
  split
  · exact Nat.lt_of_lt_of_le Nat.zero_lt_one (Nat.le_add_right 1 _)
  · exact Nat.zero_lt_one

mutual

theorem callDepth_le_nesting (items : List Expression) :
    callDepth operations resolver items ≤
      1 + Expression.nestingList items := by
  cases items with
  | nil => simp [callDepth]
  | cons head rest =>
      have restDepth := argumentsDepth_le_nesting rest
      unfold callDepth
      split
      · next name tail same =>
          cases same
          rw [Expression.nestingList, Expression.nesting, Nat.zero_max]
          exact Nat.add_le_add_left restDepth 1
      · exact Nat.le_add_right 1 _

theorem argumentDepth_le_nesting (expression : Expression) :
    argumentDepth operations resolver expression ≤ expression.nesting := by
  cases expression with
  | atom value => simp [argumentDepth]
  | list items =>
      have depth := callDepth_le_nesting items
      simpa only [argumentDepth, Expression.nesting] using depth

theorem argumentsDepth_le_nesting (items : List Expression) :
    argumentsDepth operations resolver items ≤
      Expression.nestingList items := by
  cases items with
  | nil => simp [argumentsDepth]
  | cons head rest =>
      have headDepth := argumentDepth_le_nesting head
      have restDepth := argumentsDepth_le_nesting rest
      rw [argumentsDepth, Expression.nestingList]
      split
      · omega
      · omega

end

theorem depth_le_nesting (expression : Expression) :
    depth operations resolver expression ≤ expression.asList.nesting := by
  cases expression with
  | list items => exact callDepth_le_nesting items
  | atom value => exact callDepth_le_nesting [.atom value]

end Depth

end Unlimited

namespace Evaluator

variable {evaluator : Evaluator} {resolver : Resolver} {room depth : Nat}
  {α β : Type} {unlimited : Except EvaluationFailure α}

/-- What a computation that enters so many nested calls comes to when there is
room for some number of them. -/
def within (evaluator : Evaluator) (room depth : Nat)
    (unlimited : Except EvaluationFailure α) : Except EvaluationFailure α :=
  if depth ≤ room then unlimited
  else .error (.raised (.depthExceeded evaluator.depthLimit))

theorem within_of_le (enough : depth ≤ room) :
    evaluator.within room depth unlimited = unlimited :=
  if_pos enough

theorem within_of_lt (short : room < depth) :
    evaluator.within room depth unlimited =
      .error (.raised (.depthExceeded evaluator.depthLimit)) :=
  if_neg (Nat.not_le_of_gt short)

theorem within_succ :
    evaluator.within (room + 1) (1 + depth) unlimited =
      evaluator.within room depth unlimited := by
  simp only [within, Nat.add_comm 1 depth, Nat.add_le_add_iff_right]

theorem within_bind (next : α → Except EvaluationFailure β) :
    evaluator.within room depth unlimited >>= next =
      evaluator.within room depth (unlimited >>= next) := by
  by_cases enough : depth ≤ room
  · rw [within_of_le enough, within_of_le enough]
  · have short := Nat.lt_of_not_le enough
    rw [within_of_lt short, within_of_lt short]
    rfl

/-- What follows is only entered after a success. -/
theorem within_within (later : Nat)
    (next : α → Except EvaluationFailure β) :
    evaluator.within room depth (unlimited >>= fun value =>
        evaluator.within room later (next value)) =
      evaluator.within room
        (match unlimited with
          | .ok _ => max depth later
          | .error _ => depth)
        (unlimited >>= next) := by
  cases unlimited with
  | error failure => rfl
  | ok value =>
      change evaluator.within room depth (evaluator.within room later
        (next value)) = evaluator.within room (max depth later) (next value)
      by_cases enough : depth ≤ room ∧ later ≤ room
      · rw [within_of_le enough.1, within_of_le enough.2,
          within_of_le (Nat.max_le.mpr enough)]
      · rw [within_of_lt (by omega : room < max depth later)]
        by_cases first : depth ≤ room
        · rw [within_of_le first]
          exact within_of_lt (by omega)
        · exact within_of_lt (Nat.lt_of_not_le first)

mutual

theorem call_eq_within (items : List Expression) (room : Nat) :
    call evaluator resolver room items =
      evaluator.within room
        (Unlimited.callDepth evaluator.operations resolver items)
        (Unlimited.call evaluator.operations resolver items) := by
  cases room with
  | zero =>
      rw [within_of_lt (Unlimited.callDepth_pos items)]
      cases items <;> rfl
  | succ room =>
      rcases items with _ | ⟨(_ | _ | _ | name) | inner, rest⟩
      case cons.atom.symbol =>
        have values := arguments_eq_within rest room
        rw [call, values, within_bind, Unlimited.callDepth, Unlimited.call,
          within_succ]
        rfl
      -- Every other call ends at its head.
      all_goals
        exact (within_of_le (Nat.succ_le_succ (Nat.zero_le room))).symm

theorem argument_eq_within (expression : Expression) (room : Nat) :
    argument evaluator resolver room expression =
      evaluator.within room
        (Unlimited.argumentDepth evaluator.operations resolver expression)
        (Unlimited.argument evaluator.operations resolver expression) := by
  cases expression with
  | atom value =>
      rw [Unlimited.argumentDepth, within_of_le (Nat.zero_le room)]
      cases value <;> rfl
  | list items =>
      rw [Unlimited.argumentDepth, Unlimited.argument, argument]
      exact call_eq_within items room

theorem arguments_eq_within (items : List Expression) (room : Nat) :
    arguments evaluator resolver room items =
      evaluator.within room
        (Unlimited.argumentsDepth evaluator.operations resolver items)
        (Unlimited.arguments evaluator.operations resolver items) := by
  cases items with
  | nil => exact (within_of_le (Nat.zero_le room)).symm
  | cons head rest =>
      have first := argument_eq_within head room
      have others := arguments_eq_within rest room
      rw [arguments, first, others]
      simp only [within_bind]
      rw [within_within, Unlimited.argumentsDepth, Unlimited.arguments]
      congr 1
      cases Unlimited.argument evaluator.operations resolver head <;> rfl

end

/-! ### The limit of an evaluator -/

/-- The outcome of an evaluator is decided by the calls that are entered: it is
the unlimited one if the limit allows them. -/
theorem evaluateWith_eq (evaluator : Evaluator) (resolver : Resolver)
    (expression : Expression) :
    evaluator.evaluateWith resolver expression =
      if Unlimited.depth evaluator.operations resolver expression ≤
          evaluator.depthLimit then
        Unlimited.outcome evaluator.operations resolver expression
      else .error (.depthExceeded evaluator.depthLimit) := by
  have attempted : evaluator.attempt resolver expression =
      evaluator.within evaluator.depthLimit
        (Unlimited.depth evaluator.operations resolver expression)
        (Unlimited.attempt evaluator.operations resolver expression) := by
    cases expression with
    | list items => exact call_eq_within items evaluator.depthLimit
    | atom value => exact call_eq_within [.atom value] evaluator.depthLimit
  rw [evaluateWith, attempted, within]
  split <;> rfl

/-- The limit on nested calls only ever turns an outcome into the error that
names it.  It leaves alone what is nested no deeper than the limit, and a wider
limit leaves alone every other outcome under a narrower one. -/
theorem depthLimit_only_exceeds (evaluator : Evaluator) (resolver : Resolver)
    (expression : Expression) :
    (expression.asList.nesting ≤ evaluator.depthLimit →
      evaluator.evaluateWith resolver expression =
        Unlimited.outcome evaluator.operations resolver expression) ∧
    (evaluator.evaluateWith resolver expression =
        Unlimited.outcome evaluator.operations resolver expression ∨
      evaluator.evaluateWith resolver expression =
        .error (.depthExceeded evaluator.depthLimit)) ∧
    ∀ narrow wide, narrow ≤ wide →
      (∀ limit, (evaluator.withDepthLimit narrow).evaluateWith resolver
        expression ≠ .error (.depthExceeded limit)) →
      (evaluator.withDepthLimit wide).evaluateWith resolver expression =
        (evaluator.withDepthLimit narrow).evaluateWith resolver expression := by
  refine ⟨?_, ?_, ?_⟩
  · intro shallow
    have entered : Unlimited.depth evaluator.operations resolver expression ≤
        expression.asList.nesting := Unlimited.depth_le_nesting expression
    rw [evaluateWith_eq, if_pos (Nat.le_trans entered shallow)]
  · rw [evaluateWith_eq]
    split
    · exact .inl rfl
    · exact .inr rfl
  · intro narrow wide widened unexceeded
    have narrowOutcome := evaluateWith_eq (evaluator.withDepthLimit narrow)
      resolver expression
    have wideOutcome := evaluateWith_eq (evaluator.withDepthLimit wide)
      resolver expression
    by_cases enough : Unlimited.depth evaluator.operations resolver
        expression ≤ min narrow maxNesting
    · have wideEnough : Unlimited.depth evaluator.operations resolver
          expression ≤ min wide maxNesting := by omega
      rw [wideOutcome, narrowOutcome]
      exact (if_pos wideEnough).trans (if_pos enough).symm
    · have exceeded := narrowOutcome.trans (if_neg enough)
      exact absurd exceeded (unexceeded _)

/-- Two sums, one inside the other. -/
def pairSum : Expression :=
  .list [.symbol "add", .list [.symbol "add", .integer 1, .integer 1],
    .integer 1]

theorem evaluate_pairSum :
    pairSum.asList.nesting ≤ 2 ∧
    (arithmetic.withDepthLimit 2).evaluate pairSum = .ok (.integer 3) ∧
    (arithmetic.withDepthLimit 400).evaluate pairSum = .ok (.integer 3) ∧
    (arithmetic.withDepthLimit 1).evaluate pairSum =
      .error (.depthExceeded 1) := by
  have nesting : pairSum.asList.nesting ≤ 2 := by decide
  have unlimited : Unlimited.outcome Arithmetic.table .nothing pairSum =
      .ok (.integer 3) := rfl
  obtain ⟨allowed, _⟩ :=
    depthLimit_only_exceeds (arithmetic.withDepthLimit 2) .nothing pairSum
  have narrow : (arithmetic.withDepthLimit 2).evaluate pairSum =
      .ok (.integer 3) := (allowed nesting).trans unlimited
  obtain ⟨_, _, widened⟩ :=
    depthLimit_only_exceeds arithmetic .nothing pairSum
  have wide : (arithmetic.withDepthLimit 400).evaluate pairSum =
      (arithmetic.withDepthLimit 2).evaluate pairSum := by
    apply widened 2 400 (by decide)
    intro limit exceeded
    exact nomatch narrow.symm.trans exceeded
  exact ⟨nesting, narrow, wide.trans narrow, rfl⟩

end Evaluator

end GrammaticalEvolution
