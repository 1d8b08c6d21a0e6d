import Mathlib.Data.List.Basic
import Workflow.Proofs.Chain.Course

/-!
# One chain under the two policies

The policies differ in what they do at a soft failure and in nothing else. So the run that aborts
and the run that goes on are one run up to the end of the work of the first node that fails softly:
the same states, the same worlds, the same events. There they part, the one with a failure and the
other with a warning. If no node fails softly they never part.

## Main definitions

* `Turn.softReason?` — the text with which a turn fails softly, if it does.
* `Chain.executed_abort_of_soft` — the run that aborts ends with the first soft failure.
* `Chain.run_abort_run_goOn` — the two runs of a chain compared.
-/

namespace Workflow

namespace Turn

/-- The text with which a turn fails softly: its node returns normally and leaves an error that did
not stand there before. -/
def softReason? (turn : Turn) : Option String :=
  match turn.result with
  | .ok () => freshError turn.before turn.after.state
  | .error _ => none

variable {turn : Turn} {reason : String}

theorem result_of_soft (soft : turn.softReason? = some reason) : turn.result = .ok () := by
  unfold softReason? at soft
  split at soft
  · assumption
  · cases soft

/-! ## What a policy makes of a turn -/

/-- A warning is given of the soft failures under the policy to go on. -/
theorem warning?_goOn (turn : Turn) : turn.warning? .goOn = turn.softReason? := by
  simp only [warning?, softReason?]
  cases turn.result <;> rfl

theorem stop?_goOn_of_soft (soft : turn.softReason? = some reason) : turn.stop? .goOn = none := by
  simp [stop?, result_of_soft soft]

theorem stop?_abort_of_soft (soft : turn.softReason? = some reason) :
    turn.stop? .abort = some (.softFailure turn.step.nodeId turn.step.position reason) := by
  have ok := result_of_soft soft
  simp only [softReason?, ok] at soft
  simp [stop?, ok, soft]

/-- A turn that does not fail softly means the same to both policies. -/
theorem stop?_abort_of_not_soft (firm : turn.softReason? = none) :
    turn.stop? .abort = turn.stop? .goOn := by
  cases result : turn.result with
  | error failure => simp [stop?, result]
  | ok _ =>
      simp only [softReason?, result] at firm
      simp [stop?, result, firm]

theorem block_abort_of_not_soft (firm : turn.softReason? = none) :
    turn.block .abort = turn.block .goOn := by
  have warned : turn.warning? .abort = turn.warning? .goOn := by
    rw [warning?_goOn, firm]
    cases result : turn.result <;> simp [warning?, result]
  simp [block, stop?_abort_of_not_soft firm, warned]

/-- Where the policies part, the one warns and lets the step be completed. -/
theorem events_goOn_of_soft (soft : turn.softReason? = some reason) :
    (turn.block .goOn).events = (turn.block .goOn).opening ++
      [.noticed turn.step.nodeId turn.step.position
          (.warning ("Continuing after error: " ++ reason)),
        .nodeCompleted turn.step.nodeId turn.step.position turn.after.state.output] := by
  rw [Block.events, List.append_cancel_left_eq]
  simp [block, Block.verdict, Block.warnings, Block.closingEvent, warning?_goOn, soft,
    stop?_goOn_of_soft soft]

/-- The other one tells a failure, behind the same events. -/
theorem events_abort_of_soft (soft : turn.softReason? = some reason) :
    (turn.block .abort).events = (turn.block .goOn).opening ++
      [.nodeFailed turn.step.nodeId turn.step.position reason] := by
  have quiet : turn.warning? .abort = none := by simp [warning?, result_of_soft soft]
  have same : (turn.block .abort).opening = (turn.block .goOn).opening := rfl
  rw [Block.events, same, List.append_cancel_left_eq]
  simp [block, Block.verdict, Block.warnings, Block.closingEvent, quiet, stop?_abort_of_soft soft,
    RunError.cause]

/-- A run that goes on warns of a turn, for any reason, exactly if the turn fails softly. -/
theorem not_warned_iff :
    (∀ reason, .noticed turn.step.nodeId turn.step.position
        (.warning ("Continuing after error: " ++ reason)) ∉ (turn.block .goOn).verdict) ↔
      turn.softReason? = none := by
  rw [← warning?_goOn, Option.eq_none_iff_forall_ne_some]
  exact forall_congr' fun reason => not_congr Block.warning_mem_verdict_iff

end Turn

namespace Chain

variable {turns : List Turn}

/-! ## The executed turns -/

/-- Without a soft failure both policies execute the same turns. -/
theorem executed_abort_of_firm
    (firm : ∀ turn ∈ executed .goOn turns, turn.softReason? = none) :
    executed .abort turns = executed .goOn turns := by
  induction turns with
  | nil => rfl
  | cons turn rest ih =>
      have first : turn.softReason? = none := by
        apply firm
        simp only [executed]
        split <;> exact List.mem_cons_self
      simp only [executed, Turn.stop?_abort_of_not_soft first] at firm ⊢
      split
      · rfl
      · rename_i goes
        rw [if_neg goes] at firm
        rw [ih fun other member => firm other (List.mem_cons_of_mem turn member)]

/-- The first executed turns are the first turns. -/
theorem take_executed {policy : Policy} {i : Nat} (h : i ≤ (executed policy turns).length) :
    turns.take i = (executed policy turns).take i := by
  obtain ⟨later, whole⟩ := executed_prefix policy turns
  calc
    turns.take i = (executed policy turns ++ later).take i := by rw [whole]
    _ = (executed policy turns).take i := List.take_append_of_le_length h

/-- The run that aborts executes the turns of the other up to the first soft failure. -/
theorem executed_abort_of_soft {k : Nat} {turn : Turn} {reason : String}
    (here : (executed .goOn turns)[k]? = some turn) (soft : turn.softReason? = some reason)
    (first : ∀ i < k, ∀ earlier, (executed .goOn turns)[i]? = some earlier →
      earlier.softReason? = none) :
    executed .abort turns = (executed .goOn turns).take (k + 1) := by
  obtain ⟨hk, _⟩ := List.getElem?_eq_some_iff.mp here
  obtain ⟨inside, same⟩ := List.getElem?_eq_some_iff.mp (getElem?_of_executed here)
  have stops : turns[k].stop? .abort ≠ none := by
    rw [same, Turn.stop?_abort_of_soft soft]
    simp
  have goes : ∀ i (hi : i < k), turns[i].stop? .abort = none := by
    intro i hi
    have earlier := List.getElem?_eq_getElem (Nat.lt_trans hi hk)
    obtain ⟨_, same⟩ := List.getElem?_eq_some_iff.mp (getElem?_of_executed earlier)
    rw [same, Turn.stop?_abort_of_not_soft (first i hi _ earlier)]
    exact goes_of_executed earlier (by omega)
  rw [executed_of_stop inside stops goes, take_executed hk]

/-! ## Runs -/

theorem course_take (steps : List Step) (i : Nat) (state : State) (world : World) :
    course (steps.take i) state world = (course steps state world).take i := by
  induction steps generalizing i state world with
  | nil => simp [course]
  | cons step rest ih =>
      cases i with
      | zero => rfl
      | succ i => simp [course, ih]

/-- Steps run alike under both policies as long as no node fails softly. -/
theorem runSteps_abort_of_firm {steps : List Step} {state : State} {world : World}
    (firm : ∀ turn ∈ executed .goOn (course steps state world), turn.softReason? = none) :
    runSteps .abort steps state world = runSteps .goOn steps state world := by
  have same := executed_abort_of_firm firm
  have ends : ∀ turns : List Turn, (∀ turn ∈ turns, turn.softReason? = none) →
      ending .abort state turns = ending .goOn state turns := by
    intro turns firm
    cases found : turns.getLast? with
    | none => simp [ending, found]
    | some last =>
        have alike := Turn.stop?_abort_of_not_soft (firm last (List.mem_of_getLast? found))
        rw [ending_of_getLast? found, ending_of_getLast? found, alike]
  have tells : ∀ turn ∈ executed .goOn (course steps state world),
      (turn.block .abort).events = (turn.block .goOn).events :=
    fun turn member => congrArg Block.events (Turn.block_abort_of_not_soft (firm turn member))
  rw [runSteps_eq, runSteps_eq, same, ends _ firm, List.flatMap_congr tells]

/-- Steps in front of the first soft failure run alike under both policies. -/
theorem runSteps_take_abort {steps : List Step} {state : State} {world : World} {k : Nat}
    (inside : k ≤ (executed .goOn (course steps state world)).length)
    (first : ∀ i < k, ∀ earlier, (executed .goOn (course steps state world))[i]? = some earlier →
      earlier.softReason? = none) :
    runSteps .abort (steps.take k) state world = runSteps .goOn (steps.take k) state world := by
  apply runSteps_abort_of_firm
  intro turn member
  have begins := executed_prefix .goOn (course (steps.take k) state world)
  have among := begins.subset member
  rw [course_take, take_executed inside, List.mem_take_iff_getElem] at among
  obtain ⟨i, hi, rfl⟩ := among
  exact first i (by omega) _ (List.getElem?_eq_getElem _)

/-- Turns one of which fails softly have a first that does. -/
theorem exists_first_soft (h : ¬ ∀ turn ∈ turns, turn.softReason? = none) :
    ∃ (k : Nat) (turn : Turn) (reason : String), turns[k]? = some turn ∧
      turn.softReason? = some reason ∧
      ∀ i < k, ∀ earlier, turns[i]? = some earlier → earlier.softReason? = none := by
  induction turns with
  | nil => simp at h
  | cons head rest ih =>
      cases soft : head.softReason? with
      | some reason => exact ⟨0, head, reason, rfl, soft, fun i hi => by omega⟩
      | none =>
          obtain ⟨k, turn, reason, here, fails, first⟩ := ih fun firm =>
            h (List.forall_mem_cons.mpr ⟨soft, firm⟩)
          refine ⟨k + 1, turn, reason, here, fails, fun i hi earlier found => ?_⟩
          cases i with
          | zero =>
              cases found
              exact soft
          | succ i => exact first i (by omega) earlier found

/-- Without a soft failure the two runs of a chain are one. -/
theorem run_abort_of_firm {chain : Chain} {state : State} {world : World}
    (firm : ∀ turn ∈ chain.turns .goOn state world, turn.softReason? = none) :
    chain.run .abort state world = chain.run .goOn state world := by
  simp only [run, runSteps_abort_of_firm firm]

/-- At the first soft failure the run that aborts ends, and the other goes on behind a warning. -/
theorem run_abort_of_soft {chain : Chain} {state : State} {world : World} {k : Nat} {turn : Turn}
    {reason : String} (here : (chain.turns .goOn state world)[k]? = some turn)
    (soft : turn.softReason? = some reason)
    (first : ∀ i < k, ∀ earlier, (chain.turns .goOn state world)[i]? = some earlier →
      earlier.softReason? = none) :
    ∃ shared rest,
      shared = .runStarted state.workflowId chain.nodeIds
        :: ((chain.turns .goOn state world).take k).flatMap (fun turn => (turn.block .goOn).events)
          ++ (turn.block .goOn).opening ∧
      chain.run .abort state world =
        ⟨.error (.softFailure turn.step.nodeId turn.step.position reason), turn.after.world,
         shared ++ [.nodeFailed turn.step.nodeId turn.step.position reason, .runCompleted false]⟩ ∧
      (chain.run .goOn state world).events =
        shared ++ .noticed turn.step.nodeId turn.step.position
            (.warning ("Continuing after error: " ++ reason))
          :: .nodeCompleted turn.step.nodeId turn.step.position turn.after.state.output
          :: rest := by
  obtain ⟨hk, same⟩ := List.getElem?_eq_some_iff.mp here
  have aborts : chain.turns .abort state world =
      (chain.turns .goOn state world).take k ++ [turn] := by
    rw [← same, ← List.take_succ_eq_append_getElem hk]
    exact executed_abort_of_soft here soft first
  have last : (chain.turns .abort state world).getLast? = some turn := by simp [aborts]
  have tells : ∀ earlier ∈ (chain.turns .goOn state world).take k,
      (earlier.block .abort).events = (earlier.block .goOn).events := by
    intro earlier member
    obtain ⟨i, hi, rfl⟩ := List.mem_take_iff_getElem.mp member
    exact congrArg Block.events (Turn.block_abort_of_not_soft
      (first i (by omega) _ (List.getElem?_eq_getElem _)))
  have parts : chain.turns .goOn state world =
      (chain.turns .goOn state world).take k
        ++ turn :: (chain.turns .goOn state world).drop (k + 1) := by
    rw [← same, List.getElem_cons_drop, List.take_append_drop]
  refine ⟨_, ((chain.turns .goOn state world).drop (k + 1)).flatMap
    (fun turn => (turn.block .goOn).events)
      ++ [.runCompleted (chain.run .goOn state world).outcome.isOk], rfl, ?_, ?_⟩
  · rw [run_eq, ending_of_getLast? last, worldAfter_of_getLast? last, Turn.stop?_abort_of_soft soft,
      aborts]
    simp [List.flatMap_congr tells, Turn.events_abort_of_soft soft, Except.isOk, Except.toBool]
  · rw [run_eq]
    dsimp only
    rw [congrArg (List.flatMap fun turn => (turn.block .goOn).events) parts]
    simp [Turn.events_goOn_of_soft soft]

/-- The two runs of a chain from one state. They are the same run up to the end of the work of the
first node that fails softly; so the one that aborts succeeds exactly if the other succeeds without
a warning of its own, and it fails with a node's failure only where the other does. -/
theorem run_abort_run_goOn (chain : Chain) (state : State) (world : World) :
    let aborting := chain.run .abort state world
    let going := chain.run .goOn state world
    let turns := chain.turns .goOn state world
    going.events = .runStarted state.workflowId chain.nodeIds
      :: turns.flatMap (fun turn => (turn.block .goOn).opening ++ (turn.block .goOn).verdict)
        ++ [.runCompleted going.outcome.isOk] ∧
    (∀ turn ∈ turns, (turn.block .goOn).opening =
      .nodeStarted turn.step.nodeId turn.step.position
        :: turn.after.notices.map (.noticed turn.step.nodeId turn.step.position)) ∧
    ((∀ turn ∈ turns, turn.softReason? = none) → aborting = going) ∧
    (∀ (k : Nat) turn reason, turns[k]? = some turn → turn.softReason? = some reason →
      (∀ i < k, ∀ earlier, turns[i]? = some earlier → earlier.softReason? = none) →
      chain.turns .abort state world = turns.take (k + 1) ∧
      (∀ i ≤ k, runSteps .abort (chain.steps.take i) state world =
        runSteps .goOn (chain.steps.take i) state world) ∧
      ∃ shared rest,
        shared = .runStarted state.workflowId chain.nodeIds
          :: (turns.take k).flatMap (fun turn => (turn.block .goOn).events)
            ++ (turn.block .goOn).opening ∧
        aborting =
          ⟨.error (.softFailure turn.step.nodeId turn.step.position reason), turn.after.world,
           shared ++ [.nodeFailed turn.step.nodeId turn.step.position reason,
             .runCompleted false]⟩ ∧
        going.events =
          shared ++ .noticed turn.step.nodeId turn.step.position
              (.warning ("Continuing after error: " ++ reason))
            :: .nodeCompleted turn.step.nodeId turn.step.position turn.after.state.output
            :: rest) ∧
    (aborting.outcome.isOk = true ↔
      going.outcome.isOk = true ∧ ∀ turn ∈ turns, ∀ reason,
        .noticed turn.step.nodeId turn.step.position
          (.warning ("Continuing after error: " ++ reason)) ∉ (turn.block .goOn).verdict) ∧
    (aborting.outcome.isOk = true → aborting = going) ∧
    ∀ nodeId position failure,
      aborting.outcome = .error (.nodeFailed nodeId position failure) →
        going.outcome = .error (.nodeFailed nodeId position failure) := by
  intro aborting going turns
  -- either the runs never part, or there is a first soft failure and the run that aborts ends there
  have parts : aborting = going ∧ (∀ turn ∈ turns, turn.softReason? = none) ∨
      (¬ ∀ turn ∈ turns, turn.softReason? = none) ∧
        ∃ nodeId position reason,
          aborting.outcome = .error (.softFailure nodeId position reason) := by
    by_cases firm : ∀ turn ∈ turns, turn.softReason? = none
    · exact .inl ⟨run_abort_of_firm firm, firm⟩
    · obtain ⟨k, turn, reason, here, soft, first⟩ := exists_first_soft firm
      obtain ⟨_, _, _, aborts, _⟩ := run_abort_of_soft here soft first
      exact .inr ⟨firm, _, _, reason, congrArg Progress.outcome aborts⟩
  refine ⟨?_, fun _ _ => rfl, run_abort_of_firm, ?_, ?_, ?_, ?_⟩
  · simp only [going, run_eq]
    rfl
  · intro k turn reason here soft first
    refine ⟨executed_abort_of_soft here soft first, fun i hi => ?_,
      run_abort_of_soft here soft first⟩
    have hk := (List.getElem?_eq_some_iff.mp here).1
    exact runSteps_take_abort (Nat.le_trans hi (Nat.le_of_lt hk))
      fun j hj => first j (Nat.lt_of_lt_of_le hj hi)
  · rcases parts with ⟨same, firm⟩ | ⟨soft, _, _, _, aborts⟩
    · rw [same]
      simp only [Turn.not_warned_iff]
      exact ⟨fun ok => ⟨ok, firm⟩, And.left⟩
    · rw [aborts]
      simp only [Turn.not_warned_iff]
      exact ⟨nofun, fun ⟨_, firm⟩ => absurd firm soft⟩
  · rcases parts with ⟨same, _⟩ | ⟨_, _, _, _, aborts⟩
    · exact fun _ => same
    · rw [aborts]
      exact nofun
  · intro nodeId position failure failed
    rcases parts with ⟨same, _⟩ | ⟨_, _, _, _, aborts⟩
    · rw [← same, failed]
    · rw [aborts] at failed
      cases failed

/-- A writer, a node that fails softly and a writer again: the first step runs alike under both
policies, and they part at the end of the second, where the run that goes on warns. -/
theorem run_abort_run_goOn_flaky :
    ∃ chain, Registry.rehearsal.build ["writer", "flaky", "writer"] [] = .ok chain ∧
      let state : State := { userQuery := "" }
      let aborting := chain.run .abort state default
      let going := chain.run .goOn state default
      runSteps .abort (chain.steps.take 1) state default =
        runSteps .goOn (chain.steps.take 1) state default ∧
      aborting.outcome.isOk = false ∧ going.outcome.isOk = true ∧
      (∃ turn ∈ chain.turns .goOn state default, ∃ reason,
        .noticed turn.step.nodeId turn.step.position
          (.warning ("Continuing after error: " ++ reason)) ∈ (turn.block .goOn).verdict) ∧
      ∃ shared rest,
        aborting.events = shared ++ [.nodeFailed "flaky" 1 "quota exceeded", .runCompleted false] ∧
        going.events =
          shared ++ .noticed "flaky" 1 (.warning "Continuing after error: quota exceeded")
            :: .nodeCompleted "flaky" 1 (some (.string "failed")) :: rest := by
  have built : Registry.rehearsal.build ["writer", "flaky", "writer"] [] =
      .ok ⟨Registry.rehearsal.stepsFrom [] 0 ["writer", "flaky", "writer"]⟩ := rfl
  refine ⟨_, built, ?_⟩
  intro state aborting going
  obtain ⟨_, _, _, soft, succeeds, _⟩ := run_abort_run_goOn
    ⟨Registry.rehearsal.stepsFrom [] 0 ["writer", "flaky", "writer"]⟩ state default
  obtain ⟨_, alike, shared, rest, _, aborts, goes⟩ := soft 1 _ "quota exceeded" rfl rfl
    fun i hi earlier found => by
      obtain rfl : i = 0 := by omega
      cases found
      rfl
  have ok : going.outcome.isOk = true := rfl
  have failed : aborting.outcome.isOk = false := rfl
  refine ⟨alike 1 (Nat.le_refl 1), failed, ok, ?_, shared, rest,
    congrArg Progress.events aborts, goes⟩
  -- the one succeeds and the other does not, so there has been a warning
  by_contra quiet
  push Not at quiet
  rw [succeeds.mpr ⟨ok, quiet⟩] at failed
  cases failed

end Chain

end Workflow
