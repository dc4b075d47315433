import VoucherProxy.Foundation.Program

namespace VoucherProxy

/-! Threads sharing one state. Each thread is a program; a turn lets one thread
perform its next effect, starts a thread, or makes a move of the outside. A run
is a list of turns, so every interleaving is some run, and a thread that is
never given another turn has been dropped where it stands. -/

/-- How effects and outside moves act on the shared state. `Input` is whatever
the world contributes to an answer: a clock reading, a reply. -/
structure Machine (Effect : Type) (Answer : Effect → Type) (State Input Move : Type) where
  exec : (effect : Effect) → Input → State → Answer effect × State
  move : Move → State → State

inductive Occurrence (Effect : Type) (Answer : Effect → Type) (Move : Type)
  | event (thread : Nat) (event : Event Effect Answer)
  | move (move : Move)

inductive Turn (Effect : Type) (Answer : Effect → Type) (Input Move α : Type)
  | spawn (program : Program Effect Answer α)
  | advance (thread : Nat) (input : Input)
  | move (move : Move)

structure Thread (Effect : Type) (Answer : Effect → Type) (α : Type) where
  started : Program Effect Answer α
  rest : Program Effect Answer α

structure Pool (Effect : Type) (Answer : Effect → Type) (State Move α : Type) where
  state : State
  threads : List (Thread Effect Answer α)
  log : List (Occurrence Effect Answer Move)

namespace Pool

variable {Effect : Type} {Answer : Effect → Type} {State Input Move α : Type}

def start (state : State) : Pool Effect Answer State Move α := ⟨state, [], []⟩

/-- The events of one thread, in the order they happened. -/
def eventsOf (thread : Nat) (log : List (Occurrence Effect Answer Move)) :
    List (Event Effect Answer) :=
  log.filterMap fun
    | .event owner event => if owner = thread then some event else none
    | .move _ => none

@[simp] theorem eventsOf_nil (thread : Nat) :
    eventsOf thread ([] : List (Occurrence Effect Answer Move)) = [] := rfl

@[simp] theorem eventsOf_append (thread : Nat)
    (left right : List (Occurrence Effect Answer Move)) :
    eventsOf thread (left ++ right) = eventsOf thread left ++ eventsOf thread right := by
  simp [eventsOf]

@[simp] theorem eventsOf_event (thread owner : Nat) (event : Event Effect Answer) :
    eventsOf thread [(.event owner event : Occurrence Effect Answer Move)] =
      if owner = thread then [event] else [] := by
  by_cases own : owner = thread <;> simp [eventsOf, own]

@[simp] theorem eventsOf_move (thread : Nat) (move : Move) :
    eventsOf thread [(.move move : Occurrence Effect Answer Move)] = [] := rfl

variable (machine : Machine Effect Answer State Input Move)

def turn (pool : Pool Effect Answer State Move α) :
    Turn Effect Answer Input Move α → Pool Effect Answer State Move α
  | .spawn program => { pool with threads := pool.threads ++ [⟨program, program⟩] }
  | .advance thread input =>
      match pool.threads[thread]? with
      | some ⟨started, .perform effect next⟩ =>
          let outcome := machine.exec effect input pool.state
          { state := outcome.2
            threads := pool.threads.set thread ⟨started, next outcome.1⟩
            log := pool.log ++ [.event thread ⟨effect, outcome.1⟩] }
      | _ => pool
  | .move move =>
      { pool with state := machine.move move pool.state, log := pool.log ++ [.move move] }

def run (pool : Pool Effect Answer State Move α)
    (turns : List (Turn Effect Answer Input Move α)) : Pool Effect Answer State Move α :=
  turns.foldl (turn machine) pool

@[simp] theorem run_nil (pool : Pool Effect Answer State Move α) :
    run machine pool [] = pool := rfl

@[simp] theorem run_cons (pool : Pool Effect Answer State Move α)
    (first : Turn Effect Answer Input Move α) (turns) :
    run machine pool (first :: turns) = run machine (turn machine pool first) turns := rfl

theorem run_append (pool : Pool Effect Answer State Move α)
    (early late : List (Turn Effect Answer Input Move α)) :
    run machine pool (early ++ late) = run machine (run machine pool early) late :=
  List.foldl_append

/-- What one turn can do: start a thread, let a thread perform its next effect,
make a move, or nothing. -/
theorem turn_cases (pool : Pool Effect Answer State Move α)
    (move : Turn Effect Answer Input Move α) :
    turn machine pool move = pool ∨
    (∃ program, move = .spawn program ∧ turn machine pool move =
      { pool with threads := pool.threads ++ [⟨program, program⟩] }) ∨
    (∃ thread input started effect next, move = .advance thread input ∧
      pool.threads[thread]? = some ⟨started, .perform effect next⟩ ∧
      turn machine pool move =
        { state := (machine.exec effect input pool.state).2
          threads := pool.threads.set thread
            ⟨started, next (machine.exec effect input pool.state).1⟩
          log := pool.log ++
            [.event thread ⟨effect, (machine.exec effect input pool.state).1⟩] }) ∨
    (∃ made, move = .move made ∧ turn machine pool move =
      { pool with
        state := machine.move made pool.state
        log := pool.log ++ [.move made] }) := by
  cases move with
  | spawn program => exact .inr (.inl ⟨program, rfl, rfl⟩)
  | move made => exact .inr (.inr (.inr ⟨made, rfl, rfl⟩))
  | advance thread input =>
      cases found : pool.threads[thread]? with
      | none => exact .inl (by simp [turn, found])
      | some current =>
          rcases current with ⟨started, rest⟩
          cases rest with
          | pure value => exact .inl (by simp [turn, found])
          | perform effect next =>
              exact .inr (.inr (.inl
                ⟨thread, input, started, effect, next, rfl, found, by simp [turn, found]⟩))

variable {machine}

/-- A property of pools that every turn keeps holds after every run. -/
theorem run_induction {holds : Pool Effect Answer State Move α → Prop}
    {allowed : Turn Effect Answer Input Move α → Prop}
    (keeps : ∀ pool move, allowed move → holds pool → holds (turn machine pool move))
    {pool : Pool Effect Answer State Move α} (initial : holds pool)
    {turns : List (Turn Effect Answer Input Move α)}
    (permitted : ∀ move ∈ turns, allowed move) : holds (run machine pool turns) := by
  induction turns generalizing pool with
  | nil => exact initial
  | cons first turns induction =>
      exact induction (keeps pool first (permitted first (by simp)) initial)
        fun move member => permitted move (by simp [member])

/-! ## Every thread follows its program -/

/-- The log shows each thread performing a trace of the program it was started
with, and nothing of threads that do not exist yet. -/
def Follows (pool : Pool Effect Answer State Move α) : Prop :=
  (∀ index (thread : Thread Effect Answer α), pool.threads[index]? = some thread →
    thread.started.Trace (eventsOf index pool.log) thread.rest) ∧
  ∀ index, pool.threads.length ≤ index → eventsOf index pool.log = []

theorem start_follows (state : State) :
    (start state : Pool Effect Answer State Move α).Follows :=
  ⟨by simp [start], by simp [start]⟩

theorem Follows.turn {pool : Pool Effect Answer State Move α} (follows : pool.Follows)
    (move : Turn Effect Answer Input Move α) : (turn machine pool move).Follows := by
  rcases turn_cases machine pool move with same | ⟨program, -, spawned⟩ |
    ⟨thread, input, started, effect, next, -, found, advanced⟩ | ⟨made, -, moved⟩
  · rw [same]
    exact follows
  · rw [spawned]
    refine ⟨?_, ?_⟩
    · intro index thread present
      rcases Nat.lt_or_ge index pool.threads.length with old | new
      · rw [List.getElem?_append_left old] at present
        exact follows.1 index thread present
      · rw [List.getElem?_append_right new] at present
        have only : index - pool.threads.length = 0 := by
          by_contra positive
          simp [positive] at present
        simp only [only, List.getElem?_cons_zero, Option.some.injEq] at present
        subst present
        rw [follows.2 index new]
        exact .nil _
    · intro index beyond
      exact follows.2 index (by simp at beyond; omega)
  · rw [advanced]
    have within : thread < pool.threads.length := (List.getElem?_eq_some_iff.mp found).1
    refine ⟨?_, ?_⟩
    · intro index current present
      by_cases own : thread = index
      · subst own
        rw [List.getElem?_set_self within] at present
        cases present
        simpa using (follows.1 thread _ found).snoc _
      · rw [List.getElem?_set_ne own] at present
        simpa [own] using follows.1 index current present
    · intro index beyond
      have notOwn : thread ≠ index := by
        intro same
        simp at beyond
        omega
      simpa [notOwn] using follows.2 index (by simpa using beyond)
  · rw [moved]
    exact ⟨by simpa using follows.1, by simpa using follows.2⟩

theorem run_follows (state : State) (turns : List (Turn Effect Answer Input Move α)) :
    (run machine (start state) turns).Follows :=
  run_induction (fun _ move _ follows => follows.turn move) (start_follows state)
    (fun _ _ => trivial)

/-! ## Which program a thread runs -/

/-- The program a turn starts a thread with. -/
def spawned? : Turn Effect Answer Input Move α → Option (Program Effect Answer α)
  | .spawn program => some program
  | _ => none

theorem turn_started (machine : Machine Effect Answer State Input Move)
    (pool : Pool Effect Answer State Move α)
    (move : Turn Effect Answer Input Move α) :
    (turn machine pool move).threads.map (·.started) =
      pool.threads.map (·.started) ++ (spawned? move).toList := by
  cases move with
  | spawn program => simp [turn, spawned?]
  | move made => simp [turn, spawned?]
  | advance thread input =>
      simp only [turn, spawned?, Option.toList_none, List.append_nil]
      split
      · next started effect next found =>
          rcases List.getElem?_eq_some_iff.mp found with ⟨within, current⟩
          have bound : thread < (pool.threads.map (·.started)).length := by simpa using within
          have same : (pool.threads.map (·.started))[thread] = started := by simp [current]
          rw [List.map_set, ← same, List.set_getElem_self]
      · rfl

/-- Threads are numbered in the order in which they were started. -/
theorem run_started (machine : Machine Effect Answer State Input Move)
    (pool : Pool Effect Answer State Move α)
    (turns : List (Turn Effect Answer Input Move α)) :
    (run machine pool turns).threads.map (·.started) =
      pool.threads.map (·.started) ++ turns.filterMap spawned? := by
  induction turns generalizing pool with
  | nil => simp
  | cons first turns induction =>
      rw [run_cons, induction, turn_started, List.append_assoc]
      cases started : spawned? first <;> simp [started]

/-- The thread of an index runs the program that was started as number `index`. -/
theorem thread_of_spawned (machine : Machine Effect Answer State Input Move) (state : State)
    {turns : List (Turn Effect Answer Input Move α)} {index : Nat}
    {program : Program Effect Answer α}
    (started : (turns.filterMap spawned?)[index]? = some program) :
    ∃ rest, (run machine (start state) turns).threads[index]? = some ⟨program, rest⟩ := by
  have programs := congrArg (fun programs => programs[index]?)
    (run_started machine (start state) turns)
  simp only [start, List.map_nil, List.nil_append, List.getElem?_map, started] at programs
  rcases Option.map_eq_some_iff.mp programs with ⟨⟨_, rest⟩, found, rfl⟩
  exact ⟨rest, found⟩

/-! ## Which moves were made -/

/-- The moves of a log, in the order they were made. -/
def moves (log : List (Occurrence Effect Answer Move)) : List Move :=
  log.filterMap fun
    | .event _ _ => none
    | .move made => some made

@[simp] theorem moves_nil : moves ([] : List (Occurrence Effect Answer Move)) = [] := rfl

@[simp] theorem moves_append (left right : List (Occurrence Effect Answer Move)) :
    moves (left ++ right) = moves left ++ moves right := by
  simp [moves]

@[simp] theorem moves_event (thread : Nat) (event : Event Effect Answer) :
    moves [(.event thread event : Occurrence Effect Answer Move)] = [] := rfl

@[simp] theorem moves_move (made : Move) :
    moves [(.move made : Occurrence Effect Answer Move)] = [made] := rfl

/-- The move a turn makes. -/
def made? : Turn Effect Answer Input Move α → Option Move
  | .move made => some made
  | _ => none

theorem turn_moves (machine : Machine Effect Answer State Input Move)
    (pool : Pool Effect Answer State Move α) (move : Turn Effect Answer Input Move α) :
    moves (turn machine pool move).log = moves pool.log ++ (made? move).toList := by
  cases move with
  | spawn program => simp [turn, made?]
  | move made => simp [turn, made?]
  | advance thread input =>
      simp only [turn, made?, Option.toList_none, List.append_nil]
      split <;> simp

theorem run_moves (machine : Machine Effect Answer State Input Move)
    (pool : Pool Effect Answer State Move α)
    (turns : List (Turn Effect Answer Input Move α)) :
    moves (run machine pool turns).log = moves pool.log ++ turns.filterMap made? := by
  induction turns generalizing pool with
  | nil => simp
  | cons first turns induction =>
      rw [run_cons, induction, turn_moves, List.append_assoc]
      cases made : made? first <;> simp [made]

theorem mem_eventsOf {thread : Nat} {event : Event Effect Answer}
    {log : List (Occurrence Effect Answer Move)} :
    event ∈ eventsOf thread log ↔ .event thread event ∈ log := by
  constructor
  · intro member
    rcases List.mem_filterMap.mp member with ⟨occurrence, present, selected⟩
    cases occurrence with
    | event owner logged =>
        by_cases own : owner = thread
        · simp only [own, if_true, Option.some.injEq] at selected
          rw [← own, ← selected]
          exact present
        · simp [own] at selected
    | move made => simp at selected
  · intro present
    exact List.mem_filterMap.mpr ⟨_, present, by simp⟩

/-! ## Pools that their threads cannot tell apart -/

/-- The same threads with the same events, in states that are the same for them. -/
structure Twins (same : State → State → Prop) (pool other : Pool Effect Answer State Move α) :
    Prop where
  state : same pool.state other.state
  threads : pool.threads = other.threads
  events : ∀ thread, eventsOf thread pool.log = eventsOf thread other.log

theorem Twins.turn {same : State → State → Prop}
    (execs : ∀ effect input state twin, same state twin →
      (machine.exec effect input state).1 = (machine.exec effect input twin).1 ∧
        same (machine.exec effect input state).2 (machine.exec effect input twin).2)
    (moves : ∀ made state twin, same state twin →
      same (machine.move made state) (machine.move made twin))
    {pool other : Pool Effect Answer State Move α} (twins : Twins same pool other)
    (move : Turn Effect Answer Input Move α) :
    Twins same (Pool.turn machine pool move) (Pool.turn machine other move) := by
  rcases pool with ⟨state, threads, log⟩
  rcases other with ⟨twin, otherThreads, otherLog⟩
  rcases twins with ⟨states, sameThreads, events⟩
  subst sameThreads
  cases move with
  | spawn program => exact ⟨states, rfl, events⟩
  | move made =>
      refine ⟨moves made state twin states, rfl, fun thread => ?_⟩
      simpa [Pool.turn] using events thread
  | advance thread input =>
      cases found : threads[thread]? with
      | none =>
          simp only [Pool.turn, found]
          exact ⟨states, rfl, events⟩
      | some current =>
          rcases current with ⟨started, rest⟩
          cases rest with
          | pure value =>
              simp only [Pool.turn, found]
              exact ⟨states, rfl, events⟩
          | perform effect next =>
              rcases execs effect input state twin states with ⟨answer, kept⟩
              simp only [Pool.turn, found, ← answer]
              refine ⟨kept, rfl, fun owner => ?_⟩
              rw [eventsOf_append, eventsOf_append, events owner]

theorem Twins.run {same : State → State → Prop}
    (execs : ∀ effect input state twin, same state twin →
      (machine.exec effect input state).1 = (machine.exec effect input twin).1 ∧
        same (machine.exec effect input state).2 (machine.exec effect input twin).2)
    (moves : ∀ made state twin, same state twin →
      same (machine.move made state) (machine.move made twin))
    {pool other : Pool Effect Answer State Move α} (twins : Twins same pool other)
    (turns : List (Turn Effect Answer Input Move α)) :
    Twins same (Pool.run machine pool turns) (Pool.run machine other turns) := by
  induction turns generalizing pool other with
  | nil => exact twins
  | cons first turns induction => exact induction (twins.turn execs moves first)

end Pool

end VoucherProxy
