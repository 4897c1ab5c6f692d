import Vex.Library.Programs
import Vex.Library.Runs

/-!
# Programs that share a store

Several threads run programs over one store. A thread is started by reading the store:
what it read is its context, and its program is the program of that context. Afterwards
one call of one thread at a time is performed on the store, in any order, with an oracle
for what the store does not decide; between the calls anything may happen to the store.

A monitor that every program meets turns the threads into a protocol: all that is kept of
a thread is its context and the stage of its monitor (`View`), and a call moves the stage
as the monitor says (`Moves`). `step_moves` says that every step of the threads is a move
of the protocol, so what the moves preserve holds in every state the threads reach
(`run_invariant`), whatever the interleaving.
-/

namespace Vex.Library

namespace Program

variable {Call : Type} {Answer : Call → Type} {σ ε α μ : Type}

/-! ## The next call of a program -/

/-- What a program does next: it is done, or it performs a call. -/
inductive Next (Call : Type) (Answer : Call → Type) (σ ε α : Type) where
  | done (result : Except ε α)
  | call (c : Call) (rest : Except ε (Answer c) → Program Call Answer σ ε α) (locals : σ)

/-- The next call of a program. -/
def next : Program Call Answer σ ε α → σ → Next Call Answer σ ε α
  | .done result, _ => .done result
  | .read rest, locals => (rest locals).next locals
  | .write locals rest, _ => rest.next locals
  | .call c rest, locals => .call c rest locals

theorem wp_next {observe : μ → Event Answer ε → Option μ} {post : Except ε α → σ → μ → Prop}
    {program : Program Call Answer σ ε α} {locals locals' : σ} {m : μ} {c : Call}
    {rest : Except ε (Answer c) → Program Call Answer σ ε α}
    (holds : program.wp observe post locals m) (calls : program.next locals = .call c rest locals')
    (answer : Except ε (Answer c)) :
    ∃ m', observe m ⟨c, answer⟩ = some m' ∧ (rest answer).wp observe post locals' m' := by
  induction program generalizing locals with
  | done result => cases calls
  | read rest ih => exact ih locals holds calls
  | write s rest ih => exact ih holds calls
  | call c rest ih =>
    cases calls
    exact holds answer

end Program

namespace Interleaving

variable {Store Oracle Op Context Call : Type} {Answer : Call → Type} {σ ε α μ : Type}

/-! ## Threads over a store -/

/-- The programs and what their calls do to the store. -/
structure Semantics (Store Oracle Op Context Call : Type) (Answer : Call → Type)
    (σ ε α : Type) where
  read : Store → Context
  program : Context → Program Call Answer σ ε α
  locals : σ
  perform : Store → Oracle → (c : Call) → Store × Except ε (Answer c)
  other : Store → Op → Store

/-- A thread: what it read, the rest of its program, and the calls it has performed. -/
structure Thread (Context Call : Type) (Answer : Call → Type) (σ ε α : Type) where
  context : Context
  program : Program Call Answer σ ε α
  locals : σ
  events : List (Program.Event Answer ε)

/-- The store and the threads over it. -/
structure State (Store Context Call : Type) (Answer : Call → Type) (σ ε α : Type) where
  store : Store
  threads : Nat → Option (Thread Context Call Answer σ ε α)

/-- What can happen. -/
inductive Act (Oracle Op : Type) where
  | start (id : Nat)
  | resume (id : Nat) (oracle : Oracle)
  | other (op : Op)

variable (sem : Semantics Store Oracle Op Context Call Answer σ ε α)

/-- The thread that starts on a store. -/
def Semantics.opened (store : Store) : Thread Context Call Answer σ ε α :=
  ⟨sem.read store, sem.program (sem.read store), sem.locals, []⟩

/-- One call of a thread. -/
def resumed (s : State Store Context Call Answer σ ε α) (id : Nat) (oracle : Oracle)
    (thread : Thread Context Call Answer σ ε α) : State Store Context Call Answer σ ε α :=
  match thread.program.next thread.locals with
  | .done _ => s
  | .call c rest locals =>
    let performed := sem.perform s.store oracle c
    { store := performed.1
      threads := Function.update s.threads id (some ⟨thread.context, rest performed.2, locals,
        thread.events ++ [⟨c, performed.2⟩]⟩) }

def step (s : State Store Context Call Answer σ ε α) :
    Act Oracle Op → State Store Context Call Answer σ ε α
  | .start id =>
    match s.threads id with
    | some _ => s
    | none => { s with threads := Function.update s.threads id (some (sem.opened s.store)) }
  | .resume id oracle =>
    match s.threads id with
    | none => s
    | some thread => resumed sem s id oracle thread
  | .other op => { s with store := sem.other s.store op }

/-! ## The protocol of the stages -/

variable (observe : Context → μ → Program.Event Answer ε → Option μ) (first : μ)

/-- The store, and of each thread its context and its stage. -/
structure View (Store Context μ : Type) where
  store : Store
  stages : Nat → Option (Context × μ)

def stage (thread : Thread Context Call Answer σ ε α) : Option μ :=
  Program.accept (observe thread.context) first thread.events

/-- What is kept of a state. -/
def view (s : State Store Context Call Answer σ ε α) : View Store Context μ where
  store := s.store
  stages id := (s.threads id).bind fun thread =>
    (stage observe first thread).map (thread.context, ·)

inductive Moves : View Store Context μ → Act Oracle Op → View Store Context μ → Prop
  | idle (v : View Store Context μ) (act : Act Oracle Op) : Moves v act v
  | start (v : View Store Context μ) (id : Nat) (fresh : v.stages id = none) :
      Moves v (.start id)
        { v with stages := Function.update v.stages id (some (sem.read v.store, first)) }
  | resume (v : View Store Context μ) (id : Nat) (oracle : Oracle) {context : Context} {m m' : μ}
      (runs : v.stages id = some (context, m)) (c : Call)
      (seen : observe context m ⟨c, (sem.perform v.store oracle c).2⟩ = some m') :
      Moves v (.resume id oracle)
        { store := (sem.perform v.store oracle c).1
          stages := Function.update v.stages id (some (context, m')) }
  | other (v : View Store Context μ) (op : Op) :
      Moves v (.other op) { v with store := sem.other v.store op }

/-- The rest of the program meets the monitor at the thread's stage. -/
def Tracked (thread : Thread Context Call Answer σ ε α) : Prop :=
  ∃ m, stage observe first thread = some m ∧
    thread.program.wp (observe thread.context) (fun _ _ _ => True) thread.locals m

def AllTracked (s : State Store Context Call Answer σ ε α) : Prop :=
  ∀ id thread, s.threads id = some thread → Tracked observe first thread

section Refinement

variable {sem observe first}
variable (meets : ∀ context, (sem.program context).wp (observe context) (fun _ _ _ => True)
  sem.locals first)

include meets in
theorem tracked_opened (store : Store) : Tracked observe first (sem.opened store) :=
  ⟨first, rfl, meets _⟩

variable {s : State Store Context Call Answer σ ε α} {id : Nat} {store : Store}
  {thread : Thread Context Call Answer σ ε α}

theorem allTracked_update (tracked : AllTracked observe first s)
    (also : Tracked observe first thread) :
    AllTracked observe first ⟨store, Function.update s.threads id (some thread)⟩ := by
  intro other thread' runs
  change Function.update s.threads id (some thread) other = some thread' at runs
  by_cases same : other = id
  · subst same
    rw [Function.update_self] at runs
    obtain rfl := Option.some.inj runs
    exact also
  · rw [Function.update_of_ne same] at runs
    exact tracked other thread' runs

theorem stage_append {m m' : μ} {event : Program.Event Answer ε}
    (program : Program Call Answer σ ε α) (locals : σ) (at_ : stage observe first thread = some m)
    (seen : observe thread.context m event = some m') :
    stage observe first (⟨thread.context, program, locals, thread.events ++ [event]⟩ :
      Thread Context Call Answer σ ε α) = some m' := by
  refine (Program.accept_append _).2 ⟨m, at_, ?_⟩
  rw [Program.accept, seen]
  rfl

theorem view_update (thread : Thread Context Call Answer σ ε α) {m : μ}
    (at_ : stage observe first thread = some m) :
    view observe first ⟨store, Function.update s.threads id (some thread)⟩ =
      ⟨store, Function.update (view observe first s).stages id (some (thread.context, m))⟩ := by
  simp only [view, View.mk.injEq, true_and]
  funext other
  by_cases same : other = id
  · subst same
    simp [at_]
  · simp [Function.update_of_ne same]

include meets in
theorem step_moves (tracked : AllTracked observe first s) (act : Act Oracle Op) :
    AllTracked observe first (step sem s act) ∧
      Moves sem observe first (view observe first s) act (view observe first (step sem s act)) := by
  cases act with
  | start id =>
    cases runs : s.threads id with
    | some thread =>
      simp only [step, runs]
      exact ⟨tracked, .idle _ _⟩
    | none =>
      simp only [step, runs]
      refine ⟨allTracked_update tracked (tracked_opened meets s.store), ?_⟩
      rw [view_update (sem.opened s.store) rfl]
      exact .start _ id (by simp [view, runs])
  | other op => exact ⟨tracked, .other _ op⟩
  | resume id oracle =>
    cases runs : s.threads id with
    | none =>
      simp only [step, runs]
      exact ⟨tracked, .idle _ _⟩
    | some thread =>
      simp only [step, runs, resumed]
      split
      · exact ⟨tracked, .idle _ _⟩
      · rename_i c rest locals calls
        obtain ⟨m, at_, holds⟩ := tracked id thread runs
        obtain ⟨m', seen, onward⟩ :=
          Program.wp_next holds calls (sem.perform s.store oracle c).2
        have next := stage_append (rest (sem.perform s.store oracle c).2) locals at_ seen
        refine ⟨allTracked_update tracked ⟨m', next, onward⟩, ?_⟩
        rw [view_update _ next]
        exact .resume (view observe first s) id oracle (by simp [view, runs, at_]) c seen

end Refinement

end Interleaving

end Vex.Library
