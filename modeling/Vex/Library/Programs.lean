import Mathlib.Data.List.Forall2

/-!
# Programs that call their surroundings

A program with local variables that performs calls one after the other is a
tree: it is done, it reads or writes its variables, or it performs a call and
goes on with the answer. The answer to every call may be a failure, which is
thrown where the call stands; throwing and catching leave the variables as they
are.

What such a program does is the list of its calls with their answers. The answers
are arbitrary, so a statement about every emitted list holds for every pattern of
failures, and every front of an emitted list is emitted.

A safety property of the calls is a *monitor*, a machine with no next state at a
forbidden event. `wp` is the weakest precondition of a program for a monitor, with
one rule for each way of building a program; `accepted_of_wp` says that it is sound,
and `wp_aside` passes over parts whose calls the monitor ignores.
-/

namespace Vex.Library

/-- A program with variables in `σ`, calls in `Call`, failures in `ε`. -/
inductive Program (Call : Type) (Answer : Call → Type) (σ ε α : Type) where
  | done (result : Except ε α)
  | read (next : σ → Program Call Answer σ ε α)
  | write (state : σ) (next : Program Call Answer σ ε α)
  | call (c : Call) (next : Except ε (Answer c) → Program Call Answer σ ε α)

namespace Program

variable {Call : Type} {Answer : Call → Type} {σ ε α β : Type}

/-! ## Building programs -/

/-- What comes after a program that returns. -/
def andThen : Program Call Answer σ ε α → (α → Program Call Answer σ ε β) →
    Program Call Answer σ ε β
  | .done (.ok value), next => next value
  | .done (.error failure), _ => .done (.error failure)
  | .read rest, next => .read fun s => (rest s).andThen next
  | .write s rest, next => .write s (rest.andThen next)
  | .call c rest, next => .call c fun answer => (rest answer).andThen next

/-- What comes after a program however it ends. -/
def settle : Program Call Answer σ ε α → (Except ε α → Program Call Answer σ ε β) →
    Program Call Answer σ ε β
  | .done result, next => next result
  | .read rest, next => .read fun s => (rest s).settle next
  | .write s rest, next => .write s (rest.settle next)
  | .call c rest, next => .call c fun answer => (rest answer).settle next

instance : Monad (Program Call Answer σ ε) where
  pure value := .done (.ok value)
  bind := andThen

instance : MonadExceptOf ε (Program Call Answer σ ε) where
  throw failure := .done (.error failure)
  tryCatch program handler := program.settle fun
    | .ok value => .done (.ok value)
    | .error failure => handler failure

def perform (c : Call) : Program Call Answer σ ε (Answer c) := .call c .done

def current : Program Call Answer σ ε σ := .read fun s => .done (.ok s)

def assign (update : σ → σ) : Program Call Answer σ ε Unit :=
  .read fun s => .write (update s) (.done (.ok ()))

/-- A program whose failure is handed on as a value. -/
def attempt (program : Program Call Answer σ ε α) : Program Call Answer σ ε (Except ε α) :=
  program.settle fun result => .done (.ok result)

/-- Two programs that are both started; the first failure is thrown when both have ended. -/
def both (first : Program Call Answer σ ε α) (second : Program Call Answer σ ε β) :
    Program Call Answer σ ε (α × β) :=
  first.settle fun one => second.settle fun two => .done (do return (← one, ← two))

/-! ## What a program does -/

/-- A call with its answer. -/
abbrev Event (Answer : Call → Type) (ε : Type) := (c : Call) × Except ε (Answer c)

/-- The calls a program has performed, up to some point of one of its runs. -/
inductive Emits : Program Call Answer σ ε α → σ → List (Event Answer ε) → Prop
  | here (program : Program Call Answer σ ε α) (s : σ) : Emits program s []
  | read {next : σ → Program Call Answer σ ε α} {s : σ} {events : List (Event Answer ε)}
      (rest : Emits (next s) s events) : Emits (.read next) s events
  | write {next : Program Call Answer σ ε α} {s s' : σ} {events : List (Event Answer ε)}
      (rest : Emits next s' events) : Emits (.write s' next) s events
  | call {c : Call} {next : Except ε (Answer c) → Program Call Answer σ ε α} {s : σ}
      {events : List (Event Answer ε)} (answer : Except ε (Answer c))
      (rest : Emits (next answer) s events) : Emits (.call c next) s (⟨c, answer⟩ :: events)

/-- The run in which every call is answered alike whenever it is performed. -/
def trace (answer : (c : Call) → Except ε (Answer c)) :
    Program Call Answer σ ε α → σ → List (Event Answer ε)
  | .done _, _ => []
  | .read next, s => (next s).trace answer s
  | .write s rest, _ => rest.trace answer s
  | .call c next, s => ⟨c, answer c⟩ :: (next (answer c)).trace answer s

variable {program : Program Call Answer σ ε α} {s : σ}

theorem answer_of_mem_trace {answer : (c : Call) → Except ε (Answer c)} {event : Event Answer ε}
    (among : event ∈ program.trace answer s) : event.2 = answer event.1 := by
  induction program generalizing s with
  | done result => cases among
  | read next ih => exact ih s among
  | write s' rest ih => exact ih among
  | call c next ih =>
    obtain rfl | later := List.mem_cons.1 among
    · rfl
    · exact ih _ later

/-- The runs of a program to its end: the calls it performed, and its result. -/
inductive Ends : Program Call Answer σ ε α → σ → List (Event Answer ε) → Except ε α → Prop
  | done (result : Except ε α) (s : σ) : Ends (.done result) s [] result
  | read {next : σ → Program Call Answer σ ε α} {s : σ} {events : List (Event Answer ε)}
      {result : Except ε α} (rest : Ends (next s) s events result) :
      Ends (.read next) s events result
  | write {next : Program Call Answer σ ε α} {s s' : σ} {events : List (Event Answer ε)}
      {result : Except ε α} (rest : Ends next s' events result) :
      Ends (.write s' next) s events result
  | call {c : Call} {next : Except ε (Answer c) → Program Call Answer σ ε α} {s : σ}
      {events : List (Event Answer ε)} {result : Except ε α} (answer : Except ε (Answer c))
      (rest : Ends (next answer) s events result) :
      Ends (.call c next) s (⟨c, answer⟩ :: events) result

variable {events : List (Event Answer ε)} {result : Except ε α}

theorem Ends.emits (ends : Ends program s events result) : Emits program s events := by
  induction ends with
  | done result s => exact .here _ s
  | read rest ih => exact .read ih
  | write rest ih => exact .write ih
  | call answer rest ih => exact .call answer ih

/-- The result of the run in which every call is answered alike. -/
def outcome (answer : (c : Call) → Except ε (Answer c)) : Program Call Answer σ ε α → σ → Except ε α
  | .done result, _ => result
  | .read next, s => (next s).outcome answer s
  | .write s rest, _ => rest.outcome answer s
  | .call c next, s => (next (answer c)).outcome answer s

theorem ends_trace (answer : (c : Call) → Except ε (Answer c))
    (program : Program Call Answer σ ε α) (s : σ) :
    Ends program s (program.trace answer s) (program.outcome answer s) := by
  induction program generalizing s with
  | done result => exact .done result s
  | read next ih => exact .read (ih s s)
  | write s' rest ih => exact .write (ih s')
  | call c next ih => exact .call _ (ih _ s)

/-- What a program that returns has done is what its first part has done before it returned,
and then the rest. -/
theorem ends_bind_ok {next : α → Program Call Answer σ ε β} {value : β}
    (ends : Ends (program >>= next) s events (.ok value)) :
    ∃ intermediate s' first second, events = first ++ second ∧
      Ends program s first (.ok intermediate) ∧
      Ends (next intermediate) s' second (.ok value) := by
  have ends : Ends (program.andThen next) s events (.ok value) := ends
  induction program generalizing s events with
  | done result =>
    cases result with
    | ok intermediate => exact ⟨intermediate, s, [], events, rfl, .done _ s, ends⟩
    | error failure => cases ends
  | read rest ih =>
    cases ends with
    | read ends =>
      obtain ⟨intermediate, s', first, second, split, before, after⟩ := ih s ends ends
      exact ⟨intermediate, s', first, second, split, .read before, after⟩
  | write state rest ih =>
    cases ends with
    | write ends =>
      obtain ⟨intermediate, s', first, second, split, before, after⟩ := ih ends ends
      exact ⟨intermediate, s', first, second, split, .write before, after⟩
  | call c rest ih =>
    cases ends with
    | call answer ends =>
      obtain ⟨intermediate, s', first, second, split, before, after⟩ := ih answer ends ends
      exact ⟨intermediate, s', _, second, congrArg (_ :: ·) split, .call answer before, after⟩

variable {c : Call}

theorem ends_perform_ok {value : Answer c}
    (ends : Ends (perform c : Program Call Answer σ ε (Answer c)) s events (.ok value)) :
    events = [⟨c, .ok value⟩] := by
  cases ends with
  | call answer ends =>
    cases ends
    rfl

theorem ends_attempt (ends : Ends program.attempt s events (.ok result)) :
    Ends program s events result := by
  induction program generalizing s events with
  | done final =>
    cases ends
    exact .done _ s
  | read rest ih =>
    cases ends with
    | read ends => exact .read (ih s ends)
  | write state rest ih =>
    cases ends with
    | write ends => exact .write (ih ends)
  | call c rest ih =>
    cases ends with
    | call answer ends => exact .call answer (ih answer ends)

/-- All calls of a program are of a kind, whatever they answer. -/
def Only (kind : Call → Prop) : Program Call Answer σ ε α → Prop
  | .done _ => True
  | .read next => ∀ s, (next s).Only kind
  | .write _ next => next.Only kind
  | .call c next => kind c ∧ ∀ answer, (next answer).Only kind

variable {kind : Call → Prop}

theorem only_perform (holds : kind c) :
    (perform c : Program Call Answer σ ε (Answer c)).Only kind :=
  ⟨holds, fun _ => trivial⟩

theorem only_settle {next : Except ε α → Program Call Answer σ ε β} (first : program.Only kind)
    (second : ∀ result, (next result).Only kind) : (program.settle next).Only kind := by
  induction program with
  | done result => exact second result
  | read rest ih => exact fun s => ih s (first s)
  | write state rest ih => exact ih first
  | call c rest ih => exact ⟨first.1, fun answer => ih answer (first.2 answer)⟩

theorem only_attempt (only : program.Only kind) : program.attempt.Only kind :=
  only_settle only fun _ => trivial

theorem only_bind {next : α → Program Call Answer σ ε β} (first : program.Only kind)
    (second : ∀ value, (next value).Only kind) : (program >>= next).Only kind := by
  show (program.andThen next).Only kind
  induction program with
  | done result =>
    cases result with
    | ok value => exact second value
    | error failure => trivial
  | read rest ih => exact fun s => ih s (first s)
  | write state rest ih => exact ih first
  | call c rest ih => exact ⟨first.1, fun answer => ih answer (first.2 answer)⟩

/-! ## Monitors -/

variable {μ : Type} (observe : μ → Event Answer ε → Option μ)

/-- The state of a monitor after a list of events, unless one of them was forbidden. -/
def accept : μ → List (Event Answer ε) → Option μ
  | m, [] => some m
  | m, event :: events => (observe m event).bind fun m' => accept m' events

@[simp] theorem accept_nil (m : μ) : accept observe m [] = some m := rfl

theorem accept_append {m m' : μ} {later : List (Event Answer ε)} :
    accept observe m (events ++ later) = some m' ↔
      ∃ between, accept observe m events = some between ∧
        accept observe between later = some m' := by
  induction events generalizing m with
  | nil => simp
  | cons event events ih =>
    simp only [List.cons_append, accept, Option.bind_eq_some_iff, ih]
    constructor
    · rintro ⟨next, seen, between, first, second⟩
      exact ⟨between, ⟨next, seen, first⟩, second⟩
    · rintro ⟨between, ⟨next, seen, first⟩, second⟩
      exact ⟨next, seen, between, first, second⟩

theorem accept_induction {motive : μ → List (Event Answer ε) → Prop}
    (preserved : ∀ m m' past event, motive m past → observe m event = some m' →
      motive m' (past ++ [event])) {m m' : μ} (holds : motive m [])
    (accepted : accept observe m events = some m') : motive m' events := by
  have onward (m : μ) (past : List (Event Answer ε)) (holds : motive m past)
      (accepted : accept observe m events = some m') : motive m' (past ++ events) := by
    clear * - preserved holds accepted
    induction events generalizing m past with
    | nil =>
      obtain rfl := Option.some.inj accepted
      rwa [List.append_nil]
    | cons event events ih =>
      obtain ⟨next, seen, rest⟩ := Option.bind_eq_some_iff.1 accepted
      rw [← List.singleton_append, ← List.append_assoc]
      exact ih _ _ (preserved m next past event holds seen) rest
  simpa using onward m [] holds accepted

/-! ### Events in turn -/

/-- Among the events there are, in this order, one that meets each of the conditions. -/
def InTurn {Event : Type} (conditions : List (Event → Bool)) (events : List Event) : Prop :=
  ∃ chosen, chosen.Sublist events ∧
    List.Forall₂ (fun condition event => condition event = true) conditions chosen

theorem InTurn.nil {Event : Type} (events : List Event) : InTurn [] events :=
  ⟨[], List.nil_sublist events, .nil⟩

theorem InTurn.later {Event : Type} {conditions : List (Event → Bool)} {events : List Event}
    (inTurn : InTurn conditions events) (event : Event) :
    InTurn conditions (events ++ [event]) := by
  obtain ⟨chosen, among, meets⟩ := inTurn
  exact ⟨chosen, among.trans (List.sublist_append_left _ _), meets⟩

theorem InTurn.next {Event : Type} {conditions : List (Event → Bool)} {events : List Event}
    (inTurn : InTurn conditions events) {condition : Event → Bool} {event : Event}
    (met : condition event = true) : InTurn (conditions ++ [condition]) (events ++ [event]) := by
  obtain ⟨chosen, among, meets⟩ := inTurn
  exact ⟨chosen ++ [event], among.append (List.Sublist.refl _),
    List.rel_append meets (.cons met .nil)⟩

theorem InTurn.front {Event : Type} {conditions more : List (Event → Bool)}
    {events : List Event} (inTurn : InTurn (conditions ++ more) events) :
    InTurn conditions events := by
  obtain ⟨chosen, among, meets⟩ := inTurn
  refine ⟨chosen.take conditions.length, (List.take_sublist _ _).trans among, ?_⟩
  have front := List.forall₂_take conditions.length meets
  rwa [List.take_left] at front

theorem InTurn.exists_of_mem {Event : Type} {conditions : List (Event → Bool)}
    {events : List Event} (inTurn : InTurn conditions events) {condition : Event → Bool}
    (member : condition ∈ conditions) : ∃ event ∈ events, condition event = true := by
  obtain ⟨chosen, among, meets⟩ := inTurn
  induction meets generalizing events with
  | nil => cases member
  | @cons first event conditions chosen met meets ih =>
    obtain rfl | later := List.mem_cons.1 member
    · exact ⟨event, among.subset List.mem_cons_self, met⟩
    · exact ih later ((List.sublist_cons_self _ _).trans among)

/-- The weakest precondition: every call is permitted whatever is answered, and the end of
the program meets the postcondition. -/
def wp : Program Call Answer σ ε α → (Except ε α → σ → μ → Prop) → σ → μ → Prop
  | .done result, post, s, m => post result s m
  | .read next, post, s, m => (next s).wp post s m
  | .write s' next, post, _, m => next.wp post s' m
  | .call c next, post, s, m =>
    ∀ answer, ∃ m', observe m ⟨c, answer⟩ = some m' ∧ (next answer).wp post s m'

theorem accepted_of_wp {post : Except ε α → σ → μ → Prop} {m : μ}
    (holds : program.wp observe post s m) (emits : Emits program s events) :
    ∃ m', accept observe m events = some m' := by
  induction emits generalizing m with
  | here program s => exact ⟨m, rfl⟩
  | read rest ih => exact ih holds
  | write rest ih => exact ih holds
  | call answer rest ih =>
    obtain ⟨next, seen, onward⟩ := holds answer
    obtain ⟨last, accepted⟩ := ih onward
    exact ⟨last, by rw [accept, seen]; exact accepted⟩

theorem ends_of_wp {post : Except ε α → σ → μ → Prop} {m : μ} (holds : program.wp observe post s m)
    (ends : Ends program s events result) :
    ∃ m' s', accept observe m events = some m' ∧ post result s' m' := by
  induction ends generalizing m with
  | done result s => exact ⟨m, s, rfl, holds⟩
  | read rest ih => exact ih holds
  | write rest ih => exact ih holds
  | call answer rest ih =>
    obtain ⟨next, seen, onward⟩ := holds answer
    obtain ⟨last, s', accepted, met⟩ := ih onward
    exact ⟨last, s', by rw [accept, seen]; exact accepted, met⟩

/-! ### The rules -/

variable {observe}

variable {post : Except ε β → σ → μ → Prop}

theorem wp_perform_bind {next : Answer c → Program Call Answer σ ε β} {m : μ}
    (fails : ∀ failure, ∃ m', observe m ⟨c, .error failure⟩ = some m' ∧ post (.error failure) s m')
    (onward : ∀ value, ∃ m', observe m ⟨c, .ok value⟩ = some m' ∧ (next value).wp observe post s m')
    :
    (perform c >>= next).wp observe post s m := by
  intro answer
  cases answer with
  | error failure => exact fails failure
  | ok value => exact onward value

theorem wp_settle {next : Except ε α → Program Call Answer σ ε β} {m : μ} :
    (program.settle next).wp observe post s m ↔
      program.wp observe (fun result => (next result).wp observe post) s m := by
  induction program generalizing s m with
  | done result => exact Iff.rfl
  | read rest ih => exact ih s
  | write s' rest ih => exact ih
  | call c rest ih =>
    refine forall_congr' fun answer => exists_congr fun m' => and_congr_right fun _ => ?_
    exact ih answer

/-- The postcondition of a first part: the second part meets its own where the first
returns, and a failure is handed on. -/
def andThenPost (post : Except ε β → σ → μ → Prop) (next : α → Program Call Answer σ ε β)
    (observe : μ → Event Answer ε → Option μ) : Except ε α → σ → μ → Prop
  | .ok value => (next value).wp observe post
  | .error failure => post (.error failure)

@[simp] theorem andThenPost_ok {next : α → Program Call Answer σ ε β} (value : α) (s : σ) (m : μ) :
    andThenPost post next observe (.ok value) s m = (next value).wp observe post s m := rfl

theorem wp_bind {next : α → Program Call Answer σ ε β} {m : μ} :
    (program >>= next).wp observe post s m ↔
      program.wp observe (andThenPost post next observe) s m := by
  show (program.andThen next).wp observe post s m ↔ _
  induction program generalizing s m with
  | done result => cases result <;> exact Iff.rfl
  | read rest ih => exact ih s
  | write s' rest ih => exact ih
  | call c rest ih =>
    refine forall_congr' fun answer => exists_congr fun m' => and_congr_right fun _ => ?_
    exact ih answer

theorem wp_attempt_bind {next : Except ε α → Program Call Answer σ ε β} {m : μ} :
    (program.attempt >>= next).wp observe post s m ↔
      program.wp observe (fun result => (next result).wp observe post) s m :=
  wp_bind.trans wp_settle

theorem wp_attempt_perform_bind {next : Except ε (Answer c) → Program Call Answer σ ε β} {m : μ}
    (holds : ∀ answer, ∃ m', observe m ⟨c, answer⟩ = some m' ∧ (next answer).wp observe post s m') :
    ((perform c).attempt >>= next).wp observe post s m :=
  wp_attempt_bind.2 holds

theorem wp_tryCatch {handler : ε → Program Call Answer σ ε α} {post : Except ε α → σ → μ → Prop}
    {m : μ} (holds : program.wp observe (fun
      | .ok value => post (.ok value)
      | .error failure => (handler failure).wp observe post) s m) :
    (tryCatch program handler).wp observe post s m := by
  refine wp_settle.2 ?_
  convert holds using 2 with result
  cases result <;> rfl

theorem wp_assign {update : σ → σ} {post : Except ε Unit → σ → μ → Prop} {m : μ} :
    (assign update : Program Call Answer σ ε Unit).wp observe post s m ↔
      post (.ok ()) (update s) m :=
  Iff.rfl

theorem wp_current {post : Except ε σ → σ → μ → Prop} {m : μ} :
    (current : Program Call Answer σ ε σ).wp observe post s m ↔ post (.ok s) s m :=
  Iff.rfl

theorem wp_mono {post weaker : Except ε α → σ → μ → Prop}
    (implies : ∀ result s m, post result s m → weaker result s m) {m : μ}
    (holds : program.wp observe post s m) : program.wp observe weaker s m := by
  induction program generalizing s m with
  | done result => exact implies result s m holds
  | read rest ih => exact ih s holds
  | write s' rest ih => exact ih holds
  | call c rest ih =>
    intro answer
    obtain ⟨m', seen, onward⟩ := holds answer
    exact ⟨m', seen, ih answer onward⟩

theorem wp_only {m : μ} (ignored : ∀ c, kind c → ∀ answer, observe m ⟨c, answer⟩ = some m)
    (only : program.Only kind) {post : Except ε α → σ → μ → Prop}
    (holds : ∀ result s, post result s m) : program.wp observe post s m := by
  induction program generalizing s with
  | done result => exact holds result s
  | read rest ih => exact ih s (only s)
  | write state rest ih => exact ih only
  | call c rest ih =>
    intro answer
    exact ⟨m, ignored c only.1 answer, ih answer (only.2 answer)⟩

/-! ### Programs aside

A part of a program that assigns none of its variables and performs only calls of a first
kind is written over those calls alone. Among the calls of both kinds it stands as it is,
and a monitor that ignores the first kind is where it was when the part has ended. -/

variable {Call' : Type} {Answer' : Call' → Type}

/-- A program over calls of the first kind, among calls of two kinds. -/
def aside : Program Call Answer Unit ε α → Program (Call ⊕ Call') (Sum.elim Answer Answer') σ ε α
  | .done result => .done result
  | .read next => (next ()).aside
  | .write () next => next.aside
  | .call c next => .call (.inl c) fun answer => (next answer).aside

variable {observe' : μ → Event (Sum.elim Answer Answer') ε → Option μ}

theorem wp_aside {m : μ}
    (ignored : ∀ (c : Call) (answer : Except ε (Answer c)), observe' m ⟨.inl c, answer⟩ = some m)
    {program : Program Call Answer Unit ε α} {post : Except ε α → σ → μ → Prop}
    (holds : ∀ result, post result s m) :
    (aside program : Program (Call ⊕ Call') (Sum.elim Answer Answer') σ ε α).wp
      observe' post s m := by
  induction program with
  | done result => exact holds result
  | read rest ih => exact ih ()
  | write s' rest ih => exact ih
  | call c rest ih =>
    intro answer
    exact ⟨m, ignored c answer, ih answer⟩

theorem wp_aside_bind {m : μ}
    (ignored : ∀ (c : Call) (answer : Except ε (Answer c)), observe' m ⟨.inl c, answer⟩ = some m)
    {program : Program Call Answer Unit ε α}
    {next : α → Program (Call ⊕ Call') (Sum.elim Answer Answer') σ ε β}
    (fails : ∀ failure, post (.error failure) s m)
    (onward : ∀ value, (next value).wp observe' post s m) :
    (aside program >>= next).wp observe' post s m := by
  refine wp_bind.2 (wp_aside ignored fun result => ?_)
  cases result with
  | ok value => exact onward value
  | error failure => exact fails failure

end Program

end Vex.Library
