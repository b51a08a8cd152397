import SheetExport.Cancellation.Machine

/-! # Account of callbacks

What callers do to a registry is a list of sections, each performed by one of them. Of every number that a
registration can get, an account is kept: whether a callback was registered with it, and what has become of it, which
is to wait, to be about to run, to have run or to have been taken back.
-/

namespace SheetExport.Cancellation

/-! ## Sections -/

/-- A callback with a number is about to run. -/
def Task.calls (n : Nat) : Task → Bool
  | .run w => w.registration == n
  | _ => false

/-- A registration with a number is about to be handed out. -/
def Task.keeps (n : Nat) : Task → Bool
  | .keep _ registration => registration == n
  | _ => false

/-- A section that was performed: the registry that it found, and the task of which it was the next. -/
structure Section where
  found : Registry
  task : Task

namespace Section

/-- A callback is registered with a number. -/
def registers (n : Nat) (x : Section) : Bool :=
  match x.task with
  | .command (.register ..) _ => x.found.next == n
  | _ => false

/-- A registration gets a number, whether its callback can be called or not. -/
def numbers (n : Nat) (x : Section) : Bool :=
  match x.task with
  | .command (.register ..) _ | .command (.registerNowhere ..) _ => x.found.next == n
  | _ => false

/-- A registration is handed out. -/
def keeps (n : Nat) (x : Section) : Bool := x.task.keeps n

/-- A callback that waits is taken back. -/
def withdraws (n : Nat) (x : Section) : Bool :=
  match x.task with
  | .command (.dispose key) _ =>
      x.found.kept.lookup key == some n && x.found.waiting.any fun w => w.registration == n
  | _ => false

theorem numbers_of_registers {n : Nat} {x : Section} (registers : x.registers n = true) : x.numbers n = true := by
  rw [Section.registers] at registers
  split at registers
  · rename_i named
    rwa [numbers, named]
  · cases registers

end Section

namespace Machine

/-- Sections performed one after another, each by any caller. -/
inductive Performs (m : Machine) : List Section → Machine → Prop where
  | nothing : Performs m [] m
  | more {trace : List Section} {s : Registry} {before after : List (List Task)} {t : Task} {rest : List Task}
      (performed : Performs m trace ⟨s, before ++ (t :: rest) :: after⟩) :
      Performs m (trace ++ [⟨s, t⟩]) ⟨(s.advance t).1, before ++ ((s.advance t).2 ++ rest) :: after⟩

theorem Steps.next {a b c : Machine} (steps : Steps a b) (last : Step b c) : Steps a c := by
  induction steps with
  | refl => exact .step last (.refl _)
  | step first _ ih => exact .step first (ih last)

theorem Performs.append {a b c : Machine} {trace more : List Section} (first : a.Performs trace b)
    (second : b.Performs more c) : a.Performs (trace ++ more) c := by
  induction second with
  | nothing => rwa [List.append_nil]
  | more _ ih =>
      rw [← List.append_assoc]
      exact ih.more

/-- Machines get where their callers bring them by sections. -/
theorem steps_iff {a b : Machine} : a.Steps b ↔ ∃ trace, a.Performs trace b := by
  constructor
  · intro steps
    induction steps with
    | refl => exact ⟨[], .nothing⟩
    | step first _ ih =>
        obtain ⟨trace, performed⟩ := ih
        cases first with
        | intro s before after t rest => exact ⟨_, (Performs.nothing.more).append performed⟩
  · rintro ⟨trace, performed⟩
    induction performed with
    | nothing => exact .refl a
    | more _ ih => exact ih.next (.intro ..)

/-- What callers do who act in a given order, and where they get by it. Whoever has nothing left to do passes. -/
def follow (m : Machine) : List Nat → List Section × Machine
  | [] => ([], m)
  | i :: order =>
      match m.callers[i]? with
      | some (t :: rest) =>
          let next : Machine := ⟨(m.registry.advance t).1, m.callers.set i ((m.registry.advance t).2 ++ rest)⟩
          (⟨m.registry, t⟩ :: (next.follow order).1, (next.follow order).2)
      | _ => m.follow order

theorem performs_follow (m : Machine) (order : List Nat) : m.Performs (m.follow order).1 (m.follow order).2 := by
  fun_induction follow m order with
  | case1 => exact .nothing
  | case2 m i order t rest there next ih =>
      obtain ⟨inside, here⟩ := List.getElem?_eq_some_iff.mp there
      have parts : m.callers = m.callers.take i ++ (t :: rest) :: m.callers.drop (i + 1) := by
        rw [← here, ← List.drop_eq_getElem_cons inside, List.take_append_drop]
      have first : m.Performs [⟨m.registry, t⟩] next := by
        simp only [next, List.set_eq_take_append_cons_drop, inside, if_true]
        have begun : m.Performs [] ⟨m.registry, m.callers.take i ++ (t :: rest) :: m.callers.drop (i + 1)⟩ := by
          rw [← parts]
          exact .nothing
        exact begun.more
      exact first.append ih
  | case3 _ _ _ _ ih => exact ih

/-- All that is still to be done, by whichever caller. -/
def tasks (m : Machine) : List Task := m.callers.flatten

variable {s s' : Registry} {before after : List (List Task)} {t u : Task} {rest new : List Task}

theorem countP_tasks (s : Registry) (before after : List (List Task)) (t : Task) (rest : List Task) (p : Task → Bool) :
    (⟨(s.advance t).1, before ++ ((s.advance t).2 ++ rest) :: after⟩ : Machine).tasks.countP p +
        (if p t then 1 else 0) =
      (⟨s, before ++ (t :: rest) :: after⟩ : Machine).tasks.countP p + (s.advance t).2.countP p := by
  simp only [tasks, List.flatten_append, List.flatten_cons, List.countP_append, List.countP_cons]
  omega

theorem mem_tasks (there : u ∈ (⟨s', before ++ (new ++ rest) :: after⟩ : Machine).tasks) :
    u ∈ new ∨ u ∈ (⟨s, before ++ (t :: rest) :: after⟩ : Machine).tasks := by
  simp only [tasks, List.flatten_append, List.flatten_cons, List.mem_append, List.mem_cons] at there ⊢
  grind

theorem first_mem_tasks : t ∈ (⟨s, before ++ (t :: rest) :: after⟩ : Machine).tasks := by
  simp [tasks]

end Machine

/-! ## What one section does to the account -/

/-- A task that neither runs callbacks nor is about to take them. -/
def Task.idle : Task → Bool
  | .drain | .run _ => false
  | _ => true

/-- A callback with a number began to run. -/
def Event.ran? (n : Nat) : Event → Bool
  | .ran registration _ => registration == n
  | .answered .. => false

namespace Registry

variable {s : Registry} {t : Task} {n : Nat}

/-- How many callbacks with a number wait. -/
def waits (s : Registry) (n : Nat) : Nat := s.waiting.countP fun w => w.registration == n

/-- How often the callback with a number began to run. -/
def timesRun (s : Registry) (n : Nat) : Nat := s.events.countP (Event.ran? n)

end Registry

mutual

/-- A command of which neither it nor what its callbacks do makes a side go. -/
def Command.holds : Command → Bool
  | .register _ body | .registerNowhere _ body => bodyHolds body
  | .dropSource | .dropToken => false
  | _ => true

def bodyHolds : List Command → Bool
  | [] => true
  | c :: rest => c.holds && bodyHolds rest

end

end SheetExport.Cancellation
namespace SheetExport.Cancellation

theorem bodyHolds_iff {body : List Command} : bodyHolds body = true ↔ ∀ c ∈ body, c.holds = true := by
  induction body with
  | nil => simp [bodyHolds]
  | cons c rest ih => simp [bodyHolds, ih]

/-- A task by which neither side goes. -/
def Task.holds : Task → Bool
  | .command c _ => c.holds
  | .run w => bodyHolds w.body
  | _ => true

/-- What a task leaves to be noted once its command has an answer. -/
def notes (c : Command) (callback : Option String) (answer : Answer) : List Task :=
  (callback.map fun key => Task.note key c answer).toList

theorem countP_notes {p : Task → Bool} (never : ∀ key c answer, p (.note key c answer) = false) (c : Command)
    (callback : Option String) (answer : Answer) : (notes c callback answer).countP p = 0 := by
  cases callback <;> simp [notes, never]

theorem eq_note_of_mem {c : Command} {callback : Option String} {answer : Answer} {u : Task}
    (inside : u ∈ notes c callback answer) : ∃ key, u = .note key c answer := by
  cases callback with
  | none => cases inside
  | some key => exact ⟨key, List.mem_singleton.mp inside⟩

theorem idle_notes (c : Command) (callback : Option String) (answer : Answer) :
    ∀ u ∈ notes c callback answer, u.idle = true := by
  intro u inside
  obtain ⟨key, rfl⟩ := eq_note_of_mem inside
  rfl

theorem holds_notes (c : Command) (callback : Option String) (answer : Answer) :
    ∀ u ∈ notes c callback answer, u.holds = true := by
  intro u inside
  obtain ⟨key, rfl⟩ := eq_note_of_mem inside
  rfl

namespace Registry

/-- Both sides are there, and no callback that waits makes one go. -/
structure Held (s : Registry) : Prop where
  source : s.sourceHeld = true
  token : s.tokenHeld = true
  waiting : ∀ w ∈ s.waiting, bodyHolds w.body = true

/-- What a section does to a registry as long as both sides are there, and what it leaves to be done. -/
inductive Does (s : Registry) : Task → Registry → List Task → Prop
  | win (callback : Option String) (open_ : s.requested = false) :
      Does s (.command .cancel callback) { s with requested := true } (.drain :: notes .cancel callback .done)
  | join (key : String) (body : List Command) (callback : Option String) (open_ : s.requested = false) :
      Does s (.command (.register key body) callback)
        { s with next := s.next + 1, waiting := s.waiting ++ [⟨s.next, key, body⟩] }
        (.keep key s.next :: notes (.register key body) callback .done)
  | late (key : String) (body : List Command) (callback : Option String) (asked : s.requested = true) :
      Does s (.command (.register key body) callback) { s with next := s.next + 1 }
        (.run ⟨s.next, key, body⟩ :: .keep key s.next :: notes (.register key body) callback .done)
  | nowhere (key : String) (body : List Command) (callback : Option String) :
      Does s (.command (.registerNowhere key body) callback) { s with next := s.next + 1 }
        (.keep key s.next :: notes (.registerNowhere key body) callback .done)
  | withdraw (key : String) (n : Nat) (callback : Option String) (kept : s.kept.lookup key = some n) :
      Does s (.command (.dispose key) callback)
        { s with
          kept := s.kept.filter fun k => k.1 != key
          waiting := s.waiting.filter fun w => w.registration != n }
        (notes (.dispose key) callback (.disposed true))
  | nothing (c : Command) (callback : Option String) (answer : Answer)
      (numbersNone : ∀ n, Section.numbers n ⟨s, .command c callback⟩ = false)
      (withdrawsNone : ∀ n, Section.withdraws n ⟨s, .command c callback⟩ = false) :
      Does s (.command c callback) s (notes c callback answer)
  | drain : Does s .drain { s with waiting := [] } (s.waiting.map Task.run)
  | run (w : Waiting) : Does s (.run w) (s.record (.ran w.registration w.key))
      (w.body.map fun c => .command c (some w.key))
  | keep (key : String) (n : Nat) :
      Does s (.keep key n) { s with kept := (key, n) :: s.kept.filter fun k => k.1 != key } []
  | note (key : String) (c : Command) (answer : Answer) :
      Does s (.note key c answer) (s.record (.answered key c answer)) []

variable {s s' : Registry} {t u : Task} {new : List Task} {n : Nat}

theorem advance_command {c : Command} {answer : Answer} {callback : Option String}
    (performed : s.perform c = (answer, s', new)) :
    s.advance (.command c callback) = (s', new ++ notes c callback answer) := by
  rw [advance, performed]
  rfl

theorem does_advance (held : s.Held) (holds : t.holds = true) : s.Does t (s.advance t).1 (s.advance t).2 := by
  obtain ⟨source, token, -⟩ := held
  cases t with
  | drain => exact .drain
  | run w => exact .run w
  | keep key n => exact .keep key n
  | note key c answer => exact .note key c answer
  | command c callback =>
      cases c with
      | cancel =>
          cases asked : s.requested with
          | true =>
              have performed : s.perform .cancel = (.done, s, []) := by simp [perform, asked]
              rw [advance_command performed]
              exact .nothing .cancel callback .done (fun _ => rfl) fun _ => rfl
          | false =>
              have performed : s.perform .cancel = (.done, { s with requested := true }, [.drain]) := by
                simp [perform, source, asked]
              rw [advance_command performed]
              exact .win callback asked
      | register key body =>
          cases asked : s.requested with
          | true =>
              have performed : s.perform (.register key body) = (.done, { s with next := s.next + 1 },
                  [.run ⟨s.next, key, body⟩, .keep key s.next]) := by simp [perform, token, asked]
              rw [advance_command performed]
              exact .late key body callback asked
          | false =>
              have performed : s.perform (.register key body) = (.done, { s with
                  next := s.next + 1
                  waiting := s.waiting ++ [⟨s.next, key, body⟩] }, [.keep key s.next]) := by
                simp [perform, token, asked]
              rw [advance_command performed]
              exact .join key body callback asked
      | registerNowhere key body => exact .nowhere key body callback
      | dispose key =>
          cases kept : s.kept.lookup key with
          | none =>
              have performed : s.perform (.dispose key) = (.disposed false, s, []) := by simp [perform, kept]
              rw [advance_command performed]
              exact .nothing (.dispose key) callback _ (fun _ => rfl) fun _ => by simp [Section.withdraws, kept]
          | some n =>
              have performed : s.perform (.dispose key) = (.disposed true, { s with
                  kept := s.kept.filter fun k => k.1 != key
                  waiting := s.waiting.filter fun w => w.registration != n }, []) := by simp [perform, kept]
              rw [advance_command performed]
              exact .withdraw key n callback kept
      | ask => exact .nothing .ask callback _ (fun _ => rfl) fun _ => rfl
      | check => exact .nothing .check callback _ (fun _ => rfl) fun _ => rfl
      | checkNowhere => exact .nothing .checkNowhere callback _ (fun _ => rfl) fun _ => rfl
      | dropSource | dropToken => cases holds

namespace Does

theorem held (does : s.Does t s' new) (held : s.Held) (holds : t.holds = true) :
    s'.Held ∧ ∀ u ∈ new, u.holds = true := by
  obtain ⟨source, token, waiting⟩ := held
  cases does with
  | win => exact ⟨⟨source, token, waiting⟩, List.forall_mem_cons.mpr ⟨rfl, holds_notes _ _ _⟩⟩
  | join key body =>
      refine ⟨⟨source, token, ?_⟩, List.forall_mem_cons.mpr ⟨rfl, holds_notes _ _ _⟩⟩
      intro w inside
      rcases List.mem_append.mp inside with before | last
      · exact waiting w before
      · rw [List.mem_singleton.mp last]
        exact holds
  | late =>
      refine ⟨⟨source, token, waiting⟩, List.forall_mem_cons.mpr ⟨holds, ?_⟩⟩
      exact List.forall_mem_cons.mpr ⟨rfl, holds_notes _ _ _⟩
  | nowhere => exact ⟨⟨source, token, waiting⟩, List.forall_mem_cons.mpr ⟨rfl, holds_notes _ _ _⟩⟩
  | withdraw => exact ⟨⟨source, token, fun w inside => waiting w (List.mem_filter.mp inside).1⟩, holds_notes _ _ _⟩
  | nothing => exact ⟨⟨source, token, waiting⟩, holds_notes _ _ _⟩
  | drain =>
      refine ⟨⟨source, token, List.forall_mem_nil _⟩, ?_⟩
      intro u inside
      obtain ⟨w, there, rfl⟩ := List.mem_map.mp inside
      exact waiting w there
  | run w =>
      refine ⟨⟨source, token, waiting⟩, ?_⟩
      intro u inside
      obtain ⟨c, there, rfl⟩ := List.mem_map.mp inside
      exact bodyHolds_iff.mp holds c there
  | keep | note => exact ⟨⟨source, token, waiting⟩, List.forall_mem_nil _⟩

/-- Numbers are given one after another. -/
theorem numbers (does : s.Does t s' new) (n : Nat) :
    (if n < s'.next then 1 else 0) = (if n < s.next then 1 else 0) + if Section.numbers n ⟨s, t⟩ then 1 else 0 := by
  cases does with
  | nothing c callback answer numbersNone => simp [numbersNone]
  | join | late | nowhere =>
      simp only [Section.numbers, beq_iff_eq]
      split <;> split <;> (try split) <;> omega
  | win | withdraw | drain | run | keep | note => exact (Nat.add_zero _).symm

/-- Whoever gets a number is handed the registration next. -/
theorem keeps (does : s.Does t s' new) (n : Nat) :
    new.countP (Task.keeps n) = if Section.numbers n ⟨s, t⟩ then 1 else 0 := by
  have noted := countP_notes (p := Task.keeps n) fun _ _ _ => rfl
  cases does with
  | nothing c callback answer numbersNone => simp [numbersNone, noted]
  | run w => simp [Section.numbers, List.countP_map, Function.comp_def, Task.keeps]
  | drain => simp [Section.numbers, List.countP_map, Function.comp_def, Task.keeps]
  | join | late | nowhere | win | withdraw | keep | note => simp [Section.numbers, Task.keeps, noted, List.countP_cons]

/-- To take back what waits with a number makes a difference to this number only, and if something waits. -/
theorem waits_withdraw (alone : s.waits n ≤ 1) (m : Nat) :
    (s.waiting.filter fun w => w.registration != m).countP (fun w => w.registration == n) +
        (if (m == n && s.waiting.any fun w => w.registration == n) = true then 1 else 0) = s.waits n := by
  rw [waits] at alone ⊢
  rw [List.countP_filter]
  by_cases same : m = n
  · subst same
    have gone : s.waiting.countP (fun w => w.registration == m && w.registration != m) = 0 := by
      simp [List.countP_eq_zero]
    rw [gone, beq_self_eq_true, Bool.true_and]
    cases found : s.waiting.any fun w => w.registration == m with
    | true =>
        have some_ := List.countP_pos_iff.mpr (List.any_eq_true.mp found)
        rw [if_pos rfl]
        omega
    | false =>
        have none_ : s.waiting.countP (fun w => w.registration == m) = 0 := by simpa [List.countP_eq_zero] using found
        rw [none_, if_neg Bool.false_ne_true]
  · have others : (fun w : Waiting => w.registration == n && w.registration != m) = fun w => w.registration == n := by
      funext w
      by_cases here : w.registration = n
      · simp [here, Ne.symm same]
      · simp [here]
    simp [others, same]

/-- What becomes of callbacks. -/
theorem calls (does : s.Does t s' new) (alone : s.waits n ≤ 1) :
    new.countP (Task.calls n) + s'.waits n + s'.timesRun n + (if Section.withdraws n ⟨s, t⟩ then 1 else 0) =
      (if t.calls n then 1 else 0) + s.waits n + s.timesRun n + if Section.registers n ⟨s, t⟩ then 1 else 0 := by
  have noted := countP_notes (p := Task.calls n) fun _ _ _ => rfl
  cases does with
  | nothing c callback answer numbersNone withdrawsNone =>
      have unregistered : Section.registers n ⟨s, .command c callback⟩ = false :=
        Bool.eq_false_iff.mpr fun registers => absurd (Section.numbers_of_registers registers) (by simp [numbersNone])
      simp [noted, withdrawsNone, unregistered, Task.calls]
  | withdraw key m callback kept =>
      have left := waits_withdraw alone m
      simp only [noted, Section.withdraws, Section.registers, Task.calls, kept, timesRun, waits, Option.some_beq_some,
        Bool.false_eq_true, if_false] at left ⊢
      omega
  | win | join | late | nowhere | drain | run | keep | note =>
      simp [Section.registers, Section.withdraws, Task.calls, waits, timesRun, noted, record, Event.ran?,
        List.countP_cons, List.countP_map, Function.comp_def]
      try omega

theorem requested (does : s.Does t s' new) (asked : s.requested = true) : s'.requested = true := by
  cases does <;> first | rfl | exact asked

/-- As long as nobody has asked for cancellation, nothing is done to run callbacks. -/
theorem idle (does : s.Does t s' new) (unasked : s'.requested = false) (idle : t.idle = true) :
    (∀ u ∈ new, u.idle = true) ∧ ∀ n, s'.timesRun n = s.timesRun n := by
  cases does with
  | win => cases unasked
  | late key body callback asked => exact absurd (asked.symm.trans unasked) (by decide)
  | join | nowhere => exact ⟨List.forall_mem_cons.mpr ⟨rfl, idle_notes _ _ _⟩, fun _ => rfl⟩
  | withdraw | nothing => exact ⟨idle_notes _ _ _, fun _ => rfl⟩
  | drain | run => cases idle
  | keep => exact ⟨List.forall_mem_nil _, fun _ => rfl⟩
  | note => exact ⟨List.forall_mem_nil _, fun n => by simp [timesRun, record, Event.ran?]⟩

/-- Callbacks that wait or are about to run waited before, or have just been registered. -/
theorem origin (does : s.Does t s' new) {w : Waiting} (there : w ∈ s'.waiting ∨ .run w ∈ new) :
    w ∈ s.waiting ∨ ∃ callback, t = .command (.register w.key w.body) callback ∧ s.next = w.registration := by
  have unnoted {c : Command} {callback : Option String} {answer : Answer} : .run w ∉ notes c callback answer := by
    intro inside
    obtain ⟨key, same⟩ := eq_note_of_mem inside
    cases same
  cases does with
  | join key body callback =>
      simp only [List.mem_append, List.mem_cons, List.not_mem_nil, or_false, reduceCtorEq, unnoted] at there
      rcases there with before | rfl
      · exact .inl before
      · exact .inr ⟨callback, rfl, rfl⟩
  | late key body callback =>
      simp only [List.mem_cons, Task.run.injEq, reduceCtorEq, unnoted, or_false] at there
      rcases there with before | rfl
      · exact .inl before
      · exact .inr ⟨callback, rfl, rfl⟩
  | withdraw =>
      simp only [List.mem_filter, unnoted, or_false] at there
      exact .inl there.1
  | drain =>
      simp only [List.not_mem_nil, false_or, List.mem_map, Task.run.injEq, exists_eq_right] at there
      exact .inl there
  | win | nowhere | nothing | keep | note =>
      simp only [record, List.mem_cons, List.not_mem_nil, reduceCtorEq, unnoted, or_false] at there
      exact .inl there
  | run =>
      simp only [record, List.mem_map, reduceCtorEq, and_false, exists_false, or_false] at there
      exact .inl there

end Does

end Registry

/-! ## The account of a machine -/

namespace Machine

/-- A callback was registered in the course of a trace. -/
def Registered (trace : List Section) (w : Waiting) : Prop :=
  ∃ x ∈ trace, ∃ callback, x.task = .command (.register w.key w.body) callback ∧ x.found.next = w.registration

theorem Registered.append {trace : List Section} {w : Waiting} (known : Registered trace w) (more : List Section) :
    Registered (trace ++ more) w := by
  obtain ⟨x, inside, registered⟩ := known
  exact ⟨x, List.mem_append_left _ inside, registered⟩

/-- The account of what was performed is right for a machine, and both sides are there. -/
structure Booked (trace : List Section) (m : Machine) : Prop where
  sides : m.registry.Held
  holds : ∀ t ∈ m.tasks, t.holds = true
  quiet : m.registry.requested = false → (∀ t ∈ m.tasks, t.idle = true) ∧ ∀ n, m.registry.timesRun n = 0
  origin : ∀ w, w ∈ m.registry.waiting ∨ .run w ∈ m.tasks → Registered trace w
  numbers : ∀ n, trace.countP (Section.numbers n) = if n < m.registry.next then 1 else 0
  keeps : ∀ n, m.tasks.countP (Task.keeps n) + trace.countP (Section.keeps n) = trace.countP (Section.numbers n)
  calls : ∀ n, m.tasks.countP (Task.calls n) + m.registry.waits n + m.registry.timesRun n +
    trace.countP (Section.withdraws n) = trace.countP (Section.registers n)

/-- Callers who are to do the commands of programs, before any of them begins. -/
def start (programs : List (List Command)) : Machine :=
  ⟨.initial, programs.map fun program => program.map fun c => .command c none⟩

namespace Booked

theorem start {programs : List (List Command)} (holding : ∀ program ∈ programs, bodyHolds program = true) :
    Booked [] (start programs) := by
  have commands : ∀ t ∈ (Machine.start programs).tasks, ∃ program ∈ programs, ∃ c ∈ program, t = .command c none := by
    intro t inside
    obtain ⟨list, there, member⟩ := List.mem_flatten.mp inside
    obtain ⟨program, written, rfl⟩ := List.mem_map.mp there
    obtain ⟨c, command, rfl⟩ := List.mem_map.mp member
    exact ⟨program, written, c, command, rfl⟩
  have none_ (p : Task → Bool) (never : ∀ c, p (.command c none) = false) :
      (Machine.start programs).tasks.countP p = 0 := by
    rw [List.countP_eq_zero]
    intro t inside
    obtain ⟨-, -, c, -, rfl⟩ := commands t inside
    simp [never]
  constructor
  case sides => exact ⟨rfl, rfl, List.forall_mem_nil _⟩
  case holds =>
    intro t inside
    obtain ⟨program, written, c, command, rfl⟩ := commands t inside
    exact bodyHolds_iff.mp (holding program written) c command
  case quiet =>
    refine fun _ => ⟨fun t inside => ?_, fun _ => rfl⟩
    obtain ⟨-, -, c, -, rfl⟩ := commands t inside
    rfl
  case origin =>
    rintro w (waits | runs)
    · cases waits
    · obtain ⟨-, -, c, -, same⟩ := commands _ runs
      cases same
  case numbers => exact fun n => (if_neg (Nat.not_lt_zero n)).symm
  case keeps =>
    intro n
    rw [none_ _ fun _ => rfl]
    rfl
  case calls =>
    intro n
    rw [none_ _ fun _ => rfl]
    rfl

variable {trace : List Section} {m : Machine} {s : Registry} {before after : List (List Task)} {t : Task}
  {rest : List Task}

theorem registers_le (booked : Booked trace m) (n : Nat) : trace.countP (Section.registers n) ≤ 1 := by
  have fewer : trace.countP (Section.registers n) ≤ trace.countP (Section.numbers n) :=
    List.countP_mono_left fun _ _ => Section.numbers_of_registers
  have once := booked.numbers n
  split at once <;> omega

/-- The account is still right after one more section. -/
theorem more (booked : Booked trace ⟨s, before ++ (t :: rest) :: after⟩) :
    Booked (trace ++ [⟨s, t⟩]) ⟨(s.advance t).1, before ++ ((s.advance t).2 ++ rest) :: after⟩ := by
  have holding := booked.holds t first_mem_tasks
  have does : s.Does t (s.advance t).1 (s.advance t).2 := Registry.does_advance booked.sides holding
  obtain ⟨sides, holds⟩ := does.held booked.sides holding
  have counted := countP_tasks s before after t rest
  constructor
  case sides => exact sides
  case holds =>
    intro u inside
    rcases mem_tasks inside with new | old
    · exact holds u new
    · exact booked.holds u old
  case quiet =>
    intro unasked
    have before_ : s.requested = false := by
      cases asked : s.requested with
      | false => rfl
      | true => exact absurd (does.requested asked) (by simpa using unasked)
    obtain ⟨idle, none_⟩ := booked.quiet before_
    obtain ⟨idle', same⟩ := does.idle unasked (idle t first_mem_tasks)
    refine ⟨fun u inside => ?_, fun n => (same n).trans (none_ n)⟩
    rcases mem_tasks inside with new | old
    · exact idle' u new
    · exact idle u old
  case origin =>
    intro w there
    have first (new : w ∈ (s.advance t).1.waiting ∨ .run w ∈ (s.advance t).2) : Registered (trace ++ [⟨s, t⟩]) w := by
      rcases does.origin new with waited | ⟨callback, registers, number⟩
      · exact (booked.origin w (.inl waited)).append _
      · exact ⟨⟨s, t⟩, List.mem_append_right _ List.mem_cons_self, callback, registers, number⟩
    rcases there with waits | runs
    · exact first (.inl waits)
    · rcases mem_tasks runs with new | old
      · exact first (.inr new)
      · exact (booked.origin w (.inr old)).append _
  case numbers =>
    intro n
    rw [List.countP_append, List.countP_singleton, booked.numbers n]
    exact (does.numbers n).symm
  case keeps =>
    intro n
    have here := booked.keeps n
    have handed := does.keeps n
    have counted := counted (Task.keeps n)
    have same : Section.keeps n ⟨s, t⟩ = t.keeps n := rfl
    rw [List.countP_append, List.countP_append, List.countP_singleton, List.countP_singleton, same]
    omega
  case calls =>
    intro n
    have here := booked.calls n
    have alone : s.waits n ≤ 1 := Nat.le_trans (by simp only at here; omega) (booked.registers_le n)
    have become := does.calls alone
    have counted := counted (Task.calls n)
    rw [List.countP_append, List.countP_append, List.countP_singleton, List.countP_singleton]
    simp only at here ⊢
    omega

end Booked

end Machine

end SheetExport.Cancellation
